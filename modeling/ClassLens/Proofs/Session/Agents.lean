import ClassLens.Proofs.Resolve.Results
import ClassLens.Proofs.Session.Application

/-! # What a moment does to one document

A moment leads to many things, most of which leave a given document alone.

* `Session.Became s m s' id a`: how the agent with number `id` came to be `a`.
* `Session.Runs id run`: the agent carries a run; `Session.Stems s m id run`: how it came to be.
* `Session.Steps s m r`: what a moment does to the resolver.
* `Session.last? uri`: the version of the document that the editor has taken last.

**Main statements.** `Session.became_of_turn`: there are no other ways.  `Session.Turn.resolution?`,
`Session.Turn.last?`: what is kept of a document, and what the editor took last, change only through
the agents of the document. -/

namespace ClassLens

namespace Session

variable {s s' : Session} {m : Moment} {events : List Event} {uri : Uri}

/-! ### Numbers -/

/-- Every agent has a number that was given out. -/
def Numbered (s : Session) : Prop := ∀ id a, s.agents.get? id = some a → id < s.nextAgent

theorem Numbered.put (h : s.Numbered) {id : Nat} (hid : id < s.nextAgent) (r : Resolver) (a : Agent) :
    Numbered { s with resolver := r, agents := s.agents.insert id a } := by
  intro id' a' ha'
  simp only [Table.get?_insert] at ha'
  split at ha'
  · rename_i heq
    exact heq ▸ hid
  · exact h id' a' ha'

theorem Numbered.erase (h : s.Numbered) (r : Resolver) (id : Nat) :
    Numbered { s with resolver := r, agents := s.agents.erase id } := by
  intro id' a' ha'
  simp only [Table.get?_erase] at ha'
  split at ha'
  · cases ha'
  · exact h id' a' ha'

theorem Numbered.spawn (h : s.Numbered) (r : Resolver) (a : Agent) :
    Numbered ({ s with resolver := r }.spawn a).1 := by
  intro id' a' ha'
  simp only [Session.spawn, Table.get?_insert] at ha' ⊢
  split at ha'
  · rename_i heq
    exact heq ▸ Nat.lt_succ_self _
  · exact Nat.lt_succ_of_lt (h id' a' ha')

theorem agents_slotFor {u : Uri} {k : Nat} (h : s.slotFor u = (s', k)) :
    s'.agents = s.agents ∧ s'.nextAgent = s.nextAgent := by
  rcases slotFor_cases s u with ⟨k', -, heq⟩ | ⟨-, heq⟩ <;>
    rw [heq, Prod.mk.injEq] at h <;> rw [← h.1] <;> exact ⟨rfl, rfl⟩

theorem numbered_turn (h : s.Numbered) (hturn : s.Turn m s' events) : s'.Numbered := by
  cases hturn with
  | still => exact h
  | debounceSet => exact h
  | changed => exact h
  | forgotten => exact h
  | scheduled => exact h.spawn _ _
  | called => exact h.spawn _ _
  | dropped => exact h.erase s.resolver _
  | launched task => exact h.put (h _ _ task) _ _
  | went task => exact h.put (h _ _ task) _ _
  | overtaken => exact h.erase _ _
  | @resolved _ id _ t run res s₁ k task phase move place =>
      obtain ⟨hagents, hnext⟩ := agents_slotFor place
      intro id' a' ha'
      simp only [putTask, Session.put, enqueue, hagents, hnext, Table.get?_insert] at ha' ⊢
      split at ha'
      · rename_i heq
        exact heq ▸ h _ _ task
      · exact h id' a' ha'
  | callWent call => exact h.put (h _ _ call) _ _
  | callEnded => exact h.erase _ _
  | applying task => exact h.put (h _ _ task) s.resolver _
  | passedOver => exact h.erase s.resolver _
  | applied => exact h.erase s.resolver _

/-! ### Agents -/

/-- How an agent came to be what it is after a moment. -/
inductive Became (s : Session) (m : Moment) (s' : Session) (id : Nat) : Agent → Prop where
  | stayed {a : Agent} (old : s.agents.get? id = some a) : Became s m s' id a
  | scheduled {t : LensTask} (asked : m.Schedules t.uri t.version) (unstarted : t.Unstarted)
      (resolver : s'.resolver = s.resolver.begin t.uri t.version) : Became s m s' id (.task t)
  | called {q : Request} (asked : m.Calls q) {progress : Progress} (idle : progress.stage = .idle) :
      Became s m s' id (.call ⟨q, progress, .begun⟩)
  | launched {t : LensTask} {text : String} (task : s.agents.get? id = some (.task t))
      (snapshot : m.editor.snapshot? t.uri = some (text, t.version)) {progress : Progress}
      (idle : progress.stage = .idle) :
      Became s m s' id
        (.task { t with phase := .resolving ⟨⟨t.uri, text, t.version⟩, progress, .begun⟩ })
  | went {t : LensTask} {run run' : Run} {expired : Bool}
      (task : s.agents.get? id = some (.task t)) (phase : t.phase = .resolving run)
      (move : (s.resolver.step m.editor run expired).move = .next run')
      (occasion : m.occasion = .resumed id expired) :
      Became s m s' id (.task { t with phase := .resolving run' })
  | resolved {t : LensTask} {run : Run} {expired : Bool} {res : Resolution} (slot : Nat)
      (task : s.agents.get? id = some (.task t)) (phase : t.phase = .resolving run)
      (move : (s.resolver.step m.editor run expired).move = .done (.ready res))
      (resolver : s'.resolver = (s.resolver.step m.editor run expired).resolver) :
      Became s m s' id (.task { t with phase := .waiting slot res })
  | callWent {run run' : Run} {expired : Bool} (call : s.agents.get? id = some (.call run))
      (move : (s.resolver.step m.editor run expired).move = .next run')
      (occasion : m.occasion = .resumed id expired) :
      Became s m s' id (.call run')
  | applying {t : LensTask} {slot : Nat} {res : Resolution}
      (task : s.agents.get? id = some (.task t)) (phase : t.phase = .waiting slot res) :
      Became s m s' id (.task { t with phase := .applying slot res })

theorem became_of_insert {id id' : Nat} {a a' : Agent} (hnew : Became s m s' id a)
    (ha' : (s.agents.insert id a).get? id' = some a') : Became s m s' id' a' := by
  rw [Table.get?_insert] at ha'
  split at ha'
  · rename_i hid
    rw [Option.some.injEq] at ha'
    exact hid ▸ ha' ▸ hnew
  · exact .stayed ha'

theorem became_of_erase {id id' : Nat} {a' : Agent}
    (ha' : (s.agents.erase id).get? id' = some a') : Became s m s' id' a' := by
  rw [Table.get?_erase] at ha'
  split at ha'
  · cases ha'
  · exact .stayed ha'

/-- There are no other ways. -/
theorem became_of_turn (h : s.Turn m s' events) {id : Nat} {a : Agent}
    (ha : s'.agents.get? id = some a) : Became s m s' id a := by
  cases h with
  | still => exact .stayed ha
  | debounceSet => exact .stayed ha
  | changed => exact .stayed ha
  | forgotten => exact .stayed ha
  | scheduled asked delay =>
      refine became_of_insert (.scheduled asked ?_ rfl) ha
      by_cases hd : delay = 0
      · exact .inl (if_pos hd)
      · exact .inr ⟨delay, if_neg hd⟩
  | called asked granted idle => exact became_of_insert (.called asked idle) ha
  | dropped => exact became_of_erase ha
  | launched task unstarted snapshot granted idle =>
      exact became_of_insert (.launched task snapshot idle) ha
  | went task phase move => exact became_of_insert (.went task phase move rfl) ha
  | overtaken => exact became_of_erase ha
  | @resolved _ _ _ t run res s₁ k task phase move place =>
      simp only [putTask, Session.put, enqueue, (agents_slotFor place).1] at ha
      exact became_of_insert (.resolved k task phase move (resolver_slotFor place)) ha
  | callWent call move => exact became_of_insert (.callWent call move rfl) ha
  | callEnded => exact became_of_erase ha
  | applying task phase => exact became_of_insert (.applying task phase) ha
  | passedOver => exact became_of_erase ha
  | applied => exact became_of_erase ha

/-- An agent stays as it is unless it goes on. -/
theorem Turn.agents_of_other (h : s.Turn m s' events) (hn : s.Numbered) {id : Nat} {a : Agent}
    (ha : s.agents.get? id = some a) (hother : ∀ expired, m.occasion ≠ .resumed id expired) :
    s'.agents.get? id = some a := by
  cases h with
  | still => exact ha
  | debounceSet => exact ha
  | changed => exact ha
  | forgotten => exact ha
  | scheduled =>
      refine (Table.get?_insert _ _ _ _).trans ?_
      rw [if_neg (Nat.ne_of_gt (hn id a ha))]
      exact ha
  | called =>
      refine (Table.get?_insert _ _ _ _).trans ?_
      rw [if_neg (Nat.ne_of_gt (hn id a ha))]
      exact ha
  | @resolved _ id' _ t run res s₁ k task phase move place =>
      have hne : ¬ id' = id := by
        rintro rfl
        exact hother _ rfl
      simp only [putTask, Session.put, enqueue, (agents_slotFor place).1, Table.get?_insert, if_neg hne]
      exact ha
  | @launched _ id' | @went _ id' | @callWent _ id' | @applying _ id' =>
      have hne : ¬ id' = id := by
        rintro rfl
        exact hother _ rfl
      exact (Table.get?_insert _ _ _ _).trans ((if_neg hne).trans ha)
  | @dropped _ id' | @overtaken _ id' | @callEnded _ id' | @passedOver _ id' | @applied _ id' =>
      have hne : ¬ id' = id := by
        rintro rfl
        exact hother _ rfl
      exact (Table.get?_erase _ _ _).trans ((if_neg hne).trans ha)

/-- The agent carries a run: a task's, or one that was asked for. -/
def Runs (s : Session) (id : Nat) (run : Run) : Prop :=
  s.agents.get? id = some (.call run) ∨
    ∃ t, s.agents.get? id = some (.task t) ∧ t.phase = .resolving run

/-- How a run came to be what it is after a moment. -/
inductive Stems (s : Session) (m : Moment) (id : Nat) : Run → Prop where
  | stayed {run : Run} (old : s.Runs id run) : Stems s m id run
  | begun {q : Request} {progress : Progress} (idle : progress.stage = .idle)
      (asked : m.Calls q ∨ m.editor.snapshot? q.uri = some (q.text, q.version)) :
      Stems s m id ⟨q, progress, .begun⟩
  | went {run run' : Run} {expired : Bool} (old : s.Runs id run)
      (move : (s.resolver.step m.editor run expired).move = .next run')
      (occasion : m.occasion = .resumed id expired) : Stems s m id run'

/-- There are no other ways. -/
theorem stems_of_turn (h : s.Turn m s' events) {id : Nat} {run : Run} (hrun : s'.Runs id run) :
    s.Stems m id run := by
  rcases hrun with hcall | ⟨t, htask, hphase⟩
  · cases became_of_turn h hcall with
    | stayed old => exact .stayed (.inl old)
    | called asked idle => exact .begun idle (.inl asked)
    | callWent call move occasion => exact .went (.inl call) move occasion
  · cases became_of_turn h htask with
    | stayed old => exact .stayed (.inr ⟨t, old, hphase⟩)
    | scheduled asked unstarted =>
        rcases unstarted with hp | ⟨delay, hp⟩ <;> rw [hp] at hphase <;> cases hphase
    | launched task snapshot idle =>
        cases hphase
        exact .begun idle (.inr snapshot)
    | went task phase move occasion =>
        cases hphase
        exact .went (.inr ⟨_, task, phase⟩) move occasion
    | resolved => cases hphase
    | applying => cases hphase

/-- What a moment does to the resolver. -/
inductive Steps (s : Session) (m : Moment) : Resolver → Prop where
  | still : Steps s m s.resolver
  | begun (uri : Uri) (version : Int) : Steps s m (s.resolver.begin uri version)
  | forgot {uri : Uri} (occasion : m.occasion = .forgotten uri) : Steps s m (s.resolver.forget uri)
  | changed {change : Resolver.Change} (occasion : m.occasion = .changed change) :
      Steps s m (s.resolver.changed change)
  | went {id : Nat} {run : Run} {expired : Bool} (old : s.Runs id run)
      (occasion : m.occasion = .resumed id expired) :
      Steps s m (s.resolver.step m.editor run expired).resolver

theorem steps_of_turn (h : s.Turn m s' events) : s.Steps m s'.resolver := by
  cases h with
  | still => exact .still
  | debounceSet => exact .still
  | changed editor change => exact .changed rfl
  | forgotten editor uri => exact .forgot rfl
  | scheduled => exact .begun _ _
  | called => exact .begun _ _
  | dropped => exact .still
  | launched => exact .begun _ _
  | went task phase => exact .went (.inr ⟨_, task, phase⟩) rfl
  | overtaken task phase => exact .went (.inr ⟨_, task, phase⟩) rfl
  | @resolved editor id expired t run res s₁ k task phase move place =>
      have hr : ((s₁.enqueue k id).putTask id t (.waiting k res)).resolver =
          (s.resolver.step editor run expired).resolver := resolver_slotFor place
      rw [hr]
      exact .went (m := ⟨editor, .resumed id expired⟩) (.inr ⟨t, task, phase⟩) rfl
  | callWent call => exact .went (.inl call) rfl
  | callEnded call => exact .went (.inl call) rfl
  | applying => exact .still
  | passedOver => exact .still
  | applied => exact .still

/-- How long tasks for edits sleep stays unless it is set. -/
theorem Turn.debounce_eq (h : s.Turn m s' events) :
    s'.debounce = s.debounce ∨ m.occasion = .debounceSet s'.debounce := by
  cases h with
  | debounceSet editor ms => exact .inr rfl
  | resolved task phase move place =>
      have hplace := debounce_slotFor place
      exact .inl hplace
  | _ => exact .inl rfl

/-! ### What is kept of a document -/

theorem resolution?_of_run {id : Nat} {expired : Bool} {run : Run} (hrun : s.Runs id run)
    (ho : m.occasion = .resumed id expired)
    (hr : s'.resolver = (s.resolver.step m.editor run expired).resolver) :
    s'.resolver.resolution? uri = s.resolver.resolution? uri ∨
      ∃ id run expired res, s.Runs id run ∧ m.occasion = .resumed id expired ∧
        (s.resolver.step m.editor run expired).move = .done (.ready res) ∧ run.request.uri = uri ∧
        res.version = run.request.version ∧ s.resolver.latest? uri = some res.version ∧
        s'.resolver.resolution? uri = some res ∧
        ∀ kept, s.resolver.resolution? uri = some kept → kept.version ≤ res.version := by
  rw [hr]
  rcases Resolver.resolution?_step s.resolver m.editor run expired uri with h | ⟨res, h⟩
  · exact .inl h
  · exact .inr ⟨id, run, expired, res, hrun, ho, h⟩

/-- While the document is open, what is kept of it changes only when one of its runs ends; then it is
of the latest version. -/
theorem Turn.resolution? (h : s.Turn m s' events) (hopen : ¬ m.Forgets uri) :
    s'.resolver.resolution? uri = s.resolver.resolution? uri ∨
      ∃ id run expired res, s.Runs id run ∧ m.occasion = .resumed id expired ∧
        (s.resolver.step m.editor run expired).move = .done (.ready res) ∧ run.request.uri = uri ∧
        res.version = run.request.version ∧ s.resolver.latest? uri = some res.version ∧
        s'.resolver.resolution? uri = some res ∧
        ∀ kept, s.resolver.resolution? uri = some kept → kept.version ≤ res.version := by
  cases h with
  | still => exact .inl rfl
  | debounceSet => exact .inl rfl
  | changed editor change =>
      exact .inl (Resolver.resolution?_changed fun h => hopen (.inr (h ▸ rfl)))
  | forgotten editor u =>
      have hu : u ≠ uri := fun h => hopen (.inl (h ▸ rfl))
      left
      show (s.resolver.resolutions.erase u).get? uri = s.resolver.resolutions.get? uri
      rw [Table.get?_erase, if_neg hu]
  | scheduled => exact .inl (Resolver.resolution?_begin _ _ _ _)
  | called => exact .inl (Resolver.resolution?_begin _ _ _ _)
  | dropped => exact .inl rfl
  | launched => exact .inl (Resolver.resolution?_begin _ _ _ _)
  | went task phase => exact resolution?_of_run (.inr ⟨_, task, phase⟩) rfl rfl
  | overtaken task phase => exact resolution?_of_run (.inr ⟨_, task, phase⟩) rfl rfl
  | resolved task phase move place =>
      exact resolution?_of_run (.inr ⟨_, task, phase⟩) rfl (resolver_slotFor place)
  | callWent call => exact resolution?_of_run (.inl call) rfl rfl
  | callEnded call => exact resolution?_of_run (.inl call) rfl rfl
  | applying => exact .inl rfl
  | passedOver => exact .inl rfl
  | applied => exact .inl rfl

/-- What is kept of an open document never becomes older. -/
theorem Turn.resolution?_mono (h : s.Turn m s' events) (hopen : ¬ m.Forgets uri) {kept : Resolution}
    (hkept : s.resolver.resolution? uri = some kept) :
    ∃ kept', s'.resolver.resolution? uri = some kept' ∧ kept.version ≤ kept'.version := by
  rcases h.resolution? hopen with heq | ⟨-, -, -, res, -, -, -, -, -, -, heq, hle⟩
  · exact ⟨kept, heq.trans hkept, Int.le_refl _⟩
  · exact ⟨res, heq, hle kept hkept⟩

/-! ### What the editor took last -/

/-- The version that was applied last in a slot. -/
def lastIn? (s : Session) (slot : Nat) : Option Int := (s.slots.get? slot).bind Slot.last

/-- The version of a document that the editor has taken last. -/
def last? (s : Session) (uri : Uri) : Option Int := (s.slotOf.get? uri).bind s.lastIn?

theorem lastIn?_enqueue (s : Session) (k k' id : Nat) :
    (s.enqueue k id).lastIn? k' = s.lastIn? k' := by
  simp only [lastIn?, enqueue, get?_modify]
  split
  · cases s.slots.get? k' <;> rfl
  · rfl

theorem lastIn?_release (s : Session) (k k' : Nat) : (s.release k).lastIn? k' = s.lastIn? k' := by
  simp only [lastIn?, release, get?_modify]
  split
  · cases s.slots.get? k' <;> rfl
  · rfl

/-- A slot that is made for a document leaves what the editor took of it last, which is nothing. -/
theorem last?_slotFor (h : Orderly uri s) {u : Uri} {k : Nat} (heq : s.slotFor u = (s', k)) :
    s'.last? uri = s.last? uri := by
  rcases slotFor_cases s u with ⟨k', -, heq'⟩ | ⟨hnone, heq'⟩
  · rw [heq', Prod.mk.injEq] at heq
    rw [← heq.1]
  · rw [heq', Prod.mk.injEq] at heq
    rw [← heq.1]
    simp only [last?, Table.get?_insert]
    split
    · rename_i hu
      subst hu
      rw [hnone]
      simp [lastIn?]
    · cases hk : s.slotOf.get? uri with
      | none => rfl
      | some k' =>
          have hlt := h.places uri k' hk
          simp only [Option.bind_some, lastIn?, Table.get?_insert]
          rw [if_neg (by omega)]

/-- What the editor took last of an open document changes only when it takes a result of the
document. -/
theorem Turn.last? (h : s.Turn m s' events) (hs : Orderly uri s) (hopen : ¬ m.Forgets uri)
    {last : Int} (hlast : s'.last? uri = some last) :
    s.last? uri = some last ∨
      ∃ id t, s.agents.get? id = some (.task t) ∧ t.uri = uri ∧ t.version = last := by
  cases h with
  | forgotten editor u =>
      have hu : u ≠ uri := fun h => hopen (.inl (h ▸ rfl))
      left
      simp only [Session.last?, forget, Table.get?_erase, if_neg hu] at hlast
      exact hlast
  | @resolved editor id expired t run res s₁ k task phase move place =>
      left
      have hs' : Orderly uri
          { s with resolver := (s.resolver.step editor run expired).resolver } :=
        hs.of_agents rfl rfl rfl fun id t ht => .inl ht
      have heq := last?_slotFor hs' place
      rw [← hlast]
      refine heq.symm.trans ?_
      unfold Session.last?
      congr 1
      funext k'
      exact (lastIn?_enqueue s₁ k k' id).symm
  | @passedOver editor id expired t k =>
      left
      rw [← hlast]
      unfold Session.last?
      congr 1
      funext k'
      exact (lastIn?_release s k k').symm
  | @applied editor id expired t k res task phase =>
      unfold Session.last? at hlast ⊢
      rw [Option.bind_eq_some_iff] at hlast
      obtain ⟨k', hk', hlast⟩ := hlast
      have hrel := lastIn?_release
        { s with slots := s.slots.modify k fun slot => { slot with last := some t.version } } k k'
      have hlast := hrel.symm.trans hlast
      simp only [lastIn?, get?_modify] at hlast
      split at hlast
      · rename_i hkk
        subst hkk
        have hu := (hs.tasks id t k task (by simp [LensTask.slot?, phase])).2.mpr hk'
        refine .inr ⟨id, t, task, hu, ?_⟩
        cases hslot : s.slots.get? k with
        | none =>
            rw [hslot] at hlast
            cases hlast
        | some slot =>
            rw [hslot] at hlast
            exact Option.some.inj hlast
      · left
        rw [Option.bind_eq_some_iff]
        exact ⟨k', hk', hlast⟩
  | _ => exact .inl hlast

end Session

end ClassLens
