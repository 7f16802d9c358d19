import ClassLens.Proofs.Resolve.Traffic

/-! # Courses of a session

A session is driven from outside: by the editor's events, by those who ask for a document, and by
whoever decides which agent goes on next.  A course is a list of such moments, each with the editor as
it is by then.

* `Occasion`, `Moment`: what may happen in a session, and when.
* `Session.act`, `Session.after`, `Session.events`: what a moment and a course of them lead to, and
  what others see of them.
* `Session.Turn s m s' events`: all that a moment can lead to, by cases.
* `Moment.Forgets uri`: the document is closed.

**Main statements.** `Session.turn_act`: there are no other cases.  `Session.latest?_mono`: the latest
version of a document falls only when the document is closed. -/

namespace ClassLens

/-- What may happen in a session. -/
inductive Occasion where
  | told (e : EditorEvent)
  | refreshed (uri : Uri)
  /-- A run is asked for. -/
  | called (q : Request)
  /-- The annotations of a document are asked for. -/
  | lensAsked (uri : Uri)
  /-- An agent goes on. -/
  | resumed (id : Nat) (expired : Bool)
  /-- A document is closed. -/
  | forgotten (uri : Uri)
  | debounceSet (ms : Nat)
  | changed (change : Resolver.Change)

/-- An occasion, with the editor as it is by then. -/
structure Moment where
  editor : Editor
  occasion : Occasion

namespace Moment

/-- The moment makes a task for a version of a document. -/
inductive Schedules : Moment → Uri → Int → Prop where
  | activated {editor : Editor} {uri : Uri} {text : String} {version : Int}
      (active : editor.active = some uri) (snapshot : editor.snapshot? uri = some (text, version)) :
      Schedules ⟨editor, .told (.activated uri)⟩ uri version
  | edited {editor : Editor} {uri : Uri} {version : Int} (active : editor.active = some uri) :
      Schedules ⟨editor, .told (.edited uri version)⟩ uri version
  | refreshed {editor : Editor} {uri : Uri} {text : String} {version : Int}
      (snapshot : editor.snapshot? uri = some (text, version)) :
      Schedules ⟨editor, .refreshed uri⟩ uri version

/-- The moment asks for a run. -/
inductive Calls : Moment → Request → Prop where
  | called (editor : Editor) (q : Request) : Calls ⟨editor, .called q⟩ q
  | lensAsked {editor : Editor} {uri : Uri} {text : String} {version : Int}
      (snapshot : editor.snapshot? uri = some (text, version)) :
      Calls ⟨editor, .lensAsked uri⟩ ⟨uri, text, version⟩

/-- A version of a document may count as asked for at the moment. -/
inductive Asks (m : Moment) (uri : Uri) (version : Int) : Prop where
  | scheduled (asked : m.Schedules uri version)
  | called {q : Request} (asked : m.Calls q) (same : q.uri = uri) (version_eq : q.version = version)
  | recorded (record : m.occasion = .changed (.record uri version))
  | open {text : String} (snapshot : m.editor.snapshot? uri = some (text, version))

/-- The moment closes a document. -/
def Forgets (uri : Uri) (m : Moment) : Prop :=
  m.occasion = .forgotten uri ∨ m.occasion = .changed (.forget uri)

end Moment

/-- The task has not started its run. -/
def LensTask.Unstarted (t : LensTask) : Prop := t.phase = .awake ∨ ∃ delay, t.phase = .asleep delay

namespace Session

/-- What a moment leads to, and what others see of it. -/
def act (s : Session) (m : Moment) : Session × List Event :=
  match m.occasion with
  | .told e => ((s.handle m.editor e).1, [])
  | .refreshed uri => ((s.refresh m.editor uri).1, [])
  | .called q => ((s.call q).1, [])
  | .lensAsked uri =>
    match s.annotations m.editor uri with
    | .inl _ => (s, [])
    | .inr q => ((s.call q).1, [])
  | .resumed id expired => s.step m.editor id expired
  | .forgotten uri => (s.forget uri, [])
  | .debounceSet ms => ({ s with debounce := ms }, [])
  | .changed change => ({ s with resolver := s.resolver.changed change }, [])

/-- What a course leads to. -/
def after (s : Session) (ms : List Moment) : Session := ms.foldl (fun s m => (s.act m).1) s

/-- What others see of a course, in order. -/
def events (s : Session) : List Moment → List Event
  | [] => []
  | m :: ms => (s.act m).2 ++ (s.act m).1.events ms

@[simp] theorem after_nil (s : Session) : s.after [] = s := rfl

@[simp] theorem after_cons (s : Session) (m : Moment) (ms : List Moment) :
    s.after (m :: ms) = (s.act m).1.after ms := rfl

theorem events_cons (s : Session) (m : Moment) (ms : List Moment) :
    s.events (m :: ms) = (s.act m).2 ++ (s.act m).1.events ms := rfl

theorem after_append (s : Session) (ms ms' : List Moment) :
    s.after (ms ++ ms') = (s.after ms).after ms' :=
  List.foldl_append

theorem events_append (s : Session) (ms ms' : List Moment) :
    s.events (ms ++ ms') = s.events ms ++ (s.after ms).events ms' := by
  induction ms generalizing s with
  | nil => rfl
  | cons m ms ih => rw [List.cons_append, events, ih, events, List.append_assoc, after_cons]

/-! ### A moment by its cases -/

/-- All that a moment can lead to. -/
inductive Turn (s : Session) : Moment → Session → List Event → Prop where
  | still (m : Moment) : Turn s m s []
  | debounceSet (editor : Editor) (ms : Nat) :
      Turn s ⟨editor, .debounceSet ms⟩ { s with debounce := ms } []
  | changed (editor : Editor) (change : Resolver.Change) :
      Turn s ⟨editor, .changed change⟩ { s with resolver := s.resolver.changed change } []
  | forgotten (editor : Editor) (uri : Uri) : Turn s ⟨editor, .forgotten uri⟩ (s.forget uri) []
  | scheduled {m : Moment} {uri : Uri} {version : Int} (asked : m.Schedules uri version)
      (delay : Nat) : Turn s m (s.schedule uri version delay).1 []
  | called {m : Moment} {q : Request} (asked : m.Calls q)
      (granted : s.resolver.refusedBy? q.uri q.version = none) {progress : Progress}
      (idle : progress.stage = .idle) :
      Turn s m
        ({ s with resolver := s.resolver.begin q.uri q.version }.spawn
          (.call ⟨q, progress, .begun⟩)).1 []
  /-- A task ends before its run: its version is not the latest, or not the editor's. -/
  | dropped {editor : Editor} {id : Nat} {expired : Bool} {t : LensTask}
      (task : s.agents.get? id = some (.task t)) (unstarted : t.Unstarted)
      (late : s.resolver.latest? t.uri ≠ some t.version ∨
        ∀ text, editor.snapshot? t.uri ≠ some (text, t.version)) :
      Turn s ⟨editor, .resumed id expired⟩ { s with agents := s.agents.erase id } [.ended id none]
  | launched {editor : Editor} {id : Nat} {expired : Bool} {t : LensTask} {text : String}
      (task : s.agents.get? id = some (.task t)) (unstarted : t.Unstarted)
      (snapshot : editor.snapshot? t.uri = some (text, t.version))
      (granted : s.resolver.refusedBy? t.uri t.version = none) {progress : Progress}
      (idle : progress.stage = .idle) :
      Turn s ⟨editor, .resumed id expired⟩
        ({ s with resolver := s.resolver.begin t.uri t.version }.putTask id t
          (.resolving ⟨⟨t.uri, text, t.version⟩, progress, .begun⟩)) []
  | went {editor : Editor} {id : Nat} {expired : Bool} {t : LensTask} {run run' : Run}
      (task : s.agents.get? id = some (.task t)) (phase : t.phase = .resolving run)
      (move : (s.resolver.step editor run expired).move = .next run') :
      Turn s ⟨editor, .resumed id expired⟩
        ({ s with resolver := (s.resolver.step editor run expired).resolver }.putTask id t
          (.resolving run'))
        (eventsOf t.uri (s.resolver.step editor run expired))
  | overtaken {editor : Editor} {id : Nat} {expired : Bool} {t : LensTask} {run : Run}
      {version latest : Int} (task : s.agents.get? id = some (.task t))
      (phase : t.phase = .resolving run)
      (move : (s.resolver.step editor run expired).move = .done (.stale version latest)) :
      Turn s ⟨editor, .resumed id expired⟩
        { s with
          resolver := (s.resolver.step editor run expired).resolver
          agents := s.agents.erase id }
        (eventsOf t.uri (s.resolver.step editor run expired) ++ [.ended id none])
  | resolved {editor : Editor} {id : Nat} {expired : Bool} {t : LensTask} {run : Run}
      {res : Resolution} {s' : Session} {slot : Nat} (task : s.agents.get? id = some (.task t))
      (phase : t.phase = .resolving run)
      (move : (s.resolver.step editor run expired).move = .done (.ready res))
      (place : { s with resolver := (s.resolver.step editor run expired).resolver }.slotFor t.uri =
        (s', slot)) :
      Turn s ⟨editor, .resumed id expired⟩
        ((s'.enqueue slot id).putTask id t (.waiting slot res))
        (eventsOf t.uri (s.resolver.step editor run expired))
  | callWent {editor : Editor} {id : Nat} {expired : Bool} {run run' : Run}
      (call : s.agents.get? id = some (.call run))
      (move : (s.resolver.step editor run expired).move = .next run') :
      Turn s ⟨editor, .resumed id expired⟩
        ({ s with resolver := (s.resolver.step editor run expired).resolver }.put id (.call run'))
        (eventsOf run.request.uri (s.resolver.step editor run expired))
  | callEnded {editor : Editor} {id : Nat} {expired : Bool} {run : Run} {answer : Answer}
      (call : s.agents.get? id = some (.call run))
      (move : (s.resolver.step editor run expired).move = .done answer) :
      Turn s ⟨editor, .resumed id expired⟩
        { s with
          resolver := (s.resolver.step editor run expired).resolver
          agents := s.agents.erase id }
        (eventsOf run.request.uri (s.resolver.step editor run expired) ++ [.answered id answer])
  | applying {editor : Editor} {id : Nat} {expired : Bool} {t : LensTask} {slot : Nat}
      {res : Resolution} (task : s.agents.get? id = some (.task t))
      (phase : t.phase = .waiting slot res) (holds : s.holder? slot = some id)
      (may : s.mayApply t slot = true) :
      Turn s ⟨editor, .resumed id expired⟩ (s.putTask id t (.applying slot res))
        [.applying t.uri t.version]
  | passedOver {editor : Editor} {id : Nat} {expired : Bool} {t : LensTask} {slot : Nat}
      {res : Resolution} (task : s.agents.get? id = some (.task t))
      (phase : t.phase = .waiting slot res) (holds : s.holder? slot = some id)
      (may : s.mayApply t slot = false) :
      Turn s ⟨editor, .resumed id expired⟩
        { s.release slot with agents := s.agents.erase id } [.ended id none]
  | applied {editor : Editor} {id : Nat} {expired : Bool} {t : LensTask} {slot : Nat}
      {res : Resolution} (task : s.agents.get? id = some (.task t))
      (phase : t.phase = .applying slot res) :
      Turn s ⟨editor, .resumed id expired⟩
        { { s with
            slots := s.slots.modify slot fun k => { k with last := some t.version } }.release slot with
          agents := s.agents.erase id }
        [.applied t.uri t.version res.annotations.length, .ended id (some res)]

variable {s : Session}

/-- A document has a slot, or gets the next one. -/
theorem slotFor_cases (s : Session) (uri : Uri) :
    (∃ slot, s.slotOf.get? uri = some slot ∧ s.slotFor uri = (s, slot)) ∨
      s.slotOf.get? uri = none ∧
        s.slotFor uri =
          ({ s with
             slotOf := s.slotOf.insert uri s.nextSlot
             slots := s.slots.insert s.nextSlot {}
             nextSlot := s.nextSlot + 1 }, s.nextSlot) := by
  unfold slotFor
  cases h : s.slotOf.get? uri with
  | some slot => exact .inl ⟨slot, rfl, rfl⟩
  | none => exact .inr ⟨rfl, rfl⟩

theorem debounce_slotFor {uri : Uri} {s' : Session} {slot : Nat} (h : s.slotFor uri = (s', slot)) :
    s'.debounce = s.debounce := by
  rcases slotFor_cases s uri with ⟨k', -, heq⟩ | ⟨-, heq⟩ <;>
    rw [heq, Prod.mk.injEq] at h <;> rw [← h.1]

theorem resolver_slotFor {uri : Uri} {s' : Session} {slot : Nat} (h : s.slotFor uri = (s', slot)) :
    s'.resolver = s.resolver := by
  rcases slotFor_cases s uri with ⟨k, -, heq⟩ | ⟨-, heq⟩ <;>
    rw [heq, Prod.mk.injEq] at h <;> rw [← h.1]

theorem turn_refresh {m : Moment} {uri : Uri}
    (hm : ∀ text version, m.editor.snapshot? uri = some (text, version) → m.Schedules uri version) :
    s.Turn m (s.refresh m.editor uri).1 [] := by
  unfold refresh
  cases hs : m.editor.snapshot? uri with
  | none => exact .still m
  | some snapshot => exact .scheduled (hm _ _ hs) 0

theorem turn_handle (editor : Editor) (e : EditorEvent) :
    s.Turn ⟨editor, .told e⟩ (s.handle editor e).1 [] := by
  unfold handle
  split
  · rename_i hactive
    cases e with
    | activated uri =>
        exact turn_refresh (m := ⟨editor, _⟩) fun _ _ hs => .activated hactive hs
    | edited uri version => exact .scheduled (.edited hactive) s.debounce
  · exact .still _

theorem turn_call {m : Moment} {q : Request} (hm : m.Calls q) : s.Turn m (s.call q).1 [] := by
  unfold call Resolver.start
  cases hr : s.resolver.refusedBy? q.uri q.version with
  | some latest => exact .still m
  | none => exact .called hm hr rfl

theorem turn_launch {editor : Editor} {id : Nat} {expired : Bool} {t : LensTask}
    (htask : s.agents.get? id = some (.task t)) (hu : t.Unstarted) :
    s.Turn ⟨editor, .resumed id expired⟩ (s.launch editor id t).1 (s.launch editor id t).2 := by
  unfold launch Resolver.start
  cases hs : editor.snapshot? t.uri with
  | none => exact .dropped htask hu (.inr fun text h => by rw [hs] at h; cases h)
  | some snapshot =>
      obtain ⟨text, version⟩ := snapshot
      simp only
      split
      · rename_i hv
        subst hv
        cases hr : s.resolver.refusedBy? t.uri t.version with
        | some latest =>
            refine .dropped htask hu (.inl fun h => ?_)
            rw [Resolver.refusedBy?, h, Option.filter_eq_some_iff, Option.some.injEq] at hr
            obtain ⟨rfl, hlt⟩ := hr
            exact Int.lt_irrefl _ (of_decide_eq_true hlt)
        | none => exact .launched htask hu hs hr rfl
      · rename_i hv
        refine .dropped htask hu (.inr fun text' h => ?_)
        rw [hs, Option.some.injEq, Prod.mk.injEq] at h
        exact hv h.2

theorem turn_resume {editor : Editor} {id : Nat} {expired : Bool} {t : LensTask} {run : Run}
    (htask : s.agents.get? id = some (.task t)) (hphase : t.phase = .resolving run) :
    s.Turn ⟨editor, .resumed id expired⟩ (s.resume editor id t run expired).1
      (s.resume editor id t run expired).2 := by
  cases hmove : (s.resolver.step editor run expired).move with
  | next run' =>
      simp only [resume, hmove]
      exact .went htask hphase hmove
  | done answer =>
      cases answer with
      | ready res =>
          simp only [resume, hmove]
          exact .resolved htask hphase hmove rfl
      | stale version latest =>
          simp only [resume, hmove]
          exact .overtaken htask hphase hmove

theorem turn_stepTask {editor : Editor} {id : Nat} {expired : Bool} {t : LensTask}
    (htask : s.agents.get? id = some (.task t)) :
    s.Turn ⟨editor, .resumed id expired⟩ (s.stepTask editor id t expired).1
      (s.stepTask editor id t expired).2 := by
  unfold stepTask
  split
  · rename_i delay hphase
    have hu : t.Unstarted := .inr ⟨delay, hphase⟩
    split
    · exact turn_launch htask hu
    · rename_i hcurrent
      refine .dropped htask hu (.inl fun h => hcurrent ?_)
      rw [Resolver.isCurrent, h, beq_self_eq_true]
  · rename_i hphase
    exact turn_launch htask (.inl hphase)
  · rename_i run hphase
    exact turn_resume htask hphase
  · rename_i slot res hphase
    split
    · rename_i hholds
      unfold applyNext
      cases hmay : s.mayApply t slot with
      | true => exact .applying htask hphase hholds hmay
      | false => exact .passedOver htask hphase hholds hmay
    · exact .still _
  · rename_i slot res hphase
    exact .applied htask hphase

theorem turn_stepCall {editor : Editor} {id : Nat} {expired : Bool} {run : Run}
    (hcall : s.agents.get? id = some (.call run)) :
    s.Turn ⟨editor, .resumed id expired⟩ (s.stepCall editor id run expired).1
      (s.stepCall editor id run expired).2 := by
  cases hmove : (s.resolver.step editor run expired).move with
  | next run' =>
      simp only [stepCall, hmove]
      exact .callWent hcall hmove
  | done answer =>
      simp only [stepCall, hmove]
      exact .callEnded hcall hmove

/-- There are no other cases. -/
theorem turn_act (s : Session) (m : Moment) : s.Turn m (s.act m).1 (s.act m).2 := by
  obtain ⟨editor, occasion⟩ := m
  cases occasion with
  | told e => exact turn_handle editor e
  | refreshed uri => exact turn_refresh (m := ⟨editor, _⟩) fun _ _ hs => .refreshed hs
  | called q => exact turn_call (.called editor q)
  | lensAsked uri =>
      simp only [act, annotations]
      cases hs : editor.snapshot? uri with
      | none => exact .still _
      | some snapshot =>
          obtain ⟨text, version⟩ := snapshot
          have hcalls : Moment.Calls ⟨editor, .lensAsked uri⟩ ⟨uri, text, version⟩ := .lensAsked hs
          simp only
          split
          · exact .still _
          · rename_i q hq
            split at hq
            · split at hq
              · cases hq
              · cases hq
                exact turn_call hcalls
            · cases hq
              exact turn_call hcalls
  | resumed id expired =>
      simp only [act, step]
      cases ha : s.agents.get? id with
      | none => exact .still _
      | some a =>
          cases a with
          | task t => exact turn_stepTask ha
          | call run => exact turn_stepCall ha
  | forgotten uri => exact .forgotten editor uri
  | debounceSet ms => exact .debounceSet editor ms
  | changed change => exact .changed editor change

/-! ### The latest version -/

/-- Asking for a version raises the latest one to it, or changes nothing. -/
theorem latest?_begin_cases (r : Resolver) (u uri : Uri) (version : Int) :
    (r.begin u version).latest? uri = r.latest? uri ∨
      u = uri ∧ (r.begin u version).latest? uri = some version ∧
        ∀ latest, r.latest? uri = some latest → latest ≤ version := by
  by_cases hu : u = uri
  · subst hu
    rw [Resolver.latest?_begin]
    cases hl : r.latest? u with
    | none => exact .inr ⟨rfl, rfl, fun latest h => by cases h⟩
    | some latest =>
        rcases Int.le_total version latest with hle | hle
        · exact .inl (by rw [Option.elim_some, Int.max_eq_right hle])
        · refine .inr ⟨rfl, by rw [Option.elim_some, Int.max_eq_left hle], fun latest' h => ?_⟩
          exact Option.some.inj h ▸ hle
  · exact .inl (Resolver.latest?_begin_of_ne hu)

theorem latest?_changed {r : Resolver} {uri : Uri} {change : Resolver.Change}
    (hf : change ≠ .forget uri) :
    (r.changed change).latest? uri = r.latest? uri ∨
      ∃ version, change = .record uri version ∧
        (r.changed change).latest? uri = some version ∧
        ∀ latest, r.latest? uri = some latest → latest ≤ version := by
  cases change with
  | record u version =>
      rcases latest?_begin_cases r u uri version with h | ⟨rfl, h, hle⟩
      · exact .inl h
      · exact .inr ⟨version, rfl, h, hle⟩
  | forget u =>
      have hu : u ≠ uri := fun h => hf (h ▸ rfl)
      left
      show ((r.latest.erase u).get? uri) = r.latest.get? uri
      rw [Table.get?_erase, if_neg hu]
  | setOptions o =>
      left
      show (r.setOptions o).latest? uri = _
      unfold Resolver.setOptions Resolver.followBindings
      split <;> rfl
  | setExtractor x => exact .inl rfl
  | useCache use => exact .inl rfl

/-- The latest version of a document stays, or rises to one that is asked for, unless the document is
closed. -/
theorem Turn.latest? {m : Moment} {s' : Session} {events : List Event} (h : s.Turn m s' events)
    {uri : Uri} (hopen : ¬ m.Forgets uri) :
    s'.resolver.latest? uri = s.resolver.latest? uri ∨
      ∃ version, m.Asks uri version ∧ s'.resolver.latest? uri = some version ∧
        ∀ latest, s.resolver.latest? uri = some latest → latest ≤ version := by
  cases h with
  | still => exact .inl rfl
  | debounceSet => exact .inl rfl
  | changed editor change =>
      rcases latest?_changed (r := s.resolver) fun h => hopen (.inr (h ▸ rfl)) with h | ⟨v, rfl, h, hle⟩
      · exact .inl h
      · exact .inr ⟨v, .recorded rfl, h, hle⟩
  | forgotten editor u =>
      have hu : u ≠ uri := fun h => hopen (.inl (h ▸ rfl))
      left
      show ((s.resolver.latest.erase u).get? uri) = s.resolver.latest.get? uri
      rw [Table.get?_erase, if_neg hu]
  | @scheduled _ u version asked delay =>
      rcases latest?_begin_cases s.resolver u uri version with h | ⟨rfl, h, hle⟩
      · exact .inl h
      · exact .inr ⟨version, .scheduled asked, h, hle⟩
  | @called _ q asked granted progress =>
      rcases latest?_begin_cases s.resolver q.uri uri q.version with h | ⟨heq, h, hle⟩
      · exact .inl h
      · exact .inr ⟨q.version, .called asked heq rfl, h, hle⟩
  | dropped => exact .inl rfl
  | @launched editor id expired t text task unstarted snapshot granted progress =>
      rcases latest?_begin_cases s.resolver t.uri uri t.version with h | ⟨heq, h, hle⟩
      · exact .inl h
      · exact .inr ⟨t.version, .open (heq ▸ snapshot), h, hle⟩
  | went => exact .inl (Resolver.latest?_step _ _ _ _ _)
  | overtaken => exact .inl (Resolver.latest?_step _ _ _ _ _)
  | @resolved editor id expired t run res s₁ slot task phase move place =>
      left
      have hr := resolver_slotFor place
      show s₁.resolver.latest? uri = _
      rw [hr]
      exact Resolver.latest?_step _ _ _ _ _
  | callWent => exact .inl (Resolver.latest?_step _ _ _ _ _)
  | callEnded => exact .inl (Resolver.latest?_step _ _ _ _ _)
  | applying => exact .inl rfl
  | passedOver => exact .inl rfl
  | applied => exact .inl rfl

/-- The latest version of a document never falls while the document is open. -/
theorem Turn.latest?_mono {m : Moment} {s' : Session} {events : List Event} (h : s.Turn m s' events)
    {uri : Uri} (hopen : ¬ m.Forgets uri) {latest : Int}
    (hl : s.resolver.latest? uri = some latest) :
    ∃ latest', s'.resolver.latest? uri = some latest' ∧ latest ≤ latest' := by
  rcases h.latest? hopen with heq | ⟨version, -, heq, hle⟩
  · exact ⟨latest, heq.trans hl, Int.le_refl _⟩
  · exact ⟨version, heq, hle latest hl⟩

end Session

/-! ### A sample -/

namespace Sample

/-- An agent goes on while the editor has the given version. -/
def go (version : Int) (id : Nat) : Moment := ⟨editor version, .resumed id false⟩

/-- The editor tells that it works on the document; the task for it comes as far as its result. -/
def opened : List Moment :=
  ⟨editor 1, .told (.activated uri)⟩ :: List.replicate 6 (go 1 1)

/-- The document is edited while the editor takes the result; another task comes as far. -/
def edited : List Moment :=
  [⟨editor 2, .told (.edited uri 2)⟩, go 2 2, go 2 2, go 2 2, go 2 2, go 2 1, go 2 2]

/-- An editor that works on a document without an import. -/
def bare : Editor :=
  { editor 1 with snapshot? := fun u => if u = uri then some ("styles.a", 1) else none }

/-- The editor tells that it works on that document; the task for it comes to its end. -/
def unbound : List Moment :=
  ⟨bare, .told (.activated uri)⟩ :: List.replicate 5 ⟨bare, .resumed 1 false⟩

end Sample

end ClassLens
