import Mathlib
import ClassLens.Proofs.Session.Agents

/-! # No edit is lost

Many things may stop a task: a later version, another version in the editor, a line before the slot.
None of them stops the task for the version that the editor ends up with.

* `Moment.Attends uri text version m`: what the editor and others say of the document at a moment, seen
  from a time at which the document reads `text` in the given `version`.
* `Session.Abreast`: the invariant: nothing in the session is ahead of that version, and what is of
  that version is of that text.
* `Session.Pending`, `Session.Settled`: a task for the version is under way; or its result is kept and
  was handed to the editor last.

**Main statements.** `Session.abreast_turn`: every moment keeps the invariant.
`Session.pending_turn`, `Session.settled_turn`: a pending task stays so or settles its version.
`Session.settled_of_told`: once the editor has told of its version and no task is left, all is of this
version. -/

namespace ClassLens

open Usage

variable {P : Resolver → Prop} {uri : Uri} {text : String} {version : Int}

/-! ### What is said at a moment -/

/-- A request of a version so far, with the right text if it is of the current one. -/
structure Request.Serves (text : String) (version : Int) (q : Request) : Prop where
  le : q.version ≤ version
  text_eq : q.version = version → q.text = text

/-- The document is open, in a version so far; nobody asks for a version to come. -/
structure Moment.Attends (uri : Uri) (text : String) (version : Int) (m : Moment) : Prop where
  snapshot : ∃ t v, m.editor.snapshot? uri = some (t, v) ∧ Request.Serves text version ⟨uri, t, v⟩
  kept : ¬ m.Forgets uri
  told : ∀ v, m.occasion = .told (.edited uri v) → v ≤ version
  recorded : ∀ v, m.occasion = .changed (.record uri v) → v ≤ version
  called : ∀ q, m.occasion = .called q → q.uri = uri → q.Serves text version

namespace Moment

variable {m : Moment}

theorem Attends.serves (h : m.Attends uri text version) {t : String} {v : Int}
    (hs : m.editor.snapshot? uri = some (t, v)) : Request.Serves text version ⟨uri, t, v⟩ := by
  obtain ⟨t', v', hs', hserves⟩ := h.snapshot
  rw [hs, Option.some.injEq, Prod.mk.injEq] at hs'
  obtain ⟨rfl, rfl⟩ := hs'
  exact hserves

theorem Attends.le_of_schedules (h : m.Attends uri text version) {v : Int}
    (hm : m.Schedules uri v) : v ≤ version := by
  cases hm with
  | activated active snapshot => exact (h.serves snapshot).le
  | edited active => exact h.told v rfl
  | refreshed snapshot => exact (h.serves snapshot).le

theorem Attends.serves_of_calls (h : m.Attends uri text version) {q : Request} (hm : m.Calls q)
    (hq : q.uri = uri) : q.Serves text version := by
  cases hm with
  | called editor q => exact h.called q rfl hq
  | lensAsked snapshot =>
      subst hq
      obtain ⟨hle, htext⟩ := h.serves snapshot
      exact ⟨hle, htext⟩

theorem Attends.le_of_asks (h : m.Attends uri text version) {v : Int} (hm : m.Asks uri v) :
    v ≤ version := by
  cases hm with
  | scheduled asked => exact h.le_of_schedules asked
  | called asked same version_eq => exact version_eq ▸ (h.serves_of_calls asked same).le
  | recorded record => exact h.recorded v record
  | «open» snapshot => exact (h.serves snapshot).le

end Moment

/-! ### Courses in which every edit is told of -/

/-- A document that is open stays as it is, or it is edited and gets a greater version. -/
def Edited (a b : Option (String × Int)) : Prop :=
  ∃ t v t' v', a = some (t, v) ∧ b = some (t', v') ∧ (v < v' ∨ t = t' ∧ v = v')

theorem Edited.trans {a b c : Option (String × Int)} (h : Edited a b) (h' : Edited b c) :
    Edited a c := by
  obtain ⟨t, v, t₁, v₁, rfl, rfl, h⟩ := h
  obtain ⟨t₂, v₂, t₃, v₃, heq, rfl, h'⟩ := h'
  rw [Option.some.injEq, Prod.mk.injEq] at heq
  obtain ⟨rfl, rfl⟩ := heq
  refine ⟨t, v, t₃, v₃, rfl, rfl, ?_⟩
  rcases h with h | ⟨rfl, rfl⟩
  · rcases h' with h' | ⟨rfl, rfl⟩
    · exact .inl (Int.lt_trans h h')
    · exact .inl h
  · exact h'

instance : Trans Edited Edited Edited := ⟨Edited.trans⟩

/-- A document that is in its last version already is not edited any more. -/
theorem Edited.eq_of_last {a : Option (String × Int)} (h : Edited (some (text, version)) a)
    (h' : Edited a (some (text, version))) : a = some (text, version) := by
  obtain ⟨t, v, t₁, v₁, heq, rfl, h⟩ := h
  obtain ⟨t₂, v₂, t₃, v₃, heq', heq'', h'⟩ := h'
  simp only [Option.some.injEq, Prod.mk.injEq] at heq heq' heq''
  obtain ⟨rfl, rfl⟩ := heq
  obtain ⟨rfl, rfl⟩ := heq'
  obtain ⟨rfl, rfl⟩ := heq''
  rcases h with h | ⟨rfl, rfl⟩
  · rcases h' with h' | ⟨rfl, rfl⟩
    · exact absurd (Int.lt_trans h h') (Int.lt_irrefl _)
    · rfl
  · rfl

/-- The document stays open until it reads `text` in the given `version`, and while the editor works on
it, it tells of this version.  Nobody asks for a version that is still to come. -/
structure Told (uri : Uri) (text : String) (version : Int) (ms : List Moment) : Prop where
  edits : (ms.map (fun m => m.editor.snapshot? uri) ++ [some (text, version)]).IsChain Edited
  kept : ∀ m ∈ ms, ¬ m.Forgets uri
  past : ∀ m ∈ ms, ∀ v,
    m.occasion = .told (.edited uri v) ∨ m.occasion = .changed (.record uri v) →
      ∃ t v', m.editor.snapshot? uri = some (t, v') ∧ v ≤ v'
  present : ∀ m ∈ ms, ∀ q, m.occasion = .called q → q.uri = uri →
    m.editor.snapshot? uri = some (q.text, q.version)
  told : ∃ m ∈ ms, m.editor.active = some uri ∧
    m.editor.snapshot? uri = some (text, version) ∧
    (m.occasion = .told (.activated uri) ∨ m.occasion = .told (.edited uri version))

theorem serves_of_edited {t : String} {v : Int}
    (h : Edited (some (t, v)) (some (text, version))) :
    Request.Serves text version ⟨uri, t, v⟩ := by
  obtain ⟨t₁, v₁, t₂, v₂, heq, heq', h⟩ := h
  simp only [Option.some.injEq, Prod.mk.injEq] at heq heq'
  obtain ⟨rfl, rfl⟩ := heq
  obtain ⟨rfl, rfl⟩ := heq'
  rcases h with h | ⟨rfl, rfl⟩
  · exact ⟨Int.le_of_lt h, fun heq => absurd heq (Int.ne_of_lt h)⟩
  · exact ⟨Int.le_refl _, fun _ => rfl⟩

/-- The document is not edited any more once it is in its last version. -/
theorem Told.snapshot_of_later {ms₁ ms₂ : List Moment} {m : Moment}
    (h : Told uri text version (ms₁ ++ m :: ms₂))
    (hsnapshot : m.editor.snapshot? uri = some (text, version)) {m' : Moment} (hm' : m' ∈ ms₂) :
    m'.editor.snapshot? uri = some (text, version) := by
  have hp := h.edits.pairwise
  rw [List.map_append, List.map_cons, List.append_assoc, List.cons_append] at hp
  have hp₂ := List.pairwise_cons.mp (List.pairwise_append.mp hp).2.1
  have hafter := hp₂.1 _ (List.mem_append_left _ (List.mem_map_of_mem hm'))
  have hbefore := (List.pairwise_append.mp hp₂.2).2.2 _ (List.mem_map_of_mem hm') _
    (List.mem_singleton_self _)
  rw [hsnapshot] at hafter
  exact hafter.eq_of_last hbefore

/-- At every moment the document is in a version so far, and nobody is ahead of it. -/
theorem Told.attends {ms : List Moment} (h : Told uri text version ms) {m : Moment} (hm : m ∈ ms) :
    m.Attends uri text version := by
  have hedits := (List.pairwise_append.mp h.edits.pairwise).2.2 _
    (List.mem_map_of_mem hm) _ (List.mem_singleton_self _)
  have hsnapshot : ∀ t v, m.editor.snapshot? uri = some (t, v) →
      Request.Serves text version ⟨uri, t, v⟩ := fun t v hs =>
    serves_of_edited (hs ▸ hedits)
  have hpast : ∀ v, m.occasion = .told (.edited uri v) ∨ m.occasion = .changed (.record uri v) →
      v ≤ version := by
    intro v ho
    obtain ⟨t, v', hs, hle⟩ := h.past m hm v ho
    exact Int.le_trans hle (hsnapshot t v' hs).le
  refine ⟨?_, h.kept m hm, fun v ho => hpast v (.inl ho), fun v ho => hpast v (.inr ho), ?_⟩
  · obtain ⟨t, v, -, -, hs, -⟩ := hedits
    exact ⟨t, v, hs, hsnapshot t v hs⟩
  · intro q ho hq
    obtain ⟨hle, htext⟩ := hsnapshot _ _ (h.present m hm q ho hq)
    exact ⟨hle, htext⟩

/-! ### The invariant -/

/-- The resolution is of a version so far. It has no annotations if it has a failure; if it has none and
is of the current version, it annotates the usages of the text. -/
structure Resolution.Shows (P : Resolver → Prop) (text : String) (version : Int)
    (res : Resolution) : Prop where
  le : res.version ≤ version
  annotations : res.failure ≠ none → res.annotations = []
  scanned : res.version = version → res.failure = none →
    Scanned P text version (res.annotations.map Annotation.usage)

namespace Session

variable {s s' : Session} {m : Moment} {events : List Event}

/-- The task is not ahead of what was asked for; its run is its own; and if it has a result, one of its
version or a later one is kept. -/
structure Advances (s : Session) (t : LensTask) : Prop where
  asked : ∃ latest, s.resolver.latest? t.uri = some latest ∧ t.version ≤ latest
  run : ∀ run, t.phase = .resolving run →
    run.request.uri = t.uri ∧ run.request.version = t.version
  result : ∀ slot, t.slot? = some slot →
    ∃ kept, s.resolver.resolution? t.uri = some kept ∧ t.version ≤ kept.version

/-- Nothing in the session is ahead of the version, and what is of the version is of the text. -/
structure Abreast (P : Resolver → Prop) (uri : Uri) (text : String) (version : Int)
    (s : Session) : Prop where
  latest : ∀ latest, s.resolver.latest? uri = some latest → latest ≤ version
  kept : ∀ res, s.resolver.resolution? uri = some res → res.Shows P text version
  runs : ∀ id run, s.Runs id run → run.request.uri = uri →
    run.request.Serves text version ∧ run.Scanned P
  tasks : ∀ id t, s.agents.get? id = some (.task t) → t.uri = uri → s.Advances t
  last : ∀ last, s.last? uri = some last →
    ∃ latest, s.resolver.latest? uri = some latest ∧ last ≤ latest

theorem abreast_ofResolver {r : Resolver} (hl : r.latest? uri = none)
    (hr : r.resolution? uri = none) : Abreast P uri text version (ofResolver r) where
  latest := fun l h => by
    rw [ofResolver, hl] at h
    cases h
  kept := fun res h => by
    rw [ofResolver, hr] at h
    cases h
  runs := fun id run h => by simp [Runs, ofResolver] at h
  tasks := fun id t h => by simp [ofResolver] at h
  last := fun l h => by simp [last?, ofResolver] at h

theorem Advances.mono {t : LensTask} (h : s.Advances t) (hturn : s.Turn m s' events)
    (hopen : ¬ m.Forgets t.uri) : s'.Advances t where
  asked := by
    obtain ⟨latest, hl, hle⟩ := h.asked
    obtain ⟨latest', hl', hle'⟩ := hturn.latest?_mono hopen hl
    exact ⟨latest', hl', Int.le_trans hle hle'⟩
  run := h.run
  result := fun slot hslot => by
    obtain ⟨kept, hk, hle⟩ := h.result slot hslot
    obtain ⟨kept', hk', hle'⟩ := hturn.resolution?_mono hopen hk
    exact ⟨kept', hk', Int.le_trans hle hle'⟩

/-- What is kept after a moment is still of the text. -/
theorem Abreast.shows (h : Abreast P uri text version s) (hP : P s.resolver)
    (hturn : s.Turn m s' events) (hm : m.Attends uri text version) {res : Resolution}
    (hres : s'.resolver.resolution? uri = some res) : res.Shows P text version := by
  rcases hturn.resolution? hm.kept with heq | ⟨id, run, expired, res', hrun, -, hmove, hu, hv, -, heq, -⟩
  · exact h.kept res (heq.symm.trans hres)
  · rw [heq, Option.some.injEq] at hres
    subst hres
    obtain ⟨⟨hle, htext⟩, hscanned⟩ := h.runs id run hrun hu
    refine ⟨hv ▸ hle, Resolver.annotations_of_failure hmove, fun hcur hok => ?_⟩
    have hs := Resolver.scanned_of_ready hP hscanned hmove hok
    rw [hv] at hcur
    rw [htext hcur, hcur] at hs
    exact hs

/-- A run that begins or goes on at a moment is still for the text. -/
theorem Abreast.runs_turn (h : Abreast P uri text version s) (hP : P s.resolver)
    (hturn : s.Turn m s' events) (hm : m.Attends uri text version) {id : Nat} {run : Run}
    (hrun : s'.Runs id run) (hu : run.request.uri = uri) :
    run.request.Serves text version ∧ run.Scanned P := by
  cases stems_of_turn hturn hrun with
  | stayed old => exact h.runs id run old hu
  | @begun q progress idle asked =>
      rcases asked with asked | snapshot
      · exact ⟨hm.serves_of_calls asked hu, trivial⟩
      · obtain ⟨hle, htext⟩ := hm.serves (hu ▸ snapshot)
        exact ⟨⟨hle, htext⟩, trivial⟩
  | @went run₀ _ expired old move =>
      have hreq := (Resolver.comes_step _ _ _ _).request_of_next move
      obtain ⟨hserves, hscanned⟩ := h.runs id run₀ old (hreq ▸ hu)
      exact ⟨hreq ▸ hserves, Resolver.scanned_of_next hP hscanned move⟩

/-- A task of the document that was made or went on at a moment still is as it should be. -/
theorem Abreast.tasks_turn (h : Abreast P uri text version s) (hturn : s.Turn m s' events)
    (hm : m.Attends uri text version) {id : Nat} {t : LensTask}
    (htask : s'.agents.get? id = some (.task t)) (hu : t.uri = uri) : s'.Advances t := by
  subst hu
  cases became_of_turn hturn htask with
  | stayed old => exact (h.tasks id t old rfl).mono hturn hm.kept
  | scheduled asked unstarted resolver =>
      have hnone : t.slot? = none := by
        rcases unstarted with hp | ⟨delay, hp⟩ <;> simp [LensTask.slot?, hp]
      refine ⟨?_, fun run hphase => ?_, fun slot hslot => ?_⟩
      · rw [resolver, Resolver.latest?_begin]
        refine ⟨_, rfl, ?_⟩
        cases s.resolver.latest? t.uri with
        | none => exact Int.le_refl _
        | some latest => exact Int.le_max_left _ _
      · rcases unstarted with hp | ⟨delay, hp⟩ <;> rw [hp] at hphase <;> cases hphase
      · rw [hnone] at hslot
        cases hslot
  | @launched t₀ text₀ task snapshot progress =>
      obtain ⟨hasked, -, -⟩ := (h.tasks id t₀ task rfl).mono hturn hm.kept
      refine ⟨hasked, fun run hphase => ?_, fun slot hslot => by cases hslot⟩
      cases hphase
      exact ⟨rfl, rfl⟩
  | @went t₀ run₀ run' expired task phase move =>
      obtain ⟨hasked, hrun, -⟩ := (h.tasks id t₀ task rfl).mono hturn hm.kept
      refine ⟨hasked, fun run hphase => ?_, fun slot hslot => by cases hslot⟩
      cases hphase
      rw [(Resolver.comes_step _ _ _ _).request_of_next move]
      exact hrun run₀ phase
  | @resolved t₀ run₀ expired res slot task phase move resolver =>
      obtain ⟨hasked, hrun, -⟩ := (h.tasks id t₀ task rfl).mono hturn hm.kept
      obtain ⟨hu, hv⟩ := hrun run₀ phase
      refine ⟨hasked, fun run hphase => (by cases hphase), fun _ _ => ?_⟩
      rw [resolver]
      have hkept := Resolver.le_version_of_ready move
      rw [hu, hv] at hkept
      exact hkept
  | @applying t₀ slot res task phase =>
      obtain ⟨hasked, -, hresult⟩ := (h.tasks id t₀ task rfl).mono hturn hm.kept
      exact ⟨hasked, fun run hphase => (by cases hphase),
        fun _ _ => hresult slot (by simp [LensTask.slot?, phase])⟩

/-- Every moment keeps the invariant. -/
theorem abreast_turn (h : Abreast P uri text version s) (hs : Orderly uri s) (hP : P s.resolver)
    (hturn : s.Turn m s' events) (hm : m.Attends uri text version) :
    Abreast P uri text version s' where
  latest := fun latest hl => by
    rcases hturn.latest? hm.kept with heq | ⟨v, hasks, heq, -⟩
    · exact h.latest latest (heq.symm.trans hl)
    · rw [heq, Option.some.injEq] at hl
      exact hl ▸ hm.le_of_asks hasks
  kept := fun res hres => h.shows hP hturn hm hres
  runs := fun id run hrun hu => h.runs_turn hP hturn hm hrun hu
  tasks := fun id t htask hu => h.tasks_turn hturn hm htask hu
  last := fun last hlast => by
    have hold : ∃ latest, s.resolver.latest? uri = some latest ∧ last ≤ latest := by
      rcases hturn.last? hs hm.kept hlast with hold | ⟨id, t, htask, hu, rfl⟩
      · exact h.last last hold
      · exact hu ▸ (h.tasks id t htask hu).asked
    obtain ⟨latest, hl, hle⟩ := hold
    obtain ⟨latest', hl', hle'⟩ := hturn.latest?_mono hm.kept hl
    exact ⟨latest', hl', Int.le_trans hle hle'⟩

theorem abreast_after {ms : List Moment} (h : Abreast P uri text version s) (hs : Orderly uri s)
    (hP : ∀ ms₀, ms₀ <+: ms → P (s.after ms₀).resolver)
    (hms : ∀ m ∈ ms, m.Attends uri text version) : Abreast P uri text version (s.after ms) := by
  induction ms generalizing s with
  | nil => exact h
  | cons m ms ih =>
      have hm := hms m List.mem_cons_self
      have hturn := turn_act s m
      refine ih (abreast_turn h hs (hP [] (List.nil_prefix)) hturn hm) (orderly_turn hs hturn hm.kept)
        (fun ms₀ hms₀ => ?_) fun m' hm' => hms m' (List.mem_cons_of_mem m hm')
      exact hP (m :: ms₀) (List.cons_prefix_cons.mpr ⟨rfl, hms₀⟩)

theorem numbered_ofResolver (r : Resolver) : (ofResolver r).Numbered := fun id a ha => by
  simp [ofResolver] at ha

theorem numbered_after (hn : s.Numbered) (ms : List Moment) : (s.after ms).Numbered := by
  induction ms generalizing s with
  | nil => exact hn
  | cons m ms ih => exact ih (numbered_turn hn (turn_act s m))

/-! ### Nothing is lost -/

/-- A task for the version is under way, and its result was not handed over yet. -/
def Pending (uri : Uri) (version : Int) (s : Session) : Prop :=
  ∃ id t, s.agents.get? id = some (.task t) ∧ t.uri = uri ∧ t.version = version ∧ ¬ t.Applies

/-- What is kept of the document is of the version. -/
def Keeps (uri : Uri) (version : Int) (s : Session) : Prop :=
  ∃ kept, s.resolver.resolution? uri = some kept ∧ kept.version = version

theorem pending_of_insert {id : Nat} {t : LensTask} (hu : t.uri = uri) (hv : t.version = version)
    {phase : TaskPhase} (hphase : ∀ slot res, phase ≠ .applying slot res)
    (hs' : s'.agents = s.agents.insert id (.task { t with phase })) : Pending uri version s' :=
  ⟨id, { t with phase }, by rw [hs', Table.get?_insert, if_pos rfl], hu, hv,
    fun ⟨slot, res, h⟩ => hphase slot res h⟩

/-- The latest version may be applied, for none newer was. -/
theorem mayApply_of_latest (h : Abreast P uri text version s) (hs : Orderly uri s)
    (hl : s.resolver.latest? uri = some version) {id : Nat} {t : LensTask} {slot : Nat}
    (htask : s.agents.get? id = some (.task t)) (hu : t.uri = uri) (hv : t.version = version)
    (hslot : t.slot? = some slot) : s.mayApply t slot = true := by
  have hplace := (hs.tasks id t slot htask hslot).2.mp hu
  rw [mayApply, Bool.and_eq_true, Resolver.isCurrent, beq_iff_eq, Option.all_eq_true]
  refine ⟨by rw [hu, hl, hv], fun last hlast => ?_⟩
  have hlast' : s.last? uri = some last := by
    rw [last?, hplace]
    exact hlast
  obtain ⟨latest, hl', hle⟩ := h.last last hlast'
  rw [hl, Option.some.injEq] at hl'
  rw [decide_eq_true_eq, hv, hl']
  exact hle

/-- The task for the latest version goes on until its result is handed over. -/
theorem pending_of_resumed (h : Abreast P uri text version s) (hs : Orderly uri s)
    (hl : s.resolver.latest? uri = some version) {id : Nat} {t : LensTask}
    (htask : s.agents.get? id = some (.task t)) (hu : t.uri = uri) (hv : t.version = version)
    (ht : ¬ t.Applies) {editor : Editor} {expired : Bool}
    (hturn : s.Turn ⟨editor, .resumed id expired⟩ s' events)
    (hsnapshot : editor.snapshot? uri = some (text, version)) :
    Pending uri version s' ∨ handed uri events = [version] ∧ Keeps uri version s' := by
  have hsame : ∀ {t' : LensTask}, s.agents.get? id = some (.task t') → t = t' := by
    intro t' ht'
    rw [htask, Option.some.injEq, Agent.task.injEq] at ht'
    exact ht'
  cases hturn with
  | still => exact .inl ⟨id, t, htask, hu, hv, ht⟩
  | scheduled asked => cases asked
  | called asked => cases asked
  | dropped task unstarted late =>
      obtain rfl := hsame task
      rcases late with hlate | hlate
      · exact absurd (by rw [hu, hl, hv]) hlate
      · exact absurd (by rw [hu, hsnapshot, hv]) (hlate text)
  | launched task =>
      obtain rfl := hsame task
      exact .inl (pending_of_insert (s := s) hu hv (by simp) rfl)
  | went task =>
      obtain rfl := hsame task
      exact .inl (pending_of_insert (s := s) hu hv (by simp) rfl)
  | @overtaken _ _ _ _ run v latest task phase move =>
      obtain rfl := hsame task
      obtain ⟨hru, hrv⟩ := (h.tasks id t htask hu).run run phase
      rcases (Resolver.comes_step s.resolver editor run expired).answer_cases move with
        ⟨-, res, hready⟩ | ⟨hlate, -⟩
      · cases hready
      · exact absurd (by rw [hru, hu, hl, hrv, hv]) hlate
  | @resolved _ _ _ _ run res s₁ slot task phase move place =>
      obtain rfl := hsame task
      have hagents : ((s₁.enqueue slot id).putTask id t (.waiting slot res)).agents =
          s.agents.insert id (.task { t with phase := .waiting slot res }) := by
        simp only [putTask, Session.put, enqueue, (agents_slotFor place).1]
      exact .inl (pending_of_insert hu hv (by simp) hagents)
  | callWent call =>
      rw [htask] at call
      cases call
  | callEnded call =>
      rw [htask] at call
      cases call
  | @applying _ _ _ _ slot res task phase holds may =>
      obtain rfl := hsame task
      right
      refine ⟨by simp [handed, handed?, hu, hv], ?_⟩
      obtain ⟨kept, hkept, hle⟩ := (h.tasks id t htask hu).result slot (by simp [LensTask.slot?, phase])
      rw [hu] at hkept
      exact ⟨kept, hkept, Int.le_antisymm (h.kept kept hkept).le (hv ▸ hle)⟩
  | @passedOver _ _ _ _ slot res task phase holds may =>
      obtain rfl := hsame task
      rw [mayApply_of_latest h hs hl htask hu hv (by simp [LensTask.slot?, phase])] at may
      cases may
  | @applied _ _ _ _ slot res task phase =>
      obtain rfl := hsame task
      exact absurd ⟨slot, res, phase⟩ ht

theorem pending_turn (h : Abreast P uri text version s) (hs : Orderly uri s) (hn : s.Numbered)
    (hl : s.resolver.latest? uri = some version) (hp : Pending uri version s)
    (hturn : s.Turn m s' events) (hsnapshot : m.editor.snapshot? uri = some (text, version)) :
    Pending uri version s' ∨ handed uri events = [version] ∧ Keeps uri version s' := by
  obtain ⟨id, t, htask, hu, hv, ht⟩ := hp
  by_cases hown : ∃ expired, m.occasion = .resumed id expired
  · obtain ⟨expired, ho⟩ := hown
    obtain ⟨editor, occasion⟩ := m
    subst ho
    exact pending_of_resumed h hs hl htask hu hv ht hturn hsnapshot
  · have hother := hturn.agents_of_other hn htask fun expired ho => hown ⟨expired, ho⟩
    exact .inl ⟨id, t, hother, hu, hv, ht⟩

/-- What is kept in the current version stays in this version. -/
theorem keeps_turn (h' : Abreast P uri text version s') (hkeeps : Keeps uri version s)
    (hturn : s.Turn m s' events) (hm : m.Attends uri text version) : Keeps uri version s' := by
  obtain ⟨kept, hkept, rfl⟩ := hkeeps
  obtain ⟨kept', hkept', hle⟩ := hturn.resolution?_mono hm.kept hkept
  exact ⟨kept', hkept', Int.le_antisymm (h'.kept kept' hkept').le hle⟩

theorem latest?_turn (h' : Abreast P uri text version s')
    (hl : s.resolver.latest? uri = some version) (hturn : s.Turn m s' events)
    (hm : m.Attends uri text version) : s'.resolver.latest? uri = some version := by
  obtain ⟨latest, hl', hle⟩ := hturn.latest?_mono hm.kept hl
  rw [hl', Option.some.injEq]
  exact Int.le_antisymm (h'.latest latest hl') hle

/-- The version is settled: it is kept, and it was handed over last. -/
def Settled (uri : Uri) (version : Int) (s : Session) (events : List Event) : Prop :=
  Keeps uri version s ∧ (handed uri events).getLast? = some version

theorem settled_turn (h' : Abreast P uri text version s')
    (hl : s.resolver.latest? uri = some version) {before : List Event}
    (hsettled : Settled uri version s before) (hturn : s.Turn m s' events)
    (hm : m.Attends uri text version) : Settled uri version s' (before ++ events) := by
  refine ⟨keeps_turn h' hsettled.1 hturn hm, ?_⟩
  rw [handed_append]
  rcases handed_turn hturn uri with hnone | ⟨v, hsome, hl', -⟩
  · rw [hnone, List.append_nil]
    exact hsettled.2
  · rw [hl, Option.some.injEq] at hl'
    rw [hsome, List.getLast?_concat, hl']

/-- Once a task for the last version of the document was made, this version stays pending or settled. -/
theorem pending_or_settled_after {ms : List Moment} (h : Abreast P uri text version s)
    (hs : Orderly uri s) (hn : s.Numbered) (hP : ∀ ms₀, ms₀ <+: ms → P (s.after ms₀).resolver)
    (hl : s.resolver.latest? uri = some version) {before : List Event}
    (hp : Pending uri version s ∨ Settled uri version s before)
    (hms : ∀ m ∈ ms, m.Attends uri text version ∧
      m.editor.snapshot? uri = some (text, version)) :
    (s.after ms).resolver.latest? uri = some version ∧
      (Pending uri version (s.after ms) ∨
        Settled uri version (s.after ms) (before ++ s.events ms)) := by
  induction ms generalizing s before with
  | nil =>
      rw [events, List.append_nil]
      exact ⟨hl, hp⟩
  | cons m ms ih =>
      obtain ⟨hm, hsnapshot⟩ := hms m List.mem_cons_self
      have hturn := turn_act s m
      have h' := abreast_turn h hs (hP [] List.nil_prefix) hturn hm
      have hp' : Pending uri version (s.act m).1 ∨
          Settled uri version (s.act m).1 (before ++ (s.act m).2) := by
        rcases hp with hp | hsettled
        · rcases pending_turn h hs hn hl hp hturn hsnapshot with hp | ⟨hhanded, hkeeps⟩
          · exact .inl hp
          · refine .inr ⟨hkeeps, ?_⟩
            rw [handed_append, hhanded, List.getLast?_concat]
        · exact .inr (settled_turn h' hl hsettled hturn hm)
      rw [events, ← List.append_assoc]
      refine ih h' (orderly_turn hs hturn hm.kept) (numbered_turn hn hturn) (fun ms₀ hms₀ => ?_)
        (latest?_turn h' hl hturn hm) hp' fun m' hm' => hms m' (List.mem_cons_of_mem m hm')
      exact hP (m :: ms₀) (List.cons_prefix_cons.mpr ⟨rfl, hms₀⟩)

/-- The resolver of the session was in this state at some time of the course. -/
def Visits (s : Session) (ms : List Moment) (r : Resolver) : Prop :=
  ∃ ms₀, ms₀ <+: ms ∧ r = (s.after ms₀).resolver

/-- The editor's word on the document it works on makes a task for the version. -/
theorem act_of_told {m : Moment} (hactive : m.editor.active = some uri)
    (hsnapshot : m.editor.snapshot? uri = some (text, version))
    (ho : m.occasion = .told (.activated uri) ∨ m.occasion = .told (.edited uri version)) :
    ∃ delay, (s.act m).1 = (s.schedule uri version delay).1 := by
  rcases ho with ho | ho
  · refine ⟨0, ?_⟩
    simp only [act, ho, handle, EditorEvent.uri, hactive, if_true, refresh, hsnapshot]
  · refine ⟨s.debounce, ?_⟩
    simp only [act, ho, handle, EditorEvent.uri, hactive, if_true]

/-- A task that was made for the current version is pending, and the version is the latest. -/
theorem pending_schedule (h : Abreast P uri text version s) (delay : Nat) :
    Pending uri version (s.schedule uri version delay).1 ∧
      (s.schedule uri version delay).1.resolver.latest? uri = some version := by
  constructor
  · refine ⟨s.nextAgent, _, (Table.get?_insert _ _ _ _).trans (if_pos rfl), rfl, rfl, ?_⟩
    rintro ⟨slot, res, hphase⟩
    by_cases hd : delay = 0 <;> simp [hd] at hphase
  · refine Resolver.latest?_begin_self ?_
    rw [Resolver.refusedBy?, Option.filter_eq_none_iff]
    intro latest hl
    simpa using h.latest latest hl

/-- Once the editor has told of the current version, it stays pending or settled. -/
theorem pending_or_settled_of_told {m : Moment} {ms : List Moment}
    (h : Abreast P uri text version s) (hs : Orderly uri s) (hn : s.Numbered)
    (hP : ∀ ms₀, ms₀ <+: m :: ms → P (s.after ms₀).resolver)
    (hms : ∀ m' ∈ m :: ms, m'.Attends uri text version) (hactive : m.editor.active = some uri)
    (hsnapshot : ∀ m' ∈ m :: ms, m'.editor.snapshot? uri = some (text, version))
    (ho : m.occasion = .told (.activated uri) ∨ m.occasion = .told (.edited uri version))
    (before : List Event) :
    (s.after (m :: ms)).resolver.latest? uri = some version ∧
      (Pending uri version (s.after (m :: ms)) ∨
        Settled uri version (s.after (m :: ms)) (before ++ s.events (m :: ms))) := by
  have hm := hms m List.mem_cons_self
  have hturn := turn_act s m
  have h' := abreast_turn h hs (hP [] List.nil_prefix) hturn hm
  -- what the editor tells makes a task
  obtain ⟨delay, hact⟩ := act_of_told (s := s) hactive (hsnapshot m List.mem_cons_self) ho
  obtain ⟨hpending, hl⟩ := pending_schedule h delay
  rw [← hact] at hpending hl
  -- and this task, or its result, is there ever after
  rw [after_cons, events_cons, ← List.append_assoc]
  refine pending_or_settled_after h' (orderly_turn hs hturn hm.kept) (numbered_turn hn hturn)
    (fun ms₀ hms₀ => ?_) hl (.inl hpending) fun m' hm' => ?_
  · exact hP (m :: ms₀) (List.cons_prefix_cons.mpr ⟨rfl, hms₀⟩)
  · have hmem := List.mem_cons_of_mem m hm'
    exact ⟨hms m' hmem, hsnapshot m' hmem⟩

/-- Once the editor has told of the last version of an open document and no task for the document is
left, this version is the latest one, it was handed to the editor last, and what is kept of the document
is of this version: the usages of its text, or a failure and nothing else. -/
theorem settled_of_told {r : Resolver} {ms : List Moment} (hlatest : r.latest? uri = none)
    (hnone : r.resolution? uri = none) (htold : Told uri text version ms)
    (hidle : ∀ id t, ((ofResolver r).after ms).agents.get? id = some (.task t) → t.uri ≠ uri) :
    ((ofResolver r).after ms).resolver.latest? uri = some version ∧
      (handed uri ((ofResolver r).events ms)).getLast? = some version ∧
      ∃ res, ((ofResolver r).after ms).resolver.resolution? uri = some res ∧
        res.version = version ∧
        (res.failure = none →
          Scanned ((ofResolver r).Visits ms) text version (res.annotations.map Annotation.usage)) ∧
        (res.failure ≠ none → res.annotations = []) := by
  obtain ⟨m, hmem, hactive, hsnapshot, ho⟩ := htold.told
  obtain ⟨ms₁, ms₂, rfl⟩ := List.append_of_mem hmem
  have hattends := fun m' (hm' : m' ∈ ms₁ ++ m :: ms₂) => htold.attends hm'
  have hvisits : ∀ ms₀, ms₀ <+: ms₁ ++ m :: ms₂ →
      (ofResolver r).Visits (ms₁ ++ m :: ms₂) ((ofResolver r).after ms₀).resolver := fun ms₀ hms₀ =>
    ⟨ms₀, hms₀, rfl⟩
  have hbegin : Abreast ((ofResolver r).Visits (ms₁ ++ m :: ms₂)) uri text version (ofResolver r) :=
    abreast_ofResolver hlatest hnone
  have hs := orderly_ofResolver r uri
  have h₁ := abreast_after hbegin hs
    (fun ms₀ hms₀ => hvisits ms₀ (hms₀.trans (List.prefix_append _ _))) fun m' hm' =>
      hattends m' (List.mem_append_left _ hm')
  have hs₁ := orderly_after hs fun m' hm' => htold.kept m' (List.mem_append_left _ hm')
  have hn₁ := numbered_after (numbered_ofResolver r) ms₁
  have hlater : ∀ m' ∈ m :: ms₂, m'.editor.snapshot? uri = some (text, version) := by
    intro m' hm'
    rcases List.mem_cons.mp hm' with rfl | hm'
    · exact hsnapshot
    · exact htold.snapshot_of_later hsnapshot hm'
  obtain ⟨hl, hend⟩ := pending_or_settled_of_told h₁ hs₁ hn₁
    (fun ms₀ hms₀ => after_append _ ms₁ ms₀ ▸
      hvisits _ ((List.prefix_append_right_inj ms₁).mpr hms₀))
    (fun m' hm' => hattends m' (List.mem_append_right _ hm')) hactive hlater ho
    ((ofResolver r).events ms₁)
  rw [← events_append, ← after_append] at hend
  rw [← after_append] at hl
  rcases hend with ⟨id, t, htask, hu, -⟩ | ⟨⟨res, hres, hv⟩, hhanded⟩
  · exact absurd hu (hidle id t htask)
  · obtain ⟨-, hfailure, hscanned⟩ := (abreast_after hbegin hs hvisits hattends).kept res hres
    exact ⟨hl, hhanded, res, hres, hv, hscanned hv, hfailure⟩

open Sample in
theorem settled_of_edit :
    let s := (ofResolver Sample.resolver).after (opened ++ edited ++ [go 2 2])
    s.resolver.latest? Sample.uri = some 2 ∧
      s.resolver.resolution? Sample.uri = some (resolution 2) := by
  have htold : Told Sample.uri Sample.text 2 (opened ++ edited ++ [go 2 2]) := by
    refine ⟨?_, ?_, ?_, ?_, ⟨editor 2, .told (.edited Sample.uri 2)⟩, ?_, rfl, ?_, .inr rfl⟩
    · simp [opened, edited, go, editor, Edited]
    · simp [opened, edited, go, Moment.Forgets]
    · simp [opened, edited, go, editor]
    · simp [opened, edited, go]
    · simp [edited]
    · simp [editor]
  have hidle : ∀ id t, ((ofResolver Sample.resolver).after
      (opened ++ edited ++ [go 2 2])).agents.get? id = some (.task t) → t.uri ≠ Sample.uri := by
    have hnone : ((ofResolver Sample.resolver).after
        (opened ++ edited ++ [go 2 2])).agents.entries = [] := by cbv
    intro id t h
    rw [Table.get?, hnone] at h
    cases h
  exact ⟨(settled_of_told rfl rfl htold hidle).1, by cbv⟩

open Sample in
/-- The document without an import uses a class too, but its resolution has a failure. -/
theorem usages_ne_of_failure :
    let s := (ofResolver Sample.resolver).after unbound
    Told Sample.uri "styles.a" 1 unbound ∧ (∀ id, s.agents.get? id = none) ∧
      ∃ res, s.resolver.resolution? Sample.uri = some res ∧
        res.annotations.map Annotation.usage ≠
          (s.resolver.scannerFor (imports "styles.a").head? s.resolver.options).scan 1 "styles.a" := by
  have htold : Told Sample.uri "styles.a" 1 unbound := by
    refine ⟨?_, ?_, ?_, ?_, ⟨bare, .told (.activated Sample.uri)⟩, ?_, rfl, ?_, .inl rfl⟩
    · simp [unbound, bare, Edited]
    · simp [unbound, Moment.Forgets]
    · simp [unbound]
    · simp [unbound]
    · simp [unbound]
    · simp [bare]
  have hnone : ((ofResolver Sample.resolver).after unbound).agents.entries = [] := by cbv
  have hres : ((ofResolver Sample.resolver).after unbound).resolver.resolution? Sample.uri =
      some ⟨Sample.uri, 1, none, [], some .noImport, .failed⟩ := by cbv
  have hscanner : ((ofResolver Sample.resolver).after unbound).resolver.scanner =
      ⟨["styles"], true⟩ := by cbv
  refine ⟨htold, fun id => by rw [Table.get?, hnone]; rfl, _, hres, ?_⟩
  have hfirst : (imports "styles.a").head? = none := by cbv
  rw [hfirst, Resolver.scannerFor, Option.bind_none, hscanner]
  decide

end Session

end ClassLens
