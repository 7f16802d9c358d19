import ClassLens.Proofs.Cache.Eviction
import ClassLens.Proofs.Resolve.Steps
import ClassLens.Session.Step

/-! # Runs among other runs

Any number of runs may be under way in one resolver, and others may change it between two steps of a
run.  A course of such happenings is a list; the order in it is the environment's choice, as is how
long an extraction takes.

* `Resolver.Change`: what others do to a resolver at once.
* `Traffic`: a resolver with the runs that are under way in it, by number.
* `Happening`: a run is asked for, a run goes on, or the resolver is changed.
* `Traffic.step`, `Traffic.after`, `Traffic.events`: what a happening and a course of them lead to,
  and what others see of them.
* `Traffic.Became w id h run`: how the run with number `id` came to be `run`.

**Main statements.** `Traffic.step_of_other`, `Traffic.not_answered_of_ended`: a run goes on only when
it is resumed, and is answered once. -/

namespace ClassLens

/-! ### Changes -/

namespace Resolver

/-- What others do to a resolver at once. -/
inductive Change where
  | record (uri : Uri) (version : Int)
  | forget (uri : Uri)
  | setOptions (options : Options)
  | setExtractor (extractor : Extractor)
  | useCache (use : CacheUse)

/-- The resolver after a change. -/
def changed (r : Resolver) : Change → Resolver
  | .record uri version => r.begin uri version
  | .forget uri => r.forget uri
  | .setOptions options => r.setOptions options
  | .setExtractor extractor => r.setExtractor extractor
  | .useCache use => { r with cache := r.cache.used use }

/-! ### What an end and a change leave alone -/

@[simp] theorem extractor_noteFailure (r : Resolver) (uri : Uri) (f : Option Failure) :
    (r.noteFailure uri f).1.extractor = r.extractor := by
  cases f <;> rfl

@[simp] theorem options_noteFailure (r : Resolver) (uri : Uri) (f : Option Failure) :
    (r.noteFailure uri f).1.options = r.options := by
  cases f <;> rfl

@[simp] theorem scanner_noteFailure (r : Resolver) (uri : Uri) (f : Option Failure) :
    (r.noteFailure uri f).1.scanner = r.scanner := by
  cases f <;> rfl

@[simp] theorem fixedScanner_noteFailure (r : Resolver) (uri : Uri) (f : Option Failure) :
    (r.noteFailure uri f).1.fixedScanner = r.fixedScanner := by
  cases f <;> rfl

@[simp] theorem cache_noteFailure (r : Resolver) (uri : Uri) (f : Option Failure) :
    (r.noteFailure uri f).1.cache = r.cache := by
  cases f <;> rfl

@[simp] theorem latest_noteFailure (r : Resolver) (uri : Uri) (f : Option Failure) :
    (r.noteFailure uri f).1.latest = r.latest := by
  cases f <;> rfl

@[simp] theorem resolutions_noteFailure (r : Resolver) (uri : Uri) (f : Option Failure) :
    (r.noteFailure uri f).1.resolutions = r.resolutions := by
  cases f <;> rfl

@[simp] theorem extractor_begin (r : Resolver) (uri : Uri) (version : Int) :
    (r.begin uri version).extractor = r.extractor := by
  unfold begin
  split <;> rfl

@[simp] theorem options_begin (r : Resolver) (uri : Uri) (version : Int) :
    (r.begin uri version).options = r.options := by
  unfold begin
  split <;> rfl

@[simp] theorem scanner_begin (r : Resolver) (uri : Uri) (version : Int) :
    (r.begin uri version).scanner = r.scanner := by
  unfold begin
  split <;> rfl

@[simp] theorem fixedScanner_begin (r : Resolver) (uri : Uri) (version : Int) :
    (r.begin uri version).fixedScanner = r.fixedScanner := by
  unfold begin
  split <;> rfl

@[simp] theorem cache_begin (r : Resolver) (uri : Uri) (version : Int) :
    (r.begin uri version).cache = r.cache := by
  unfold begin
  split <;> rfl

@[simp] theorem ledger_begin (r : Resolver) (uri : Uri) (version : Int) :
    (r.begin uri version).ledger = r.ledger := by
  unfold begin
  split <;> rfl

/-- Only the resolutions change when one is kept. -/
theorem store_eq (r : Resolver) (res : Resolution) :
    ∃ resolutions, r.store res = { r with resolutions } := by
  unfold store
  split
  · split
    · exact ⟨_, rfl⟩
    · exact ⟨_, rfl⟩
  · exact ⟨_, rfl⟩

/-- A step changes nothing that others set, nor the versions that were asked for. -/
theorem Comes.frame {r : Resolver} {run : Run} {step : RunStep} (h : Comes r run step) :
    step.resolver.extractor = r.extractor ∧ step.resolver.options = r.options ∧
      step.resolver.scanner = r.scanner ∧ step.resolver.fixedScanner = r.fixedScanner ∧
      step.resolver.latest = r.latest := by
  cases h with
  | on => exact ⟨rfl, rfl, rfl, rfl, rfl⟩
  | overtaken => exact ⟨rfl, rfl, rfl, rfl, rfl⟩
  | ended cache res =>
      obtain ⟨resolutions, heq⟩ := store_eq ({ r with cache }.noteFailure run.request.uri res.failure).1 res
      simp only [heq, extractor_noteFailure, options_noteFailure, scanner_noteFailure,
        fixedScanner_noteFailure, latest_noteFailure, and_self]

/-- A version that is not refused is not less than the latest. -/
theorem le_of_not_refused {r : Resolver} {uri : Uri} {version latest : Int}
    (h : r.refusedBy? uri version = none) (hlatest : r.latest? uri = some latest) :
    latest ≤ version := by
  rw [refusedBy?, hlatest, Option.filter_eq_none_iff] at h
  simpa using h latest rfl

/-- Asking for a version makes the greater one of it and the latest version the latest. -/
theorem latest?_begin (r : Resolver) (uri : Uri) (version : Int) :
    (r.begin uri version).latest? uri = some ((r.latest? uri).elim version (max version)) := by
  cases hr : r.refusedBy? uri version with
  | some latest =>
      rw [latest?_begin_of_refused hr]
      rw [refusedBy?, Option.filter_eq_some_iff] at hr
      obtain ⟨hl, hlt⟩ := hr
      rw [hl, Option.elim_some, Int.max_eq_right (Int.le_of_lt (of_decide_eq_true hlt))]
  | none =>
      rw [latest?_begin_self hr]
      cases hl : r.latest? uri with
      | none => rfl
      | some latest => rw [Option.elim_some, Int.max_eq_left (le_of_not_refused hr hl)]

theorem supersededBy?_eq_none_iff (r : Resolver) (uri : Uri) (version : Int) :
    r.supersededBy? uri version = none ↔ r.latest? uri = some version := by
  unfold supersededBy?
  cases r.latest? uri with
  | none => simp
  | some latest => simp

/-- A run that goes on keeps to its request. -/
theorem Comes.request_of_next {r : Resolver} {run run' : Run} {step : RunStep} (h : Comes r run step)
    (hmove : step.move = .next run') : run'.request = run.request := by
  cases h with
  | on cache run'' extracts same =>
      rw [Move.next.injEq] at hmove
      exact hmove ▸ same
  | overtaken => cases hmove
  | ended => cases hmove

/-- A run is answered with a resolution unless it is overtaken, and then with what overtook it. -/
theorem Comes.answer_eq {r : Resolver} {run : Run} {step : RunStep} (h : Comes r run step)
    {answer : Answer} (hmove : step.move = .done answer) :
    (r.supersededBy? run.request.uri run.request.version = none ∧ ∃ res, answer = .ready res) ∨
      ∃ latest, r.supersededBy? run.request.uri run.request.version = some latest ∧
        answer = .stale run.request.version latest := by
  cases h with
  | on => cases hmove
  | overtaken cache latest late =>
      cases hmove
      exact .inr ⟨latest, late, rfl⟩
  | ended cache res current =>
      cases hmove
      exact .inl ⟨current, res, rfl⟩

/-- A run of the latest version is answered with a resolution, and every other one is stale. -/
theorem Comes.answer_cases {r : Resolver} {run : Run} {step : RunStep} (h : Comes r run step)
    {answer : Answer} (hmove : step.move = .done answer) :
    (r.latest? run.request.uri = some run.request.version ∧ ∃ res, answer = .ready res) ∨
      r.latest? run.request.uri ≠ some run.request.version ∧
        ∃ latest, answer = .stale run.request.version latest := by
  rcases h.answer_eq hmove with ⟨hcurrent, hready⟩ | ⟨latest, hlate, hstale⟩
  · exact .inl ⟨(supersededBy?_eq_none_iff _ _ _).mp hcurrent, hready⟩
  · refine .inr ⟨fun hl => ?_, latest, hstale⟩
    rw [(supersededBy?_eq_none_iff _ _ _).mpr hl] at hlate
    cases hlate

theorem latest?_step (r : Resolver) (editor : Editor) (run : Run) (expired : Bool) (uri : Uri) :
    (r.step editor run expired).resolver.latest? uri = r.latest? uri := by
  obtain ⟨-, -, -, -, h⟩ := (comes_step r editor run expired).frame
  unfold latest?
  rw [h]

end Resolver

/-! ### Traffic -/

/-- A resolver with the runs that are under way in it. -/
structure Traffic where
  resolver : Resolver
  runs : Table Nat Run := .empty
  next : Nat := 0

/-- What may happen to a resolver and the runs in it. -/
inductive Happening where
  /-- A run is asked for. -/
  | asked (q : Request)
  /-- A run goes on; the editor is as it is by then. -/
  | resumed (id : Nat) (editor : Editor) (expired : Bool)
  | changed (change : Resolver.Change)

namespace Traffic

/-- A resolver in which no run is under way. -/
def idle (r : Resolver) : Traffic := { resolver := r }

/-- What a happening leads to, and what others see of it. -/
def step (w : Traffic) : Happening → Traffic × List Event
  | .asked q =>
    match w.resolver.start q with
    | (r, .error answer) => ({ w with resolver := r, next := w.next + 1 }, [.answered w.next answer])
    | (r, .ok run) =>
      ({ w with resolver := r, runs := w.runs.insert w.next run, next := w.next + 1 }, [])
  | .resumed id editor expired =>
    match w.runs.get? id with
    | none => (w, [])
    | some run =>
      let step := w.resolver.step editor run expired
      let events := Session.eventsOf run.request.uri step
      match step.move with
      | .next run => ({ w with resolver := step.resolver, runs := w.runs.insert id run }, events)
      | .done answer =>
        ({ w with resolver := step.resolver, runs := w.runs.erase id },
          events ++ [.answered id answer])
  | .changed change => ({ w with resolver := w.resolver.changed change }, [])

/-- What a course of happenings leads to. -/
def after (w : Traffic) (hs : List Happening) : Traffic := hs.foldl (fun w h => (w.step h).1) w

/-- What others see of a course of happenings, in order. -/
def events (w : Traffic) : List Happening → List Event
  | [] => []
  | h :: hs => (w.step h).2 ++ (w.step h).1.events hs

@[simp] theorem after_nil (w : Traffic) : w.after [] = w := rfl

@[simp] theorem after_cons (w : Traffic) (h : Happening) (hs : List Happening) :
    w.after (h :: hs) = (w.step h).1.after hs := rfl

theorem after_append (w : Traffic) (hs hs' : List Happening) :
    w.after (hs ++ hs') = (w.after hs).after hs' :=
  List.foldl_append

/-! ### A step by its cases -/

theorem step_asked_refused {w : Traffic} {q : Request} {latest : Int}
    (h : w.resolver.refusedBy? q.uri q.version = some latest) :
    w.step (.asked q) =
      ({ w with next := w.next + 1 }, [.answered w.next (.stale q.version latest)]) := by
  simp only [step, Resolver.start, h]

theorem step_asked {w : Traffic} {q : Request} (h : w.resolver.refusedBy? q.uri q.version = none) :
    w.step (.asked q) =
      ({ resolver := w.resolver.begin q.uri q.version
         runs := w.runs.insert w.next ⟨q, ⟨q.uri.shortName, q.version, .idle, 0⟩, .begun⟩
         next := w.next + 1 }, []) := by
  simp only [step, Resolver.start, h]

theorem step_resumed_none {w : Traffic} {id : Nat} (h : w.runs.get? id = none) (editor : Editor)
    (expired : Bool) : w.step (.resumed id editor expired) = (w, []) := by
  simp only [step, h]

theorem step_resumed_next {w : Traffic} {id : Nat} {run run' : Run} {editor : Editor}
    {expired : Bool} (h : w.runs.get? id = some run)
    (hmove : (w.resolver.step editor run expired).move = .next run') :
    w.step (.resumed id editor expired) =
      ({ w with
         resolver := (w.resolver.step editor run expired).resolver
         runs := w.runs.insert id run' },
        Session.eventsOf run.request.uri (w.resolver.step editor run expired)) := by
  simp only [step, h, hmove]

theorem step_resumed_done {w : Traffic} {id : Nat} {run : Run} {editor : Editor} {expired : Bool}
    {answer : Answer} (h : w.runs.get? id = some run)
    (hmove : (w.resolver.step editor run expired).move = .done answer) :
    w.step (.resumed id editor expired) =
      ({ w with
         resolver := (w.resolver.step editor run expired).resolver
         runs := w.runs.erase id },
        Session.eventsOf run.request.uri (w.resolver.step editor run expired) ++
          [.answered id answer]) := by
  simp only [step, h, hmove]

/-- How a run came to be what it is after a happening. -/
inductive Became (w : Traffic) (id : Nat) : Happening → Run → Prop where
  | stayed {h : Happening} {run : Run} (old : w.runs.get? id = some run) : Became w id h run
  | begun (q : Request) {progress : Progress} (idle : progress.stage = .idle) :
      Became w id (.asked q) ⟨q, progress, .begun⟩
  | went {editor : Editor} {expired : Bool} {run run' : Run} (old : w.runs.get? id = some run)
      (move : (w.resolver.step editor run expired).move = .next run') :
      Became w id (.resumed id editor expired) run'

/-- There are no other ways. -/
theorem became_of_step {w : Traffic} {h : Happening} {id : Nat} {run : Run}
    (hrun : (w.step h).1.runs.get? id = some run) : w.Became id h run := by
  cases h with
  | asked q =>
      cases href : w.resolver.refusedBy? q.uri q.version with
      | some latest =>
          rw [step_asked_refused href] at hrun
          exact .stayed hrun
      | none =>
          rw [step_asked href, Table.get?_insert] at hrun
          split at hrun
          · rw [Option.some.injEq] at hrun
            exact hrun ▸ .begun q rfl
          · exact .stayed hrun
  | resumed id' editor expired =>
      cases hid : w.runs.get? id' with
      | none =>
          rw [step_resumed_none hid] at hrun
          exact .stayed hrun
      | some run' =>
          cases hmove : (w.resolver.step editor run' expired).move with
          | next run'' =>
              rw [step_resumed_next hid hmove, Table.get?_insert] at hrun
              split at hrun
              · rename_i heq
                rw [Option.some.injEq] at hrun
                subst heq hrun
                exact .went hid hmove
              · exact .stayed hrun
          | done answer =>
              rw [step_resumed_done hid hmove, Table.get?_erase] at hrun
              split at hrun
              · cases hrun
              · exact .stayed hrun
  | changed change => exact .stayed hrun

/-- What a happening does to the resolver of a run that goes on or ends. -/
theorem resolver_step_resumed {w : Traffic} {id : Nat} {run : Run} (h : w.runs.get? id = some run)
    (editor : Editor) (expired : Bool) :
    (w.step (.resumed id editor expired)).1.resolver =
      (w.resolver.step editor run expired).resolver := by
  cases hmove : (w.resolver.step editor run expired).move with
  | next run' => rw [step_resumed_next h hmove]
  | done answer => rw [step_resumed_done h hmove]

/-- Asking for a run only makes its version count as asked for. -/
theorem resolver_step_asked (w : Traffic) (q : Request) :
    (w.step (.asked q)).1.resolver = w.resolver.begin q.uri q.version := by
  cases hr : w.resolver.refusedBy? q.uri q.version with
  | some latest => rw [step_asked_refused hr, Resolver.latest?_begin_of_refused hr]
  | none => rw [step_asked hr]

/-- No step of a run answers another one. -/
theorem not_answered_mem_eventsOf (uri : Uri) (step : RunStep) (id : Nat) (answer : Answer) :
    .answered id answer ∉ Session.eventsOf uri step := by
  unfold Session.eventsOf
  cases step.report <;> cases step.extracts <;> simp

/-! ### Numbers -/

/-- Every run has a number that was given out. -/
def Numbered (w : Traffic) : Prop := ∀ id run, w.runs.get? id = some run → id < w.next

theorem numbered_idle (r : Resolver) : (idle r).Numbered := fun id run h => by
  simp [idle] at h

theorem numbered_step {w : Traffic} (hw : w.Numbered) (h : Happening) : (w.step h).1.Numbered := by
  cases h with
  | asked q =>
      cases hr : w.resolver.refusedBy? q.uri q.version with
      | some latest =>
          rw [step_asked_refused hr]
          exact fun id run hid => Nat.lt_succ_of_lt (hw id run hid)
      | none =>
          rw [step_asked hr]
          intro id run hid
          simp only [Table.get?_insert] at hid
          split at hid
          · rename_i h
            exact h ▸ Nat.lt_succ_self _
          · exact Nat.lt_succ_of_lt (hw id run hid)
  | resumed id editor expired =>
      cases hrun : w.runs.get? id with
      | none =>
          rw [step_resumed_none hrun]
          exact hw
      | some run =>
          cases hmove : (w.resolver.step editor run expired).move with
          | next run' =>
              rw [step_resumed_next hrun hmove]
              intro id' run'' hid
              simp only [Table.get?_insert] at hid
              split at hid
              · rename_i h
                exact h ▸ hw id run hrun
              · exact hw id' run'' hid
          | done answer =>
              rw [step_resumed_done hrun hmove]
              intro id' run'' hid
              simp only [Table.get?_erase] at hid
              split at hid
              · cases hid
              · exact hw id' run'' hid
  | changed change => exact hw

theorem numbered_after {w : Traffic} (hw : w.Numbered) (hs : List Happening) :
    (w.after hs).Numbered := by
  induction hs generalizing w with
  | nil => exact hw
  | cons h hs ih => exact ih (numbered_step hw h)

theorem next_le_step (w : Traffic) (h : Happening) : w.next ≤ (w.step h).1.next := by
  cases h with
  | asked q =>
      cases hr : w.resolver.refusedBy? q.uri q.version with
      | some latest =>
          rw [step_asked_refused hr]
          exact Nat.le_succ w.next
      | none =>
          rw [step_asked hr]
          exact Nat.le_succ w.next
  | resumed id editor expired =>
      refine Nat.le_of_eq ?_
      cases hrun : w.runs.get? id with
      | none => rw [step_resumed_none hrun]
      | some run =>
          cases hmove : (w.resolver.step editor run expired).move with
          | next run' => rw [step_resumed_next hrun hmove]
          | done answer => rw [step_resumed_done hrun hmove]
  | changed change => exact Nat.le_refl _

/-- What happens to others leaves a run where it stands and does not answer it. -/
theorem step_of_other {w : Traffic} {id : Nat} (hid : id < w.next) {h : Happening}
    (hother : ∀ editor expired, h ≠ .resumed id editor expired) :
    (w.step h).1.runs.get? id = w.runs.get? id ∧ ∀ answer, .answered id answer ∉ (w.step h).2 := by
  cases h with
  | asked q =>
      cases hr : w.resolver.refusedBy? q.uri q.version with
      | some latest =>
          rw [step_asked_refused hr]
          refine ⟨rfl, fun answer => ?_⟩
          simp only [List.mem_singleton, Event.answered.injEq, not_and]
          omega
      | none =>
          rw [step_asked hr]
          refine ⟨?_, by simp⟩
          rw [Table.get?_insert, if_neg (by omega)]
  | resumed id' editor expired =>
      have hne : ¬ id' = id := fun h => hother editor expired (h ▸ rfl)
      cases hrun : w.runs.get? id' with
      | none =>
          rw [step_resumed_none hrun]
          exact ⟨rfl, by simp⟩
      | some run =>
          cases hmove : (w.resolver.step editor run expired).move with
          | next run' =>
              rw [step_resumed_next hrun hmove]
              refine ⟨?_, not_answered_mem_eventsOf _ _ _⟩
              rw [Table.get?_insert, if_neg hne]
          | done answer =>
              rw [step_resumed_done hrun hmove]
              refine ⟨?_, fun answer' => ?_⟩
              · rw [Table.get?_erase, if_neg hne]
              · rw [List.mem_append, not_or]
                refine ⟨not_answered_mem_eventsOf _ _ _ _, ?_⟩
                simp only [List.mem_singleton, Event.answered.injEq, not_and]
                exact fun h => absurd h.symm hne
  | changed change => exact ⟨rfl, by simp [step]⟩

/-- A run that is asked for gets a number, also if it is refused. -/
theorem next_lt_asked (w : Traffic) (q : Request) : w.next < (w.step (.asked q)).1.next := by
  cases hr : w.resolver.refusedBy? q.uri q.version with
  | some latest => rw [step_asked_refused hr]; exact Nat.lt_succ_self _
  | none => rw [step_asked hr]; exact Nat.lt_succ_self _

theorem next_le_after (w : Traffic) (hs : List Happening) : w.next ≤ (w.after hs).next := by
  induction hs generalizing w with
  | nil => exact Nat.le_refl _
  | cons h hs ih => exact Nat.le_trans (next_le_step w h) (ih _)

theorem get?_after_of_others {w : Traffic} {id : Nat} (hid : id < w.next) {hs : List Happening}
    (hothers : ∀ editor expired, .resumed id editor expired ∉ hs) :
    (w.after hs).runs.get? id = w.runs.get? id := by
  induction hs generalizing w with
  | nil => rfl
  | cons h hs ih =>
      have hstep := (step_of_other hid fun e b hx => hothers e b (hx ▸ List.mem_cons_self)).1
      rw [after_cons, ih (Nat.lt_of_lt_of_le hid (next_le_step w h)) fun e b hm =>
        hothers e b (List.mem_cons_of_mem h hm), hstep]

/-- A run that was asked for and not refused begins when it is resumed for the first time. -/
theorem get?_after_asked {w : Traffic} (hn : w.Numbered) (q : Request) {hs : List Happening}
    (hothers : ∀ editor expired, .resumed w.next editor expired ∉ hs) :
    (w.after (.asked q :: hs)).runs.get? w.next = none ∨
      ∃ progress, (w.after (.asked q :: hs)).runs.get? w.next = some ⟨q, progress, .begun⟩ := by
  rw [after_cons, get?_after_of_others (next_lt_asked w q) hothers]
  cases hr : w.resolver.refusedBy? q.uri q.version with
  | some latest =>
      left
      rw [step_asked_refused hr]
      cases hg : w.runs.get? w.next with
      | none => rfl
      | some run => exact absurd (hn _ _ hg) (Nat.lt_irrefl _)
  | none =>
      right
      rw [step_asked hr]
      exact ⟨_, by rw [Table.get?_insert, if_pos rfl]⟩

/-- A run that has ended stays so, and is not answered again. -/
theorem step_of_ended {w : Traffic} {id : Nat} (hid : id < w.next) (hgone : w.runs.get? id = none)
    (h : Happening) :
    (w.step h).1.runs.get? id = none ∧ ∀ answer, .answered id answer ∉ (w.step h).2 := by
  by_cases hown : ∃ editor expired, h = .resumed id editor expired
  · obtain ⟨editor, expired, rfl⟩ := hown
    rw [step_resumed_none hgone]
    exact ⟨hgone, by simp⟩
  · obtain ⟨hruns, hno⟩ := step_of_other hid fun e x hx => hown ⟨e, x, hx⟩
    exact ⟨hruns.trans hgone, hno⟩

theorem get?_after_of_ended {w : Traffic} {id : Nat} (hid : id < w.next)
    (hgone : w.runs.get? id = none) (hs : List Happening) : (w.after hs).runs.get? id = none := by
  induction hs generalizing w with
  | nil => exact hgone
  | cons h hs ih =>
      exact ih (Nat.lt_of_lt_of_le hid (next_le_step w h)) (step_of_ended hid hgone h).1

theorem not_answered_of_ended {w : Traffic} {id : Nat} (hid : id < w.next)
    (hgone : w.runs.get? id = none) (hs : List Happening) (answer : Answer) :
    .answered id answer ∉ w.events hs := by
  induction hs generalizing w with
  | nil => simp [events]
  | cons h hs ih =>
      obtain ⟨hgone', hno⟩ := step_of_ended hid hgone h
      rw [events, List.mem_append, not_or]
      exact ⟨hno answer, ih (Nat.lt_of_lt_of_le hid (next_le_step w h)) hgone'⟩

/-- A run that is under way has ended after a step, or it keeps to its request. -/
theorem get?_step {w : Traffic} (hn : w.Numbered) {id : Nat} {run : Run}
    (hrun : w.runs.get? id = some run) (h : Happening) :
    (w.step h).1.runs.get? id = none ∨
      ∃ run', (w.step h).1.runs.get? id = some run' ∧ run'.request = run.request := by
  by_cases hown : ∃ editor expired, h = .resumed id editor expired
  · obtain ⟨editor, expired, rfl⟩ := hown
    cases hmove : (w.resolver.step editor run expired).move with
    | next run' =>
        rw [step_resumed_next hrun hmove]
        refine .inr ⟨run', by simp, ?_⟩
        exact (Resolver.comes_step _ _ _ _).request_of_next hmove
    | done answer =>
        rw [step_resumed_done hrun hmove]
        exact .inl (by simp)
  · have hother := (step_of_other (hn id run hrun) fun e x hx => hown ⟨e, x, hx⟩).1
    exact .inr ⟨run, hother.trans hrun, rfl⟩

/-- A run keeps to its request as long as it is under way. -/
theorem request_after {w : Traffic} (hn : w.Numbered) {id : Nat} {run run' : Run}
    (hrun : w.runs.get? id = some run) {hs : List Happening}
    (hrun' : (w.after hs).runs.get? id = some run') : run'.request = run.request := by
  induction hs generalizing w run with
  | nil =>
      rw [after_nil, hrun, Option.some.injEq] at hrun'
      rw [hrun']
  | cons h hs ih =>
      rcases get?_step hn hrun h with hgone | ⟨run₁, hrun₁, hreq⟩
      · have hid := Nat.lt_of_lt_of_le (hn id run hrun) (next_le_step w h)
        rw [after_cons, get?_after_of_ended hid hgone] at hrun'
        cases hrun'
      · exact (ih (numbered_step hn h) hrun₁ hrun').trans hreq

/-- A run is answered by the step that ends it. -/
theorem done_of_answered {w : Traffic} {id : Nat} {editor : Editor} {expired : Bool}
    {answer : Answer} (h : .answered id answer ∈ (w.step (.resumed id editor expired)).2) :
    ∃ run, w.runs.get? id = some run ∧
      (w.resolver.step editor run expired).move = .done answer := by
  cases hrun : w.runs.get? id with
  | none =>
      rw [step_resumed_none hrun] at h
      cases h
  | some run =>
      refine ⟨run, rfl, ?_⟩
      cases hmove : (w.resolver.step editor run expired).move with
      | next run' =>
          rw [step_resumed_next hrun hmove] at h
          exact absurd h (not_answered_mem_eventsOf _ _ _ _)
      | done answer' =>
          rw [step_resumed_done hrun hmove, List.mem_append, List.mem_singleton,
            Event.answered.injEq] at h
          rcases h with h | ⟨-, rfl⟩
          · exact absurd h (not_answered_mem_eventsOf _ _ _ _)
          · rfl

/-- A run that is answered in a course that starts with it ends at once, or it goes on and is answered
later. -/
theorem answered_of_resumed {w : Traffic} (hn : w.Numbered) {id : Nat} {run : Run}
    (hrun : w.runs.get? id = some run) {editor : Editor} {expired : Bool} {hs : List Happening}
    {answer : Answer} (h : .answered id answer ∈ w.events (.resumed id editor expired :: hs)) :
    (w.resolver.step editor run expired).move = .done answer ∨
      ∃ run', (w.resolver.step editor run expired).move = .next run' ∧
        (w.step (.resumed id editor expired)).1.runs.get? id = some run' ∧
        .answered id answer ∈ (w.step (.resumed id editor expired)).1.events hs := by
  rw [events, List.mem_append] at h
  cases hmove : (w.resolver.step editor run expired).move with
  | next run' =>
      rw [step_resumed_next hrun hmove] at h ⊢
      rcases h with h | h
      · exact absurd h (not_answered_mem_eventsOf _ _ _ _)
      · exact .inr ⟨run', rfl, by simp, h⟩
  | done answer' =>
      left
      rcases h with h | h
      · obtain ⟨run', hrun', hdone⟩ := done_of_answered h
        rw [hrun, Option.some.injEq] at hrun'
        subst hrun'
        exact hmove.symm.trans hdone
      · refine absurd h (not_answered_of_ended ?_ ?_ hs answer)
        · exact Nat.lt_of_lt_of_le (hn id run hrun) (next_le_step w _)
        · rw [step_resumed_done hrun hmove]
          simp

end Traffic

/-! ### A sample -/

namespace Sample

/-- A document that uses a class of the stylesheet that it imports. -/
def uri : Uri := ⟨"file:///App.tsx"⟩

def text : String := "import './a.css';styles.a"

/-- An extractor that finds one rule in every stylesheet. -/
def extractor : Extractor := ⟨fun _ => ⟨0, .ok ⟨[⟨[".a"], []⟩]⟩⟩⟩

def resolver : Resolver := .ofOptions extractor {}

/-- An editor that works on the document in the given version; all imports name one file. -/
def editor (version : Int) : Editor where
  active := some uri
  snapshot? := fun u => if u = uri then some (text, version) else none
  locate := fun _ _ => some ⟨[0x61]⟩
  read := fun _ => .ok ".a { }"

def request (version : Int) : Request := ⟨uri, text, version⟩

/-- What a request comes to. -/
def resolution (version : Int) : Resolution :=
  ⟨uri, version, some ⟨"./a.css", some ⟨[0x61]⟩⟩, [⟨⟨"a", 17, 25, version⟩, [⟨[".a"], []⟩]⟩], none,
    .ready⟩

end Sample

end ClassLens
