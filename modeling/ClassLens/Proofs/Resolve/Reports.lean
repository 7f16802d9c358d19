import ClassLens.Proofs.Resolve.Versions

/-! # Failures are reported once

A failure is reported when a run ends with it, unless it was reported before and the document has
neither succeeded nor been closed since.  The resolver keeps this in its ledger; here it is read off the
course itself.

* `Resolver.noted r uri`: the failures that the ledger has for a document.
* `Traffic.Ends w uri h failure`: with this happening a run of the document ends, in time, with this
  failure or without one.
* `Traffic.Settles w uri h`: the document succeeds, or is closed.
* `Traffic.Standing w hs uri e`: in the course a run of the document ended with such a failure, and
  nothing has settled it since.
* `Traffic.Noting w uri h`: what a happening does to the failures that are noted of a document.

**Main statements.** `Traffic.noting_step`: there are four things that a happening can do to them.
`Traffic.noted_iff_standing`: what is noted is what stands.  `Traffic.reported_iff`: a run reports its
failure if and only if none like it stands. -/

namespace ClassLens

/-! ### Failures of one cause -/

theorem Failure.same_trans {e e' e'' : Failure} (h : e.same e' = true) (h' : e'.same e'' = true) :
    e.same e'' = true := by
  cases e <;> cases e' <;> cases e'' <;> simp_all [same, Path.same]

/-- The failure that is reported, and the document. -/
def Event.report? : Event → Option (Uri × Failure)
  | .reported uri e => some (uri, e)
  | _ => none

/-- What is reported, in order. -/
def reports (events : List Event) : List (Uri × Failure) := events.filterMap Event.report?

theorem mem_reports_iff {uri : Uri} {e : Failure} {events : List Event} :
    (uri, e) ∈ reports events ↔ .reported uri e ∈ events := by
  rw [reports, List.mem_filterMap]
  refine ⟨fun ⟨event, hmem, heq⟩ => ?_, fun hmem => ⟨_, hmem, rfl⟩⟩
  cases event with
  | reported uri' e' =>
      cases heq
      exact hmem
  | extracted | applying | applied | ended | answered => cases heq

namespace Resolver

variable {r : Resolver} {uri : Uri} {e : Failure}

/-- The failures that the ledger has for a document. -/
def noted (r : Resolver) (uri : Uri) : List Failure := (r.ledger.get? uri).getD []

theorem noted_congr {r r' : Resolver} (h : r'.ledger = r.ledger) (uri : Uri) :
    r'.noted uri = r.noted uri := by
  rw [noted, noted, h]

theorem noted_noteFailure_of_ne {other : Uri} (h : other ≠ uri) (failure : Option Failure) :
    (r.noteFailure other failure).1.noted uri = r.noted uri := by
  cases failure with
  | none =>
      show ((r.ledger.erase other).get? uri).getD [] = _
      rw [Table.get?_erase, if_neg h]
      rfl
  | some e =>
      simp only [noteFailure, noted, Ledger.note]
      split
      · rfl
      · rw [Table.get?_insert, if_neg h]

/-- A success clears what is noted. -/
theorem noted_noteFailure_none (r : Resolver) (uri : Uri) :
    (r.noteFailure uri none).1.noted uri = [] := by
  show ((r.ledger.erase uri).get? uri).getD [] = _
  rw [Table.get?_erase, if_pos rfl]
  rfl

/-- A failure that is noted already is not reported. -/
theorem noteFailure_of_known (h : (r.noted uri).any e.same = true) :
    (r.noteFailure uri (some e)).2 = none ∧
      (r.noteFailure uri (some e)).1.noted uri = r.noted uri := by
  unfold noted at h
  simp [noteFailure, Ledger.note, noted, h]

/-- A failure that is not noted yet is noted and reported. -/
theorem noteFailure_of_new (h : (r.noted uri).any e.same = false) :
    (r.noteFailure uri (some e)).2 = some e ∧
      (r.noteFailure uri (some e)).1.noted uri = r.noted uri ++ [e] := by
  unfold noted at h
  simp [noteFailure, Ledger.note, noted, h]

/-- A run that ends with a resolution notes its failure or its success. -/
theorem Comes.noted {run : Run} {step : RunStep} (h : Comes r run step) {res : Resolution}
    (hmove : step.move = .done (.ready res)) :
    step.report = (r.noteFailure run.request.uri res.failure).2 ∧
      ∀ uri, step.resolver.noted uri = (r.noteFailure run.request.uri res.failure).1.noted uri := by
  cases h with
  | on => cases hmove
  | overtaken => cases hmove
  | ended cache res' =>
      cases hmove
      obtain ⟨resolutions, heq⟩ :=
        store_eq ({ r with cache }.noteFailure run.request.uri res.failure).1 res
      rw [heq]
      cases res.failure with
      | none => exact ⟨rfl, fun uri => rfl⟩
      | some e => exact ⟨rfl, fun uri => rfl⟩

end Resolver

namespace Traffic

variable {x : Extractor} {uri : Uri} {w : Traffic} {hs : List Happening} {h : Happening} {id : Nat}
  {e : Failure} {run : Run} {editor : Editor} {expired : Bool}

/-! ### What counts -/

/-- With this happening a run of the document ends, in time, with this failure or without one. -/
def Ends (w : Traffic) (uri : Uri) (h : Happening) (failure : Option Failure) : Prop :=
  ∃ id editor expired run res, h = .resumed id editor expired ∧ w.runs.get? id = some run ∧
    run.request.uri = uri ∧ .answered id (.ready res) ∈ (w.step h).2 ∧ res.failure = failure

/-- The failures of the document count no longer: it succeeds, or is closed. -/
def Settles (w : Traffic) (uri : Uri) (h : Happening) : Prop :=
  h = .changed (.forget uri) ∨ w.Ends uri h none

/-- In the course a run of the document ended with a failure of this cause, and nothing has settled it
since. -/
def Standing (w : Traffic) (hs : List Happening) (uri : Uri) (e : Failure) : Prop :=
  ∃ before h later e', hs = before ++ h :: later ∧ (w.after before).Ends uri h (some e') ∧
    e.same e' = true ∧
    ∀ mid h' rest, later = mid ++ h' :: rest → ¬ (w.after (before ++ h :: mid)).Settles uri h'

theorem not_standing_nil (w : Traffic) (uri : Uri) (e : Failure) : ¬ w.Standing [] uri e := by
  rintro ⟨before, h, later, -, hcut, -⟩
  exact absurd hcut.symm (by simp)

/-- A failure stands if a run ends with it now, or if it stood before and is not settled now. -/
theorem standing_append :
    w.Standing (hs ++ [h]) uri e ↔
      (∃ e', (w.after hs).Ends uri h (some e') ∧ e.same e' = true) ∨
        w.Standing hs uri e ∧ ¬ (w.after hs).Settles uri h := by
  constructor
  · rintro ⟨before, h₀, later, e', hcut, hends, hsame, hopen⟩
    rcases cut_cases hcut with ⟨rfl, rfl, rfl⟩ | ⟨mid, rfl, rfl⟩
    · exact .inl ⟨e', hends, hsame⟩
    · refine .inr ⟨⟨before, h₀, mid, e', rfl, hends, hsame, ?_⟩, hopen mid h [] rfl⟩
      rintro mid' h' rest rfl
      exact hopen mid' h' (rest ++ [h]) (by simp)
  · rintro (⟨e', hends, hsame⟩ | ⟨⟨before, h₀, later, e', rfl, hends, hsame, hopen⟩, hlast⟩)
    · exact ⟨hs, h, [], e', rfl, hends, hsame, fun mid h' rest hcut => absurd hcut (by simp)⟩
    · refine ⟨before, h₀, later ++ [h], e', by simp, hends, hsame, fun mid h' rest hcut => ?_⟩
      rcases cut_cases hcut with ⟨rfl, rfl, rfl⟩ | ⟨rest', rfl, rfl⟩
      · exact hlast
      · exact hopen mid h' rest' rfl

/-- Runs end only when they go on. -/
theorem not_ends_of_ne (hne : ∀ id editor expired, h ≠ .resumed id editor expired)
    (failure : Option Failure) : ¬ w.Ends uri h failure := by
  rintro ⟨id, editor, expired, -, -, heq, -⟩
  exact hne id editor expired heq

/-- A failure settles nothing. -/
theorem not_settles_of_ends (hopen : h ≠ .changed (.forget uri))
    (hends : ∀ failure, w.Ends uri h failure ↔ failure = some e) : ¬ w.Settles uri h := by
  rintro (hforget | hwell)
  · exact hopen hforget
  · cases (hends none).mp hwell

/-- A run ends when its step does. -/
theorem ends_resumed (hrun : w.runs.get? id = some run) {failure : Option Failure} :
    w.Ends uri (.resumed id editor expired) failure ↔
      run.request.uri = uri ∧ ∃ res, (w.resolver.step editor run expired).move = .done (.ready res) ∧
        res.failure = failure := by
  constructor
  · rintro ⟨id', editor', expired', run', res, heq, hrun', hu, hanswer, hf⟩
    cases heq
    obtain ⟨run'', hrun'', hmove⟩ := done_of_answered hanswer
    rw [hrun, Option.some.injEq] at hrun' hrun''
    subst hrun' hrun''
    exact ⟨hu, res, hmove, hf⟩
  · rintro ⟨hu, res, hmove, hf⟩
    refine ⟨id, editor, expired, run, res, rfl, hrun, hu, ?_, hf⟩
    rw [step_resumed_done hrun hmove]
    simp

/-- A step of a run reports what it says, for the document of the run, and nothing else. -/
theorem reports_resumed (hrun : w.runs.get? id = some run) (editor : Editor) (expired : Bool) :
    reports (w.step (.resumed id editor expired)).2 =
      ((w.resolver.step editor run expired).report.map fun e => (run.request.uri, e)).toList := by
  have hevents : reports (Session.eventsOf run.request.uri (w.resolver.step editor run expired)) =
      ((w.resolver.step editor run expired).report.map fun e => (run.request.uri, e)).toList := by
    unfold Session.eventsOf
    cases (w.resolver.step editor run expired).report <;>
      cases (w.resolver.step editor run expired).extracts <;> rfl
  cases hmove : (w.resolver.step editor run expired).move with
  | next run' => rw [step_resumed_next hrun hmove, hevents]
  | done answer =>
      rw [step_resumed_done hrun hmove, reports, List.filterMap_append, ← reports, hevents]
      exact List.append_nil _

/-- A step reports once at most. -/
theorem length_reports_step (w : Traffic) (h : Happening) : (reports (w.step h).2).length ≤ 1 := by
  cases h with
  | asked q =>
      cases href : w.resolver.refusedBy? q.uri q.version with
      | some latest =>
          rw [step_asked_refused href]
          exact Nat.zero_le 1
      | none =>
          rw [step_asked href]
          exact Nat.zero_le 1
  | resumed id editor expired =>
      cases hrun : w.runs.get? id with
      | none =>
          rw [step_resumed_none hrun]
          exact Nat.zero_le 1
      | some run =>
          rw [reports_resumed hrun]
          exact Option.length_toList_le
  | changed change => exact Nat.zero_le 1

/-! ### What is noted -/

/-- What a happening does to the failures that are noted of a document, and what it reports of it. -/
inductive Noting (w : Traffic) (uri : Uri) (h : Happening) : Prop where
  /-- No run of the document ends in time. -/
  | quiet (noted : (w.step h).1.resolver.noted uri = w.resolver.noted uri)
      (silent : ∀ e, .reported uri e ∉ (w.step h).2) (open_ : h ≠ .changed (.forget uri))
      (running : ∀ failure, ¬ w.Ends uri h failure)
  /-- The document succeeds or is closed. -/
  | settled (noted : (w.step h).1.resolver.noted uri = [])
      (silent : ∀ e, .reported uri e ∉ (w.step h).2) (settles : w.Settles uri h)
      (unfailing : ∀ e, ¬ w.Ends uri h (some e))
  /-- A run ends with a failure that is noted already. -/
  | repeated (e : Failure) (known : (w.resolver.noted uri).any e.same = true)
      (noted : (w.step h).1.resolver.noted uri = w.resolver.noted uri)
      (silent : ∀ e, .reported uri e ∉ (w.step h).2) (open_ : h ≠ .changed (.forget uri))
      (ends : ∀ failure, w.Ends uri h failure ↔ failure = some e)
  /-- A run ends with a new failure. -/
  | new (e : Failure) (unknown : (w.resolver.noted uri).any e.same = false)
      (noted : (w.step h).1.resolver.noted uri = w.resolver.noted uri ++ [e])
      (reports : ∀ e', .reported uri e' ∈ (w.step h).2 ↔ e' = e)
      (open_ : h ≠ .changed (.forget uri)) (ends : ∀ failure, w.Ends uri h failure ↔ failure = some e)

/-- A step without a trace notes nothing. -/
theorem noting_of_traceless (h' : w.Traceless h) (hopen : h ≠ .changed (.forget uri))
    (hrunning : ∀ failure, ¬ w.Ends uri h failure) : w.Noting uri h :=
  .quiet (Resolver.noted_congr h'.2.1 uri) (h'.2.2 uri) hopen hrunning

/-- A run that ends in time notes how it went. -/
theorem noting_of_ready (hrun : w.runs.get? id = some run) {res : Resolution}
    (hmove : (w.resolver.step editor run expired).move = .done (.ready res)) (uri : Uri) :
    w.Noting uri (.resumed id editor expired) := by
  obtain ⟨hreport, hnoted⟩ := (Resolver.comes_step w.resolver editor run expired).noted hmove
  have hnew := hnoted uri
  rw [← resolver_step_resumed hrun editor expired] at hnew
  have hends : ∀ failure, w.Ends uri (.resumed id editor expired) failure ↔
      run.request.uri = uri ∧ res.failure = failure := fun failure => by
    rw [ends_resumed hrun, hmove]
    simp
  have hreports : ∀ e, .reported uri e ∈ (w.step (.resumed id editor expired)).2 ↔
      uri = run.request.uri ∧ (w.resolver.noteFailure run.request.uri res.failure).2 = some e :=
    fun e => by
      rw [← mem_reports_iff, reports_resumed hrun, hreport]
      simp [eq_comm, and_comm]
  by_cases hu : run.request.uri = uri
  · subst hu
    simp only [true_and] at hends hreports
    cases hf : res.failure with
    | none =>
        rw [hf] at hnew hreports hends
        refine .settled (hnew.trans (Resolver.noted_noteFailure_none _ _)) (fun e hm => ?_)
          (.inr ((hends none).mpr rfl)) fun e hm => ?_
        · cases (hreports e).mp hm
        · cases (hends (some e)).mp hm
    | some e =>
        rw [hf] at hnew hreports hends
        have hends' := fun failure => (hends failure).trans eq_comm
        cases hknown : (w.resolver.noted run.request.uri).any e.same with
        | true =>
            obtain ⟨hsilent, hsame⟩ := Resolver.noteFailure_of_known hknown
            refine .repeated e hknown (hnew.trans hsame) (fun e' hm => ?_) (by simp) hends'
            rw [hreports, hsilent] at hm
            cases hm
        | false =>
            obtain ⟨hfirst, hadds⟩ := Resolver.noteFailure_of_new hknown
            refine .new e hknown (hnew.trans hadds) (fun e' => ?_) (by simp) hends'
            rw [hreports, hfirst, Option.some.injEq, eq_comm]
  · refine .quiet (hnew.trans (Resolver.noted_noteFailure_of_ne hu _)) (fun e hm => ?_) (by simp)
      fun failure hm => hu ((hends failure).mp hm).1
    exact hu ((hreports e).mp hm).1.symm

/-- There is nothing else that a happening can do to what is noted. -/
theorem noting_step (w : Traffic) (uri : Uri) (h : Happening) : w.Noting uri h := by
  cases h with
  | asked q => exact noting_of_traceless (traceless_asked w q) (by simp) (not_ends_of_ne (by simp))
  | resumed id editor expired =>
      cases hrun : w.runs.get? id with
      | none =>
          have hstep := step_resumed_none hrun editor expired
          refine noting_of_traceless (by simp [Traceless, hstep]) (by simp) ?_
          rintro failure ⟨id', _, _, run, -, heq, hrun', -⟩
          cases heq
          rw [hrun] at hrun'
          cases hrun'
      | some run =>
          by_cases hready : ∃ res, (w.resolver.step editor run expired).move = .done (.ready res)
          · obtain ⟨res, hmove⟩ := hready
            exact noting_of_ready hrun hmove uri
          · refine noting_of_traceless (traceless_of_run hrun fun res hmove => hready ⟨res, hmove⟩)
              (by simp) fun failure hm => ?_
            obtain ⟨-, res, hmove, -⟩ := (ends_resumed hrun).mp hm
            exact hready ⟨res, hmove⟩
  | changed change =>
      have hsilent : ∀ e, .reported uri e ∉ (w.step (.changed change)).2 := fun e => List.not_mem_nil
      have hrunning : ∀ failure, ¬ w.Ends uri (.changed change) failure := not_ends_of_ne (by simp)
      cases change with
      | forget u =>
          by_cases hu : u = uri
          · subst hu
            exact .settled (w.resolver.noted_noteFailure_none u) hsilent (.inl rfl) (hrunning ·)
          · refine .quiet ?_ hsilent (fun heq => hu (by cases heq; rfl)) hrunning
            exact w.resolver.noted_noteFailure_of_ne hu none
      | record u version =>
          refine .quiet (Resolver.noted_congr ?_ uri) hsilent (by simp) hrunning
          show (w.resolver.begin u version).ledger = _
          rw [Resolver.begin_eq]
      | setOptions o =>
          refine .quiet (Resolver.noted_congr ?_ uri) hsilent (by simp) hrunning
          show (w.resolver.setOptions o).ledger = _
          unfold Resolver.setOptions Resolver.followBindings
          split <;> rfl
      | setExtractor x => exact .quiet rfl hsilent (by simp) hrunning
      | useCache use => exact .quiet rfl hsilent (by simp) hrunning

/-- What is noted is what stands. -/
theorem noted_iff_standing {r : Resolver} (hr : r.Fresh x) (hs : List Happening) (uri : Uri)
    (e : Failure) :
    (((idle r).after hs).resolver.noted uri).any e.same = true ↔ (idle r).Standing hs uri e := by
  induction hs using List.reverseRecOn with
  | nil =>
      have hnone : r.noted uri = [] := by cases hr <;> rfl
      rw [after_nil, idle, hnone]
      exact ⟨fun h => absurd h (by simp), fun h => absurd h (not_standing_nil _ _ _)⟩
  | append_singleton hs h ih =>
      rw [standing_append, ← ih, after_append, after_cons, after_nil]
      generalize (idle r).after hs = w
      cases noting_step w uri h with
      | quiet noted _ hopen running =>
          have hsettles : ¬ w.Settles uri h := fun hs => hs.elim hopen (running none)
          simp [noted, running, hsettles]
      | settled noted _ settles unfailing => simp [noted, settles, unfailing]
      | repeated e₀ known noted _ hopen ends =>
          have hsettles := not_settles_of_ends hopen ends
          have hold : e.same e₀ = true → (w.resolver.noted uri).any e.same = true := fun hsame => by
            obtain ⟨k, hk, hsame'⟩ := List.any_eq_true.mp known
            exact List.any_eq_true.mpr ⟨k, hk, Failure.same_trans hsame hsame'⟩
          simp only [noted, ends, Option.some.injEq, exists_eq_left, hsettles, not_false_eq_true,
            and_true]
          exact ⟨.inr, fun hm => hm.elim hold id⟩
      | new e₀ _ noted _ hopen ends =>
          have hsettles := not_settles_of_ends hopen ends
          simp only [noted, ends, Option.some.injEq, exists_eq_left, hsettles, not_false_eq_true,
            and_true, List.any_append, List.any_cons, List.any_nil, Bool.or_false, Bool.or_eq_true]
          exact or_comm

end Traffic

/-! ### A sample -/

namespace Sample

/-- A document without an import. -/
def importless (version : Int) : Request := ⟨uri, "", version⟩

/-- The run with the given number, for the given version, up to its last step. -/
def failing (id : Nat) (version : Int) : List Happening :=
  [.asked (importless version), .resumed id (editor version) false]

end Sample

namespace Traffic

variable {x : Extractor}

/-- A failure is reported by a run that ends with it in time, if no run of the document has ended with
one of the same cause since the document last succeeded or was closed; otherwise it is not, and nothing
else is ever reported.  A step reports once at most. -/
theorem reported_iff {r : Resolver} (hr : r.Fresh x) (hs : List Happening) (h : Happening) :
    (∀ uri e, .reported uri e ∈ (((idle r).after hs).step h).2 ↔
      ((idle r).after hs).Ends uri h (some e) ∧ ¬ (idle r).Standing hs uri e) ∧
    (reports (((idle r).after hs).step h).2).length ≤ 1 := by
  refine ⟨fun uri e => ?_, length_reports_step _ h⟩
  rw [← noted_iff_standing hr]
  generalize (idle r).after hs = w
  cases noting_step w uri h with
  | quiet _ silent _ running => simp [silent, running]
  | settled _ silent _ unfailing => simp [silent, unfailing]
  | repeated e₀ known _ silent _ ends =>
      simp only [silent, ends, Option.some.injEq, false_iff, not_and, not_not]
      rintro rfl
      exact known
  | new e₀ unknown _ reports _ ends =>
      simp only [reports, ends, Option.some.injEq]
      exact ⟨fun he => ⟨he, by simp [he, unknown]⟩, And.left⟩

open Sample in
/-- The same failure twice, and once more after the document was closed: the second one is not reported,
since the first one still stands. -/
theorem reported_iff_of_failing :
    let w := idle Sample.resolver
    let last id := .resumed id (editor 1) false
    let once := failing 0 1
    let twice := once ++ last 0 :: failing 1 2
    let closed := twice ++ [last 1, .changed (.forget uri)] ++ failing 2 3
    (reports ((w.after once).step (last 0)).2 = [(uri, .noImport)] ∧ ¬ w.Standing once uri .noImport) ∧
      (reports ((w.after twice).step (last 1)).2 = [] ∧ w.Standing twice uri .noImport) ∧
      reports ((w.after closed).step (last 2)).2 = [(uri, .noImport)] ∧
        ¬ w.Standing closed uri .noImport := by
  intro w last once twice closed
  have hiff : ∀ hs h, .reported uri .noImport ∈ ((w.after hs).step h).2 ↔
      (w.after hs).Ends uri h (some .noImport) ∧ ¬ w.Standing hs uri .noImport := fun hs h =>
    (reported_iff (.ofOptions {}) hs h).1 uri .noImport
  have hanew : ∀ hs h, reports ((w.after hs).step h).2 = [(uri, .noImport)] →
      ¬ w.Standing hs uri .noImport := fun hs h hreports =>
    ((hiff hs h).mp (mem_reports_iff.mp (by rw [hreports]; exact List.mem_cons_self))).2
  have honce : reports ((w.after once).step (last 0)).2 = [(uri, .noImport)] := by cbv
  have hclosed : reports ((w.after closed).step (last 2)).2 = [(uri, .noImport)] := by cbv
  have htwice : ((w.after twice).step (last 1)).2 =
      [.answered 1 (.ready ⟨uri, 2, none, [], some .noImport, .failed⟩)] := by cbv
  have hends : (w.after twice).Ends uri (last 1) (some .noImport) :=
    ⟨1, editor 1, false, ⟨importless 2, ⟨"App.tsx", 2, .scanning, 0⟩, .scanning {}⟩, _, rfl, by cbv, rfl,
      by rw [htwice]; exact List.mem_cons_self, rfl⟩
  refine ⟨⟨honce, hanew once _ honce⟩, ⟨by rw [htwice]; rfl, ?_⟩, hclosed, hanew closed _ hclosed⟩
  by_contra hnot
  have hmem := (hiff twice (last 1)).mpr ⟨hends, hnot⟩
  rw [htwice] at hmem
  simp at hmem

end Traffic

end ClassLens
