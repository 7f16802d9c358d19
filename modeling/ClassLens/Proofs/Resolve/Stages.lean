import ClassLens.Proofs.Resolve.Versions
import ClassLens.Proofs.Usage.Sites

/-! # The stages of a run, and its result

A run counts its stages as it goes, and a move that is not allowed would be refused and leave the run
behind.  No move ever is; so the stage of a result tells how the run has ended, and the rest of the
result agrees with it.

* `Progress.move?`: makes a move, if it is allowed, and stops otherwise.
* `Resolver.Strict.step`: a step in which every move has to be allowed.
* `Run.Informed`: what a run has found is what its request asks for.
* `Resolution.WellFormed q res`: the parts of the result of a request agree with each other.

**Main statements.** `Resolver.Strict.step_eq`: a staged run makes allowed moves only.
`Resolver.wellFormed_of_ready`: a run ends with a well-formed result.  `Traffic.moves_allowed`: both of
them, for all runs of a resolver. -/

namespace ClassLens

open Usage

/-! ### Moves that have to be allowed -/

/-- Makes a move that is allowed. -/
def Progress.move? (p : Progress) (next : Stage) : Option Progress :=
  if p.stage.mayMove next then some { p with stage := next } else none

theorem Progress.move?_eq {p : Progress} {next : Stage} (h : p.stage.mayMove next = true) :
    p.move? next = some (p.advance next).1 := by
  rw [move?, advance, if_pos h, if_pos h]

namespace Resolver

namespace Strict

/-- The end of a run: overtaken, or with a result that is kept and reported. -/
def finish (r : Resolver) (run : Run) (source : Option CssSource) (annotations : List Annotation)
    (failure : Option Failure) : Option RunStep :=
  let q := run.request
  match r.supersededBy? q.uri q.version with
  | some latest => some { resolver := r, move := .done (.stale q.version latest) }
  | none => do
    let progress ← run.progress.move? (if failure.isSome then .failed else .ready)
    let (r, report) := r.noteFailure q.uri failure
    let resolution : Resolution :=
      ⟨q.uri, q.version, source, annotations, failure, progress.stage⟩
    return { resolver := r.store resolution, move := .done (.ready resolution), report }

/-- Matches the usages of a job, unless the run was overtaken. -/
def annotate (r : Resolver) (run : Run) (job : Job) (index : ClassIndex) : Option RunStep :=
  let q := run.request
  match r.supersededBy? q.uri q.version with
  | some latest => some { resolver := r, move := .done (.stale q.version latest) }
  | none => do
    let progress ← run.progress.move? .matching
    finish r { run with progress } (some ⟨job.specifier, some job.path⟩)
      (index.annotateAll job.usages) none

/-- Scans, locates and reads the stylesheet, and looks its rules up. -/
def scanAndLocate (r : Resolver) (editor : Editor) (run : Run) (options : Options) :
    Option RunStep := do
  let q := run.request
  let first := (imports q.text).head?
  let usages := (r.scannerFor first options).scan q.version q.text
  let progress ← run.progress.move? .resolvingPath
  let run := { run with progress }
  match first with
  | none => finish r run none [] (some .noImport)
  | some found =>
    match editor.locate q.uri found.specifier with
    | none =>
      finish r run (some ⟨found.specifier, none⟩) []
        (some (.unresolved found.specifier "the editor could not map the import to a file"))
    | some path =>
      match editor.read path with
      | .error reason =>
        finish r run (some ⟨found.specifier, some path⟩) []
          (some (.unresolved found.specifier (path.text ++ ": " ++ reason)))
      | .ok css => do
        let progress ← run.progress.move? .extractingRules
        let run := { run with progress }
        let job : Job := ⟨usages, found.specifier, path, css, options.timeout⟩
        match r.cache.get path (digest css) with
        | (some index, cache) => annotate { r with cache } run job index
        | (none, cache) =>
          return { resolver := { r with cache }, move := .next { run with phase := .locating job } }

/-- The step after an extraction. -/
def receive (r : Resolver) (run : Run) (job : Job) (extraction : Extraction) (expired : Bool) :
    Option RunStep :=
  let fail (message : String) : Option RunStep :=
    finish r run (some ⟨job.specifier, some job.path⟩) [] (some (.extraction job.path message))
  if expired then fail ("extractor timed out after " ++ toString job.timeout ++ " ms")
  else
    match extraction.result with
    | .error fault => fail fault.message
    | .ok sheet =>
      let index := ClassIndex.ofSheet sheet
      annotate { r with cache := r.cache.insert job.path (digest job.css) index } run job index

/-- Goes on to the next stop or to the end; none if it makes a move that is not allowed. -/
def step (r : Resolver) (editor : Editor) (run : Run) (expired : Bool) : Option RunStep :=
  match run.phase with
  | .begun => do
    let progress ← run.progress.move? .scanning
    return { resolver := r, move := .next { run with progress, phase := .scanning r.options } }
  | .scanning options => scanAndLocate r editor run options
  | .locating job =>
    some { resolver := r
           move := .next { run with phase := .extracting job (r.extractor.extract job.css) }
           extracts := true }
  | .extracting job extraction => receive r run job extraction expired

end Strict

variable {r : Resolver} {run : Run} {editor : Editor} {expired : Bool}

namespace Strict

theorem finish_eq {source : Option CssSource} {annotations : List Annotation}
    {failure : Option Failure}
    (h : run.progress.stage.mayMove (if failure.isSome then .failed else .ready) = true) :
    finish r run source annotations failure = some (r.finish run source annotations failure) := by
  simp only [finish, Resolver.finish, Progress.move?_eq h, Option.bind_eq_bind, Option.bind_some]
  cases r.supersededBy? run.request.uri run.request.version <;> rfl

theorem annotate_eq (h : run.progress.stage = .extractingRules) (job : Job) (index : ClassIndex) :
    annotate r run job index = some (r.annotate run job index) := by
  have hmatching : run.progress.stage.mayMove .matching = true := by rw [h]; rfl
  have hready : (run.progress.advance .matching).1.stage = .matching :=
    Progress.stage_advance hmatching
  simp only [annotate, Resolver.annotate, Progress.move?_eq hmatching, Option.bind_eq_bind,
    Option.bind_some]
  cases r.supersededBy? run.request.uri run.request.version with
  | some latest => rfl
  | none => exact finish_eq (by rw [hready]; rfl)

theorem scanAndLocate_eq (h : run.progress.stage = .scanning) (options : Options) :
    scanAndLocate r editor run options = some (r.scanAndLocate editor run options) := by
  have hpath : run.progress.stage.mayMove .resolvingPath = true := by rw [h]; rfl
  have hstage : (run.progress.advance .resolvingPath).1.stage = .resolvingPath :=
    Progress.stage_advance hpath
  have hrules : (run.progress.advance .resolvingPath).1.stage.mayMove .extractingRules = true := by
    rw [hstage]; rfl
  simp only [scanAndLocate, Resolver.scanAndLocate, Progress.move?_eq hpath, Option.bind_eq_bind,
    Option.bind_some, Progress.move?_eq hrules]
  cases (imports run.request.text).head? with
  | none => exact finish_eq (by rw [hstage]; rfl)
  | some found =>
      simp only
      cases editor.locate run.request.uri found.specifier with
      | none => exact finish_eq (by rw [hstage]; rfl)
      | some path =>
          simp only
          cases editor.read path with
          | error reason => exact finish_eq (by rw [hstage]; rfl)
          | ok css =>
              simp only
              cases r.cache.get path (digest css) with
              | mk hit cache =>
                  cases hit with
                  | none => rfl
                  | some index => exact annotate_eq (Progress.stage_advance hrules) _ _

theorem receive_eq (h : run.progress.stage = .extractingRules) (job : Job) (extraction : Extraction)
    (expired : Bool) :
    receive r run job extraction expired = some (r.receive run job extraction expired) := by
  simp only [receive, Resolver.receive]
  cases expired with
  | true => exact finish_eq (by rw [h]; rfl)
  | false =>
      cases extraction.result with
      | error fault => exact finish_eq (by rw [h]; rfl)
      | ok sheet => exact annotate_eq h _ _

/-- A staged run makes only moves that are allowed. -/
theorem step_eq (h : run.Staged) (r : Resolver) (editor : Editor) (expired : Bool) :
    step r editor run expired = some (r.step editor run expired) := by
  unfold Run.Staged at h
  cases hphase : run.phase with
  | begun =>
      simp only [hphase] at h
      have hscanning : run.progress.stage.mayMove .scanning = true := by rw [h]; rfl
      simp only [step, Resolver.step, hphase, Progress.move?_eq hscanning]
      rfl
  | scanning options =>
      simp only [hphase] at h
      simp only [step, Resolver.step, hphase]
      exact scanAndLocate_eq h options
  | locating job => simp only [step, Resolver.step, hphase]
  | extracting job extraction =>
      simp only [hphase] at h
      simp only [step, Resolver.step, hphase]
      exact receive_eq h job extraction expired

end Strict

end Resolver

/-! ### What a run has found -/

/-- All usages that a scanner reports are of the version that was scanned. -/
theorem Usage.version_of_mem_scan {s : Scanner} {version : Int} {text : String} {u : Site}
    (h : u ∈ s.scan version text) : u.version = version := by
  obtain ⟨front, binding, token, back, -, -, rfl⟩ := occurs_of_mem_sites h
  rfl

/-- What a run has found is what its request asks for: the first import of the text, and usages under
the version of the request. -/
def Run.Informed (run : Run) : Prop :=
  ∀ job, run.job? = some job →
    (imports run.request.text).head?.map CssImport.specifier = some job.specifier ∧
      ∀ u ∈ job.usages, u.version = run.request.version

/-- The parts of the result of a request agree with each other. -/
structure Resolution.WellFormed (q : Request) (res : Resolution) : Prop where
  uri : res.uri = q.uri
  version : res.version = q.version
  /-- The stage tells whether the run has failed. -/
  stage : res.stage = if res.failure = none then .ready else .failed
  /-- A run that is overtaken has no result. -/
  current : ∀ version latest, res.failure ≠ some (.superseded version latest)
  /-- A run that has failed annotates nothing. -/
  annotations : res.failure ≠ none → res.annotations = []
  /-- Only a text without imports has no source. -/
  source : res.source = none ↔ res.failure = some .noImport
  /-- The source is named as the first import names it. -/
  named : ∀ source, res.source = some source →
    (imports q.text).head?.map CssImport.specifier = some source.specifier
  /-- Only an import that names no file has a source without a path. -/
  located : ∀ source, res.source = some source → source.path = none →
    ∃ specifier reason, res.failure = some (.unresolved specifier reason)
  /-- An import that cannot be resolved is the first one. -/
  unresolved : ∀ specifier reason, res.failure = some (.unresolved specifier reason) →
    (imports q.text).head?.map CssImport.specifier = some specifier
  /-- What cannot be extracted is the file of the source. -/
  extraction : ∀ path message, res.failure = some (.extraction path message) →
    res.path? = some path
  /-- A run that has not failed has a source with a path, and annotates usages of its version. -/
  succeeded : res.failure = none →
    (∃ path, res.path? = some path) ∧ ∀ a ∈ res.annotations, a.usage.version = res.version

namespace Resolver

variable {r : Resolver} {run : Run} {editor : Editor} {expired : Bool} {q : Request}

/-- What is not found is no import, or the file of the first one. -/
theorem eq_of_seek_error {options : Options} {source : Option CssSource} {failure : Failure}
    (h : r.seek editor q options = .error (source, failure)) :
    (imports q.text).head? = none ∧ source = none ∧ failure = .noImport ∨
      ∃ found path reason, (imports q.text).head? = some found ∧
        source = some ⟨found.specifier, path⟩ ∧ failure = .unresolved found.specifier reason := by
  unfold seek at h
  split at h
  · rename_i hnone
    cases h
    exact .inl ⟨hnone, rfl, rfl⟩
  · rename_i found hfound
    right
    split at h
    · cases h
      exact ⟨found, none, _, hfound, rfl, rfl⟩
    · split at h
      · cases h
        exact ⟨found, _, _, hfound, rfl, rfl⟩
      · cases h

/-- What is found is informed. -/
theorem informed_of_seek {options : Options} {job : Job} (h : r.seek editor q options = .ok job) :
    (imports q.text).head?.map CssImport.specifier = some job.specifier ∧
      ∀ u ∈ job.usages, u.version = q.version := by
  obtain ⟨found, hfound, -, -, husages, hspecifier⟩ := eq_of_seek_ok h
  refine ⟨by rw [hfound, hspecifier]; rfl, fun u hu => ?_⟩
  rw [husages] at hu
  exact version_of_mem_scan hu

/-- A run that goes on stays informed. -/
theorem informed_of_next (h : run.Informed) {run' : Run}
    (hmove : (r.step editor run expired).move = .next run') : run'.Informed := by
  intro job hjob
  rw [(comes_step r editor run expired).request_of_next hmove]
  cases hphase : run.phase with
  | begun =>
      simp only [step, hphase, Move.next.injEq] at hmove
      rw [← hmove] at hjob
      cases hjob
  | scanning options =>
      obtain ⟨job', hsought, hjob'⟩ := seek_of_scanning hphase hmove
      rw [hjob', Option.some.injEq] at hjob
      exact informed_of_seek (hjob ▸ hsought)
  | locating job' | extracting job' extraction =>
      have hold : run.job? = some job' := by simp only [Run.job?, hphase]
      rw [job?_of_next hold hmove, Option.some.injEq] at hjob
      exact hjob ▸ h job' hold

/-! ### Results -/

/-- The result of a run that has found no stylesheet. -/
theorem wellFormed_of_seek_error {options : Options} {source : Option CssSource} {failure : Failure}
    (h : r.seek editor q options = .error (source, failure)) :
    Resolution.WellFormed q ⟨q.uri, q.version, source, [], some failure, .failed⟩ := by
  rcases eq_of_seek_error h with ⟨hnone, rfl, rfl⟩ | ⟨found, path, reason, hfound, rfl, rfl⟩
  · constructor <;> simp
  · constructor <;> simp [hfound]

/-- The result of a run whose stylesheet could not be extracted. -/
theorem wellFormed_of_fault {job : Job}
    (hnamed : (imports q.text).head?.map CssImport.specifier = some job.specifier)
    (message : String) :
    Resolution.WellFormed q ⟨q.uri, q.version, some ⟨job.specifier, some job.path⟩, [],
      some (.extraction job.path message), .failed⟩ := by
  constructor <;> simp_all [Resolution.path?]

/-- The result of a run that has matched its usages. -/
theorem wellFormed_of_index {job : Job}
    (hnamed : (imports q.text).head?.map CssImport.specifier = some job.specifier)
    (husages : ∀ u ∈ job.usages, u.version = q.version) (index : ClassIndex) :
    Resolution.WellFormed q ⟨q.uri, q.version, some ⟨job.specifier, some job.path⟩,
      index.annotateAll job.usages, none, .ready⟩ := by
  have hversions : ∀ a ∈ index.annotateAll job.usages, a.usage.version = q.version := by
    intro a ha
    obtain ⟨u, hu, rfl⟩ := List.mem_map.mp ha
    exact husages u hu
  constructor <;> simp_all [Resolution.path?]

/-- A run that is staged and informed ends with a well-formed result. -/
theorem wellFormed_of_ready (hstaged : run.Staged) (hinformed : run.Informed) {res : Resolution}
    (hmove : (r.step editor run expired).move = .done (.ready res)) :
    res.WellFormed run.request := by
  unfold Run.Staged at hstaged
  cases hphase : run.phase with
  | begun => simp [step, hphase] at hmove
  | scanning options =>
      simp only [hphase] at hstaged
      simp only [step, hphase, scanAndLocate_of_staged r editor hstaged options] at hmove
      split at hmove
      · rename_i source failure hsought
        rw [ready_of_finish (by rfl) hmove]
        exact wellFormed_of_seek_error hsought
      · rename_i job hsought
        obtain ⟨hnamed, husages⟩ := informed_of_seek hsought
        unfold lookUp at hmove
        split at hmove
        · rw [ready_of_annotate (by rfl) hmove]
          exact wellFormed_of_index hnamed husages _
        · cases hmove
  | locating job => simp [step, hphase] at hmove
  | extracting job extraction =>
      simp only [hphase] at hstaged
      have hfailed : run.progress.stage.mayMove .failed = true := by rw [hstaged]; rfl
      obtain ⟨hnamed, husages⟩ := hinformed job (by simp only [Run.job?, hphase])
      simp only [step, hphase, receive] at hmove
      split at hmove
      · rw [ready_of_finish hfailed hmove]
        exact wellFormed_of_fault hnamed _
      · split at hmove
        · rw [ready_of_finish hfailed hmove]
          exact wellFormed_of_fault hnamed _
        · rw [ready_of_annotate hstaged hmove]
          exact wellFormed_of_index hnamed husages _

end Resolver

/-! ### A sample -/

namespace Sample

/-- A run that waits for an extraction. -/
def expiring : List Happening :=
  .asked (request 1) :: List.replicate 3 (.resumed 0 (editor 1) false)

/-- What it comes to if the extraction takes too long. -/
def expired : Resolution :=
  { resolution 1 with
    annotations := []
    failure := some (.extraction ⟨[0x61]⟩ "extractor timed out after 5000 ms")
    stage := .failed }

end Sample

namespace Traffic

variable {w : Traffic}

/-! ### All runs -/

/-- All runs that are under way are staged and informed. -/
def Conducted (w : Traffic) : Prop :=
  ∀ id run, w.runs.get? id = some run → run.Staged ∧ run.Informed

theorem conducted_step (hw : w.Conducted) (h : Happening) : (w.step h).1.Conducted := by
  intro id run hrun
  refine ⟨staged_step (fun id run hrun => (hw id run hrun).1) h id run hrun, ?_⟩
  cases became_of_step hrun with
  | stayed old => exact (hw id run old).2
  | begun q idle => exact fun job hjob => by cases hjob
  | went old move => exact Resolver.informed_of_next (hw id _ old).2 move

theorem conducted_after (r : Resolver) (hs : List Happening) : ((idle r).after hs).Conducted := by
  induction hs using List.reverseRecOn with
  | nil => exact fun id run hrun => by simp [idle] at hrun
  | append_singleton hs h ih =>
      rw [after_append]
      exact conducted_step ih h

/-- A result of a document is the answer to a run. -/
theorem answered_of_mem_results {uri : Uri} {events : List Event} {id : Nat} {res : Resolution}
    (h : (id, res) ∈ results uri events) : .answered id (.ready res) ∈ events := by
  obtain ⟨event, hmem, hresult⟩ := List.mem_filterMap.mp h
  unfold result? at hresult
  split at hresult
  · split at hresult
    · rw [Option.some.injEq, Prod.mk.injEq] at hresult
      obtain ⟨rfl, rfl⟩ := hresult
      exact hmem
    · cases hresult
  · cases hresult

/-- Whatever the state of a resolver, and whatever happens to it and to the runs in it: every move that
a run makes is allowed, and a run that is not overtaken is answered with a well-formed result of its
request. -/
theorem moves_allowed (r : Resolver) (hs : List Happening) :
    (∀ id run, ((idle r).after hs).runs.get? id = some run → ∀ editor expired,
      Resolver.Strict.step ((idle r).after hs).resolver editor run expired =
        some (((idle r).after hs).resolver.step editor run expired)) ∧
    ∀ id q res, (idle r).Completes hs id q (.ready res) → res.WellFormed q := by
  refine ⟨fun id run hrun editor expired => ?_, fun id q res hc => ?_⟩
  · exact Resolver.Strict.step_eq (conducted_after r hs id run hrun).1 _ editor expired
  · rcases hc.cases (numbered_idle r) with
      ⟨past, latest, -, -, hstale⟩ | ⟨past, editor, expired, run, -, -, hrun, rfl, hmove⟩
    · cases hstale
    · obtain ⟨hstaged, hinformed⟩ := conducted_after r past id run hrun
      exact Resolver.wellFormed_of_ready hstaged hinformed hmove

open Sample in
/-- A run whose extraction takes too long fails for the file of its source, and this is an allowed
move. -/
theorem moves_allowed_of_expiring :
    let w := (idle Sample.resolver).after expiring
    let last := .resumed 0 (editor 1) true
    .answered 0 (.ready expired) ∈ (w.step last).2 ∧ expired.path? = some ⟨[0x61]⟩ ∧
      ∃ run, w.runs.get? 0 = some run ∧
        Resolver.Strict.step w.resolver (editor 1) run true =
          some (w.resolver.step (editor 1) run true) := by
  intro w last
  have hresults : results Sample.uri (w.step last).2 = [(0, expired)] := by decide +kernel
  have hanswer : .answered 0 (.ready expired) ∈ (w.step last).2 :=
    answered_of_mem_results (hresults ▸ List.mem_singleton_self _)
  have hc : (idle Sample.resolver).Completes (expiring ++ [last]) 0 (request 1) (.ready expired) :=
    ⟨⟨[], _, rfl, rfl⟩, expiring, last, rfl, hanswer⟩
  obtain ⟨hmoves, -⟩ := moves_allowed Sample.resolver expiring
  obtain ⟨-, hwell⟩ := moves_allowed Sample.resolver (expiring ++ [last])
  obtain ⟨run, hrun⟩ : ∃ run, w.runs.get? 0 = some run :=
    Option.isSome_iff_exists.mp (by decide +kernel)
  exact ⟨hanswer, (hwell 0 (request 1) expired hc).extraction _ _ rfl, run, hrun,
    hmoves 0 run hrun (editor 1) true⟩

end Traffic

end ClassLens
