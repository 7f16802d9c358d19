import ClassLens.Proofs.Resolve.Transparency

/-! # Resolving afresh

What a run comes to depends on its request and on what it finds when it scans and locates, and on
nothing that happens before or after.

* `Request.outcome q x sought`: the resolution that the request comes to, if this was found;
  `Request.timedOut q job`, if the extraction takes too long.
* `Resolver.afresh r editor q`: what it comes to for one who begins now and remembers nothing.
* `Run.Staged`: the run has made the moves that lead to where it stands.
* `Run.OnCourse r editor run`: the run has found what would be found now.

**Main statements.** `Resolver.outcome_of_scanning`, `Resolver.outcome_of_job`: a run ends with the
outcome of what it found.  `Resolver.afresh_of_onCourse`: a run that is on course ends as if it had
begun now.  `Resolver.answered_afresh`: a resolver that remembers nothing gives just this answer. -/

namespace ClassLens

open Usage

variable {x : Extractor} {sheets : String → Prop}

/-- What is found when a request is scanned and located. -/
abbrev Sought := Except (Option CssSource × Failure) Job

/-- The resolution that a request comes to, given what was found: the failure to find a stylesheet,
the extractor's fault, or for each usage the rules that name its class. -/
def Request.outcome (q : Request) (x : Extractor) : Sought → Resolution
  | .error (source, failure) => ⟨q.uri, q.version, source, [], some failure, .failed⟩
  | .ok job =>
    let source : CssSource := ⟨job.specifier, some job.path⟩
    match (x.extract job.css).result with
    | .error fault =>
      ⟨q.uri, q.version, some source, [], some (.extraction job.path fault.message), .failed⟩
    | .ok sheet =>
      ⟨q.uri, q.version, some source,
        job.usages.map fun u => ⟨u, sheet.rules.filter fun r => r.names u.className⟩, none, .ready⟩

/-- What is found is found in the place that the first import names. -/
theorem Request.path?_outcome (q : Request) (x : Extractor) {r : Resolver} {editor : Editor}
    {options : Options} {found : CssImport} {path : Path} (hfound : (imports q.text).head? = some found)
    (hpath : editor.locate q.uri found.specifier = some path) :
    (q.outcome x (r.seek editor q options)).path? = some path := by
  simp only [Resolver.seek, hfound, hpath]
  cases editor.read path with
  | error reason => rfl
  | ok css =>
      simp only [outcome]
      split <;> rfl

/-- The resolution that a request comes to if the extraction takes too long. -/
def Request.timedOut (q : Request) (job : Job) : Resolution :=
  ⟨q.uri, q.version, some ⟨job.specifier, some job.path⟩, [],
    some (.extraction job.path ("extractor timed out after " ++ toString job.timeout ++ " ms")),
    .failed⟩

/-- What resolving a request comes to for one who begins now and remembers nothing. -/
def Resolver.afresh (r : Resolver) (editor : Editor) (q : Request) : Resolution :=
  q.outcome r.extractor (r.seek editor q r.options)

@[simp] theorem Request.uri_outcome (q : Request) (x : Extractor) (sought : Sought) :
    (q.outcome x sought).uri = q.uri := by
  unfold outcome
  split
  · rfl
  · split <;> rfl

@[simp] theorem Request.version_outcome (q : Request) (x : Extractor) (sought : Sought) :
    (q.outcome x sought).version = q.version := by
  unfold outcome
  split
  · rfl
  · split <;> rfl

/-- What the cache knows of a stylesheet is what the extractor gives for it. -/
def Cache.Recalls (c : Cache) (x : Extractor) (job : Job) : Prop :=
  ∀ index, (c.get job.path (digest job.css)).1 = some index →
    ∃ sheet, (x.extract job.css).result = .ok sheet ∧ index = .ofSheet sheet

theorem Cache.recalls_of_holds (hinj : ∀ a b, sheets a → sheets b → digest a = digest b → a = b)
    {c : Cache} (h : c.Holds (Genuine x sheets)) {job : Job} (hcss : sheets job.css) :
    c.Recalls x job := by
  intro index hhit
  obtain ⟨css, sheet, hs, hresult, hd, rfl⟩ := Cache.of_hit h (Prod.ext hhit rfl)
  obtain rfl : job.css = css := hinj _ _ hcss hs hd
  exact ⟨sheet, hresult, rfl⟩

/-- An empty cache knows nothing. -/
theorem Cache.recalls_of_empty {c : Cache} (h : c.entries = .empty) (job : Job) :
    c.Recalls x job := by
  intro index hhit
  simp [get, h] at hhit

/-! ### Stages -/

/-- The run has made the moves that lead to where it stands. -/
def Run.Staged (run : Run) : Prop :=
  run.progress.stage =
    match run.phase with
    | .begun => .idle
    | .scanning _ => .scanning
    | .locating _ | .extracting _ _ => .extractingRules

theorem Progress.stage_advance {p : Progress} {next : Stage} (h : p.stage.mayMove next = true) :
    (p.advance next).1.stage = next := by
  rw [advance, if_pos h]

namespace Resolver

variable {r : Resolver} {run : Run} {editor : Editor} {expired : Bool}

/-- A run that goes on to its end keeps count of its stages. -/
theorem scanAndLocate_of_staged (r : Resolver) (editor : Editor) {run : Run}
    (h : run.progress.stage = .scanning) (options : Options) :
    r.scanAndLocate editor run options =
      match r.seek editor run.request options with
      | .error (source, failure) =>
        r.finish { run with progress := { run.progress with stage := .resolvingPath } } source []
          (some failure)
      | .ok job =>
        r.lookUp { run with progress := { run.progress with stage := .extractingRules } } job := by
  have hpath : run.progress.advance .resolvingPath =
      ({ run.progress with stage := .resolvingPath }, true) := by
    rw [Progress.advance, h]
    rfl
  have hrules : ({ run.progress with stage := .resolvingPath } : Progress).advance .extractingRules =
      ({ run.progress with stage := .extractingRules }, true) := rfl
  simp only [scanAndLocate, seek, lookUp, hpath, hrules]
  cases (imports run.request.text).head? with
  | none => rfl
  | some found =>
      simp only
      cases editor.locate run.request.uri found.specifier with
      | none => rfl
      | some path =>
          simp only
          cases editor.read path with
          | error reason => rfl
          | ok css =>
              simp only
              cases r.cache.get path (digest css) with
              | mk hit cache => cases hit <;> rfl

/-- A run that goes on stays staged. -/
theorem staged_of_next (h : run.Staged) {run' : Run}
    (hmove : (r.step editor run expired).move = .next run') : run'.Staged := by
  unfold Run.Staged at h
  unfold step at hmove
  split at hmove
  · rename_i hphase
    simp only [hphase] at h
    simp only [Move.next.injEq] at hmove
    subst hmove
    exact Progress.stage_advance (by rw [h]; rfl)
  · rename_i options hphase
    simp only [hphase] at h
    rw [scanAndLocate_of_staged r editor h options] at hmove
    split at hmove
    · obtain ⟨answer, hdone⟩ := exists_done_finish r
        { run with progress := { run.progress with stage := .resolvingPath } } _ [] _
      rw [hdone] at hmove
      cases hmove
    · rename_i job _
      unfold lookUp at hmove
      split at hmove
      · obtain ⟨answer, hdone⟩ := exists_done_annotate { r with cache := _ }
          { run with progress := { run.progress with stage := .extractingRules } } job _
        rw [hdone] at hmove
        cases hmove
      · simp only [Move.next.injEq] at hmove
        subst hmove
        rfl
  · rename_i job hphase
    simp only [hphase] at h
    simp only [Move.next.injEq] at hmove
    subst hmove
    exact h
  · rename_i job extraction hphase
    obtain ⟨answer, hdone⟩ := exists_done_receive r run job extraction expired
    rw [hdone] at hmove
    cases hmove

/-! ### Ends -/

/-- A run that is not overtaken ends with what it was given, in the stage that this calls for. -/
theorem ready_of_finish {source : Option CssSource} {annotations : List Annotation}
    {failure : Option Failure} {res : Resolution}
    (hstage : run.progress.stage.mayMove (if failure.isSome then .failed else .ready) = true)
    (h : (r.finish run source annotations failure).move = .done (.ready res)) :
    res = ⟨run.request.uri, run.request.version, source, annotations, failure,
      if failure.isSome then .failed else .ready⟩ := by
  simp only [finish] at h
  split at h
  · simp at h
  · simp only [Move.done.injEq, Answer.ready.injEq] at h
    rw [← h, Progress.stage_advance hstage]

theorem ready_of_annotate {job : Job} {index : ClassIndex} {res : Resolution}
    (hstage : run.progress.stage = .extractingRules)
    (h : (r.annotate run job index).move = .done (.ready res)) :
    res = ⟨run.request.uri, run.request.version, some ⟨job.specifier, some job.path⟩,
      index.annotateAll job.usages, none, .ready⟩ := by
  simp only [annotate] at h
  split at h
  · simp at h
  · have hmatching : (run.progress.advance .matching).1.stage = .matching :=
      Progress.stage_advance (by rw [hstage]; rfl)
    exact (ready_of_finish (by rw [hmatching]; rfl) h :)

/-- A run that has read its stylesheet ends with the outcome of it. -/
theorem outcome_of_job (hfaithful : run.Faithful x sheets) (hstaged : run.Staged) {job : Job}
    (hjob : run.job? = some job) {res : Resolution}
    (hmove : (r.step editor run false).move = .done (.ready res)) :
    res = run.request.outcome x (.ok job) := by
  unfold Run.job? at hjob
  split at hjob
  · cases hjob
  · cases hjob
  · rename_i job' hphase
    simp only [step, hphase] at hmove
    cases hmove
  · rename_i job' extraction hphase
    rw [Option.some.injEq] at hjob
    subst hjob
    simp only [Run.Faithful, hphase] at hfaithful
    simp only [Run.Staged, hphase] at hstaged
    simp only [step, hphase, hfaithful.2, receive] at hmove
    cases hresult : (x.extract job'.css).result with
    | error fault =>
        simp only [hresult, Bool.false_eq_true, if_false] at hmove
        rw [ready_of_finish (by rw [hstaged]; rfl) hmove]
        simp only [Request.outcome, hresult]
        rfl
    | ok sheet =>
        simp only [hresult, Bool.false_eq_true, if_false] at hmove
        rw [ready_of_annotate hstaged hmove]
        simp only [Request.outcome, hresult, ClassIndex.annotateAll_ofSheet]

/-- A run whose extraction takes too long ends with this fault. -/
theorem timedOut_of_expired (hstaged : run.Staged) {job : Job} (hjob : run.job? = some job)
    {res : Resolution} (hmove : (r.step editor run true).move = .done (.ready res)) :
    res = run.request.timedOut job := by
  unfold Run.job? at hjob
  split at hjob
  · cases hjob
  · cases hjob
  · rename_i job' hphase
    simp only [step, hphase] at hmove
    cases hmove
  · rename_i job' extraction hphase
    rw [Option.some.injEq] at hjob
    subst hjob
    simp only [Run.Staged, hphase] at hstaged
    simp only [step, hphase, receive, if_true] at hmove
    exact ready_of_finish (by rw [hstaged]; rfl) hmove

/-- A run that scans and locates ends with the outcome of what it finds, if it ends at once. -/
theorem outcome_of_scanning (hstaged : run.Staged) {options : Options}
    (hphase : run.phase = .scanning options)
    (hknown : ∀ job, r.seek editor run.request options = .ok job → r.cache.Recalls x job)
    {res : Resolution} (hmove : (r.step editor run expired).move = .done (.ready res)) :
    res = run.request.outcome x (r.seek editor run.request options) := by
  simp only [Run.Staged, hphase] at hstaged
  simp only [step, hphase] at hmove
  rw [scanAndLocate_of_staged r editor hstaged options] at hmove
  cases hsought : r.seek editor run.request options with
  | error found =>
      obtain ⟨source, failure⟩ := found
      simp only [hsought] at hmove
      exact (ready_of_finish (by rfl) hmove :)
  | ok job =>
      simp only [hsought, lookUp] at hmove
      split at hmove
      · rename_i index cache hget
        obtain ⟨sheet, hresult, rfl⟩ := hknown job hsought index (by rw [hget])
        rw [ready_of_annotate (by rfl) hmove]
        simp only [Request.outcome, hresult, ClassIndex.annotateAll_ofSheet]
      · cases hmove

/-- A run that scans and locates goes on with the stylesheet that it finds. -/
theorem seek_of_scanning {options : Options} (hphase : run.phase = .scanning options) {run' : Run}
    (hmove : (r.step editor run expired).move = .next run') :
    ∃ job, r.seek editor run.request options = .ok job ∧ run'.job? = some job := by
  obtain ⟨progress, heq⟩ := scanAndLocate_eq r editor run options
  simp only [step, hphase] at hmove
  rw [heq] at hmove
  split at hmove
  · obtain ⟨answer, hdone⟩ := exists_done_finish r { run with progress } _ [] _
    rw [hdone] at hmove
    cases hmove
  · rename_i job hjob
    exact ⟨job, hjob, job?_of_lookUp hmove⟩

/-! ### Runs on course -/

end Resolver

/-- The run has found what would be found now, or is going to. -/
def Run.OnCourse (r : Resolver) (editor : Editor) (run : Run) : Prop :=
  match run.phase with
  | .begun => True
  | .scanning options => options = r.options
  | .locating job | .extracting job _ => r.seek editor run.request r.options = .ok job

namespace Resolver

variable {r : Resolver} {run : Run} {editor : Editor} {expired : Bool}

/-- What is found depends on the scanner alone, apart from the options that are given. -/
theorem seek_congr {r r' : Resolver} (h : r'.scanner = r.scanner) (editor : Editor) (q : Request)
    (options : Options) : r'.seek editor q options = r.seek editor q options := by
  unfold seek scannerFor
  rw [h]

/-- So does what the editor has where the first import leads. -/
theorem seek_congr_editor (r : Resolver) {editor editor' : Editor} {q : Request}
    (hlocate : editor'.locate q.uri = editor.locate q.uri)
    (hread : ∀ found path, (imports q.text).head? = some found →
      editor.locate q.uri found.specifier = some path → editor'.read path = editor.read path)
    (options : Options) : r.seek editor' q options = r.seek editor q options := by
  unfold seek
  cases hfound : (imports q.text).head? with
  | none => rfl
  | some found =>
      simp only [hlocate]
      cases hpath : editor.locate q.uri found.specifier with
      | none => rfl
      | some path => simp only [hread found path hfound hpath]

theorem afresh_congr {r r' : Resolver} (hx : r'.extractor = r.extractor)
    (ho : r'.options = r.options) (hs : r'.scanner = r.scanner) (editor : Editor) (q : Request) :
    r'.afresh editor q = r.afresh editor q := by
  rw [afresh, afresh, hx, ho, seek_congr hs]

theorem onCourse_of_job {job : Job} (hjob : run.job? = some job) :
    run.OnCourse r editor ↔ r.seek editor run.request r.options = .ok job := by
  unfold Run.job? at hjob
  unfold Run.OnCourse
  split at hjob <;> simp_all

theorem onCourse_congr {r r' : Resolver} (ho : r'.options = r.options) (hs : r'.scanner = r.scanner)
    (h : run.OnCourse r editor) : run.OnCourse r' editor := by
  unfold Run.OnCourse at h ⊢
  split at h <;> simp_all [seek_congr hs]

/-- A run that is on course stays so. -/
theorem onCourse_of_next (h : run.OnCourse r editor) {run' : Run}
    (hmove : (r.step editor run expired).move = .next run') : run'.OnCourse r editor := by
  have hreq := (comes_step r editor run expired).request_of_next hmove
  cases hphase : run.phase with
  | begun =>
      simp only [step, hphase, Move.next.injEq] at hmove
      rw [← hmove]
      exact rfl
  | scanning options =>
      obtain ⟨job, hsought, hjob⟩ := seek_of_scanning hphase hmove
      simp only [Run.OnCourse, hphase] at h
      rw [onCourse_of_job hjob, hreq, ← h, hsought]
  | locating job =>
      have hjob : run.job? = some job := by simp only [Run.job?, hphase]
      rw [onCourse_of_job (job?_of_next hjob hmove), hreq]
      exact (onCourse_of_job hjob).mp h
  | extracting job extraction =>
      have hjob : run.job? = some job := by simp only [Run.job?, hphase]
      rw [onCourse_of_job (job?_of_next hjob hmove), hreq]
      exact (onCourse_of_job hjob).mp h

/-- A run that is on course ends as if it had begun now. -/
theorem afresh_of_onCourse (hfaithful : run.Faithful r.extractor sheets) (hstaged : run.Staged)
    (h : run.OnCourse r editor)
    (hknown : run.job? = none → ∀ job, r.seek editor run.request r.options = .ok job →
      r.cache.Recalls r.extractor job)
    {res : Resolution} (hmove : (r.step editor run false).move = .done (.ready res)) :
    res = r.afresh editor run.request := by
  cases hphase : run.phase with
  | begun => simp [step, hphase] at hmove
  | scanning options =>
      simp only [Run.OnCourse, hphase] at h
      subst h
      exact outcome_of_scanning hstaged hphase (hknown (by simp only [Run.job?, hphase])) hmove
  | locating job => simp [step, hphase] at hmove
  | extracting job extraction =>
      have hjob : run.job? = some job := by simp only [Run.job?, hphase]
      rw [afresh, (onCourse_of_job hjob).mp h]
      exact outcome_of_job hfaithful hstaged hjob hmove

end Resolver

/-! ### A run that is alone -/

/-- How many steps a run can still take. -/
def Run.stops (run : Run) : Nat :=
  match run.phase with
  | .begun => 4
  | .scanning _ => 3
  | .locating _ => 2
  | .extracting _ _ => 1

namespace Resolver

variable {r : Resolver} {run : Run} {editor : Editor} {expired : Bool}

theorem stops_of_next {run' : Run} (hmove : (r.step editor run expired).move = .next run') :
    run'.stops < run.stops := by
  cases hphase : run.phase with
  | begun =>
      simp only [step, hphase, Move.next.injEq] at hmove
      simp [← hmove, Run.stops, hphase]
  | scanning options =>
      obtain ⟨job, -, hjob⟩ := seek_of_scanning hphase hmove
      unfold Run.job? at hjob
      unfold Run.stops
      split at hjob <;> simp_all
  | locating job =>
      simp only [step, hphase, Move.next.injEq] at hmove
      simp [← hmove, Run.stops, hphase]
  | extracting job extraction =>
      obtain ⟨answer, hdone⟩ := exists_done_receive r run job extraction expired
      simp only [step, hphase, hdone] at hmove
      cases hmove

/-- Only a run that begins goes on without a stylesheet. -/
theorem begun_of_next {run' : Run} (hmove : (r.step editor run expired).move = .next run')
    (hjob : run'.job? = none) : run.phase = .begun := by
  rcases usages_of_next hmove r with ⟨hphase, -⟩ | ⟨-, ⟨job, hsome⟩, -⟩
  · exact hphase
  · rw [hjob] at hsome
    cases hsome

theorem cache_of_begun (hphase : run.phase = .begun) :
    (r.step editor run expired).resolver.cache = r.cache := by
  simp only [step, hphase]

end Resolver

namespace Traffic

variable {w : Traffic} {editor : Editor} {q : Request}

/-- A run that is on course and of the latest version is answered afresh, if it is left alone and the
cache knows nothing. -/
theorem answered_of_alone {id : Nat} {run : Run} (hrun : w.runs.get? id = some run)
    (hlatest : w.resolver.latest? run.request.uri = some run.request.version)
    (hfaithful : run.Faithful w.resolver.extractor fun _ => True) (hstaged : run.Staged)
    (hcourse : run.OnCourse w.resolver editor)
    (hempty : run.job? = none → w.resolver.cache.entries = .empty) {n : Nat} (hn : run.stops ≤ n) :
    .answered id (.ready (w.resolver.afresh editor run.request)) ∈
      w.events (List.replicate n (.resumed id editor false)) := by
  induction n generalizing w run with
  | zero =>
      unfold Run.stops at hn
      split at hn <;> omega
  | succ n ih =>
      rw [List.replicate_succ, events, List.mem_append]
      cases hmove : (w.resolver.step editor run false).move with
      | done answer =>
          left
          rw [step_resumed_done hrun hmove]
          obtain ⟨-, res, rfl⟩ | ⟨hlate, -⟩ :=
            (Resolver.comes_step w.resolver editor run false).answer_cases hmove
          · rw [Resolver.afresh_of_onCourse hfaithful hstaged hcourse
              (fun hjob job _ => Cache.recalls_of_empty (hempty hjob) job) hmove]
            simp
          · exact absurd hlatest hlate
      | next run' =>
          right
          obtain ⟨hx, ho, hs, -, -⟩ := (Resolver.comes_step w.resolver editor run false).frame
          have hreq := (Resolver.comes_step w.resolver editor run false).request_of_next hmove
          have hlt := Resolver.stops_of_next hmove
          rw [← Resolver.afresh_congr hx ho hs, ← hreq, step_resumed_next hrun hmove]
          refine ih (by simp) ?_ ?_ (Resolver.staged_of_next hstaged hmove)
            (Resolver.onCourse_congr ho hs (Resolver.onCourse_of_next hcourse hmove)) (fun hjob => ?_)
            (by omega)
          · rw [hreq, Resolver.latest?_step, hlatest]
          · rw [hx]
            exact Resolver.faithful_of_next rfl hfaithful (fun _ _ _ => trivial) hmove
          · rw [Resolver.cache_of_begun (Resolver.begun_of_next hmove hjob)]
            exact hempty (by simp [Run.job?, Resolver.begun_of_next hmove hjob])

/-- A resolver that remembers nothing of the document and has an empty cache, asked for it and left
alone, answers just so. -/
theorem answered_afresh {r : Resolver} (hlatest : r.latest? q.uri = none)
    (hempty : r.cache.entries = .empty) :
    .answered 0 (.ready (r.afresh editor q)) ∈
      (idle r).events (.asked q :: List.replicate 4 (.resumed 0 editor false)) := by
  have hgranted : r.refusedBy? q.uri q.version = none := by rw [Resolver.refusedBy?, hlatest]; rfl
  rw [events, List.mem_append, step_asked hgranted]
  right
  rw [← Resolver.afresh_congr (r.extractor_begin q.uri q.version) (r.options_begin q.uri q.version)
    (r.scanner_begin q.uri q.version)]
  refine answered_of_alone (show _ = some (⟨q, ⟨q.uri.shortName, q.version, .idle, 0⟩, .begun⟩ : Run)
    by simp [idle]) (Resolver.latest?_begin_self hgranted) trivial rfl trivial (fun _ => ?_)
    (Nat.le_refl 4)
  simp only [idle, Resolver.cache_begin, hempty]

end Traffic

end ClassLens
