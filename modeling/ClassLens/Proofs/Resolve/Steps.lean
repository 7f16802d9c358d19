import ClassLens.Resolve.Run

/-! # What a step of a run does

A step is cut into scanning, locating, extracting and matching, with an end in many places.  Here all
that it can come to is said once.

* `Resolver.Comes r run step`: the three things that a step can come to: the run goes on, it ends
  overtaken, or it ends with a resolution.  Only the last one touches more than the cache.
* `Resolver.seek`: what a run finds when it scans and locates: what is left to do once the stylesheet
  is read, or what it fails with.
* `Run.usages`: the usages that a run has found, or will find when it scans.

**Main statements.** `Resolver.comes_step`: every step comes to one of the three.
`Resolver.scanAndLocate_eq`: a run that reads its stylesheet looks the rules up.
`Resolver.usages_of_ready`: a run that ends well annotates the usages that it found. -/

namespace ClassLens

open Usage

namespace Resolver

variable {r : Resolver} {run : Run}

/-! ### Scanning and locating -/

/-- What a run finds when it scans and locates: what is left to do once the stylesheet is read, or
the source and the failure that it ends with. -/
def seek (r : Resolver) (editor : Editor) (q : Request) (options : Options) :
    Except (Option CssSource × Failure) Job :=
  match (imports q.text).head? with
  | none => .error (none, .noImport)
  | some found =>
    match editor.locate q.uri found.specifier with
    | none =>
      .error (some ⟨found.specifier, none⟩,
        .unresolved found.specifier "the editor could not map the import to a file")
    | some path =>
      match editor.read path with
      | .error reason =>
        .error (some ⟨found.specifier, some path⟩,
          .unresolved found.specifier (path.text ++ ": " ++ reason))
      | .ok css =>
        .ok ⟨(r.scannerFor (some found) options).scan q.version q.text, found.specifier, path, css,
          options.timeout⟩

/-- A run that has read its stylesheet looks its rules up: it matches at once if they are known, and
goes on to the extractor if they are not. -/
def lookUp (r : Resolver) (run : Run) (job : Job) : RunStep :=
  match r.cache.get job.path (digest job.css) with
  | (some index, cache) => { r with cache }.annotate run job index
  | (none, cache) =>
    { resolver := { r with cache }, move := .next { run with phase := .locating job } }

theorem scanAndLocate_eq (r : Resolver) (editor : Editor) (run : Run) (options : Options) :
    ∃ progress, r.scanAndLocate editor run options =
      match r.seek editor run.request options with
      | .error (source, failure) => r.finish { run with progress } source [] (some failure)
      | .ok job => r.lookUp { run with progress } job := by
  simp only [scanAndLocate, seek, lookUp]
  cases (imports run.request.text).head? with
  | none => exact ⟨_, rfl⟩
  | some found =>
      simp only
      cases editor.locate run.request.uri found.specifier with
      | none => exact ⟨_, rfl⟩
      | some path =>
          simp only
          cases editor.read path with
          | error reason => exact ⟨_, rfl⟩
          | ok css =>
              refine ⟨((run.progress.advance .resolvingPath).1.advance .extractingRules).1, ?_⟩
              simp only
              cases r.cache.get path (digest css) with
              | mk hit cache => cases hit <;> rfl

/-- A stylesheet that is read is the one that the first import names. -/
theorem eq_of_seek_ok {editor : Editor} {q : Request} {options : Options} {job : Job}
    (h : r.seek editor q options = .ok job) :
    ∃ found, (imports q.text).head? = some found ∧
      editor.locate q.uri found.specifier = some job.path ∧ editor.read job.path = .ok job.css ∧
      job.usages = (r.scannerFor (some found) options).scan q.version q.text ∧
      job.specifier = found.specifier := by
  unfold seek at h
  split at h
  · cases h
  · rename_i found hfound
    split at h
    · cases h
    · rename_i path hpath
      split at h
      · cases h
      · rename_i css hcss
        cases h
        exact ⟨found, hfound, hpath, hcss, rfl, rfl⟩

/-- What a step of a run comes to. -/
inductive Comes (r : Resolver) (run : Run) : RunStep → Prop where
  /-- To its next stop. -/
  | on (cache : Cache) (run' : Run) (extracts : Bool) (same : run'.request = run.request) :
      Comes r run { resolver := { r with cache }, move := .next run', extracts }
  /-- To an end without a trace, except in the cache: a later version was asked for, or the document
  was forgotten. -/
  | overtaken (cache : Cache) (latest : Int)
      (late : r.supersededBy? run.request.uri run.request.version = some latest) :
      Comes r run
        { resolver := { r with cache }, move := .done (.stale run.request.version latest) }
  /-- To a resolution, which is kept. -/
  | ended (cache : Cache) (res : Resolution)
      (current : r.supersededBy? run.request.uri run.request.version = none)
      (uri : res.uri = run.request.uri) (version : res.version = run.request.version) :
      Comes r run
        { resolver := ({ r with cache }.noteFailure run.request.uri res.failure).1.store res
          move := .done (.ready res)
          report := ({ r with cache }.noteFailure run.request.uri res.failure).2 }

theorem comes_finish (r : Resolver) (run : Run) (cache : Cache) (run' : Run)
    (same : run'.request = run.request) (source : Option CssSource)
    (annotations : List Annotation) (failure : Option Failure) :
    Comes r run ({ r with cache }.finish run' source annotations failure) := by
  simp only [finish, same]
  cases h : supersededBy? { r with cache } run.request.uri run.request.version with
  | some latest => exact .overtaken cache latest h
  | none => exact .ended cache _ h rfl rfl

theorem comes_annotate (r : Resolver) (run : Run) (cache : Cache) (run' : Run)
    (same : run'.request = run.request) (job : Job) (index : ClassIndex) :
    Comes r run ({ r with cache }.annotate run' job index) := by
  simp only [annotate]
  cases h : supersededBy? { r with cache } run'.request.uri run'.request.version with
  | some latest =>
      rw [same] at h ⊢
      exact .overtaken cache latest h
  | none =>
      exact comes_finish r run cache { run' with progress := (run'.progress.advance .matching).1 } same
        _ _ none

theorem comes_lookUp (r : Resolver) (run run' : Run) (same : run'.request = run.request) (job : Job) :
    Comes r run (r.lookUp run' job) := by
  unfold lookUp
  split
  · exact comes_annotate r run _ run' same job _
  · exact .on _ _ false same

theorem comes_scanAndLocate (editor : Editor) (options : Options) :
    Comes r run (r.scanAndLocate editor run options) := by
  obtain ⟨progress, heq⟩ := scanAndLocate_eq r editor run options
  rw [heq]
  split
  · exact comes_finish r run r.cache { run with progress } rfl _ [] _
  · exact comes_lookUp r run { run with progress } rfl _

theorem comes_receive (job : Job) (extraction : Extraction) (expired : Bool) :
    Comes r run (r.receive run job extraction expired) := by
  unfold receive
  split
  · exact comes_finish r run r.cache run rfl _ [] _
  · split
    · exact comes_finish r run r.cache run rfl _ [] _
    · exact comes_annotate r run _ run rfl job _

/-- Every step comes to one of the three. -/
theorem comes_step (r : Resolver) (editor : Editor) (run : Run) (expired : Bool) :
    Comes r run (r.step editor run expired) := by
  unfold step
  split
  · exact .on r.cache _ false rfl
  · exact comes_scanAndLocate editor _
  · exact .on r.cache _ true rfl
  · exact comes_receive _ _ expired

/-! ### The resolutions that come out -/

theorem exists_done_finish (r : Resolver) (run : Run) (source : Option CssSource)
    (annotations : List Annotation) (failure : Option Failure) :
    ∃ answer, (r.finish run source annotations failure).move = .done answer := by
  simp only [finish]
  split <;> exact ⟨_, rfl⟩

theorem exists_done_annotate (r : Resolver) (run : Run) (job : Job) (index : ClassIndex) :
    ∃ answer, (r.annotate run job index).move = .done answer := by
  simp only [annotate]
  split
  · exact ⟨_, rfl⟩
  · exact exists_done_finish r _ _ _ none

/-- The step after an extraction is the last one. -/
theorem exists_done_receive (r : Resolver) (run : Run) (job : Job) (extraction : Extraction)
    (expired : Bool) : ∃ answer, (r.receive run job extraction expired).move = .done answer := by
  unfold receive
  split
  · exact exists_done_finish r run _ [] _
  · split
    · exact exists_done_finish r run _ [] _
    · exact exists_done_annotate _ run job _

/-- A run that is not overtaken ends with what it was given. -/
theorem eq_of_finish {source : Option CssSource} {annotations : List Annotation}
    {failure : Option Failure} {res : Resolution}
    (h : (r.finish run source annotations failure).move = .done (.ready res)) :
    res.source = source ∧ res.annotations = annotations ∧ res.failure = failure := by
  simp only [finish] at h
  split at h
  · simp at h
  · simp only [Move.done.injEq, Answer.ready.injEq] at h
    subst h
    exact ⟨rfl, rfl, rfl⟩

/-- Matching ends with an annotation for each usage. -/
theorem eq_of_annotate {job : Job} {index : ClassIndex} {res : Resolution}
    (h : (r.annotate run job index).move = .done (.ready res)) :
    res.source = some ⟨job.specifier, some job.path⟩ ∧
      res.annotations = index.annotateAll job.usages ∧ res.failure = none := by
  simp only [annotate] at h
  split at h
  · simp at h
  · exact eq_of_finish h

/-- A time-out and a fault of the extractor fail the run; rules are matched. -/
theorem eq_of_receive {job : Job} {extraction : Extraction} {expired : Bool} {res : Resolution}
    (h : (r.receive run job extraction expired).move = .done (.ready res)) :
    (∃ message, res.annotations = [] ∧ res.failure = some (.extraction job.path message) ∧
      (expired = false → ∃ fault, extraction.result = .error fault ∧ message = fault.message)) ∨
    (∃ sheet, expired = false ∧ extraction.result = .ok sheet ∧ res.failure = none ∧
      res.annotations = (ClassIndex.ofSheet sheet).annotateAll job.usages) := by
  unfold receive at h
  split at h
  · rename_i hx
    obtain ⟨-, ha, hf⟩ := eq_of_finish h
    exact .inl ⟨_, ha, hf, fun h => absurd hx (by simp [h])⟩
  · rename_i hx
    split at h
    · rename_i fault hresult
      obtain ⟨-, ha, hf⟩ := eq_of_finish h
      exact .inl ⟨_, ha, hf, fun _ => ⟨fault, hresult, rfl⟩⟩
    · rename_i sheet hresult
      obtain ⟨-, ha, hf⟩ := eq_of_annotate h
      exact .inr ⟨sheet, by simpa using hx, hresult, hf, ha⟩

end Resolver

/-! ### The usages of a run -/

/-- The usages that a run has found, or will find when it scans in the given resolver. -/
def Run.usages (run : Run) (r : Resolver) : List Site :=
  match run.phase with
  | .begun => []
  | .scanning options =>
    (r.scannerFor (imports run.request.text).head? options).scan run.request.version
      run.request.text
  | .locating job | .extracting job _ => job.usages

/-- What is left to do in a run that has read its stylesheet. -/
def Run.job? (run : Run) : Option Job :=
  match run.phase with
  | .begun | .scanning _ => none
  | .locating job | .extracting job _ => some job

namespace Resolver

variable {r : Resolver} {run : Run}

theorem map_usage_annotateAll (index : ClassIndex) (usages : List Site) :
    (index.annotateAll usages).map Annotation.usage = usages := by
  unfold ClassIndex.annotateAll
  rw [List.map_map]
  exact List.map_id usages

/-- A run that ends well annotates the usages that it found. -/
theorem usages_of_ready {editor : Editor} {expired : Bool} {res : Resolution}
    (h : (r.step editor run expired).move = .done (.ready res)) (hok : res.failure = none) :
    res.annotations.map Annotation.usage = run.usages r := by
  unfold step at h
  split at h
  · simp at h
  · rename_i options hphase
    obtain ⟨progress, heq⟩ := scanAndLocate_eq r editor run options
    rw [heq] at h
    split at h
    · obtain ⟨-, -, hf⟩ := eq_of_finish h
      rw [hok] at hf
      cases hf
    · rename_i job hjob
      obtain ⟨found, hfound, -, -, husages, -⟩ := eq_of_seek_ok hjob
      unfold lookUp at h
      split at h
      · obtain ⟨-, ha, -⟩ := eq_of_annotate h
        rw [ha, map_usage_annotateAll, husages]
        simp only [Run.usages, hphase, hfound]
      · simp at h
  · simp at h
  · rename_i job extraction hphase
    rcases eq_of_receive h with ⟨message, -, hf, -⟩ | ⟨sheet, -, -, -, ha⟩
    · rw [hok] at hf
      cases hf
    · rw [ha, map_usage_annotateAll]
      simp only [Run.usages, hphase]

/-- A run that goes on reads the options, or has scanned and keeps its usages. -/
theorem usages_of_next {editor : Editor} {expired : Bool} {run' : Run}
    (h : (r.step editor run expired).move = .next run') (r' : Resolver) :
    (run.phase = .begun ∧ run'.phase = .scanning r.options) ∨
      (run.phase ≠ .begun ∧ (∃ job, run'.job? = some job) ∧ run'.usages r' = run.usages r) := by
  unfold step at h
  split at h
  · rename_i hphase
    simp only [Move.next.injEq] at h
    subst h
    exact .inl ⟨hphase, rfl⟩
  · rename_i options hphase
    right
    obtain ⟨progress, heq⟩ := scanAndLocate_eq r editor run options
    rw [heq] at h
    split at h
    · obtain ⟨answer, hdone⟩ := exists_done_finish r { run with progress } _ [] _
      rw [hdone] at h
      cases h
    · rename_i job hjob
      obtain ⟨found, hfound, -, -, husages, -⟩ := eq_of_seek_ok hjob
      unfold lookUp at h
      split at h
      · obtain ⟨answer, hdone⟩ := exists_done_annotate { r with cache := _ } { run with progress } job _
        rw [hdone] at h
        cases h
      · simp only [Move.next.injEq] at h
        subst h
        exact ⟨by simp [hphase], ⟨job, rfl⟩, by simp only [Run.usages, hphase, husages, hfound]⟩
  · rename_i job hphase
    right
    simp only [Move.next.injEq] at h
    subst h
    exact ⟨by simp [hphase], ⟨job, rfl⟩, by simp only [Run.usages, hphase]⟩
  · rename_i job extraction hphase
    obtain ⟨answer, hdone⟩ := exists_done_receive r run job extraction expired
    rw [hdone] at h
    cases h

end Resolver

end ClassLens
