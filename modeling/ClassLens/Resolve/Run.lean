import ClassLens.Digest
import ClassLens.Resolve.Resolver

/-! # Runs of a resolver

A run takes one version of a document's text to its annotations. It stops in four places for something
that others may hold or that takes time: the options, the scanner, the extractor, and the extraction.
Between two of them it goes on at once, so one step of a run is the part between two stops, and any
number of runs and of other changes of the resolver may stand between two steps.

* `Editor`: what a resolver reads from the editor.
* `Run`: a run that has begun, by its place.
* `Resolver.start`: begins a run, unless a later version was asked for.
* `Resolver.step`: goes on to the next stop or to the end.

A run that was overtaken leaves no trace but the raised version and an entry of the cache. -/

namespace ClassLens

open Usage

/-- What a resolver reads from the editor. -/
structure Editor where
  /-- The document that is worked on. -/
  active : Option Uri
  /-- The text and the version of an open document. -/
  snapshot? : Uri → Option (String × Int)
  /-- The file that an import in a document names. -/
  locate : Uri → String → Option Path
  /-- The content of a stylesheet, or why it cannot be had. -/
  read : Path → Except String String

/-- What a run is to resolve. -/
structure Request where
  uri : Uri
  text : String
  version : Int
  deriving DecidableEq, Repr

/-- What is left to do once the stylesheet is read. -/
structure Job where
  usages : List Site
  specifier : String
  path : Path
  /-- The text of the stylesheet. -/
  css : String
  /-- How long the extraction may take. -/
  timeout : Nat

/-- Where a run stands. -/
inductive RunPhase where
  /-- Before it reads the options. -/
  | begun
  /-- Before it takes the scanner. -/
  | scanning (options : Options)
  /-- Before it takes the extractor. -/
  | locating (job : Job)
  /-- While the extraction goes on. -/
  | extracting (job : Job) (extraction : Extraction)

/-- A run that has begun. -/
structure Run where
  request : Request
  progress : Progress
  phase : RunPhase

/-- What a step of a run leads to. -/
inductive Move where
  | next (run : Run)
  | done (answer : Answer)

/-- A step of a run: the resolver after it, where the run stands, and what others see of it. -/
structure RunStep where
  resolver : Resolver
  move : Move
  /-- A failure that is reported. -/
  report : Option Failure := none
  /-- Whether an extraction starts. -/
  extracts : Bool := false

namespace Resolver

/-- Begins a run, unless a later version was asked for. -/
def start (r : Resolver) (q : Request) : Resolver × Except Answer Run :=
  match r.refusedBy? q.uri q.version with
  | some latest => (r, .error (.stale q.version latest))
  | none => (r.begin q.uri q.version, .ok ⟨q, ⟨q.uri.shortName, q.version, .idle, 0⟩, .begun⟩)

/-- The scanner for a document whose first import is given. -/
def scannerFor (r : Resolver) (first : Option CssImport) (options : Options) : Scanner :=
  match first.bind CssImport.binding with
  | some binding => if options.followImport then (r.scanner.extend? binding).getD r.scanner else r.scanner
  | none => r.scanner

/-- The end of a run: overtaken, or with a result that is kept and reported. -/
def finish (r : Resolver) (run : Run) (source : Option CssSource) (annotations : List Annotation)
    (failure : Option Failure) : RunStep :=
  let q := run.request
  match r.supersededBy? q.uri q.version with
  | some latest => { resolver := r, move := .done (.stale q.version latest) }
  | none =>
    let (progress, _) := run.progress.advance (if failure.isSome then .failed else .ready)
    let (r, report) := r.noteFailure q.uri failure
    let resolution : Resolution :=
      ⟨q.uri, q.version, source, annotations, failure, progress.stage⟩
    { resolver := r.store resolution, move := .done (.ready resolution), report }

/-- Matches the usages of a job, unless the run was overtaken. -/
def annotate (r : Resolver) (run : Run) (job : Job) (index : ClassIndex) : RunStep :=
  let q := run.request
  match r.supersededBy? q.uri q.version with
  | some latest => { resolver := r, move := .done (.stale q.version latest) }
  | none =>
    let (progress, _) := run.progress.advance .matching
    r.finish { run with progress } (some ⟨job.specifier, some job.path⟩)
      (index.annotateAll job.usages) none

/-- The step after the scanner was taken: scans, locates and reads the stylesheet, and looks its
rules up in the cache. -/
def scanAndLocate (r : Resolver) (editor : Editor) (run : Run) (options : Options) : RunStep :=
  let q := run.request
  let first := (imports q.text).head?
  let usages := (r.scannerFor first options).scan q.version q.text
  let (progress, _) := run.progress.advance .resolvingPath
  let run := { run with progress }
  match first with
  | none => r.finish run none [] (some .noImport)
  | some found =>
    match editor.locate q.uri found.specifier with
    | none =>
      r.finish run (some ⟨found.specifier, none⟩) []
        (some (.unresolved found.specifier "the editor could not map the import to a file"))
    | some path =>
      match editor.read path with
      | .error reason =>
        r.finish run (some ⟨found.specifier, some path⟩) []
          (some (.unresolved found.specifier (path.text ++ ": " ++ reason)))
      | .ok css =>
        let (progress, _) := run.progress.advance .extractingRules
        let run := { run with progress }
        let job : Job := ⟨usages, found.specifier, path, css, options.timeout⟩
        let (hit, cache) := r.cache.get path (digest css)
        let r := { r with cache }
        match hit with
        | some index => r.annotate run job index
        | none => { resolver := r, move := .next { run with phase := .locating job } }

/-- The step after an extraction: `expired` tells that it took too long. -/
def receive (r : Resolver) (run : Run) (job : Job) (extraction : Extraction) (expired : Bool) :
    RunStep :=
  let fail (message : String) : RunStep :=
    r.finish run (some ⟨job.specifier, some job.path⟩) [] (some (.extraction job.path message))
  if expired then fail ("extractor timed out after " ++ toString job.timeout ++ " ms")
  else
    match extraction.result with
    | .error fault => fail fault.message
    | .ok sheet =>
      let index := ClassIndex.ofSheet sheet
      { r with cache := r.cache.insert job.path (digest job.css) index }.annotate run job index

/-- Goes on to the next stop or to the end. `expired` counts only while an extraction goes on. -/
def step (r : Resolver) (editor : Editor) (run : Run) (expired : Bool) : RunStep :=
  match run.phase with
  | .begun =>
    let (progress, _) := run.progress.advance .scanning
    { resolver := r, move := .next { run with progress, phase := .scanning r.options } }
  | .scanning options => r.scanAndLocate editor run options
  | .locating job =>
    { resolver := r
      move := .next { run with phase := .extracting job (r.extractor.extract job.css) }
      extracts := true }
  | .extracting job extraction => r.receive run job extraction expired

end Resolver

/-- How many milliseconds a run waits before its next step: only an extraction takes time, and no
longer than it may. -/
def Run.wait (run : Run) : Nat :=
  match run.phase with
  | .extracting job extraction => min extraction.delay job.timeout
  | _ => 0

/-- Whether the extraction that a run waits for takes too long. -/
def Run.expires (run : Run) : Bool :=
  match run.phase with
  | .extracting job extraction => job.timeout < extraction.delay
  | _ => false

end ClassLens
