import ClassLens.Cache
import ClassLens.Extraction.Extractor
import ClassLens.Resolve.Failure
import ClassLens.Resolve.Options
import ClassLens.Resolve.Stage
import ClassLens.Usage.Import

/-! # The resolver's state

A resolver keeps the latest version that was asked for of each document, the last resolution of each,
the failures it reported, and a cache of extracted rules.

* `Resolution`: what came of resolving a version of a document.
* `Resolver.begin`: a version is asked for; an older one than the latest is refused.
* `Resolver.supersededBy?`: the version that overtook another one.
* `Resolver.forget`, `Resolver.store`, `Resolver.noteFailure`: closing a document, keeping a result,
  and noting how it went.

**Main statements.** `latest?_begin_self`: what is asked for last is the latest version; `latest?_forget`:
a forgotten document has none. -/

namespace ClassLens

open Usage

/-- The stylesheet that a document imports: as written, and where it is. -/
structure CssSource where
  specifier : String
  path : Option Path
  deriving DecidableEq, Repr

/-- What came of resolving a version of a document. -/
structure Resolution where
  uri : Uri
  version : Int
  source : Option CssSource
  annotations : List Annotation
  failure : Option Failure
  stage : Stage
  deriving DecidableEq, Repr

/-- Whether the run ended well. -/
def Resolution.isReady (r : Resolution) : Bool :=
  r.stage == .ready

/-- The stylesheet's file. -/
def Resolution.path? (r : Resolution) : Option Path :=
  r.source.bind CssSource.path

/-- What an asker gets. -/
inductive Answer where
  | ready (resolution : Resolution)
  /-- A later version was asked for meanwhile. -/
  | stale (version latest : Int)
  deriving DecidableEq, Repr

/-- The state of a resolver. -/
structure Resolver where
  extractor : Extractor
  options : Options
  scanner : Scanner
  /-- Whether the scanner was given and does not follow the options. -/
  fixedScanner : Bool := false
  cache : Cache
  /-- The latest version that was asked for, by document. -/
  latest : Table Uri Int := .empty
  /-- The last resolution, by document. -/
  resolutions : Table Uri Resolution := .empty
  ledger : Ledger := .empty

namespace Resolver

/-- A resolver that has done nothing yet. -/
def ofOptions (extractor : Extractor) (options : Options) : Resolver where
  extractor := extractor
  options := options
  scanner := options.scanner
  cache := .ofCapacity options.cacheCapacity

/-- The resolver with a scanner that does not follow the options. -/
def withScanner (r : Resolver) (scanner : Scanner) : Resolver :=
  { r with scanner := scanner, fixedScanner := true }

/-! ### Options and extractor -/

/-- The first part of a change of options: the size of the cache. -/
def resizeCache (r : Resolver) (options : Options) : Resolver :=
  { r with cache := r.cache.resize options.cacheCapacity }

/-- The second part: the scanner, unless it is fixed. -/
def followBindings (r : Resolver) (options : Options) : Resolver :=
  if r.fixedScanner then r else { r with scanner := options.scanner }

/-- A change of options, all at once. -/
def setOptions (r : Resolver) (options : Options) : Resolver :=
  { (r.resizeCache options).followBindings options with options := options }

/-- Another extractor; what the old one extracted goes. -/
def setExtractor (r : Resolver) (extractor : Extractor) : Resolver :=
  { r with extractor := extractor, cache := r.cache.clear }

/-! ### Versions -/

/-- The latest version that was asked for of a document. -/
def latest? (r : Resolver) (uri : Uri) : Option Int :=
  r.latest.get? uri

/-- The later version that refuses a request, if there is one. -/
def refusedBy? (r : Resolver) (uri : Uri) (version : Int) : Option Int :=
  (r.latest? uri).filter (version < ·)

/-- A version is asked for; a request that is refused changes nothing. -/
def begin (r : Resolver) (uri : Uri) (version : Int) : Resolver :=
  match r.refusedBy? uri version with
  | some _ => r
  | none => { r with latest := r.latest.insert uri version }

/-- Whether a version is the latest that was asked for. -/
def isCurrent (r : Resolver) (uri : Uri) (version : Int) : Bool :=
  r.latest? uri == some version

/-- The version that overtook another one; a forgotten document counts as overtaken. -/
def supersededBy? (r : Resolver) (uri : Uri) (version : Int) : Option Int :=
  match r.latest? uri with
  | some latest => if latest = version then none else some latest
  | none => some version

/-- Drops all that is known of a document. -/
def forget (r : Resolver) (uri : Uri) : Resolver :=
  { r with
    latest := r.latest.erase uri, resolutions := r.resolutions.erase uri,
    ledger := r.ledger.clear uri }

/-! ### Results -/

/-- The last resolution of a document. -/
def resolution? (r : Resolver) (uri : Uri) : Option Resolution :=
  r.resolutions.get? uri

/-- The documents whose last resolution used a stylesheet. -/
def importing (r : Resolver) (path : Path) : List Uri :=
  (r.resolutions.entries.filter fun e => e.2.path?.any fun p => p.same path).map Prod.fst

/-- Keeps a resolution, unless one of a later version is kept. -/
def store (r : Resolver) (resolution : Resolution) : Resolver :=
  match r.resolution? resolution.uri with
  | some kept =>
    if kept.version ≤ resolution.version then
      { r with resolutions := r.resolutions.insert resolution.uri resolution }
    else r
  | none => { r with resolutions := r.resolutions.insert resolution.uri resolution }

/-- Notes the failure of a resolution, or its success; gives the failure if it is to be reported. -/
def noteFailure (r : Resolver) (uri : Uri) : Option Failure → Resolver × Option Failure
  | none => ({ r with ledger := r.ledger.clear uri }, none)
  | some e =>
    let (ledger, report) := r.ledger.note uri e
    ({ r with ledger }, if report then some e else none)

/-! ### Laws of the version table -/

theorem latest?_begin_of_refused {r : Resolver} {uri : Uri} {version v : Int}
    (h : r.refusedBy? uri version = some v) : r.begin uri version = r := by
  simp [begin, h]

/-- What is asked for and not refused is the latest version. -/
theorem latest?_begin_self {r : Resolver} {uri : Uri} {version : Int}
    (h : r.refusedBy? uri version = none) : (r.begin uri version).latest? uri = some version := by
  simp [begin, h, latest?]

/-- A request leaves the other documents alone. -/
theorem latest?_begin_of_ne {r : Resolver} {uri other : Uri} {version : Int} (h : uri ≠ other) :
    (r.begin uri version).latest? other = r.latest? other := by
  unfold begin
  split
  · rfl
  · simp [latest?, h]

/-- A forgotten document has no latest version. -/
theorem latest?_forget (r : Resolver) (uri : Uri) : (r.forget uri).latest? uri = none := by
  simp [forget, latest?]

end Resolver

end ClassLens
