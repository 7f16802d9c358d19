import ClassLens.Path
import ClassLens.Table
import ClassLens.Uri

/-! # Failures of a resolution

* `Failure`: why no annotations came out, with its wording in `Failure.message`.
* `Ledger`: the failures that were reported for each document since it last succeeded. -/

namespace ClassLens

/-- Why a resolution has no annotations. -/
inductive Failure where
  | noImport
  /-- The import names no file, or one that cannot be read. -/
  | unresolved (specifier reason : String)
  | extraction (path : Path) (message : String)
  /-- A later version of the document was asked for meanwhile. -/
  | superseded (version latest : Int)
  deriving DecidableEq, Repr

namespace Failure

/-- What the user is told. -/
def message : Failure → String
  | noImport => "no .css import found"
  | unresolved specifier reason => "could not resolve '" ++ specifier ++ "': " ++ reason
  | extraction path message => "rule extraction failed for " ++ path.text ++ ": " ++ message
  | superseded version latest =>
    "result for v" ++ toString version ++ " superseded by v" ++ toString latest

/-- Whether the failure says only that the result came too late. -/
def isStale : Failure → Bool
  | superseded _ _ => true
  | _ => false

/-- Whether two failures have one cause; paths are compared by their components. -/
def same : Failure → Failure → Bool
  | extraction p m, extraction q n => p.same q && m == n
  | e, e' => e == e'

end Failure

/-- The failures that were reported, by document. -/
abbrev Ledger := Table Uri (List Failure)

namespace Ledger

/-- Notes a failure; says whether it is to be reported, not having been noted before. -/
def note (l : Ledger) (uri : Uri) (e : Failure) : Ledger × Bool :=
  let known := (l.get? uri).getD []
  if known.any e.same then (l, false) else (l.insert uri (known ++ [e]), true)

/-- Forgets the failures of a document. -/
def clear (l : Ledger) (uri : Uri) : Ledger :=
  l.erase uri

end Ledger

end ClassLens
