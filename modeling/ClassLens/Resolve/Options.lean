import ClassLens.Usage.Scanner

/-! # What a resolver is asked to do -/

namespace ClassLens

/-- What is scanned for and within which bounds; times are in milliseconds. -/
structure Options where
  bindings : List String := [Usage.defaultBinding]
  /-- Whether the name that the first import binds is scanned for too. -/
  followImport : Bool := true
  /-- How long an extraction may take. -/
  timeout : Nat := 5000
  cacheCapacity : Nat := 64
  deriving DecidableEq, Repr

/-- The scanner that the options ask for. -/
def Options.scanner (o : Options) : Usage.Scanner :=
  .ofList o.bindings

end ClassLens
