/-! # Style rules

* `Declaration`, `Rule`, `Sheet`: what is known of a stylesheet, in the order of its text.
* `Rule.selectorText`: the selector list as a stylesheet writes it. -/

namespace ClassLens

/-- One `property: value` pair. -/
structure Declaration where
  property : String
  value : String
  deriving DecidableEq, Repr

/-- A rule: its selectors and its declarations. -/
structure Rule where
  selectors : List String
  declarations : List Declaration
  deriving DecidableEq, Repr

/-- The rules of one stylesheet. -/
structure Sheet where
  rules : List Rule
  deriving DecidableEq, Repr

/-- The selector list as a stylesheet writes it. -/
def Rule.selectorText (r : Rule) : String :=
  ", ".intercalate r.selectors

end ClassLens
