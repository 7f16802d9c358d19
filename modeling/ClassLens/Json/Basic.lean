/-! # JSON values

* `Fault`: the three ways in which a text is not the JSON that is wanted.
* `Number`: a number as far as its readers look at it.
* `Value`: a whole JSON value. The members of an object keep the order of the text; where a name
  stands twice, `Value.member?` answers with the last one. -/

namespace ClassLens.Json

/-- Why a text is not the JSON that is wanted. -/
inductive Fault where
  /-- The text ended too early. -/
  | truncated
  /-- The text is not JSON. -/
  | malformed
  /-- The text is JSON so far, of the wrong shape. -/
  | mismatched
  deriving DecidableEq, Repr

/-- A number: whole numbers of the 64-bit ranges are kept apart from all others. -/
inductive Number where
  | whole (value : Int)
  | real
  /-- A number that no double can hold. -/
  | huge
  deriving DecidableEq, Repr

/-- A JSON value. -/
inductive Value where
  | null
  | bool (value : Bool)
  | number (value : Number)
  | string (value : String)
  | list (items : List Value)
  | object (members : List (String × Value))
  deriving Repr, Inhabited

/-- The last member of an object under a name; none if the value is no object. -/
def Value.member? (v : Value) (name : String) : Option Value :=
  match v with
  | .object members => (members.findRev? fun m => m.1 == name).map Prod.snd
  | _ => none

end ClassLens.Json
