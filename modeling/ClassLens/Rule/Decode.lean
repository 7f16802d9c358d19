import ClassLens.Json.Draft
import ClassLens.Rule.Basic

/-! # Rule data

An extractor hands its rules over as JSON:
`{"rules":[{"selector":"a.b","declarations":[{"property":"p","value":"v"}]}]}`.

* A field stands under its name, at most once; other names are passed over.
* A list may stand for an object, its items being the fields in order; no items may follow them.
* `selectors` is another name of `selector`, whose value is one string or a list of strings.
* `rules` and `declarations` may be missing, which means none.

`Sheet.decode` reads a draft by these rules, and `Sheet.ofJson` a text. The readers of the three
objects are put together from `readFields`, which goes over the members of an object, and one
reader for each field. -/

namespace ClassLens

open Json

/-! ### Readers of single values -/

/-- What a reader reports that finds a value of another kind than it wants: a single value is read
first, and its own fault goes before the mismatch. -/
def mismatch : Draft → Fault
  | .number .huge => .malformed
  | .string (.error fault) => fault
  | .broken strict _ => strict
  | _ => .mismatched

/-- A string. -/
def readText : Draft → Except Fault String
  | .string chars => chars
  | d => .error (mismatch d)

/-- The items of a list, each read by `item`. -/
def readItems {α : Type} (item : Draft → Except Fault α) : Items → Except Fault (List α)
  | .close => .ok []
  | .cut fault => .error fault
  | .dangling => .error .truncated
  | .item value rest =>
    match item value with
    | .ok a => (readItems item rest).map (a :: ·)
    | .error fault => .error fault

/-- A list whose items are read by `item`. -/
def readList {α : Type} (item : Draft → Except Fault α) : Draft → Except Fault (List α)
  | .list items => readItems item items
  | d => .error (mismatch d)

/-! ### Objects and the lists that stand for them -/

/-- The members of an object from the left, each taken into the fields found so far by `field`. -/
def readFields {σ : Type} (field : σ → String → Draft → Except Fault σ) :
    σ → Members → Except Fault σ
  | found, .close => .ok found
  | _, .cut strict _ => .error strict
  | _, .member (.error fault) _ _ => .error fault
  | found, .member (.ok name) value rest =>
    match field found name value with
    | .ok found => readFields field found rest
    | .error fault => .error fault

/-- Takes the value of a field that was not found before. -/
def readOnce {α σ : Type} (before : Option α) (read : Draft → Except Fault α) (put : α → σ)
    (value : Draft) : Except Fault σ :=
  match before with
  | some _ => .error .mismatched
  | none => (read value).map put

/-- The end of a list that stands for an object, after the last field. -/
def readEnd : Items → Except Fault Unit
  | .close => .ok ()
  | .cut fault => .error fault
  | .dangling | .item _ _ => .error .malformed

/-- The next item of a list that stands for an object: the value of a field, or none at the
closing bracket. -/
def readNextField {α : Type} (read : Draft → Except Fault α) (items : Items) :
    Except Fault (Option α × Items) :=
  match items with
  | .close => .ok (none, .close)
  | .cut fault => .error fault
  | .dangling => .error .truncated
  | .item value rest => (read value).map fun a => (some a, rest)

/-- The value of a field that must be there. -/
def require {α : Type} : Option α → Except Fault α
  | some a => .ok a
  | none => .error .mismatched

/-! ### Declarations -/

/-- The fields of a declaration found so far. -/
structure DeclarationFields where
  property : Option String := none
  value : Option String := none

def DeclarationFields.take (f : DeclarationFields) (name : String) (d : Draft) :
    Except Fault DeclarationFields :=
  if name = "property" then readOnce f.property readText (fun s => { f with property := some s }) d
  else if name = "value" then readOnce f.value readText (fun s => { f with value := some s }) d
  else d.skip.map fun _ => f

/-- A declaration: both fields must be there. -/
def Declaration.decode : Draft → Except Fault Declaration
  | .object members => do
    let f ← readFields DeclarationFields.take {} members
    return ⟨← require f.property, ← require f.value⟩
  | .list items => do
    let (property, items) ← readNextField readText items
    let property ← require property
    let (value, items) ← readNextField readText items
    let value ← require value
    readEnd items
    return ⟨property, value⟩
  | d => .error (mismatch d)

/-! ### Rules -/

/-- The strings of a list of values, if all of them are strings. -/
def stringsOf? : List Value → Option (List String)
  | [] => some []
  | .string s :: rest => (stringsOf? rest).map (s :: ·)
  | _ => none

/-- The levels that the value of a selector field may nest inside a rule of a sheet's list. -/
def selectorDepth : Nat := maxDepth - 3

/-- The selectors of a rule: one string or a list of strings. The value is read whole before it is
looked at. -/
def readSelectors (d : Draft) : Except Fault (List String) :=
  match d.whole selectorDepth with
  | .ok (.string s) => .ok [s]
  | .ok (.list vs) => require (stringsOf? vs)
  | .ok _ => .error .mismatched
  | .error fault => .error fault

/-- The fields of a rule found so far. -/
structure RuleFields where
  selectors : Option (List String) := none
  declarations : Option (List Declaration) := none

def RuleFields.take (f : RuleFields) (name : String) (d : Draft) : Except Fault RuleFields :=
  if name = "selector" ∨ name = "selectors" then
    readOnce f.selectors readSelectors (fun s => { f with selectors := some s }) d
  else if name = "declarations" then
    readOnce f.declarations (readList Declaration.decode)
      (fun ds => { f with declarations := some ds }) d
  else d.skip.map fun _ => f

/-- A rule: the selectors must be there. -/
def Rule.decode : Draft → Except Fault Rule
  | .object members => do
    let f ← readFields RuleFields.take {} members
    return ⟨← require f.selectors, f.declarations.getD []⟩
  | .list items => do
    let (selectors, items) ← readNextField readSelectors items
    let selectors ← require selectors
    let (declarations, items) ← readNextField (readList Declaration.decode) items
    readEnd items
    return ⟨selectors, declarations.getD []⟩
  | d => .error (mismatch d)

/-! ### Sheets -/

/-- The fields of a sheet found so far. -/
structure SheetFields where
  rules : Option (List Rule) := none

def SheetFields.take (f : SheetFields) (name : String) (d : Draft) : Except Fault SheetFields :=
  if name = "rules" then
    readOnce f.rules (readList Rule.decode) (fun rs => { f with rules := some rs }) d
  else d.skip.map fun _ => f

/-- A sheet. -/
def Sheet.decode : Draft → Except Fault Sheet
  | .object members => do
    let f ← readFields SheetFields.take {} members
    return ⟨f.rules.getD []⟩
  | .list items => do
    let (rules, items) ← readNextField (readList Rule.decode) items
    readEnd items
    return ⟨rules.getD []⟩
  | d => .error (mismatch d)

/-- The sheet that a text of rule data holds. -/
def Sheet.ofJson (text : String) : Except Fault Sheet :=
  (Source.ofString text).decode Sheet.decode

end ClassLens
