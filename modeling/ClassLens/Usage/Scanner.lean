import ClassLens.Text.Blank
import ClassLens.Text.Measure

/-! # Usages of a stylesheet's classes

A document uses a class where it reads `binding.class`: a name that the stylesheet is bound to, a
full stop and a class token. No identifier character stands before the binding.

A stylesheet can be bound to identifiers: an ASCII letter, `_` or `$`, and then any number of these and of
ASCII digits.

* `isIdentifier name`: whether a name is an identifier.
* `Site`: a usage, with the bytes that it covers and the version of the document.
* `siteAt? bindings previous s`: the usage that starts right at `s`.
* `sites bindings version text`: the usages of a text from left to right; none begins inside the
  one before it.
* `Scanner`: what a text is scanned for, and whether more bindings may be added.

**Main statements.** `bindingsOf_nodup`, `bindingsOf_ne_nil`, `isIdentifier_of_mem_bindingsOf`: a
scanner's bindings are distinct identifiers, and there is one at least. -/

namespace ClassLens.Usage

open Text (byteLength trim)

/-! ### Identifiers -/

/-- A character of an identifier. -/
def isIdentifierChar (c : Char) : Bool :=
  c.isAlphanum || c == '_' || c == '$'

/-- A first character of an identifier. -/
def isIdentifierStart (c : Char) : Bool :=
  c.isAlpha || c == '_' || c == '$'

/-- Whether a name is an identifier. -/
def isIdentifier : List Char → Bool
  | [] => false
  | c :: cs => isIdentifierStart c && cs.all isIdentifierChar

/-- A first character may stand anywhere in an identifier. -/
theorem isIdentifierChar_of_start {c : Char} (h : isIdentifierStart c = true) :
    isIdentifierChar c = true := by
  simp only [isIdentifierStart, isIdentifierChar, Char.isAlphanum, Bool.or_eq_true] at h ⊢
  rcases h with (h | h) | h <;> simp [h]

/-! ### Usages -/

/-- A usage of a class. Offsets are in bytes and cover the binding, the full stop and the token. -/
structure Site where
  className : String
  start : Nat
  stop : Nat
  /-- The version of the document that was scanned. -/
  version : Int
  deriving DecidableEq, Repr

/-- A character of a class token. -/
def isTokenChar (c : Char) : Bool :=
  c.isAlphanum || c == '-' || c == '_'

/-- What follows the binding and the full stop at the start of a text. -/
def afterBinding? (binding text : List Char) : Option (List Char) :=
  match binding.isPrefixOf? text with
  | some ('.' :: rest) => some rest
  | _ => none

/-- The binding and the class token of the usage at the start of a text, `previous` being the
character before it. -/
def siteAt? (bindings : List (List Char)) (previous : Option Char) (text : List Char) :
    Option (List Char × List Char) :=
  if previous.any isIdentifierChar then none
  else
    bindings.findSome? fun binding =>
      match afterBinding? binding text with
      | none => none
      | some rest =>
        match rest.takeWhile isTokenChar with
        | [] => none
        | token => some (binding, token)

/-- The usages in the rest of a text: `offset` bytes stand before it, and the next `skip` characters
belong to the usage found last. -/
def sitesFrom (bindings : List (List Char)) (version : Int) :
    Option Char → Nat → Nat → List Char → List Site
  | _, _, _, [] => []
  | _, offset, skip + 1, c :: cs =>
    sitesFrom bindings version (some c) (offset + c.utf8Size) skip cs
  | previous, offset, 0, c :: cs =>
    match siteAt? bindings previous (c :: cs) with
    | none => sitesFrom bindings version (some c) (offset + c.utf8Size) 0 cs
    | some (binding, token) =>
      ⟨String.ofList token, offset, offset + byteLength binding + 1 + byteLength token, version⟩ ::
        sitesFrom bindings version (some c) (offset + c.utf8Size) (binding.length + token.length) cs

/-- The usages of a text from left to right. -/
def sites (bindings : List (List Char)) (version : Int) (text : List Char) : List Site :=
  sitesFrom bindings version none 0 0 text

/-! ### Scanners -/

/-- The binding that is scanned for when no other is known. -/
def defaultBinding : String := "styles"

/-- Adds a name at the end of a list that does not hold it. -/
def addNew (kept : List String) (name : String) : List String :=
  if name ∈ kept then kept else kept ++ [name]

/-- Identifiers of a list, without white space around them, each once. -/
def identifiers (names : List String) : List String :=
  ((names.map trim).filter fun n => isIdentifier n.toList).foldl addNew []

/-- The bindings that a list of names asks for: its identifiers, or the default one. -/
def bindingsOf (names : List String) : List String :=
  match identifiers names with
  | [] => [defaultBinding]
  | kept => kept

/-- What a text is scanned for. -/
structure Scanner where
  bindings : List String
  /-- Whether another binding may be added. -/
  extensible : Bool := true
  deriving DecidableEq, Repr

namespace Scanner

/-- The scanner for the identifiers of a list. -/
def ofList (names : List String) : Scanner :=
  ⟨bindingsOf names, true⟩

/-- The scanner for the default binding. -/
def default : Scanner :=
  ⟨[defaultBinding], true⟩

/-- The usages of a text. -/
def scan (s : Scanner) (version : Int) (text : String) : List Site :=
  sites (s.bindings.map String.toList) version text.toList

/-- The scanner for one more binding; none if it cannot be added or is there already. -/
def extend? (s : Scanner) (binding : String) : Option Scanner :=
  if s.extensible && isIdentifier binding.toList && !s.bindings.contains binding then
    some (ofList (s.bindings ++ [binding]))
  else
    none

end Scanner

/-! ### The bindings of a scanner -/

theorem addNew_nodup {kept : List String} (h : kept.Nodup) (name : String) :
    (addNew kept name).Nodup := by
  unfold addNew
  split
  · exact h
  · rename_i hn
    rw [List.nodup_append]
    refine ⟨h, by simp, ?_⟩
    rintro a ha b hb rfl
    simp only [List.mem_singleton] at hb
    exact hn (hb ▸ ha)

theorem mem_addNew_iff {kept : List String} {name n : String} :
    n ∈ addNew kept name ↔ n ∈ kept ∨ n = name := by
  unfold addNew
  split
  · rename_i h
    constructor
    · exact Or.inl
    · rintro (h' | rfl)
      · exact h'
      · exact h
  · simp

theorem foldl_addNew_nodup (names : List String) {kept : List String} (h : kept.Nodup) :
    (names.foldl addNew kept).Nodup := by
  induction names generalizing kept with
  | nil => exact h
  | cons m names ih => exact ih (addNew_nodup h m)

theorem mem_foldl_addNew_iff {names kept : List String} {n : String} :
    n ∈ names.foldl addNew kept ↔ n ∈ kept ∨ n ∈ names := by
  induction names generalizing kept with
  | nil => simp
  | cons m names ih => rw [List.foldl_cons, ih, mem_addNew_iff, List.mem_cons, or_assoc]

theorem identifiers_nodup (names : List String) : (identifiers names).Nodup :=
  foldl_addNew_nodup _ List.nodup_nil

/-- The identifiers of a list are its entries that are identifiers once trimmed. -/
theorem mem_identifiers_iff {names : List String} {n : String} :
    n ∈ identifiers names ↔ n ∈ names.map trim ∧ isIdentifier n.toList = true := by
  simp only [identifiers, mem_foldl_addNew_iff, List.not_mem_nil, false_or, List.mem_filter]

/-- The bindings asked for are distinct. -/
theorem bindingsOf_nodup (names : List String) : (bindingsOf names).Nodup := by
  unfold bindingsOf
  split
  · simp
  · exact identifiers_nodup names

/-- There is one binding at least. -/
theorem bindingsOf_ne_nil (names : List String) : bindingsOf names ≠ [] := by
  unfold bindingsOf
  split
  · simp
  · rename_i h
    exact h

/-- All bindings are identifiers. -/
theorem isIdentifier_of_mem_bindingsOf {names : List String} {n : String}
    (h : n ∈ bindingsOf names) : isIdentifier n.toList = true := by
  unfold bindingsOf at h
  split at h
  · simp only [List.mem_singleton] at h
    subst h
    decide
  · exact (mem_identifiers_iff.mp h).2

end ClassLens.Usage
