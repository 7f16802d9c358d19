import ClassLens.Json.Draft

/-! # Writing JSON

* `escape s`: the characters of a JSON string, without its quotes.
* `Value.render v`: a value without white space.

Of a number that is not whole nothing else is known; it is written as some number of its kind.

**Main statements.** `readString_escape`: what is written is read back. -/

namespace ClassLens.Json

/-- A hexadecimal digit. -/
def hexChar (n : Nat) : Char :=
  if n < 10 then Char.ofNat (48 + n) else Char.ofNat (87 + n)

/-- A control character as an escape with four digits. -/
def unitEscape (c : Char) : List Char :=
  ['\\', 'u', '0', '0', hexChar (c.toNat / 16), hexChar (c.toNat % 16)]

/-- A character of a string as it is written. -/
def escapeChar (c : Char) : List Char :=
  if c = '"' then ['\\', '"']
  else if c = '\\' then ['\\', '\\']
  else if c = '\n' then ['\\', 'n']
  else if c = '\r' then ['\\', 'r']
  else if c = '\t' then ['\\', 't']
  else if isControl c then unitEscape c
  else [c]

/-- The characters of a string as they are written. -/
def escape (s : List Char) : List Char :=
  s.flatMap escapeChar

/-- A string in its quotes. -/
def quote (s : String) : String :=
  "\"" ++ String.ofList (escape s.toList) ++ "\""

/-- A number as it is written. -/
def Number.render : Number → String
  | .whole n => toString n
  | .real => "0.0"
  | .huge => "1e999"

mutual
/-- A value as it is written. -/
def Value.render : Value → String
  | .null => "null"
  | .bool b => if b then "true" else "false"
  | .number n => n.render
  | .string s => quote s
  | .list items => "[" ++ ",".intercalate (renderItems items) ++ "]"
  | .object members => "\x7b" ++ ",".intercalate (renderMembers members) ++ "\x7d"

/-- The items of a list as they are written. -/
def renderItems : List Value → List String
  | [] => []
  | v :: rest => v.render :: renderItems rest

/-- The members of an object as they are written. -/
def renderMembers : List (String × Value) → List String
  | [] => []
  | (name, v) :: rest => (quote name ++ ":" ++ v.render) :: renderMembers rest
end

/-! ### Reading back -/

/-- A control character is read back from its escape. -/
theorem hexUnit?_control (n : Nat) (h : n < 32) :
    hexUnit? '0' '0' (hexChar (n / 16)) (hexChar (n % 16)) = some n := by
  revert n
  decide

theorem readString_unitEscape {c : Char} (h : isControl c = true) (s : List Char) :
    readString (unitEscape c ++ s) = prepend c (readString s) := by
  have hc : c.toNat < 32 := by simpa [isControl] using h
  have hlow : isLowHalf c.toNat = false := by
    simp only [isLowHalf, Bool.and_eq_false_imp, decide_eq_true_eq]
    omega
  have hhigh : isHighHalf c.toNat = false := by
    simp only [isHighHalf, Bool.and_eq_false_imp, decide_eq_true_eq]
    omega
  simp only [unitEscape, List.cons_append, List.nil_append]
  rw [readString, hexUnit?_control c.toNat hc]
  simp [hlow, hhigh, Char.ofNat_toNat]

theorem readString_escapeChar (c : Char) (s : List Char) :
    readString (escapeChar c ++ s) = prepend c (readString s) := by
  unfold escapeChar
  split
  · rename_i h; subst h; rfl
  split
  · rename_i h; subst h; rfl
  split
  · rename_i h; subst h; rfl
  split
  · rename_i h; subst h; rfl
  split
  · rename_i h; subst h; rfl
  split
  · rename_i h; exact readString_unitEscape h s
  · rename_i hq hb _ _ _ hc
    rw [List.singleton_append, readString.eq_def]
    split <;> simp_all

/-- A string that is written is read back, whatever follows its closing quote. -/
theorem readString_escape (s rest : List Char) :
    readString (escape s ++ '"' :: rest) = .ok (s, rest) := by
  induction s with
  | nil => rfl
  | cons c s ih =>
    rw [escape, List.flatMap_cons, List.append_assoc, readString_escapeChar]
    rw [escape] at ih
    rw [ih]
    rfl

end ClassLens.Json
