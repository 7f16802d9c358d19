/-! # Permissions

Permissions as nine bits, three for the owner, the group and others each, and the texts that change them.

* `Permissions.change`: the permissions after a change that a text says. -/

namespace ClassLens.Shell.Permissions

/-- A change of permissions that is being read. -/
structure Change where
  bits : Nat
  /-- Whose permissions are changed, as the shifts of their bits. -/
  who : List Nat := []
  /-- Whether a sign of a change has been read since the start or the last comma. -/
  acted : Bool := false

/-- The shifts of the bits of those that a letter names. -/
def whoOf? : Char → Option (List Nat)
  | 'u' => some [6]
  | 'g' => some [3]
  | 'o' => some [0]
  | 'a' => some [6, 3, 0]
  | _ => none

/-- The bits of letters for permissions, and what follows them; `runs` says whether anybody may run the
file. -/
def readLetters (runs : Bool) : List Char → Nat × List Char
  | 'r' :: cs => let (n, rest) := readLetters runs cs; (n ||| 4, rest)
  | 'w' :: cs => let (n, rest) := readLetters runs cs; (n ||| 2, rest)
  | 'x' :: cs => let (n, rest) := readLetters runs cs; (n ||| 1, rest)
  | 'X' :: cs => let (n, rest) := readLetters runs cs; (if runs then n ||| 1 else n, rest)
  | 's' :: cs => readLetters runs cs
  | cs => (0, cs)

/-- The bits after the sign of a change. -/
def readBits (bits : Nat) (s : List Char) : Nat × List Char :=
  match s with
  | 'u' :: rest => (bits / 64 % 8, rest)
  | 'g' :: rest => (bits / 8 % 8, rest)
  | 'o' :: rest => (bits % 8, rest)
  | s => readLetters (bits &&& 73 ≠ 0) s

/-- Changes the permissions of some. -/
def act (sign : Char) (who : List Nat) (value bits : Nat) : Nat :=
  who.foldl (fun bits shift =>
    let unit := Nat.pow 2 shift
    let old := bits / unit % 8
    let new := if sign == '+' then old ||| value else if sign == '-' then old &&& (7 - value) else value
    bits - old * unit + new * unit) bits

/-- Reads the changes of a text, which commas divide. -/
def changeFrom : Nat → Change → List Char → Option Nat
  | 0, _, _ => none
  | _ + 1, c, [] => if c.acted then some c.bits else none
  | n + 1, c, s :: rest =>
    if s == ',' then
      if !c.acted then none
      else if rest.isEmpty then some c.bits else changeFrom n { bits := c.bits } rest
    else if s == '+' || s == '-' || s == '=' then
      let who := if c.who.isEmpty then [6, 3, 0] else c.who
      let (value, rest) := readBits c.bits rest
      changeFrom n { c with bits := act s who value c.bits, acted := true } rest
    else
      match whoOf? s with
      | some who => if c.acted then none else changeFrom n { c with who := c.who ++ who } rest
      | none => none

/-- The permissions after the changes that a text says. -/
def change (bits : Nat) (text : String) : Option Nat :=
  changeFrom (text.length + 1) { bits } text.toList

end ClassLens.Shell.Permissions
