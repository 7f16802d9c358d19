/-! # Names in messages

How texts and names are shown in messages: in quotes, with what cannot be printed written as escapes.

* `quoted`: a text in quotes.
* `named`: a name as a word of a script, in quotes only where it needs them. -/

namespace ClassLens.Shell

/-- A byte as three octal digits. -/
def octalCode (c : Char) : String :=
  let digit (n : Nat) : Char := Char.ofNat (48 + n % 8)
  String.ofList [digit (c.toNat / 64), digit (c.toNat / 8), digit c.toNat]

/-- The letter that stands for a control character after a backslash. -/
def escapeLetter? (c : Char) : Option Char :=
  match c.toNat with
  | 7 => some 'a'
  | 8 => some 'b'
  | 9 => some 't'
  | 10 => some 'n'
  | 11 => some 'v'
  | 12 => some 'f'
  | 13 => some 'r'
  | _ => none

/-- Whether a character can be printed. -/
def isPrintable (c : Char) : Bool := 32 ≤ c.toNat && c.toNat < 127

/-- A text in quotes, with backslashes before what cannot be shown. -/
def quoted (s : String) : String :=
  let shown (c : Char) : String :=
    match escapeLetter? c with
    | some letter => String.ofList ['\\', letter]
    | none =>
      if c == '\'' || c == '\\' then String.ofList ['\\', c]
      else if isPrintable c then String.singleton c else "\\" ++ octalCode c
  "'" ++ String.join (s.toList.map shown) ++ "'"

/-- The inside of a quoted word of a script: what cannot be shown stands in quotes of its own, which
follow a dollar sign. `isOpen` says whether such quotes are open. -/
def wordBody : Bool → List Char → String
  | _, [] => ""
  | isOpen, c :: cs =>
    let escaped (code : String) : String := (if isOpen then "" else "'$'") ++ "\\" ++ code
    match escapeLetter? c with
    | some letter => escaped (String.singleton letter) ++ wordBody true cs
    | none =>
      if c == '\'' then "'\\''" ++ wordBody false cs
      else if isPrintable c then
        (if isOpen then "''" else "") ++ String.singleton c ++ wordBody false cs
      else escaped (octalCode c) ++ wordBody true cs

/-- A name as a quoted word of a script: in double quotes if it has a single one and nothing else that
would need more care. -/
def quotedName (s : String) : String :=
  let isPlain (c : Char) : Bool := c.isAlphanum || "%+,-./:@]_ '".toList.contains c
  let cs := s.toList
  if cs.contains '\'' && cs.all isPlain then "\"" ++ s ++ "\"" else "'" ++ wordBody false cs ++ "'"

/-- A text as a word of a script, in quotes where it needs them or holds one of some characters. -/
def shellWord (others : List Char) (s : String) : String :=
  let special := " !\"$&()*;<=>[^`|?\\'".toList ++ others
  let needsAt (i : Nat) (c : Char) : Bool :=
    special.contains c || !isPrintable c || (i = 0 && (c == '#' || c == '~'))
  if s.isEmpty || s = "\x7b" || s = "\x7d" || (s.toList.zipIdx.any fun (c, i) => needsAt i c) then
    quotedName s
  else s

/-- A name as a word of a script before a colon. -/
def named (s : String) : String := shellWord [':'] s

end ClassLens.Shell
