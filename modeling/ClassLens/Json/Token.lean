import ClassLens.Json.Lexeme

/-! # JSON tokens

A text is cut into tokens from the left. A place where no token can be read ends the list: it is
kept as a last, broken token, which says what a reader that arrives there finds wrong.

* `Token`: brackets, separators, constants, numbers and strings.
* `tokens s`: the tokens of a text.

Faults are kept twice where a reader that wants a string's characters and one that passes over
them disagree: `strict` is the first one's, `lenient` the second one's. -/

namespace ClassLens.Json

/-- A token of a JSON text. -/
inductive Token where
  | openObject
  | closeObject
  | openList
  | closeList
  | comma
  | colon
  | null
  | bool (value : Bool)
  | number (value : Number)
  /-- A closed string, or why its characters cannot be had. -/
  | string (chars : Except Fault String)
  /-- A place where a value starts that cannot be read to its end. -/
  | broken (strict lenient : Fault)
  /-- A string that cannot be read to its end. -/
  | brokenString (strict lenient : Fault)
  deriving Repr

/-- The white space of JSON. -/
def isSpace (c : Char) : Bool :=
  c == ' ' || c == '\t' || c == '\n' || c == '\r'

/-- The token that is one character. -/
def punctuation? : Char → Option Token
  | '{' => some .openObject
  | '}' => some .closeObject
  | '[' => some .openList
  | ']' => some .closeList
  | ',' => some .comma
  | ':' => some .colon
  | _ => none

/-- The rest of a word and what follows it. -/
def readWord : List Char → List Char → Except Fault (List Char)
  | [], rest => .ok rest
  | _ :: _, [] => .error .truncated
  | w :: ws, c :: rest => if c = w then readWord ws rest else .error .malformed

/-- A constant, by its first letter: the token and the letters that must follow. -/
def constant? : Char → Option (Token × List Char)
  | 'n' => some (.null, ['u', 'l', 'l'])
  | 't' => some (.bool true, ['r', 'u', 'e'])
  | 'f' => some (.bool false, ['a', 'l', 's', 'e'])
  | _ => none

/-- The string whose opening quote stands before the text, and what follows it. -/
def stringToken (s : List Char) : Token × List Char :=
  match skipString s with
  | .ok rest => (.string ((readString s).map fun (cs, _) => String.ofList cs), rest)
  | .error lenient =>
    match readString s with
    | .ok _ => (.brokenString lenient lenient, [])
    | .error strict => (.brokenString strict lenient, [])

/-- The number at the start of a text, and what follows it. A reader that passes over a number
does not tell an early end from other faults. -/
def numberToken (s : List Char) : Token × List Char :=
  match readNumber s with
  | .ok (n, rest) => (.number n.toNumber, rest)
  | .error strict => (.broken strict .malformed, [])

/-- The token at the start of `c :: cs`, where `c` is no white space, and what follows it; nothing
follows a broken token. -/
def firstToken (c : Char) (cs : List Char) : Token × List Char :=
  match punctuation? c with
  | some t => (t, cs)
  | none =>
    match constant? c with
    | some (t, word) =>
      match readWord word cs with
      | .ok rest => (t, rest)
      | .error fault => (.broken fault fault, [])
    | none =>
      if c = '"' then stringToken cs
      else if c = '-' || c.isDigit then numberToken (c :: cs)
      else (.broken .malformed .malformed, [])

theorem readWord_length {word s rest : List Char} (h : readWord word s = .ok rest) :
    rest.length ≤ s.length := by
  fun_induction readWord word s with
  | case1 => simp at h; simp [h]
  | case2 => simp at h
  | case3 w ws rest ih => have := ih h; simp only [List.length_cons]; omega
  | case4 => simp at h

theorem firstToken_length (c : Char) (cs : List Char) : (firstToken c cs).2.length ≤ cs.length := by
  unfold firstToken
  split
  · simp
  · split
    · split
      · rename_i h
        exact readWord_length h
      · simp
    · split
      · unfold stringToken
        split
        · rename_i h
          have := skipString_length h
          simp only
          omega
        · split <;> simp
      · split
        · unfold numberToken
          split
          · rename_i h
            have := readNumber_length h
            simp only [List.length_cons] at this ⊢
            omega
          · simp
        · simp

/-- The tokens of a text. -/
def tokens : List Char → List Token
  | [] => []
  | c :: cs =>
    if isSpace c then tokens cs
    else (firstToken c cs).1 :: tokens (firstToken c cs).2
termination_by s => s.length
decreasing_by
  · simp
  · have := firstToken_length c cs
    simp only [List.length_cons]
    omega

end ClassLens.Json
