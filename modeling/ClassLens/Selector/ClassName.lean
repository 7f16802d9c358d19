import ClassLens.Selector.Compound

/-! # Class names of a compound selector

A class name stands after a full stop that is outside brackets. Its characters are ASCII letters
and digits, `-`, `_`, everything beyond ASCII, and any character after a backslash.

* `readName s`: the name at the start of `s` and what follows it.
* `skipBlock open close depth s`: what follows the closing bracket of a block.
* `classNames c`: the class names of a compound selector.
* `hasClass s x`: whether a selector list names the class `x`.

**Main statements.** `readName_length`, `skipBlock_length`: what is left is not longer. -/

namespace ClassLens.Selector

/-- A character of a name that needs no backslash. -/
def isNameChar (c : Char) : Bool :=
  c.isAlphanum || c == '-' || c == '_' || 0x80 ≤ c.toNat

/-- The name at the start of a text, without its backslashes, and what follows it. -/
def readName : List Char → List Char × List Char
  | [] => ([], [])
  | ['\\'] => ([], [])
  | '\\' :: c :: rest => let (name, rest) := readName rest; (c :: name, rest)
  | c :: rest =>
    if isNameChar c then let (name, rest) := readName rest; (c :: name, rest) else ([], c :: rest)

/-- What follows the closing quote of a string. -/
def skipQuoted (quote : Char) : List Char → List Char
  | [] => []
  | ['\\'] => []
  | '\\' :: _ :: rest => skipQuoted quote rest
  | c :: rest => if c = quote then rest else skipQuoted quote rest

theorem readName_length (s : List Char) : (readName s).2.length ≤ s.length := by
  fun_induction readName s with
  | case1 => simp
  | case2 => simp
  | case3 c rest name r h ih => rw [h] at ih; simp only [List.length_cons]; simp only at ih; omega
  | case4 c rest _ _ _ name r h ih =>
    rw [h] at ih; simp only [List.length_cons]; simp only at ih; omega
  | case5 => simp

theorem skipQuoted_length (quote : Char) (s : List Char) :
    (skipQuoted quote s).length ≤ s.length := by
  fun_induction skipQuoted quote s with
  | case1 => simp
  | case2 => simp
  | case3 c rest ih => simp only [List.length_cons]; omega
  | case4 => simp
  | case5 c rest _ _ _ ih => simp only [List.length_cons]; omega

/-- What follows the bracket that closes a block, of which `depth + 1` brackets are open. Brackets
of the other kind do not count. -/
def skipBlock (opener closer : Char) (depth : Nat) : List Char → List Char
  | [] => []
  | c :: rest =>
    if c = '\\' then skipBlock opener closer depth rest.tail
    else if isQuote c then skipBlock opener closer depth (skipQuoted c rest)
    else if c = opener then skipBlock opener closer (depth + 1) rest
    else if c = closer then
      match depth with
      | 0 => rest
      | depth + 1 => skipBlock opener closer depth rest
    else skipBlock opener closer depth rest
termination_by s => s.length
decreasing_by
  · simp only [List.length_tail, List.length_cons]; omega
  · have := skipQuoted_length c rest
    simp only [List.length_cons]
    omega
  · simp
  · simp
  · simp

theorem skipBlock_length (opener closer : Char) (depth : Nat) (s : List Char) :
    (skipBlock opener closer depth s).length ≤ s.length := by
  fun_induction skipBlock opener closer depth s with
  | case1 => simp
  | case2 _ _ ih => simp only [List.length_tail] at ih; simp only [List.length_cons]; omega
  | case3 _ c rest _ _ ih =>
    have := skipQuoted_length c rest
    simp only [List.length_cons]
    omega
  | case4 => simp only [List.length_cons]; omega
  | case5 => simp
  | case6 => simp only [List.length_cons]; omega
  | case7 => simp only [List.length_cons]; omega

/-- The class names of a compound selector, in order. -/
def classNames : List Char → List (List Char)
  | [] => []
  | c :: rest =>
    if c = '\\' then classNames rest.tail
    else if c = '[' then classNames (skipBlock '[' ']' 0 rest)
    else if c = '(' then classNames (skipBlock '(' ')' 0 rest)
    else if c = '.' then
      match (readName rest).1 with
      | [] => classNames (readName rest).2
      | name => name :: classNames (readName rest).2
    else classNames rest
termination_by s => s.length
decreasing_by
  · simp only [List.length_tail, List.length_cons]; omega
  · have := skipBlock_length '[' ']' 0 rest; simp only [List.length_cons]; omega
  · have := skipBlock_length '(' ')' 0 rest; simp only [List.length_cons]; omega
  · have := readName_length rest; simp only [List.length_cons]; omega
  · have := readName_length rest; simp only [List.length_cons]; omega
  · simp

/-- The class names of a compound selector, as texts. -/
def classNameTexts (compound : String) : List String :=
  (classNames compound.toList).map String.ofList

/-- The class names of all compound selectors of a selector list, in order. -/
def namedClasses (selector : String) : List String :=
  (compoundTexts selector).flatMap classNameTexts

/-- Whether a selector list names a class. -/
def hasClass (selector className : String) : Bool :=
  (compoundTexts selector).any fun compound => (classNameTexts compound).contains className

end ClassLens.Selector
