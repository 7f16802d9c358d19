import ClassLens.Text.Blank
import ClassLens.Text.WordChar

/-! # Stylesheet imports

Import statements of a document that name a stylesheet: `import`, an optional clause that binds
names, and a quoted module source that ends in `.css`.

* `CssImport`: a statement's source, the name the stylesheet is bound to, and where it stands.
* `importAt? previous s`: the statement that starts right at `s`.
* `imports text`: the statements of a text, from left to right; none begins inside the one before
  it.

White space between the tokens is any; before a name, and before `from` unless a closing brace
stands there, some is required. -/

namespace ClassLens.Usage

open Text (isBlank isWord)

/-- A statement that imports a stylesheet. -/
structure CssImport where
  /-- The module source as written. -/
  specifier : String
  /-- The name the whole stylesheet is bound to, if there is one. -/
  binding : Option String
  /-- The byte where the statement starts. -/
  offset : Nat
  deriving DecidableEq, Repr

/-! ### The tokens of a statement -/

/-- The text after its white space. -/
def skipBlank (s : List Char) : List Char :=
  s.dropWhile isBlank

/-- The text after its white space, of which there must be some. -/
def skipSomeBlank? : List Char → Option (List Char)
  | [] => none
  | c :: cs => if isBlank c then some (skipBlank cs) else none

/-- What follows a word at the start of a text. -/
def afterWord? (word : String) (s : List Char) : Option (List Char) :=
  word.toList.isPrefixOf? s

/-- A first character of a name that an import binds. -/
def isNameStart (c : Char) : Bool :=
  c.isAlpha || c == '_' || c == '$'

/-- A later character of such a name. -/
def isNamePart (c : Char) : Bool :=
  isWord c || c == '$'

/-- The name at the start of a text and what follows it. -/
def readBinding? : List Char → Option (List Char × List Char)
  | [] => none
  | c :: cs =>
    if isNameStart c then some (c :: cs.takeWhile isNamePart, cs.dropWhile isNamePart) else none

/-- What follows a group in braces at the start of a text. -/
def afterBraces? : List Char → Option (List Char)
  | '{' :: cs =>
    match cs.dropWhile (· != '}') with
    | '}' :: rest => some rest
    | _ => none
  | _ => none

/-- The name bound by `* as name` at the start of a text and what follows it. -/
def readNamespace? : List Char → Option (List Char × List Char)
  | '*' :: cs => do
    let cs ← afterWord? "as" (skipBlank cs)
    let cs ← skipSomeBlank? cs
    readBinding? cs
  | _ => none

/-- What follows some white space and the word `from`. -/
def afterFrom? (s : List Char) : Option (List Char) := do
  let s ← skipSomeBlank? s
  afterWord? "from" s

/-! ### Clauses -/

/-- A clause that starts with a default name, after the white space before it: the name, a
namespace after a comma, and what follows `from`. -/
def readDefaultClause? (s : List Char) : Option (Option (List Char) × List Char) := do
  let (name, s) ← readBinding? s
  match skipBlank s with
  | ',' :: s => do
    let s := skipBlank s
    let s ← (afterBraces? s).orElse fun _ => (readNamespace? s).map Prod.snd
    let s ← afterFrom? s
    return (some name, s)
  | _ => do
    let s ← afterFrom? s
    return (some name, s)

/-- A clause that names the stylesheet as a namespace. -/
def readNamespaceClause? (s : List Char) : Option (Option (List Char) × List Char) := do
  let (name, s) ← readNamespace? s
  let s ← afterFrom? s
  return (some name, s)

/-- A clause of names in braces, which binds no name to the whole stylesheet. -/
def readBracesClause? (s : List Char) : Option (Option (List Char) × List Char) := do
  let s ← afterBraces? s
  let s ← afterWord? "from" (skipBlank s)
  return (none, s)

/-- The clause after the word `import` and what follows it. The first character after the white
space tells the forms apart; with a quote there, no clause stands before the source. -/
def readClause? (s : List Char) : Option (Option (List Char) × List Char) :=
  match skipBlank s with
  | '*' :: rest => readNamespaceClause? ('*' :: rest)
  | '{' :: rest => readBracesClause? ('{' :: rest)
  | '"' :: _ | '\'' :: _ => some (none, s)
  | _ => (skipSomeBlank? s).bind readDefaultClause?

/-! ### Sources -/

/-- A character that ends a source. -/
def endsSource (c : Char) : Bool :=
  c == '"' || c == '\'' || c == '\r' || c == '\n'

/-- Whether a source names a stylesheet: `.css` at the end, and something before it. -/
def isCssSource (source : List Char) : Bool :=
  ".css".toList.isSuffixOf source && 4 < source.length

/-- The quoted stylesheet source at the start of a text and what follows it. The two quotes need
not be alike. -/
def readSource? (s : List Char) : Option (List Char × List Char) :=
  match s with
  | q :: cs =>
    if q = '"' ∨ q = '\'' then
      let source := cs.takeWhile fun c => !endsSource c
      match cs.dropWhile fun c => !endsSource c with
      | c :: rest =>
        if (c = '"' ∨ c = '\'') ∧ isCssSource source then some (source, rest) else none
      | [] => none
    else none
  | [] => none

/-! ### Statements -/

/-- The statement at the start of a text, `previous` being the character before it: its source,
its binding, and what follows it. -/
def importAt? (previous : Option Char) (s : List Char) :
    Option (List Char × Option (List Char) × List Char) := do
  if previous.any isWord then none
  else
    let s ← afterWord? "import" s
    let (binding, s) ← readClause? s
    let (source, s) ← readSource? (skipBlank s)
    return (source, binding, s)

/-- The statements in the rest of a text: `offset` bytes stand before it, and the next `skip`
characters belong to the statement found last. -/
def importsFrom : Option Char → Nat → Nat → List Char → List CssImport
  | _, _, _, [] => []
  | _, offset, skip + 1, c :: cs => importsFrom (some c) (offset + c.utf8Size) skip cs
  | previous, offset, 0, c :: cs =>
    match importAt? previous (c :: cs) with
    | none => importsFrom (some c) (offset + c.utf8Size) 0 cs
    | some (source, binding, rest) =>
      ⟨String.ofList source, binding.map String.ofList, offset⟩ ::
        importsFrom (some c) (offset + c.utf8Size) (cs.length - rest.length) cs

/-- The stylesheet imports of a text, from left to right. -/
def imports (text : String) : List CssImport :=
  importsFrom none 0 0 text.toList

end ClassLens.Usage
