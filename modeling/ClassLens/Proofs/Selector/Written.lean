import Mathlib
import ClassLens.Selector.Compound

/-! # Selectors as they are written

A selector list that is well-formed, as a tree.  The types let nothing else be written: names and
gaps are not empty, brackets and quotes are closed, a compound selector has a part at least.

* `Name`: a name, some of its characters with a backslash.
* `Contents`: what stands between brackets: characters, backslash pairs, strings and blocks.
* `Component`: `.name`, `#name`, `:name` or `::name` with or without `(contents)`, `[contents]`.
* `Compound`: a type name or `*`, or none, and components.
* `Written`: compound selectors with gaps between them and delimiters at the ends.

Each has its characters, `chars`.

**Main statements.** `compounds_chars`: cutting a written selector list gives its compound selectors. -/

namespace ClassLens.Selector

open Text (isBlank)

/-! ### Names -/

/-- A character that a name may hold without a backslash. -/
def isBareChar (c : Char) : Bool :=
  c.isAlphanum || c == '-' || c == '_' || (0x80 ≤ c.toNat && !isBlank c)

/-- A character of a name as it is written. -/
inductive NamePart where
  | bare (c : Char) (h : isBareChar c = true)
  /-- Any character after a backslash. -/
  | escaped (c : Char)

namespace NamePart

/-- The character that is meant. -/
def char : NamePart → Char
  | bare c _ => c
  | escaped c => c

def chars : NamePart → List Char
  | bare c _ => [c]
  | escaped c => ['\\', c]

end NamePart

/-- A name: one character at least. -/
structure Name where
  first : NamePart
  others : List NamePart

namespace Name

def parts (n : Name) : List NamePart := n.first :: n.others

/-- The name without its backslashes. -/
def plain (n : Name) : List Char := n.parts.map NamePart.char

def chars (n : Name) : List Char := n.parts.flatMap NamePart.chars

end Name

/-! ### What stands between brackets -/

/-- The two kinds of brackets. -/
inductive Bracket where
  | round
  | square
  deriving DecidableEq

namespace Bracket

def opener : Bracket → Char
  | round => '('
  | square => '['

def closer : Bracket → Char
  | round => ')'
  | square => ']'

end Bracket

/-- The two kinds of quotes. -/
inductive Quote where
  | single
  | double

def Quote.char : Quote → Char
  | single => '\''
  | double => '"'

/-- A character of a string, or a backslash pair. -/
inductive QuotedPart (q : Quote) where
  | plain (c : Char) (h : c ≠ q.char ∧ c ≠ '\\')
  | pair (c : Char)

def QuotedPart.chars {q : Quote} : QuotedPart q → List Char
  | plain c _ => [c]
  | pair c => ['\\', c]

/-- A character between brackets that is neither a bracket nor a quote nor a backslash. -/
def isLoose (c : Char) : Bool :=
  c != '\\' && !isQuote c && !isOpener c && !isCloser c

/-- What stands between brackets; brackets and quotes in it are closed. -/
inductive Contents where
  | nil
  | loose (c : Char) (h : isLoose c = true) (rest : Contents)
  | pair (c : Char) (rest : Contents)
  | string (q : Quote) (inside : List (QuotedPart q)) (rest : Contents)
  | block (b : Bracket) (inside rest : Contents)

def Contents.chars : Contents → List Char
  | nil => []
  | loose c _ rest => c :: rest.chars
  | pair c rest => '\\' :: c :: rest.chars
  | string q inside rest => q.char :: (inside.flatMap QuotedPart.chars ++ q.char :: rest.chars)
  | block b inside rest => b.opener :: (inside.chars ++ b.closer :: rest.chars)

/-! ### Compound selectors -/

/-- A part of a compound selector after its type. -/
inductive Component where
  | className (n : Name)
  | id (n : Name)
  /-- A pseudo-class or, with two colons, a pseudo-element. -/
  | pseudo (twice : Bool) (n : Name) (args : Option Contents)
  | attr (body : Contents)

namespace Component

/-- Contents in round brackets, if there are any. -/
def argsChars : Option Contents → List Char
  | none => []
  | some c => '(' :: (c.chars ++ [')'])

def chars : Component → List Char
  | className n => '.' :: n.chars
  | id n => '#' :: n.chars
  | pseudo false n args => ':' :: (n.chars ++ argsChars args)
  | pseudo true n args => ':' :: ':' :: (n.chars ++ argsChars args)
  | attr body => '[' :: (body.chars ++ [']'])

/-- The class that a component asks for. -/
def class? : Component → Option (List Char)
  | className n => some n.plain
  | _ => none

end Component

/-- The type of an element, or any. -/
inductive ElementType where
  | named (n : Name)
  | any

def ElementType.chars : ElementType → List Char
  | named n => n.chars
  | any => ['*']

/-- A compound selector: a type or a component at least. -/
structure Compound where
  type : Option ElementType
  components : List Component
  nonempty : type.isSome = true ∨ components ≠ []

namespace Compound

def chars (c : Compound) : List Char :=
  (c.type.map ElementType.chars).getD [] ++ c.components.flatMap Component.chars

/-- The classes that a compound selector asks for, in order. -/
def classes (c : Compound) : List (List Char) :=
  c.components.filterMap Component.class?

end Compound

/-! ### Selector lists -/

/-- A comma, a combinator or white space. -/
abbrev Delimiter := { c : Char // isDelimiter c = true }

/-- Compound selectors, each but the last one with a run of delimiters after it. -/
inductive Row where
  | last (c : Compound)
  | cons (c : Compound) (delimiter : Delimiter) (delimiters : List Delimiter) (rest : Row)

namespace Row

def compounds : Row → List Compound
  | last c => [c]
  | cons c _ _ rest => c :: rest.compounds

def chars : Row → List Char
  | last c => c.chars
  | cons c d ds rest => c.chars ++ ((d :: ds).map Subtype.val ++ rest.chars)

end Row

/-- A selector list with delimiters at its ends. -/
structure Written where
  before : List Delimiter
  row : Option Row
  after : List Delimiter

namespace Written

def compounds (w : Written) : List Compound :=
  (w.row.map Row.compounds).getD []

def chars (w : Written) : List Char :=
  w.before.map Subtype.val ++ ((w.row.map Row.chars).getD [] ++ w.after.map Subtype.val)

end Written

/-! ### Characters of names -/

/-- A character of a name is none of those that mean something in a selector. -/
theorem ne_of_isBareChar {c d : Char} (h : isBareChar c = true) (hd : isBareChar d = false) :
    c ≠ d := by
  rintro rfl
  rw [h] at hd
  cases hd

theorem isBlank_of_isBareChar {c : Char} (h : isBareChar c = true) : isBlank c = false := by
  simp only [isBareChar, Char.isAlphanum, Char.isAlpha, Char.isUpper, Char.isLower, Char.isDigit,
    Bool.or_eq_true, Bool.and_eq_true, Bool.not_eq_true', decide_eq_true_eq, beq_iff_eq] at h
  have hn : (48 ≤ c.toNat ∧ c.toNat ≤ 57) ∨ (65 ≤ c.toNat ∧ c.toNat ≤ 90) ∨
      (97 ≤ c.toNat ∧ c.toNat ≤ 122) ∨ c.toNat = 45 ∨ c.toNat = 95 ∨ isBlank c = false := by
    rcases h with ((((⟨h₁, h₂⟩ | ⟨h₁, h₂⟩) | ⟨h₁, h₂⟩) | rfl) | rfl) | ⟨-, hblank⟩
    · exact .inr (.inl ⟨h₁, h₂⟩)
    · exact .inr (.inr (.inl ⟨h₁, h₂⟩))
    · exact .inl ⟨h₁, h₂⟩
    · exact .inr (.inr (.inr (.inl rfl)))
    · exact .inr (.inr (.inr (.inr (.inl rfl))))
    · exact .inr (.inr (.inr (.inr (.inr hblank))))
  simp only [isBlank, Bool.or_eq_false_iff, Bool.and_eq_false_iff, decide_eq_false_iff_not,
    beq_eq_false_iff_ne] at hn ⊢
  omega

theorem isDelimiter_of_isBareChar {c : Char} (h : isBareChar c = true) : isDelimiter c = false := by
  simp only [isDelimiter, Bool.or_eq_false_iff, beq_eq_false_iff_ne]
  exact ⟨⟨⟨⟨ne_of_isBareChar h rfl, ne_of_isBareChar h rfl⟩, ne_of_isBareChar h rfl⟩,
    ne_of_isBareChar h rfl⟩, isBlank_of_isBareChar h⟩

/-! ### Passing over characters -/

/-- Characters that are read from one place to another without a cut, inside a compound selector. -/
def Passes (p : Place) (s : List Char) (q : Place) : Prop :=
  ∀ taken rest, compoundsFrom p (some taken) (s ++ rest) =
    compoundsFrom q (some (s.reverse ++ taken)) rest

namespace Passes

variable {p q r : Place} {s t : List Char}

theorem nil (p : Place) : Passes p [] p := fun _ _ => rfl

theorem cons {c : Char} (hcut : p.cuts c = false) (h : Passes (p.after c) s q) :
    Passes p (c :: s) q := by
  intro taken rest
  have hs := h (c :: taken) rest
  rw [List.cons_append, compoundsFrom, hcut, if_neg Bool.false_ne_true]
  simp only [hs, List.reverse_cons, List.append_assoc, List.singleton_append]

theorem append (h : Passes p s q) (h' : Passes q t r) : Passes p (s ++ t) r := by
  intro taken rest
  rw [List.append_assoc, h, h', List.reverse_append, List.append_assoc]

/-- Characters that mean nothing are passed over. -/
theorem singleton {c : Char} (hcut : p.cuts c = false) (h : p.after c = q) : Passes p [c] q :=
  cons hcut (h ▸ nil _)

end Passes

/-- The place inside so many brackets. -/
abbrev inside (depth : Nat) : Place := ⟨.plain, depth⟩

theorem cuts_of_isDelimiter {p : Place} {c : Char} (h : isDelimiter c = false) : p.cuts c = false := by
  simp [Place.cuts, h]

theorem after_inside {c : Char} (depth : Nat) (hslash : c ≠ '\\') (hquote : isQuote c = false)
    (hopen : isOpener c = false) (hclose : isCloser c = false) :
    (inside depth).after c = inside depth := by
  simp [Place.after, hslash, hquote, hopen, hclose]

/-- After a backslash any character is passed over. -/
theorem passes_pair (depth : Nat) (c : Char) : Passes (inside depth) ['\\', c] (inside depth) :=
  .cons (cuts_of_isDelimiter rfl) (.singleton rfl rfl)

theorem passes_bare (depth : Nat) {c : Char} (h : isBareChar c = true) :
    Passes (inside depth) [c] (inside depth) := by
  refine .singleton (cuts_of_isDelimiter (isDelimiter_of_isBareChar h))
    (after_inside depth (ne_of_isBareChar h rfl) ?_ ?_ ?_)
  · simp [isQuote, ne_of_isBareChar h (d := '"') rfl, ne_of_isBareChar h (d := '\'') rfl]
  · simp [isOpener, ne_of_isBareChar h (d := '(') rfl, ne_of_isBareChar h (d := '[') rfl]
  · simp [isCloser, ne_of_isBareChar h (d := ')') rfl, ne_of_isBareChar h (d := ']') rfl]

theorem passes_name (depth : Nat) (n : Name) : Passes (inside depth) n.chars (inside depth) := by
  unfold Name.chars
  induction n.parts with
  | nil => exact .nil _
  | cons part parts ih =>
      rw [List.flatMap_cons]
      refine .append ?_ ih
      cases part with
      | bare c h => exact passes_bare depth h
      | escaped c => exact passes_pair depth c

/-- The parts of a string are passed over. -/
theorem passes_quotedParts (depth : Nat) {q : Quote} (parts : List (QuotedPart q)) :
    Passes ⟨.quoted q.char, depth⟩ (parts.flatMap QuotedPart.chars) ⟨.quoted q.char, depth⟩ := by
  induction parts with
  | nil => exact .nil _
  | cons part parts ih =>
      rw [List.flatMap_cons]
      refine .append ?_ ih
      cases part with
      | plain c h => exact .singleton rfl (by simp [Place.after, h.1, h.2])
      | pair c => exact .cons rfl (.singleton rfl (by simp [Place.after]))

/-- What stands between brackets is passed over. -/
theorem passes_contents (depth : Nat) (c : Contents) :
    Passes (inside (depth + 1)) c.chars (inside (depth + 1)) := by
  induction c generalizing depth with
  | nil => exact .nil _
  | loose c h rest ih =>
      simp only [isLoose, Bool.and_eq_true, Bool.not_eq_true', bne_iff_ne] at h
      obtain ⟨⟨⟨hslash, hquote⟩, hopen⟩, hclose⟩ := h
      exact .append (s := [c])
        (.singleton rfl (after_inside _ hslash hquote hopen hclose)) (ih depth)
  | pair c rest ih => exact .append (passes_pair _ c) (ih depth)
  | string q parts rest ih =>
      have hopen : Passes (inside (depth + 1)) [q.char] ⟨.quoted q.char, depth + 1⟩ := by
        cases q <;> exact .singleton rfl rfl
      have hclose : Passes ⟨.quoted q.char, depth + 1⟩ [q.char] (inside (depth + 1)) := by
        cases q <;> exact .singleton rfl rfl
      exact hopen.append (.append (passes_quotedParts _ parts) (hclose.append (ih depth)))
  | block b inner rest ihInner ih =>
      have hopen : Passes (inside (depth + 1)) [b.opener] (inside (depth + 2)) := by
        cases b <;> exact .singleton rfl rfl
      have hclose : Passes (inside (depth + 2)) [b.closer] (inside (depth + 1)) := by
        cases b <;> exact .singleton rfl rfl
      exact hopen.append (.append (ihInner (depth + 1)) (hclose.append (ih depth)))

/-- Contents in brackets are passed over at the top. -/
theorem passes_block (b : Bracket) (c : Contents) :
    Passes (inside 0) (b.opener :: (c.chars ++ [b.closer])) (inside 0) := by
  have hopen : Passes (inside 0) [b.opener] (inside 1) := by
    cases b <;> exact .singleton (by decide) rfl
  have hclose : Passes (inside 1) [b.closer] (inside 0) := by
    cases b <;> exact .singleton rfl rfl
  exact hopen.append (.append (passes_contents 0 c) hclose)

theorem passes_mark {c : Char} (hd : isDelimiter c = false) (h : (inside 0).after c = inside 0) :
    Passes (inside 0) [c] (inside 0) :=
  .singleton (cuts_of_isDelimiter hd) h

theorem passes_component (c : Component) : Passes (inside 0) c.chars (inside 0) := by
  have hcolon : Passes (inside 0) [':'] (inside 0) := passes_mark rfl rfl
  have hargs : ∀ args, Passes (inside 0) (Component.argsChars args) (inside 0) := by
    intro args
    cases args with
    | none => exact .nil _
    | some body => exact passes_block .round body
  cases c with
  | className n => exact .append (s := ['.']) (passes_mark rfl rfl) (passes_name 0 n)
  | id n => exact .append (s := ['#']) (passes_mark rfl rfl) (passes_name 0 n)
  | pseudo twice n args =>
      cases twice with
      | false => exact hcolon.append (.append (passes_name 0 n) (hargs args))
      | true => exact hcolon.append (hcolon.append (.append (passes_name 0 n) (hargs args)))
  | attr body => exact passes_block .square body

theorem passes_components (cs : List Component) :
    Passes (inside 0) (cs.flatMap Component.chars) (inside 0) := by
  induction cs with
  | nil => exact .nil _
  | cons c cs ih =>
      rw [List.flatMap_cons]
      exact .append (passes_component c) ih

theorem passes_compound (c : Compound) : Passes (inside 0) c.chars (inside 0) := by
  refine .append ?_ (passes_components c.components)
  cases c.type with
  | none => exact .nil _
  | some t =>
      cases t with
      | named n => exact passes_name 0 n
      | any => exact passes_mark rfl rfl

/-! ### Where compound selectors begin and end -/

/-- A character that a compound selector may begin with. -/
def isOpening (c : Char) : Bool := !isDelimiter c && !isCloser c

theorem isOpening_of_isBareChar {c : Char} (h : isBareChar c = true) : isOpening c = true := by
  simp [isOpening, isDelimiter_of_isBareChar h, isCloser, ne_of_isBareChar h (d := ')') rfl,
    ne_of_isBareChar h (d := ']') rfl]

theorem exists_chars_name (n : Name) : ∃ c cs, n.chars = c :: cs ∧ isOpening c = true := by
  unfold Name.chars Name.parts
  rw [List.flatMap_cons]
  cases n.first with
  | bare c h => exact ⟨c, _, rfl, isOpening_of_isBareChar h⟩
  | escaped c => exact ⟨'\\', _, rfl, rfl⟩

theorem exists_chars_component (c : Component) : ∃ d ds, c.chars = d :: ds ∧ isOpening d = true := by
  cases c with
  | className | id | attr => exact ⟨_, _, rfl, rfl⟩
  | pseudo twice => cases twice <;> exact ⟨_, _, rfl, rfl⟩

/-- A compound selector has a first character, which is no delimiter and closes no bracket. -/
theorem exists_chars_compound (c : Compound) : ∃ d ds, c.chars = d :: ds ∧ isOpening d = true := by
  obtain ⟨type, components, hne⟩ := c
  cases type with
  | some t =>
      cases t with
      | named n =>
          obtain ⟨d, ds, hn, hd⟩ := exists_chars_name n
          exact ⟨d, ds ++ components.flatMap Component.chars,
            by simp [Compound.chars, ElementType.chars, hn], hd⟩
      | any => exact ⟨'*', _, rfl, rfl⟩
  | none =>
      cases components with
      | nil => simp at hne
      | cons component components =>
          obtain ⟨d, ds, hc, hd⟩ := exists_chars_component component
          exact ⟨d, ds ++ components.flatMap Component.chars, by simp [Compound.chars, hc], hd⟩

/-- A compound selector begins where none has begun. -/
theorem compoundsFrom_compound (c : Compound) (rest : List Char) :
    compoundsFrom (inside 0) none (c.chars ++ rest) =
      compoundsFrom (inside 0) (some c.chars.reverse) rest := by
  obtain ⟨d, ds, hchars, hd⟩ := exists_chars_compound c
  simp only [isOpening, Bool.and_eq_true, Bool.not_eq_true'] at hd
  have hpass := passes_compound c [] rest
  rw [List.append_nil] at hpass
  rw [← hpass, hchars, List.cons_append, compoundsFrom, compoundsFrom,
    cuts_of_isDelimiter hd.1, begins, hd.2]
  rfl

/-- Delimiters before a compound selector are passed over. -/
theorem compoundsFrom_delimiters (ds : List Delimiter) (rest : List Char) :
    compoundsFrom (inside 0) none (ds.map Subtype.val ++ rest) =
      compoundsFrom (inside 0) none rest := by
  induction ds with
  | nil => rfl
  | cons d ds ih =>
      rw [List.map_cons, List.cons_append, compoundsFrom]
      simp only [Place.cuts, d.property]
      exact ih

/-- A delimiter ends a compound selector. -/
theorem compoundsFrom_delimiter (d : Delimiter) (ds : List Delimiter) (taken rest : List Char) :
    compoundsFrom (inside 0) (some taken) ((d :: ds).map Subtype.val ++ rest) =
      taken.reverse :: compoundsFrom (inside 0) none rest := by
  rw [List.map_cons, List.cons_append, compoundsFrom]
  simp only [Place.cuts, d.property]
  exact congrArg (taken.reverse :: ·) (compoundsFrom_delimiters ds rest)

theorem compoundsFrom_row (row : Row) (after : List Delimiter) :
    compoundsFrom (inside 0) none (row.chars ++ after.map Subtype.val) =
      row.compounds.map Compound.chars := by
  induction row with
  | last c =>
      rw [Row.chars, compoundsFrom_compound]
      cases after with
      | nil => simp [compoundsFrom, Row.compounds]
      | cons d ds =>
          have h := compoundsFrom_delimiter d ds c.chars.reverse []
          rw [List.append_nil] at h
          rw [h, List.reverse_reverse]
          rfl
  | cons c d ds rest ih =>
      rw [Row.chars, List.append_assoc, compoundsFrom_compound, List.append_assoc,
        compoundsFrom_delimiter, ih, List.reverse_reverse]
      rfl

/-- Cutting a written selector list gives its compound selectors, as they are written. -/
theorem compounds_chars (w : Written) : compounds w.chars = w.compounds.map Compound.chars := by
  unfold compounds Written.chars Written.compounds
  rw [show ({} : Place) = inside 0 from rfl, compoundsFrom_delimiters]
  cases w.row with
  | none =>
      have h := compoundsFrom_delimiters w.after []
      rw [List.append_nil] at h
      exact h
  | some row => exact compoundsFrom_row row w.after

end ClassLens.Selector
