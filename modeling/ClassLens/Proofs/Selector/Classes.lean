import Mathlib
import ClassLens.Proofs.Selector.Written
import ClassLens.Selector.ClassName

/-! # The classes of a written selector

The reader of class names counts brackets of one kind only, where the one that cuts a selector list
counts both kinds alike.  On a written selector both see the same blocks, because brackets and quotes
are closed in it.

**Main statements.** `skipBlock_contents`: what stands between brackets is skipped.
`classNames_chars`: the class names that are found are those that are written.  `read_written`: so a
written selector list is read back, its compound selectors and the classes of each. -/

namespace ClassLens.Selector

/-! ### Names -/

/-- What may follow a name: neither a character of a name nor a backslash. -/
def Stops (rest : List Char) : Prop :=
  ∀ c ∈ rest.head?, isNameChar c = false ∧ c ≠ '\\'

theorem isNameChar_of_isBareChar {c : Char} (h : isBareChar c = true) : isNameChar c = true := by
  simp only [isBareChar, isNameChar, Bool.or_eq_true, Bool.and_eq_true] at h ⊢
  rcases h with h | ⟨h, -⟩
  · exact .inl h
  · exact .inr h

/-- A name is read back without its backslashes. -/
theorem readName_chars (n : Name) {rest : List Char} (h : Stops rest) :
    readName (n.chars ++ rest) = (n.plain, rest) := by
  unfold Name.chars Name.plain
  induction n.parts with
  | nil =>
      cases rest with
      | nil => rfl
      | cons c cs =>
          obtain ⟨hname, hslash⟩ := h c rfl
          simp [readName, hname, hslash]
  | cons part parts ih =>
      rw [List.flatMap_cons, List.append_assoc, List.map_cons]
      cases part with
      | bare c hc =>
          have hslash : c ≠ '\\' := ne_of_isBareChar hc rfl
          simp [NamePart.chars, readName, isNameChar_of_isBareChar hc, hslash, ih, NamePart.char]
      | escaped c => simp [NamePart.chars, readName, ih, NamePart.char]

/-! ### Blocks -/

/-- What follows a string is what follows its closing quote. -/
theorem skipQuoted_parts {q : Quote} (parts : List (QuotedPart q)) (rest : List Char) :
    skipQuoted q.char (parts.flatMap QuotedPart.chars ++ q.char :: rest) = rest := by
  induction parts with
  | nil => cases q <;> simp [skipQuoted, Quote.char]
  | cons part parts ih =>
      rw [List.flatMap_cons, List.append_assoc]
      cases part with
      | plain c h => simp [QuotedPart.chars, skipQuoted, h.1, h.2, ih]
      | pair c => simp [QuotedPart.chars, skipQuoted, ih]

theorem skipBlock_step (opener closer : Char) (depth : Nat) (c : Char) (rest : List Char) :
    skipBlock opener closer depth (c :: rest) =
      if c = '\\' then skipBlock opener closer depth rest.tail
      else if isQuote c then skipBlock opener closer depth (skipQuoted c rest)
      else if c = opener then skipBlock opener closer (depth + 1) rest
      else if c = closer then
        match depth with
        | 0 => rest
        | depth + 1 => skipBlock opener closer depth rest
      else skipBlock opener closer depth rest :=
  skipBlock.eq_def opener closer depth (c :: rest)

/-- A character that is neither a backslash nor a quote nor one of the brackets that are counted is
skipped. -/
theorem skipBlock_cons {b : Bracket} {c : Char} (hslash : c ≠ '\\') (hquote : isQuote c = false)
    (hopen : c ≠ b.opener) (hclose : c ≠ b.closer) (depth : Nat) (rest : List Char) :
    skipBlock b.opener b.closer depth (c :: rest) = skipBlock b.opener b.closer depth rest := by
  rw [skipBlock_step, if_neg hslash, hquote, if_neg Bool.false_ne_true, if_neg hopen, if_neg hclose]

/-- An opening bracket of the kind that is counted. -/
theorem skipBlock_opener (b : Bracket) (depth : Nat) (rest : List Char) :
    skipBlock b.opener b.closer depth (b.opener :: rest) =
      skipBlock b.opener b.closer (depth + 1) rest := by
  cases b <;> simp [skipBlock_step, Bracket.opener, isQuote]

/-- A closing bracket of the kind that is counted. -/
theorem skipBlock_closer (b : Bracket) (depth : Nat) (rest : List Char) :
    skipBlock b.opener b.closer (depth + 1) (b.closer :: rest) =
      skipBlock b.opener b.closer depth rest := by
  cases b <;> simp [skipBlock_step, Bracket.opener, Bracket.closer, isQuote]

/-- The bracket that closes a block ends it. -/
theorem skipBlock_end (b : Bracket) (rest : List Char) :
    skipBlock b.opener b.closer 0 (b.closer :: rest) = rest := by
  cases b <;> simp [skipBlock_step, Bracket.opener, Bracket.closer, isQuote]

/-- What stands between brackets is skipped, whichever kind is counted. -/
theorem skipBlock_contents (b : Bracket) (c : Contents) (depth : Nat) (rest : List Char) :
    skipBlock b.opener b.closer depth (c.chars ++ rest) =
      skipBlock b.opener b.closer depth rest := by
  induction c generalizing depth rest with
  | nil => rfl
  | loose c h more ih =>
      simp only [isLoose, isOpener, isCloser, Bool.and_eq_true, Bool.not_eq_true', bne_iff_ne,
        Bool.or_eq_false_iff, beq_eq_false_iff_ne] at h
      obtain ⟨⟨⟨hslash, hquote⟩, hround, hsquare⟩, hround', hsquare'⟩ := h
      have hopen : c ≠ b.opener := by cases b <;> assumption
      have hclose : c ≠ b.closer := by cases b <;> assumption
      rw [Contents.chars, List.cons_append, skipBlock_cons hslash hquote hopen hclose, ih]
  | pair c more ih =>
      rw [Contents.chars, List.cons_append, List.cons_append, skipBlock_step, if_pos rfl, List.tail_cons,
        ih]
  | string q parts more ih =>
      have hslash : q.char ≠ '\\' := by cases q <;> decide
      have hquote : isQuote q.char = true := by cases q <;> rfl
      rw [Contents.chars, List.cons_append, List.append_assoc, List.cons_append, skipBlock_step,
        if_neg hslash, if_pos hquote, skipQuoted_parts, ih]
  | block k inner more ihInner ih =>
      rw [Contents.chars, List.cons_append, List.append_assoc, List.cons_append]
      by_cases hk : k = b
      · subst hk
        rw [skipBlock_opener, ihInner, skipBlock_closer, ih]
      · -- brackets of the other kind are not counted
        have hopener : ∀ depth rest, skipBlock b.opener b.closer depth (k.opener :: rest) =
            skipBlock b.opener b.closer depth rest := by
          cases k <;> cases b <;>
            first
              | exact absurd rfl hk
              | exact skipBlock_cons (by decide) rfl (by decide) (by decide)
        have hcloser : ∀ depth rest, skipBlock b.opener b.closer depth (k.closer :: rest) =
            skipBlock b.opener b.closer depth rest := by
          cases k <;> cases b <;>
            first
              | exact absurd rfl hk
              | exact skipBlock_cons (by decide) rfl (by decide) (by decide)
        rw [hopener, ihInner, hcloser, ih]

/-! ### Class names -/

/-- A character that begins nothing is passed over. -/
theorem classNames_cons {c : Char} (hslash : c ≠ '\\') (hsquare : c ≠ '[') (hround : c ≠ '(')
    (hdot : c ≠ '.') (rest : List Char) : classNames (c :: rest) = classNames rest := by
  rw [classNames, if_neg hslash, if_neg hsquare, if_neg hround, if_neg hdot]

/-- A name that stands after no full stop names no class. -/
theorem classNames_name (n : Name) (rest : List Char) :
    classNames (n.chars ++ rest) = classNames rest := by
  unfold Name.chars
  induction n.parts with
  | nil => rfl
  | cons part parts ih =>
      rw [List.flatMap_cons, List.append_assoc]
      cases part with
      | bare c h =>
          exact (classNames_cons (ne_of_isBareChar h rfl) (ne_of_isBareChar h rfl)
            (ne_of_isBareChar h rfl) (ne_of_isBareChar h rfl) _).trans ih
      | escaped c =>
          rw [NamePart.chars, List.cons_append, classNames, if_pos rfl]
          exact ih

/-- A name after a full stop is a class name. -/
theorem classNames_dot (n : Name) {rest : List Char} (h : Stops rest) :
    classNames ('.' :: (n.chars ++ rest)) = n.plain :: classNames rest := by
  rw [classNames, if_neg (by decide), if_neg (by decide), if_neg (by decide), if_pos rfl,
    readName_chars n h]
  rfl

/-- A block names no class. -/
theorem classNames_block (b : Bracket) (c : Contents) (rest : List Char) :
    classNames (b.opener :: (c.chars ++ b.closer :: rest)) = classNames rest := by
  have hskip : skipBlock b.opener b.closer 0 (c.chars ++ b.closer :: rest) = rest := by
    rw [skipBlock_contents, skipBlock_end]
  cases b with
  | round =>
      change classNames ('(' :: _) = _
      rw [classNames, if_neg (by decide), if_neg (by decide), if_pos rfl]
      exact congrArg classNames hskip
  | square =>
      change classNames ('[' :: _) = _
      rw [classNames, if_neg (by decide), if_pos rfl]
      exact congrArg classNames hskip

theorem classNames_args (args : Option Contents) (rest : List Char) :
    classNames (Component.argsChars args ++ rest) = classNames rest := by
  cases args with
  | none => rfl
  | some c =>
      rw [Component.argsChars, List.cons_append, List.append_assoc]
      exact classNames_block .round c rest

/-- Of a component the class is found that it asks for. -/
theorem classNames_component (c : Component) {rest : List Char} (h : Stops rest) :
    classNames (c.chars ++ rest) = c.class?.toList ++ classNames rest := by
  have hcolon : ∀ rest, classNames (':' :: rest) = classNames rest :=
    classNames_cons (by decide) (by decide) (by decide) (by decide)
  cases c with
  | className n => exact classNames_dot n h
  | id n =>
      exact (classNames_cons (by decide) (by decide) (by decide) (by decide) _).trans
        (classNames_name n rest)
  | pseudo twice n args =>
      have hname : classNames ((n.chars ++ Component.argsChars args) ++ rest) = classNames rest := by
        rw [List.append_assoc, classNames_name, classNames_args]
      cases twice with
      | false => exact (hcolon _).trans hname
      | true => exact (hcolon _).trans ((hcolon _).trans hname)
  | attr body =>
      rw [Component.chars, List.cons_append, List.append_assoc]
      exact classNames_block .square body rest

/-- A name ends where a component begins. -/
theorem stops_components (cs : List Component) : Stops (cs.flatMap Component.chars) := by
  cases cs with
  | nil => exact fun c hc => by cases hc
  | cons c cs =>
      rw [List.flatMap_cons]
      intro d hd
      cases c with
      | className | id | attr =>
          cases hd
          exact ⟨rfl, by decide⟩
      | pseudo twice =>
          cases twice <;> cases hd <;> exact ⟨rfl, by decide⟩

/-- The class names that are found in a compound selector are those that it asks for. -/
theorem classNames_chars (c : Compound) : classNames c.chars = c.classes := by
  have hcomponents : ∀ cs : List Component,
      classNames (cs.flatMap Component.chars) = cs.filterMap Component.class? := by
    intro cs
    induction cs with
    | nil => rw [List.flatMap_nil, classNames, List.filterMap_nil]
    | cons c cs ih =>
        rw [List.flatMap_cons, classNames_component c (stops_components cs), ih, List.filterMap_cons]
        cases c.class? <;> rfl
  unfold Compound.chars Compound.classes
  rw [← hcomponents]
  cases c.type with
  | none => rfl
  | some t =>
      cases t with
      | named n => exact classNames_name n _
      | any => exact classNames_cons (by decide) (by decide) (by decide) (by decide) _

/-- A written selector list is read back.  Cutting it gives its compound selectors as they are written,
in order; the class names that are found in each are those of its `.name` parts, in order and without
their backslashes, and none from arguments, attributes, ids or types; and it names a class exactly if
one of its compound selectors has a `.name` part for it. -/
theorem read_written :
    (∀ w : Written, compoundTexts (String.ofList w.chars) =
        w.compounds.map fun c => String.ofList c.chars) ∧
      (∀ c : Compound, classNameTexts (String.ofList c.chars) = c.classes.map String.ofList) ∧
      ∀ (w : Written) (x : String), hasClass (String.ofList w.chars) x = true ↔
        ∃ c ∈ w.compounds, x.toList ∈ c.classes := by
  have hcut : ∀ w : Written, compoundTexts (String.ofList w.chars) =
      w.compounds.map fun c => String.ofList c.chars := by
    intro w
    rw [compoundTexts, String.toList_ofList, compounds_chars, List.map_map]
    rfl
  have hnames : ∀ c : Compound,
      classNameTexts (String.ofList c.chars) = c.classes.map String.ofList := by
    intro c
    rw [classNameTexts, String.toList_ofList, classNames_chars]
  refine ⟨hcut, hnames, fun w x => ?_⟩
  simp only [hasClass, hcut, List.any_map, List.any_eq_true, Function.comp_apply, hnames,
    List.contains_iff_mem, List.mem_map]
  constructor
  · rintro ⟨c, hc, name, hname, rfl⟩
    exact ⟨c, hc, by rwa [String.toList_ofList]⟩
  · rintro ⟨c, hc, hx⟩
    exact ⟨c, hc, x.toList, hx, String.ofList_toList⟩

/-- A block with brackets of the other kind, a string in it, and an escaped colon. -/
example : (compoundTexts ".a:is(.b, [x='](']) > li.c\\:d").map classNameTexts = [["a"], ["c:d"]] := by
  cbv

end ClassLens.Selector
