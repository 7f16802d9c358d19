import Mathlib
import ClassLens.Proofs.Usage.Statements

/-! # The imports of a text

A text of import statements has the word `import` in other places as well: in names and in sources.  What
is read there ends in front of the first quote behind it, and behind this quote stands no source of a
stylesheet: it is the source of a statement that imports something else, or the text up to the next one.

* `Quiet m`: a text without quotes in which every opening brace is closed.
* `Ahead q rest s`: the first quote of `s`, and what stands behind it.
* `written ps`: the text of some statements, with semicolons and white space in front of each.
* `starts offset ps`: the statements with the bytes at which they start.

**Main statements.** `readSource?_of_importAt?`: a statement has its source behind the first quote.
`imports_written`: the imports of a text of statements are the statements that name a stylesheet. -/

namespace ClassLens.Usage

open Text (isBlank isWord byteLength byteLength_append)

/-! ### Texts without quotes -/

/-- A text without quotes in which every opening brace is closed. -/
structure Quiet (m : List Char) : Prop where
  unquoted : ∀ c ∈ m, isSourceQuote c = false
  closed : ∀ front back, m = front ++ '{' :: back → '}' ∈ back

namespace Quiet

variable {m m' : List Char}

theorem of_plain (h : ∀ c ∈ m, isSourceQuote c = false ∧ c ≠ '{') : Quiet m where
  unquoted c hc := (h c hc).1
  closed front back hm := by
    have hmem : '{' ∈ m := hm ▸ List.mem_append_right _ List.mem_cons_self
    exact absurd rfl (h _ hmem).2

theorem append (h : Quiet m) (h' : Quiet m') : Quiet (m ++ m') where
  unquoted c hc := (List.mem_append.mp hc).elim (h.unquoted c) (h'.unquoted c)
  closed front back heq := by
    rcases List.append_eq_append_iff.mp heq with ⟨between, hfront, hm'⟩ | ⟨between, hm, hback⟩
    · exact h'.closed between back hm'
    · cases between with
      | nil => exact h'.closed [] back hback.symm
      | cons c cs =>
          obtain ⟨rfl, hrest⟩ := List.cons.inj hback
          exact hrest ▸ List.mem_append_left _ (h.closed front cs hm)

theorem of_append (h : Quiet (m ++ m')) : Quiet m' where
  unquoted c hc := h.unquoted c (List.mem_append_right _ hc)
  closed front back heq := h.closed (m ++ front) back (by rw [heq, List.append_assoc])

end Quiet

theorem unquoted_of_all {w : List Char} (h : (w.all fun c => !isSourceQuote c) = true) :
    ∀ c ∈ w, isSourceQuote c = false := by
  simpa using h

/-! ### The first quote -/

/-- The first quote of a text, and what stands behind it. -/
def Ahead (q : Char) (rest s : List Char) : Prop :=
  ∃ m, Quiet m ∧ s = m ++ q :: rest

section Ahead

variable {q : Char} {rest s s' w n : List Char} (hq : isSourceQuote q = true)

include hq

/-- What is read in front of it leaves the first quote where it is. -/
theorem Ahead.of_append (h : Ahead q rest (w ++ s)) (hw : ∀ c ∈ w, isSourceQuote c = false) :
    Ahead q rest s := by
  obtain ⟨m, hm, heq⟩ := h
  rcases List.append_eq_append_iff.mp heq with ⟨between, hmw, hs⟩ | ⟨between, hwm, hrest⟩
  · exact ⟨between, Quiet.of_append (hmw ▸ hm), hs⟩
  · cases between with
    | nil => exact ⟨[], .of_plain (by simp), hrest.symm⟩
    | cons c cs =>
        -- the quote would have been read
        have hc : c = q := (List.cons.inj hrest).1.symm
        have hmem : q ∈ w := by
          rw [hwm, ← hc]
          exact List.mem_append_right _ List.mem_cons_self
        exact absurd hq (by simp [hw q hmem])

theorem ahead_skipBlank (h : Ahead q rest s) : Ahead q rest (skipBlank s) := by
  rw [← List.takeWhile_append_dropWhile (p := isBlank) (l := s)] at h
  exact h.of_append hq fun c hc => unquoted_of_test (List.mem_takeWhile_imp hc) rfl rfl

theorem ahead_skipSomeBlank? (h : Ahead q rest s) (hread : skipSomeBlank? s = some s') :
    Ahead q rest s' := by
  cases s with
  | nil => cases hread
  | cons c cs =>
      rw [skipSomeBlank?] at hread
      split at hread
      · rename_i hblank
        obtain rfl := Option.some.inj hread
        have hskip : skipBlank (c :: cs) = skipBlank cs := by
          rw [skipBlank, List.dropWhile_cons_of_pos hblank]
          rfl
        exact hskip ▸ ahead_skipBlank hq h
      · cases hread

theorem ahead_afterWord? {word : String} (hword : ∀ c ∈ word.toList, isSourceQuote c = false)
    (h : Ahead q rest s) (hread : afterWord? word s = some s') : Ahead q rest s' := by
  rw [← List.append_eq_of_isPrefixOf?_eq_some hread] at h
  exact h.of_append hq hword

theorem ahead_readBinding? (h : Ahead q rest s) (hread : readBinding? s = some (n, s')) :
    Ahead q rest s' := by
  cases s with
  | nil => cases hread
  | cons c cs =>
      rw [readBinding?] at hread
      split at hread
      · rename_i hc
        obtain ⟨-, rfl⟩ := Prod.mk.inj (Option.some.inj hread)
        rw [← List.takeWhile_append_dropWhile (p := isNamePart) (l := cs), ← List.cons_append] at h
        refine h.of_append hq fun x hx => ?_
        rcases List.mem_cons.mp hx with rfl | hx
        · exact unquoted_of_test hc (by decide) (by decide)
        · exact unquoted_of_test (List.mem_takeWhile_imp hx) (by decide) (by decide)
      · cases hread

/-- Braces that are opened in front of the quote are closed in front of it. -/
theorem ahead_afterBraces? (h : Ahead q rest s) (hread : afterBraces? s = some s') :
    Ahead q rest s' := by
  obtain ⟨m, hm, rfl⟩ := h
  cases m with
  | nil =>
      rcases isSourceQuote_iff.mp hq with rfl | rfl <;> cases hread
  | cons c cs =>
      by_cases hc : c = '{'
      · subst hc
        obtain ⟨front, back, rfl, hfront⟩ := List.eq_append_cons_of_mem (hm.closed [] cs rfl)
        have hdrop : (front ++ '}' :: back ++ q :: rest).dropWhile (· != '}') =
            '}' :: (back ++ q :: rest) := by
          rw [List.append_assoc, List.cons_append]
          exact dropWhile_of_maximal (fun x hx => bne_iff_ne.mpr fun he => hfront (he ▸ hx)) rfl
        rw [List.cons_append] at hread
        simp only [afterBraces?, hdrop, Option.some.injEq] at hread
        refine ⟨back, ?_, hread.symm⟩
        have heq : '{' :: (front ++ '}' :: back) = ('{' :: front ++ ['}']) ++ back := by simp
        exact Quiet.of_append (heq ▸ hm)
      · rw [List.cons_append] at hread
        unfold afterBraces? at hread
        split at hread
        · rename_i heq
          exact absurd (List.cons.inj heq).1 hc
        · cases hread

theorem ahead_readNamespace? (h : Ahead q rest s) (hread : readNamespace? s = some (n, s')) :
    Ahead q rest s' := by
  unfold readNamespace? at hread
  split at hread
  · rename_i cs
    simp only [Option.bind_eq_bind, Option.bind_eq_some_iff] at hread
    obtain ⟨s₁, has, s₂, hspace, hname⟩ := hread
    have hstar : Ahead q rest cs := h.of_append (w := ['*']) hq (unquoted_of_all rfl)
    have has' := ahead_afterWord? hq (unquoted_of_all rfl) (ahead_skipBlank hq hstar) has
    exact ahead_readBinding? hq (ahead_skipSomeBlank? hq has' hspace) hname
  · cases hread

theorem ahead_afterFrom? (h : Ahead q rest s) (hread : afterFrom? s = some s') :
    Ahead q rest s' := by
  simp only [afterFrom?, Option.bind_eq_bind, Option.bind_eq_some_iff] at hread
  obtain ⟨s₁, hspace, hfrom⟩ := hread
  exact ahead_afterWord? hq (unquoted_of_all rfl) (ahead_skipSomeBlank? hq h hspace) hfrom

variable {binding : Option (List Char)}

theorem ahead_readDefaultClause? (h : Ahead q rest s)
    (hread : readDefaultClause? s = some (binding, s')) : Ahead q rest s' := by
  simp only [readDefaultClause?, Option.bind_eq_bind, Option.bind_eq_some_iff] at hread
  obtain ⟨⟨name, s₁⟩, hname, hread⟩ := hread
  have hs₁ := ahead_skipBlank hq (ahead_readBinding? hq h hname)
  simp only at hread
  split at hread
  · rename_i s₂ hcomma
    simp only [Option.bind_eq_some_iff, Option.pure_def, Option.some.injEq, Prod.mk.injEq] at hread
    obtain ⟨s₃, hmore, s₄, hfrom, -, rfl⟩ := hread
    rw [hcomma] at hs₁
    have hs₂ := ahead_skipBlank hq (hs₁.of_append (w := [',']) hq (unquoted_of_all rfl))
    refine ahead_afterFrom? hq ?_ hfrom
    -- names in braces, or else a name for all
    cases hbraces : afterBraces? (skipBlank s₂) with
    | some s₅ =>
        rw [hbraces] at hmore
        exact Option.some.inj hmore ▸ ahead_afterBraces? hq hs₂ hbraces
    | none =>
        rw [hbraces] at hmore
        obtain ⟨⟨all, s₅⟩, hall, rfl⟩ := Option.map_eq_some_iff.mp hmore
        exact ahead_readNamespace? hq hs₂ hall
  · simp only [Option.bind_eq_some_iff, Option.pure_def, Option.some.injEq, Prod.mk.injEq] at hread
    obtain ⟨s₂, hfrom, -, rfl⟩ := hread
    exact ahead_afterFrom? hq (ahead_readBinding? hq h hname) hfrom

theorem ahead_readClause? (h : Ahead q rest s) (hread : readClause? s = some (binding, s')) :
    Ahead q rest s' := by
  have hskip := ahead_skipBlank hq h
  unfold readClause? at hread
  split at hread
  · rename_i cs hstar
    simp only [readNamespaceClause?, Option.bind_eq_bind, Option.bind_eq_some_iff, Option.pure_def,
      Option.some.injEq, Prod.mk.injEq] at hread
    obtain ⟨⟨name, s₁⟩, hall, s₂, hfrom, -, rfl⟩ := hread
    exact ahead_afterFrom? hq (ahead_readNamespace? hq (hstar ▸ hskip) hall) hfrom
  · rename_i cs hbrace
    simp only [readBracesClause?, Option.bind_eq_bind, Option.bind_eq_some_iff, Option.pure_def,
      Option.some.injEq, Prod.mk.injEq] at hread
    obtain ⟨s₁, hbraces, s₂, hfrom, -, rfl⟩ := hread
    have hs₁ := ahead_afterBraces? hq (hbrace ▸ hskip) hbraces
    exact ahead_afterWord? hq (unquoted_of_all rfl) (ahead_skipBlank hq hs₁) hfrom
  · obtain ⟨-, rfl⟩ := Prod.mk.inj (Option.some.inj hread)
    exact h
  · obtain ⟨-, rfl⟩ := Prod.mk.inj (Option.some.inj hread)
    exact h
  · obtain ⟨s₁, hspace, hclause⟩ := Option.bind_eq_some_iff.mp hread
    exact ahead_readDefaultClause? hq (ahead_skipSomeBlank? hq h hspace) hclause

/-- A statement has its source behind the first quote. -/
theorem readSource?_of_importAt? {p : Option Char} {source : List Char} (h : Ahead q rest s)
    (hread : importAt? p s = some (source, binding, s')) :
    readSource? (q :: rest) = some (source, s') := by
  unfold importAt? at hread
  split at hread
  · cases hread
  · simp only [Option.bind_eq_bind, Option.bind_eq_some_iff, Option.pure_def, Option.some.injEq,
      Prod.mk.injEq] at hread
    obtain ⟨s₁, hword, ⟨b, s₂⟩, hclause, ⟨found, s₃⟩, hsource, rfl, -, rfl⟩ := hread
    have hs₁ := ahead_afterWord? hq (unquoted_of_all rfl) h hword
    obtain ⟨m, hm, hskip⟩ := ahead_skipBlank hq (ahead_readClause? hq hs₁ hclause)
    simp only at hsource
    rw [hskip] at hsource
    cases m with
    | nil => exact hsource
    | cons c cs =>
        -- a source starts with a quote
        obtain ⟨q', _, hq', _, heq, -⟩ := readSource?_eq_some_iff.mp hsource
        have hc : c = q' := (List.cons.inj heq).1
        exact absurd hq' (by simp [← hc, hm.unquoted c List.mem_cons_self])

theorem importAt?_eq_none (h : Ahead q rest s) (hnone : readSource? (q :: rest) = none)
    (p : Option Char) : importAt? p s = none := by
  cases hread : importAt? p s with
  | none => rfl
  | some found =>
      have hsource := readSource?_of_importAt? hq h hread
      rw [hnone] at hsource
      cases hsource

end Ahead

/-! ### The text in front of a source -/

theorem Statement.unquoted (st : Statement) : ∀ c ∈ st.source.val, isSourceQuote c = false :=
  fun c hc => unquoted_of_test (p := fun c => !endsSource c)
    (by simp [(st.source.property c hc).1]) rfl rfl

namespace Quiet

theorem of_blank {g : List Char} (h : ∀ c ∈ g, isBlank c = true) : Quiet g :=
  .of_plain fun c hc => ⟨unquoted_of_test (h c hc) rfl rfl, ne_of_test (h c hc) rfl⟩

theorem of_all {w : List Char} (h : (w.all fun c => !isSourceQuote c && c != '{') = true) :
    Quiet w :=
  .of_plain (by simpa using h)

theorem name (n : BoundName) : Quiet n.chars := by
  refine .of_plain fun c hc => ?_
  rcases List.mem_cons.mp hc with rfl | hc
  · exact ⟨unquoted_of_test n.starts (by decide) (by decide), ne_of_test n.starts (by decide)⟩
  · have hpart := n.goesOn c hc
    exact ⟨unquoted_of_test hpart (by decide) (by decide), ne_of_test hpart (by decide)⟩

theorem names (n : NameList) : Quiet n.chars where
  unquoted c hc := by
    rcases List.mem_cons.mp hc with rfl | hc
    · rfl
    · rcases List.mem_append.mp hc with hc | hc
      · exact (n.property c hc).1
      · rw [List.mem_singleton.mp hc]
        rfl
  closed front back h := by
    -- only the first character opens a brace
    cases front with
    | nil =>
        rw [← (List.cons.inj h).2]
        exact List.mem_append_right _ (List.mem_singleton_self _)
    | cons c cs =>
        have hmem : '{' ∈ n.val ++ ['}'] := by
          rw [(List.cons.inj h).2]
          exact List.mem_append_right _ List.mem_cons_self
        rcases List.mem_append.mp hmem with hmem | hmem
        · exact absurd rfl (n.property _ hmem).2.1
        · exact absurd (List.mem_singleton.mp hmem) (by decide)

theorem all (a : AllAs) : Quiet a.chars :=
  .append (m := ['*']) (.of_all rfl) (.append (.of_blank a.gap.property)
    (.append (.of_all rfl) (.append (.of_blank a.space.property.2) (.name a.name))))

theorem clause (cl : Clause) : Quiet cl.chars := by
  cases cl with
  | bare => exact .of_all rfl
  | single before name after =>
      exact .append (.of_blank before.property.2) (.append (.name name)
        (.append (.of_blank after.property.2) (.of_all rfl)))
  | pair before name gap gap' more after =>
      have hmore : Quiet more.chars := by
        cases more with
        | listed names => exact .names names
        | whole all => exact .all all
      exact .append (.of_blank before.property.2) (.append (.name name)
        (.append (.of_blank gap.property) (.append (m := [',']) (.of_all rfl)
          (.append (.of_blank gap'.property) (.append hmore
            (.append (.of_blank after.property.2) (.of_all rfl)))))))
  | whole before all after =>
      exact .append (.of_blank before.property) (.append (.all all)
        (.append (.of_blank after.property.2) (.of_all rfl)))
  | listed before names after =>
      exact .append (.of_blank before.property) (.append (.names names)
        (.append (.of_blank after.property) (.of_all rfl)))

theorem head (st : Statement) : Quiet st.head :=
  .append (.of_all rfl) (.append (.clause st.clause) (.of_blank st.gap.property))

theorem source (st : Statement) : Quiet st.source.val :=
  .of_plain fun c hc => ⟨st.unquoted c hc, (st.source.property c hc).2.1⟩

end Quiet

theorem Clause.chars_cases (cl : Clause) : cl.chars = [] ∨ ∃ w, cl.chars = w ++ "from".toList := by
  cases cl with
  | bare => exact .inl rfl
  | single before name after =>
      exact .inr ⟨before.val ++ (name.chars ++ after.val), by simp only [chars, List.append_assoc]⟩
  | pair before name gap gap' more after =>
      exact .inr ⟨before.val ++ (name.chars ++ (gap.val ++ ',' :: (gap'.val ++ (more.chars ++
        after.val)))), by simp only [chars, List.append_assoc, List.cons_append]⟩
  | whole before all after =>
      exact .inr ⟨before.val ++ (all.chars ++ after.val), by simp only [chars, List.append_assoc]⟩
  | listed before names after =>
      exact .inr ⟨before.val ++ (names.chars ++ after.val), by simp only [chars, List.append_assoc]⟩

/-- In front of a source stands white space, or one of the words `import` and `from`. -/
theorem Statement.getLast?_head (st : Statement) : ∃ c, st.head.getLast? = some c ∧ c ≠ 's' := by
  have himport : "import".toList.getLast? = some 't' := rfl
  have hfrom : "from".toList.getLast? = some 'm' := rfl
  rw [head, List.getLast?_append, List.getLast?_append]
  cases hgap : st.gap.val.getLast? with
  | some c => exact ⟨c, rfl, ne_of_test (st.gap.property c (List.mem_of_getLast? hgap)) (by decide)⟩
  | none =>
      rcases st.clause.chars_cases with hclause | ⟨w, hclause⟩
      · exact ⟨'t', by rw [hclause, himport]; rfl, by decide⟩
      · exact ⟨'m', by rw [hclause, List.getLast?_append, hfrom]; rfl, by decide⟩

/-! ### Passing over a text -/

section Passing

variable {u tail : List Char}

/-- Characters at which no statement starts are passed over. -/
theorem importsFrom_pass (h : ∀ front back, u = front ++ back → back ≠ [] →
    ∀ p, importAt? p (back ++ tail) = none) (p : Option Char) (offset : Nat) :
    importsFrom p offset 0 (u ++ tail) =
      importsFrom (u.getLast?.or p) (offset + byteLength u) 0 tail := by
  induction u generalizing p offset with
  | nil => rfl
  | cons c cs ih =>
      have hfirst := h [] (c :: cs) rfl (List.cons_ne_nil _ _) p
      rw [List.cons_append] at hfirst
      have hrest := ih (fun front back hcs => h (c :: front) back (by rw [hcs]; rfl)) (some c)
        (offset + c.utf8Size)
      rw [List.cons_append, importsFrom, hfirst]
      simp only
      rw [hrest, List.getLast?_cons, byteLength, Nat.add_assoc]
      cases cs.getLast? <;> rfl

/-- Characters of the statement found last are passed over. -/
theorem importsFrom_skip (u : List Char) (p : Option Char) (offset : Nat) :
    importsFrom p offset u.length (u ++ tail) =
      importsFrom (u.getLast?.or p) (offset + byteLength u) 0 tail := by
  induction u generalizing p offset with
  | nil => rfl
  | cons c cs ih =>
      rw [List.cons_append, List.length_cons, importsFrom, ih, List.getLast?_cons, byteLength,
        Nat.add_assoc]
      cases cs.getLast? <;> rfl

/-- A statement that is found is passed over. -/
theorem importsFrom_found {p : Option Char} {c : Char} {source : List Char}
    {binding : Option (List Char)} (h : importAt? p (c :: (u ++ tail)) = some (source, binding, tail))
    (offset : Nat) :
    importsFrom p offset 0 (c :: (u ++ tail)) =
      ⟨String.ofList source, binding.map String.ofList, offset⟩ ::
        importsFrom ((c :: u).getLast?.or p) (offset + byteLength (c :: u)) 0 tail := by
  have hlength : (u ++ tail).length - tail.length = u.length := by
    rw [List.length_append, Nat.add_sub_cancel]
  rw [importsFrom, h]
  simp only
  rw [hlength, importsFrom_skip, List.getLast?_cons, byteLength, Nat.add_assoc]
  cases u.getLast? <;> rfl

end Passing

/-! ### Texts of statements -/

/-- What stands in front of a statement: semicolons and white space, or nothing. -/
abbrev Joint := { s : List Char // ∀ c ∈ s, isBlank c = true ∨ c = ';' }

/-- The text of some statements. -/
def written : List (Joint × Statement) → List Char
  | [] => []
  | (joint, st) :: ps => joint.val ++ (st.chars ++ written ps)

/-- The statements, each with the byte at which it starts. -/
def starts (offset : Nat) : List (Joint × Statement) → List (Nat × Statement)
  | [] => []
  | (joint, st) :: ps =>
    (offset + byteLength joint.val, st) ::
      starts (offset + byteLength joint.val + byteLength st.chars) ps

theorem unquoted_joint (joint : Joint) : ∀ c ∈ joint.val, isSourceQuote c = false := by
  intro c hc
  rcases joint.property c hc with hblank | rfl
  · exact unquoted_of_test hblank rfl rfl
  · rfl

/-- No statement starts between statements. -/
theorem importAt?_joint (joint : Joint) {front back tail : List Char} (h : joint.val = front ++ back)
    (hback : back ≠ []) (p : Option Char) : importAt? p (back ++ tail) = none := by
  obtain ⟨c, cs, rfl⟩ := List.exists_cons_of_ne_nil hback
  have hc : c ≠ 'i' := by
    have hmem : c ∈ joint.val := h ▸ List.mem_append_right _ List.mem_cons_self
    rcases joint.property c hmem with hblank | rfl
    · exact ne_of_test hblank (by decide)
    · decide
  have hword : afterWord? "import" (c :: cs ++ tail) = none := by
    have hi : "import".toList = 'i' :: "mport".toList := rfl
    rw [afterWord?, hi, List.cons_append, List.isPrefixOf?]
    simp [Ne.symm hc]
  unfold importAt?
  split
  · rfl
  · rw [hword]
    rfl

/-- The text up to the first quote is told by the text. -/
theorem eq_of_first_quote {a b x y : List Char} {q c : Char} (hq : isSourceQuote q = true)
    (hc : isSourceQuote c = true) (ha : ∀ z ∈ a, isSourceQuote z = false)
    (hb : ∀ z ∈ b, isSourceQuote z = false) (h : a ++ q :: x = b ++ c :: y) : a = b := by
  have htake : ∀ {t r : List Char} {q : Char}, isSourceQuote q = true →
      (∀ z ∈ t, isSourceQuote z = false) →
      (t ++ q :: r).takeWhile (fun z => !isSourceQuote z) = t := fun hq ht =>
    takeWhile_of_maximal (fun z hz => by simp [ht z hz]) (by simp [hq])
  rw [← htake (r := x) hq ha, h, htake hc hb]

theorem unquoted_of_readSource? {q : Char} {s source rest : List Char}
    (h : readSource? (q :: s) = some (source, rest)) :
    ∃ c, isSourceQuote c = true ∧ s = source ++ c :: rest ∧
      (∀ x ∈ source, isSourceQuote x = false) ∧ isCssSource source = true := by
  obtain ⟨q', c, -, hc, heq, hsource, hcss⟩ := readSource?_eq_some_iff.mp h
  exact ⟨c, hc, (List.cons.inj heq).2, fun x hx => unquoted_of_test (p := fun c => !endsSource c)
    (by simp [hsource x hx]) rfl rfl, hcss⟩

/-- The text from one source to the next one is no source of a stylesheet. -/
theorem readSource?_written (ps : List (Joint × Statement)) (last : Joint) (q : Char) :
    readSource? (q :: (written ps ++ last.val)) = none := by
  cases hread : readSource? (q :: (written ps ++ last.val)) with
  | none => rfl
  | some found =>
      obtain ⟨c, hc, htext, hsource, hcss⟩ := unquoted_of_readSource? hread
      cases ps with
      | nil =>
          -- there is no further quote
          have hmem : c ∈ last.val := by
            rw [← List.nil_append last.val]
            exact htext ▸ List.mem_append_right _ List.mem_cons_self
          rw [unquoted_joint last c hmem] at hc
          cases hc
      | cons entry ps =>
          -- the text ends like a statement in front of its source, not like the name of a stylesheet
          obtain ⟨joint, st⟩ := entry
          have hjoint : ∀ x ∈ joint.val ++ st.head, isSourceQuote x = false := fun x hx =>
            (List.mem_append.mp hx).elim (unquoted_joint joint x) ((Quiet.head st).unquoted x)
          simp only [written, Statement.chars, List.append_assoc, List.cons_append] at htext
          rw [← List.append_assoc] at htext
          obtain ⟨x, hlast, hx⟩ := st.getLast?_head
          have hfound := eq_of_first_quote st.quote.property hc hjoint hsource htext
          obtain ⟨stem, -, hstem⟩ := isCssSource_iff.mp hcss
          have hends : (joint.val ++ st.head).getLast? = some 's' := by
            rw [hfound, hstem, List.getLast?_append]
            rfl
          rw [List.getLast?_append, hlast] at hends
          exact absurd (Option.some.inj hends) hx

/-- No import of a stylesheet starts anywhere in a statement that imports something else. -/
theorem importAt?_other {st : Statement} (h : ¬ st.NamesStylesheet) {tail front back : List Char}
    (htail : readSource? (st.quote.val :: tail) = none) (hst : st.chars = front ++ back)
    (hback : back ≠ []) (p : Option Char) : importAt? p (back ++ tail) = none := by
  have hq := st.quote.property
  have hsource : readSource? (st.quote.val :: (st.source.val ++ st.quote.val :: tail)) = none := by
    cases hread : readSource? (st.quote.val :: (st.source.val ++ st.quote.val :: tail)) with
    | none => rfl
    | some found =>
        obtain ⟨c, hc, htext, hfound, hcss⟩ := unquoted_of_readSource? hread
        have heq := eq_of_first_quote hq hc st.unquoted hfound htext
        exact absurd (isCssSource_iff.mp (heq ▸ hcss)) h
  have hquiet : Quiet [] := .of_all rfl
  rw [Statement.chars] at hst
  rcases List.append_eq_append_iff.mp hst with ⟨between, -, hrest⟩ | ⟨between, hhead, hrest⟩
  · cases between with
    | nil =>
        -- at the first quote
        refine importAt?_eq_none hq ⟨[], hquiet, ?_⟩ hsource p
        rw [List.nil_append] at hrest
        rw [← hrest]
        simp
    | cons b between =>
        obtain ⟨-, hrest⟩ := List.cons.inj hrest
        rcases List.append_eq_append_iff.mp hrest with ⟨left, -, hend⟩ | ⟨left, hin, hend⟩
        · -- at the second quote
          have hback' : back = [st.quote.val] := by
            cases left with
            | nil => exact hend.symm
            | cons c cs =>
                have hnil := (List.cons.inj hend).2
                exact absurd (List.append_eq_nil_iff.mp hnil.symm).2 hback
          refine importAt?_eq_none hq ⟨[], hquiet, ?_⟩ htail p
          rw [hback']
          rfl
        · -- in the source
          have hleft : Quiet left := Quiet.of_append (m := between) (hin ▸ Quiet.source st)
          refine importAt?_eq_none hq ⟨left, hleft, ?_⟩ htail p
          rw [hend, List.append_assoc]
          rfl
  · -- in front of the source
    have hbetween : Quiet between := Quiet.of_append (m := front) (hhead ▸ Quiet.head st)
    refine importAt?_eq_none hq ⟨between, hbetween, ?_⟩ hsource p
    rw [hrest]
    simp

/-- What is reported for a statement at a byte. -/
def Statement.found (st : Statement) (offset : Nat) : CssImport :=
  ⟨String.ofList st.source.val, st.clause.binding.map String.ofList, offset⟩

/-- A statement is reported if it names a stylesheet, and the search goes on behind it. -/
theorem importsFrom_statement (st : Statement) {tail : List Char} {p : Option Char}
    (htail : readSource? (st.quote.val :: tail) = none) (hp : p.any isWord = false) (offset : Nat) :
    importsFrom p offset 0 (st.chars ++ tail) =
      (if st.NamesStylesheet then [st.found offset] else []) ++
        importsFrom (some st.quote.val) (offset + byteLength st.chars) 0 tail := by
  have hlast : st.chars.getLast?.or p = some st.quote.val := by
    simp [Statement.chars, List.getLast?_append, List.getLast?_cons]
  split
  · rename_i hcss
    have hread := importAt?_chars hcss hp tail
    have hchars : st.chars = 'i' :: st.chars.tail := rfl
    rw [hchars, List.cons_append] at hread
    rw [hchars, List.cons_append, importsFrom_found hread, ← hchars, hlast]
    rfl
  · rename_i hother
    rw [importsFrom_pass (fun front back hst hback => importAt?_other hother htail hst hback), hlast]
    rfl

theorem importsFrom_written (ps : List (Joint × Statement)) (last : Joint) {p : Option Char}
    (hp : p.any isWord = false) (offset : Nat) :
    importsFrom p offset 0 (written ps ++ last.val) =
      ((starts offset ps).filter fun e => e.2.NamesStylesheet).map fun e => e.2.found e.1 := by
  induction ps generalizing p offset with
  | nil =>
      have hlast : ∀ front back, last.val = front ++ back → back ≠ [] →
          ∀ p, importAt? p (back ++ []) = none := fun front back h => importAt?_joint last h
      rw [written, List.nil_append, ← List.append_nil last.val, importsFrom_pass hlast]
      rfl
  | cons entry ps ih =>
      obtain ⟨joint, st⟩ := entry
      have hjoint : (joint.val.getLast?.or p).any isWord = false := by
        cases hlast : joint.val.getLast? with
        | none => exact hp
        | some c =>
            rcases joint.property c (List.mem_of_getLast? hlast) with hblank | rfl
            · exact isWord_of_isBlank hblank
            · exact (by decide : isWord ';' = false)
      have hquote : (some st.quote.val).any isWord = false := by
        rcases isSourceQuote_iff.mp st.quote.property with h | h <;> rw [h] <;> decide
      rw [written, List.append_assoc, List.append_assoc,
        importsFrom_pass (fun front back h => importAt?_joint joint h),
        importsFrom_statement st (readSource?_written ps last _) hjoint, ih hquote, starts]
      by_cases hcss : st.NamesStylesheet
      · rw [if_pos hcss, List.filter_cons_of_pos (by simpa using hcss)]
        rfl
      · rw [if_neg hcss, List.filter_cons_of_neg (by simpa using hcss)]
        rfl

/-- The imports of a text of import statements, with any semicolons and white space between them and at
the ends, are the statements whose source is `.css` with something before it: in order, each with its
source, the name that it binds, and the byte at which its `import` stands.  The words `import` in names and
sources are no imports. -/
theorem imports_written (ps : List (Joint × Statement)) (last : Joint) :
    imports (String.ofList (written ps ++ last.val)) =
      ((starts 0 ps).filter fun e => e.2.NamesStylesheet).map fun e => e.2.found e.1 := by
  rw [imports, String.toList_ofList]
  exact importsFrom_written ps last rfl 0

/-- The word stands in a name and in a source in front of the statement that is found. -/
example : imports "import $import from './import';\nimport s, * as t from './b.css'" =
    [⟨"./b.css", some "s", 32⟩] := by
  cbv

end ClassLens.Usage
