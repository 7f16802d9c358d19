import ClassLens.Json.Lexeme

/-! # How strings and numbers are spelled

The grammar of JSON strings and numbers beside the functions that read them.

* `Spelled s x`: `x`, between two quotes, spells the characters `s`.
* `StringBody x`: `x` may stand between two quotes.  It spells nothing if it names half of a surrogate
  pair alone.
* `Numeral.Written n x`: `x` is the numeral `n` as it is written.

**Main statements.** `readString_eq_ok_iff`, `skipString_eq_ok_iff`: the readers of strings accept what
is spelled.  `readNumber_written`, `written_of_readNumber`: so does the reader of numbers, which stops
where the number does. -/

namespace ClassLens.Json

/-! ### Strings -/

/-- The inside of a string, and the characters that it spells. -/
inductive Spelled : List Char → List Char → Prop
  | nil : Spelled [] []
  | bare {c : Char} {s x : List Char} : c ≠ '"' → c ≠ '\\' → isControl c = false → Spelled s x →
      Spelled (c :: s) (c :: x)
  | short {e c : Char} {s x : List Char} : shortEscape? e = some c → Spelled s x →
      Spelled (c :: s) ('\\' :: e :: x)
  /-- Four hexadecimal digits. -/
  | unit {a b c d : Char} {n : Nat} {s x : List Char} : hexUnit? a b c d = some n →
      isHighHalf n = false → isLowHalf n = false → Spelled s x →
      Spelled (Char.ofNat n :: s) ('\\' :: 'u' :: a :: b :: c :: d :: x)
  /-- The two halves of a surrogate pair. -/
  | pair {a b c d e f g h : Char} {n m : Nat} {s x : List Char} : hexUnit? a b c d = some n →
      isHighHalf n = true → hexUnit? e f g h = some m → isLowHalf m = true → Spelled s x →
      Spelled (pairChar n m :: s)
        ('\\' :: 'u' :: a :: b :: c :: d :: '\\' :: 'u' :: e :: f :: g :: h :: x)

/-- What may stand between two quotes. -/
inductive StringBody : List Char → Prop
  | nil : StringBody []
  | bare {c : Char} {x : List Char} : c ≠ '"' → c ≠ '\\' → isControl c = false → StringBody x →
      StringBody (c :: x)
  | short {e c : Char} {x : List Char} : shortEscape? e = some c → StringBody x →
      StringBody ('\\' :: e :: x)
  | unit {a b c d : Char} {n : Nat} {x : List Char} : hexUnit? a b c d = some n → StringBody x →
      StringBody ('\\' :: 'u' :: a :: b :: c :: d :: x)

theorem Spelled.stringBody {s x : List Char} (h : Spelled s x) : StringBody x := by
  induction h with
  | nil => exact .nil
  | bare hq hs hc _ ih => exact .bare hq hs hc ih
  | short he _ ih => exact .short he ih
  | unit hn _ _ _ ih => exact .unit hn ih
  | pair hn _ hm _ _ ih => exact .unit hn (.unit hm ih)

theorem ne_of_shortEscape?_eq_some {e c : Char} (h : shortEscape? e = some c) : e ≠ 'u' := by
  rintro rfl
  cases h

theorem isLowHalf_of_isHighHalf {n : Nat} (h : isHighHalf n = true) : isLowHalf n = false := by
  simp only [isLowHalf, isHighHalf, Bool.and_eq_true, decide_eq_true_eq, Bool.and_eq_false_imp,
    decide_eq_false_iff_not] at h ⊢
  omega

section steps

variable {e c : Char} (t : List Char)

theorem readString_bare (hq : c ≠ '"') (hs : c ≠ '\\') (hc : isControl c = false) :
    readString (c :: t) = prepend c (readString t) := by
  rw [readString, hc]
  all_goals simp [hq, hs]

theorem readString_short (he : shortEscape? e = some c) :
    readString ('\\' :: e :: t) = prepend c (readString t) := by
  rw [readString, he]
  all_goals simp [ne_of_shortEscape?_eq_some he]

theorem skipString_bare (hq : c ≠ '"') (hs : c ≠ '\\') (hc : isControl c = false) :
    skipString (c :: t) = skipString t := by
  rw [skipString, hc]
  all_goals simp [hq, hs]

theorem skipString_short (he : shortEscape? e = some c) :
    skipString ('\\' :: e :: t) = skipString t := by
  rw [skipString, he]
  all_goals simp [ne_of_shortEscape?_eq_some he]

end steps

/-- What is spelled is read. -/
theorem readString_of_spelled {s x : List Char} (h : Spelled s x) (rest : List Char) :
    readString (x ++ '"' :: rest) = .ok (s, rest) := by
  induction h with
  | nil => rfl
  | bare hq hs hc _ ih => rw [List.cons_append, readString_bare _ hq hs hc, ih]; rfl
  | short he _ ih => rw [List.cons_append, List.cons_append, readString_short _ he, ih]; rfl
  | unit hn hhigh hlow _ ih =>
      simp only [List.cons_append, readString, hn, hlow, hhigh, ih]
      rfl
  | pair hn hhigh hm hlow _ ih =>
      simp only [List.cons_append, readString, hn, isLowHalf_of_isHighHalf hhigh, hhigh, hm, hlow, ih]
      rfl

/-- What may stand between quotes is passed over. -/
theorem skipString_of_stringBody {x : List Char} (h : StringBody x) (rest : List Char) :
    skipString (x ++ '"' :: rest) = .ok rest := by
  induction h with
  | nil => rfl
  | bare hq hs hc _ ih => rw [List.cons_append, skipString_bare _ hq hs hc, ih]
  | short he _ ih => rw [List.cons_append, List.cons_append, skipString_short _ he, ih]
  | unit hn _ ih => simp only [List.cons_append, skipString, hn, ih]

theorem eq_of_prepend {c : Char} {r : Except Fault (List Char × List Char)} {s rest : List Char}
    (h : prepend c r = .ok (s, rest)) : ∃ s', s = c :: s' ∧ r = .ok (s', rest) := by
  cases r with
  | error fault => cases h
  | ok p =>
      cases h
      exact ⟨p.1, rfl, rfl⟩

/-- A character is no backslash if no rest of a text may follow it as a backslash. -/
theorem ne_slash {c : Char} {t : List Char} (hnil : c = '\\' → t = [] → False)
    (hcons : ∀ d ds, c = '\\' → t = d :: ds → False) : c ≠ '\\' := by
  intro hc
  cases t with
  | nil => exact hnil hc rfl
  | cons d ds => exact hcons d ds hc rfl

/-- What is read is spelled. -/
theorem spelled_of_readString {t s rest : List Char} (h : readString t = .ok (s, rest)) :
    ∃ x, t = x ++ '"' :: rest ∧ Spelled s x := by
  fun_induction readString t generalizing s with
  | case2 r =>
      cases h
      exact ⟨[], rfl, .nil⟩
  | case7 a b c d n hn _ hhigh e f g h' r m hm hlow ih =>
      obtain ⟨s', rfl, hr⟩ := eq_of_prepend h
      obtain ⟨x, rfl, hx⟩ := ih hr
      exact ⟨_, rfl, .pair hn hhigh hm hlow hx⟩
  | case12 a b c d r n hn hlow hhigh ih =>
      obtain ⟨s', rfl, hr⟩ := eq_of_prepend h
      obtain ⟨x, rfl, hx⟩ := ih hr
      exact ⟨_, rfl, .unit hn (Bool.eq_false_iff.mpr hhigh) (Bool.eq_false_iff.mpr hlow) hx⟩
  | case14 e r _ _ c he ih =>
      obtain ⟨s', rfl, hr⟩ := eq_of_prepend h
      obtain ⟨x, rfl, hx⟩ := ih hr
      exact ⟨_, rfl, .short he hx⟩
  | case17 c r hq hnil _ _ hslash hc ih =>
      obtain ⟨s', rfl, hr⟩ := eq_of_prepend h
      obtain ⟨x, rfl, hx⟩ := ih hr
      exact ⟨_, rfl, .bare hq (ne_slash hnil hslash) (Bool.eq_false_iff.mpr hc) hx⟩
  | case1 | case3 | case4 | case5 | case6 | case8 | case9 | case10 | case11 | case13 | case15 |
    case16 => cases h

/-- What is passed over may stand between quotes. -/
theorem stringBody_of_skipString {t rest : List Char} (h : skipString t = .ok rest) :
    ∃ x, t = x ++ '"' :: rest ∧ StringBody x := by
  fun_induction skipString t with
  | case2 =>
      cases h
      exact ⟨[], rfl, .nil⟩
  | case5 a b c d r n hn ih =>
      obtain ⟨x, rfl, hx⟩ := ih h
      exact ⟨_, rfl, .unit hn hx⟩
  | case7 c r _ _ e hc ih =>
      obtain ⟨x, rfl, hx⟩ := ih h
      exact ⟨_, rfl, .short hc hx⟩
  | case10 c r hq hnil _ _ hslash hc ih =>
      obtain ⟨x, rfl, hx⟩ := ih h
      exact ⟨_, rfl, .bare hq (ne_slash hnil hslash) (Bool.eq_false_iff.mpr hc) hx⟩
  | case1 | case3 | case4 | case6 | case8 | case9 => cases h

theorem readString_eq_ok_iff {t s rest : List Char} :
    readString t = .ok (s, rest) ↔ ∃ x, t = x ++ '"' :: rest ∧ Spelled s x := by
  constructor
  · exact spelled_of_readString
  · rintro ⟨x, rfl, hx⟩
    exact readString_of_spelled hx rest

theorem skipString_eq_ok_iff {t rest : List Char} :
    skipString t = .ok rest ↔ ∃ x, t = x ++ '"' :: rest ∧ StringBody x := by
  constructor
  · exact stringBody_of_skipString
  · rintro ⟨x, rfl, hx⟩
    exact skipString_of_stringBody hx rest

/-! ### Numbers -/

/-- One digit at least. -/
def Digits (ds : List Char) : Prop :=
  ds ≠ [] ∧ ∀ c ∈ ds, c.isDigit = true

/-- Digits without a zero in front of others. -/
def WholeDigits (ds : List Char) : Prop :=
  Digits ds ∧ (ds = ['0'] ∨ ds.head? ≠ some '0')

/-- A point and digits, or nothing. -/
inductive FractionWritten : Option (List Char) → List Char → Prop
  | none : FractionWritten none []
  | some {ds : List Char} : Digits ds → FractionWritten (some ds) ('.' :: ds)

/-- A letter, a sign or none, and digits, or nothing. -/
inductive ExponentWritten : Option (Bool × List Char) → List Char → Prop
  | none : ExponentWritten none []
  | bare {e : Char} {ds : List Char} : e = 'e' ∨ e = 'E' → Digits ds →
      ExponentWritten (some (false, ds)) (e :: ds)
  | plus {e : Char} {ds : List Char} : e = 'e' ∨ e = 'E' → Digits ds →
      ExponentWritten (some (false, ds)) (e :: '+' :: ds)
  | minus {e : Char} {ds : List Char} : e = 'e' ∨ e = 'E' → Digits ds →
      ExponentWritten (some (true, ds)) (e :: '-' :: ds)

/-- The sign of a numeral. -/
def signChars (negative : Bool) : List Char :=
  if negative then ['-'] else []

/-- A numeral as it is written. -/
def Numeral.Written (n : Numeral) (x : List Char) : Prop :=
  ∃ f e, x = signChars n.negative ++ (n.digits ++ (f ++ e)) ∧ WholeDigits n.digits ∧
    FractionWritten n.fraction f ∧ ExponentWritten n.exponent e

/-- A character that may go on a numeral. -/
def goesOn (c : Char) : Bool :=
  c.isDigit || c == '.' || c == 'e' || c == 'E'

/-- What may follow a numeral. -/
def EndsNumeral (rest : List Char) : Prop :=
  ∀ c ∈ rest.head?, goesOn c = false

/-- Digits begin with a digit. -/
theorem Digits.head_ne {ds rest cs : List Char} {c : Char} (h : Digits ds) (hc : c.isDigit = false)
    (heq : ds ++ rest = c :: cs) : False := by
  obtain ⟨hne, hall⟩ := h
  cases ds with
  | nil => exact hne rfl
  | cons d ds =>
      have hd := hall d List.mem_cons_self
      rw [(List.cons.inj heq).1, hc] at hd
      cases hd

/-! #### What is written is read -/

theorem spanDigits_append {ds rest : List Char} (h : ∀ c ∈ ds, c.isDigit = true)
    (hrest : ∀ c ∈ rest.head?, c.isDigit = false) : spanDigits (ds ++ rest) = (ds, rest) := by
  have hnone : rest.takeWhile Char.isDigit = [] ∧ rest.dropWhile Char.isDigit = rest := by
    cases rest with
    | nil => exact ⟨rfl, rfl⟩
    | cons c cs =>
        have hc := hrest c rfl
        exact ⟨by rw [List.takeWhile_cons_of_neg (by simp [hc])],
          by rw [List.dropWhile_cons_of_neg (by simp [hc])]⟩
  rw [spanDigits, List.takeWhile_append_of_pos h, List.dropWhile_append_of_pos h, hnone.1, hnone.2,
    List.append_nil]

theorem readDigits_append {ds rest : List Char} (h : Digits ds)
    (hrest : ∀ c ∈ rest.head?, c.isDigit = false) : readDigits (ds ++ rest) = .ok (ds, rest) := by
  obtain ⟨hne, hall⟩ := h
  cases ds with
  | nil => exact absurd rfl hne
  | cons c cs =>
      rw [List.cons_append, readDigits, if_pos (hall c List.mem_cons_self), ← List.cons_append,
        spanDigits_append hall hrest]

theorem readDigitsAs_append {α : Type} (make : List Char → α) {ds rest : List Char} (h : Digits ds)
    (hrest : ∀ c ∈ rest.head?, c.isDigit = false) :
    readDigitsAs make (ds ++ rest) = .ok (make ds, rest) := by
  rw [readDigitsAs, readDigits_append h hrest]

theorem readWhole_append {ds rest : List Char} (h : WholeDigits ds)
    (hrest : ∀ c ∈ rest.head?, c.isDigit = false) : readWhole (ds ++ rest) = .ok (ds, rest) := by
  obtain ⟨hdigits, rfl | hzero⟩ := h
  · cases rest with
    | nil => rfl
    | cons c cs =>
        rw [List.singleton_append, readWhole, hrest c rfl]
        rfl
  · cases ds with
    | nil => exact absurd rfl hdigits.1
    | cons d ds =>
        have hd : d ≠ '0' := fun hd => hzero (hd ▸ rfl)
        rw [List.cons_append, readWhole, ← List.cons_append, readDigits_append hdigits hrest]
        intro c cs hc
        exact absurd (List.cons.inj hc).1 hd

theorem readFraction_append {f : Option (List Char)} {x rest : List Char} (h : FractionWritten f x)
    (hrest : ∀ c ∈ rest.head?, c.isDigit = false ∧ c ≠ '.') :
    readFraction (x ++ rest) = .ok (f, rest) := by
  cases h with
  | none =>
      rw [List.nil_append, readFraction]
      rintro cs rfl
      exact (hrest '.' rfl).2 rfl
  | some hds => exact readDigitsAs_append some hds fun c hc => (hrest c hc).1

theorem readExponent_append {o : Option (Bool × List Char)} {x rest : List Char}
    (h : ExponentWritten o x) (hrest : EndsNumeral rest) :
    readExponent (x ++ rest) = .ok (o, rest) := by
  have hdigit : ∀ c ∈ rest.head?, c.isDigit = false := fun c hc => by
    have := hrest c hc
    simp only [goesOn, Bool.or_eq_false_iff] at this
    exact this.1.1.1
  cases h with
  | none =>
      cases rest with
      | nil => rfl
      | cons c cs =>
          have hc := hrest c rfl
          simp only [goesOn, Bool.or_eq_false_iff, beq_eq_false_iff_ne] at hc
          unfold readExponent
          exact if_neg (by simp [hc.1.2, hc.2])
  | bare he hds =>
      rw [List.cons_append, readExponent, if_pos he, readDigitsAs_append _ hds hdigit]
      · exact fun cs hcs => hds.head_ne (by decide) hcs
      · exact fun cs hcs => hds.head_ne (by decide) hcs
  | plus he hds =>
      rw [List.cons_append, List.cons_append, readExponent, if_pos he]
      exact readDigitsAs_append _ hds hdigit
  | minus he hds =>
      rw [List.cons_append, List.cons_append, readExponent, if_pos he]
      exact readDigitsAs_append _ hds hdigit

/-- Neither a digit nor a point follows the point of a numeral and its digits. -/
theorem head_exponent {o : Option (Bool × List Char)} {x rest : List Char} (h : ExponentWritten o x)
    (hrest : EndsNumeral rest) : ∀ c ∈ (x ++ rest).head?, c.isDigit = false ∧ c ≠ '.' := by
  intro c hc
  cases h with
  | none =>
      have := hrest c hc
      simp only [goesOn, Bool.or_eq_false_iff, beq_eq_false_iff_ne] at this
      exact ⟨this.1.1.1, this.1.1.2⟩
  | bare he | plus he | minus he =>
      cases hc
      rcases he with rfl | rfl <;> exact ⟨rfl, by decide⟩

theorem readUnsigned_append (negative : Bool) {ds f e rest : List Char}
    {fraction : Option (List Char)} {exponent : Option (Bool × List Char)} (hds : WholeDigits ds)
    (hf : FractionWritten fraction f) (he : ExponentWritten exponent e) (hrest : EndsNumeral rest) :
    readUnsigned negative ((ds ++ (f ++ e)) ++ rest) =
      .ok (⟨negative, ds, fraction, exponent⟩, rest) := by
  have hexponent := head_exponent he hrest
  have hfraction : ∀ c ∈ (f ++ (e ++ rest)).head?, c.isDigit = false := by
    intro c hc
    cases hf with
    | none => exact (hexponent c hc).1
    | some =>
        cases hc
        rfl
  rw [List.append_assoc, List.append_assoc, readUnsigned, readWhole_append hds hfraction]
  simp only [bind, Except.bind, readFraction_append hf hexponent, readExponent_append he hrest]
  rfl

/-- A numeral is read as far as it goes. -/
theorem readNumber_written {n : Numeral} {x rest : List Char} (h : n.Written x)
    (hrest : EndsNumeral rest) : readNumber (x ++ rest) = .ok (n, rest) := by
  obtain ⟨negative, digits, fraction, exponent⟩ := n
  obtain ⟨f, e, rfl, hds, hf, he⟩ := h
  have hread := fun negative => readUnsigned_append negative hds hf he hrest
  cases negative with
  | true => exact hread true
  | false =>
      rw [signChars, if_neg Bool.false_ne_true, List.nil_append, readNumber, hread]
      intro cs hcs
      rw [List.append_assoc] at hcs
      exact hds.1.head_ne (by decide) hcs

/-! #### What is read is written -/

theorem eq_of_readDigits {s ds rest : List Char} (h : readDigits s = .ok (ds, rest)) :
    s = ds ++ rest ∧ Digits ds := by
  unfold readDigits at h
  split at h
  · cases h
  · rename_i c cs
    split at h
    · rename_i hc
      simp only [Except.ok.injEq, spanDigits, Prod.mk.injEq] at h
      obtain ⟨rfl, rfl⟩ := h
      refine ⟨List.takeWhile_append_dropWhile.symm, ?_, fun d hd => ?_⟩
      · rw [List.takeWhile_cons_of_pos hc]
        exact List.cons_ne_nil _ _
      · exact List.all_eq_true.mp List.all_takeWhile d hd
    · cases h

theorem eq_of_readDigitsAs {α : Type} {make : List Char → α} {s rest : List Char} {a : α}
    (h : readDigitsAs make s = .ok (a, rest)) : ∃ ds, s = ds ++ rest ∧ Digits ds ∧ a = make ds := by
  unfold readDigitsAs at h
  split at h
  · rename_i ds r hds
    cases h
    obtain ⟨rfl, hdigits⟩ := eq_of_readDigits hds
    exact ⟨ds, rfl, hdigits, rfl⟩
  · cases h

theorem eq_of_readWhole {s ds rest : List Char} (h : readWhole s = .ok (ds, rest)) :
    s = ds ++ rest ∧ WholeDigits ds := by
  have hzero : WholeDigits ['0'] := ⟨⟨by simp, by simp⟩, .inl rfl⟩
  unfold readWhole at h
  split at h
  · split at h
    · cases h
    · cases h
      exact ⟨rfl, hzero⟩
  · rename_i hother
    obtain ⟨rfl, hdigits⟩ := eq_of_readDigits h
    refine ⟨rfl, hdigits, ?_⟩
    cases ds with
    | nil => exact absurd rfl hdigits.1
    | cons d ds =>
        by_cases hd : d = '0'
        · subst hd
          cases hds : ds ++ rest with
          | nil => exact .inl (by rw [(List.append_eq_nil_iff.mp hds).1])
          | cons c cs => exact absurd (congrArg ('0' :: ·) hds) (hother c cs)
        · exact .inr fun h => hd (Option.some.inj h)

theorem eq_of_readFraction {s rest : List Char} {f : Option (List Char)}
    (h : readFraction s = .ok (f, rest)) : ∃ x, s = x ++ rest ∧ FractionWritten f x := by
  unfold readFraction at h
  split at h
  · obtain ⟨ds, rfl, hds, rfl⟩ := eq_of_readDigitsAs h
    exact ⟨'.' :: ds, rfl, .some hds⟩
  · cases h
    exact ⟨[], rfl, .none⟩

theorem eq_of_readExponent {s rest : List Char} {o : Option (Bool × List Char)}
    (h : readExponent s = .ok (o, rest)) : ∃ x, s = x ++ rest ∧ ExponentWritten o x := by
  unfold readExponent at h
  split at h
  · cases h
    exact ⟨[], rfl, .none⟩
  · split at h
    · rename_i he
      split at h
      · obtain ⟨ds, rfl, hds, rfl⟩ := eq_of_readDigitsAs h
        exact ⟨_, rfl, .plus he hds⟩
      · obtain ⟨ds, rfl, hds, rfl⟩ := eq_of_readDigitsAs h
        exact ⟨_, rfl, .minus he hds⟩
      · obtain ⟨ds, rfl, hds, rfl⟩ := eq_of_readDigitsAs h
        exact ⟨_, rfl, .bare he hds⟩
    · cases h
      exact ⟨[], rfl, .none⟩

theorem eq_of_readUnsigned {negative : Bool} {s rest : List Char} {n : Numeral}
    (h : readUnsigned negative s = .ok (n, rest)) : n.negative = negative ∧
      ∃ f e, s = (n.digits ++ (f ++ e)) ++ rest ∧ WholeDigits n.digits ∧
        FractionWritten n.fraction f ∧ ExponentWritten n.exponent e := by
  unfold readUnsigned at h
  cases hw : readWhole s with
  | error => simp [hw, bind, Except.bind] at h
  | ok w =>
      cases hf : readFraction w.2 with
      | error => simp [hw, hf, bind, Except.bind] at h
      | ok f =>
          cases he : readExponent f.2 with
          | error => simp [hw, hf, he, bind, Except.bind] at h
          | ok e =>
              simp only [hw, hf, he, bind, Except.bind, pure, Except.pure, Except.ok.injEq,
                Prod.mk.injEq] at h
              obtain ⟨rfl, rfl⟩ := h
              obtain ⟨hs, hwhole⟩ := eq_of_readWhole hw
              obtain ⟨x, hx, hfraction⟩ := eq_of_readFraction hf
              obtain ⟨y, hy, hexponent⟩ := eq_of_readExponent he
              refine ⟨rfl, x, y, ?_, hwhole, hfraction, hexponent⟩
              rw [hs, hx, hy, List.append_assoc, List.append_assoc]

/-- What is read as a number is a numeral as it is written. -/
theorem written_of_readNumber {s rest : List Char} {n : Numeral}
    (h : readNumber s = .ok (n, rest)) : ∃ x, s = x ++ rest ∧ n.Written x := by
  unfold readNumber at h
  split at h
  · obtain ⟨hsign, f, e, rfl, hrest⟩ := eq_of_readUnsigned h
    exact ⟨'-' :: (n.digits ++ (f ++ e)), rfl, f, e, by rw [hsign]; rfl, hrest⟩
  · obtain ⟨hsign, f, e, rfl, hrest⟩ := eq_of_readUnsigned h
    exact ⟨n.digits ++ (f ++ e), rfl, f, e, by rw [hsign]; rfl, hrest⟩

end ClassLens.Json
