import Mathlib.Data.List.Chain
import ClassLens.Json.Token
import ClassLens.Proofs.Json.Lexemes

/-! # Symbols and the texts that show them

What a text says apart from its white space and the spelling of its strings and numbers is a row of
symbols.  A text is laid out from the left, symbol by symbol, with white space wherever one likes.

* `Symbol`, `Symbol.Written`: what a token says, and its written forms.
* `Laid ks t`: the text `t` shows the symbols `ks`.
* `Shows ts ks`: the tokens `ts` say the symbols `ks`, and none of them is broken.

**Main statements.** `shows_tokens` and `laid_of_shows`: cutting a text into tokens finds the symbols
that were laid out, and no others. -/

namespace ClassLens.Json

/-- What a token says. -/
inductive Symbol where
  | openObject
  | closeObject
  | openList
  | closeList
  | comma
  | colon
  | null
  | bool (value : Bool)
  | number (value : Number)
  /-- A string; none if it names half of a surrogate pair alone. -/
  | string (chars : Option String)

/-- The symbol of a token that is not broken. -/
def Token.symbol? : Token → Option Symbol
  | .openObject => some .openObject
  | .closeObject => some .closeObject
  | .openList => some .openList
  | .closeList => some .closeList
  | .comma => some .comma
  | .colon => some .colon
  | .null => some .null
  | .bool b => some (.bool b)
  | .number n => some (.number n)
  | .string chars => some (.string chars.toOption)
  | .broken _ _ | .brokenString _ _ => none

/-- The letters of a constant. -/
def boolChars (b : Bool) : List Char :=
  if b then ['t', 'r', 'u', 'e'] else ['f', 'a', 'l', 's', 'e']

/-- The written forms of a symbol. -/
def Symbol.Written : Symbol → List Char → Prop
  | .openObject, x => x = ['{']
  | .closeObject, x => x = ['}']
  | .openList, x => x = ['[']
  | .closeList, x => x = [']']
  | .comma, x => x = [',']
  | .colon, x => x = [':']
  | .null, x => x = ['n', 'u', 'l', 'l']
  | .bool b, x => x = boolChars b
  | .number n, x => ∃ m : Numeral, m.Written x ∧ m.toNumber = n
  | .string (some s), x => ∃ y, x = '"' :: (y ++ ['"']) ∧ Spelled s.toList y
  | .string none, x => ∃ y, x = '"' :: (y ++ ['"']) ∧ StringBody y ∧ ∀ s, ¬ Spelled s y

/-- A text that shows some symbols, with white space between them and around them. -/
inductive Laid : List Symbol → List Char → Prop
  | done : Laid [] []
  | space {c : Char} {ks : List Symbol} {t : List Char} : isSpace c = true → Laid ks t →
      Laid ks (c :: t)
  | symbol {k : Symbol} {ks : List Symbol} {x t : List Char} : k.Written x → Laid ks t →
      Laid (k :: ks) (x ++ t)

/-- The tokens say these symbols. -/
def Shows (ts : List Token) (ks : List Symbol) : Prop :=
  ts.map Token.symbol? = ks.map some

/-- A symbol that may follow a value. -/
def Symbol.closes : Symbol → Bool
  | .closeObject | .closeList | .comma => true
  | _ => false

def Symbol.isNumber : Symbol → Bool
  | .number _ => true
  | _ => false

/-- Two symbols that can be told apart without white space between them, as far as trees need it. -/
def Apart (k l : Symbol) : Prop :=
  k.isNumber = true → l.closes = true

theorem Shows.nil : Shows [] [] := rfl

theorem Shows.cons {t : Token} {ts : List Token} {k : Symbol} {ks : List Symbol}
    (h : t.symbol? = some k) (hs : Shows ts ks) : Shows (t :: ts) (k :: ks) := by
  rw [Shows, List.map_cons, List.map_cons, h, hs]

theorem Shows.append {ts us : List Token} {ks ls : List Symbol} (h : Shows ts ks) (h' : Shows us ls) :
    Shows (ts ++ us) (ks ++ ls) := by
  rw [Shows, List.map_append, List.map_append, h, h']

theorem shows_cons_iff {ts : List Token} {k : Symbol} {ks : List Symbol} :
    Shows ts (k :: ks) ↔ ∃ t us, ts = t :: us ∧ t.symbol? = some k ∧ Shows us ks := by
  rw [Shows, List.map_cons, List.map_eq_cons_iff]
  rfl

theorem shows_singleton_iff {ts : List Token} {k : Symbol} :
    Shows ts [k] ↔ ∃ t, ts = [t] ∧ t.symbol? = some k := by
  rw [Shows, List.map_singleton, List.map_eq_singleton_iff]

theorem shows_append_iff {ts : List Token} {ks ls : List Symbol} :
    Shows ts (ks ++ ls) ↔ ∃ us vs, ts = us ++ vs ∧ Shows us ks ∧ Shows vs ls := by
  rw [Shows, List.map_append, List.map_eq_append_iff]
  rfl

theorem Shows.length_eq {ts : List Token} {ks : List Symbol} (h : Shows ts ks) :
    ts.length = ks.length := by
  simpa using congrArg List.length h

/-! ### The first token of a text -/

theorem readWord_eq_ok_iff {word s rest : List Char} :
    readWord word s = .ok rest ↔ s = word ++ rest := by
  fun_induction readWord word s with
  | case1 rest' => exact ⟨fun h => by cases h; rfl, fun h => by rw [h]; rfl⟩
  | case2 => simp
  | case3 w ws rest' ih => simp [ih]
  | case4 w ws c rest' hc => simp [hc]

theorem punctuation?_eq_some {c : Char} {t : Token} (h : punctuation? c = some t) :
    ∃ k, t.symbol? = some k ∧ k.Written [c] := by
  unfold punctuation? at h
  split at h <;> cases h <;> exact ⟨_, rfl, rfl⟩

theorem constant?_eq_some {c : Char} {t : Token} {word : List Char}
    (h : constant? c = some (t, word)) : ∃ k, t.symbol? = some k ∧ k.Written (c :: word) := by
  unfold constant? at h
  split at h <;> cases h <;> exact ⟨_, rfl, rfl⟩

/-- Reading a string and passing over it stop at the same quote. -/
theorem spelled_of_readString_body {y rest : List Char} {p : List Char × List Char} (hy : StringBody y)
    (h : readString (y ++ '"' :: rest) = .ok p) : Spelled p.1 y := by
  obtain ⟨y', heq, hs⟩ := spelled_of_readString h
  have hskip := skipString_of_stringBody hs.stringBody p.2
  rw [← heq, skipString_of_stringBody hy] at hskip
  obtain rfl := Except.ok.inj hskip
  rwa [List.append_cancel_right heq]

/-- A string that can be passed over but not read spells nothing. -/
theorem not_spelled_of_readString {y rest : List Char} {fault : Fault}
    (h : readString (y ++ '"' :: rest) = .error fault) (s : List Char) : ¬ Spelled s y := by
  intro hs
  rw [readString_of_spelled hs rest] at h
  cases h

theorem written_of_stringToken {s : List Char} {k : Symbol}
    (h : (stringToken s).1.symbol? = some k) :
    ∃ x, '"' :: s = x ++ (stringToken s).2 ∧ k.Written x := by
  unfold stringToken at h ⊢
  split at h
  · rename_i rest hskip
    obtain ⟨y, rfl, hy⟩ := stringBody_of_skipString hskip
    refine ⟨'"' :: (y ++ ['"']), by simp, ?_⟩
    cases hread : readString (y ++ '"' :: rest) with
    | error fault =>
        rw [hread] at h
        cases h
        exact ⟨y, rfl, hy, not_spelled_of_readString hread⟩
    | ok p =>
        rw [hread] at h
        cases h
        exact ⟨y, rfl, by rw [String.toList_ofList]; exact spelled_of_readString_body hy hread⟩
  · split at h <;> cases h

theorem written_of_numberToken {s : List Char} {k : Symbol}
    (h : (numberToken s).1.symbol? = some k) :
    ∃ x, s = x ++ (numberToken s).2 ∧ k.Written x := by
  unfold numberToken at h ⊢
  split at h
  · rename_i n rest hread
    cases h
    obtain ⟨x, rfl, hx⟩ := written_of_readNumber hread
    exact ⟨x, rfl, n, hx, rfl⟩
  · cases h

/-- What the first token says stands at the start of the text. -/
theorem written_of_firstToken {c : Char} {cs : List Char} {k : Symbol}
    (h : (firstToken c cs).1.symbol? = some k) :
    ∃ x, c :: cs = x ++ (firstToken c cs).2 ∧ k.Written x := by
  unfold firstToken at h ⊢
  cases hp : punctuation? c with
  | some t =>
      simp only [hp] at h ⊢
      obtain ⟨k', hk', hx⟩ := punctuation?_eq_some hp
      obtain rfl : k' = k := Option.some.inj (hk'.symm.trans h)
      exact ⟨[c], rfl, hx⟩
  | none =>
      simp only [hp] at h ⊢
      cases hc : constant? c with
      | some p =>
          obtain ⟨t, word⟩ := p
          simp only [hc] at h ⊢
          obtain ⟨k', hk', hx⟩ := constant?_eq_some hc
          cases hword : readWord word cs with
          | error fault =>
              rw [hword] at h
              cases h
          | ok rest =>
              rw [hword] at h
              obtain rfl : k' = k := Option.some.inj (hk'.symm.trans h)
              exact ⟨c :: word, by rw [readWord_eq_ok_iff.mp hword]; rfl, hx⟩
      | none =>
          simp only [hc] at h ⊢
          by_cases hq : c = '"'
          · subst hq
            exact written_of_stringToken h
          · simp only [if_neg hq] at h ⊢
            split at h
            · rename_i hd
              rw [if_pos hd]
              exact written_of_numberToken h
            · cases h

/-- A numeral begins with a digit or a sign. -/
theorem Numeral.Written.head {n : Numeral} {x : List Char} (h : n.Written x) :
    ∃ c cs, x = c :: cs ∧ (c = '-' ∨ c.isDigit = true) := by
  obtain ⟨f, e, rfl, hds, -, -⟩ := h
  cases hn : n.negative with
  | true => exact ⟨'-', _, rfl, .inl rfl⟩
  | false =>
      obtain ⟨hne, hall⟩ := hds.1
      cases hdigits : n.digits with
      | nil => exact absurd hdigits hne
      | cons d ds => exact ⟨d, _, rfl, .inr (hall d (by rw [hdigits]; exact List.mem_cons_self))⟩

theorem firstToken_of_number {c : Char} (cs : List Char) (h : c = '-' ∨ c.isDigit = true) :
    firstToken c cs = numberToken (c :: cs) ∧ isSpace c = false := by
  have hother : c ∉ ['{', '}', '[', ']', ',', ':', 'n', 't', 'f', '"', ' ', '\t', '\n', '\r'] := by
    rintro hc
    simp only [List.mem_cons, List.not_mem_nil, or_false] at hc
    rcases hc with rfl | rfl | rfl | rfl | rfl | rfl | rfl | rfl | rfl | rfl | rfl | rfl | rfl | rfl <;>
      exact absurd h (by decide)
  simp only [List.mem_cons, List.not_mem_nil, or_false, not_or] at hother
  have hp : punctuation? c = none := by
    unfold punctuation?
    split <;> simp_all
  have hc : constant? c = none := by
    unfold constant?
    split <;> simp_all
  refine ⟨?_, by simp [isSpace, hother]⟩
  rw [firstToken, hp, hc]
  simp only
  rw [if_neg hother.2.2.2.2.2.2.2.2.2.1, if_pos (by simpa using h)]

/-- The first token of a text that begins with a symbol, up to the end of the symbol. -/
theorem firstToken_of_written {k : Symbol} {x : List Char} (h : k.Written x) (rest : List Char)
    (hrest : k.isNumber = true → EndsNumeral rest) :
    ∃ c cs, x ++ rest = c :: cs ∧ isSpace c = false ∧ (firstToken c cs).1.symbol? = some k ∧
      (firstToken c cs).2 = rest := by
  cases k with
  | openObject | closeObject | openList | closeList | comma | colon =>
      obtain rfl := h
      exact ⟨_, rest, rfl, rfl, rfl, rfl⟩
  | null =>
      obtain rfl := h
      exact ⟨_, _, rfl, rfl, rfl, rfl⟩
  | bool b =>
      obtain rfl := h
      cases b <;> exact ⟨_, _, rfl, rfl, rfl, rfl⟩
  | number n =>
      obtain ⟨m, hm, rfl⟩ := h
      obtain ⟨c, cs, rfl, hc⟩ := hm.head
      obtain ⟨hfirst, hspace⟩ := firstToken_of_number (cs ++ rest) hc
      have hread : numberToken (c :: (cs ++ rest)) = (.number m.toNumber, rest) := by
        rw [numberToken, ← List.cons_append, readNumber_written hm (hrest rfl)]
      refine ⟨c, cs ++ rest, rfl, hspace, ?_, ?_⟩ <;> rw [hfirst, hread]
      rfl
  | string chars =>
      cases chars with
      | none =>
          obtain ⟨y, rfl, hy, hs⟩ := h
          have hfault : ∃ fault, readString (y ++ '"' :: rest) = .error fault := by
            cases hread : readString (y ++ '"' :: rest) with
            | error fault => exact ⟨fault, rfl⟩
            | ok p => exact absurd (spelled_of_readString_body hy hread) (hs p.1)
          obtain ⟨fault, hread⟩ := hfault
          have htoken : firstToken '"' (y ++ '"' :: rest) = (.string (.error fault), rest) := by
            show stringToken _ = _
            rw [stringToken, skipString_of_stringBody hy, hread]
            rfl
          refine ⟨'"', y ++ '"' :: rest, by simp, rfl, ?_, ?_⟩ <;> rw [htoken]
          rfl
      | some s =>
          obtain ⟨y, rfl, hy⟩ := h
          have htoken : firstToken '"' (y ++ '"' :: rest) = (.string (.ok s), rest) := by
            show stringToken _ = _
            rw [stringToken, skipString_of_stringBody hy.stringBody, readString_of_spelled hy]
            simp [Except.map]
          refine ⟨'"', y ++ '"' :: rest, by simp, rfl, ?_, ?_⟩ <;> rw [htoken]
          rfl

/-! ### The tokens of a text -/

theorem tokens_space {c : Char} (t : List Char) (h : isSpace c = true) : tokens (c :: t) = tokens t := by
  rw [tokens, if_pos h]

theorem tokens_of_written {k : Symbol} {x : List Char} (h : k.Written x) (rest : List Char)
    (hrest : k.isNumber = true → EndsNumeral rest) :
    ∃ t, tokens (x ++ rest) = t :: tokens rest ∧ t.symbol? = some k := by
  obtain ⟨c, cs, heq, hspace, hsymbol, hafter⟩ := firstToken_of_written h rest hrest
  refine ⟨(firstToken c cs).1, ?_, hsymbol⟩
  rw [heq, tokens, if_neg (by rw [hspace]; exact Bool.false_ne_true), hafter]

theorem tokens_ne_nil {t : List Char} (h : ∃ c ∈ t, isSpace c = false) : tokens t ≠ [] := by
  fun_induction tokens t with
  | case1 => simp at h
  | case2 c cs hc ih =>
      obtain ⟨d, hd, hspace⟩ := h
      rcases List.mem_cons.mp hd with rfl | hd
      · rw [hc] at hspace
        cases hspace
      · exact ih ⟨d, hd, hspace⟩
  | case3 => exact List.cons_ne_nil _ _

/-- The first character that is no white space begins the first symbol. -/
theorem Laid.head {k : Symbol} {ks : List Symbol} {t : List Char} (h : Laid (k :: ks) t)
    (after : List Char) :
    ∃ c x, ((t ++ after).dropWhile isSpace).head? = some c ∧ k.Written (c :: x) := by
  generalize hks : k :: ks = ls at h
  induction h with
  | done => cases hks
  | space hc _ ih =>
      rw [List.cons_append, List.dropWhile_cons_of_pos hc]
      exact ih hks
  | @symbol _ _ x t hx =>
      cases hks
      obtain ⟨c, cs, heq, hspace, -⟩ := firstToken_of_written hx [] (by rintro - c ⟨⟩)
      rw [List.append_nil] at heq
      subst heq
      refine ⟨c, cs, ?_, hx⟩
      rw [List.append_assoc, List.cons_append, List.dropWhile_cons_of_neg (by simp [hspace])]
      rfl

theorem endsNumeral_space {c : Char} (t : List Char) (h : isSpace c = true) : EndsNumeral (c :: t) := by
  simp only [isSpace, Bool.or_eq_true, beq_iff_eq] at h
  intro d hd
  cases hd
  rcases h with ((rfl | rfl) | rfl) | rfl <;> rfl

theorem endsNumeral_closes {k : Symbol} {x : List Char} (h : k.Written x) (hk : k.closes = true)
    (t : List Char) : EndsNumeral (x ++ t) := by
  intro d hd
  cases k with
  | closeObject | closeList | comma =>
      obtain rfl := h
      cases hd
      rfl
  | openObject | openList | colon | null | bool | number | string => cases hk

/-- White space and symbols that may follow a value end a numeral. -/
theorem Laid.endsNumeral {ks : List Symbol} {t after : List Char} (h : Laid ks t)
    (hhead : ∀ k ∈ ks.head?, k.closes = true) (hnil : ks = [] → EndsNumeral after) :
    EndsNumeral (t ++ after) := by
  cases h with
  | done => exact hnil rfl
  | space hc => exact endsNumeral_space _ hc
  | symbol hx =>
      rw [List.append_assoc]
      exact endsNumeral_closes hx (hhead _ rfl) _

/-- The tokens of a text that is laid out, whatever comes after it. -/
theorem shows_tokens {ks : List Symbol} {t : List Char} (h : Laid ks t) (happart : ks.IsChain Apart)
    (after : List Char) (hlast : ∀ k ∈ ks.getLast?, k.isNumber = true → EndsNumeral after) :
    ∃ front, tokens (t ++ after) = front ++ tokens after ∧ Shows front ks := by
  induction h with
  | done => exact ⟨[], rfl, .nil⟩
  | space hc _ ih =>
      rw [List.cons_append, tokens_space _ hc]
      exact ih happart hlast
  | @symbol k ks x t hx hlaid ih =>
      have hends : k.isNumber = true → EndsNumeral (t ++ after) := fun hnumber =>
        hlaid.endsNumeral
          (fun l hl => by
            obtain ⟨ls, rfl⟩ := List.head?_eq_some_iff.mp hl
            exact (List.isChain_cons_cons.mp happart).1 hnumber)
          (fun hks => hlast k (by rw [hks]; rfl) hnumber)
      obtain ⟨t', htokens, hsymbol⟩ := tokens_of_written hx (t ++ after) hends
      obtain ⟨front, hfront, hshows⟩ := ih happart.tail fun l hl hnumber => by
        refine hlast l ?_ hnumber
        cases ks with
        | nil => cases hl
        | cons l' ls => rwa [List.getLast?_cons_cons]
      exact ⟨t' :: front, by rw [List.append_assoc, htokens, hfront]; rfl, hshows.cons hsymbol⟩

/-- A text whose tokens say some symbols is laid out for them. -/
theorem laid_of_shows {t : List Char} {ks : List Symbol} (h : Shows (tokens t) ks) : Laid ks t := by
  fun_induction tokens t generalizing ks with
  | case1 =>
      cases ks with
      | nil => exact .done
      | cons => cases h
  | case2 c cs hc ih => exact .space hc (ih h)
  | case3 c cs _ ih =>
      cases ks with
      | nil => cases h
      | cons k ks =>
          obtain ⟨t, us, heq, hsymbol, hshows⟩ := shows_cons_iff.mp h
          obtain ⟨rfl, rfl⟩ := List.cons.inj heq
          obtain ⟨x, hx, hwritten⟩ := written_of_firstToken hsymbol
          rw [hx]
          exact .symbol hwritten (ih hshows)

end ClassLens.Json
