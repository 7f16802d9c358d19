import ClassLens.Proofs.Usage.Bindings
import ClassLens.Proofs.Usage.Sites

/-! # Which usages are selected

Usages may overlap: in `styles.styles.a` one stands at the start and another after the first full
stop.  Of the usages that stand in a text, a scan reports the first one, then the first one that
begins at its end or later, and so on.

* `Asked names b`: a list of names asks for the binding `b`.
* `Stands B version text u`: the usage `u` of one of the bindings `B` stands in the text.
* `Selects P n us`: `us` is the selection of the usages `P` from byte `n` on.
* `search bindings version text`: the usages as a search for the pattern finds them, which looks at
  what stands before a match only when it has the match.

**Main statements.** `selects_sites`: a scan reports the selection.  `Selects.unique`: there is only
one.  `search_eq_sites`: the search finds what the scan reports.  `selects_scan`: the usages that a
scanner for a list of names reports depend on the bindings asked for only. -/

namespace ClassLens.Usage

open Text (byteLength byteLength_append trim)

variable {B : List Char → Prop} {bindings : List (List Char)} {version : Int} {u v : Site}

/-! ### Usages that stand in a text -/

/-- A usage of one of the bindings stands in a text: the binding, a full stop and a class token that is
not empty.  No identifier character is in front of it, and the token does not go on. -/
def Stands (B : List Char → Prop) (version : Int) (text : List Char) (u : Site) : Prop :=
  ∃ front binding token back, text = front ++ (binding ++ '.' :: token) ++ back ∧ B binding ∧
    front.getLast?.any isIdentifierChar = false ∧ token ≠ [] ∧ (∀ c ∈ token, isTokenChar c = true) ∧
    back.head?.any isTokenChar = false ∧ u = .covering version front binding token

theorem stands_of_occurs {text front binding token back : List Char}
    (htext : text = front ++ (binding ++ '.' :: token) ++ back)
    (h : Occurs bindings front binding token back) :
    Stands (· ∈ bindings) version text (.covering version front binding token) :=
  ⟨front, binding, token, back, htext, h.binding, h.boundary, h.nonempty, h.token, h.maximal, rfl⟩

theorem Site.start_lt_stop_covering (version : Int) (front binding token : List Char) :
    (covering version front binding token).start < (covering version front binding token).stop := by
  have hdot : ('.' : Char).utf8Size = 1 := by decide
  simp only [covering, byteLength_append, byteLength, hdot]
  omega

/-- A usage ends within the text. -/
theorem Stands.stop_le {text : List Char} (h : Stands B version text u) :
    u.start < u.stop ∧ u.stop ≤ byteLength text := by
  obtain ⟨front, binding, token, back, rfl, -, -, -, -, -, rfl⟩ := h
  refine ⟨Site.start_lt_stop_covering _ _ _ _, ?_⟩
  simp only [Site.covering, byteLength_append]
  omega

/-- Two ways of cutting a text: the longer front begins with the shorter one. -/
theorem exists_between {a b c d : List Char} (h : a ++ b = c ++ d)
    (hle : byteLength a ≤ byteLength c) : ∃ m, c = a ++ m ∧ b = m ++ d := by
  rcases List.append_eq_append_iff.mp h with ⟨m, hc, hb⟩ | ⟨m, ha, hd⟩
  · exact ⟨m, hc, hb⟩
  · rw [ha, byteLength_append] at hle
    have hm : m = [] := Text.byteLength_eq_zero (by omega)
    rw [hm, List.append_nil] at ha
    rw [hm, List.nil_append] at hd
    exact ⟨[], by rw [ha, List.append_nil], by rw [hd, List.nil_append]⟩

/-- What is taken from a text ends where the test fails. -/
theorem takeWhile_of_maximal {p : Char → Bool} {t r : List Char} (ht : ∀ c ∈ t, p c = true)
    (hr : r.head?.any p = false) : (t ++ r).takeWhile p = t := by
  rw [List.takeWhile_append_of_pos ht]
  cases r with
  | nil => simp
  | cons c cs =>
      have hc : p c = false := by simpa using hr
      rw [List.takeWhile_cons_of_neg (by rw [hc]; simp), List.append_nil]

/-- A binding without full stops and a token that does not go on are told by the text. -/
theorem eq_of_cover_eq {b b' t t' r r' : List Char} (hb : '.' ∉ b) (hb' : '.' ∉ b')
    (ht : ∀ c ∈ t, isTokenChar c = true) (ht' : ∀ c ∈ t', isTokenChar c = true)
    (hr : r.head?.any isTokenChar = false) (hr' : r'.head?.any isTokenChar = false)
    (h : (b ++ '.' :: t) ++ r = (b' ++ '.' :: t') ++ r') : b = b' ∧ t = t' := by
  have hdot : ∀ {b : List Char} (x : List Char), '.' ∉ b →
      (b ++ '.' :: x).takeWhile (· != '.') = b := fun x hb =>
    takeWhile_of_maximal (fun c hc => bne_iff_ne.mpr fun he => hb (he ▸ hc)) rfl
  simp only [List.append_assoc, List.cons_append] at h
  have hbb : b = b' := by rw [← hdot (t ++ r) hb, h, hdot _ hb']
  subst hbb
  have htail : t ++ r = t' ++ r' := (List.cons.inj (List.append_cancel_left h)).2
  exact ⟨rfl, by rw [← takeWhile_of_maximal ht hr, htail, takeWhile_of_maximal ht' hr']⟩

/-- Where the bindings have no full stops, one usage at most begins at a place. -/
theorem Stands.unique {text : List Char} (hB : ∀ b, B b → '.' ∉ b) (h : Stands B version text u)
    (h' : Stands B version text v) (hstart : u.start = v.start) : u = v := by
  obtain ⟨front, b, t, back, htext, hb, -, -, ht, hback, rfl⟩ := h
  obtain ⟨front', b', t', back', htext', hb', -, -, ht', hback', rfl⟩ := h'
  rw [List.append_assoc] at htext htext'
  obtain ⟨m, hfront, hrest⟩ := exists_between (htext ▸ htext') (Nat.le_of_eq hstart)
  have hm : m = [] := by
    apply Text.byteLength_eq_zero
    simp only [Site.covering] at hstart
    rw [hfront, byteLength_append] at hstart
    omega
  subst hm
  rw [List.append_nil] at hfront
  obtain ⟨rfl, rfl⟩ := eq_of_cover_eq (hB _ hb) (hB _ hb') ht ht' hback hback' hrest
  rw [hfront]

/-! ### The selection -/

/-- The selection of some usages from a byte on: the first one that begins there or later, and then
the selection from its end on. -/
inductive Selects (P : Site → Prop) : Nat → List Site → Prop
  | done {n : Nat} : (∀ v, P v → v.start < n) → Selects P n []
  | next {n : Nat} {u : Site} {us : List Site} : P u → n ≤ u.start →
      (∀ v, P v → n ≤ v.start → u.start ≤ v.start) → Selects P u.stop us → Selects P n (u :: us)

section Selects

variable {P : Site → Prop} {n m : Nat} {us vs : List Site}

/-- Where no usage begins between two places, both have the same selection. -/
theorem Selects.of_le (h : Selects P m us) (hle : n ≤ m)
    (hnone : ∀ v, P v → n ≤ v.start → m ≤ v.start) : Selects P n us := by
  cases h with
  | done hlt =>
      refine .done fun v hv => ?_
      by_contra hge
      have := hnone v hv (Nat.le_of_not_lt hge)
      have := hlt v hv
      omega
  | next hu hm hfirst hrest =>
      exact .next hu (Nat.le_trans hle hm) (fun v hv hn => hfirst v hv (hnone v hv hn)) hrest

/-- There is one selection at most if one usage at most begins at each place. -/
theorem Selects.unique (hP : ∀ u v, P u → P v → u.start = v.start → u = v) (h : Selects P n us)
    (h' : Selects P n vs) : us = vs := by
  induction h generalizing vs with
  | done hlt =>
      cases h' with
      | done => rfl
      | next hv hn => exact absurd (hlt _ hv) (Nat.not_lt.mpr hn)
  | next hu hn hfirst _ ih =>
      cases h' with
      | done hlt => exact absurd (hlt _ hu) (Nat.not_lt.mpr hn)
      | next hv hn' hfirst' hrest =>
          have hstart := Nat.le_antisymm (hfirst _ hv hn') (hfirst' _ hu hn)
          obtain rfl := hP _ _ hu hv hstart
          rw [ih hrest]

/-- What is selected begins at the byte or later, and each usage where the one before it has ended. -/
theorem Selects.pairwise (hP : ∀ u, P u → u.start < u.stop) (h : Selects P n us) :
    (∀ u ∈ us, P u ∧ n ≤ u.start) ∧ us.Pairwise fun u v => u.stop ≤ v.start := by
  induction h with
  | done => exact ⟨by simp, List.Pairwise.nil⟩
  | @next n u us hu hn _ _ ih =>
      refine ⟨fun v hv => ?_, List.pairwise_cons.mpr ⟨fun v hv => (ih.1 v hv).2, ih.2⟩⟩
      rcases List.mem_cons.mp hv with rfl | hv
      · exact ⟨hu, hn⟩
      · have := hP u hu
        have := (ih.1 v hv).2
        exact ⟨(ih.1 v hv).1, by omega⟩

end Selects

/-! ### What a scan reports -/

/-- A usage at the start of a text is found. -/
theorem siteAt?_ne_none {previous : Option Char} {binding token back : List Char}
    (hprevious : previous.any isIdentifierChar = false) (hbinding : binding ∈ bindings)
    (hnonempty : token ≠ []) (htoken : ∀ c ∈ token, isTokenChar c = true)
    (hmaximal : back.head?.any isTokenChar = false) :
    siteAt? bindings previous ((binding ++ '.' :: token) ++ back) ≠ none := by
  intro hnone
  rw [siteAt?, if_neg (by simp [hprevious]), List.findSome?_eq_none_iff] at hnone
  have hafter : afterBinding? binding ((binding ++ '.' :: token) ++ back) = some (token ++ back) := by
    have hprefix : binding.isPrefixOf? ((binding ++ '.' :: token) ++ back) =
        some ('.' :: (token ++ back)) :=
      List.isPrefixOf?_eq_some_iff_append_eq.mpr (by rw [List.append_assoc, List.cons_append])
    rw [afterBinding?, hprefix]
    rfl
  have hfound := hnone binding hbinding
  rw [hafter] at hfound
  simp only [takeWhile_of_maximal htoken hmaximal] at hfound
  cases token with
  | nil => exact hnonempty rfl
  | cons c cs => cases hfound

/-- A usage begins at the start of a rest where a scan finds one. -/
theorem siteAt?_ne_none_of_stands {done rest : List Char}
    (h : Stands (· ∈ bindings) version (done ++ rest) u) (hstart : u.start = byteLength done) :
    siteAt? bindings done.getLast? rest ≠ none := by
  obtain ⟨front, binding, token, back, htext, hb, hboundary, hne, ht, hback, rfl⟩ := h
  rw [List.append_assoc] at htext
  obtain ⟨m, hfront, hrest⟩ := exists_between htext (Nat.le_of_eq hstart.symm)
  have hm : m = [] := by
    apply Text.byteLength_eq_zero
    simp only [Site.covering] at hstart
    rw [hfront, byteLength_append] at hstart
    omega
  subst hm
  rw [List.append_nil] at hfront
  rw [hrest, List.nil_append, ← hfront]
  exact siteAt?_ne_none hboundary hb hne ht hback

/-- A usage that begins later than some characters begins later than the next one, too, unless it begins
right after them. -/
theorem Stands.start_of_lt {done cs : List Char} {c : Char}
    (h : Stands B version (done ++ c :: cs) u) (hle : byteLength done ≤ u.start)
    (hne : u.start ≠ byteLength done) : byteLength (done ++ [c]) ≤ u.start := by
  obtain ⟨front, binding, token, back, htext, -, -, -, -, -, rfl⟩ := h
  rw [List.append_assoc] at htext
  obtain ⟨m, hfront, hrest⟩ := exists_between htext hle
  simp only [Site.covering] at hne ⊢
  cases m with
  | nil =>
      rw [List.append_nil] at hfront
      exact absurd (congrArg byteLength hfront) hne
  | cons d ds =>
      rw [List.cons_append] at hrest
      obtain ⟨rfl, -⟩ := List.cons.inj hrest
      rw [hfront, byteLength_append, byteLength_append, byteLength, byteLength, byteLength]
      omega

/-- What a scan reports of the rest of a text is the selection from the rest's start on, or from the end
of the usage that the next `skip` characters belong to; `done` are the characters in front. -/
theorem selects_sitesFrom (bindings : List (List Char)) (version : Int) (done cs : List Char)
    (skip : Nat) :
    Selects (Stands (· ∈ bindings) version (done ++ cs)) (byteLength (done ++ cs.take skip))
      (sitesFrom bindings version done.getLast? (byteLength done) skip cs) := by
  induction cs generalizing done skip with
  | nil =>
      rw [sitesFrom, List.take_nil]
      refine .done fun v hv => ?_
      have := hv.stop_le
      omega
  | cons c cs ih =>
      have hnext : ∀ skip : Nat, Selects (Stands (· ∈ bindings) version (done ++ c :: cs))
          (byteLength (done ++ c :: cs.take skip))
          (sitesFrom bindings version (some c) (byteLength done + c.utf8Size) skip cs) := by
        intro skip
        have hlater := ih (done ++ [c]) skip
        rw [List.getLast?_concat, byteLength_append] at hlater
        simpa [byteLength, Nat.add_assoc] using hlater
      cases skip with
      | succ skip =>
          rw [sitesFrom, List.take_succ_cons]
          exact hnext skip
      | zero =>
          rw [List.take_zero, List.append_nil, sitesFrom]
          split
          · rename_i hnone
            -- no usage begins here, so the selection is that from the next character on
            refine (hnext 0).of_le ?_ fun v hv hle => ?_
            · rw [byteLength_append]
              omega
            · rw [List.take_zero]
              refine hv.start_of_lt hle fun hstart => ?_
              exact siteAt?_ne_none_of_stands hv hstart hnone
          · rename_i binding token hsome
            obtain ⟨hboundary, hbinding, hne, ht, back, htext, hmaximal⟩ := eq_of_siteAt? hsome
            have hstands : Stands (· ∈ bindings) version (done ++ c :: cs)
                (.covering version done binding token) :=
              stands_of_occurs (by rw [htext, ← List.append_assoc])
                ⟨hbinding, hboundary, hne, ht, hmaximal⟩
            have hstop : byteLength (done ++ c :: cs.take (binding.length + token.length)) =
                (Site.covering version done binding token).stop := by
              have htake : (c :: cs).take (binding.length + token.length + 1) =
                  binding ++ '.' :: token := by
                rw [htext, List.take_left' (by simp; omega)]
              rw [List.take_succ_cons] at htake
              rw [htake, byteLength_append]
              rfl
            have hcover : (⟨String.ofList token, byteLength done,
                byteLength done + byteLength binding + 1 + byteLength token, version⟩ : Site) =
                .covering version done binding token := by
              have hdot : ('.' : Char).utf8Size = 1 := by decide
              simp only [Site.covering, byteLength_append, byteLength, hdot, ← Nat.add_assoc]
            rw [hcover]
            exact .next hstands (Nat.le_refl _) (fun v _ hle => hle) (hstop ▸ hnext _)

/-- A scan reports the selection of the usages that stand in the text. -/
theorem selects_sites (bindings : List (List Char)) (version : Int) (text : List Char) :
    Selects (Stands (· ∈ bindings) version text) 0 (sites bindings version text) := by
  have h := selects_sitesFrom bindings version [] text 0
  rwa [List.nil_append, List.take_zero, List.append_nil] at h

/-! ### Searching for the pattern -/

/-- The first place where a binding, a full stop and a class token stand, whatever is in front of
them: what is passed over, the binding (of several, the first one that fits) and the token. -/
def firstMatch? (bindings : List (List Char)) :
    List Char → Option (List Char × List Char × List Char)
  | [] => none
  | c :: cs =>
    match siteAt? bindings none (c :: cs) with
    | some (binding, token) => some ([], binding, token)
    | none =>
      (firstMatch? bindings cs).map fun (front, binding, token) => (c :: front, binding, token)

/-- Nothing matches where nothing is found. -/
theorem siteAt?_of_firstMatch?_eq_none {m rest : List Char}
    (h : firstMatch? bindings (m ++ rest) = none) (hne : rest ≠ []) :
    siteAt? bindings none rest = none := by
  induction m with
  | nil =>
      cases rest with
      | nil => exact absurd rfl hne
      | cons c cs =>
          rw [List.nil_append, firstMatch?] at h
          split at h
          · cases h
          · assumption
  | cons d m ih =>
      rw [List.cons_append, firstMatch?] at h
      split at h
      · cases h
      · exact ih (Option.map_eq_none_iff.mp h)

/-- What is found matches, and nothing in front of it does. -/
theorem siteAt?_of_firstMatch?_eq_some {text front binding token : List Char}
    (h : firstMatch? bindings text = some (front, binding, token)) :
    (∃ rest, text = front ++ rest ∧ siteAt? bindings none rest = some (binding, token)) ∧
      ∀ m rest, text = m ++ rest → rest ≠ [] → m.length < front.length →
        siteAt? bindings none rest = none := by
  induction text generalizing front with
  | nil => cases h
  | cons c cs ih =>
      rw [firstMatch?] at h
      split at h
      · rename_i hsome
        simp only [Option.some.injEq, Prod.mk.injEq] at h
        obtain ⟨rfl, rfl, rfl⟩ := h
        exact ⟨⟨c :: cs, rfl, hsome⟩, fun m rest _ _ hlt => absurd hlt (Nat.not_lt_zero _)⟩
      · rename_i hnone
        obtain ⟨⟨front', binding', token'⟩, hlater, hfront⟩ := Option.map_eq_some_iff.mp h
        simp only [Prod.mk.injEq] at hfront
        obtain ⟨rfl, rfl, rfl⟩ := hfront
        obtain ⟨⟨rest, hrest, hsome⟩, hbefore⟩ := ih hlater
        refine ⟨⟨rest, by rw [hrest, List.cons_append], hsome⟩, fun m rest' htext hne hlt => ?_⟩
        cases m with
        | nil =>
            rw [List.nil_append] at htext
            rwa [← htext]
        | cons d m =>
            rw [List.cons_append] at htext
            exact hbefore m rest' (List.cons.inj htext).2 hne (Nat.lt_of_succ_lt_succ hlt)

/-- The usages that a search finds in the rest of a text, `done` being in front of it.  A match after an
identifier character is none: the search goes on one character after the place where it begins. -/
def searchFrom (bindings : List (List Char)) (version : Int) (done : List Char) :
    List Char → List Site
  | [] => []
  | c :: cs =>
    match firstMatch? bindings (c :: cs) with
    | none => []
    | some (front, binding, token) =>
      if (done ++ front).getLast?.any isIdentifierChar then
        searchFrom bindings version (done ++ (c :: cs).take (front.length + 1))
          ((c :: cs).drop (front.length + 1))
      else
        .covering version (done ++ front) binding token ::
          searchFrom bindings version (done ++ (front ++ (binding ++ '.' :: token)))
            ((c :: cs).drop (front ++ (binding ++ '.' :: token)).length)
termination_by text => text.length
decreasing_by
  all_goals
    simp only [List.length_drop, List.length_append, List.length_cons]
    omega

/-- The usages that a search finds in a text. -/
def search (bindings : List (List Char)) (version : Int) (text : List Char) : List Site :=
  searchFrom bindings version [] text

/-- A usage that begins in the rest of a text is a match there, with no identifier character in front. -/
theorem Stands.exists_match {done rest : List Char}
    (h : Stands (· ∈ bindings) version (done ++ rest) u) (hle : byteLength done ≤ u.start) :
    ∃ m x, rest = m ++ x ∧ x ≠ [] ∧ u.start = byteLength (done ++ m) ∧
      siteAt? bindings none x ≠ none ∧ (done ++ m).getLast?.any isIdentifierChar = false := by
  obtain ⟨front, binding, token, back, htext, hb, hboundary, hne, ht, hback, rfl⟩ := h
  rw [List.append_assoc] at htext
  obtain ⟨m, hfront, hrest⟩ := exists_between htext hle
  exact ⟨m, _, hrest, by simp, congrArg byteLength hfront, siteAt?_ne_none rfl hb hne ht hback,
    hfront ▸ hboundary⟩

/-- The first so many characters of a text have no more bytes than any longer front of it. -/
theorem byteLength_take_le {m x : List Char} {k : Nat} (h : k ≤ m.length) :
    byteLength ((m ++ x).take k) ≤ byteLength m := by
  rw [List.take_append_of_le_length h]
  conv_rhs => rw [← List.take_append_drop k m]
  rw [byteLength_append]
  exact Nat.le_add_right _ _

/-- What a search finds in the rest of a text is the selection from the rest's start on. -/
theorem selects_searchFrom (done rest : List Char) :
    Selects (Stands (· ∈ bindings) version (done ++ rest)) (byteLength done)
      (searchFrom bindings version done rest) := by
  fun_induction searchFrom bindings version done rest with
  | case1 done =>
      refine .done fun v hv => ?_
      have := hv.stop_le
      rw [List.append_nil] at this
      omega
  | case2 done c cs hnone =>
      refine .done fun v hv => ?_
      by_contra hle
      obtain ⟨m, x, hrest, hx, -, hmatch, -⟩ := hv.exists_match (Nat.le_of_not_lt hle)
      exact hmatch (siteAt?_of_firstMatch?_eq_none (hrest ▸ hnone) hx)
  | case3 done c cs front binding token hsome hrejected ih =>
      obtain ⟨⟨rest, hfront, -⟩, hbefore⟩ := siteAt?_of_firstMatch?_eq_some hsome
      rw [List.append_assoc, List.take_append_drop] at ih
      refine ih.of_le (by rw [byteLength_append]; omega) fun v hv hle => ?_
      obtain ⟨m, x, hrest, hx, hstart, hmatch, hboundary⟩ := hv.exists_match hle
      -- no match is in front of the one that was rejected, and that one does not count
      have hlt : front.length < m.length := by
        rcases Nat.lt_trichotomy m.length front.length with hlt | heq | hgt
        · exact absurd (hbefore m x hrest hx hlt) hmatch
        · obtain ⟨rfl, -⟩ := List.append_inj (hrest.symm.trans hfront) heq
          rw [hrejected] at hboundary
          cases hboundary
        · exact hgt
      rw [hstart, byteLength_append, byteLength_append, hrest]
      exact Nat.add_le_add_left (byteLength_take_le hlt) _
  | case4 done c cs front binding token hsome hboundary ih =>
      obtain ⟨⟨rest, hfront, hsite⟩, hbefore⟩ := siteAt?_of_firstMatch?_eq_some hsome
      obtain ⟨-, hbinding, hne, ht, back, rfl, hmaximal⟩ := eq_of_siteAt? hsite
      have htext : c :: cs = (front ++ (binding ++ '.' :: token)) ++ back := by
        rw [hfront, ← List.append_assoc]
      have hdrop : (c :: cs).drop (front ++ (binding ++ '.' :: token)).length = back := by
        rw [htext, List.drop_left]
      have hoccurs : Occurs bindings (done ++ front) binding token back :=
        ⟨hbinding, Bool.eq_false_iff.mpr hboundary, hne, ht, hmaximal⟩
      have hstands : Stands (· ∈ bindings) version (done ++ c :: cs)
          (.covering version (done ++ front) binding token) :=
        stands_of_occurs (by rw [htext]; simp only [List.append_assoc]) hoccurs
      have hstop : (Site.covering version (done ++ front) binding token).stop =
          byteLength (done ++ (front ++ (binding ++ '.' :: token))) := by
        rw [← List.append_assoc, byteLength_append (done ++ front)]
        rfl
      rw [hdrop, List.append_assoc, ← htext] at ih
      rw [hdrop]
      refine .next hstands ?_ (fun v hv hle => ?_) (hstop ▸ ih)
      · simp only [Site.covering, byteLength_append]
        omega
      · obtain ⟨m, x, hrest, hx, hstart, hmatch, -⟩ := hv.exists_match hle
        have hlen : front.length ≤ m.length := by
          by_contra hlt
          exact hmatch (hbefore m x hrest hx (Nat.lt_of_not_le hlt))
        have htake : (m ++ x).take front.length = front := by
          rw [← hrest, hfront, List.take_left]
        have hbytes := byteLength_take_le (x := x) hlen
        rw [htake] at hbytes
        simp only [Site.covering, hstart, byteLength_append]
        exact Nat.add_le_add_left hbytes _

/-- The search finds what a scan reports, if no binding has a full stop in it. -/
theorem search_eq_sites (hb : ∀ b ∈ bindings, '.' ∉ b) (text : List Char) :
    search bindings version text = sites bindings version text :=
  Selects.unique (fun _ _ hu hv => hu.unique hb hv) (selects_searchFrom [] text)
    (selects_sites bindings version text)

/-! ### Scanners -/

/-- A list of names asks for the bindings that its entries are, once trimmed, if they are identifiers,
and for the default one if none is. -/
def Asked (names : List String) (b : List Char) : Prop :=
  (∃ n ∈ names, (trim n).toList = b ∧ isIdentifier b = true) ∨
    (b = defaultBinding.toList ∧ ∀ n ∈ names, isIdentifier (trim n).toList = false)

/-- The bindings of a list of names are those that it asks for. -/
theorem mem_bindingsOf_iff_asked {names : List String} {b : List Char} :
    b ∈ (bindingsOf names).map String.toList ↔ Asked names b := by
  have hmem : ∀ n, n ∈ identifiers names ↔
      (∃ m ∈ names, trim m = n) ∧ isIdentifier n.toList = true := fun n => by
    rw [mem_identifiers_iff, List.mem_map]
  unfold bindingsOf Asked
  split
  · rename_i hnil
    have hnone : ∀ n ∈ names, isIdentifier (trim n).toList = false := by
      intro n hn
      by_contra hid
      have := (hmem (trim n)).mpr ⟨⟨n, hn, rfl⟩, by simpa using hid⟩
      rw [hnil] at this
      cases this
    constructor
    · intro hb
      exact .inr ⟨by simpa using hb, hnone⟩
    · rintro (⟨n, hn, rfl, hid⟩ | ⟨rfl, -⟩)
      · rw [hnone n hn] at hid
        cases hid
      · simp
  · rename_i kept hkept
    simp only [List.mem_map, hmem]
    constructor
    · rintro ⟨n, ⟨⟨m, hm, rfl⟩, hid⟩, rfl⟩
      exact .inl ⟨m, hm, rfl, hid⟩
    · rintro (⟨n, hn, rfl, hid⟩ | ⟨rfl, hnone⟩)
      · exact ⟨trim n, ⟨⟨n, hn, rfl⟩, hid⟩, rfl⟩
      · -- one of the entries is an identifier, as something is kept
        obtain ⟨n, hn⟩ := List.exists_mem_of_ne_nil _ hkept
        obtain ⟨⟨m, hm, rfl⟩, hid⟩ := (hmem n).mp hn
        rw [hnone m hm] at hid
        cases hid

theorem dot_not_mem_of_asked {names : List String} {b : List Char} (h : Asked names b) : '.' ∉ b := by
  rw [← mem_bindingsOf_iff_asked] at h
  obtain ⟨n, hn, rfl⟩ := List.mem_map.mp h
  intro hdot
  have := isIdentifierChar_of_mem (isIdentifier_of_mem_bindingsOf hn) hdot
  exact absurd this (by decide)

/-- A scanner for a list of names reports the selection of the usages of the bindings that the list
asks for: the first one that stands in the text, then the first one that begins at its end or later,
and so on.  A search for the pattern finds the same ones.  They do not overlap and come in the order
of the text, and lists that ask for the same bindings have the same usages. -/
theorem selects_scan (names : List String) (version : Int) (text : String) :
    (∀ us, us = (Scanner.ofList names).scan version text ↔
        Selects (Stands (Asked names) version text.toList) 0 us) ∧
      (Scanner.ofList names).scan version text =
        search ((bindingsOf names).map String.toList) version text.toList ∧
      ((Scanner.ofList names).scan version text).Pairwise (fun u v => u.stop ≤ v.start) ∧
      (∀ u ∈ (Scanner.ofList names).scan version text, u.start < u.stop ∧ u.version = version) ∧
      ∀ others, (∀ b, Asked others b ↔ Asked names b) →
        (Scanner.ofList others).scan version text = (Scanner.ofList names).scan version text := by
  have hselects : ∀ names, Selects (Stands (Asked names) version text.toList) 0
      ((Scanner.ofList names).scan version text) := by
    intro names
    have h := selects_sites ((bindingsOf names).map String.toList) version text.toList
    have hasked : (· ∈ (bindingsOf names).map String.toList) = Asked names :=
      funext fun b => propext mem_bindingsOf_iff_asked
    rwa [hasked] at h
  have hunique : ∀ {us vs}, Selects (Stands (Asked names) version text.toList) 0 us →
      Selects (Stands (Asked names) version text.toList) 0 vs → us = vs :=
    Selects.unique fun u v hu hv => hu.unique (fun b => dot_not_mem_of_asked) hv
  have hall := (hselects names).pairwise fun u hu => hu.stop_le.1
  refine ⟨fun us => ⟨fun h => h ▸ hselects names, fun h => hunique h (hselects names)⟩, ?_, hall.2,
    fun u hu => ⟨(hall.1 u hu).1.stop_le.1, ?_⟩, fun others hsame => ?_⟩
  · refine (search_eq_sites (fun b hb => ?_) _).symm
    exact dot_not_mem_of_asked (mem_bindingsOf_iff_asked.mp hb)
  · obtain ⟨_, _, _, _, -, -, -, -, -, -, rfl⟩ := (hall.1 u hu).1
    rfl
  · have hasked : Asked others = Asked names := funext fun b => propext (hsame b)
    exact hunique (hasked ▸ hselects others) (hselects names)

/-- Neither order nor repetition of the names matters, nor that one of them is the end of another one;
what is no identifier is passed over. -/
theorem scan_of_reordered :
    let text := "é$s.a s.b-s.c"
    (∀ b, Asked ["$s", " s ", "1", "s"] b ↔ Asked ["s", "$s"] b) ∧
      (Scanner.ofList ["$s", " s ", "1", "s"]).scan 3 text =
        [⟨"a", 2, 6, 3⟩, ⟨"b-s", 7, 12, 3⟩] ∧
      (Scanner.ofList ["$s", " s ", "1", "s"]).scan 3 text = (Scanner.ofList ["s", "$s"]).scan 3 text := by
  intro text
  have hsame : ∀ b, Asked ["$s", " s ", "1", "s"] b ↔ Asked ["s", "$s"] b := by
    intro b
    rw [← mem_bindingsOf_iff_asked, ← mem_bindingsOf_iff_asked]
    have h : bindingsOf ["$s", " s ", "1", "s"] = ["$s", "s"] := by decide
    have h' : bindingsOf ["s", "$s"] = ["s", "$s"] := by decide
    rw [h, h']
    simp [or_comm]
  exact ⟨hsame, by decide, (selects_scan ["s", "$s"] 3 text).2.2.2.2 _ hsame⟩

end ClassLens.Usage
