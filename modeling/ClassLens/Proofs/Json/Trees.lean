import ClassLens.Json.Draft
import ClassLens.Proofs.Json.Layout

/-! # Trees and the texts that spell them

A draft in which nothing is broken is a tree, and it is the tree that the text spells.

* `Tree`, `Tree.symbols`: JSON syntax trees, and the symbols that show one.
* `Spells v t`: the text `t` spells the tree `v`, laid out with any white space.
* `Draft.tree?`: the tree of a draft.

The readers of a draft follow the symbols from the left.  Both directions are proved reader by reader:
`Draft.read_symbols` and its companions go by the tree, `Draft.shows_of_read` and its companions by the
fuel that the readers spend.

**Main statements.** `Source.ofString_iff`: a text spells a tree if and only if its draft is that tree
and nothing follows.  `Draft.skip_eq_ok_iff`: what can be passed over is a tree. -/

namespace ClassLens.Json

/-- A JSON syntax tree.  The members of an object stand in the order of the text. -/
inductive Tree where
  | null
  | bool (value : Bool)
  | number (value : Number)
  /-- A string; none if it names half of a surrogate pair alone. -/
  | string (chars : Option String)
  | list (items : List Tree)
  | object (members : List (Option String × Tree))

mutual
/-- The symbols that show a tree. -/
def Tree.symbols : Tree → List Symbol
  | .null => [.null]
  | .bool b => [.bool b]
  | .number n => [.number n]
  | .string chars => [.string chars]
  | .list vs => .openList :: itemsInside vs
  | .object ms => .openObject :: membersInside ms

/-- The symbols of a list after its opening bracket. -/
def itemsInside : List Tree → List Symbol
  | [] => [.closeList]
  | v :: vs => v.symbols ++ itemsAfter vs

/-- The symbols of a list after an item. -/
def itemsAfter : List Tree → List Symbol
  | [] => [.closeList]
  | v :: vs => .comma :: (v.symbols ++ itemsAfter vs)

/-- The symbols of an object after its opening brace. -/
def membersInside : List (Option String × Tree) → List Symbol
  | [] => [.closeObject]
  | (name, v) :: ms => .string name :: .colon :: (v.symbols ++ membersAfter ms)

/-- The symbols of an object after a member. -/
def membersAfter : List (Option String × Tree) → List Symbol
  | [] => [.closeObject]
  | (name, v) :: ms => .comma :: .string name :: .colon :: (v.symbols ++ membersAfter ms)
end

/-- The text spells the tree. -/
def Spells (v : Tree) (t : List Char) : Prop :=
  Laid v.symbols t

mutual
/-- The tree of a draft, if nothing in it is broken. -/
def Draft.tree? : Draft → Option Tree
  | .null => some .null
  | .bool b => some (.bool b)
  | .number n => some (.number n)
  | .string chars => some (.string chars.toOption)
  | .list items => items.trees?.map .list
  | .object members => members.members?.map .object
  | .broken _ _ => none

/-- The trees of the items of a list. -/
def Items.trees? : Items → Option (List Tree)
  | .close => some []
  | .cut _ | .dangling => none
  | .item value rest =>
    match value.tree?, rest.trees? with
    | some v, some vs => some (v :: vs)
    | _, _ => none

/-- The names and the trees of the members of an object. -/
def Members.members? : Members → Option (List (Option String × Tree))
  | .close => some []
  | .cut _ _ => none
  | .member name value rest =>
    match value.tree?, rest.members? with
    | some v, some ms => some ((name.toOption, v) :: ms)
    | _, _ => none
end

theorem Items.trees?_item {value : Draft} {rest : Items} {vs : List Tree} :
    (Items.item value rest).trees? = some vs ↔
      ∃ v ws, value.tree? = some v ∧ rest.trees? = some ws ∧ v :: ws = vs := by
  rw [Items.trees?]
  cases value.tree? <;> cases rest.trees? <;> simp

theorem Members.members?_member {name : Except Fault String} {value : Draft} {rest : Members}
    {ms : List (Option String × Tree)} :
    (Members.member name value rest).members? = some ms ↔
      ∃ v ns, value.tree? = some v ∧ rest.members? = some ns ∧ (name.toOption, v) :: ns = ms := by
  rw [Members.members?]
  cases value.tree? <;> cases rest.members? <;> simp

theorem Items.trees?_eq_nil {items : Items} : items.trees? = some [] ↔ items = .close := by
  cases items with
  | close => exact ⟨fun _ => rfl, fun _ => rfl⟩
  | cut | dangling => simp [Items.trees?]
  | item => simp [Items.trees?_item]

theorem Items.trees?_eq_cons {items : Items} {v : Tree} {vs : List Tree} :
    items.trees? = some (v :: vs) ↔
      ∃ value rest, items = .item value rest ∧ value.tree? = some v ∧ rest.trees? = some vs := by
  cases items with
  | close | cut | dangling => simp [Items.trees?]
  | item => simp [Items.trees?_item]

theorem Items.trees?_eq_singleton {items : Items} {v : Tree} :
    items.trees? = some [v] ↔ ∃ value, items = .item value .close ∧ value.tree? = some v := by
  rw [Items.trees?_eq_cons]
  constructor
  · rintro ⟨value, rest, rfl, hv, hrest⟩
    exact ⟨value, by rw [Items.trees?_eq_nil.mp hrest], hv⟩
  · rintro ⟨value, rfl, hv⟩
    exact ⟨value, .close, rfl, hv, rfl⟩

theorem Items.trees?_eq_pair {items : Items} {v w : Tree} :
    items.trees? = some [v, w] ↔ ∃ value value', items = .item value (.item value' .close) ∧
      value.tree? = some v ∧ value'.tree? = some w := by
  rw [Items.trees?_eq_cons]
  constructor
  · rintro ⟨value, rest, rfl, hv, hrest⟩
    obtain ⟨value', rfl, hw⟩ := Items.trees?_eq_singleton.mp hrest
    exact ⟨value, value', rfl, hv, hw⟩
  · rintro ⟨value, value', rfl, hv, hw⟩
    exact ⟨value, _, rfl, hv, Items.trees?_eq_singleton.mpr ⟨value', rfl, hw⟩⟩

theorem Draft.tree?_list {items : Items} {v : Tree} :
    (Draft.list items).tree? = some v ↔ ∃ vs, items.trees? = some vs ∧ .list vs = v := by
  rw [Draft.tree?, Option.map_eq_some_iff]

theorem Draft.tree?_object {members : Members} {v : Tree} :
    (Draft.object members).tree? = some v ↔ ∃ ms, members.members? = some ms ∧ .object ms = v := by
  rw [Draft.tree?, Option.map_eq_some_iff]

theorem Draft.eq_list_of_tree? {d : Draft} {vs : List Tree} (h : d.tree? = some (.list vs)) :
    ∃ items, d = .list items ∧ items.trees? = some vs := by
  cases d with
  | list items =>
      obtain ⟨ws, hws, heq⟩ := Draft.tree?_list.mp h
      cases heq
      exact ⟨items, rfl, hws⟩
  | null | bool | number | string | object | broken => simp [Draft.tree?] at h

/-! ### The symbols of a tree -/

theorem Tree.symbols_head (v : Tree) : ∃ k ks, v.symbols = k :: ks ∧ k.closes = false := by
  cases v <;> exact ⟨_, _, rfl, rfl⟩

theorem closes_itemsAfter (vs : List Tree) (ks : List Symbol) :
    ∀ k ∈ (itemsAfter vs ++ ks).head?, k.closes = true := by
  cases vs <;> rintro k ⟨⟩ <;> rfl

theorem closes_membersAfter (ms : List (Option String × Tree)) (ks : List Symbol) :
    ∀ k ∈ (membersAfter ms ++ ks).head?, k.closes = true := by
  cases ms <;> rintro k ⟨⟩ <;> rfl

theorem isChain_cons {k : Symbol} {ks : List Symbol} (hk : k.isNumber = false) (h : ks.IsChain Apart) :
    (k :: ks).IsChain Apart := by
  cases ks with
  | nil => exact List.isChain_singleton k
  | cons l ls => exact List.isChain_cons_cons.mpr ⟨fun hn => absurd (hk.symm.trans hn) (by decide), h⟩

mutual
/-- The symbols of a tree can be told apart, before what may follow a value. -/
theorem Tree.isChain_symbols : ∀ (v : Tree) {ks : List Symbol}, ks.IsChain Apart →
    (∀ k ∈ ks.head?, k.closes = true) → (v.symbols ++ ks).IsChain Apart
  | .null, _, h, _ | .bool _, _, h, _ | .string _, _, h, _ => isChain_cons rfl h
  | .number n, ks, h, hhead => by
      cases ks with
      | nil => exact List.isChain_singleton _
      | cons k ks => exact List.isChain_cons_cons.mpr ⟨fun _ => hhead k rfl, h⟩
  | .list vs, _, h, _ => isChain_cons rfl (isChain_itemsInside vs h)
  | .object ms, _, h, _ => isChain_cons rfl (isChain_membersInside ms h)

theorem isChain_itemsInside : ∀ (vs : List Tree) {ks : List Symbol}, ks.IsChain Apart →
    (itemsInside vs ++ ks).IsChain Apart
  | [], _, h => isChain_cons rfl h
  | v :: vs, ks, h => by
      rw [itemsInside, List.append_assoc]
      exact v.isChain_symbols (isChain_itemsAfter vs h) (closes_itemsAfter vs ks)

theorem isChain_itemsAfter : ∀ (vs : List Tree) {ks : List Symbol}, ks.IsChain Apart →
    (itemsAfter vs ++ ks).IsChain Apart
  | [], _, h => isChain_cons rfl h
  | v :: vs, ks, h => by
      rw [itemsAfter, List.cons_append, List.append_assoc]
      exact isChain_cons rfl (v.isChain_symbols (isChain_itemsAfter vs h) (closes_itemsAfter vs ks))

theorem isChain_membersInside : ∀ (ms : List (Option String × Tree)) {ks : List Symbol},
    ks.IsChain Apart → (membersInside ms ++ ks).IsChain Apart
  | [], _, h => isChain_cons rfl h
  | (name, v) :: ms, ks, h => by
      rw [membersInside, List.cons_append, List.cons_append, List.append_assoc]
      exact isChain_cons rfl (isChain_cons rfl
        (v.isChain_symbols (isChain_membersAfter ms h) (closes_membersAfter ms ks)))

theorem isChain_membersAfter : ∀ (ms : List (Option String × Tree)) {ks : List Symbol},
    ks.IsChain Apart → (membersAfter ms ++ ks).IsChain Apart
  | [], _, h => isChain_cons rfl h
  | (name, v) :: ms, ks, h => by
      rw [membersAfter, List.cons_append, List.cons_append, List.cons_append, List.append_assoc]
      exact isChain_cons rfl (isChain_cons rfl (isChain_cons rfl
        (v.isChain_symbols (isChain_membersAfter ms h) (closes_membersAfter ms ks))))
end

theorem itemsAfter_getLast? (vs : List Tree) : (itemsAfter vs).getLast? = some .closeList := by
  induction vs with
  | nil => rfl
  | cons v vs ih => rw [itemsAfter, ← List.cons_append, List.getLast?_append, ih]; rfl

theorem membersAfter_getLast? (ms : List (Option String × Tree)) :
    (membersAfter ms).getLast? = some .closeObject := by
  induction ms with
  | nil => rfl
  | cons m ms ih =>
      rw [membersAfter, ← List.cons_append, ← List.cons_append, ← List.cons_append,
        List.getLast?_append, ih]
      rfl

/-- Only a number ends with a number. -/
theorem Tree.symbols_getLast? (v : Tree) {k : Symbol} (h : v.symbols.getLast? = some k)
    (hk : k.isNumber = true) : ∃ n, v = .number n := by
  cases v with
  | number n => exact ⟨n, rfl⟩
  | null | bool | string =>
      cases h
      cases hk
  | list vs =>
      have hlast : (Tree.list vs).symbols.getLast? = some .closeList := by
        cases vs with
        | nil => rfl
        | cons v vs =>
            rw [Tree.symbols, itemsInside, ← List.cons_append, List.getLast?_append,
              itemsAfter_getLast?]
            rfl
      rw [hlast] at h
      cases h
      cases hk
  | object ms =>
      have hlast : (Tree.object ms).symbols.getLast? = some .closeObject := by
        cases ms with
        | nil => rfl
        | cons m ms =>
            rw [Tree.symbols, membersInside, ← List.cons_append, ← List.cons_append,
              ← List.cons_append, List.getLast?_append, membersAfter_getLast?]
            rfl
      rw [hlast] at h
      cases h
      cases hk

/-! ### What is shown is read -/

/-- Tokens that say the same are the same, strings that name half of a surrogate pair apart. -/
theorem Token.eq_of_symbol? {t u : Token} {k : Symbol} (ht : t.symbol? = some k)
    (hu : u.symbol? = some k) (hk : ∀ chars, k ≠ .string chars) : t = u := by
  cases t <;> cases ht <;> cases u <;> simp_all [Token.symbol?]

theorem Token.eq_string {t : Token} {chars : Option String} (h : t.symbol? = some (.string chars)) :
    ∃ r : Except Fault String, t = .string r ∧ r.toOption = chars := by
  cases t with
  | string r =>
      cases h
      exact ⟨r, rfl, rfl⟩
  | openObject | closeObject | openList | closeList | comma | colon | null | bool | number | broken |
    brokenString => cases h

/-- A token pays for three calls. -/
theorem fuel_cons {n fuel : Nat} (h : 3 * (n + 1) ≤ fuel) : ∃ m, fuel = m + 3 ∧ 3 * n ≤ m :=
  ⟨fuel - 3, by omega, by omega⟩

section readers

variable {fuel : Nat} {t : Token} {ts us rest : List Token}

theorem Items.readFirst_of_ne (h : t ≠ .closeList) :
    Items.readFirst (fuel + 1) (t :: ts) = Items.readItem fuel (t :: ts) := by
  rw [Items.readFirst]
  exact h

theorem Items.readNext_of_ne (h : t ≠ .closeList) :
    Items.readNext (fuel + 1) (.comma :: t :: ts) = Items.readItem fuel (t :: ts) := by
  rw [Items.readNext]
  all_goals simp [h]

theorem Items.readItem_eq {value : Draft} {items : Items} (hv : Draft.read fuel ts = (value, us))
    (hi : Items.readNext fuel us = (items, rest)) :
    Items.readItem (fuel + 1) ts = (.item value items, rest) := by
  rw [Items.readItem, hv]
  simp only [hi]

theorem Members.readFirst_of_ne (h : ∀ us, ts ≠ .closeObject :: us) :
    Members.readFirst (fuel + 1) ts = Members.readMember fuel ts := by
  rw [Members.readFirst]
  exact h

theorem Members.readMember_eq {name : Except Fault String} {value : Draft} {members : Members}
    (hv : Draft.read fuel ts = (value, us)) (hm : Members.readNext fuel us = (members, rest)) :
    Members.readMember (fuel + 1) (.string name :: .colon :: ts) = (.member name value members, rest) := by
  rw [Members.readMember]
  simp only [hv, hm]

/-- The first token of a value closes no list. -/
theorem Shows.value_head {v : Tree} {ks : List Symbol} (h : Shows ts (v.symbols ++ ks)) :
    ∃ t us, ts = t :: us ∧ t ≠ .closeList := by
  obtain ⟨k, ls, heq, hk⟩ := v.symbols_head
  rw [heq, List.cons_append] at h
  obtain ⟨t, us, rfl, ht, -⟩ := shows_cons_iff.mp h
  refine ⟨t, us, rfl, ?_⟩
  rintro rfl
  cases ht
  cases hk

theorem Shows.name_head {name : Option String} {ks : List Symbol}
    (h : Shows ts (.string name :: ks)) : ∃ r us, ts = .string r :: us := by
  obtain ⟨t, us, rfl, ht, -⟩ := shows_cons_iff.mp h
  obtain ⟨r, rfl, -⟩ := Token.eq_string ht
  exact ⟨r, us, rfl⟩

theorem Shows.length_symbols {v : Tree} (h : Shows ts v.symbols) : 0 < ts.length := by
  obtain ⟨k, ks, heq, -⟩ := v.symbols_head
  rw [h.length_eq, heq]
  exact Nat.succ_pos _

theorem Shows.length_itemsAfter {vs : List Tree} (h : Shows ts (itemsAfter vs)) : 0 < ts.length := by
  rw [h.length_eq]
  cases vs <;> exact Nat.succ_pos _

end readers

/-- A reader finds the value `b` again in the symbols `ks`, whatever comes after them. -/
def ReadsBack {α β : Type} (read : Nat → List Token → α × List Token) (value? : α → Option β)
    (ks : List Symbol) (b : β) : Prop :=
  ∀ (fuel : Nat) (ts rest : List Token), Shows ts ks → 3 * ts.length ≤ fuel →
    ∃ a, read fuel (ts ++ rest) = (a, rest) ∧ value? a = some b

theorem Items.readItem_symbols {v : Tree} {vs : List Tree}
    (hv : ReadsBack Draft.read Draft.tree? v.symbols v)
    (hvs : ReadsBack Items.readNext Items.trees? (itemsAfter vs) vs) {fuel : Nat} {ts : List Token}
    (rest : List Token) (h : Shows ts (v.symbols ++ itemsAfter vs)) (hfuel : 3 * ts.length ≤ fuel + 2) :
    ∃ items, Items.readItem fuel (ts ++ rest) = (items, rest) ∧ items.trees? = some (v :: vs) := by
  obtain ⟨us, ws, rfl, hus, hws⟩ := shows_append_iff.mp h
  have hvalue : 0 < us.length := hus.length_symbols
  have hafter : 0 < ws.length := hws.length_itemsAfter
  rw [List.length_append] at hfuel
  obtain ⟨m, rfl⟩ : ∃ m, fuel = m + 1 := ⟨fuel - 1, by omega⟩
  obtain ⟨d, hd, htree⟩ := hv _ _ (ws ++ rest) hus (show 3 * us.length ≤ m by omega)
  obtain ⟨items, hitems, htrees⟩ := hvs _ _ rest hws (show 3 * ws.length ≤ m by omega)
  refine ⟨.item d items, ?_, ?_⟩
  · rw [List.append_assoc]
    exact Items.readItem_eq hd hitems
  · exact Items.trees?_item.mpr ⟨v, vs, htree, htrees, rfl⟩

theorem Members.readMember_symbols {name : Option String} {v : Tree}
    {ms : List (Option String × Tree)} (hv : ReadsBack Draft.read Draft.tree? v.symbols v)
    (hms : ReadsBack Members.readNext Members.members? (membersAfter ms) ms) {fuel : Nat}
    {ts : List Token} (rest : List Token)
    (h : Shows ts (.string name :: .colon :: (v.symbols ++ membersAfter ms)))
    (hfuel : 3 * ts.length ≤ fuel + 2) :
    ∃ members, Members.readMember fuel (ts ++ rest) = (members, rest) ∧
      members.members? = some ((name, v) :: ms) := by
  obtain ⟨t, us, rfl, ht, hus⟩ := shows_cons_iff.mp h
  obtain ⟨r, rfl, rfl⟩ := Token.eq_string ht
  obtain ⟨t, us, rfl, hcolon, hvalue⟩ := shows_cons_iff.mp hus
  obtain rfl : t = .colon := Token.eq_of_symbol? hcolon rfl (by simp)
  obtain ⟨us, ws, rfl, hus, hws⟩ := shows_append_iff.mp hvalue
  rw [List.length_cons, List.length_cons, List.length_append] at hfuel
  obtain ⟨m, rfl⟩ : ∃ m, fuel = m + 1 := ⟨fuel - 1, by omega⟩
  obtain ⟨d, hd, htree⟩ := hv _ _ (ws ++ rest) hus (show 3 * us.length ≤ m by omega)
  obtain ⟨members, hmembers, hnames⟩ := hms _ _ rest hws (show 3 * ws.length ≤ m by omega)
  refine ⟨.member r d members, ?_, ?_⟩
  · rw [List.cons_append, List.cons_append, List.append_assoc]
    exact Members.readMember_eq hd hmembers
  · exact Members.members?_member.mpr ⟨v, ms, htree, hnames, rfl⟩

/-- A symbol of which the reader makes a value at once. -/
theorem ReadsBack.of_token {α β : Type} {read : Nat → List Token → α × List Token}
    {value? : α → Option β} {k : Symbol} {a : α} {b : β} (t : Token) (ht : t.symbol? = some k)
    (hk : ∀ chars, k ≠ .string chars) (hread : ∀ fuel rest, read (fuel + 1) (t :: rest) = (a, rest))
    (ha : value? a = some b) : ReadsBack read value? [k] b := by
  intro fuel ts rest h hfuel
  obtain ⟨u, rfl, hu⟩ := shows_singleton_iff.mp h
  obtain rfl : u = t := Token.eq_of_symbol? hu ht hk
  obtain ⟨m, rfl, -⟩ := fuel_cons hfuel
  exact ⟨a, hread _ rest, ha⟩

mutual
/-- The symbols of a tree are read back. -/
theorem Draft.read_symbols : ∀ v : Tree, ReadsBack Draft.read Draft.tree? v.symbols v
  | .null => .of_token .null rfl (by simp) (fun _ _ => rfl) rfl
  | .bool b => .of_token (.bool b) rfl (by simp) (fun _ _ => rfl) rfl
  | .number n => .of_token (.number n) rfl (by simp) (fun _ _ => rfl) rfl
  | .string chars => by
      intro fuel ts rest h hfuel
      obtain ⟨t, rfl, ht⟩ := shows_singleton_iff.mp h
      obtain ⟨r, rfl, rfl⟩ := Token.eq_string ht
      obtain ⟨m, rfl, -⟩ := fuel_cons hfuel
      exact ⟨.string r, rfl, rfl⟩
  | .list vs => by
      intro fuel ts rest h hfuel
      obtain ⟨t, us, rfl, ht, hus⟩ := shows_cons_iff.mp h
      obtain rfl : t = .openList := Token.eq_of_symbol? ht rfl (by simp)
      obtain ⟨m, rfl, hm⟩ := fuel_cons hfuel
      obtain ⟨items, hread, htrees⟩ :=
        Items.readFirst_symbols vs _ _ rest hus (show 3 * us.length ≤ m + 2 by omega)
      refine ⟨.list items, ?_, Draft.tree?_list.mpr ⟨vs, htrees, rfl⟩⟩
      simp only [List.cons_append, Draft.read, hread]
  | .object ms => by
      intro fuel ts rest h hfuel
      obtain ⟨t, us, rfl, ht, hus⟩ := shows_cons_iff.mp h
      obtain rfl : t = .openObject := Token.eq_of_symbol? ht rfl (by simp)
      obtain ⟨m, rfl, hm⟩ := fuel_cons hfuel
      obtain ⟨members, hread, hmembers⟩ :=
        Members.readFirst_symbols ms _ _ rest hus (show 3 * us.length ≤ m + 2 by omega)
      refine ⟨.object members, ?_, Draft.tree?_object.mpr ⟨ms, hmembers, rfl⟩⟩
      simp only [List.cons_append, Draft.read, hread]

theorem Items.readFirst_symbols : ∀ vs : List Tree,
    ReadsBack Items.readFirst Items.trees? (itemsInside vs) vs
  | [] => .of_token .closeList rfl (by simp) (fun _ _ => rfl) rfl
  | v :: vs => by
      intro fuel ts rest h hfuel
      obtain ⟨t, us, rfl, ht⟩ := h.value_head
      obtain ⟨m, rfl, hm⟩ := fuel_cons hfuel
      obtain ⟨items, hread, htrees⟩ :=
        Items.readItem_symbols (Draft.read_symbols v) (Items.readNext_symbols vs) rest h
          (show 3 * (us.length + 1) ≤ m + 2 + 2 by omega)
      exact ⟨items, (Items.readFirst_of_ne ht).trans hread, htrees⟩

theorem Items.readNext_symbols : ∀ vs : List Tree,
    ReadsBack Items.readNext Items.trees? (itemsAfter vs) vs
  | [] => .of_token .closeList rfl (by simp) (fun _ _ => rfl) rfl
  | v :: vs => by
      intro fuel ts rest h hfuel
      obtain ⟨t, us, rfl, ht, hus⟩ := shows_cons_iff.mp h
      obtain rfl : t = .comma := Token.eq_of_symbol? ht rfl (by simp)
      obtain ⟨m, rfl, hm⟩ := fuel_cons hfuel
      obtain ⟨items, hread, htrees⟩ :=
        Items.readItem_symbols (Draft.read_symbols v) (Items.readNext_symbols vs) rest hus
          (show 3 * us.length ≤ m + 2 + 2 by omega)
      obtain ⟨t, us, rfl, ht⟩ := hus.value_head
      exact ⟨items, (Items.readNext_of_ne ht).trans hread, htrees⟩

theorem Members.readFirst_symbols : ∀ ms : List (Option String × Tree),
    ReadsBack Members.readFirst Members.members? (membersInside ms) ms
  | [] => .of_token .closeObject rfl (by simp) (fun _ _ => rfl) rfl
  | (name, v) :: ms => by
      intro fuel ts rest h hfuel
      obtain ⟨r, us, rfl⟩ := h.name_head
      obtain ⟨m, rfl, hm⟩ := fuel_cons hfuel
      exact Members.readMember_symbols (Draft.read_symbols v) (Members.readNext_symbols ms) rest h
        (show 3 * (us.length + 1) ≤ m + 2 + 2 by omega)

theorem Members.readNext_symbols : ∀ ms : List (Option String × Tree),
    ReadsBack Members.readNext Members.members? (membersAfter ms) ms
  | [] => .of_token .closeObject rfl (by simp) (fun _ _ => rfl) rfl
  | (name, v) :: ms => by
      intro fuel ts rest h hfuel
      obtain ⟨t, us, rfl, ht, hus⟩ := shows_cons_iff.mp h
      obtain rfl : t = .comma := Token.eq_of_symbol? ht rfl (by simp)
      obtain ⟨m, rfl, hm⟩ := fuel_cons hfuel
      exact Members.readMember_symbols (Draft.read_symbols v) (Members.readNext_symbols ms) rest hus
        (show 3 * us.length ≤ m + 2 + 2 by omega)
end

/-! ### What is read is shown -/

/-- After its name a member is a value behind a colon, if there is a value, and more members. -/
theorem Members.readMember_string {fuel : Nat} {name : Except Fault String} {ts rest : List Token}
    {members : Members} (h : Members.readMember (fuel + 1) (.string name :: ts) = (members, rest)) :
    ∃ d us members',
      (∀ v, d.tree? = some v → ∃ ws, ts = .colon :: ws ∧ Draft.read fuel ws = (d, us)) ∧
      Members.readNext fuel us = (members', rest) ∧ .member name d members' = members := by
  have hmember : ∀ d us, (Members.member name d (Members.readNext fuel us).1,
      (Members.readNext fuel us).2) = (members, rest) →
      ∃ members', Members.readNext fuel us = (members', rest) ∧ .member name d members' = members := by
    intro d us h
    cases h
    exact ⟨_, rfl, rfl⟩
  cases ts with
  | nil =>
      obtain ⟨members', hnext, rfl⟩ := hmember (.broken .truncated .truncated) [] h
      exact ⟨_, _, members', by rintro v ⟨⟩, hnext, rfl⟩
  | cons t ts =>
      cases t with
      | colon =>
          obtain ⟨members', hnext, rfl⟩ := hmember (Draft.read fuel ts).1 (Draft.read fuel ts).2 h
          exact ⟨_, _, members', fun _ _ => ⟨ts, rfl, rfl⟩, hnext, rfl⟩
      | openObject | closeObject | openList | closeList | comma | null | bool | number | string |
        broken | brokenString =>
          obtain ⟨members', hnext, rfl⟩ := hmember (.broken .malformed .malformed) ts h
          exact ⟨_, _, members', by rintro v ⟨⟩, hnext, rfl⟩

/-- What a reader takes away are the symbols of the value that it finds. -/
def TakesAway {α β : Type} (read : List Token → α × List Token) (value? : α → Option β)
    (symbols : β → List Symbol) : Prop :=
  ∀ {ts rest : List Token} {a : α} {b : β}, read ts = (a, rest) → value? a = some b →
    ∃ front, ts = front ++ rest ∧ Shows front (symbols b)

mutual
/-- A tree that is read is shown by the tokens that were taken away. -/
theorem Draft.shows_of_read : ∀ fuel : Nat, TakesAway (Draft.read fuel) Draft.tree? Tree.symbols
  | 0, _, _, _, _, h, hv | _ + 1, [], _, _, _, h, hv => by
      cases h
      cases hv
  | fuel + 1, t :: ts, rest, d, v, h, hv => by
      cases t with
      | null | bool | number | string =>
          cases h
          cases hv
          exact ⟨[_], rfl, shows_singleton_iff.mpr ⟨_, rfl, rfl⟩⟩
      | openList =>
          rw [Draft.read] at h
          cases hread : Items.readFirst fuel ts with
          | mk items us =>
              simp only [hread] at h
              cases h
              obtain ⟨vs, hvs, rfl⟩ := Draft.tree?_list.mp hv
              obtain ⟨front, rfl, hfront⟩ := Items.shows_of_readFirst fuel hread hvs
              exact ⟨.openList :: front, rfl, hfront.cons rfl⟩
      | openObject =>
          rw [Draft.read] at h
          cases hread : Members.readFirst fuel ts with
          | mk members us =>
              simp only [hread] at h
              cases h
              obtain ⟨ms, hms, rfl⟩ := Draft.tree?_object.mp hv
              obtain ⟨front, rfl, hfront⟩ := Members.shows_of_readFirst fuel hread hms
              exact ⟨.openObject :: front, rfl, hfront.cons rfl⟩
      | closeObject | closeList | comma | colon | broken | brokenString =>
          cases h
          cases hv

theorem Items.shows_of_readFirst : ∀ fuel : Nat,
    TakesAway (Items.readFirst fuel) Items.trees? itemsInside
  | 0, _, _, _, _, h, hv | _ + 1, [], _, _, _, h, hv => by
      cases h
      cases hv
  | fuel + 1, t :: ts, rest, items, vs, h, hv => by
      by_cases ht : t = .closeList
      · subst ht
        cases h
        cases hv
        exact ⟨[.closeList], rfl, shows_singleton_iff.mpr ⟨_, rfl, rfl⟩⟩
      · rw [Items.readFirst_of_ne ht] at h
        obtain ⟨v, ws, rfl, front, hts, hfront⟩ := Items.shows_of_readItem fuel h hv
        exact ⟨front, hts, hfront⟩

theorem Items.shows_of_readItem : ∀ (fuel : Nat) {ts rest : List Token} {items : Items}
    {vs : List Tree}, Items.readItem fuel ts = (items, rest) → items.trees? = some vs →
      ∃ v ws, v :: ws = vs ∧ ∃ front, ts = front ++ rest ∧ Shows front (v.symbols ++ itemsAfter ws)
  | 0, _, _, _, _, h, hv => by
      cases h
      cases hv
  | fuel + 1, ts, rest, items, vs, h, hv => by
      rw [Items.readItem] at h
      cases hread : Draft.read fuel ts with
      | mk d us =>
          cases hnext : Items.readNext fuel us with
          | mk items' us' =>
              simp only [hread, hnext] at h
              cases h
              obtain ⟨v, ws, htree, htrees, rfl⟩ := Items.trees?_item.mp hv
              obtain ⟨front, rfl, hfront⟩ := Draft.shows_of_read fuel hread htree
              obtain ⟨front', rfl, hfront'⟩ := Items.shows_of_readNext fuel hnext htrees
              exact ⟨v, ws, rfl, front ++ front', (List.append_assoc _ _ _).symm, hfront.append hfront'⟩

theorem Items.shows_of_readNext : ∀ fuel : Nat, TakesAway (Items.readNext fuel) Items.trees? itemsAfter
  | 0, _, _, _, _, h, hv | _ + 1, [], _, _, _, h, hv => by
      cases h
      cases hv
  | fuel + 1, t :: ts, rest, items, vs, h, hv => by
      cases t with
      | closeList =>
          cases h
          cases hv
          exact ⟨[.closeList], rfl, shows_singleton_iff.mpr ⟨_, rfl, rfl⟩⟩
      | comma =>
          cases ts with
          | nil =>
              cases h
              cases hv
          | cons t ts =>
              by_cases ht : t = .closeList
              · subst ht
                cases h
                cases hv
              · rw [Items.readNext_of_ne ht] at h
                obtain ⟨v, ws, rfl, front, hts, hfront⟩ := Items.shows_of_readItem fuel h hv
                exact ⟨.comma :: front, by rw [hts]; rfl, hfront.cons rfl⟩
      | openObject | closeObject | openList | colon | null | bool | number | string | broken |
        brokenString =>
          cases h
          cases hv

theorem Members.shows_of_readFirst : ∀ fuel : Nat,
    TakesAway (Members.readFirst fuel) Members.members? membersInside
  | 0, _, _, _, _, h, hv => by
      cases h
      cases hv
  | fuel + 1, ts, rest, members, ms, h, hv => by
      by_cases hclose : ∃ us, ts = .closeObject :: us
      · obtain ⟨us, rfl⟩ := hclose
        cases h
        cases hv
        exact ⟨[.closeObject], rfl, shows_singleton_iff.mpr ⟨_, rfl, rfl⟩⟩
      · rw [Members.readFirst_of_ne fun us hus => hclose ⟨us, hus⟩] at h
        obtain ⟨name, v, ns, rfl, front, hts, hfront⟩ := Members.shows_of_readMember fuel h hv
        exact ⟨front, hts, hfront⟩

theorem Members.shows_of_readMember : ∀ (fuel : Nat) {ts rest : List Token} {members : Members}
    {ms : List (Option String × Tree)}, Members.readMember fuel ts = (members, rest) →
      members.members? = some ms → ∃ name v ns, (name, v) :: ns = ms ∧
        ∃ front, ts = front ++ rest ∧
          Shows front (.string name :: .colon :: (v.symbols ++ membersAfter ns))
  | 0, _, _, _, _, h, hv | _ + 1, [], _, _, _, h, hv => by
      cases h
      cases hv
  | fuel + 1, t :: ts, rest, members, ms, h, hv => by
      cases t with
      | string name =>
          obtain ⟨d, us, members', hvalue, hnext, rfl⟩ := Members.readMember_string h
          obtain ⟨v, ns, htree, hmembers, rfl⟩ := Members.members?_member.mp hv
          obtain ⟨us', rfl, hread⟩ := hvalue v htree
          obtain ⟨front, rfl, hfront⟩ := Draft.shows_of_read fuel hread htree
          obtain ⟨front', rfl, hfront'⟩ := Members.shows_of_readNext fuel hnext hmembers
          exact ⟨_, v, ns, rfl, .string name :: .colon :: (front ++ front'),
            by simp, ((hfront.append hfront').cons rfl).cons rfl⟩
      | openObject | closeObject | openList | closeList | comma | colon | null | bool | number |
        broken | brokenString =>
          cases h
          cases hv

theorem Members.shows_of_readNext : ∀ fuel : Nat,
    TakesAway (Members.readNext fuel) Members.members? membersAfter
  | 0, _, _, _, _, h, hv | _ + 1, [], _, _, _, h, hv => by
      cases h
      cases hv
  | fuel + 1, t :: ts, rest, members, ms, h, hv => by
      cases t with
      | closeObject =>
          cases h
          cases hv
          exact ⟨[.closeObject], rfl, shows_singleton_iff.mpr ⟨_, rfl, rfl⟩⟩
      | comma =>
          obtain ⟨name, v, ns, rfl, front, hts, hfront⟩ := Members.shows_of_readMember fuel h hv
          exact ⟨.comma :: front, by rw [hts]; rfl, hfront.cons rfl⟩
      | openObject | openList | closeList | colon | null | bool | number | string | broken |
        brokenString =>
          cases h
          cases hv
end

/-! ### Texts -/

/-- A text that is spelled is read as its tree, and what comes after it is left; after a number nothing may
come that goes it on. -/
theorem Draft.ofTokens_of_spells {v : Tree} {t : List Char} (h : Spells v t) (after : List Char)
    (hafter : (∃ n, v = .number n) → EndsNumeral after) :
    ∃ d, Draft.ofTokens (tokens (t ++ after)) = (d, tokens after) ∧ d.tree? = some v := by
  have happart : v.symbols.IsChain Apart := by
    simpa using v.isChain_symbols List.IsChain.nil (by simp)
  obtain ⟨front, htokens, hfront⟩ := shows_tokens h happart after fun k hk hnumber =>
    hafter (v.symbols_getLast? hk hnumber)
  rw [htokens, Draft.ofTokens]
  exact Draft.read_symbols v _ _ (tokens after) hfront (by rw [List.length_append]; omega)

/-- A text spells a tree if and only if its draft is that tree and nothing follows. -/
theorem Source.ofString_iff {s : String} {v : Tree} :
    (∃ d, Source.ofString s = ⟨d, true⟩ ∧ d.tree? = some v) ↔ Spells v s.toList := by
  constructor
  · rintro ⟨d, hsource, htree⟩
    cases hread : Draft.ofTokens (tokens s.toList) with
    | mk d' rest =>
        rw [Source.ofString, hread] at hsource
        simp only [Source.mk.injEq, List.isEmpty_iff] at hsource
        obtain ⟨rfl, rfl⟩ := hsource
        obtain ⟨front, htokens, hfront⟩ := Draft.shows_of_read _ hread htree
        rw [List.append_nil] at htokens
        exact laid_of_shows (htokens ▸ hfront)
  · intro h
    obtain ⟨d, hread, htree⟩ := Draft.ofTokens_of_spells h [] (by rintro - c ⟨⟩)
    rw [List.append_nil] at hread
    exact ⟨d, by rw [Source.ofString, hread, tokens]; rfl, htree⟩

/-- A text spells one tree at most. -/
theorem Spells.unique {s : String} {v w : Tree} (hv : Spells v s.toList) (hw : Spells w s.toList) :
    v = w := by
  obtain ⟨d, hd, hdv⟩ := Source.ofString_iff.mpr hv
  obtain ⟨e, he, hew⟩ := Source.ofString_iff.mpr hw
  obtain rfl : d = e := congrArg Source.draft (hd.symm.trans he)
  exact Option.some.inj (hdv.symm.trans hew)

/-! ### Passing over -/

/-- Two things are passed over one after the other. -/
theorem skip_both {r r' : Except Fault Unit} {p q : Prop} (h : r = .ok () ↔ p) (h' : r' = .ok () ↔ q) :
    (match r with
      | .ok _ => r'
      | .error fault => .error fault) = .ok () ↔ p ∧ q := by
  cases r with
  | error fault => simpa using fun hp => absurd (h.mpr hp) (by simp)
  | ok => rw [← h, ← h']; simp

mutual
/-- What can be passed over is a tree. -/
theorem Draft.skip_eq_ok_iff : ∀ d : Draft, d.skip = .ok () ↔ ∃ v, d.tree? = some v
  | .null | .bool _ | .number _ | .string _ => ⟨fun _ => ⟨_, rfl⟩, fun _ => rfl⟩
  | .list items => by
      rw [Draft.skip, items.skip_eq_ok_iff]
      simp [Draft.tree?_list]
  | .object members => by
      rw [Draft.skip, members.skip_eq_ok_iff]
      simp [Draft.tree?_object]
  | .broken _ _ => by simp [Draft.skip, Draft.tree?]

theorem Items.skip_eq_ok_iff : ∀ items : Items, items.skip = .ok () ↔ ∃ vs, items.trees? = some vs
  | .close => ⟨fun _ => ⟨_, rfl⟩, fun _ => rfl⟩
  | .cut _ | .dangling => by simp [Items.skip, Items.trees?]
  | .item value rest => by
      rw [Items.skip]
      exact (skip_both value.skip_eq_ok_iff rest.skip_eq_ok_iff).trans (by simp [Items.trees?_item])

theorem Members.skip_eq_ok_iff : ∀ members : Members,
    members.skip = .ok () ↔ ∃ ms, members.members? = some ms
  | .close => ⟨fun _ => ⟨_, rfl⟩, fun _ => rfl⟩
  | .cut _ _ => by simp [Members.skip, Members.members?]
  | .member name value rest => by
      rw [Members.skip]
      exact (skip_both value.skip_eq_ok_iff rest.skip_eq_ok_iff).trans (by simp [Members.members?_member])
end

end ClassLens.Json
