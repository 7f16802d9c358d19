import ClassLens.Cache
import Mathlib.Data.List.Sort

/-! # What a cache holds and what goes

What holds of the entries of a cache holds of whatever it finds.  When room is needed, the entry that was
used longest ago goes first.  As no two entries were used at one time, it does not matter in which order
the entries are met when it is looked for.

* `CacheUse`, `Cache.used`: what can be done with a cache, and the cache after it.
* `Cache.Holds P c`: `P` holds of the digest and the index of every entry.
* `Listed t es`: `es` are the entries of the table, the one that was used last standing first.
* `Evicts limit t t'`: `t'` is left of `t` when entries go until `limit` are left, whichever of those
  that were used longest ago is met first.

**Main statements.** `Cache.holds_used`: a use of the cache keeps what holds of the entries, if it
holds of what is put in.  `Cache.of_hit`: it holds of what is found.
`Listed.oldest_eq`: in whichever order the entries are met, the last one in the list is found.
`Listed.shrink`: so many entries stay at the front of the list.
`Listed.evicts_iff`: the evictions end, and always with the same entries. -/

namespace ClassLens

/-- A use of a cache. -/
inductive CacheUse where
  | get (path : Path) (digest : UInt64)
  | insert (path : Path) (digest : UInt64) (index : ClassIndex)
  | invalidate (path : Path)
  | clear
  | resize (capacity : Nat)

namespace Cache

/-- The cache after a use. -/
def used (c : Cache) : CacheUse → Cache
  | .get path digest => (c.get path digest).2
  | .insert path digest index => c.insert path digest index
  | .invalidate path => c.invalidate path
  | .clear => c.clear
  | .resize capacity => c.resize capacity

variable {P : UInt64 → ClassIndex → Prop} {c : Cache}

/-- Something holds of every entry: of its digest and its index. -/
def Holds (P : UInt64 → ClassIndex → Prop) (c : Cache) : Prop :=
  ∀ key e, c.entries.get? key = some e → P e.digest e.index

theorem holds_ofCapacity (capacity : Nat) : (ofCapacity capacity).Holds P := fun key e h => by
  simp [ofCapacity] at h

theorem holds_erase (h : c.Holds P) (key : List Component) :
    Holds P { c with entries := c.entries.erase key } := by
  intro key' e he
  simp only [Table.get?_erase] at he
  split at he
  · cases he
  · exact h key' e he

theorem holds_put (h : c.Holds P) {e : CacheEntry} (he : P e.digest e.index) (now : Nat)
    (key : List Component) :
    Holds P { c with clock := now, entries := c.entries.insert key e } := by
  intro key' e' he'
  simp only [Table.get?_insert] at he'
  split at he'
  · rw [Option.some.injEq] at he'
    exact he' ▸ he
  · exact h key' e' he'

theorem holds_dropOldest (h : c.Holds P) : c.dropOldest.Holds P := by
  unfold dropOldest
  split
  · exact h
  · exact holds_erase h _

theorem holds_shrink (h : c.Holds P) (limit : Nat) : (c.shrink limit).Holds P := by
  unfold shrink
  generalize c.size - limit = n
  induction n generalizing c with
  | zero => exact h
  | succ n ih => exact ih (holds_dropOldest h)

theorem holds_get (h : c.Holds P) (path : Path) (digest : UInt64) :
    (c.get path digest).2.Holds P := by
  unfold get
  split
  · exact h
  · rename_i e he
    split
    · have hp : P e.digest e.index := h _ _ he
      exact holds_put h (e := { e with lastUsed := c.clock + 1 }) hp _ _
    · exact h

theorem holds_insert (h : c.Holds P) (path : Path) {digest : UInt64} {index : ClassIndex}
    (hnew : P digest index) : (c.insert path digest index).Holds P := by
  unfold insert
  simp only
  split
  · exact holds_put h (e := ⟨digest, index, _⟩) hnew _ _
  · exact holds_put (holds_shrink h _) (e := ⟨digest, index, _⟩) hnew _ _

theorem holds_resize (h : c.Holds P) (capacity : Nat) : (c.resize capacity).Holds P :=
  holds_shrink (c := { c with
    capacity := max 1 capacity, one_le_capacity := Nat.le_max_left _ _ }) h _

/-- A use of the cache keeps what holds of its entries, if it holds of what is put in. -/
theorem holds_used (h : c.Holds P) {use : CacheUse}
    (hnew : ∀ path digest index, use = .insert path digest index → P digest index) :
    (c.used use).Holds P := by
  cases use with
  | get path digest => exact holds_get h path digest
  | insert path digest index => exact holds_insert h path (hnew path digest index rfl)
  | invalidate path => exact holds_erase h _
  | clear => exact fun key e he => by simp [used, clear] at he
  | resize capacity => exact holds_resize h capacity

/-- What holds of the entries holds of what is found, for the digest that was asked for. -/
theorem of_hit (h : c.Holds P) {path : Path} {digest : UInt64} {index : ClassIndex} {c' : Cache}
    (hhit : c.get path digest = (some index, c')) : P digest index := by
  unfold get at hhit
  split at hhit
  · cases hhit
  · rename_i e he
    split at hhit
    · rename_i hd
      cases hhit
      exact hd ▸ h _ _ he
    · cases hhit

end Cache

/-! ### Entries by the time of their last use -/

namespace Cache

/-- An entry with its key. -/
abbrev Item := List Component × CacheEntry

/-- The list holds the entries of the table, each of which was used later than those after it. -/
structure Listed (t : Table (List Component) CacheEntry) (es : List Item) : Prop where
  perm : es.Perm t.entries
  falling : es.Pairwise fun a b => b.2.lastUsed < a.2.lastUsed

variable {c : Cache} {t : Table (List Component) CacheEntry} {es : List Item}

theorem Listed.nodup (h : Listed t es) : (es.map Prod.fst).Nodup :=
  (h.perm.map Prod.fst).nodup_iff.mpr t.nodup

theorem Listed.size_eq (h : Listed t es) : t.size = es.length := h.perm.length_eq.symm

theorem listed_empty : Listed .empty [] := ⟨.nil, .nil⟩

/-! ### Look-ups and changes -/

theorem Listed.get?_eq_some_iff (h : Listed t es) (key : List Component) (e : CacheEntry) :
    t.get? key = some e ↔ (key, e) ∈ es :=
  ⟨fun hget => h.perm.mem_iff.mpr (Table.mem_of_lookup hget),
    fun hmem => Table.lookup_of_mem t.nodup (h.perm.mem_iff.mp hmem)⟩

/-- A key is looked up in the list. -/
theorem Listed.get?_eq (h : Listed t es) (key : List Component) :
    t.get? key = (es.find? (·.1 = key)).map Prod.snd := by
  cases hfind : es.find? (·.1 = key) with
  | some e =>
      have hkey : e.1 = key := by simpa using List.find?_some hfind
      exact (h.get?_eq_some_iff key e.2).mpr (hkey ▸ List.mem_of_find?_eq_some hfind)
  | none =>
      rw [Option.map_none, Option.eq_none_iff_forall_not_mem]
      intro e he
      have hmem := (h.get?_eq_some_iff key e).mp he
      have hno := List.find?_eq_none.mp hfind _ hmem
      simp at hno

/-- A key is taken out of the list. -/
theorem Listed.erase (h : Listed t es) (key : List Component) :
    Listed (t.erase key) (es.filter (·.1 ≠ key)) :=
  ⟨h.perm.filter _, h.falling.filter _⟩

/-- What is put in later than all others were used stands first. -/
theorem Listed.insert (h : Listed t es) {e : CacheEntry}
    (hlast : ∀ e' ∈ es, e'.2.lastUsed < e.lastUsed) (key : List Component) :
    Listed (t.insert key e) ((key, e) :: es.filter (·.1 ≠ key)) where
  perm := (((h.perm.filter _).cons _).trans (Table.perm_put t.nodup).symm)
  falling := List.pairwise_cons.mpr
    ⟨fun e' he' => hlast e' (List.mem_of_mem_filter he'), h.falling.filter _⟩

/-! ### The entry that was used longest ago -/

theorem le_of_oldest {l : List Item} {e : Item} (h : oldest l = some e) :
    ∀ e' ∈ l, e.2.lastUsed ≤ e'.2.lastUsed := by
  fun_induction oldest l generalizing e with
  | case1 => cases h
  | case2 e₀ rest hrest =>
      rw [Option.some.injEq] at h
      rw [oldest_eq_none hrest, h]
      simp
  | case3 e₀ rest e₁ hrest hle ih =>
      rw [Option.some.injEq] at h
      subst h
      intro e' he'
      rcases List.mem_cons.mp he' with rfl | hmem
      · exact Nat.le_refl _
      · exact Nat.le_trans hle (ih hrest e' hmem)
  | case4 e₀ rest e₁ hrest hgt ih =>
      rw [Option.some.injEq] at h
      subst h
      intro e' he'
      rcases List.mem_cons.mp he' with rfl | hmem
      · exact Nat.le_of_lt (Nat.lt_of_not_le hgt)
      · exact ih hrest e' hmem

/-- Only the last entry of the list was used no later than any other. -/
theorem Listed.getLast?_eq (h : Listed t es) {e : Item} (hmem : e ∈ es)
    (hle : ∀ e' ∈ es, e.2.lastUsed ≤ e'.2.lastUsed) : es.getLast? = some e := by
  rcases List.eq_nil_or_concat es with rfl | ⟨front, last, rfl⟩
  · cases hmem
  · rw [List.concat_eq_append] at *
    rw [List.getLast?_concat, Option.some.injEq]
    rcases List.mem_append.mp hmem with hfront | hlast
    · have hlt := (List.pairwise_append.mp h.falling).2.2 e hfront last (by simp)
      exact absurd (hle last (by simp)) (Nat.not_le_of_lt hlt)
    · exact (List.mem_singleton.mp hlast).symm

/-- In whichever order the entries are met, the last one of the list is found. -/
theorem Listed.oldest_eq (h : Listed t es) {l : List Item} (hl : l.Perm t.entries) :
    oldest l = es.getLast? := by
  have hperm : l.Perm es := hl.trans h.perm.symm
  cases hold : oldest l with
  | none =>
      rw [oldest_eq_none hold] at hperm
      rw [← hperm.nil_eq]
      rfl
  | some e =>
      refine (h.getLast?_eq (hperm.mem_iff.mp (oldest_mem hold)) fun e' he' => ?_).symm
      exact le_of_oldest hold e' (hperm.mem_iff.mpr he')

/-- Without the key of the last entry, the others are left. -/
theorem Listed.filter_getLast (h : Listed t es) {e : Item} (hlast : es.getLast? = some e) :
    es.filter (·.1 ≠ e.1) = es.dropLast := by
  have hnodup := h.nodup
  have hsplit := List.dropLast_append_getLast? e hlast
  rw [← hsplit, List.map_append, List.nodup_append] at hnodup
  conv_lhs => rw [← hsplit]
  rw [List.filter_append, List.filter_eq_self.mpr fun e' he' => ?_]
  · simp
  · simpa using hnodup.2.2 e'.1 (List.mem_map_of_mem he') e.1 (by simp)

theorem Listed.dropOldest (h : Listed c.entries es) : Listed c.dropOldest.entries es.dropLast := by
  have hold := h.oldest_eq (.refl _)
  unfold Cache.dropOldest
  split
  · rename_i hnone
    rw [hnone, eq_comm, List.getLast?_eq_none_iff] at hold
    subst hold
    exact h
  · rename_i key e hsome
    rw [hsome] at hold
    rw [← h.filter_getLast hold.symm]
    exact h.erase key

theorem Listed.drop (h : Listed c.entries es) (n : Nat) :
    Listed (Cache.drop n c).entries (es.take (es.length - n)) := by
  induction n generalizing c es with
  | zero =>
      rw [Nat.sub_zero, List.take_length]
      exact h
  | succ n ih =>
      have hdrop := ih h.dropOldest
      rw [List.length_dropLast, List.dropLast_eq_take, List.take_take] at hdrop
      rwa [Nat.min_eq_left (by omega), Nat.sub_sub, Nat.add_comm 1 n] at hdrop

/-- So many entries stay, from the front of the list. -/
theorem Listed.shrink (h : Listed c.entries es) (limit : Nat) :
    Listed (c.shrink limit).entries (es.take limit) := by
  have hdrop := h.drop (c.size - limit)
  have hsize : c.size = es.length := h.size_eq
  rw [hsize] at hdrop
  rw [Cache.shrink, hsize]
  rcases Nat.le_total es.length limit with hle | hle
  · rw [Nat.sub_eq_zero_of_le hle, Nat.sub_zero, List.take_length] at hdrop
    rwa [List.take_of_length_le hle, Nat.sub_eq_zero_of_le hle]
  · rwa [Nat.sub_sub_self hle] at hdrop

/-- Which entries go does not depend on the capacity. -/
theorem entries_drop_congr {c' : Cache} (h : c.entries = c'.entries) (n : Nat) :
    (Cache.drop n c).entries = (Cache.drop n c').entries := by
  induction n generalizing c c' with
  | zero => exact h
  | succ n ih =>
      refine ih ?_
      unfold Cache.dropOldest
      rw [h]
      split
      · exact h
      · rfl

theorem entries_resize (c : Cache) (capacity : Nat) :
    (c.resize capacity).entries = (c.shrink (max 1 capacity)).entries := by
  have hsame : ({ c with
      capacity := max 1 capacity, one_le_capacity := Nat.le_max_left _ _ } : Cache).entries =
      c.entries := rfl
  exact entries_drop_congr hsame _

/-! ### Evictions in any order -/

/-- What is left of a table when entries go until `limit` are left: always one that was used no later
than any other, whichever of them is met first. -/
inductive Evicts (limit : Nat) :
    Table (List Component) CacheEntry → Table (List Component) CacheEntry → Prop where
  | done {t : Table (List Component) CacheEntry} (few : t.size ≤ limit) : Evicts limit t t
  | more {t t' : Table (List Component) CacheEntry} {e : Item} (many : limit < t.size)
      (mem : e ∈ t.entries) (least : ∀ e' ∈ t.entries, e.2.lastUsed ≤ e'.2.lastUsed)
      (rest : Evicts limit (t.erase e.1) t') : Evicts limit t t'

/-- As long as there are too many entries, one goes. -/
theorem Listed.shrink_eq (h : Listed c.entries es) {limit : Nat} (hmany : limit < c.size) :
    c.shrink limit = c.dropOldest.shrink limit := by
  have hsize : c.dropOldest.size = c.size - 1 := by
    rw [size, size, h.dropOldest.size_eq, h.size_eq, List.length_dropLast]
  rw [Cache.shrink, Cache.shrink, hsize, Nat.sub_right_comm]
  obtain ⟨n, hn⟩ : ∃ n, c.size - limit = n + 1 := ⟨c.size - limit - 1, by omega⟩
  rw [hn, Cache.drop, Nat.add_sub_cancel]

theorem Listed.dropOldest_eq (h : Listed c.entries es) {e : Item} (hmem : e ∈ c.entries.entries)
    (hle : ∀ e' ∈ c.entries.entries, e.2.lastUsed ≤ e'.2.lastUsed) :
    c.dropOldest = { c with entries := c.entries.erase e.1 } := by
  have hlast := h.getLast?_eq (h.perm.mem_iff.mpr hmem) fun e' he' =>
    hle e' (h.perm.mem_iff.mp he')
  rw [← h.oldest_eq (.refl _)] at hlast
  rw [Cache.dropOldest, hlast]

/-- The evictions end, and in whichever order the entries are met, with the same ones. -/
theorem Listed.evicts_iff (h : Listed c.entries es) (limit : Nat)
    (t : Table (List Component) CacheEntry) :
    Evicts limit c.entries t ↔ t = (c.shrink limit).entries := by
  constructor
  · intro hevicts
    generalize hc : c.entries = t₀ at hevicts
    induction hevicts generalizing c es with
    | done few =>
        subst hc
        rw [Cache.shrink, show c.size - limit = 0 from Nat.sub_eq_zero_of_le few, Cache.drop]
    | more many mem least rest ih =>
        subst hc
        have heq := h.dropOldest_eq mem least
        rw [h.shrink_eq many, heq]
        exact ih (c := { c with entries := c.entries.erase _ }) (h.erase _) rfl
  · rintro rfl
    induction hn : c.size - limit generalizing c es with
    | zero =>
        rw [Cache.shrink, hn, Cache.drop]
        exact .done (Nat.le_of_sub_eq_zero hn)
    | succ n ih =>
        have hmany : limit < c.size := by omega
        rw [h.shrink_eq hmany]
        obtain ⟨e, hold⟩ : ∃ e, oldest c.entries.entries = some e := by
          rw [← Option.ne_none_iff_exists']
          intro hnone
          rw [size, Table.size, oldest_eq_none hnone] at hmany
          exact absurd hmany (Nat.not_lt_zero limit)
        refine .more hmany (oldest_mem hold) (le_of_oldest hold) ?_
        have heq := h.dropOldest_eq (oldest_mem hold) (le_of_oldest hold)
        have hrest := ih h.dropOldest (by
          rw [size, h.dropOldest.size_eq, List.length_dropLast, ← h.size_eq]
          show c.size - 1 - limit = n
          omega)
        rw [heq] at hrest ⊢
        exact hrest

end Cache

end ClassLens
