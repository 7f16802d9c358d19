import ClassLens.Proofs.Cache.Eviction

/-! # The cache as a list

A cache behaves like a list of what is known of each stylesheet, in the order of the last use: what is
used moves to the front, and what stands at the end goes when room is needed.

* `Recency`: such a list, with a capacity, and its operations.
* `Cache.found`, `Recency.found`: what a use finds.
* `Cache.Tracks c l`: the entries of `c` are those of `l`, and their times fall along it.

**Main statements.** `Cache.tracks_used`: every use keeps the cache in step with the list.
`Cache.found_eq`: it finds the same.  `Cache.recency_of_uses`: so it is after any uses, and the list is
never longer than the capacity. -/

namespace ClassLens

/-! ### The list -/

/-- What is known of a stylesheet. -/
structure Remembered where
  /-- The components of its path. -/
  key : List Component
  digest : UInt64
  index : ClassIndex

/-- What is known of some stylesheets; the one that was used last stands first. -/
structure Recency where
  capacity : Nat
  items : List Remembered := []

namespace Recency

/-- Nothing is known; there is room for one stylesheet at least. -/
def ofCapacity (capacity : Nat) : Recency := { capacity := max 1 capacity }

/-- What is known of a path. -/
def get? (l : Recency) (path : Path) : Option Remembered :=
  l.items.find? (·.key = path.components)

/-- All but what is known of a path. -/
def others (l : Recency) (path : Path) : List Remembered :=
  l.items.filter (·.key ≠ path.components)

/-- What a look-up finds: the index, if it was made of this very content. -/
def find (l : Recency) (path : Path) (digest : UInt64) : Option Remembered :=
  (l.get? path).filter (·.digest = digest)

/-- What is found moves to the front. -/
def touch (l : Recency) (path : Path) (digest : UInt64) : Recency :=
  match l.find path digest with
  | some item => { l with items := item :: l.others path }
  | none => l

/-- What is put in stands first: in the place of what was known of the path, or else, when the end of
the list has made room for it. -/
def insert (l : Recency) (path : Path) (digest : UInt64) (index : ClassIndex) : Recency :=
  let item : Remembered := ⟨path.components, digest, index⟩
  match l.get? path with
  | some _ => { l with items := item :: l.others path }
  | none => { l with items := item :: l.items.take (l.capacity - 1) }

/-- The list after a use. -/
def used (l : Recency) : CacheUse → Recency
  | .get path digest => l.touch path digest
  | .insert path digest index => l.insert path digest index
  | .invalidate path => { l with items := l.others path }
  | .clear => { l with items := [] }
  | .resize capacity => ⟨max 1 capacity, l.items.take (max 1 capacity)⟩

/-- What a use finds. -/
def found (l : Recency) : CacheUse → Option ClassIndex
  | .get path digest => (l.find path digest).map Remembered.index
  | _ => none

end Recency

/-! ### In step -/

namespace Cache

/-- What a use of the cache finds. -/
def found (c : Cache) : CacheUse → Option ClassIndex
  | .get path digest => (c.get path digest).1
  | _ => none

/-- What an entry tells of its stylesheet. -/
def remembered (e : Item) : Remembered := ⟨e.1, e.2.digest, e.2.index⟩

/-- The entries of the cache are those of the list, each was used later than those after it, and the
clock has come to the last use. -/
structure Tracks (c : Cache) (l : Recency) : Prop where
  capacity : l.capacity = c.capacity
  listed : ∃ es, Listed c.entries es ∧ l.items = es.map remembered
  clock : ∀ e ∈ c.entries.entries, e.2.lastUsed ≤ c.clock

variable {c : Cache} {l : Recency} {es : List Item}

theorem find?_map_remembered (es : List Item) (key : List Component) :
    (es.map remembered).find? (·.key = key) = (es.find? (·.1 = key)).map remembered :=
  List.find?_map

theorem filter_map_remembered (es : List Item) (key : List Component) :
    (es.map remembered).filter (·.key ≠ key) = (es.filter (·.1 ≠ key)).map remembered :=
  List.filter_map

/-- What the list knows of a path is in the cache. -/
theorem get?_of_listed (h : Listed c.entries es) (hl : l.items = es.map remembered) (path : Path) :
    l.get? path = (c.entries.get? path.components).map fun e => remembered (path.components, e) := by
  rw [Recency.get?, hl, find?_map_remembered, h.get?_eq, Option.map_map]
  cases hfind : es.find? (·.1 = path.components) with
  | none => rfl
  | some e =>
      have hkey : e.1 = path.components := by simpa using List.find?_some hfind
      simp [remembered, ← hkey]

theorem Tracks.get?_eq (h : c.Tracks l) (path : Path) :
    l.get? path = (c.entries.get? path.components).map fun e => remembered (path.components, e) := by
  obtain ⟨es, hes, hl⟩ := h.listed
  exact get?_of_listed hes hl path

/-- What is used now was used later than all others. -/
theorem Tracks.put (h : c.Tracks l) (path : Path) (digest : UInt64) (index : ClassIndex) :
    Tracks { c with clock := c.clock + 1,
                    entries := c.entries.insert path.components ⟨digest, index, c.clock + 1⟩ }
      { l with items := ⟨path.components, digest, index⟩ :: l.others path } := by
  obtain ⟨es, hes, hl⟩ := h.listed
  have hlast : ∀ e ∈ es, e.2.lastUsed < c.clock + 1 := fun e he =>
    Nat.lt_succ_of_le (h.clock e (hes.perm.mem_iff.mp he))
  have hput := hes.insert (e := ⟨digest, index, c.clock + 1⟩) hlast path.components
  refine ⟨h.capacity, ⟨_, hput, ?_⟩, fun e he => ?_⟩
  · rw [Recency.others, hl, filter_map_remembered]
    rfl
  · rcases List.mem_cons.mp (hput.perm.mem_iff.mpr he) with rfl | hmem
    · exact Nat.le_refl _
    · exact Nat.le_of_lt (hlast e (List.mem_of_mem_filter hmem))

/-- Entries that are dropped go from the end of the list. -/
theorem Tracks.shrink (h : c.Tracks l) (limit : Nat) :
    (c.shrink limit).Tracks { l with items := l.items.take limit } := by
  obtain ⟨es, hes, hl⟩ := h.listed
  have hshrink := hes.shrink limit
  refine ⟨?_, ⟨_, hshrink, by rw [hl, List.map_take]⟩, fun e he => ?_⟩
  · rw [capacity_shrink]
    exact h.capacity
  · have hmem := List.mem_of_mem_take (hshrink.perm.mem_iff.mpr he)
    rw [clock_shrink]
    exact h.clock e (hes.perm.mem_iff.mp hmem)

theorem Tracks.erase (h : c.Tracks l) (path : Path) :
    (c.invalidate path).Tracks { l with items := l.others path } := by
  obtain ⟨es, hes, hl⟩ := h.listed
  refine ⟨h.capacity, ⟨_, hes.erase path.components, ?_⟩, fun e he => ?_⟩
  · rw [Recency.others, hl, filter_map_remembered]
  · exact h.clock e (List.mem_of_mem_filter he)

theorem tracks_ofCapacity (capacity : Nat) : (ofCapacity capacity).Tracks (.ofCapacity capacity) :=
  ⟨rfl, ⟨[], listed_empty, rfl⟩, fun e he => by cases he⟩

/-! ### Uses -/

theorem tracks_get (h : c.Tracks l) (path : Path) (digest : UInt64) :
    (c.get path digest).1 = (l.find path digest).map Remembered.index ∧
      (c.get path digest).2.Tracks (l.touch path digest) := by
  have hget := h.get?_eq path
  unfold get Recency.touch Recency.find
  cases he : c.entries.get? path.components with
  | none =>
      rw [he, Option.map_none] at hget
      rw [hget]
      exact ⟨rfl, h⟩
  | some e =>
      rw [he, Option.map_some] at hget
      rw [hget]
      by_cases hd : e.digest = digest
      · have hput := h.put path e.digest e.index
        simp only [remembered, Option.filter_some, hd, decide_true, if_true, Option.map_some,
          true_and] at hput ⊢
        exact hput
      · simp only [remembered, Option.filter_some, hd, decide_false, Bool.false_eq_true, if_false,
          Option.map_none, true_and]
        exact h

theorem tracks_insert (h : c.Tracks l) (path : Path) (digest : UInt64) (index : ClassIndex) :
    (c.insert path digest index).Tracks (l.insert path digest index) := by
  have hget := h.get?_eq path
  unfold insert Recency.insert Table.contains
  cases he : c.entries.get? path.components with
  | some e =>
      rw [he, Option.map_some] at hget
      rw [hget]
      exact h.put path digest index
  | none =>
      rw [he, Option.map_none] at hget
      have hshrink := h.shrink (c.capacity - 1)
      have hothers : ({ l with items := l.items.take (c.capacity - 1) } : Recency).others path =
          l.items.take (l.capacity - 1) := by
        rw [Recency.others, h.capacity]
        refine List.filter_eq_self.mpr fun item hitem => ?_
        have hno := List.find?_eq_none.mp hget item (List.mem_of_mem_take hitem)
        simpa using hno
      have hput := hshrink.put path digest index
      rw [hothers] at hput
      rw [hget]
      exact hput

theorem tracks_resize (h : c.Tracks l) (capacity : Nat) :
    (c.resize capacity).Tracks ⟨max 1 capacity, l.items.take (max 1 capacity)⟩ := by
  have hresized : Tracks { c with
      capacity := max 1 capacity, one_le_capacity := Nat.le_max_left _ _ }
      { l with capacity := max 1 capacity } := ⟨rfl, h.listed, h.clock⟩
  exact hresized.shrink (max 1 capacity)

/-- Every use keeps the cache in step with the list. -/
theorem tracks_used (h : c.Tracks l) (use : CacheUse) : (c.used use).Tracks (l.used use) := by
  cases use with
  | get path digest => exact (tracks_get h path digest).2
  | insert path digest index => exact tracks_insert h path digest index
  | invalidate path => exact h.erase path
  | clear => exact ⟨h.capacity, ⟨[], listed_empty, rfl⟩, fun e he => by cases he⟩
  | resize capacity => exact tracks_resize h capacity

/-- A use finds what is in the list. -/
theorem Tracks.found_eq (h : c.Tracks l) (use : CacheUse) : c.found use = l.found use := by
  cases use with
  | get path digest => exact (tracks_get h path digest).1
  | insert | invalidate | clear | resize => rfl

theorem tracks_foldl (h : c.Tracks l) (uses : List CacheUse) :
    (uses.foldl used c).Tracks (uses.foldl Recency.used l) := by
  induction uses generalizing c l with
  | nil => exact h
  | cons use uses ih => exact ih (tracks_used h use)

/-! ### The bounds -/

/-- Only a new size changes the capacity. -/
theorem capacity_used {use : CacheUse} (h : ∀ n, use ≠ .resize n) :
    (c.used use).capacity = c.capacity := by
  cases use with
  | get path digest =>
      simp only [used, get]
      split
      · rfl
      · split <;> rfl
  | insert path digest index =>
      simp only [used, insert]
      split
      · rfl
      · exact capacity_shrink _ _
  | invalidate | clear => rfl
  | resize n => exact absurd rfl (h n)

/-- A use keeps the number of entries within the capacity. -/
theorem size_used_le (h : c.size ≤ c.capacity) (use : CacheUse) :
    (c.used use).size ≤ (c.used use).capacity := by
  cases use with
  | get path digest =>
      simp only [used, get]
      split
      · exact h
      · rename_i e he
        split
        · rw [size, Table.size_insert, Table.contains, he, Option.isSome_some, if_pos rfl]
          exact h
        · exact h
  | insert path digest index => exact size_insert_le h path digest index
  | invalidate path => exact Nat.le_trans (List.length_filter_le _ _) h
  | clear => exact Nat.zero_le _
  | resize capacity => exact size_resize_le c capacity

theorem size_foldl_le (h : c.size ≤ c.capacity) (uses : List CacheUse) :
    (uses.foldl used c).size ≤ (uses.foldl used c).capacity := by
  induction uses generalizing c with
  | nil => exact h
  | cons use uses ih => exact ih (size_used_le h use)

/-- The clock counts no more than the uses. -/
theorem clock_used_le (c : Cache) (use : CacheUse) : (c.used use).clock ≤ c.clock + 1 := by
  cases use with
  | get path digest =>
      simp only [used, get]
      split
      · exact Nat.le_succ _
      · split
        · exact Nat.le_refl _
        · exact Nat.le_succ _
  | insert path digest index =>
      simp only [used, insert]
      split
      · exact Nat.le_refl _
      · rw [clock_shrink]
  | invalidate path => exact Nat.le_succ _
  | clear => exact Nat.le_succ _
  | resize capacity =>
      rw [used, resize, clock_shrink]
      exact Nat.le_succ _

theorem clock_foldl_le (c : Cache) (uses : List CacheUse) :
    (uses.foldl used c).clock ≤ c.clock + uses.length := by
  induction uses generalizing c with
  | nil => exact Nat.le_refl _
  | cons use uses ih =>
      have hstep := clock_used_le c use
      have hrest := ih (c.used use)
      rw [List.foldl_cons, List.length_cons]
      omega

/-- A cache behaves like the list, whatever is done with it: after any uses it has the same entries, the
last used first by their times, and whatever is looked up next is found in the list.  It never holds
more than its capacity; evictions end, and in whichever order the entries are met, the same ones are
left, also when the capacity is set; and the clock, to which all times keep, counts no more than the
uses. -/
theorem recency_of_uses (capacity : Nat) (uses : List CacheUse) :
    let c := uses.foldl used (ofCapacity capacity)
    let l := uses.foldl Recency.used (.ofCapacity capacity)
    c.Tracks l ∧ (∀ use, c.found use = l.found use) ∧ c.size = l.items.length ∧
      c.size ≤ c.capacity ∧
      (∀ limit t, Evicts limit c.entries t ↔ t = (c.shrink limit).entries) ∧
      (∀ limit, (c.resize limit).entries = (c.shrink (max 1 limit)).entries) ∧
      c.clock ≤ uses.length := by
  intro c l
  have htracks : c.Tracks l := tracks_foldl (tracks_ofCapacity capacity) uses
  obtain ⟨es, hes, hl⟩ := htracks.listed
  refine ⟨htracks, htracks.found_eq, ?_, size_foldl_le (Nat.zero_le _) uses, hes.evicts_iff,
    entries_resize c, ?_⟩
  · rw [hl, List.length_map]
    exact hes.size_eq
  · have hclock := clock_foldl_le (ofCapacity capacity) uses
    rwa [show (ofCapacity capacity).clock = 0 from rfl, Nat.zero_add] at hclock

end Cache

end ClassLens
