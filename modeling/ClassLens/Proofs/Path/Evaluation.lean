import ClassLens.Resolve.Location
import Mathlib.Data.List.Infix

/-! # What a path evaluates to

A path that starts at the root is evaluated from its text alone: empty pieces and `.` stay where one
is, `..` goes up and stays at the root, and every other piece goes down.

* `Path.place p`: the names on the way from the root to where the path leads.
* `Path.excess p`: how many `..` stand at the root and have nothing to remove.
* `JoinsTo document specifier target`: a specifier that is relative or absolute, cut at its query or
  fragment and read from the directory of the document, is the path `target`.

**Main statements.** `Path.normalNames_eq`: a path without `.` and `..` has the names of the place, and
a `..` before them if their number at the root is odd.
`locateImport_evaluated_iff`: an import is located in the place that it evaluates to if and only if this
number is even. -/

namespace ClassLens

open Text (splitOn joinWith splitOn_ne_nil)

namespace Path

variable {p : Path} {ps dir : List Name}

/-! ### The place of a path -/

/-- Where a piece leads from a directory, which is given by the names on the way to it. -/
def enter (dir : List Name) (piece : Name) : List Name :=
  if piece = [] ∨ piece = here then dir
  else if piece = above then dir.dropLast
  else dir ++ [piece]

/-- The names on the way from the root to where a path leads. -/
def place (p : Path) : List Name :=
  p.pieces.foldl enter []

/-- How many `..` of some pieces stand at the root. -/
def excessFrom (dir : List Name) : List Name → Nat
  | [] => 0
  | piece :: ps => (if piece = above ∧ dir = [] then 1 else 0) + excessFrom (enter dir piece) ps

/-- How many `..` of a path stand at the root. -/
def excess (p : Path) : Nat :=
  excessFrom [] p.pieces

/-- The names that are left when a path has come to a directory, with `n` times `..` at the root: the
last one first, and under them the `..` that is still there. -/
def kept (dir : List Name) (n : Nat) : List Name :=
  dir.reverse ++ if n % 2 = 1 then [above] else []

/-- A `..` at the root is kept, and taken away by the next one. -/
theorem stepUp_parent_root (n : Nat) : stepUp (kept [] n) .parent = kept [] (1 + n) := by
  rcases Nat.mod_two_eq_zero_or_one n with h | h
  · have h' : (1 + n) % 2 = 1 := by omega
    simp [kept, stepUp, h, h']
  · have h' : (1 + n) % 2 ≠ 1 := by omega
    simp [kept, stepUp, h, h']

/-- A `..` below the root takes a name away. -/
theorem stepUp_parent_below (h : dir ≠ []) (n : Nat) :
    stepUp (kept dir n) .parent = kept dir.dropLast n := by
  rw [← List.dropLast_concat_getLast h]
  simp [kept, stepUp]

/-- A piece leads from what was kept to what is kept then. -/
theorem foldl_stepUp_piece (dir : List Name) (n : Nat) (piece : Name) :
    (componentOf? piece).toList.foldl stepUp (kept dir n) =
      kept (enter dir piece) ((if piece = above ∧ dir = [] then 1 else 0) + n) := by
  unfold componentOf? enter
  split
  · rename_i hstay
    have hne : ¬ (piece = above ∧ dir = []) := by
      rintro ⟨rfl, -⟩
      rcases hstay with h | h <;> cases h
    simp [hne]
  · split
    · rename_i habove
      by_cases hroot : dir = []
      · subst hroot
        simpa [habove] using stepUp_parent_root n
      · simpa [habove, hroot] using stepUp_parent_below hroot n
    · rename_i hdown
      simp [hdown, kept, stepUp]

theorem foldl_stepUp_pieces (dir : List Name) (n : Nat) (ps : List Name) :
    (ps.filterMap componentOf?).foldl stepUp (kept dir n) =
      kept (ps.foldl enter dir) (excessFrom dir ps + n) := by
  induction ps generalizing dir n with
  | nil => simp [excessFrom]
  | cons piece ps ih =>
      have hsplit : (piece :: ps).filterMap componentOf? =
          (componentOf? piece).toList ++ ps.filterMap componentOf? := by
        cases h : componentOf? piece <;> simp [h]
      rw [hsplit, List.foldl_append, foldl_stepUp_piece, ih, List.foldl_cons, excessFrom]
      congr 1
      omega

/-- The names that are left of a path are those of its place, and a `..` before them if an odd number
of `..` stood at the root. -/
theorem normalNames_eq (h : p.isAbsolute = true) :
    p.normalNames = (if p.excess % 2 = 1 then [above] else []) ++ p.place := by
  have hcomponents : p.components = .root :: p.pieces.filterMap componentOf? := by
    rw [components, if_pos h]
  have hfold := foldl_stepUp_pieces [] 0 p.pieces
  rw [normalNames, hcomponents, List.foldl_cons]
  show ((p.pieces.filterMap componentOf?).foldl stepUp (kept [] 0)).reverse = _
  rw [hfold, Nat.add_zero, kept, List.reverse_append, List.reverse_reverse]
  unfold excess place
  split <;> rfl

/-! ### Pieces and components -/

theorem slash_not_mem_splitOn {s : List UInt8} {piece : Name} (h : piece ∈ splitOn slash s) :
    slash ∉ piece := by
  induction s generalizing piece with
  | nil =>
      rw [splitOn, List.mem_singleton] at h
      simp [h]
  | cons b bs ih =>
      rw [splitOn] at h
      split at h
      · rcases List.mem_cons.mp h with rfl | h
        · simp
        · exact ih h
      · rename_i hb
        split at h
        · rename_i hnil
          exact absurd hnil (splitOn_ne_nil slash bs)
        · rename_i first rest hrest
          rw [hrest] at ih
          rcases List.mem_cons.mp h with rfl | h
          · rw [List.mem_cons, not_or]
            exact ⟨Ne.symm hb, ih List.mem_cons_self⟩
          · exact ih (List.mem_cons_of_mem _ h)

theorem splitOn_append {piece : Name} (h : slash ∉ piece) (rest : List UInt8) :
    splitOn slash (piece ++ slash :: rest) = piece :: splitOn slash rest := by
  induction piece with
  | nil => simp [splitOn]
  | cons b bs ih =>
      rw [List.mem_cons, not_or] at h
      rw [List.cons_append, splitOn, if_neg (Ne.symm h.1), ih h.2]

theorem splitOn_piece {piece : Name} (h : slash ∉ piece) : splitOn slash piece = [piece] := by
  induction piece with
  | nil => rfl
  | cons b bs ih =>
      rw [List.mem_cons, not_or] at h
      rw [splitOn, if_neg (Ne.symm h.1), ih h.2]

/-- Pieces that are joined can be told apart again. -/
theorem splitOn_joinWith (hne : ps ≠ []) (h : ∀ piece ∈ ps, slash ∉ piece) :
    splitOn slash (joinWith slash ps) = ps := by
  induction ps with
  | nil => exact absurd rfl hne
  | cons piece rest ih =>
      have hpiece := h piece List.mem_cons_self
      cases rest with
      | nil => exact splitOn_piece hpiece
      | cons next rest =>
          rw [joinWith, splitOn_append hpiece,
            ih (List.cons_ne_nil next rest) fun q hq => h q (List.mem_cons_of_mem _ hq)]
          exact fun hnil => absurd hnil (List.cons_ne_nil next rest)

/-- The components of a path that is made of pieces. -/
theorem components_ofPieces (h : ∀ piece ∈ ps, slash ∉ piece) :
    (ofPieces true ps).components = .root :: ps.filterMap componentOf? := by
  have hpieces : (ofPieces true ps).pieces = splitOn slash (joinWith slash ps) := by
    simp [pieces, isAbsolute, ofPieces]
  rw [components, if_pos (by simp [isAbsolute, ofPieces]), hpieces]
  cases ps with
  | nil => rfl
  | cons piece rest => rw [splitOn_joinWith (by simp) h]

/-! ### Names of a place -/

/-- The names of a place are pieces of the path, and neither empty nor `.` or `..`. -/
theorem mem_foldl_enter {n : Name} (h : n ∈ ps.foldl enter dir) :
    n ∈ dir ∨ n ∈ ps ∧ componentOf? n = some (.name n) := by
  induction ps generalizing dir with
  | nil => exact .inl h
  | cons piece ps ih =>
      rcases ih h with hdir | ⟨hps, hname⟩
      · unfold enter at hdir
        split at hdir
        · exact .inl hdir
        · rename_i hstay
          split at hdir
          · exact .inl (List.mem_of_mem_dropLast hdir)
          · rename_i habove
            rcases List.mem_append.mp hdir with hdir | hnew
            · exact .inl hdir
            · rw [List.mem_singleton] at hnew
              subst hnew
              exact .inr ⟨List.mem_cons_self, by rw [componentOf?, if_neg hstay, if_neg habove]⟩
      · exact .inr ⟨List.mem_cons_of_mem _ hps, hname⟩

theorem mem_place {n : Name} (h : n ∈ p.place) :
    slash ∉ n ∧ componentOf? n = some (.name n) := by
  rcases mem_foldl_enter h with hnil | ⟨hpiece, hname⟩
  · cases hnil
  · exact ⟨slash_not_mem_splitOn hpiece, hname⟩

/-- The components of the path that leads to the place, `above` being put before its names or not. -/
theorem components_place (p : Path) {front : List Name} (hfront : ∀ n ∈ front, n = above) :
    (ofPieces true (front ++ p.place)).components =
      .root :: (front.map fun _ => .parent) ++ p.place.map .name := by
  have hslash : ∀ n ∈ front ++ p.place, slash ∉ n := by
    intro n hn
    rcases List.mem_append.mp hn with hn | hn
    · rw [hfront n hn]
      decide
    · exact (mem_place hn).1
  have hparent : front.filterMap componentOf? = front.map fun _ => .parent := by
    rw [← List.filterMap_eq_map]
    exact List.filterMap_congr fun n hn => by rw [hfront n hn]; rfl
  have hname : p.place.filterMap componentOf? = p.place.map .name := by
    rw [← List.filterMap_eq_map]
    exact List.filterMap_congr fun n hn => (mem_place hn).2
  rw [components_ofPieces hslash, List.filterMap_append, hparent, hname, List.cons_append]

/-- What is left of a path that starts at the root: a `..` if an odd number of them stood there, and
the names of the place. -/
theorem components_normalize (h : p.isAbsolute = true) :
    p.normalize.components =
      .root :: (if p.excess % 2 = 1 then [.parent] else []) ++ p.place.map .name := by
  rw [normalize, h, normalNames_eq h, components_place p (by split <;> simp)]
  split <;> rfl

/-- It has no `.` and `..` if and only if an even number of `..` stood at the root. -/
theorem plain_normalize_iff (h : p.isAbsolute = true) :
    (∀ c ∈ p.normalize.components, c ≠ .current ∧ c ≠ .parent) ↔ p.excess % 2 = 0 := by
  rw [components_normalize h]
  constructor
  · intro hplain
    by_contra hodd
    rw [if_pos (Nat.mod_two_ne_zero.mp hodd)] at hplain
    exact (hplain .parent (by simp)).2 rfl
  · intro heven c hc
    have hnot : ¬ p.excess % 2 = 1 := by omega
    rw [if_neg hnot, List.cons_append, List.nil_append, List.mem_cons, List.mem_map] at hc
    rcases hc with rfl | ⟨n, -, rfl⟩ <;> simp

/-- Paths that lead to one place are the same without `.` and `..` if and only if both had an even
number of `..` at the root, or both an odd one. -/
theorem normalize_eq_iff {p' : Path} (h : p.isAbsolute = true) (h' : p'.isAbsolute = true)
    (hplace : p'.place = p.place) :
    p'.normalize = p.normalize ↔ p'.excess % 2 = p.excess % 2 := by
  constructor
  · intro heq
    have hcomponents := components_normalize h'
    rw [heq, components_normalize h, hplace] at hcomponents
    have hfront := List.append_cancel_right hcomponents
    rcases Nat.mod_two_eq_zero_or_one p.excess with he | he <;>
      rcases Nat.mod_two_eq_zero_or_one p'.excess with he' | he' <;>
      simp [he, he'] at hfront ⊢
  · intro heq
    rw [normalize, normalize, h, h', normalNames_eq h, normalNames_eq h', heq, hplace]

/-- A path without `.` and `..` is that of its place if and only if an even number of `..` stood at the
root. -/
theorem normalize_eq_place_iff (h : p.isAbsolute = true) :
    p.normalize = ofPieces true p.place ↔ p.excess % 2 = 0 := by
  constructor
  · intro heq
    have hnone : ∀ n ∈ ([] : List Name), n = above := by simp
    have hplace : (ofPieces true p.place).components = .root :: p.place.map .name :=
      components_place p hnone
    refine (plain_normalize_iff h).mp fun c hc => ?_
    rw [heq, hplace, List.mem_cons, List.mem_map] at hc
    rcases hc with rfl | ⟨n, -, rfl⟩ <;> simp
  · intro heven
    have hnot : ¬ p.excess % 2 = 1 := by omega
    rw [normalize, h, normalNames_eq h, if_neg hnot, List.nil_append]

theorem isAbsolute_ofPieces (ps : List Name) : (ofPieces true ps).isAbsolute = true := rfl

/-! ### Directories -/

/-- The directory of a document that starts at the root starts there, too. -/
theorem isAbsolute_of_parent? {dir : Path} (h : p.isAbsolute = true) (hdir : p.parent? = some dir) :
    dir.isAbsolute = true := by
  have hmem : dir ∈ p.parents := List.mem_of_mem_head? hdir
  unfold parents at hmem
  obtain ⟨ps, -, rfl⟩ := List.mem_map.mp hmem
  rw [h]
  exact isAbsolute_ofPieces _

theorem isAbsolute_join {dir : Path} (h : dir.isAbsolute = true) (p : Path) :
    (dir.join p).isAbsolute = true := by
  unfold join
  split
  · assumption
  · obtain ⟨bytes⟩ := dir
    cases bytes with
    | nil => cases h
    | cons b bs => split <;> exact h

end Path

/-! ### Imports -/

open Path

/-- A specifier in a document, cut at its query or fragment, starts with `./` or `../` or at the root;
read from the document's directory it is the path `target`. -/
structure JoinsTo (document : Path) (specifier : String) (target : Path) : Prop where
  absolute : document.isAbsolute = true
  source : isRelative (stripQuery specifier) = true ∨
    (Path.ofString (String.ofList (stripQuery specifier))).isAbsolute = true
  joined : ∃ dir, document.parent? = some dir ∧
    target = dir.join (.ofString (String.ofList (stripQuery specifier)))

variable {document target : Path} {specifier : String}

theorem JoinsTo.isAbsolute (h : JoinsTo document specifier target) : target.isAbsolute = true := by
  obtain ⟨dir, hdir, rfl⟩ := h.joined
  exact isAbsolute_join (isAbsolute_of_parent? h.absolute hdir) _

/-- Such an import names one path, whatever files there are. -/
theorem JoinsTo.locateImport (h : JoinsTo document specifier target) (files : FileTree)
    (roots : List Path) : locateImport files document specifier roots = some target.normalize := by
  obtain ⟨dir, hdir, rfl⟩ := h.joined
  have hne : stripQuery specifier ≠ [] := by
    intro hnil
    rcases h.source with hrel | habs
    · rw [hnil] at hrel
      exact absurd hrel (by decide)
    · rw [hnil] at habs
      exact absurd habs (by decide +kernel)
  unfold ClassLens.locateImport importTarget
  by_cases hrel : isRelative (stripQuery specifier) = true
  · simp only [hne, hrel, hdir, if_true, if_false]
  · have habs := h.source.resolve_left hrel
    simp only [hne, hrel, habs, join, if_true, if_false]
    rfl

/-- An import that is relative or absolute is located, at an absolute path.  Its components are the
names of the place that the import evaluates to, without `.` and `..`, if and only if an even number of
`..` stands at the root; else a `..` comes before them.  Two imports of one place are located at one
path if and only if these numbers are both even or both odd. -/
theorem locateImport_evaluated_iff (h : JoinsTo document specifier target) (files : FileTree)
    (roots : List Path) :
    ∃ q, locateImport files document specifier roots = some q ∧ q.isAbsolute = true ∧
      q.components =
        .root :: (if target.excess % 2 = 1 then [.parent] else []) ++ target.place.map .name ∧
      ((∀ c ∈ q.components, c ≠ .current ∧ c ≠ .parent) ↔ target.excess % 2 = 0) ∧
      (q = ofPieces true target.place ↔ target.excess % 2 = 0) ∧
      ∀ files' document' specifier' roots' target', JoinsTo document' specifier' target' →
        target'.place = target.place →
        (locateImport files' document' specifier' roots' = some q ↔
          target'.excess % 2 = target.excess % 2) := by
  have habs := h.isAbsolute
  refine ⟨target.normalize, h.locateImport files roots, ?_, components_normalize habs,
    plain_normalize_iff habs, normalize_eq_place_iff habs, ?_⟩
  · rw [Path.normalize, habs]
    exact isAbsolute_ofPieces _
  · intro files' document' specifier' roots' target' h' hplace
    rw [h'.locateImport files' roots', Option.some.injEq]
    exact normalize_eq_iff habs h'.isAbsolute hplace

/-- Three specifiers for one file below the root: with one `..` too many the file is located in another
place, with three of them it is located there again. -/
theorem locateImport_evaluated_of_climbing :
    let document := Path.ofString "/App.tsx"
    ∃ q, locateImport {} document "../a.css" [] = some q ∧
      q.components = [.root, .parent, .name (bytesOf "a.css")] ∧
      locateImport {} document "./a.css" [] ≠ some q ∧
      locateImport {} document "../../../a.css" [] = some q := by
  intro document
  let joined (specifier : String) : Path :=
    (⟨[slash]⟩ : Path).join (.ofString (String.ofList (stripQuery specifier)))
  have hjoins : ∀ specifier, isRelative (stripQuery specifier) = true →
      JoinsTo document specifier (joined specifier) := fun specifier hrel =>
    ⟨by decide +kernel, .inl hrel, ⟨[slash]⟩, by decide +kernel, rfl⟩
  have hup : JoinsTo document "../a.css" (joined "../a.css") := hjoins _ (by decide +kernel)
  have hhere : JoinsTo document "./a.css" (joined "./a.css") := hjoins _ (by decide +kernel)
  have htop : JoinsTo document "../../../a.css" (joined "../../../a.css") :=
    hjoins _ (by decide +kernel)
  obtain ⟨q, hq, -, hcomponents, -, -, hsame⟩ := locateImport_evaluated_iff hup {} []
  refine ⟨q, hq, ?_, ?_, ?_⟩
  · rw [hcomponents]
    decide +kernel
  · rw [Ne, hsame {} document "./a.css" [] _ hhere (by decide +kernel)]
    decide +kernel
  · rw [hsame {} document "../../../a.css" [] _ htop (by decide +kernel)]
    decide +kernel

end ClassLens
