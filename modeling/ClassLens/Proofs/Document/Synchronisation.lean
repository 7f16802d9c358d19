import Mathlib
import ClassLens.Document.Store
import ClassLens.Proofs.Document.Positions

/-! # Documents in step with an editor

An editor edits its own copy of a text by bytes, and tells what it did by positions, in batches.  Each
edit is told of the text that the edits before it have left.

* `TextEdit`, `EditBatch`: what an editor does to its copy.
* `TextEdit.tell?`, `TextEdit.tellAll?`, `EditBatch.tellAll?`: the changes that tell of it, and the text
  after it.
* `Documents.told uri ns`: the open documents after the batches `ns` of changes of one of them.

**Main statements.** `Document.change_of_edit`: a change makes of the editor's text before the edit the
one after it.  `Documents.synchronised`: after any batches the open document has the editor's text and
the version of the last one. -/

namespace ClassLens

open Text

/-! ### The editor's copy -/

/-- An edit of a text: all of it, or the bytes between two offsets. -/
inductive TextEdit where
  | whole (text : String)
  | part (start stop : Nat) (text : String)

/-- Edits that are told at once, and the version of the text after them. -/
structure EditBatch where
  edits : List TextEdit
  version : Int

/-- The numbers of a change are below a bound. -/
def Change.Within (bound : Nat) : Change → Prop
  | .whole _ => True
  | .part start stop _ =>
    (start.line < bound ∧ start.character < bound) ∧ stop.line < bound ∧ stop.character < bound

namespace TextEdit

/-- The change that tells of an edit of a text, and the text after it.  The ends of a part stand between
characters, and in order. -/
def make? (s : String) : TextEdit → Option (Change × String)
  | .whole text => some (.whole text, text)
  | .part start stop text =>
    match splitAtByte? s.toList start, splitAtByte? s.toList stop with
    | some (front, _), some (before, back) =>
      if start ≤ stop then
        some (.part (.after front) (.after before) text,
          String.ofList (front ++ text.toList ++ back))
      else none
    | _, _ => none

/-- Texts have fewer bytes than this. -/
def sizeLimit : Nat := 2 ^ 32

/-- The same, for edits that keep the text within the limit. -/
def tell? (s : String) (e : TextEdit) : Option (Change × String) :=
  (make? s e).filter fun told => byteLength told.2.toList < sizeLimit

/-- The changes that tell of some edits, each of the text that the edits before it have left, and the
text after them. -/
def tellAll? (s : String) : List TextEdit → Option (List Change × String)
  | [] => some ([], s)
  | e :: es =>
    match tell? s e with
    | some (c, t) => (tellAll? t es).map fun (cs, u) => (c :: cs, u)
    | none => none

variable {s t : String} {e : TextEdit} {c : Change}

theorem tell?_eq_some_iff :
    tell? s e = some (c, t) ↔ make? s e = some (c, t) ∧ byteLength t.toList < sizeLimit := by
  rw [tell?, Option.filter_eq_some_iff, decide_eq_true_iff]

/-- The first edit is told of the text, and the others of what it has left. -/
theorem eq_of_tellAll?_cons {es : List TextEdit} {cs : List Change}
    (h : tellAll? s (e :: es) = some (cs, t)) :
    ∃ c u cs', tell? s e = some (c, u) ∧ tellAll? u es = some (cs', t) ∧ cs = c :: cs' := by
  rw [tellAll?] at h
  split at h
  · rename_i c u htold
    simp only [Option.map_eq_some_iff, Prod.exists, Prod.mk.injEq] at h
    obtain ⟨cs', t', hrest, rfl, rfl⟩ := h
    exact ⟨c, u, cs', htold, hrest, rfl⟩
  · cases h

/-- What tells of a part: the parts of the text around its ends. -/
theorem eq_of_make?_part {start stop : Nat} {text : String}
    (h : make? s (.part start stop text) = some (c, t)) :
    ∃ front rest before back, s.toList = front ++ rest ∧ byteLength front = start ∧
      s.toList = before ++ back ∧ byteLength before = stop ∧ start ≤ stop ∧
      c = .part (.after front) (.after before) text ∧
      t = String.ofList (front ++ text.toList ++ back) := by
  rw [make?] at h
  split at h
  · rename_i front rest before back hstart hstop
    obtain ⟨hfront, hstart⟩ := splitAtByte?_eq_some_iff.mp hstart
    obtain ⟨hbefore, hstop⟩ := splitAtByte?_eq_some_iff.mp hstop
    split at h
    · rename_i hle
      cases h
      exact ⟨front, rest, before, back, hfront, hstart, hbefore, hstop, hle, rfl, rfl⟩
    · cases h
  · cases h

/-- The numbers that tell of an edit are within the limit if the text is. -/
theorem within_of_make? (hs : byteLength s.toList < sizeLimit) (h : make? s e = some (c, t)) :
    c.Within sizeLimit := by
  cases e with
  | whole text =>
      cases h
      trivial
  | part start stop text =>
      obtain ⟨front, rest, before, back, hfront, -, hbefore, -, -, rfl, -⟩ := eq_of_make?_part h
      constructor
      · refine Position.after_lt (Nat.lt_of_le_of_lt ?_ hs)
        rw [hfront, byteLength_append]
        exact Nat.le_add_right _ _
      · refine Position.after_lt (Nat.lt_of_le_of_lt ?_ hs)
        rw [hbefore, byteLength_append]
        exact Nat.le_add_right _ _

theorem within_of_tellAll? (hs : byteLength s.toList < sizeLimit) {es : List TextEdit}
    {cs : List Change} (h : tellAll? s es = some (cs, t)) :
    byteLength t.toList < sizeLimit ∧ ∀ c ∈ cs, c.Within sizeLimit := by
  induction es generalizing s cs with
  | nil =>
      cases h
      exact ⟨hs, by simp⟩
  | cons e es ih =>
      obtain ⟨c, u, cs', htold, hrest, rfl⟩ := eq_of_tellAll?_cons h
      obtain ⟨hmake, hu⟩ := tell?_eq_some_iff.mp htold
      obtain ⟨ht, hall⟩ := ih hu hrest
      refine ⟨ht, fun c' hc' => ?_⟩
      rcases List.mem_cons.mp hc' with rfl | hmem
      · exact within_of_make? hs hmake
      · exact hall c' hmem

end TextEdit

namespace EditBatch

/-- What a course of batches tells, each with its version, and the text and the version in the end. -/
def tellAll? (s : String) (version : Int) :
    List EditBatch → Option (List (List Change × Int) × String × Int)
  | [] => some ([], s, version)
  | b :: bs =>
    match TextEdit.tellAll? s b.edits with
    | some (cs, t) => (tellAll? t b.version bs).map fun (ns, last) => ((cs, b.version) :: ns, last)
    | none => none

variable {s t : String} {v v' : Int}

/-- The first batch is told of the text, and the others of what it has left. -/
theorem eq_of_tellAll?_cons {b : EditBatch} {bs : List EditBatch} {ns : List (List Change × Int)}
    (h : tellAll? s v (b :: bs) = some (ns, t, v')) :
    ∃ cs u ns', TextEdit.tellAll? s b.edits = some (cs, u) ∧
      tellAll? u b.version bs = some (ns', t, v') ∧ ns = (cs, b.version) :: ns' := by
  rw [tellAll?] at h
  split at h
  · rename_i cs u hbatch
    simp only [Option.map_eq_some_iff, Prod.exists, Prod.mk.injEq] at h
    obtain ⟨ns', t', v'', hrest, rfl, rfl, rfl⟩ := h
    exact ⟨cs, u, ns', hbatch, hrest, rfl⟩
  · cases h

theorem within_of_tellAll? (hs : byteLength s.toList < TextEdit.sizeLimit) {bs : List EditBatch}
    {ns : List (List Change × Int)} (h : tellAll? s v bs = some (ns, t, v')) :
    ∀ n ∈ ns, ∀ c ∈ n.1, c.Within TextEdit.sizeLimit := by
  induction bs generalizing s v ns with
  | nil =>
      cases h
      simp
  | cons b bs ih =>
      obtain ⟨cs, u, ns', hbatch, hrest, rfl⟩ := eq_of_tellAll?_cons h
      obtain ⟨hu, hall⟩ := TextEdit.within_of_tellAll? hs hbatch
      intro n hn
      rcases List.mem_cons.mp hn with rfl | hmem
      · exact hall
      · exact ih hu hrest n hmem

end EditBatch

/-! ### The server's copy -/

namespace Document

variable {uri : Uri} {language : String} {s t : String} {version : Int}

/-- A change makes of the text before the edit that it tells of the text after it. -/
theorem change_of_make? {e : TextEdit} {c : Change} (h : e.make? s = some (c, t)) :
    (ofText uri language s version).change c = ofText uri language t version := by
  cases e with
  | whole text =>
      cases h
      rfl
  | part start stop text =>
      obtain ⟨front, rest, before, back, hfront, hstart, hbefore, hstop, hle, rfl, rfl⟩ :=
        TextEdit.eq_of_make?_part h
      have hs : (ofText uri language s version).offsetOf? (.after front) = some start :=
        hstart ▸ offsetOf?_after rfl hfront
      have he : (ofText uri language s version).offsetOf? (.after before) = some stop :=
        hstop ▸ offsetOf?_after rfl hbefore
      have hsplice : (ofText uri language s version).splice start stop text =
          ofText uri language (String.ofList (front ++ text.toList ++ back)) version := by
        have hcut : splitAtByte? s.toList start = some (front, rest) :=
          splitAtByte?_eq_some_iff.mpr ⟨hfront, hstart⟩
        have hcut' : splitAtByte? s.toList stop = some (before, back) :=
          splitAtByte?_eq_some_iff.mpr ⟨hbefore, hstop⟩
        simp only [splice, ofText, hcut, hcut', withText]
      simp only [change, hs, he, if_pos hle, hsplice]

/-- So do the changes of a batch, one after the other. -/
theorem foldl_change_of_tellAll? {es : List TextEdit} {cs : List Change}
    (h : TextEdit.tellAll? s es = some (cs, t)) :
    cs.foldl change (ofText uri language s version) = ofText uri language t version := by
  induction es generalizing s cs with
  | nil =>
      cases h
      rfl
  | cons e es ih =>
      obtain ⟨c, u, cs', htold, hrest, rfl⟩ := TextEdit.eq_of_tellAll?_cons h
      rw [List.foldl_cons, change_of_make? (TextEdit.tell?_eq_some_iff.mp htold).1]
      exact ih hrest

end Document

namespace Documents

variable {ds : Documents} {uri : Uri} {language : String} {s t : String} {v v' : Int}

/-- The open documents after batches of changes of one of them. -/
def told (ds : Documents) (uri : Uri) (ns : List (List Change × Int)) : Documents :=
  ns.foldl (fun ds n => Documents.change ds uri n.1 n.2) ds

/-- A batch makes of a document that was opened with the text before it one that was opened with the
text after it. -/
theorem change_of_tellAll? {b : EditBatch} {cs : List Change}
    (h : TextEdit.tellAll? s b.edits = some (cs, t)) :
    Documents.change (ds.openDocument uri language s v) uri cs b.version =
      ds.openDocument uri language t b.version := by
  have happly : (Document.ofText uri language s v).apply cs b.version =
      .ofText uri language t b.version := by
    rw [Document.apply, Document.foldl_change_of_tellAll? h]
    rfl
  rw [change, openDocument, openDocument, Table.modify_insert, happly]

/-- So does a course of batches. -/
theorem told_of_tellAll? {bs : List EditBatch} {ns : List (List Change × Int)}
    (h : EditBatch.tellAll? s v bs = some (ns, t, v')) :
    told (ds.openDocument uri language s v) uri ns = ds.openDocument uri language t v' := by
  induction bs generalizing s v ns with
  | nil =>
      cases h
      rfl
  | cons b bs ih =>
      obtain ⟨cs, u, ns', hbatch, hrest, rfl⟩ := EditBatch.eq_of_tellAll?_cons h
      rw [told, List.foldl_cons, change_of_tellAll? hbatch]
      exact ih hrest

/-- A document that an editor has opened and changed has the editor's text and the version of the last
batch, and no other document is changed by it.  All positions that are told fit into 32 bits. -/
theorem synchronised (ds : Documents) (uri : Uri) (language : String) {s t : String} {v v' : Int}
    (hs : byteLength s.toList < TextEdit.sizeLimit) {bs : List EditBatch}
    {ns : List (List Change × Int)} (h : EditBatch.tellAll? s v bs = some (ns, t, v')) :
    snapshot? (told (ds.openDocument uri language s v) uri ns) uri = some (t, v') ∧
      (∀ other ≠ uri,
        (told (ds.openDocument uri language s v) uri ns).get? other = ds.get? other) ∧
      ∀ n ∈ ns, ∀ c ∈ n.1, c.Within (2 ^ 32) := by
  refine ⟨?_, fun other hother => ?_, EditBatch.within_of_tellAll? hs h⟩
  · rw [told_of_tellAll? h]
    exact snapshot?_of_get? (d := .ofText uri language t v') (by simp [openDocument])
  · rw [told_of_tellAll? h, openDocument, Table.get?_insert, if_neg (Ne.symm hother)]

/-- An emoji that stands before a line break gives way to a letter and another break, an emoji is added
on the new last line, and it gives way to a mark in a batch of its own. -/
theorem synchronised_of_emoji :
    let uri : Uri := ⟨"file:///App.tsx"⟩
    let batches : List EditBatch :=
      [⟨[.part 1 5 "é\n", .part 7 7 "😀"], 2⟩, ⟨[.part 7 11 "!"], 5⟩]
    let ns : List (List Change × Int) :=
      [([.part ⟨0, 1⟩ ⟨0, 3⟩ "é\n", .part ⟨2, 1⟩ ⟨2, 1⟩ "😀"], 2), ([.part ⟨2, 1⟩ ⟨2, 3⟩ "!"], 5)]
    EditBatch.tellAll? "a😀\r\nb" 1 batches = some (ns, "aé\n\r\nb!", 5) ∧
      snapshot? (told (openDocument .empty uri "css" "a😀\r\nb" 1) uri ns) uri =
        some ("aé\n\r\nb!", 5) := by
  intro uri batches ns
  have htold : EditBatch.tellAll? "a😀\r\nb" 1 batches = some (ns, "aé\n\r\nb!", 5) := by cbv
  have hsize : byteLength "a😀\r\nb".toList < TextEdit.sizeLimit := by decide
  exact ⟨htold, (synchronised .empty uri "css" hsize htold).1⟩

end Documents

end ClassLens
