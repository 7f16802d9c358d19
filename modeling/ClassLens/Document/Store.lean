import ClassLens.Document.Basic
import ClassLens.Table

/-! # Open documents

* `Documents`: the open documents by their URIs.
* `open`, `change`, `close`: what an editor tells about them.
* `Documents.atPath?`: the text of the open document that a file path names.
* `Documents.IsAt uri path`: a document with this URI is the one that the path names.

**Main statements.** `atPath?_insert_of_not`, `atPath?_close_of_not`: a document is only read in the
place that its URI names. -/

namespace ClassLens

/-- The open documents. -/
abbrev Documents := Table Uri Document

namespace Documents

/-- A document is opened; one that was open under the URI is replaced. -/
def openDocument (ds : Documents) (uri : Uri) (language text : String) (version : Int) : Documents :=
  ds.insert uri (.ofText uri language text version)

/-- A document is changed, if it is open. -/
def change (ds : Documents) (uri : Uri) (changes : List Change) (version : Int) : Documents :=
  ds.modify uri fun d => d.apply changes version

/-- A document is closed. -/
def close (ds : Documents) (uri : Uri) : Documents :=
  ds.erase uri

/-- The text and the version of an open document. -/
def snapshot? (ds : Documents) (uri : Uri) : Option (String × Int) :=
  (ds.get? uri).map fun d => (d.text, d.version)

/-- The text of the open document that a path names. -/
def atPath? (ds : Documents) (p : Path) : Option String :=
  (ds.entries.find? fun e => e.1.filePath?.any fun q => q.same p).map fun e => e.2.text

/-! ### Where documents are read -/

variable {ds : Documents} {uri : Uri} {path : Path}

/-- The document's URI names the path. -/
def IsAt (uri : Uri) (path : Path) : Prop := uri.filePath?.any (fun q => q.same path) = true

instance (uri : Uri) (path : Path) : Decidable (IsAt uri path) :=
  inferInstanceAs (Decidable (_ = true))

theorem find?_put_of_not (h : ¬ IsAt uri path) (d : Document) (l : List (Uri × Document)) :
    (Table.put uri d l).find? (fun e => e.1.filePath?.any fun q => q.same path) =
      l.find? fun e => e.1.filePath?.any fun q => q.same path := by
  have hno : (uri.filePath?.any fun q => q.same path) = false := by simpa [IsAt] using h
  induction l with
  | nil => simp [Table.put, hno]
  | cons e rest ih =>
      obtain ⟨u, d'⟩ := e
      by_cases hu : u = uri
      · subst hu
        simp [Table.put, hno]
      · simp only [Table.put, hu, if_false, List.find?_cons, ih]

/-- A document that is not there is not read there, whatever its text. -/
theorem atPath?_insert_of_not (h : ¬ IsAt uri path) (d : Document) :
    Documents.atPath? (ds.insert uri d) path = ds.atPath? path := by
  unfold atPath? Table.insert
  simp only [find?_put_of_not h]

theorem atPath?_close_of_not (h : ¬ IsAt uri path) :
    Documents.atPath? (ds.close uri) path = ds.atPath? path := by
  unfold atPath? close Table.erase
  congr 1
  rw [List.find?_filter]
  congr 1
  funext e
  by_cases hu : e.1 = uri
  · have hno : (e.1.filePath?.any fun q => q.same path) = false := by
      rw [hu]
      simpa [IsAt] using h
    simp [hno]
  · simp [hu]

theorem snapshot?_of_get? {d : Document} (h : ds.get? uri = some d) :
    ds.snapshot? uri = some (d.text, d.version) := by
  rw [snapshot?, h, Option.map_some]

end Documents

end ClassLens
