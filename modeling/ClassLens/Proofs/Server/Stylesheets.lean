import ClassLens.Proofs.Resolve.Completion
import ClassLens.Proofs.Server.Settings

/-! # Stylesheets that are open

A stylesheet that is open is read as it is in the editor, and an edit of it reaches every open document
that imports it, unless it comes between a run's reading it and the run's end.  The documents to be
resolved again are found by what is kept of them, and a run that has read the stylesheet before the edit
may keep its result after it.

* `Server.Unset s`: no change of settings is asked for or goes on.

**Main statements.** `Server.resolved_afresh`: once no task is left, what is kept of an open document is
what its text comes to now, with the stylesheets as they are in the editor. -/

namespace ClassLens

open Usage

namespace Server

variable {files : FileTree} {sheets : String → Prop} {uri : Uri} {s : Server} {i : Impulse}
  {is : List Impulse}

/-! ### Settings that stay -/

/-- No change of settings is asked for or goes on. -/
def Unset (s : Server) : Prop :=
  ∀ id h, s.handlers.get? id = some h →
    (∀ payload, h ≠ .configuring payload) ∧ ∀ new phase, h ≠ .changing new phase

theorem Unset.steady (h : s.Unset) (i : Impulse) : s.Steady i := by
  rintro id new phase - hh
  exact (h id _ hh).2 new phase rfl

theorem unset_act (h : s.Unset) (hi : ∀ payload, i ≠ .received (.configured payload)) :
    (s.act files i).server.Unset := by
  intro id a ha
  rcases (shifts_act s files i).cases ha with old | ⟨call, rfl, starts, -⟩ | ⟨a₀, rfl, old, moves⟩
  · exact h id a old
  · cases starts with
    | configuring payload => exact absurd rfl (hi payload)
    | opening | lensAsked => simp
  · cases moves with
    | begun => exact absurd rfl ((h id _ old).1 _)
    | changing => exact absurd rfl ((h id _ old).2 _ _)
    | announcing | lensResolving => simp

theorem unset_begin (x : Extractor) (pinned : Bool) (client : Client) :
    ((ofExtractor x pinned).begin files client).Unset := by
  have hnone : ((ofExtractor x pinned).begin files client).handlers = .empty := by
    simp only [begin, applySettings]
    split <;> rfl
  intro id h hh
  rw [hnone] at hh
  cases hh

theorem steady_of_unset (h : s.Unset) {P : Server → Impulse → Prop}
    (hset : ∀ payload, .received (.configured payload) ∉ is) (his : s.Throughout P files is) :
    s.Throughout (fun s i => P s i ∧ s.Steady i) files is := by
  induction is generalizing s with
  | nil => trivial
  | cons i is ih =>
      have hi : ∀ payload, i ≠ .received (.configured payload) := by
        rintro payload rfl
        exact hset payload List.mem_cons_self
      exact ⟨⟨his.1, h.steady i⟩,
        ih (unset_act h hi) (fun payload hmem => hset payload (List.mem_cons_of_mem i hmem)) his.2⟩

/-! ### When no task is left -/

/-- The document is resolved, or its task is at work. -/
theorem Current.kept {due : Prop} (h : s.Current due files sheets uri) (hdue : due)
    (hidle : ∀ id, s.session.agents.get? id = none) {d : Document}
    (hd : s.documents.get? uri = some d) (hr : d.isResolvable = true) :
    s.session.resolver.resolution? uri =
      some (s.session.resolver.afresh (s.editor files) ⟨uri, d.text, d.version⟩) := by
  rcases (h.upToDate hdue d hd hr).busy with ⟨id, t, htask, -⟩ | hkeeps
  · rw [hidle id] at htask
    cases htask
  · exact hkeeps

/-- What an import finds at an open stylesheet is its text in the editor. -/
theorem sought_of_open {path : Path} {css text : String} (himports : s.Imports files uri text path)
    (hopen : s.documents.atPath? path = some css) (r : Resolver) (version : Int) :
    ∃ job, r.seek (s.editor files) ⟨uri, text, version⟩ r.options = .ok job ∧ job.path = path ∧
      job.css = css := by
  obtain ⟨found, hfound, hpath⟩ := himports
  have hread : (s.editor files).read path = .ok css := by
    simp only [editor, readCss, hopen]
  have hlocate : (s.editor files).locate uri found.specifier = some path := hpath
  simp only [Resolver.seek, hfound, hlocate, hread]
  exact ⟨_, rfl, rfl, rfl⟩

/-- Once no task is left, what is kept of an open document is what its text comes to afresh, and a
stylesheet that it imports and that is open counts as it is in the editor now. -/
theorem resolved_afresh (hinj : ∀ a b, sheets a → sheets b → digest a = digest b → a = b)
    {x : Extractor} {pinned : Bool} {client : Client}
    (hs : s = ((ofExtractor x pinned).begin files client).after files is)
    (hset : ∀ payload, .received (.configured payload) ∉ is)
    (his : ((ofExtractor x pinned).begin files client).Throughout (Careful files sheets uri) files is)
    (hidle : ∀ id, s.session.agents.get? id = none) {d : Document}
    (hd : s.documents.get? uri = some d) (hr : d.isResolvable = true) :
    s.session.resolver.resolution? uri =
        some (s.session.resolver.afresh (s.editor files) ⟨uri, d.text, d.version⟩) ∧
      ∀ path css, s.Imports files uri d.text path → s.documents.atPath? path = some css →
        ∃ job, s.session.resolver.seek (s.editor files) ⟨uri, d.text, d.version⟩
            s.session.resolver.options = .ok job ∧ job.path = path ∧ job.css = css := by
  have hbegin : ((ofExtractor x pinned).begin files client).Current True files sheets uri :=
    current_begin x pinned client
  have hcurrent : s.Current True files sheets uri := by
    rw [hs]
    exact current_after hinj hbegin (steady_of_unset (unset_begin x pinned client) hset his)
  exact ⟨hcurrent.kept trivial hidle hd hr, fun path css himports hopen =>
    sought_of_open himports hopen s.session.resolver d.version⟩

end Server

/-! ### A sample -/

namespace Sample

/-- The stylesheet that the document imports, open in the editor. -/
def sheet : Uri := ⟨"file:///a.css"⟩

def sheetPath : Path := ⟨[0x2F, 0x61, 0x2E, 0x63, 0x73, 0x73]⟩

/-- The document, open in the editor. -/
def page : Document := .ofText uri "typescriptreact" "import './a.css';styles.a;k.a" 1

/-- A server without files and settings. -/
def server : Server := (Server.ofExtractor painter true).begin {} {}

/-- Whatever is to be done for a task that is left alone. -/
def working (id : Nat) : List Impulse := (List.replicate 7 id).map fun id => .resumed id false

/-- The stylesheet and the document are opened, and the document is resolved. -/
def opening : List Impulse :=
  [.received (.opened sheet "css" "red" 1), .handled 0, .handled 0,
    .received (.opened uri "typescriptreact" page.text 1), .handled 1, .handled 1] ++ working 1

/-- The stylesheet is edited. -/
def restyled : Impulse := .received (.changed sheet [.whole "blue"] 2)

/-- The texts of the documents. -/
def texts : List String := ["red", "blue", page.text]

theorem digest_texts {a b : String} (ha : a ∈ texts) (hb : b ∈ texts) (h : digest a = digest b) :
    a = b := by
  have hall : ∀ a ∈ texts, ∀ b ∈ texts, digest a = digest b → a = b := by decide +kernel
  exact hall a ha b hb h

end Sample

namespace Server

open Sample in
/-- The stylesheet is edited while no run has read it. -/
theorem careful_restyled :
    (server.after {} opening).Careful {} (· ∈ texts) Sample.uri restyled := by
  generalize hs : server.after {} opening = s
  have hbefore : s.documents.get? Sample.uri = some page := by
    rw [← hs]
    decide +kernel
  have hafter : (s.act {} restyled).server.documents.get? Sample.uri = some page := by
    rw [← hs]
    decide +kernel
  have hplace : ∀ path, s.Imports {} Sample.uri page.text path → path = sheetPath := by
    rintro path ⟨found, hfound, hpath⟩
    have hfirst : (imports page.text).head?.map CssImport.specifier = some "./a.css" := by
      decide +kernel
    have hlocate : s.locate {} Sample.uri "./a.css" = some sheetPath := by
      rw [← hs]
      decide +kernel
    rw [hfound, Option.map_some, Option.some.injEq] at hfirst
    rw [hfirst, hlocate, Option.some.injEq] at hpath
    exact hpath.symm
  have hstyles : s.Styles sheetPath ∧ (s.act {} restyled).server.Styles sheetPath := by
    rw [← hs]
    exact ⟨styles_of_entries (by decide +kernel), styles_of_entries (by decide +kernel)⟩
  have hidle : ∀ id, s.session.agents.get? id = none := by
    rw [← hs]
    exact Table.get?_of_size_zero (by decide +kernel)
  refine ⟨reads_of_open (by rw [← hs]; decide +kernel), nofun, fun d d' hd hd' => ?_, nofun,
    fun d path hd _ himports _ => ⟨?_, fun id run hrun => ?_⟩⟩
  · rw [hbefore, Option.some.injEq] at hd
    rw [hafter, Option.some.injEq] at hd'
    exact .inl (hd'.symm.trans hd)
  · rw [hbefore, Option.some.injEq] at hd
    rw [hplace path (hd ▸ himports)]
    exact hstyles
  · exact absurd hrun (not_runs_of_idle hidle id run)

open Sample in
theorem resolved_of_restyled :
    let s := server.after {} (opening ++ restyled :: working 2)
    s.session.resolver.resolution? Sample.uri =
      some { painted "blue" with source := some ⟨"./a.css", some sheetPath⟩ } := by
  intro s
  have hopening : server.Throughout (Quiet texts Sample.uri) {} opening := by decide +kernel
  have hworking : ((server.after {} opening).act {} restyled).server.Throughout
      (Quiet texts Sample.uri) {} (working 2) := by decide +kernel
  have hcareful : server.Throughout (Careful {} (· ∈ texts) Sample.uri) {}
      (opening ++ restyled :: working 2) :=
    throughout_append.mpr ⟨hopening.mono fun _ _ => careful_of_quiet, careful_restyled,
      hworking.mono fun _ _ => careful_of_quiet⟩
  have hidle : ∀ id, s.session.agents.get? id = none := Table.get?_of_size_zero (by decide +kernel)
  have hopen : s.documents.get? Sample.uri = some page := by decide +kernel
  have hs : s = ((ofExtractor painter true).begin {} {}).after {}
      (opening ++ restyled :: working 2) := rfl
  obtain ⟨hkept, -⟩ := resolved_afresh (fun _ _ => digest_texts) hs
    (by simp [opening, working, restyled]) hcareful hidle hopen (by decide +kernel)
  rw [hkept]
  decide +kernel

end Server

end ClassLens
