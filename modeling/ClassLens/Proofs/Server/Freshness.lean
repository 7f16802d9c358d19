import ClassLens.Proofs.Server.Handlers

/-! # Documents that are up to date

A server makes a task for a document that was opened or edited, and tasks for those whose stylesheet
was.  While its settings stay, this keeps every document up to date, if no run that has read a
stylesheet is under way when the stylesheet changes.

* `Server.Imports files uri text path`: the stylesheet that a text imports first.
* `Server.Styles path`: only stylesheets are open in this place.
* `Server.Careful files sheets uri s i`: the document gets a greater version with each edit, and neither
  its closing nor a change of its stylesheet falls into one of its runs.
  `Server.Quiet texts uri s i`: a test for it where no document changes.
* `Server.Current due files sheets uri s`: the invariant; the document is up to date, if this is `due`.
* `Server.Awaits due files sheets uri path s`: the document is up to date, or about to be refreshed with
  those that import the stylesheet.

**Main statements.** `Server.current_insert`, `Server.current_close`: a document that is opened, edited
or closed leaves the others up to date, and is brought up to date itself.  `Server.current_act`: every
careful impulse keeps the invariant while the settings stay. -/

namespace ClassLens

open Usage

namespace Server

variable {files : FileTree} {sheets : String → Prop} {uri : Uri} {due : Prop} {s s' s₁ : Server}

/-! ### What a server reads for a document -/

/-- The first import of a text in the document leads to the path. -/
def Imports (s : Server) (files : FileTree) (uri : Uri) (text : String) (path : Path) : Prop :=
  ∃ found, (imports text).head? = some found ∧ s.locate files uri found.specifier = some path

/-- Only stylesheets are open in this place. -/
def Styles (s : Server) (path : Path) : Prop :=
  ∀ u d, s.documents.get? u = some d → Documents.IsAt u path →
    d.isStylesheet = true ∧ d.isResolvable = false

theorem styles_of_entries {path : Path} (h : ∀ e ∈ s.documents.entries, Documents.IsAt e.1 path →
    e.2.isStylesheet = true ∧ e.2.isResolvable = false) : s.Styles path :=
  fun u d hd => h (u, d) (Table.mem_of_lookup hd)

/-- What runs read are stylesheets that count. -/
def Reads (files : FileTree) (sheets : String → Prop) (s : Server) : Prop :=
  ∀ path css, (s.editor files).read path = .ok css → sheets css

theorem readCss_congr (h : s'.documents = s.documents) (path : Path) :
    s'.readCss files path = s.readCss files path := by
  unfold readCss
  rw [h]

theorem readCss_of_atPath? {path : Path} (h : s'.documents.atPath? path = s.documents.atPath? path) :
    s'.readCss files path = s.readCss files path := by
  unfold readCss
  rw [h]

theorem locate_congr (h : s'.roots = s.roots) : s'.locate files = s.locate files := by
  unfold locate
  rw [h]

/-- The same is found for a document if its stylesheet is the same. -/
theorem seek_congr (hroots : s'.roots = s.roots) (r : Resolver) {text : String} {version : Int}
    (hread : ∀ path, s.Imports files uri text path →
      s'.readCss files path = s.readCss files path) (options : Options) :
    r.seek (s'.editor files) ⟨uri, text, version⟩ options =
      r.seek (s.editor files) ⟨uri, text, version⟩ options :=
  Resolver.seek_congr_editor r (congrFun (locate_congr hroots) uri)
    (fun found path hfound hpath => hread path ⟨found, hfound, hpath⟩) options

/-! ### The invariant -/

/-- The session keeps to the extractor in force, nothing in it is ahead of the document, and the
document is up to date, if this is due and usages are looked for in it. -/
structure Current (due : Prop) (files : FileTree) (sheets : String → Prop) (uri : Uri)
    (s : Server) : Prop where
  faithful : s.session.Faithful sheets
  within : s.session.Within (s.editor files) uri
  upToDate : due → ∀ d, s.documents.get? uri = some d → d.isResolvable = true →
    s.session.UpToDate (s.editor files) uri d.text d.version

/-- Something changes that leaves the document and its stylesheet as they are. -/
theorem Current.elsewhere (h : s.Current due files sheets uri) (hsession : s₁.session = s.session)
    (hroots : s₁.roots = s.roots) (hsame : s₁.documents.get? uri = s.documents.get? uri)
    (hstill : due → ∀ d path, s.documents.get? uri = some d → d.isResolvable = true →
      s.Imports files uri d.text path → s₁.readCss files path = s.readCss files path) :
    s₁.Current due files sheets uri := by
  have hsnapshot : (s₁.editor files).snapshot? uri = (s.editor files).snapshot? uri := by
    simp only [editor, Documents.snapshot?, hsame]
  refine ⟨hsession ▸ h.faithful, hsession ▸ h.within.congr hsnapshot, fun hdue d hd hr => ?_⟩
  rw [hsame] at hd
  rw [hsession]
  exact (h.upToDate hdue d hd hr).congr h.within hsnapshot
    (seek_congr hroots _ fun path himports => hstill hdue d path hd hr himports)

/-- Only the session, the documents and the roots count. -/
theorem Current.of_eq (h : s.Current due files sheets uri) (hsession : s'.session = s.session)
    (hdocuments : s'.documents = s.documents) (hroots : s'.roots = s.roots) :
    s'.Current due files sheets uri :=
  h.elsewhere hsession hroots (by rw [hdocuments]) fun _ _ path _ _ _ => readCss_congr hdocuments path

/-- A moment of the session that suits the document keeps the invariant. -/
theorem current_turn (hinj : ∀ a b, sheets a → sheets b → digest a = digest b → a = b)
    (h : s.Current due files sheets uri) {o : Occasion} {session : Session} {events : List Event}
    (hturn : s.session.Turn ⟨s.editor files, o⟩ session events)
    (hm : Moment.Suits sheets uri ⟨s.editor files, o⟩) :
    Current due files sheets uri { s with session } where
  faithful := Session.faithful_turn h.faithful hturn hm.toPlain
  within := Session.within_turn h.within hturn hm
  upToDate := fun hdue d hd hr =>
    Session.upToDate_turn hinj h.faithful h.within (h.upToDate hdue d hd hr) hturn hm

/-! ### Documents whose stylesheet changes -/

/-- The document is up to date, or is going to be when those that import the stylesheet are
refreshed. -/
structure Awaits (due : Prop) (files : FileTree) (sheets : String → Prop) (uri : Uri) (path : Path)
    (s : Server) : Prop where
  faithful : s.session.Faithful sheets
  within : s.session.Within (s.editor files) uri
  heading : due → ∀ d, s.documents.get? uri = some d → d.isResolvable = true →
    s.session.Heading (s.editor files) uri d.text d.version ∧
      ((s.session.Works uri d.version ∨
          s.session.KeepsAfresh (s.editor files) uri d.text d.version) ∨
        uri ∈ s.session.resolver.importing path)

theorem Current.awaits (h : s.Current due files sheets uri) (path : Path) :
    s.Awaits due files sheets uri path where
  faithful := h.faithful
  within := h.within
  heading := fun hdue d hd hr =>
    ⟨(h.upToDate hdue d hd hr).heading, .inl (h.upToDate hdue d hd hr).busy⟩

/-- The documents that import the stylesheet are refreshed. -/
theorem Awaits.refreshed (hinj : ∀ a b, sheets a → sheets b → digest a = digest b → a = b)
    {path : Path} (h : s.Awaits due files sheets uri path) :
    Current due files sheets uri
      { s with
        session := s.session.after
          ((s.session.resolver.importing path).map fun u => ⟨s.editor files, .refreshed u⟩) } := by
  obtain ⟨hf, hw, hheading⟩ := h
  have hboth : ∀ us : List Uri, ∀ session : Session, session.Faithful sheets →
      session.Within (s.editor files) uri →
      (session.after (us.map fun u => ⟨s.editor files, .refreshed u⟩)).Faithful sheets ∧
        (session.after (us.map fun u => ⟨s.editor files, .refreshed u⟩)).Within (s.editor files)
          uri := by
    intro us
    induction us with
    | nil => exact fun session hf hw => ⟨hf, hw⟩
    | cons u us ih =>
        intro session hf hw
        have hturn := Session.turn_act session ⟨s.editor files, .refreshed u⟩
        have hm := Session.suits_refreshed sheets (s.editor files) uri u
        exact ih _ (Session.faithful_turn hf hturn hm.toPlain) (Session.within_turn hw hturn hm)
  obtain ⟨hf', hw'⟩ := hboth (s.session.resolver.importing path) s.session hf hw
  refine ⟨hf', hw', fun hdue d hd hr => ?_⟩
  obtain ⟨hh, hbusy⟩ := hheading hdue d hd hr
  exact Session.upToDate_of_refreshes hinj hf hw hh hbusy

theorem mem_importing {r : Resolver} {kept : Resolution} {path path' : Path}
    (hkept : r.resolution? uri = some kept) (hpath : kept.path? = some path)
    (hsame : path'.same path = true) : uri ∈ r.importing path' := by
  refine List.mem_map.mpr ⟨(uri, kept), List.mem_filter.mpr ⟨Table.mem_of_lookup hkept, ?_⟩, rfl⟩
  rw [Path.same, beq_iff_eq] at hsame
  simp [hpath, Path.same, hsame]

/-- The stylesheet of the document changes while no run for it has read the stylesheet: the document
awaits the refresh. -/
theorem Current.awaits_of_restyled (h : s.Current due files sheets uri)
    (hsession : s₁.session = s.session) (hroots : s₁.roots = s.roots)
    (hsame : s₁.documents.get? uri = s.documents.get? uri) {path' : Path}
    (hrestyled : due → ∀ d path, s.documents.get? uri = some d → d.isResolvable = true →
      s.Imports files uri d.text path → s₁.readCss files path ≠ s.readCss files path →
      path'.same path = true ∧ ∀ id run, s.session.Runs id run → run.request.uri = uri →
        run.request.version = d.version → run.job? = none) :
    s₁.Awaits due files sheets uri path' := by
  have hsnapshot : (s₁.editor files).snapshot? uri = (s.editor files).snapshot? uri := by
    simp only [editor, Documents.snapshot?, hsame]
  refine ⟨hsession ▸ h.faithful, hsession ▸ h.within.congr hsnapshot, fun hdue d hd hr => ?_⟩
  rw [hsame] at hd
  rw [hsession]
  have hup := h.upToDate hdue d hd hr
  by_cases hstill : ∀ path, s.Imports files uri d.text path →
      s₁.readCss files path = s.readCss files path
  · have hup' := hup.congr h.within hsnapshot (seek_congr hroots _ hstill)
    exact ⟨hup'.heading, .inl hup'.busy⟩
  · simp only [not_forall] at hstill
    obtain ⟨path, himports, hne⟩ := hstill
    obtain ⟨hplace, hunread⟩ := hrestyled hdue d path hd hr himports hne
    refine ⟨hup.heading.restyled hsnapshot hunread, ?_⟩
    rcases hup.busy with hworks | hkeeps
    · exact .inl (.inl hworks)
    · obtain ⟨found, hfound, hpath⟩ := himports
      exact .inr (mem_importing hkeeps (Request.path?_outcome _ _ hfound hpath) hplace)

/-! ### A document is opened or edited -/

/-- A task is made for a document. -/
theorem current_scheduled (hinj : ∀ a b, sheets a → sheets b → digest a = digest b → a = b)
    (h : s.Current due files sheets uri) {u : Uri} {d : Document}
    (hd : s.documents.get? u = some d) (delay : Nat) :
    Current due files sheets uri { s with session := (s.session.schedule u d.version delay).1 } :=
  current_turn hinj h
    (.scheduled (m := ⟨s.editor files, .refreshed u⟩)
      (.refreshed (Documents.snapshot?_of_get? hd)) delay)
    (Session.suits_refreshed sheets _ uri u)

/-- Another document is opened or edited. -/
theorem current_insert_of_ne (hinj : ∀ a b, sheets a → sheets b → digest a = digest b → a = b)
    (h : s.Current due files sheets uri) {u : Uri} (hu : u ≠ uri) {d' : Document}
    (hs₁ : s₁ = { s with documents := s.documents.insert u d' })
    (hrestyled : due → ∀ d path, s.documents.get? uri = some d → d.isResolvable = true →
      s.Imports files uri d.text path → s₁.readCss files path ≠ s.readCss files path →
      s₁.Styles path ∧ ∀ id run, s.session.Runs id run → run.request.uri = uri →
        run.request.version = d.version → run.job? = none)
    (hupdates : s₁.Updates files u s') : s'.Current due files sheets uri := by
  have hfound : s₁.documents.get? u = some d' := by rw [hs₁]; simp
  have hsame : s₁.documents.get? uri = s.documents.get? uri := by rw [hs₁]; simp [hu]
  have hat : ∀ path, s₁.readCss files path ≠ s.readCss files path → Documents.IsAt u path := by
    intro path hne
    by_contra hno
    refine hne (readCss_of_atPath? ?_)
    rw [hs₁]
    exact Documents.atPath?_insert_of_not hno d'
  -- if the stylesheet changes, it is the other document, which is refreshed for
  have hstill : (d'.isResolvable = true ∨ d'.isStylesheet = false ∨ u.filePath? = none) →
      s₁.Current due files sheets uri := by
    intro hother
    refine h.elsewhere (by rw [hs₁]) (by rw [hs₁]) hsame fun hdue d path hd hr himports => ?_
    by_contra hne
    have hplace := hat path hne
    obtain ⟨hstyle, hno⟩ := (hrestyled hdue d path hd hr himports hne).1 u d' hfound hplace
    rcases hother with h' | h' | h'
    · rw [hno] at h'
      cases h'
    · rw [hstyle] at h'
      cases h'
    · simp [Documents.IsAt, h'] at hplace
  cases hupdates with
  | nothing other =>
      obtain ⟨-, hplace⟩ := other d' hfound
      cases hstyle : d'.isStylesheet with
      | false => exact hstill (.inr (.inl hstyle))
      | true => exact hstill (.inr (.inr (hplace hstyle)))
  | @scheduled d found resolvable delay =>
      rw [hfound, Option.some.injEq] at found
      subst found
      exact (current_scheduled hinj (hstill (.inl resolvable)) hfound delay).of_eq rfl rfl rfl
  | @refreshed d path found other stylesheet place =>
      refine Awaits.refreshed hinj (h.awaits_of_restyled (by rw [hs₁]) (by rw [hs₁]) hsame ?_)
      intro hdue d path' hd hr himports hne
      refine ⟨?_, (hrestyled hdue d path' hd hr himports hne).2⟩
      have hplace := hat path' hne
      rw [Documents.IsAt, place] at hplace
      exact hplace

/-- A document that is opened, or edited and gets a greater version, leaves nothing ahead of it, and
no run is for the new version. -/
theorem Current.within_inserted (h : s.Current due files sheets uri) {d' : Document}
    (hs₁ : s₁ = { s with documents := s.documents.insert uri d' })
    (hedited : ∀ d, s.documents.get? uri = some d → d.version < d'.version) :
    s₁.session.Within (s₁.editor files) uri ∧
      ∀ id run, s₁.session.Runs id run → run.request.uri = uri → run.request.version ≠ d'.version := by
  have hsession : s₁.session = s.session := by rw [hs₁]
  have hsnapshot : (s₁.editor files).snapshot? uri = some (d'.text, d'.version) :=
    Documents.snapshot?_of_get? (by rw [hs₁]; simp)
  rw [hsession]
  cases hd : s.documents.get? uri with
  | none =>
      have hnone : (s.editor files).snapshot? uri = none := by
        simp [editor, Documents.snapshot?, hd]
      refine ⟨h.within.opened hnone _, fun id run hrun hu => ?_⟩
      obtain ⟨t, v, hs, -⟩ := h.within.requests id run hrun hu
      rw [hnone] at hs
      cases hs
  | some d =>
      have hold : (s.editor files).snapshot? uri = some (d.text, d.version) :=
        Documents.snapshot?_of_get? hd
      have hlt := hedited d hd
      refine ⟨h.within.edited hold hsnapshot hlt, fun id run hrun hu hv => ?_⟩
      obtain ⟨t, v, hs, hserves⟩ := h.within.requests id run hrun hu
      rw [hold, Option.some.injEq, Prod.mk.injEq] at hs
      have hle := hserves.le
      omega

/-- The document is opened, or edited and gets a greater version. -/
theorem current_insert_self (hinj : ∀ a b, sheets a → sheets b → digest a = digest b → a = b)
    (h : s.Current due files sheets uri) {d' : Document}
    (hs₁ : s₁ = { s with documents := s.documents.insert uri d' })
    (hedited : ∀ d, s.documents.get? uri = some d → d' = d ∨ d.version < d'.version)
    (hupdates : s₁.Updates files uri s') : s'.Current due files sheets uri := by
  have hfound : s₁.documents.get? uri = some d' := by rw [hs₁]; simp
  have hsession : s₁.session = s.session := by rw [hs₁]
  have hsnapshot : (s₁.editor files).snapshot? uri = some (d'.text, d'.version) :=
    Documents.snapshot?_of_get? hfound
  -- nothing is ahead of the new text, and no run for it has found something else
  obtain ⟨hw, hcourse⟩ : s₁.session.Within (s₁.editor files) uri ∧
      (due → d'.isResolvable = true → ∀ id run, s₁.session.Runs id run → run.request.uri = uri →
        run.request.version = d'.version → run.OnCourse s₁.session.resolver (s₁.editor files)) := by
    by_cases hsame : s.documents.get? uri = some d'
    · have heq : s₁ = s := by rw [hs₁, Table.insert_self hsame]
      rw [heq]
      exact ⟨h.within, fun hdue hr => (h.upToDate hdue d' hsame hr).heading.course⟩
    · obtain ⟨hw, hnew⟩ := h.within_inserted hs₁ fun d hd =>
        (hedited d hd).resolve_left fun heq => hsame (heq ▸ hd)
      exact ⟨hw, fun _ _ id run hrun hu hv => absurd hv (hnew id run hrun hu)⟩
  have h₁ : d'.isResolvable = false → s₁.Current due files sheets uri := fun hno =>
    ⟨hsession ▸ h.faithful, hw, fun _ d hd hr => by
      rw [hfound, Option.some.injEq] at hd
      rw [← hd, hno] at hr
      cases hr⟩
  cases hupdates with
  | nothing other => exact h₁ (other d' hfound).1
  | @scheduled d found resolvable delay =>
      rw [hfound, Option.some.injEq] at found
      subst found
      have hturn : s₁.session.Turn ⟨s₁.editor files, .refreshed uri⟩
          (s₁.session.schedule uri d'.version delay).1 [] := .scheduled (.refreshed hsnapshot) delay
      have hm := Session.suits_refreshed sheets (s₁.editor files) uri uri
      have hscheduled : Current due files sheets uri
          { s₁ with session := (s₁.session.schedule uri d'.version delay).1 } := by
        refine ⟨Session.faithful_turn (hsession ▸ h.faithful) hturn hm.toPlain,
          Session.within_turn hw hturn hm, fun hdue d hd hr => ?_⟩
        rw [hfound, Option.some.injEq] at hd
        subst hd
        exact Session.upToDate_schedule hw hsnapshot (hcourse hdue hr) delay
      exact hscheduled.of_eq rfl rfl rfl
  | @refreshed d path found other stylesheet place =>
      rw [hfound, Option.some.injEq] at found
      subst found
      exact ((h₁ other).awaits path).refreshed hinj

/-- A document is opened or edited: it is brought up to date, and the others stay so. -/
theorem current_insert (hinj : ∀ a b, sheets a → sheets b → digest a = digest b → a = b)
    (h : s.Current due files sheets uri) {u : Uri} {d' : Document}
    (hs₁ : s₁ = { s with documents := s.documents.insert u d' })
    (hedited : u = uri → ∀ d, s.documents.get? uri = some d → d' = d ∨ d.version < d'.version)
    (hrestyled : u ≠ uri → due → ∀ d path, s.documents.get? uri = some d → d.isResolvable = true →
      s.Imports files uri d.text path → s₁.readCss files path ≠ s.readCss files path →
      s₁.Styles path ∧ ∀ id run, s.session.Runs id run → run.request.uri = uri →
        run.request.version = d.version → run.job? = none)
    (hupdates : s₁.Updates files u s') : s'.Current due files sheets uri := by
  by_cases hu : u = uri
  · subst hu
    exact current_insert_self hinj h hs₁ (hedited rfl) hupdates
  · exact current_insert_of_ne hinj h hu hs₁ (hrestyled hu) hupdates

/-! ### A document is closed -/

/-- The session forgets a document. -/
theorem current_forgotten (hinj : ∀ a b, sheets a → sheets b → digest a = digest b → a = b)
    (h : s.Current due files sheets uri) {u : Uri} (hu : u ≠ uri) :
    Current due files sheets uri { s with session := s.session.forget u } :=
  current_turn hinj h (.forgotten _ u) (Session.suits_forgotten sheets _ hu)

/-- What the cache knows of a stylesheet is forgotten. -/
theorem current_invalidated (hinj : ∀ a b, sheets a → sheets b → digest a = digest b → a = b)
    (h : s.Current due files sheets uri) (path : Path) :
    Current due files sheets uri
      (s.withResolver
        { s.session.resolver with cache := s.session.resolver.cache.invalidate path }) :=
  current_turn hinj h (.changed _ (.useCache (.invalidate path)))
    (Session.suits_invalidated sheets _ uri path)

/-- The document itself is gone while no run for it is under way: nothing is known of it. -/
theorem current_withoutDocument_self (h : s.Current due files sheets uri)
    (hclosed : ∀ id run, s.session.Runs id run → run.request.uri ≠ uri) :
    (s.withoutDocument uri).Current due files sheets uri where
  faithful := Session.faithful_turn h.faithful (.forgotten (s.editor files) uri) ⟨nofun, nofun⟩
  within := Session.within_forget hclosed _
  upToDate := fun _ d hd => by
    simp [withoutDocument, Documents.close] at hd

/-- Another document is closed. -/
theorem current_close_of_ne (hinj : ∀ a b, sheets a → sheets b → digest a = digest b → a = b)
    (h : s.Current due files sheets uri) {u : Uri} (hu : u ≠ uri)
    (hrestyled : due → ∀ d path, s.documents.get? uri = some d → d.isResolvable = true →
      s.Imports files uri d.text path →
      (s.withoutDocument u).readCss files path ≠ s.readCss files path →
      s.Styles path ∧ ∀ id run, s.session.Runs id run → run.request.uri = uri →
        run.request.version = d.version → run.job? = none) :
    (s.closeDocument files u).Current due files sheets uri := by
  have h₁ := current_forgotten hinj h hu
  have hsame : (s.withoutDocument u).documents.get? uri = s.documents.get? uri := by
    simp [withoutDocument, Documents.close, hu]
  -- if the stylesheet changes, it is the document that is closed
  have hat : ∀ path, (s.withoutDocument u).readCss files path ≠ s.readCss files path →
      Documents.IsAt u path := by
    intro path hne
    by_contra hno
    exact hne (readCss_of_atPath? (Documents.atPath?_close_of_not hno))
  rcases closeDocument_cases s files u with ⟨path, hplace, heq⟩ | ⟨hother, heq⟩ <;> rw [heq]
  · have hawaits : ((s.withoutDocument u).withResolver
        { (s.withoutDocument u).session.resolver with
          cache := (s.withoutDocument u).session.resolver.cache.invalidate path }).Awaits due files
        sheets uri path := by
      refine (current_invalidated hinj h₁ path).awaits_of_restyled ?_ ?_ ?_
        fun hdue d path' hd hr himports hne => ⟨?_, (hrestyled hdue d path' hd hr himports hne).2⟩
      · rfl
      · rfl
      · exact hsame
      have hplace' := hat path' hne
      rw [Documents.IsAt, hplace] at hplace'
      exact hplace'
    rw [refreshDependents_eq]
    exact hawaits.refreshed hinj
  · refine h₁.elsewhere rfl rfl hsame fun hdue d path hd hr himports => ?_
    by_contra hne
    have hplace := hat path hne
    cases hdu : s.documents.get? u with
    | none =>
        have hdocuments : (s.withoutDocument u).documents = s.documents :=
          Table.erase_of_get?_none hdu
        exact hne (readCss_congr hdocuments path)
    | some du =>
        obtain ⟨hstyle, -⟩ := (hrestyled hdue d path hd hr himports hne).1 u du hdu hplace
        simp [Documents.IsAt, hother du hdu hstyle] at hplace

/-- The document itself is closed, while no run for it is under way. -/
theorem current_close_self (hinj : ∀ a b, sheets a → sheets b → digest a = digest b → a = b)
    (h : s.Current due files sheets uri)
    (hclosed : ∀ id run, s.session.Runs id run → run.request.uri ≠ uri) :
    (s.closeDocument files uri).Current due files sheets uri := by
  have h₁ := current_withoutDocument_self h hclosed
  rcases closeDocument_cases s files uri with ⟨path, -, heq⟩ | ⟨-, heq⟩ <;> rw [heq]
  · rw [refreshDependents_eq]
    exact ((current_invalidated hinj h₁ path).awaits path).refreshed hinj
  · exact h₁

/-- A document is closed: the others stay up to date. -/
theorem current_close (hinj : ∀ a b, sheets a → sheets b → digest a = digest b → a = b)
    (h : s.Current due files sheets uri) {u : Uri}
    (hclosed : u = uri → ∀ id run, s.session.Runs id run → run.request.uri ≠ uri)
    (hrestyled : u ≠ uri → due → ∀ d path, s.documents.get? uri = some d → d.isResolvable = true →
      s.Imports files uri d.text path →
      (s.closeDocument files u).readCss files path ≠ s.readCss files path →
      s.Styles path ∧ ∀ id run, s.session.Runs id run → run.request.uri = uri →
        run.request.version = d.version → run.job? = none) :
    (s.closeDocument files u).Current due files sheets uri := by
  have hread : ∀ path, (s.closeDocument files u).readCss files path =
      (s.withoutDocument u).readCss files path := fun path =>
    readCss_congr (documents_closeDocument s files u) path
  simp only [hread] at hrestyled
  by_cases hu : u = uri
  · subst hu
    exact current_close_self hinj h (hclosed rfl)
  · exact current_close_of_ne hinj h hu (hrestyled hu)

/-! ### Impulses -/

/-- The document gets a greater version with each edit, and is closed only while no run for it is under
way.  The stylesheet that it imports changes only as an open stylesheet does, and only while no run for
the document's version has read it.  What is read counts, and no extraction takes too long. -/
structure Careful (files : FileTree) (sheets : String → Prop) (uri : Uri) (s : Server)
    (i : Impulse) : Prop where
  read : s.Reads files sheets
  inTime : ∀ id, i ≠ .resumed id true
  edited : ∀ d d', s.documents.get? uri = some d →
    (s.act files i).server.documents.get? uri = some d' → d' = d ∨ d.version < d'.version
  closed : i = .received (.closed uri) → ∀ id run, s.session.Runs id run → run.request.uri ≠ uri
  restyled : ∀ d path, s.documents.get? uri = some d → d.isResolvable = true →
    s.Imports files uri d.text path →
    (s.act files i).server.readCss files path ≠ s.readCss files path →
    (s.Styles path ∧ (s.act files i).server.Styles path) ∧
      ∀ id run, s.session.Runs id run → run.request.uri = uri → run.request.version = d.version →
        run.job? = none

/-- No change of settings goes on. -/
def Steady (s : Server) (i : Impulse) : Prop :=
  ∀ id new phase, i = .handled id → s.handlers.get? id ≠ some (.changing new phase)

variable {i : Impulse}

theorem styles_congr {path : Path} (h : s'.documents = s.documents) :
    s'.Styles path ↔ s.Styles path := by
  unfold Styles
  rw [h]

/-- Without files only open documents are read. -/
theorem reads_of_open (hopen : ∀ e ∈ s.documents.entries, sheets e.2.text) : s.Reads {} sheets := by
  intro path css hread
  simp only [editor, readCss] at hread
  split at hread
  · rename_i text htext
    rw [Documents.atPath?, Option.map_eq_some_iff] at htext
    obtain ⟨e, he, rfl⟩ := htext
    cases hread
    exact hopen e (List.mem_of_find?_eq_some he)
  · split at hread
    · rename_i text htext
      exact absurd htext (FileTree.read_empty_ne path text)
    · cases hread

/-- Without files, the open documents have the given texts, nothing is closed, no extraction takes too
long, and the document is not open yet or no document changes. -/
def Quiet (texts : List String) (uri : Uri) (s : Server) (i : Impulse) : Prop :=
  (∀ e ∈ s.documents.entries, e.2.text ∈ texts) ∧ i.isCalm = true ∧
    (s.documents.get? uri = none ∨ (s.act {} i).server.documents.entries = s.documents.entries)

instance (texts : List String) (uri : Uri) (s : Server) (i : Impulse) :
    Decidable (s.Quiet texts uri i) :=
  inferInstanceAs (Decidable (_ ∧ _ ∧ _))

/-- A quiet step is careful. -/
theorem careful_of_quiet {texts : List String} (h : s.Quiet texts uri i) :
    s.Careful {} (· ∈ texts) uri i := by
  obtain ⟨htexts, hcalm, hsame⟩ := h
  have hread : s.Reads {} (· ∈ texts) := reads_of_open htexts
  have htime : ∀ id, i ≠ .resumed id true := by
    rintro id rfl
    cases hcalm
  have hclosed : i ≠ .received (.closed uri) := by
    rintro rfl
    cases hcalm
  rcases hsame with habsent | hentries
  · refine ⟨hread, htime, fun d _ hd => ?_, fun h => absurd h hclosed, fun d _ hd => ?_⟩ <;>
      rw [habsent] at hd <;> cases hd
  · have hdocuments : (s.act {} i).server.documents = s.documents := Table.ext hentries
    refine ⟨hread, htime, fun d d' hd hd' => ?_, fun h => absurd h hclosed,
      fun _ path _ _ _ hne => absurd (readCss_congr hdocuments path) hne⟩
    rw [hdocuments, hd, Option.some.injEq] at hd'
    exact .inl hd'.symm

/-- A document is opened or edited in a careful step. -/
theorem current_updated (hinj : ∀ a b, sheets a → sheets b → digest a = digest b → a = b)
    (h : s.Current due files sheets uri) (hi : s.Careful files sheets uri i) {u : Uri} {d' : Document}
    (hs₁ : s₁ = { s with documents := s.documents.insert u d' }) (hupdates : s₁.Updates files u s')
    (hact : (s.act files i).server.documents = s₁.documents) :
    s'.Current due files sheets uri := by
  refine current_insert hinj h hs₁ (fun hu d hd => ?_) (fun _ _ d path hd hr himports hne => ?_)
    hupdates
  · refine hi.edited d d' hd ?_
    rw [hact, hs₁, hu]
    simp
  · rw [← readCss_congr hact] at hne
    obtain ⟨⟨-, hstyles⟩, hruns⟩ := hi.restyled d path hd hr himports hne
    exact ⟨(styles_congr hact).mp hstyles, hruns⟩

/-- A handler opens a document. -/
theorem current_opened (hinj : ∀ a b, sheets a → sheets b → digest a = digest b → a = b)
    (h : s.Current due files sheets uri) (hi : s.Careful files sheets uri i) (u : Uri)
    (language text : String) (version : Int) (id : Nat)
    (hact : (s.act files i).server = (s.openDocument files u language text version).drop id) :
    (s.act files i).server.Current due files sheets uri := by
  rw [hact]
  have hupdates := updates_documentUpdated
    { s with documents := s.documents.openDocument u language text version } files u true
  refine (current_updated hinj h hi rfl hupdates ?_).of_eq rfl rfl rfl
  rw [hact]
  exact hupdates.documents

/-- A document is edited, if it is open. -/
theorem current_edited (hinj : ∀ a b, sheets a → sheets b → digest a = digest b → a = b)
    (h : s.Current due files sheets uri) (hi : s.Careful files sheets uri i) {u : Uri}
    {changes : List Change} {version : Int}
    (hact : (s.act files i).server = s.changeDocument files u changes version) :
    (s.changeDocument files u changes version).Current due files sheets uri := by
  cases hd : s.documents.get? u with
  | none =>
      rw [changeDocument, Table.contains, hd]
      exact h
  | some d =>
      have hchange : s.documents.change u changes version =
          s.documents.insert u (d.apply changes version) := by
        simp only [Documents.change, Table.modify, hd]
      have hedit : s.changeDocument files u changes version =
          { s with documents := s.documents.insert u (d.apply changes version) }.documentUpdated
            files u false := by
        rw [changeDocument, Table.contains, hd, hchange]
        rfl
      have hupdates := updates_documentUpdated
        { s with documents := s.documents.insert u (d.apply changes version) } files u false
      rw [hedit]
      refine current_updated hinj h hi rfl hupdates ?_
      rw [hact, hedit]
      exact hupdates.documents

/-- A handler goes on, but for those that change the settings. -/
theorem current_handled (hinj : ∀ a b, sheets a → sheets b → digest a = digest b → a = b)
    (h : s.Current due files sheets uri) {id : Nat} (hi : s.Careful files sheets uri (.handled id))
    (hsteady : s.Steady (.handled id)) :
    (s.act files (.handled id)).server.Current due files sheets uri := by
  cases hh : s.handlers.get? id with
  | none =>
      simp only [act, stepHandler, hh]
      exact h
  | some handler =>
      cases handler with
      | opening u language text version =>
          by_cases hinfo : s.settings.logging.level.allowsInfo
          · simp only [act, stepHandler, hh, hinfo, if_true]
            exact h.of_eq rfl rfl rfl
          · exact current_opened hinj h hi u language text version id
              (by simp [act, stepHandler, hh, hinfo])
      | announcing u language text version =>
          exact current_opened hinj h hi u language text version id
            (by simp only [act, stepHandler, hh])
      | configuring payload =>
          simp only [act, stepHandler, hh]
          split <;> exact h.of_eq rfl rfl rfl
      | changing new phase => exact absurd hh (hsteady id new phase rfl)
      | lensAsked u =>
          obtain ⟨handlers, -, heq | heq⟩ := askLenses_cases s files id u <;>
            simp only [act, stepHandler, hh, heq]
          · exact h.of_eq rfl rfl rfl
          · exact (current_turn hinj h (Session.turn_act s.session _)
              (Session.suits_lensAsked sheets _ uri u)).of_eq rfl rfl rfl
      | lensResolving u settings call =>
          simp only [act, stepHandler, hh]
          exact h

/-- Every careful impulse keeps what is up to date so, while the settings stay. -/
theorem current_act (hinj : ∀ a b, sheets a → sheets b → digest a = digest b → a = b)
    (h : s.Current due files sheets uri) (hi : s.Careful files sheets uri i) (hsteady : s.Steady i) :
    (s.act files i).server.Current due files sheets uri := by
  cases i with
  | received call =>
      cases call with
      | opened u language text version => exact h.of_eq rfl rfl rfl
      | changed u changes version => exact current_edited hinj h hi rfl
      | closed u =>
          refine current_close hinj h (fun hu => hi.closed (by rw [hu])) ?_
          intro _ _ d path hd hr himports hne
          obtain ⟨⟨hstyles, -⟩, hruns⟩ := hi.restyled d path hd hr himports hne
          exact ⟨hstyles, hruns⟩
      | configured payload => exact h.of_eq rfl rfl rfl
      | lenses u => exact h.of_eq rfl rfl rfl
  | handled id => exact current_handled hinj h hi hsteady
  | resumed id expired =>
      obtain ⟨handlers, -, heq⟩ := stepAgent_server s files id expired
      simp only [act, heq]
      obtain rfl : expired = false := by
        cases expired with
        | false => rfl
        | true => exact absurd rfl (hi.inTime id)
      exact (current_turn hinj h (Session.turn_act s.session _)
        (Session.suits_resumed uri hi.read id)).of_eq rfl rfl rfl

/-- A careful course keeps what is up to date so, while the settings stay. -/
theorem current_after (hinj : ∀ a b, sheets a → sheets b → digest a = digest b → a = b)
    (h : s.Current due files sheets uri) {is : List Impulse}
    (his : s.Throughout (fun s i => s.Careful files sheets uri i ∧ s.Steady i) files is) :
    (s.after files is).Current due files sheets uri := by
  induction is generalizing s with
  | nil => exact h
  | cons i is ih => exact ih (current_act hinj h his.1.1 his.1.2) his.2

end Server

end ClassLens
