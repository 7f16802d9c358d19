import ClassLens.Proofs.Server.Configuration
import ClassLens.Proofs.Server.Stylesheets

/-! # Lens requests after changes of settings

A lens request is answered from what is kept of its document, which counts for a version and not for
settings.  The answer is of the settings in force if a task for the document was made since they changed
last: for the active document the change makes one itself, and for each other one its next edit does.

* `Server.Tasked uri s`: a task for the document has not started, and no run for the document's version
  has gone beyond its beginning.

**Main statements.** `Server.lenses_afresh`: then, once no task is left, the lenses are those that
resolving the text of the document from scratch under the settings in force would give.
`Server.tasked_of_kept`, `Server.tasked_of_updated`: where such a task comes from. -/

namespace ClassLens

open Usage

namespace Server

variable {files : FileTree} {sheets : String → Prop} {uri : Uri} {x : Extractor} {s : Server}
  {i : Impulse} {is : List Impulse} {d : Document}

/-! ### Documents that are going to be resolved -/

/-- If usages are looked for in the document, a task for its version has not started, and whatever else
is to be resolved of this version has not looked at the options. -/
structure Tasked (uri : Uri) (s : Server) : Prop where
  latest : ∀ d, s.documents.get? uri = some d → d.isResolvable = true →
    s.session.resolver.latest? uri = some d.version
  task : ∀ d, s.documents.get? uri = some d → d.isResolvable = true →
    ∃ id t, s.session.agents.get? id = some (.task t) ∧ t.uri = uri ∧ t.version = d.version ∧
      t.Unstarted
  runs : ∀ d, s.documents.get? uri = some d → d.isResolvable = true →
    ∀ id run, s.session.Runs id run → run.request.uri = uri → run.request.version = d.version →
      run.phase = .begun

/-- A document that is going to be resolved is as good as up to date, whatever the settings were. -/
theorem Current.of_tasked (h : s.Current False files sheets uri) (htasked : s.Tasked uri) :
    s.Current True files sheets uri where
  faithful := h.faithful
  within := h.within
  upToDate := fun _ d hd hr => by
    refine ⟨⟨Documents.snapshot?_of_get? hd, htasked.latest d hd hr, fun id run hrun hu hv => ?_⟩,
      .inl ?_⟩
    · simp only [Run.OnCourse, htasked.runs d hd hr id run hrun hu hv]
    · obtain ⟨id, t, htask, hu, hv, hunstarted⟩ := htasked.task d hd hr
      exact ⟨id, t, htask, hu, hv, .inl hunstarted⟩

/-- A task is made for the document. -/
theorem tasked_scheduled (hw : s.session.Within (s.editor files) uri)
    (hd : s.documents.get? uri = some d)
    (hruns : ∀ id run, s.session.Runs id run → run.request.uri = uri →
      run.request.version = d.version → run.phase = .begun) (delay : Nat) :
    Tasked uri { s with session := (s.session.schedule uri d.version delay).1 } := by
  have hsame : ∀ d', s.documents.get? uri = some d' → d' = d := fun d' hd' => by
    rw [hd, Option.some.injEq] at hd'
    exact hd'.symm
  refine ⟨fun d' hd' _ => ?_, fun d' hd' _ => ?_, fun d' hd' _ id run hrun hu hv => ?_⟩ <;>
    obtain rfl := hsame d' hd'
  · exact Resolver.latest?_begin_self (hw.granted (Documents.snapshot?_of_get? hd))
  · exact Session.task_schedule s.session uri d'.version delay
  · exact hruns id run (Session.runs_of_schedule hrun) hu hv

/-- Only the session and the documents count. -/
theorem Tasked.of_eq {s' : Server} (h : s.Tasked uri) (hsession : s'.session = s.session)
    (hdocuments : s'.documents = s.documents) : s'.Tasked uri := by
  refine ⟨?_, ?_, ?_⟩ <;> rw [hsession, hdocuments]
  · exact h.latest
  · exact h.task
  · exact h.runs

/-- The end of a change of settings makes a task for the active document. -/
theorem tasked_of_kept {due : Prop} (h : s.Current due files sheets uri) {id : Nat} {new : Settings}
    (hh : s.handlers.get? id = some (.changing new .keeping)) (hactive : s.active = some uri)
    (hruns : ∀ d, s.documents.get? uri = some d → ∀ id run, s.session.Runs id run →
      run.request.uri = uri → run.request.version = d.version → run.phase = .begun) :
    (s.act files (.handled id)).server.Tasked uri := by
  have hkept : ((s.keepSettings new).drop id).active = some uri := hactive
  simp only [act, stepHandler, hh, stepSettings, hkept]
  cases hd : s.documents.get? uri with
  | none =>
      refine ⟨?_, ?_, ?_⟩ <;> intro d hd' <;> exact absurd (hd.symm.trans hd') (by simp)
  | some d =>
      have hsnapshot : (s.editor files).snapshot? uri = some (d.text, d.version) :=
        Documents.snapshot?_of_get? hd
      refine (tasked_scheduled h.within hd (hruns d hd) 0).of_eq ?_ rfl
      change (s.session.refresh (s.editor files) uri).1 = (s.session.schedule uri d.version 0).1
      rw [Session.refresh, hsnapshot]

/-- An edit that gives the document a greater version makes a task for it, and so does its opening. -/
theorem tasked_of_updated {due : Prop} (h : s.Current due files sheets uri) {d' : Document}
    {s₁ s' : Server} (hs₁ : s₁ = { s with documents := s.documents.insert uri d' })
    (hedited : ∀ d, s.documents.get? uri = some d → d.version < d'.version)
    (hupdates : s₁.Updates files uri s') : s'.Tasked uri := by
  have hfound : s₁.documents.get? uri = some d' := by rw [hs₁]; simp
  have hno : d'.isResolvable = false → ∀ {t : Server}, t.documents = s₁.documents → t.Tasked uri := by
    intro hr t ht
    refine ⟨?_, ?_, ?_⟩ <;> intro d hd hr' <;> rw [ht, hfound, Option.some.injEq] at hd <;>
      rw [← hd, hr] at hr' <;> cases hr'
  cases hupdates with
  | nothing other => exact hno (other d' hfound).1 rfl
  | @scheduled d found resolvable delay =>
      rw [hfound, Option.some.injEq] at found
      subst found
      obtain ⟨hw, hnew⟩ := h.within_inserted hs₁ hedited
      exact (tasked_scheduled hw hfound (fun id run hrun hu hv => absurd hv (hnew id run hrun hu))
        delay).of_eq rfl rfl
  | @refreshed d path found other =>
      rw [hfound, Option.some.injEq] at found
      subst found
      exact hno other rfl

/-- What does not depend on the settings, and what the resolver is told of them, along a course. -/
theorem configured_after (hinj : ∀ a b, sheets a → sheets b → digest a = digest b → a = b)
    (h : s.Current False files sheets uri) (hc : s.Configured x files)
    (his : s.Throughout (fun s i => s.Careful files sheets uri i ∧ s.Orderly i) files is) :
    (s.after files is).Current False files sheets uri ∧ (s.after files is).Configured x files := by
  induction is generalizing s with
  | nil => exact ⟨h, hc⟩
  | cons i is ih =>
      exact ih (current_always hinj h his.1.1 his.1.2) (configured_act hc his.1.2) his.2

/-! ### Lens requests -/

/-- A lens request is answered from what is kept, if this is of the document's version. -/
theorem answered_of_kept {id : Nat} {kept : Resolution}
    (hh : s.handlers.get? id = some (.lensAsked uri)) (hd : s.documents.get? uri = some d)
    (hr : d.isResolvable = true) (hkept : s.session.resolver.resolution? uri = some kept)
    (hv : kept.version = d.version) :
    (s.act files (.handled id)).answered =
      [(id, if s.settings.lens.enabled then some (lenses d s.settings.lens kept.annotations)
        else none)] := by
  have hannotations : s.session.annotations (s.editor files) uri = .inl kept.annotations := by
    have hsnapshot : (s.editor files).snapshot? uri = some (d.text, d.version) :=
      Documents.snapshot?_of_get? hd
    simp only [Session.annotations, hsnapshot, hkept, hv, if_true]
  simp only [act, stepHandler, hh, askLenses, hd, Option.any_some, hr, Bool.and_true, hannotations,
    answerLens, lensesFor, Option.map_some]
  split <;> rfl

/-- The lenses of a document are those that resolving its text from scratch under the settings in force
would give, if a task for it was made since the settings changed last. -/
theorem lenses_afresh (hinj : ∀ a b, sheets a → sheets b → digest a = digest b → a = b)
    {pinned : Bool} {client : Client} {before since : List Impulse}
    (hs : s = ((ofExtractor x pinned).begin files client).after files (before ++ since))
    (his : ((ofExtractor x pinned).begin files client).Throughout
      (fun s i => s.Careful files sheets uri i ∧ s.Orderly i) files (before ++ since))
    (htasked : (((ofExtractor x pinned).begin files client).after files before).Tasked uri)
    (hsteady : (((ofExtractor x pinned).begin files client).after files before).Throughout Steady files
      since)
    (hended : ∀ id, s.handlers.get? id = none) (hidle : ∀ id, s.session.agents.get? id = none)
    (hd : s.documents.get? uri = some d) (hr : d.isResolvable = true) :
    s.standing.Extracts x files s.settings.extractor ∧
      ((s.act files (.received (.lenses uri))).server.act files (.handled s.nextHandler)).answered =
        [(s.nextHandler,
          if s.settings.lens.enabled then
            some (lenses d s.settings.lens
              ((Resolver.ofOptions s.standing.extractor s.settings.options).afresh (s.editor files)
                ⟨uri, d.text, d.version⟩).annotations)
          else none)] := by
  obtain ⟨hbefore, hsince⟩ := throughout_append.mp his
  obtain ⟨hcurrent, -⟩ := configured_after hinj (current_begin x pinned client)
    (configured_begin x pinned client) hbefore
  obtain ⟨-, hconfigured⟩ := configured_after hinj (current_begin x pinned client)
    (configured_begin x pinned client) his
  have hlast : s.Current True files sheets uri := by
    rw [hs, after_append]
    exact current_after hinj (hcurrent.of_tasked htasked)
      ((hsince.and hsteady).mono fun _ _ h => ⟨h.1.1, h.2⟩)
  have hkept := hlast.kept trivial hidle hd hr
  rw [← hs] at hconfigured
  obtain ⟨hoptions, hscanner, hextracts⟩ := hconfigured.settled fun id ⟨_, _, hh⟩ => by
    rw [hended id] at hh
    cases hh
  have hscratch : (Resolver.ofOptions s.standing.extractor s.settings.options).afresh (s.editor files)
      ⟨uri, d.text, d.version⟩ = s.session.resolver.afresh (s.editor files) ⟨uri, d.text, d.version⟩ :=
    Resolver.afresh_congr (by rfl) hoptions.symm hscanner.symm _ _
  refine ⟨hextracts, ?_⟩
  rw [hscratch]
  have hasked : (s.act files (.received (.lenses uri))).server.handlers.get? s.nextHandler =
      some (.lensAsked uri) := (Table.get?_insert _ _ _ _).trans (if_pos rfl)
  exact answered_of_kept hasked hd hr hkept (Request.version_outcome _ _ _)

end Server

/-! ### A sample -/

/-- The handler is at the last phase of a change of settings. -/
def Handler.isKeeping : Handler → Bool
  | .changing _ .keeping => true
  | _ => false

theorem Handler.exists_of_isKeeping {h : Handler} (hkeeping : h.isKeeping = true) :
    ∃ new, h = .changing new .keeping := by
  unfold isKeeping at hkeeping
  split at hkeeping
  · exact ⟨_, rfl⟩
  · cases hkeeping

namespace Sample

/-- Settings that scan for another name than before. -/
def payload : Json.Value := .object [("scanner", .object [("bindings", .list [.string "k"])])]

/-- The settings are changed, but for the end of the change. -/
def configuring : List Impulse := .received (.configured payload) :: List.replicate 4 (.handled 2)

end Sample

namespace Server

open Sample in
/-- The document is active, so that the end of the change makes a task for it. -/
theorem tasked_of_configured
    (h : (server.after {} (opening ++ configuring)).Current False {} (· ∈ texts) Sample.uri) :
    (server.after {} (opening ++ configuring ++ [.handled 2])).Tasked Sample.uri := by
  rw [after_append]
  have hactive : (server.after {} (opening ++ configuring)).active = some Sample.uri := by
    decide +kernel
  have hidle : ∀ k, (server.after {} (opening ++ configuring)).session.agents.get? k = none :=
    Table.get?_of_size_zero (by decide +kernel)
  have hlast : ((server.after {} (opening ++ configuring)).handlers.get? 2).any Handler.isKeeping := by
    decide +kernel
  obtain ⟨handler, hh, hkeeping⟩ := (Option.any_eq_true _ _).mp hlast
  obtain ⟨new, rfl⟩ := Handler.exists_of_isKeeping hkeeping
  exact tasked_of_kept h hh hactive fun d _ id run hrun => absurd hrun (not_runs_of_idle hidle id run)

open Sample in
/-- The document is opened and resolved for one name, and the settings change to another one: the lens
is for the other one. -/
theorem lenses_of_configured :
    let s := server.after {} (opening ++ configuring ++ [.handled 2] ++ working 2)
    ((s.act {} (.received (.lenses Sample.uri))).server.act {} (.handled s.nextHandler)).answered =
      [(3, some [⟨⟨0, 26⟩, ⟨0, 29⟩, ".a \x7b color: red; \x7d"⟩])] := by
  intro s
  have hall : server.Throughout (fun s i => s.Careful {} (· ∈ texts) Sample.uri i ∧ s.Orderly i) {}
      (opening ++ configuring ++ [.handled 2] ++ working 2) := by
    have hquiet : server.Throughout (Quiet texts Sample.uri) {}
        (opening ++ configuring ++ [.handled 2] ++ working 2) := by decide +kernel
    have hlone : server.Throughout Lone {} (opening ++ configuring ++ [.handled 2] ++ working 2) := by
      decide +kernel
    exact (hquiet.and hlone).mono fun _ _ h => ⟨careful_of_quiet h.1, orderly_of_lone h.2⟩
  have hbefore : (server.after {} (opening ++ configuring)).Current False {} (· ∈ texts) Sample.uri :=
    (configured_after (fun _ _ => digest_texts) (current_begin painter true {})
      (configured_begin painter true {})
      (throughout_append.mp (throughout_append.mp hall).1).1).1
  have htasked := tasked_of_configured hbefore
  have hended : ∀ id, s.handlers.get? id = none := Table.get?_of_size_zero (by decide +kernel)
  have hidle : ∀ id, s.session.agents.get? id = none := Table.get?_of_size_zero (by decide +kernel)
  have hopen : s.documents.get? Sample.uri = some page := by decide +kernel
  have hs : s = ((ofExtractor painter true).begin {} {}).after {}
      (opening ++ configuring ++ [.handled 2] ++ working 2) := rfl
  have hsteady : (server.after {} (opening ++ configuring ++ [.handled 2])).Throughout Steady {}
      (working 2) := throughout_of_forall (by simp [working, Steady])
  obtain ⟨-, hanswered⟩ := lenses_afresh (fun _ _ => digest_texts) hs hall htasked hsteady hended hidle
    hopen (by decide +kernel)
  rw [hanswered]
  decide +kernel

end Server

end ClassLens
