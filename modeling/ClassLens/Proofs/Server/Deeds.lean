import ClassLens.Proofs.Server.Handlers
import Mathlib.Logic.Relation

/-! # What a server does about a call

What an impulse leads to is put together from a few deeds, one after the other: the documents change
first, and whatever is then asked of the session is asked with the documents as they are in the end.

* `Instant`, `Server.meet`, `Server.lived`: an impulse with the files as they are by then, and what a
  course of them leads to.
* `Server.Initial`: a server that has handled nothing yet.
* `Documents.Enters ds uri d`: a document that is opened or edited.
* `Resolver.Retold r r'`: the resolver is told of settings; what it knows of documents stays.
* `Server.Deed docs s s'`, `Server.Deeds docs s s'`: a deed, and any number of them; `docs` are the
  documents once all is done.

**Main statements.** `Server.deeds_act`, `Server.meet_cases`: an impulse leads to deeds, unless an agent
goes on.
`Server.Initial.deeds`: and so does the first call of a client. -/

namespace ClassLens

/-- An impulse, with the files as they are by then. -/
structure Instant where
  files : FileTree
  impulse : Impulse

/-- The document that is under the URI after it was opened or edited. -/
inductive Documents.Enters (ds : Documents) (uri : Uri) : Document → Prop where
  | opened (language text : String) (version : Int) :
      Enters ds uri (.ofText uri language text version)
  | edited {d : Document} (found : ds.get? uri = some d) (changes : List Change) (version : Int) :
      Enters ds uri (d.apply changes version)

/-- The occasion only asks for something to be resolved. -/
inductive Occasion.Asking : Occasion → Prop where
  | refreshed (uri : Uri) : Asking (.refreshed uri)
  | lensAsked (uri : Uri) : Asking (.lensAsked uri)

/-- A resolver that is told of settings, or forgets what it extracted: what it knows of documents
stays. -/
structure Resolver.Retold (r r' : Resolver) : Prop where
  latest : r'.latest = r.latest
  resolutions : r'.resolutions = r.resolutions
  ledger : r'.ledger = r.ledger
  scanner : r'.scanner = r.scanner ∨ ∃ o : Options, r'.scanner = o.scanner

theorem Resolver.retold_followBindings (r : Resolver) (o : Options) : r.Retold (r.followBindings o) := by
  unfold followBindings
  split
  · exact ⟨rfl, rfl, rfl, .inl rfl⟩
  · exact ⟨rfl, rfl, rfl, .inr ⟨o, rfl⟩⟩

namespace Server

variable {files : FileTree} {s s' : Server} {docs : Documents}

/-! ### Courses -/

/-- What an impulse leads to, with the files as they are by then. -/
def meet (s : Server) (t : Instant) : ServerStep := s.act t.files t.impulse

/-- What a course leads to. -/
def lived (s : Server) (ts : List Instant) : Server := ts.foldl (fun s t => (s.meet t).server) s

@[simp] theorem lived_nil (s : Server) : s.lived [] = s := rfl

@[simp] theorem lived_cons (s : Server) (t : Instant) (ts : List Instant) :
    s.lived (t :: ts) = (s.meet t).server.lived ts := rfl

theorem lived_append (s : Server) (ts ts' : List Instant) :
    s.lived (ts ++ ts') = (s.lived ts).lived ts' :=
  List.foldl_append

theorem lived_concat (s : Server) (ts : List Instant) (t : Instant) :
    s.lived (ts ++ [t]) = ((s.lived ts).meet t).server :=
  lived_append s ts [t]

/-- A server that has handled nothing yet but for the first call of its client. -/
inductive Initial : Server → Prop where
  | made (x : Extractor) (pinned : Bool) : Initial (ofExtractor x pinned)
  | begun (x : Extractor) (pinned : Bool) (files : FileTree) (client : Client) :
      Initial ((ofExtractor x pinned).begin files client)

theorem Initial.handlers (h : Initial s) : s.handlers = .empty := by
  cases h with
  | made x pinned => rfl
  | begun x pinned files client =>
      unfold Server.begin applySettings
      simp only
      split <;> rfl

theorem Initial.documents (h : Initial s) : s.documents = .empty := by
  cases h with
  | made x pinned => rfl
  | begun x pinned files client =>
      unfold Server.begin applySettings
      simp only
      split <;> rfl

/-! ### Deeds -/

/-- A part of what an impulse does; `docs` are the documents once all of it is done. -/
inductive Deed (docs : Documents) (s : Server) : Server → Prop where
  /-- Handlers and settings come and go. -/
  | aside {s' : Server} (session : s'.session = s.session) (documents : s'.documents = s.documents)
      (active : s'.active = s.active) : Deed docs s s'
  | entered {uri : Uri} {d : Document} (enters : Documents.Enters s.documents uri d)
      (final : docs = s.documents.insert uri d) : Deed docs s { s with documents := docs }
  | closed (uri : Uri) (final : docs = s.documents.close uri) : Deed docs s (s.withoutDocument uri)
  | activated {uri : Uri} {d : Document} (found : s.documents.get? uri = some d) :
      Deed docs s { s with active := some uri }
  /-- The session is asked for something, with the documents as they are in the end. -/
  | turned {m : Moment} {session : Session} {events : List Event}
      (turn : s.session.Turn m session events) (asking : m.occasion.Asking)
      (final : s.documents = docs) (snapshot : m.editor.snapshot? = docs.snapshot?) :
      Deed docs s { s with session }
  | told {r : Resolver} (retold : s.session.resolver.Retold r) (debounce : Nat) :
      Deed docs s { s with session := { s.session with resolver := r, debounce } }

/-- Any number of deeds, one after the other. -/
abbrev Deeds (docs : Documents) : Server → Server → Prop := Relation.ReflTransGen (Deed docs)

namespace Deeds

theorem single (h : Deed docs s s') : Deeds docs s s' := Relation.ReflTransGen.single h

theorem aside (session : s'.session = s.session) (documents : s'.documents = s.documents)
    (active : s'.active = s.active) : Deeds docs s s' :=
  single (.aside session documents active)

/-- The last deed may be followed by a change of handlers or settings. -/
theorem aside_after {s₁ : Server} (h : Deeds docs s s₁) (session : s'.session = s₁.session)
    (documents : s'.documents = s₁.documents) (active : s'.active = s₁.active) : Deeds docs s s' :=
  h.tail (.aside session documents active)

/-- The resolver is told of settings. -/
theorem withResolver {r : Resolver} (h : s.session.resolver.Retold r) :
    Deeds docs s (s.withResolver r) :=
  single (.told h s.session.debounce)

/-- Tasks are made for documents, one after the other. -/
theorem refreshes (hdocs : s.documents = docs) {editor : Editor}
    (hsnapshot : editor.snapshot? = docs.snapshot?) (us : List Uri) :
    Deeds docs s
      { s with session := s.session.after (us.map fun u => ⟨editor, .refreshed u⟩) } := by
  induction us generalizing s with
  | nil => exact .refl
  | cons u us ih =>
      have hturn := Session.turn_act s.session ⟨editor, .refreshed u⟩
      exact Relation.ReflTransGen.head (.turned hturn (.refreshed u) hdocs hsnapshot)
        (ih (s := { s with session := (s.session.act ⟨editor, .refreshed u⟩).1 }) hdocs)

/-- A document is refreshed. -/
theorem refresh (hdocs : s.documents = docs) (files : FileTree) (uri : Uri) :
    Deeds docs s (s.refresh files uri) := by
  subst hdocs
  exact refreshes rfl rfl [uri]

theorem refreshDependents (hdocs : s.documents = docs) (files : FileTree) (path : Path) :
    Deeds docs s (s.refreshDependents files path) := by
  subst hdocs
  rw [refreshDependents_eq]
  exact refreshes rfl rfl _

/-- What is done about a document that was opened or edited. -/
theorem of_updates {uri : Uri} (h : s.Updates files uri s') : Deeds s.documents s s' := by
  cases h with
  | nothing => exact .refl
  | refreshed => exact refreshes rfl rfl _
  | @scheduled d found resolvable delay =>
      have hasked : Moment.Schedules ⟨s.editor files, .refreshed uri⟩ uri d.version :=
        .refreshed (Documents.snapshot?_of_get? found)
      exact Relation.ReflTransGen.head (.activated found)
        (single (.turned (s := { s with active := some uri }) (.scheduled hasked delay)
          (.refreshed uri) rfl rfl))

/-- A document is opened or edited, and what there is to do about it is done. -/
theorem of_entered {uri : Uri} {d : Document} (enters : Documents.Enters s.documents uri d)
    (hupdates : ({ s with documents := s.documents.insert uri d } : Server).Updates files uri s') :
    Deeds s'.documents s s' := by
  rw [hupdates.documents]
  exact Relation.ReflTransGen.head (.entered enters rfl) (of_updates hupdates)

end Deeds

/-! ### Impulses -/

theorem deeds_openDocument (s : Server) (files : FileTree) (uri : Uri) (language text : String)
    (version : Int) :
    Deeds (s.openDocument files uri language text version).documents s
      (s.openDocument files uri language text version) :=
  Deeds.of_entered (.opened language text version)
    (updates_documentUpdated
      { s with documents := s.documents.openDocument uri language text version } files uri true)

theorem deeds_changeDocument (s : Server) (files : FileTree) (uri : Uri) (changes : List Change)
    (version : Int) :
    Deeds (s.changeDocument files uri changes version).documents s
      (s.changeDocument files uri changes version) := by
  unfold changeDocument
  split
  · rename_i hopen
    obtain ⟨d, hd⟩ := Option.isSome_iff_exists.mp hopen
    have hchange : s.documents.change uri changes version =
        s.documents.insert uri (d.apply changes version) := by
      simp only [Documents.change, Table.modify, hd]
    rw [hchange]
    exact Deeds.of_entered (.edited hd changes version)
      (updates_documentUpdated
        { s with documents := s.documents.insert uri (d.apply changes version) } files uri false)
  · exact .refl

theorem deeds_closeDocument (s : Server) (files : FileTree) (uri : Uri) :
    Deeds (s.documents.close uri) s (s.closeDocument files uri) := by
  refine Relation.ReflTransGen.head (.closed uri rfl) ?_
  rcases closeDocument_cases s files uri with ⟨path, -, heq⟩ | ⟨-, heq⟩
  · rw [heq]
    have hretold : (s.withoutDocument uri).session.resolver.Retold
        { (s.withoutDocument uri).session.resolver with
          cache := (s.withoutDocument uri).session.resolver.cache.invalidate path } :=
      ⟨rfl, rfl, rfl, .inl rfl⟩
    refine Relation.ReflTransGen.trans (Deeds.withResolver hretold) ?_
    apply Deeds.refreshDependents
    rfl
  · rw [heq]

theorem deeds_followOptions (s : Server) (new : Settings) : Deeds docs s (s.followOptions new) :=
  (Deeds.single (.told (r := { s.session.resolver with options := new.options })
    ⟨rfl, rfl, rfl, .inl rfl⟩ new.resolution.debounce)).aside_after rfl rfl rfl

theorem deeds_followExtractor (s : Server) (files : FileTree) (new : Settings) :
    Deeds docs s (s.followExtractor files new) :=
  Deeds.withResolver ⟨rfl, rfl, rfl, .inl rfl⟩

theorem deeds_resizeCache (s : Server) (new : Settings) : Deeds docs s (s.resizeCache new) :=
  Deeds.withResolver ⟨rfl, rfl, rfl, .inl rfl⟩

theorem deeds_followBindings (s : Server) (new : Settings) : Deeds docs s (s.followBindings new) :=
  Deeds.withResolver (Resolver.retold_followBindings _ _)

theorem deeds_stepSettings (s : Server) (files : FileTree) (id : Nat) (new : Settings)
    (phase : SettingsPhase) :
    Deeds (s.stepSettings files id new phase).documents s (s.stepSettings files id new phase) := by
  cases phase with
  | begun => exact (deeds_resizeCache s new).aside_after rfl rfl rfl
  | scanner previous => exact (deeds_followBindings s new).aside_after rfl rfl rfl
  | options previous => exact (deeds_followOptions s new).aside_after rfl rfl rfl
  | extractor => exact (deeds_followExtractor s files new).aside_after rfl rfl rfl
  | keeping =>
      simp only [stepSettings]
      split
      · have hkept : Deeds s.documents s ((s.keepSettings new).drop id) := Deeds.aside rfl rfl rfl
        refine Relation.ReflTransGen.trans hkept ?_
        apply Deeds.refresh
        rfl
      · exact Deeds.aside rfl rfl rfl

theorem deeds_askLenses (s : Server) (files : FileTree) (id : Nat) (uri : Uri) :
    Deeds (s.askLenses files id uri).server.documents s (s.askLenses files id uri).server := by
  obtain ⟨handlers, -, heq⟩ := askLenses_cases s files id uri
  rcases heq with heq | heq <;> rw [heq]
  · exact Deeds.aside rfl rfl rfl
  · have hturn := Session.turn_act s.session ⟨s.editor files, .lensAsked uri⟩
    exact (Deeds.single (.turned hturn (.lensAsked uri) rfl rfl)).aside_after rfl rfl rfl

/-- An impulse leads to deeds, unless an agent of the session goes on. -/
theorem deeds_act (s : Server) (files : FileTree) {i : Impulse}
    (hi : ∀ id expired, i ≠ .resumed id expired) :
    Deeds (s.act files i).server.documents s (s.act files i).server := by
  cases i with
  | resumed id expired => exact absurd rfl (hi id expired)
  | received call =>
      cases call with
      | opened | configured | lenses => exact Deeds.aside rfl rfl rfl
      | changed uri changes version => exact deeds_changeDocument s files uri changes version
      | closed uri =>
          have hdeeds := deeds_closeDocument s files uri
          rw [← documents_closeDocument s files uri] at hdeeds
          exact hdeeds
  | handled id =>
      cases hh : s.handlers.get? id with
      | none =>
          simp only [act, stepHandler, hh]
          exact .refl
      | some handler =>
          cases handler with
          | opening uri language text version =>
              simp only [act, stepHandler, hh]
              split
              · exact Deeds.aside rfl rfl rfl
              · exact (deeds_openDocument s files uri language text version).aside_after rfl rfl rfl
          | announcing uri language text version =>
              simp only [act, stepHandler, hh]
              exact (deeds_openDocument s files uri language text version).aside_after rfl rfl rfl
          | configuring payload =>
              simp only [act, stepHandler, hh]
              split <;> exact Deeds.aside rfl rfl rfl
          | changing new phase =>
              simp only [act, stepHandler, hh]
              exact deeds_stepSettings s files id new phase
          | lensAsked uri =>
              simp only [act, stepHandler, hh]
              exact deeds_askLenses s files id uri
          | lensResolving uri settings call =>
              simp only [act, stepHandler, hh]
              exact .refl

/-- An agent of the session goes on, or the impulse leads to deeds. -/
theorem meet_cases (s : Server) (t : Instant) :
    (∃ id expired handlers, t.impulse = .resumed id expired ∧
      (s.meet t).server =
        { s with
          session := (s.session.act ⟨s.editor t.files, .resumed id expired⟩).1
          handlers }) ∨
      Deeds (s.meet t).server.documents s (s.meet t).server := by
  by_cases hi : ∃ id expired, t.impulse = .resumed id expired
  · obtain ⟨id, expired, hi⟩ := hi
    obtain ⟨handlers, -, heq⟩ := stepAgent_server s t.files id expired
    refine .inl ⟨id, expired, handlers, hi, ?_⟩
    rw [meet, hi]
    exact heq
  · exact .inr (deeds_act s t.files fun id expired heq => hi ⟨id, expired, heq⟩)

/-- The first call of a client leads to deeds. -/
theorem Initial.deeds (h : Initial s) :
    ∃ x pinned, Deeds s.documents (ofExtractor x pinned) s := by
  cases h with
  | made x pinned => exact ⟨x, pinned, .refl⟩
  | begun x pinned files client =>
      refine ⟨x, pinned, ?_⟩
      have hthree : ∀ docs : Documents, Deeds docs (ofExtractor x pinned)
          ((((ofExtractor x pinned).resizeCache (startSettings files client)).followBindings
            (startSettings files client)).followOptions (startSettings files client)) := fun docs =>
        ((deeds_resizeCache _ _).trans (deeds_followBindings _ _)).trans (deeds_followOptions _ _)
      unfold Server.begin applySettings
      simp only
      split
      · exact Deeds.aside_after ((hthree _).trans (deeds_followExtractor _ _ _)) rfl rfl rfl
      · exact Deeds.aside_after (hthree _) rfl rfl rfl

end Server

end ClassLens
