import ClassLens.Proofs.Server.Deeds
import ClassLens.Proofs.Session.Sources
import ClassLens.Proofs.Usage.Sites

/-! # Where a server's usages and lens requests come from

What a server keeps and waits for goes back to what happened to it: a text that a document had, a scan
of this text, a lens request that came in.

* `Server.Held s₀ ts q`: the document had the text under the version at some time of the course.
* `Server.Found s₀ ts q u`: a run scanned the text of the request and found the usage.
* `Server.Requested s₀ ts id uri`: the handler with number `id` is that of a lens request for the
  document.
* `Server.Grounded held found s`, `Server.Pending s₀ ts s`: the invariants, of the session with the
  documents and of the handlers.

**Main statements.** `Server.grounded_lived`, `Server.pending_lived`: they hold after every course. -/

namespace ClassLens

open Usage

/-- A document that is opened or edited has the lines of its text. -/
theorem Documents.Enters.lines {ds : Documents} {uri : Uri} {d : Document} (h : ds.Enters uri d)
    (hlines : ∀ u d, ds.get? u = some d → d.lines = lineStarts d.text) :
    d.lines = lineStarts d.text := by
  cases h with
  | opened language text version => rfl
  | edited found changes version => exact Document.apply_lineStarts (hlines uri _ found) changes version

/-- What holds of every open document holds of its text and version as the editor sees them. -/
theorem Documents.of_snapshot? {ds : Documents} {P : Request → Prop}
    (h : ∀ uri d, ds.get? uri = some d → P ⟨uri, d.text, d.version⟩) {uri : Uri} {text : String}
    {version : Int} (hs : ds.snapshot? uri = some (text, version)) : P ⟨uri, text, version⟩ := by
  rw [snapshot?, Option.map_eq_some_iff] at hs
  obtain ⟨d, hd, heq⟩ := hs
  cases heq
  exact h uri d hd

/-- The handler is that of a lens request for the document. -/
inductive Handler.Serves (uri : Uri) : Handler → Prop where
  | asked : Serves uri (.lensAsked uri)
  | resolving (settings : LensSettings) (call : Nat) : Serves uri (.lensResolving uri settings call)

namespace Server

variable {s₀ s s' : Server} {ts : List Instant} {t : Instant} {docs : Documents}
  {held : Request → Prop} {found : Request → Site → Prop}

/-! ### What has happened -/

/-- At some time of the course the document had the text under the version. -/
def Held (s₀ : Server) (ts : List Instant) (q : Request) : Prop :=
  ∃ before d, before <+: ts ∧ (s₀.lived before).documents.get? q.uri = some d ∧ d.text = q.text ∧
    d.version = q.version

/-- A run scanned the text of the request and found the usage. -/
def Found (s₀ : Server) (ts : List Instant) (q : Request) (u : Site) : Prop :=
  ∃ before files id expired later, ts = before ++ ⟨files, .resumed id expired⟩ :: later ∧
    (s₀.lived before).session.Finds id q u

/-- The handler with the number is that of a lens request for the document, which came in. -/
def Requested (s₀ : Server) (ts : List Instant) (id : Nat) (uri : Uri) : Prop :=
  ∃ before files later, ts = before ++ ⟨files, .received (.lenses uri)⟩ :: later ∧
    (s₀.lived before).nextHandler = id

theorem Held.concat {q : Request} (h : s₀.Held ts q) (t : Instant) : s₀.Held (ts ++ [t]) q := by
  obtain ⟨before, d, hbefore, hd⟩ := h
  exact ⟨before, d, hbefore.trans (List.prefix_append ts [t]), hd⟩

theorem Found.concat {q : Request} {u : Site} (h : s₀.Found ts q u) (t : Instant) :
    s₀.Found (ts ++ [t]) q u := by
  obtain ⟨before, files, id, expired, later, rfl, hfinds⟩ := h
  exact ⟨before, files, id, expired, later ++ [t], by simp, hfinds⟩

theorem Requested.concat {id : Nat} {uri : Uri} (h : s₀.Requested ts id uri) (t : Instant) :
    s₀.Requested (ts ++ [t]) id uri := by
  obtain ⟨before, files, later, rfl, hid⟩ := h
  exact ⟨before, files, later ++ [t], by simp, hid⟩

theorem held_of_get? {uri : Uri} {d : Document} (hd : (s₀.lived ts).documents.get? uri = some d) :
    s₀.Held ts ⟨uri, d.text, d.version⟩ :=
  ⟨ts, d, List.prefix_rfl, hd, rfl, rfl⟩

/-! ### The session and the documents -/

/-- The session works with what documents held and scans found, the documents know their lines, and
only identifiers are scanned for. -/
structure Grounded (held : Request → Prop) (found : Request → Site → Prop) (s : Server) : Prop where
  session : s.session.Sourced held found
  lines : ∀ uri d, s.documents.get? uri = some d → d.lines = lineStarts d.text
  scanner : s.session.resolver.scanner.Normal ∧ s.session.resolver.scanner.extensible = true

theorem Grounded.of_eq (h : Grounded held found s) (hsession : s'.session = s.session)
    (hdocuments : s'.documents = s.documents) : Grounded held found s' where
  session := hsession ▸ h.session
  lines := hdocuments ▸ h.lines
  scanner := hsession ▸ h.scanner

/-- A moment of the session at which the resolver is not changed from outside. -/
theorem Grounded.turned (h : Grounded held found s) {m : Moment} {session : Session}
    {events : List Event} (turn : s.session.Turn m session events)
    (hcalls : ∀ q, m.Calls q → held q)
    (hsnapshot : ∀ uri text version, m.editor.snapshot? uri = some (text, version) →
      held ⟨uri, text, version⟩)
    (hfinds : ∀ id expired, m.occasion = .resumed id expired →
      ∀ q u, s.session.Finds id q u → found q u)
    (hkeep : ∀ uri, ¬ m.Forgets uri) (hunchanged : ∀ change, m.occasion ≠ .changed change) :
    Grounded held found { s with session } where
  session := Session.sourced_turn h.session turn hcalls hsnapshot hfinds hkeep
  lines := h.lines
  scanner := by
    obtain ⟨-, -, hscanner, -⟩ := Session.frame_turn turn (Moment.plain_of_unchanged hunchanged)
    exact hscanner ▸ h.scanner

/-- The texts of the documents once all is done are among those held. -/
theorem grounded_deed (h : Grounded held found s)
    (hdocs : ∀ uri d, docs.get? uri = some d → held ⟨uri, d.text, d.version⟩)
    (hdeed : Deed docs s s') : Grounded held found s' := by
  cases hdeed with
  | aside session documents active => exact h.of_eq session documents
  | @entered uri d enters final =>
      refine ⟨h.session, fun u d' hd' => ?_, h.scanner⟩
      rw [final, Table.get?_insert] at hd'
      split at hd'
      · rw [Option.some.injEq] at hd'
        exact hd' ▸ enters.lines h.lines
      · exact h.lines u d' hd'
  | closed uri final =>
      refine ⟨h.session.forget uri, fun u d hd => ?_, h.scanner⟩
      have herase : (s.documents.erase uri).get? u = some d := hd
      rw [Table.get?_erase] at herase
      split at herase
      · cases herase
      · exact h.lines u d herase
  | activated found => exact ⟨h.session, h.lines, h.scanner⟩
  | @turned m session events turn asking final snapshot =>
      have hread : ∀ uri text version, m.editor.snapshot? uri = some (text, version) →
          held ⟨uri, text, version⟩ := by
        intro uri text version hs
        rw [snapshot] at hs
        exact Documents.of_snapshot? hdocs hs
      obtain ⟨editor, occasion⟩ := m
      refine h.turned turn (fun q hq => ?_) hread (fun id expired ho => ?_) (fun uri hforgets => ?_)
        fun change ho => ?_
      · cases hq with
        | called => cases asking
        | lensAsked hs => exact hread _ _ _ hs
      · simp only at ho
        subst ho
        cases asking
      · rcases hforgets with ho | ho <;> simp only at ho <;> subst ho <;> cases asking
      · simp only at ho
        subst ho
        cases asking
  | told retold debounce =>
      refine ⟨h.session.of_tables rfl retold.resolutions, h.lines, ?_⟩
      rcases retold.scanner with heq | ⟨o, heq⟩ <;> rw [heq]
      · exact h.scanner
      · exact ⟨Scanner.normal_ofList _, rfl⟩

theorem grounded_deeds (h : Grounded held found s)
    (hdocs : ∀ uri d, docs.get? uri = some d → held ⟨uri, d.text, d.version⟩)
    (hdeeds : Deeds docs s s') : Grounded held found s' := by
  induction hdeeds with
  | refl => exact h
  | tail _ hdeed ih => exact grounded_deed ih hdocs hdeed

theorem Grounded.mono {held' : Request → Prop} {found' : Request → Site → Prop}
    (h : Grounded held found s) (hheld : ∀ q, held q → held' q)
    (hfound : ∀ q u, found q u → found' q u) : Grounded held' found' s :=
  ⟨h.session.mono hheld hfound, h.lines, h.scanner⟩

theorem grounded_initial (hs : Initial s) : Grounded (s.Held []) (s.Found []) s := by
  obtain ⟨x, pinned, hdeeds⟩ := hs.deeds
  refine grounded_deeds ⟨Session.sourced_ofResolver x _ _, ?_, Scanner.normal_ofList _, rfl⟩
    (fun uri d hd => ?_) hdeeds
  · intro uri d hd
    cases hd
  · exact ⟨[], d, List.nil_prefix, hd, rfl, rfl⟩

/-- Every impulse keeps the session grounded in what has happened so far. -/
theorem grounded_meet (h : Grounded (s₀.Held ts) (s₀.Found ts) (s₀.lived ts)) (t : Instant) :
    Grounded (s₀.Held (ts ++ [t])) (s₀.Found (ts ++ [t])) (s₀.lived (ts ++ [t])) := by
  have hmono : Grounded (s₀.Held (ts ++ [t])) (s₀.Found (ts ++ [t])) (s₀.lived ts) :=
    h.mono (fun q hq => hq.concat t) fun q u hu => hu.concat t
  rw [lived_concat]
  rcases meet_cases (s₀.lived ts) t with ⟨id, expired, handlers, hi, heq⟩ | hdeeds
  · obtain ⟨files, impulse⟩ := t
    simp only at hi
    subst hi
    have hturn := Session.turn_act (s₀.lived ts).session
      ⟨(s₀.lived ts).editor files, .resumed id expired⟩
    rw [heq]
    refine (hmono.turned hturn (fun q hq => ?_) (fun uri text version hs => ?_)
      (fun id' expired' ho q u hu => ?_) (fun uri hforgets => ?_) fun change ho => ?_).of_eq rfl rfl
    · cases hq
    · exact Documents.of_snapshot? (fun uri d hd => (held_of_get? hd).concat _) hs
    · cases ho
      exact ⟨ts, files, id, expired, [], rfl, hu⟩
    · rcases hforgets with ho | ho <;> cases ho
    · cases ho
  · refine grounded_deeds hmono (fun uri d hd => ?_) hdeeds
    exact held_of_get? (by rw [lived_concat]; exact hd)

theorem grounded_lived (hs : Initial s₀) (ts : List Instant) :
    Grounded (s₀.Held ts) (s₀.Found ts) (s₀.lived ts) := by
  induction ts using List.reverseRecOn with
  | nil => exact grounded_initial hs
  | append_singleton ts t ih => exact grounded_meet ih t

/-- What a scan found occurs in the text that it scanned. -/
theorem Found.occurs (hs : Initial s₀) {q : Request} {u : Site} (h : s₀.Found ts q u) :
    ∃ front binding token back, q.text.toList = front ++ (binding ++ '.' :: token) ++ back ∧
      isIdentifier binding = true ∧ front.getLast?.any isIdentifierChar = false ∧ token ≠ [] ∧
      (∀ c ∈ token, isTokenChar c = true) ∧ u = .covering q.version front binding token := by
  obtain ⟨before, files, id, expired, later, -, run, options, -, rfl, hphase, hu⟩ := h
  obtain ⟨hnormal, hextensible⟩ := (grounded_lived hs before).scanner
  rw [Run.usages, hphase] at hu
  obtain ⟨front, binding, token, back, htext, hoccurs, rfl⟩ := occurs_of_mem_sites hu
  obtain ⟨name, hname, rfl⟩ := List.mem_map.mp hoccurs.binding
  exact ⟨front, name.toList, token, back, htext,
    Resolver.isIdentifier_of_mem_scannerFor hnormal hextensible hname, hoccurs.boundary,
    hoccurs.nonempty, hoccurs.token, rfl⟩

/-! ### The handlers -/

/-- Deeds leave the agents their numbers. -/
theorem follows_deed (hdeed : Deed docs s s') : s.session.Follows s'.session := by
  cases hdeed with
  | aside session => exact .of_eq (congrArg Session.agents session) (congrArg Session.nextAgent session)
  | turned turn => exact Session.follows_turn turn
  | entered | closed | activated | told => exact .of_eq rfl rfl

theorem follows_deeds (hdeeds : Deeds docs s s') : s.session.Follows s'.session := by
  induction hdeeds with
  | refl => exact .refl _
  | tail _ hdeed ih => exact ih.trans (follows_deed hdeed)

theorem follows_meet (s : Server) (t : Instant) : s.session.Follows (s.meet t).server.session := by
  rcases meet_cases s t with ⟨id, expired, handlers, -, heq⟩ | hdeeds
  · rw [heq]
    exact Session.follows_turn (Session.turn_act s.session ⟨s.editor t.files, .resumed id expired⟩)
  · exact follows_deeds hdeeds

/-- The run that a lens request waits for is the request's own. -/
structure Awaited (uri : Uri) (call : Nat) (s : Session) : Prop where
  number : call < s.nextAgent
  agent : ∀ a, s.agents.get? call = some a → ∃ run, a = .call run ∧ run.request.uri = uri

theorem Awaited.follows {uri : Uri} {call : Nat} {session session' : Session}
    (h : Awaited uri call session) (hfollows : session.Follows session') :
    Awaited uri call session' where
  number := Nat.lt_of_lt_of_le h.number hfollows.next
  agent := fun a' ha' => by
    obtain ⟨a, ha, hkeeps⟩ := hfollows.calls call h.number a' ha'
    obtain ⟨run, rfl, huri⟩ := h.agent a ha
    obtain ⟨run', rfl, hsame⟩ := hkeeps run rfl
    exact ⟨run', rfl, by rw [hsame, huri]⟩

/-- A run that is asked for gets the next number. -/
theorem awaited_call {session session' : Session} {q : Request} {call : Nat}
    (h : session.call q = (session', .ok call)) : Awaited q.uri call session' := by
  unfold Session.call Resolver.start at h
  cases href : session.resolver.refusedBy? q.uri q.version with
  | some latest =>
      simp only [href, Prod.mk.injEq, reduceCtorEq, and_false] at h
  | none =>
      simp only [href, Session.spawn, Prod.mk.injEq, Except.ok.injEq] at h
      obtain ⟨rfl, rfl⟩ := h
      refine ⟨Nat.lt_succ_self _, fun a ha => ?_⟩
      rw [Table.get?_insert, if_pos rfl, Option.some.injEq] at ha
      exact ⟨_, ha.symm, rfl⟩

/-- A lens request that has to wait waits for the run that it has asked for. -/
theorem awaited_askLenses {files : FileTree} {id call : Nat} {u uri : Uri} {settings : LensSettings}
    (h : (s.askLenses files id u).server.handlers.get? id = some (.lensResolving uri settings call)) :
    Awaited uri call (s.askLenses files id u).server.session := by
  have hgone : ∀ s' : Server, (s'.drop id).handlers.get? id = none := by
    intro s'
    rw [drop, Table.get?_erase, if_pos rfl]
  generalize hstep : s.askLenses files id u = step at h ⊢
  cases hstep ▸ asks_askLenses s files id u with
  | unwanted | kept | refused =>
      simp only [answerLens, hgone] at h
      cases h
  | waits unknown hcall =>
      simp only [put, Table.get?_insert, if_true, Option.some.injEq, Handler.lensResolving.injEq] at h
      obtain ⟨rfl, -, rfl⟩ := h
      rw [← Session.uri_of_annotations unknown]
      exact awaited_call hcall

/-- A lens request that is being handled came in, and if it waits, it waits for its own run. -/
structure Pending (s₀ : Server) (ts : List Instant) (s : Server) : Prop where
  requests : ∀ id h uri, s.handlers.get? id = some h → h.Serves uri → s₀.Requested ts id uri
  calls : ∀ id uri settings call, s.handlers.get? id = some (.lensResolving uri settings call) →
    Awaited uri call s.session

theorem pending_initial (hs : Initial s) : Pending s [] s := by
  have hnone : ∀ id, s.handlers.get? id = none := fun id => by
    rw [hs.handlers, Table.get?_empty]
  constructor
  · intro id h uri hh
    rw [hnone] at hh
    cases hh
  · intro id uri settings call hh
    rw [hnone] at hh
    cases hh

/-- Every impulse keeps the handlers of lens requests tied to what came in, and to their runs. -/
theorem pending_meet (h : Pending s₀ ts (s₀.lived ts)) (t : Instant) :
    Pending s₀ (ts ++ [t]) (s₀.lived (ts ++ [t])) := by
  obtain ⟨files, impulse⟩ := t
  have hshifts := shifts_act (s₀.lived ts) files impulse
  have hfollows := follows_meet (s₀.lived ts) ⟨files, impulse⟩
  rw [lived_concat]
  constructor
  · intro id handler uri hh hserves
    rcases hshifts.cases hh with hold | ⟨call, rfl, hstarts, rfl⟩ | ⟨handler₀, rfl, hold, hmoves⟩
    · exact (h.requests id handler uri hold hserves).concat _
    · cases hstarts with
      | lensAsked u =>
          cases hserves
          exact ⟨ts, files, [], rfl, rfl⟩
      | opening => cases hserves
      | configuring => cases hserves
    · cases hmoves with
      | lensResolving u settings call =>
          cases hserves
          exact (h.requests id _ uri hold .asked).concat _
      | announcing => cases hserves
      | begun => cases hserves
      | changing => cases hserves
  · intro id uri settings call hh
    rcases hshifts.cases hh with hold | ⟨_, rfl, hstarts, rfl⟩ | ⟨handler₀, rfl, hold, hmoves⟩
    · exact (h.calls id uri settings call hold).follows hfollows
    · cases hstarts
    · cases hmoves
      change ((s₀.lived ts).stepHandler files id).server.handlers.get? id = _ at hh
      change Awaited uri call ((s₀.lived ts).stepHandler files id).server.session
      simp only [stepHandler, hold] at hh ⊢
      exact awaited_askLenses hh

theorem pending_lived (hs : Initial s₀) (ts : List Instant) : Pending s₀ ts (s₀.lived ts) := by
  induction ts using List.reverseRecOn with
  | nil => exact pending_initial hs
  | append_singleton ts t ih => exact pending_meet ih t

end Server

end ClassLens
