import ClassLens.Proofs.Cache.Recency
import ClassLens.Proofs.Server.Settings
import Mathlib.Logic.Relation

/-! # What the resolver is told of the settings

While no change of settings goes on, the resolver has the options, the scanner and the extractor that
the settings call for.

* `Moment.Unset m`, `Session.Goes s s'`, `Server.Goes s s'`: what is done while nothing is set anew.
* `Standing`, `Server.standing`: what is set of a server and of its resolver.
* `Standing.Extracts x files e`: the extractor in force is the one that the settings call for; `x` is
  the one that the server was made with.
* `Standing.Agrees x files settings`: the resolver is told of the settings.
* `Standing.At x files new phase`: it is told of as much of new settings as the phase of the change
  says.
* `Server.InTurn P Q s`: the settings change one after the other; `P` holds while a change goes on, and
  `Q` holds else.
* `Server.Advances s files new phase phase' s'`: a change of settings gets to its next phase.
* `Server.Configured x files s`: the invariant: the settings change one after the other, and the
  resolver is as far as the change that goes on.

**Main statements.** `Server.configured_act`: every orderly impulse keeps the invariant.
`Server.configured_begin`: it holds at the beginning. -/

namespace ClassLens

open Usage

/-! ### Sessions at which nothing is set -/

/-- Nothing is set anew; of the cache, only a stylesheet may be forgotten. -/
structure Moment.Unset (m : Moment) : Prop where
  changed : ∀ change, m.occasion = .changed change → ∃ path, change = .useCache (.invalidate path)
  delayed : ∀ ms, m.occasion ≠ .debounceSet ms

namespace Moment.Unset

variable {m : Moment}

theorem of_unchanged (hchanged : ∀ change, m.occasion ≠ .changed change)
    (hdelayed : ∀ ms, m.occasion ≠ .debounceSet ms) : m.Unset :=
  ⟨fun change h => absurd h (hchanged change), hdelayed⟩

theorem plain (h : m.Unset) : m.Plain fun _ => True where
  changed := fun change ho => by
    obtain ⟨path, rfl⟩ := h.changed change ho
    exact ⟨_, rfl, by simp⟩
  read := fun _ _ _ _ _ _ => trivial

end Moment.Unset

namespace Session

variable {s s' : Session} {m : Moment} {events : List Event}

/-- A moment at which nothing is set anew changes no cache but by its uses, and sets no capacity. -/
theorem Turn.cache_of_unset (h : s.Turn m s' events) (hm : m.Unset) :
    s'.resolver.cache = s.resolver.cache ∨
      ∃ use, (∀ n, use ≠ .resize n) ∧ s'.resolver.cache = s.resolver.cache.used use := by
  have hsteps := steps_of_turn h
  generalize s'.resolver = r at hsteps ⊢
  cases hsteps with
  | still => exact .inl rfl
  | begun u v => exact .inl (Resolver.cache_begin _ _ _)
  | forgot => exact .inl rfl
  | changed ho =>
      obtain ⟨path, rfl⟩ := hm.changed _ ho
      exact .inr ⟨.invalidate path, by simp, rfl⟩
  | @went id run expired old ho =>
      rcases Resolver.cache_step_cases s.resolver m.editor run expired with heq | ⟨path, d, heq⟩ |
        ⟨job, extraction, sheet, -, -, -, heq⟩
      · exact .inl heq
      · exact .inr ⟨.get path d, by simp, heq⟩
      · exact .inr ⟨.insert job.path (digest job.css) (.ofSheet sheet), by simp, heq⟩

/-- The session takes a moment at which nothing is set anew. -/
def Going (s s' : Session) : Prop := ∃ m events, m.Unset ∧ s.Turn m s' events

/-- It takes any number of them. -/
abbrev Goes : Session → Session → Prop := Relation.ReflTransGen Going

namespace Goes

/-- What is set stays. -/
theorem frame (h : s.Goes s') :
    s'.resolver.extractor = s.resolver.extractor ∧ s'.resolver.options = s.resolver.options ∧
      s'.resolver.scanner = s.resolver.scanner ∧
      s'.resolver.fixedScanner = s.resolver.fixedScanner ∧ s'.debounce = s.debounce ∧
      s'.resolver.cache.capacity = s.resolver.cache.capacity := by
  induction h with
  | refl => exact ⟨rfl, rfl, rfl, rfl, rfl, rfl⟩
  | tail _ hgoing ih =>
      obtain ⟨m, events, hm, hturn⟩ := hgoing
      obtain ⟨hx, ho, hs, hf⟩ := frame_turn hturn hm.plain
      obtain ⟨hx', ho', hs', hf', hd', hc'⟩ := ih
      refine ⟨hx.trans hx', ho.trans ho', hs.trans hs', hf.trans hf', ?_, ?_⟩
      · exact (hturn.debounce_eq.resolve_right (hm.delayed _)).trans hd'
      · rcases hturn.cache_of_unset hm with heq | ⟨use, huse, heq⟩ <;> rw [heq]
        · exact hc'
        · rw [Cache.capacity_used huse, hc']

/-- The cache holds no more than it may. -/
theorem size_le (h : s.Goes s') (hs : s.resolver.cache.size ≤ s.resolver.cache.capacity) :
    s'.resolver.cache.size ≤ s'.resolver.cache.capacity := by
  induction h with
  | refl => exact hs
  | tail _ hgoing ih =>
      obtain ⟨m, events, hm, hturn⟩ := hgoing
      rcases hturn.cache_of_unset hm with heq | ⟨use, -, heq⟩ <;> rw [heq]
      · exact ih
      · exact Cache.size_used_le ih use

theorem faithful (h : s.Goes s') (hs : s.Faithful fun _ => True) : s'.Faithful fun _ => True := by
  induction h with
  | refl => exact hs
  | tail _ hgoing ih =>
      obtain ⟨m, events, hm, hturn⟩ := hgoing
      exact faithful_turn ih hturn hm.plain

end Goes

end Session

/-! ### What is set of a server -/

/-- What is set of a server and of its resolver. -/
structure Standing where
  settings : Settings
  pinned : Bool
  extractor : Extractor
  options : Options
  scanner : Scanner
  fixedScanner : Bool

namespace Standing

/-- The extractor is the one that the settings call for: a fixed one stays, and the one that the server
was made with runs the default command. -/
def Extracts (x : Extractor) (files : FileTree) (e : ExtractorSettings) (c : Standing) : Prop :=
  c.extractor = x ∧ (c.pinned = true ∨ e = {}) ∨
    c.pinned = false ∧ c.extractor = .command files e.command e.args

/-- The resolver is told of the settings. -/
structure Agrees (x : Extractor) (files : FileTree) (settings : Settings) (c : Standing) : Prop where
  options : c.options = settings.options
  scanner : c.scanner = settings.options.scanner
  extractor : c.Extracts x files settings.extractor

/-- The resolver is told of as much of the new settings as the phase says. -/
def At (x : Extractor) (files : FileTree) (new : Settings) (c : Standing) : SettingsPhase → Prop
  | .begun => c.Agrees x files c.settings
  | .scanner previous => previous = c.settings ∧ c.Agrees x files c.settings
  | .options previous =>
    previous = c.settings ∧ c.scanner = new.options.scanner ∧ c.Extracts x files c.settings.extractor
  | .extractor =>
    c.pinned = false ∧ c.options = new.options ∧ c.scanner = new.options.scanner
  | .keeping => c.Agrees x files new

/-- The extractor stays if the server is fixed to it, or if the settings call for the same one. -/
theorem Extracts.of_unchanged {x : Extractor} {files : FileTree} {c : Standing}
    {e e' : ExtractorSettings} (h : c.Extracts x files e) (he : c.pinned = true ∨ e = e') :
    c.Extracts x files e' := by
  rcases he with hp | rfl
  · rcases h with ⟨hx, -⟩ | ⟨hno, -⟩
    · exact .inl ⟨hx, .inl hp⟩
    · rw [hp] at hno
      cases hno
  · exact h

end Standing

namespace Server

variable {files : FileTree} {x : Extractor} {s s' s'' : Server} {i : Impulse} {is : List Impulse}

/-! ### What stays -/

/-- What is set of the server and of its resolver. -/
def standing (s : Server) : Standing where
  settings := s.settings
  pinned := s.pinned
  extractor := s.session.resolver.extractor
  options := s.session.resolver.options
  scanner := s.session.resolver.scanner
  fixedScanner := s.session.resolver.fixedScanner

/-- What is done about documents, lenses and agents: the session takes moments at which nothing is set
anew. -/
structure Goes (s s' : Server) : Prop where
  session : s.session.Goes s'.session
  settings : s'.settings = s.settings
  pinned : s'.pinned = s.pinned
  forwarding : s'.forwarding = s.forwarding
  nextHandler : s.nextHandler ≤ s'.nextHandler

namespace Goes

theorem refl (s : Server) : s.Goes s := ⟨.refl, rfl, rfl, rfl, Nat.le_refl _⟩

theorem trans (h : s.Goes s') (h' : s'.Goes s'') : s.Goes s'' where
  session := Relation.ReflTransGen.trans h.session h'.session
  settings := h'.settings.trans h.settings
  pinned := h'.pinned.trans h.pinned
  forwarding := h'.forwarding.trans h.forwarding
  nextHandler := Nat.le_trans h.nextHandler h'.nextHandler

/-- Handlers come and go beside the session. -/
theorem put (s : Server) (id : Nat) (h : Handler) : s.Goes (s.put id h) :=
  ⟨.refl, rfl, rfl, rfl, Nat.le_refl _⟩

/-- What is set stays. -/
theorem standing (h : s.Goes s') : s'.standing = s.standing := by
  obtain ⟨hx, ho, hs, hf, -, -⟩ := h.session.frame
  simp only [Server.standing, h.settings, h.pinned, hx, ho, hs, hf]

end Goes

theorem goes_refreshes (s : Server) (editor : Editor) (us : List Uri) :
    s.Goes { s with session := s.session.after (us.map fun u => ⟨editor, .refreshed u⟩) } := by
  refine ⟨?_, rfl, rfl, rfl, Nat.le_refl _⟩
  generalize s.session = session
  induction us generalizing session with
  | nil => exact .refl
  | cons u us ih =>
      exact .head ⟨_, _, .of_unchanged (by simp) (by simp),
        Session.turn_act session ⟨editor, .refreshed u⟩⟩ (ih _)

theorem Updates.goes {uri : Uri} (h : s.Updates files uri s') : s.Goes s' := by
  cases h with
  | nothing => exact .refl s
  | @scheduled d found resolvable delay =>
      have hasked : Moment.Schedules ⟨s.editor files, .refreshed uri⟩ uri d.version :=
        .refreshed (Documents.snapshot?_of_get? found)
      exact ⟨.single ⟨_, _, .of_unchanged (by simp) (by simp), .scheduled hasked delay⟩, rfl, rfl, rfl,
        Nat.le_refl _⟩
  | refreshed => exact goes_refreshes s _ _

theorem goes_openDocument (s : Server) (files : FileTree) (u : Uri) (language text : String)
    (version : Int) : s.Goes (s.openDocument files u language text version) := by
  have h := (updates_documentUpdated
    { s with documents := s.documents.openDocument u language text version } files u true).goes
  exact ⟨h.session, h.settings, h.pinned, h.forwarding, h.nextHandler⟩

theorem goes_changeDocument (s : Server) (files : FileTree) (u : Uri) (changes : List Change)
    (version : Int) : s.Goes (s.changeDocument files u changes version) := by
  unfold changeDocument
  split
  · have h := (updates_documentUpdated
      { s with documents := s.documents.change u changes version } files u false).goes
    exact ⟨h.session, h.settings, h.pinned, h.forwarding, h.nextHandler⟩
  · exact .refl s

theorem goes_closeDocument (s : Server) (files : FileTree) (u : Uri) :
    s.Goes (s.closeDocument files u) := by
  have hforgotten : s.session.Goes (s.session.forget u) :=
    .single ⟨⟨s.editor files, .forgotten u⟩, [], .of_unchanged (by simp) (by simp), .forgotten _ _⟩
  rcases closeDocument_cases s files u with ⟨path, -, heq⟩ | ⟨-, heq⟩ <;> rw [heq]
  · rw [refreshDependents_eq]
    have hforgets : (s.withoutDocument u).session.Goes
        ((s.withoutDocument u).withResolver
          { (s.withoutDocument u).session.resolver with
            cache := (s.withoutDocument u).session.resolver.cache.invalidate path }).session :=
      .single ⟨⟨s.editor files, .changed (.useCache (.invalidate path))⟩, [],
        ⟨fun change h => ⟨path, by simpa [eq_comm] using h⟩, by simp⟩, .changed _ _⟩
    have hrefreshed := goes_refreshes ((s.withoutDocument u).withResolver
      { (s.withoutDocument u).session.resolver with
        cache := (s.withoutDocument u).session.resolver.cache.invalidate path })
    exact ⟨hforgotten.trans (hforgets.trans (hrefreshed _ _).session), rfl, rfl, rfl, Nat.le_refl _⟩
  · exact ⟨hforgotten, rfl, rfl, rfl, Nat.le_refl _⟩

/-- While no change of settings goes on, nothing is set anew. -/
theorem goes_act (files : FileTree) (hsteady : s.Steady i) : s.Goes (s.act files i).server := by
  have hagents : ∀ (occasion : Occasion) (handlers : Table Nat Handler),
      (∀ change, occasion ≠ .changed change) → (∀ ms, occasion ≠ .debounceSet ms) →
      s.Goes { s with session := (s.session.act ⟨s.editor files, occasion⟩).1, handlers } :=
    fun occasion handlers hchanged hdelayed =>
      ⟨.single ⟨_, _, .of_unchanged hchanged hdelayed,
        Session.turn_act s.session ⟨s.editor files, occasion⟩⟩, rfl, rfl, rfl, Nat.le_refl _⟩
  have hhandlers : ∀ {s' : Server} (handlers : Table Nat Handler), s.Goes s' →
      s.Goes { s' with handlers } :=
    fun handlers h => ⟨h.session, h.settings, h.pinned, h.forwarding, h.nextHandler⟩
  cases i with
  | received call =>
      cases call with
      | opened | configured | lenses => exact ⟨.refl, rfl, rfl, rfl, Nat.le_succ _⟩
      | changed u changes version => exact goes_changeDocument s files u changes version
      | closed u => exact goes_closeDocument s files u
  | handled id =>
      cases hh : s.handlers.get? id with
      | none =>
          simp only [act, stepHandler, hh]
          exact .refl s
      | some handler =>
          cases handler with
          | opening u language text version =>
              simp only [act, stepHandler, hh]
              split
              · exact hhandlers _ (.refl s)
              · exact hhandlers _ (goes_openDocument s files u language text version)
          | announcing u language text version =>
              simp only [act, stepHandler, hh]
              exact hhandlers _ (goes_openDocument s files u language text version)
          | configuring payload =>
              simp only [act, stepHandler, hh]
              split <;> exact hhandlers _ (.refl s)
          | changing new phase => exact absurd hh (hsteady id new phase rfl)
          | lensAsked u =>
              obtain ⟨handlers, -, heq | heq⟩ := askLenses_cases s files id u <;>
                simp only [act, stepHandler, hh, heq]
              · exact hhandlers _ (.refl s)
              · exact hagents _ _ (by simp) (by simp)
          | lensResolving u settings call =>
              simp only [act, stepHandler, hh]
              exact .refl s
  | resumed id expired =>
      obtain ⟨handlers, -, heq⟩ := stepAgent_server s files id expired
      simp only [act, heq]
      exact hagents _ _ (by simp) (by simp)

/-- No number of a handler is used again. -/
theorem nextHandler_act (s : Server) (files : FileTree) (i : Impulse) :
    s.nextHandler ≤ (s.act files i).server.nextHandler := by
  by_cases hsteady : s.Steady i
  · exact (goes_act files hsteady).nextHandler
  · -- a change of settings goes on, which adds no handler
    simp only [Steady, not_forall, Classical.not_not] at hsteady
    obtain ⟨id, new, phase, rfl, hh⟩ := hsteady
    simp only [act, stepHandler, hh]
    cases phase with
    | begun | scanner | options | extractor => exact Nat.le_refl _
    | keeping =>
        simp only [stepSettings]
        split <;> exact Nat.le_refl _

/-! ### Changes of settings, one after the other -/

/-- A change of settings goes on at this number. -/
def Changes (s : Server) (id : Nat) : Prop :=
  ∃ new phase, s.handlers.get? id = some (.changing new phase)

/-- A change of settings begins only while no other goes on. -/
def Apart (s : Server) (i : Impulse) : Prop :=
  ∀ id payload, i = .handled id → s.handlers.get? id = some (.configuring payload) →
    ∀ id', ¬ s.Changes id'

theorem Orderly.isApart (h : s.Orderly i) : s.Apart i := by
  rintro id payload hi hh id' ⟨new, phase, hother⟩
  exact h.apart id payload id' new phase hi hh hother

/-- A change of settings gets to its next phase, and sets something anew. -/
inductive Advances (s : Server) (files : FileTree) (new : Settings) :
    SettingsPhase → SettingsPhase → Server → Prop where
  | begun : Advances s files new .begun (.scanner s.settings) (s.resizeCache new)
  | scanner (previous : Settings) :
      Advances s files new (.scanner previous) (.options previous) (s.followBindings new)
  /-- The extractor stays. -/
  | options {previous : Settings} (same : s.changesExtractor previous new = false) :
      Advances s files new (.options previous) .keeping (s.followOptions new)
  /-- The extractor is to be replaced. -/
  | swapping {previous : Settings} (other : s.changesExtractor previous new = true) :
      Advances s files new (.options previous) .extractor (s.followOptions new)
  | extractor : Advances s files new .extractor .keeping (s.followExtractor files new)

/-- Whether the extractor is fixed is not set anew. -/
theorem Advances.pinned {new : Settings} {phase phase' : SettingsPhase}
    (h : s.Advances files new phase phase' s') : s'.pinned = s.pinned := by
  cases h <;> rfl

/-- A change of settings gets to its next phase, or its settings hold from now on. -/
theorem stepSettings_cases (s : Server) (files : FileTree) (id : Nat) (new : Settings)
    (phase : SettingsPhase) :
    (∃ phase' s', s.Advances files new phase phase' s' ∧
      s.stepSettings files id new phase = s'.put id (.changing new phase')) ∨
    phase = .keeping ∧ (s.keepSettings new).Goes (s.stepSettings files id new phase) ∧
      (s.stepSettings files id new phase).handlers = s.handlers.erase id ∧
      (s.stepSettings files id new phase).nextHandler = s.nextHandler := by
  cases phase with
  | begun => exact .inl ⟨_, _, .begun, rfl⟩
  | scanner previous => exact .inl ⟨_, _, .scanner previous, rfl⟩
  | options previous =>
      left
      cases hchanges : s.changesExtractor previous new with
      | true =>
          refine ⟨_, _, .swapping hchanges, ?_⟩
          simp only [stepSettings]
          rw [if_pos]
          exact hchanges
      | false =>
          refine ⟨_, _, .options hchanges, ?_⟩
          simp only [stepSettings]
          rw [if_neg]
          exact Bool.eq_false_iff.mp hchanges
  | extractor => exact .inl ⟨_, _, .extractor, rfl⟩
  | keeping =>
      refine .inr ⟨rfl, ?_⟩
      have hdropped : (s.keepSettings new).Goes ((s.keepSettings new).drop id) :=
        ⟨.refl, rfl, rfl, rfl, Nat.le_refl _⟩
      simp only [stepSettings]
      split
      · rename_i u _
        exact ⟨hdropped.trans (goes_refreshes _ _ [u]), rfl, rfl⟩
      · exact ⟨hdropped, rfl, rfl⟩

/-- The settings change one after the other: `P` holds for a change that goes on and its phase, and `Q`
holds while none goes on. -/
structure InTurn (P : Settings → SettingsPhase → Server → Prop) (Q : Server → Prop) (s : Server) :
    Prop where
  numbered : s.Numbered
  alone : ∀ id id', s.Changes id → s.Changes id' → id = id'
  during : ∀ id new phase, s.handlers.get? id = some (.changing new phase) → P new phase s
  between : (∀ id, ¬ s.Changes id) → Q s

theorem numbered_act (hn : s.Numbered) (hnext : s.nextHandler ≤ (s.act files i).server.nextHandler) :
    (s.act files i).server.Numbered := by
  intro id h hh
  rcases (shifts_act s files i).cases hh with old | ⟨call, rfl, starts, rfl⟩ | ⟨h₀, -, old, -⟩
  · exact Nat.lt_of_lt_of_le (hn id h old) hnext
  · cases starts <;> exact Nat.lt_succ_self _
  · exact Nat.lt_of_lt_of_le (hn id h₀ old) hnext

/-- A change of settings that goes on after an impulse went on before, or begins. -/
theorem changing_cases {id : Nat} {new : Settings} {phase : SettingsPhase}
    (hh : (s.act files i).server.handlers.get? id = some (.changing new phase)) :
    s.handlers.get? id = some (.changing new phase) ∨
      i = .handled id ∧
        ((∃ payload, s.handlers.get? id = some (.configuring payload) ∧
          new = s.settings.merge payload ∧ phase = .begun) ∨ s.Changes id) := by
  rcases (shifts_act s files i).cases hh with old | ⟨call, -, starts, -⟩ | ⟨h₀, rfl, old, moves⟩
  · exact .inl old
  · cases starts
  · cases moves with
    | begun => exact .inr ⟨rfl, .inl ⟨_, old, rfl, rfl⟩⟩
    | changing => exact .inr ⟨rfl, .inr ⟨_, _, old⟩⟩

namespace InTurn

variable {P : Settings → SettingsPhase → Server → Prop} {Q : Server → Prop}

/-- At a time when no change of settings goes on. -/
theorem of_between (hn : s.Numbered) (hnone : ∀ id, ¬ s.Changes id) (hQ : Q s) : s.InTurn P Q where
  numbered := hn
  alone := fun id _ h => absurd h (hnone id)
  during := fun id _ _ hh => absurd ⟨_, _, hh⟩ (hnone id)
  between := fun _ => hQ

/-- An impulse at which no change of settings goes on, but one may begin. -/
theorem of_steady (h : s.InTurn P Q) (ha : s.Apart i) (hsteady : s.Steady i)
    (hP : ∀ new phase, P new phase s → P new phase (s.act files i).server)
    (hQ : Q s → Q (s.act files i).server)
    (hbegun : ∀ payload, Q s → P (s.settings.merge payload) .begun (s.act files i).server) :
    (s.act files i).server.InTurn P Q := by
  -- a change that goes on afterwards is an old one, or begins while there is no other
  have hcases : ∀ id new phase, (s.act files i).server.handlers.get? id = some (.changing new phase) →
      s.handlers.get? id = some (.changing new phase) ∨
        i = .handled id ∧ (∃ payload, new = s.settings.merge payload) ∧ phase = .begun ∧
          ∀ id', ¬ s.Changes id' := by
    intro id new phase hh
    rcases changing_cases hh with old | ⟨hi, ⟨payload, old, hnew, hphase⟩ | ⟨new', phase', old⟩⟩
    · exact .inl old
    · exact .inr ⟨hi, ⟨payload, hnew⟩, hphase, ha id payload hi old⟩
    · exact absurd old (hsteady id new' phase' hi)
  refine ⟨numbered_act h.numbered (nextHandler_act s files i), ?_, fun id new phase hh => ?_,
    fun hnone => hQ (h.between ?_)⟩
  · rintro id id' ⟨new, phase, hh⟩ ⟨new', phase', hh'⟩
    rcases hcases id new phase hh with old | ⟨hi, -, -, hno⟩ <;>
      rcases hcases id' new' phase' hh' with old' | ⟨hi', -, -, hno'⟩
    · exact h.alone id id' ⟨_, _, old⟩ ⟨_, _, old'⟩
    · exact absurd ⟨_, _, old⟩ (hno' id)
    · exact absurd ⟨_, _, old'⟩ (hno id')
    · rw [hi, Impulse.handled.injEq] at hi'
      exact hi'
  · rcases hcases id new phase hh with old | ⟨-, ⟨payload, rfl⟩, rfl, hno⟩
    · exact hP new phase (h.during id new phase old)
    · exact hbegun payload (h.between hno)
  · rintro id ⟨new, phase, old⟩
    refine hnone id ⟨new, phase, (shifts_act s files i).stays h.numbered old ?_ ?_⟩
    · rintro ⟨_, _, _, heq⟩
      cases heq
    · rintro rfl
      exact hsteady id new phase rfl old

/-- A change of settings gets to its next phase. -/
theorem moved (h : s.InTurn P Q) {id : Nat} {new : Settings} {phase phase' : SettingsPhase}
    (hh : s.handlers.get? id = some (.changing new phase))
    (hhandlers : s'.handlers = s.handlers.insert id (.changing new phase'))
    (hnext : s'.nextHandler = s.nextHandler) (hP : P new phase' s') : s'.InTurn P Q := by
  have hself : s'.handlers.get? id = some (.changing new phase') := by rw [hhandlers]; simp
  have honly : ∀ id', s'.Changes id' → id' = id := by
    rintro id' ⟨new', phase'', hh'⟩
    by_contra hne
    rw [hhandlers, Table.get?_insert, if_neg (Ne.symm hne)] at hh'
    exact hne (h.alone id' id ⟨_, _, hh'⟩ ⟨_, _, hh⟩)
  refine ⟨fun id' a ha => ?_, fun id₁ id₂ h₁ h₂ => (honly id₁ h₁).trans (honly id₂ h₂).symm,
    fun id' new' phase'' hh' => ?_, fun hnone => absurd ⟨_, _, hself⟩ (hnone id)⟩
  · rw [hhandlers, Table.get?_insert] at ha
    rw [hnext]
    split at ha
    · rename_i hid
      exact hid ▸ h.numbered id _ hh
    · exact h.numbered id' a ha
  · obtain rfl := honly id' ⟨_, _, hh'⟩
    rw [hself, Option.some.injEq, Handler.changing.injEq] at hh'
    obtain ⟨rfl, rfl⟩ := hh'
    exact hP

/-- A change of settings ends. -/
theorem ended (h : s.InTurn P Q) {id : Nat} {new : Settings} {phase : SettingsPhase}
    (hh : s.handlers.get? id = some (.changing new phase))
    (hhandlers : s'.handlers = s.handlers.erase id) (hnext : s'.nextHandler = s.nextHandler)
    (hQ : Q s') : s'.InTurn P Q := by
  have hold : ∀ id' a, s'.handlers.get? id' = some a →
      id' ≠ id ∧ s.handlers.get? id' = some a := by
    intro id' a ha
    rw [hhandlers, Table.get?_erase] at ha
    split at ha
    · cases ha
    · rename_i hne
      exact ⟨Ne.symm hne, ha⟩
  refine of_between (fun id' a ha => hnext ▸ h.numbered id' a (hold id' a ha).2) ?_ hQ
  rintro id' ⟨new', phase', hh'⟩
  obtain ⟨hne, hh'⟩ := hold id' _ hh'
  exact hne (h.alone id' id ⟨_, _, hh'⟩ ⟨_, _, hh⟩)

end InTurn

/-- What is said of a server while its settings change, and while they do not, is about what is set of
it: it stays while nothing is set anew, and goes over into each other at both ends of a change. -/
structure Settles (P : Settings → SettingsPhase → Server → Prop) (Q : Server → Prop) : Prop where
  stays : ∀ {s s' : Server} {new : Settings} {phase : SettingsPhase}, s.Goes s' → P new phase s →
    P new phase s'
  rests : ∀ {s s' : Server}, s.Goes s' → Q s → Q s'
  begun : ∀ {s : Server} (payload : Json.Value), Q s → P (s.settings.merge payload) .begun s
  kept : ∀ {s : Server} {new : Settings}, P new .keeping s → Q (s.keepSettings new)

/-- An impulse that is apart keeps what is said, if each phase of a change leads to what is said of the
next one. -/
theorem InTurn.act {P : Settings → SettingsPhase → Server → Prop} {Q : Server → Prop}
    (h : s.InTurn P Q) (hsettles : Settles P Q) (ha : s.Apart i)
    (hadvances : ∀ {id new phase phase' s'}, i = .handled id →
      s.handlers.get? id = some (.changing new phase) → s.Advances files new phase phase' s' →
      P new phase s → P new phase' s') :
    (s.act files i).server.InTurn P Q := by
  by_cases hsteady : s.Steady i
  · have hgoes := goes_act files hsteady
    exact h.of_steady ha hsteady (fun _ _ => hsettles.stays hgoes) (hsettles.rests hgoes)
      fun payload hQ => hsettles.stays hgoes (hsettles.begun payload hQ)
  · simp only [Steady, not_forall, not_not] at hsteady
    obtain ⟨id, new, phase, rfl, hh⟩ := hsteady
    have hP := h.during id new phase hh
    simp only [Server.act, stepHandler, hh]
    rcases stepSettings_cases s files id new phase with
      ⟨phase', s', hadv, heq⟩ | ⟨rfl, hgoes, hhandlers, hnext⟩
    · rw [heq]
      have hsame : s'.handlers = s.handlers ∧ s'.nextHandler = s.nextHandler := by
        cases hadv <;> exact ⟨rfl, rfl⟩
      exact h.moved hh (by rw [put, hsame.1]) hsame.2
        (hsettles.stays (.put s' id _) (hadvances rfl hh hadv hP))
    · exact h.ended hh hhandlers hnext (hsettles.rests hgoes (hsettles.kept hP))

/-- The settings change one after the other.  While none do, the resolver is told of the settings in
force, and else it is as far as the change. -/
structure Configured (x : Extractor) (files : FileTree) (s : Server) : Prop where
  numbered : s.Numbered
  follows : s.standing.fixedScanner = false
  alone : ∀ id id', s.Changes id → s.Changes id' → id = id'
  stands : ∀ id new phase, s.handlers.get? id = some (.changing new phase) →
    s.standing.At x files new phase
  settled : (∀ id, ¬ s.Changes id) → s.standing.Agrees x files s.settings

theorem configured_iff : s.Configured x files ↔
    s.InTurn (fun new phase s => s.standing.fixedScanner = false ∧ s.standing.At x files new phase)
      (fun s => s.standing.fixedScanner = false ∧ s.standing.Agrees x files s.settings) := by
  constructor
  · intro h
    exact ⟨h.numbered, h.alone, fun id new phase hh => ⟨h.follows, h.stands id new phase hh⟩,
      fun hnone => ⟨h.follows, h.settled hnone⟩⟩
  · intro h
    refine ⟨h.numbered, ?_, h.alone, fun id new phase hh => (h.during id new phase hh).2,
      fun hnone => (h.between hnone).2⟩
    by_cases hnone : ∀ id, ¬ s.Changes id
    · exact (h.between hnone).1
    · simp only [not_forall, not_not] at hnone
      obtain ⟨id, new, phase, hh⟩ := hnone
      exact (h.during id new phase hh).1

theorem settles_standing (x : Extractor) (files : FileTree) :
    Settles (fun new phase s => s.standing.fixedScanner = false ∧ s.standing.At x files new phase)
      (fun s => s.standing.fixedScanner = false ∧ s.standing.Agrees x files s.settings) where
  stays hgoes h := by rwa [hgoes.standing]
  rests hgoes h := by rwa [hgoes.standing, hgoes.settings]
  begun payload h := h
  kept h := ⟨h.1, h.2.options, h.2.scanner, h.2.extractor⟩

/-- The resolver is told of the next part of the new settings. -/
theorem Advances.standing {new : Settings} {phase phase' : SettingsPhase}
    (hadv : s.Advances files new phase phase' s')
    (h : s.standing.fixedScanner = false ∧ s.standing.At x files new phase) :
    s'.standing.fixedScanner = false ∧ s'.standing.At x files new phase' := by
  obtain ⟨hfollows, hat⟩ := h
  cases hadv with
  | begun => exact ⟨hfollows, rfl, hat⟩
  | scanner previous =>
      obtain ⟨hprevious, -, -, hextractor⟩ := hat
      have hstanding : (s.followBindings new).standing =
          { s.standing with scanner := new.options.scanner } := by
        have hno : s.session.resolver.fixedScanner = false := hfollows
        simp [Server.standing, followBindings, withResolver, Resolver.followBindings, hno]
      rw [hstanding]
      exact ⟨hfollows, hprevious, rfl, hextractor⟩
  | options same =>
      obtain ⟨rfl, hscanner, hextractor⟩ := hat
      refine ⟨hfollows, rfl, hscanner, hextractor.of_unchanged ?_⟩
      rwa [changesExtractor, Bool.and_eq_false_iff, Bool.not_eq_false', bne_eq_false_iff_eq] at same
  | swapping other =>
      obtain ⟨-, hscanner, -⟩ := hat
      rw [changesExtractor, Bool.and_eq_true, Bool.not_eq_true'] at other
      exact ⟨hfollows, other.1, rfl, hscanner⟩
  | extractor =>
      obtain ⟨hpinned, hoptions, hscanner⟩ := hat
      exact ⟨hfollows, hoptions, hscanner, .inr ⟨hpinned, rfl⟩⟩

/-- Every orderly impulse keeps the invariant. -/
theorem configured_act (h : s.Configured x files) (ho : s.Orderly i) :
    (s.act files i).server.Configured x files :=
  configured_iff.mpr ((configured_iff.mp h).act (settles_standing x files) ho.isApart
    fun _ _ hadv => hadv.standing)

/-- The settings are applied all at once: the resolver is told of them. -/
theorem standing_applySettings (hfollows : s.standing.fixedScanner = false)
    (hextracts : s.standing.Extracts x files s.settings.extractor) (new : Settings) :
    (s.applySettings files new).standing.fixedScanner = false ∧
      (s.applySettings files new).standing.Agrees x files new := by
  have hthree : (((s.resizeCache new).followBindings new).followOptions new).standing =
      { s.standing with options := new.options, scanner := new.options.scanner } := by
    have hno : s.session.resolver.fixedScanner = false := hfollows
    simp [standing, resizeCache, followBindings, followOptions, withResolver, Resolver.resizeCache,
      Resolver.followBindings, hno]
  unfold applySettings
  generalize ((s.resizeCache new).followBindings new).followOptions new = s₃ at hthree ⊢
  simp only
  split
  · rename_i hchanges
    rw [changesExtractor, Bool.and_eq_true, Bool.not_eq_true'] at hchanges
    have hlast : ((s₃.followExtractor files new).keepSettings new).standing =
        { s₃.standing with
          settings := new
          extractor := .command files new.extractor.command new.extractor.args } := rfl
    rw [hlast, hthree]
    refine ⟨hfollows, rfl, rfl, .inr ⟨?_, rfl⟩⟩
    exact (congrArg Standing.pinned hthree).symm.trans hchanges.1
  · rename_i hchanges
    rw [changesExtractor, Bool.and_eq_true, Bool.not_eq_true', not_and_or, Bool.not_eq_false,
      bne_iff_ne, not_not] at hchanges
    have hlast : (s₃.keepSettings new).standing = { s₃.standing with settings := new } := rfl
    rw [hlast, hthree]
    refine ⟨hfollows, rfl, rfl, ?_⟩
    exact hextracts.of_unchanged (hchanges.imp_left (congrArg Standing.pinned hthree).symm.trans)

/-- At the beginning the resolver is told of the settings. -/
theorem configured_begin (x : Extractor) (pinned : Bool) (client : Client) :
    ((ofExtractor x pinned).begin files client).Configured x files := by
  have hhandlers : ((ofExtractor x pinned).begin files client).handlers = .empty := by
    simp only [begin, applySettings]
    split <;> rfl
  have hno : ∀ id a, ((ofExtractor x pinned).begin files client).handlers.get? id ≠ some a := by
    intro id a ha
    rw [hhandlers] at ha
    cases ha
  have hsettings :
      ((ofExtractor x pinned).begin files client).settings = startSettings files client := by
    simp only [begin, applySettings]
    split <;> rfl
  have hmade :
      (ofExtractor x pinned).standing.Extracts x files (ofExtractor x pinned).settings.extractor :=
    .inl ⟨rfl, .inr rfl⟩
  obtain ⟨hfollows, hagrees⟩ := standing_applySettings rfl hmade (startSettings files client)
  refine configured_iff.mpr (.of_between (fun id a ha => absurd ha (hno id a)) ?_ ⟨hfollows, ?_⟩)
  · rintro id ⟨_, _, hh⟩
    exact hno id _ hh
  · rw [hsettings]
    exact hagrees

end Server

end ClassLens
