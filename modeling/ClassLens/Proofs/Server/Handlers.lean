import ClassLens.Proofs.Server.Course

/-! # Handlers of a server

A call that is not handled at once has a handler, which goes on by itself.  An impulse starts one, moves
or ends the one that goes on, or ends those that wait for a run that was answered.

* `Handler.Waits h`: the handler waits for a run.
* `Starts call h`, `Server.Moves s h h'`: the handler that a call starts, and where one may go on to.
* `Server.Asks s files id uri step`: what is done about a lens request that is looked at.
* `Server.Shifts s i after`: what an impulse does to the handlers, by cases.
* `Server.Numbered s`: the handlers have numbers that are not used again.

**Main statements.** `Server.shifts_act`: there are no other cases.  `Server.Shifts.cases`,
`Server.Shifts.stays`: where a handler comes from, and which ones stay. -/

namespace ClassLens

/-- The handler waits for a run. -/
def Handler.Waits (h : Handler) : Prop := ∃ uri settings call, h = .lensResolving uri settings call

/-- The handler that a call starts. -/
inductive Starts : Call → Handler → Prop where
  | opening (u : Uri) (language text : String) (version : Int) :
      Starts (.opened u language text version) (.opening u language text version)
  | configuring (payload : Json.Value) : Starts (.configured payload) (.configuring payload)
  | lensAsked (u : Uri) : Starts (.lenses u) (.lensAsked u)

namespace Server

variable {files : FileTree} {s : Server}

/-- Some handlers have ended that waited for a run. -/
structure Answers (before after : Table Nat Handler) : Prop where
  old : ∀ id h, after.get? id = some h → before.get? id = some h
  stays : ∀ id h, before.get? id = some h → ¬ h.Waits → after.get? id = some h

theorem Answers.refl (handlers : Table Nat Handler) : Answers handlers handlers :=
  ⟨fun _ _ h => h, fun _ _ h _ => h⟩

theorem Answers.trans {a b c : Table Nat Handler} (h : Answers a b) (h' : Answers b c) : Answers a c :=
  ⟨fun id x hx => h.old id x (h'.old id x hx),
    fun id x hx hno => h'.stays id x (h.stays id x hx hno) hno⟩

theorem waits_of_waitingFor? {call id : Nat} {uri : Uri} {settings : LensSettings}
    (h : s.waitingFor? call = some (id, uri, settings)) :
    s.handlers.get? id = some (.lensResolving uri settings call) := by
  obtain ⟨e, hmem, hfound⟩ := List.exists_of_findSome?_eq_some h
  obtain ⟨k, a⟩ := e
  cases a with
  | lensResolving u settings' c =>
      simp only at hfound
      split at hfound
      · rename_i hc
        simp only [Option.some.injEq, Prod.mk.injEq] at hfound
        obtain ⟨rfl, rfl, rfl⟩ := hfound
        subst hc
        exact Table.lookup_of_mem s.handlers.nodup hmem
      · cases hfound
  | _ => cases hfound

theorem settleCall_eq (step : ServerStep) (call : Nat) (answer : Answer) :
    ∃ handlers, Answers step.server.handlers handlers ∧
      (settleCall step call answer).server = { step.server with handlers } := by
  unfold settleCall
  cases hfound : step.server.waitingFor? call with
  | none => exact ⟨_, .refl _, rfl⟩
  | some found =>
      have hwaits := waits_of_waitingFor? hfound
      refine ⟨step.server.handlers.erase found.1, ⟨fun id h hh => ?_, fun id h hh hno => ?_⟩, rfl⟩
      · rw [Table.get?_erase] at hh
        split at hh
        · cases hh
        · exact hh
      · have hne : ¬ found.1 = id := by
          rintro rfl
          rw [hwaits, Option.some.injEq] at hh
          exact hno ⟨_, _, _, hh.symm⟩
        rw [Table.get?_erase, if_neg hne, hh]

/-- What is seen of the session only ends handlers that wait for it. -/
theorem observe_eq (step : ServerStep) (events : List Event) :
    ∃ handlers, Answers step.server.handlers handlers ∧
      (observe step events).server = { step.server with handlers } := by
  induction events generalizing step with
  | nil => exact ⟨_, .refl _, rfl⟩
  | cons e rest ih =>
      unfold observe
      simp only
      split
      · rename_i call answer
        obtain ⟨h₁, hanswers₁, heq₁⟩ := settleCall_eq
          { step with sent := step.sent ++ step.server.messagesOf (.answered call answer) } call answer
        obtain ⟨h₂, hanswers₂, heq₂⟩ := ih (settleCall
          { step with sent := step.sent ++ step.server.messagesOf (.answered call answer) } call answer)
        rw [heq₁] at hanswers₂
        exact ⟨h₂, hanswers₁.trans hanswers₂, by rw [heq₂, heq₁]⟩
      · exact ih { step with sent := step.sent ++ step.server.messagesOf e }

/-- An agent of the session goes on. -/
theorem stepAgent_server (s : Server) (files : FileTree) (id : Nat) (expired : Bool) :
    ∃ handlers, Answers s.handlers handlers ∧
      (s.stepAgent files id expired).server =
        { s with session := (s.session.act ⟨s.editor files, .resumed id expired⟩).1, handlers } :=
  observe_eq { server := { s with session := (s.session.step (s.editor files) id expired).1 } } _

/-- What is done about a lens request that is looked at. -/
inductive Asks (s : Server) (files : FileTree) (id : Nat) (uri : Uri) : ServerStep → Prop where
  /-- No lenses are wanted, or none are looked for. -/
  | unwanted : Asks s files id uri (s.answerLens id none)
  /-- What is kept will do. -/
  | kept {annotations : List Annotation}
      (known : s.session.annotations (s.editor files) uri = .inl annotations) :
      Asks s files id uri (s.answerLens id (s.lensesFor uri s.settings.lens annotations))
  /-- The document is to be resolved, which is refused. -/
  | refused {q : Request} {session : Session} {answer : Answer}
      (unknown : s.session.annotations (s.editor files) uri = .inr q)
      (call : s.session.call q = (session, .error answer)) :
      Asks s files id uri
        (({ s with session } : Server).answerLens id
          (s.lensesFor uri s.settings.lens (Session.annotationsOf answer)))
  /-- The document is to be resolved, and the request waits for it. -/
  | waits {q : Request} {session : Session} {run : Nat}
      (unknown : s.session.annotations (s.editor files) uri = .inr q)
      (call : s.session.call q = (session, .ok run)) :
      Asks s files id uri
        { server := ({ s with session } : Server).put id (.lensResolving uri s.settings.lens run) }

/-- There are no other cases. -/
theorem asks_askLenses (s : Server) (files : FileTree) (id : Nat) (uri : Uri) :
    s.Asks files id uri (s.askLenses files id uri) := by
  unfold askLenses
  simp only
  split
  · cases hask : s.session.annotations (s.editor files) uri with
    | inl annotations => exact .kept hask
    | inr q =>
        rcases hcall : s.session.call q with ⟨session, answer | run⟩
        · simp only [hcall]
          exact .refused hask hcall
        · simp only [hcall]
          exact .waits hask hcall
  · exact .unwanted

/-- A lens request that is looked at leads to what the session does about it. -/
theorem askLenses_cases (s : Server) (files : FileTree) (id : Nat) (u : Uri) :
    ∃ handlers,
      (handlers = s.handlers.erase id ∨
        ∃ settings call, handlers = s.handlers.insert id (.lensResolving u settings call)) ∧
      ((s.askLenses files id u).server = { s with handlers } ∨
        (s.askLenses files id u).server =
          { s with session := (s.session.act ⟨s.editor files, .lensAsked u⟩).1, handlers }) := by
  have hact : ∀ {q}, s.session.annotations (s.editor files) u = .inr q →
      (s.session.act ⟨s.editor files, .lensAsked u⟩).1 = (s.session.call q).1 := by
    intro q hask
    simp only [Session.act, hask]
  generalize hstep : s.askLenses files id u = step
  cases hstep ▸ asks_askLenses s files id u with
  | unwanted => exact ⟨_, .inl rfl, .inl rfl⟩
  | kept => exact ⟨_, .inl rfl, .inl rfl⟩
  | refused unknown call =>
      refine ⟨_, .inl rfl, .inr ?_⟩
      rw [hact unknown, call]
      rfl
  | @waits q session run unknown call =>
      refine ⟨_, .inr ⟨s.settings.lens, run, rfl⟩, .inr ?_⟩
      rw [hact unknown, call]
      rfl

theorem documents_askLenses (s : Server) (files : FileTree) (id : Nat) (u : Uri) :
    (s.askLenses files id u).server.documents = s.documents := by
  obtain ⟨handlers, -, heq⟩ := askLenses_cases s files id u
  rcases heq with heq | heq <;> rw [heq]

theorem handlers_openDocument (s : Server) (files : FileTree) (u : Uri) (language text : String)
    (version : Int) : (s.openDocument files u language text version).handlers = s.handlers :=
  (updates_documentUpdated
    { s with documents := s.documents.openDocument u language text version } files u true).handlers

theorem handlers_changeDocument (s : Server) (files : FileTree) (u : Uri) (changes : List Change)
    (version : Int) : (s.changeDocument files u changes version).handlers = s.handlers := by
  unfold changeDocument
  split
  · exact (updates_documentUpdated
      { s with documents := s.documents.change u changes version } files u false).handlers
  · rfl

theorem handlers_closeDocument (s : Server) (files : FileTree) (u : Uri) :
    (s.closeDocument files u).handlers = s.handlers := by
  rcases closeDocument_cases s files u with ⟨path, -, heq⟩ | ⟨-, heq⟩ <;> rw [heq]
  · rw [refreshDependents_eq]
    rfl
  · rfl

/-- Where a handler may go on to. -/
inductive Moves (s : Server) : Handler → Handler → Prop where
  | announcing (u : Uri) (language text : String) (version : Int) :
      Moves s (.opening u language text version) (.announcing u language text version)
  | begun {payload : Json.Value} (new : s.settings.merge payload ≠ s.settings) :
      Moves s (.configuring payload) (.changing (s.settings.merge payload) .begun)
  | changing (new : Settings) (phase phase' : SettingsPhase) :
      Moves s (.changing new phase) (.changing new phase')
  | lensResolving (u : Uri) (settings : LensSettings) (call : Nat) :
      Moves s (.lensAsked u) (.lensResolving u settings call)

/-- What an impulse does to the handlers. -/
inductive Shifts (s : Server) : Impulse → Table Nat Handler → Prop where
  | same (i : Impulse) : Shifts s i s.handlers
  | started {call : Call} {h : Handler} (starts : Starts call h) :
      Shifts s (.received call) (s.handlers.insert s.nextHandler h)
  | moved {id : Nat} {h h' : Handler} (old : s.handlers.get? id = some h) (moves : s.Moves h h') :
      Shifts s (.handled id) (s.handlers.insert id h')
  | ended (id : Nat) : Shifts s (.handled id) (s.handlers.erase id)
  | answered {id : Nat} {expired : Bool} {after : Table Nat Handler}
      (answers : Answers s.handlers after) : Shifts s (.resumed id expired) after

/-- There are no other cases. -/
theorem shifts_act (s : Server) (files : FileTree) (i : Impulse) :
    s.Shifts i (s.act files i).server.handlers := by
  cases i with
  | received call =>
      cases call with
      | opened u language text version => exact .started (.opening u language text version)
      | changed u changes version =>
          simp only [act, receive, handlers_changeDocument]
          exact .same _
      | closed u =>
          simp only [act, receive, handlers_closeDocument]
          exact .same _
      | configured payload => exact .started (.configuring payload)
      | lenses u => exact .started (.lensAsked u)
  | handled id =>
      cases hh : s.handlers.get? id with
      | none =>
          simp only [act, stepHandler, hh]
          exact .same _
      | some handler =>
          cases handler with
          | opening u language text version =>
              simp only [act, stepHandler, hh]
              split
              · exact .moved hh (.announcing u language text version)
              · simp only [drop, handlers_openDocument]
                exact .ended id
          | announcing u language text version =>
              simp only [act, stepHandler, hh, drop, handlers_openDocument]
              exact .ended id
          | configuring payload =>
              simp only [act, stepHandler, hh]
              split
              · exact .ended id
              · rename_i hnew
                exact .moved hh (.begun hnew)
          | changing new phase =>
              simp only [act, stepHandler, hh]
              cases phase with
              | begun | scanner | options | extractor => exact .moved hh (.changing new _ _)
              | keeping =>
                  simp only [stepSettings]
                  split <;> exact .ended id
          | lensAsked u =>
              obtain ⟨handlers, hcases, heq⟩ := askLenses_cases s files id u
              have hhandlers : (s.askLenses files id u).server.handlers = handlers := by
                rcases heq with heq | heq <;> rw [heq]
              simp only [act, stepHandler, hh, hhandlers]
              rcases hcases with rfl | ⟨settings, call, rfl⟩
              · exact .ended id
              · exact .moved hh (.lensResolving u settings call)
          | lensResolving u settings call =>
              simp only [act, stepHandler, hh]
              exact .same _
  | resumed id expired =>
      obtain ⟨handlers, hanswers, heq⟩ := stepAgent_server s files id expired
      simp only [act, heq]
      exact .answered hanswers

variable {i : Impulse} {id : Nat} {h : Handler} {after : Table Nat Handler}

/-- A handler was there before, is started by a call, or is one that went on. -/
theorem Shifts.cases (hs : s.Shifts i after) (hh : after.get? id = some h) :
    s.handlers.get? id = some h ∨
      (∃ call, i = .received call ∧ Starts call h ∧ id = s.nextHandler) ∨
      ∃ h₀, i = .handled id ∧ s.handlers.get? id = some h₀ ∧ s.Moves h₀ h := by
  cases hs with
  | same => exact .inl hh
  | started starts =>
      rw [Table.get?_insert] at hh
      split at hh
      · rename_i hid
        rw [Option.some.injEq] at hh
        exact .inr (.inl ⟨_, rfl, hh ▸ starts, hid.symm⟩)
      · exact .inl hh
  | moved old moves =>
      rw [Table.get?_insert] at hh
      split at hh
      · rename_i hid
        subst hid
        rw [Option.some.injEq] at hh
        exact .inr (.inr ⟨_, rfl, old, hh ▸ moves⟩)
      · exact .inl hh
  | ended =>
      rw [Table.get?_erase] at hh
      split at hh
      · cases hh
      · exact .inl hh
  | answered answers => exact .inl (answers.old id h hh)

/-- The handlers have numbers that are not used again. -/
def Numbered (s : Server) : Prop := ∀ id h, s.handlers.get? id = some h → id < s.nextHandler

/-- A handler that waits for no run stays until it goes on. -/
theorem Shifts.stays (hs : s.Shifts i after) (hn : s.Numbered) (hh : s.handlers.get? id = some h)
    (hno : ¬ h.Waits) (hi : i ≠ .handled id) : after.get? id = some h := by
  have hne : ∀ k, i = .handled k → ¬ k = id := by
    rintro k rfl rfl
    exact hi rfl
  cases hs with
  | same => exact hh
  | started starts => rw [Table.get?_insert, if_neg (Nat.ne_of_gt (hn id h hh)), hh]
  | moved old moves => rw [Table.get?_insert, if_neg (hne _ rfl), hh]
  | ended k => rw [Table.get?_erase, if_neg (hne k rfl), hh]
  | answered answers => exact answers.stays id h hh hno

end Server

end ClassLens
