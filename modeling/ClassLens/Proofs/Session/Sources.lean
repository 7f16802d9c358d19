import ClassLens.Proofs.Session.Agents

/-! # Where usages come from

The usages that a session works with were found by a scan, in the text of a document under its version
of that time.

* `Session.Finds s id q u`: the run that goes on as the agent with number `id` scans the text of the
  request and finds the usage.
* `Session.Sourced held found s`: all that is under way or kept goes back to texts that documents had,
  and to usages that scans of them found.
* `Session.Follows s s'`: agents keep their numbers and what they were asked for.

**Main statements.** `Session.sourced_turn`: every moment keeps `Sourced`, if `held` and `found` say
what they should by then.  `Session.Sourced.of_answered`: the annotations that an asker gets are of
usages found in the text that was asked for. -/

namespace ClassLens

open Usage

/-- The request and the usages that a resolution goes back to. -/
def Resolution.GoesBackTo (res : Resolution) (found : Request → Site → Prop) (q : Request) : Prop :=
  ∀ a ∈ res.annotations, found q a.usage

namespace Session

variable {s s' s'' : Session} {m : Moment} {events : List Event} {held : Request → Prop}
  {found : Request → Site → Prop}

/-- The run that goes on scans the text of the request and finds the usage. -/
def Finds (s : Session) (id : Nat) (q : Request) (u : Site) : Prop :=
  ∃ run options, s.Runs id run ∧ run.request = q ∧ run.phase = .scanning options ∧
    u ∈ run.usages s.resolver

/-- All that is under way goes back to a text that its document had, and to usages that a scan of it
found; and so does all that is kept. -/
structure Sourced (held : Request → Prop) (found : Request → Site → Prop) (s : Session) : Prop where
  runs : ∀ id run, s.Runs id run → held run.request
  jobs : ∀ id run, s.Runs id run → ∀ job, run.job? = some job → ∀ u ∈ job.usages, found run.request u
  kept : ∀ uri res, s.resolver.resolution? uri = some res →
    ∃ text, held ⟨uri, text, res.version⟩ ∧ res.GoesBackTo found ⟨uri, text, res.version⟩

theorem Sourced.mono {held' : Request → Prop} {found' : Request → Site → Prop}
    (h : Sourced held found s) (hheld : ∀ q, held q → held' q)
    (hfound : ∀ q u, found q u → found' q u) : Sourced held' found' s where
  runs := fun id run hrun => hheld _ (h.runs id run hrun)
  jobs := fun id run hrun job hjob u hu => hfound _ u (h.jobs id run hrun job hjob u hu)
  kept := fun uri res hres => by
    obtain ⟨text, hq, hback⟩ := h.kept uri res hres
    exact ⟨text, hheld _ hq, fun a ha => hfound _ _ (hback a ha)⟩

theorem sourced_ofResolver (x : Extractor) (o : Options) (debounce : Nat) :
    Sourced held found { ofResolver (.ofOptions x o) with debounce } where
  runs := fun id run hrun => by
    rcases hrun with hcall | ⟨t, htask, -⟩
    · cases hcall
    · cases htask
  jobs := fun id run hrun => by
    rcases hrun with hcall | ⟨t, htask, -⟩
    · cases hcall
    · cases htask
  kept := fun uri res hres => by cases hres

/-- Only the agents and the resolutions count. -/
theorem Sourced.of_tables (h : Sourced held found s) (hagents : s'.agents = s.agents)
    (hkept : s'.resolver.resolutions = s.resolver.resolutions) : Sourced held found s' where
  runs := by
    unfold Runs
    rw [hagents]
    exact h.runs
  jobs := by
    unfold Runs
    rw [hagents]
    exact h.jobs
  kept := by
    unfold Resolver.resolution?
    rw [hkept]
    exact h.kept

theorem Sourced.forget (h : Sourced held found s) (uri : Uri) : Sourced held found (s.forget uri) where
  runs := h.runs
  jobs := h.jobs
  kept := fun u res hres => by
    have herase : (s.resolver.resolutions.erase uri).get? u = some res := hres
    rw [Table.get?_erase] at herase
    split at herase
    · cases herase
    · exact h.kept u res herase

/-- What a run has found when it goes on, or finds right then. -/
theorem Sourced.usages (h : Sourced held found s) {id : Nat} {run : Run} (hrun : s.Runs id run)
    (hfinds : ∀ q u, s.Finds id q u → found q u) :
    ∀ u ∈ run.usages s.resolver, found run.request u := by
  intro u hu
  cases hphase : run.phase with
  | begun =>
      rw [Run.usages, hphase] at hu
      cases hu
  | scanning options => exact hfinds run.request u ⟨run, options, hrun, rfl, hphase, hu⟩
  | locating job =>
      rw [Run.usages, hphase] at hu
      exact h.jobs id run hrun job (by rw [Run.job?, hphase]) u hu
  | extracting job extraction =>
      rw [Run.usages, hphase] at hu
      exact h.jobs id run hrun job (by rw [Run.job?, hphase]) u hu

/-- A run that ends annotates usages that a scan of its text found. -/
theorem Sourced.of_ready (h : Sourced held found s) {id : Nat} {run : Run} (hrun : s.Runs id run)
    (hfinds : ∀ q u, s.Finds id q u → found q u) {editor : Editor} {expired : Bool}
    {res : Resolution} (hmove : (s.resolver.step editor run expired).move = .done (.ready res)) :
    res.GoesBackTo found run.request := by
  intro a ha
  cases hfailure : res.failure with
  | none =>
      have husage := List.mem_map_of_mem (f := Annotation.usage) ha
      rw [Resolver.usages_of_ready hmove hfailure] at husage
      exact h.usages hrun hfinds _ husage
  | some e =>
      rw [Resolver.annotations_of_failure hmove (by rw [hfailure]; simp)] at ha
      cases ha

/-- Every moment at which the resolver is not changed from outside keeps `Sourced`. -/
theorem sourced_turn (h : Sourced held found s) (hturn : s.Turn m s' events)
    (hcalls : ∀ q, m.Calls q → held q)
    (hsnapshot : ∀ uri text version, m.editor.snapshot? uri = some (text, version) →
      held ⟨uri, text, version⟩)
    (hfinds : ∀ id expired, m.occasion = .resumed id expired → ∀ q u, s.Finds id q u → found q u)
    (hkeep : ∀ uri, ¬ m.Forgets uri) : Sourced held found s' where
  runs := fun id run hrun => by
    cases stems_of_turn hturn hrun with
    | stayed old => exact h.runs id run old
    | @begun q progress idle asked =>
        rcases asked with hcalled | hread
        · exact hcalls q hcalled
        · exact hsnapshot q.uri q.text q.version hread
    | @went run₀ run' expired old move =>
        rw [(Resolver.comes_step s.resolver m.editor run₀ expired).request_of_next move]
        exact h.runs id run₀ old
  jobs := fun id run hrun job hjob u hu => by
    cases stems_of_turn hturn hrun with
    | stayed old => exact h.jobs id run old job hjob u hu
    | begun => cases hjob
    | @went run₀ run' expired old move occasion =>
        have hcomes := Resolver.comes_step s.resolver m.editor run₀ expired
        rw [hcomes.request_of_next move]
        rcases Resolver.usages_of_next move s.resolver with ⟨-, hphase⟩ | ⟨-, -, husages⟩
        · rw [Run.job?, hphase] at hjob
          cases hjob
        · -- the run carries on what it had found, or has just found it
          have hmem : u ∈ run.usages s.resolver := by
            unfold Run.job? at hjob
            unfold Run.usages
            split at hjob <;> simp_all
          rw [husages] at hmem
          exact h.usages old (hfinds id expired occasion) u hmem
  kept := fun uri res hres => by
    rcases hturn.resolution? (hkeep uri) with heq | ⟨id, run, expired, res', hrun, ho, hmove, hu, hv, -,
      heq, -⟩
    · exact h.kept uri res (heq.symm.trans hres)
    · rw [heq, Option.some.injEq] at hres
      subst hres hu
      refine ⟨run.request.text, ?_, ?_⟩ <;> rw [hv]
      · exact h.runs id run hrun
      · exact h.of_ready hrun (hfinds id expired ho) hmove

/-! ### What a lens request gets -/

/-- A lens request gets the annotations of what is kept of the document's version. -/
theorem kept_of_annotations {editor : Editor} {uri : Uri} {annotations : List Annotation}
    (h : s.annotations editor uri = .inl annotations) {text : String} {version : Int}
    (hsnapshot : editor.snapshot? uri = some (text, version)) :
    ∃ kept, s.resolver.resolution? uri = some kept ∧ kept.version = version ∧
      kept.annotations = annotations := by
  unfold Session.annotations at h
  simp only [hsnapshot] at h
  split at h
  · rename_i kept hkept
    split at h
    · rename_i hv
      rw [Sum.inl.injEq] at h
      exact ⟨kept, hkept, hv, h⟩
    · cases h
  · cases h

theorem uri_of_annotations {editor : Editor} {uri : Uri} {q : Request}
    (h : s.annotations editor uri = .inr q) : q.uri = uri := by
  unfold Session.annotations at h
  split at h
  · cases h
  · split at h
    · split at h
      · cases h
      · cases h
        rfl
    · cases h
      rfl

theorem annotationsOf_refused {q : Request} {answer : Answer} (h : s.call q = (s', .error answer)) :
    annotationsOf answer = [] := by
  unfold call Resolver.start at h
  cases href : s.resolver.refusedBy? q.uri q.version with
  | none => simp [href, spawn] at h
  | some latest =>
      simp only [href, Prod.mk.injEq, Except.error.injEq] at h
      rw [← h.2]
      rfl

/-! ### Who is answered -/

theorem not_answered_eventsOf (uri : Uri) (step : RunStep) (call : Nat) (answer : Answer) :
    .answered call answer ∉ eventsOf uri step := by
  unfold eventsOf
  cases step.report <;> cases step.extracts <;> simp

/-- An asker is answered when the run that was made for it ends. -/
theorem Turn.answered (h : s.Turn m s' events) {call : Nat} {answer : Answer}
    (hmem : .answered call answer ∈ events) :
    ∃ run expired, m.occasion = .resumed call expired ∧ s.agents.get? call = some (.call run) ∧
      (s.resolver.step m.editor run expired).move = .done answer := by
  cases h with
  | callEnded agent move =>
      rcases List.mem_append.mp hmem with hearlier | hlast
      · exact absurd hearlier (not_answered_eventsOf _ _ _ _)
      · simp only [List.mem_singleton, Event.answered.injEq] at hlast
        obtain ⟨rfl, rfl⟩ := hlast
        exact ⟨_, _, rfl, agent, move⟩
  | went | resolved | callWent => exact absurd hmem (not_answered_eventsOf _ _ _ _)
  | overtaken =>
      rcases List.mem_append.mp hmem with hearlier | hlast
      · exact absurd hearlier (not_answered_eventsOf _ _ _ _)
      · simp at hlast
  | _ => simp at hmem

/-- The annotations that an asker gets are of usages found in the text that was asked for. -/
theorem Sourced.of_answered (h : Sourced held found s) (hturn : s.Turn m s' events)
    (hfinds : ∀ id expired, m.occasion = .resumed id expired → ∀ q u, s.Finds id q u → found q u)
    {call : Nat} {answer : Answer} (hmem : .answered call answer ∈ events) :
    ∃ run, s.agents.get? call = some (.call run) ∧ held run.request ∧
      ∀ a ∈ annotationsOf answer, found run.request a.usage := by
  obtain ⟨run, expired, hoccasion, hagent, hmove⟩ := hturn.answered hmem
  refine ⟨run, hagent, h.runs call run (.inl hagent), ?_⟩
  intro a ha
  cases answer with
  | ready res => exact h.of_ready (.inl hagent) (hfinds call expired hoccasion) hmove a ha
  | stale => cases ha

/-! ### Numbers of agents -/

/-- Agents keep their numbers and what they were asked for; new ones get new numbers. -/
structure Follows (s s' : Session) : Prop where
  next : s.nextAgent ≤ s'.nextAgent
  calls : ∀ id, id < s.nextAgent → ∀ a', s'.agents.get? id = some a' →
    ∃ a, s.agents.get? id = some a ∧
      ∀ run, a = .call run → ∃ run', a' = .call run' ∧ run'.request = run.request

theorem Follows.refl (s : Session) : s.Follows s :=
  ⟨Nat.le_refl _, fun _ _ a' ha' => ⟨a', ha', fun run heq => ⟨run, heq, rfl⟩⟩⟩

theorem Follows.trans (h : s.Follows s') (h' : s'.Follows s'') : s.Follows s'' where
  next := Nat.le_trans h.next h'.next
  calls := fun id hid a'' ha'' => by
    obtain ⟨a', ha', hkeeps'⟩ := h'.calls id (Nat.lt_of_lt_of_le hid h.next) a'' ha''
    obtain ⟨a, ha, hkeeps⟩ := h.calls id hid a' ha'
    refine ⟨a, ha, ?_⟩
    intro run hrun
    obtain ⟨run', hrun', hsame⟩ := hkeeps run hrun
    obtain ⟨run'', hrun'', hsame'⟩ := hkeeps' run' hrun'
    exact ⟨run'', hrun'', hsame'.trans hsame⟩

theorem Follows.of_eq (hagents : s'.agents = s.agents) (hnext : s'.nextAgent = s.nextAgent) :
    s.Follows s' where
  next := Nat.le_of_eq hnext.symm
  calls := fun _ _ a' ha' => ⟨a', hagents ▸ ha', fun run heq => ⟨run, heq, rfl⟩⟩

/-- An agent goes on and keeps to what it was asked for. -/
theorem Follows.put {id : Nat} {a a' : Agent} (old : s.agents.get? id = some a)
    (hkeeps : ∀ run, a = .call run → ∃ run', a' = .call run' ∧ run'.request = run.request)
    (hagents : s'.agents = s.agents.insert id a') (hnext : s'.nextAgent = s.nextAgent) :
    s.Follows s' where
  next := Nat.le_of_eq hnext.symm
  calls := fun id' _ b hb => by
    rw [hagents, Table.get?_insert] at hb
    split at hb
    · rename_i heq
      subst heq
      rw [Option.some.injEq] at hb
      subst hb
      exact ⟨a, old, hkeeps⟩
    · exact ⟨b, hb, fun run heq => ⟨run, heq, rfl⟩⟩

theorem Follows.erase {id : Nat} (hagents : s'.agents = s.agents.erase id)
    (hnext : s'.nextAgent = s.nextAgent) : s.Follows s' where
  next := Nat.le_of_eq hnext.symm
  calls := fun id' _ b hb => by
    rw [hagents, Table.get?_erase] at hb
    split at hb
    · cases hb
    · exact ⟨b, hb, fun run heq => ⟨run, heq, rfl⟩⟩

theorem Follows.spawn {a : Agent} (hagents : s'.agents = s.agents.insert s.nextAgent a)
    (hnext : s'.nextAgent = s.nextAgent + 1) : s.Follows s' where
  next := by
    rw [hnext]
    exact Nat.le_succ _
  calls := fun id' hid b hb => by
    rw [hagents, Table.get?_insert, if_neg (Nat.ne_of_gt hid)] at hb
    exact ⟨b, hb, fun run heq => ⟨run, heq, rfl⟩⟩

/-- Whatever happens in a session, agents keep their numbers and what they were asked for. -/
theorem follows_turn (h : s.Turn m s' events) : s.Follows s' := by
  -- a task is no run that was asked for
  have htask : ∀ {t : LensTask} {a' : Agent} (run : Run), Agent.task t = .call run →
      ∃ run', a' = .call run' ∧ run'.request = run.request := by
    intro t a' run heq
    cases heq
  cases h with
  | still => exact .refl s
  | debounceSet => exact .of_eq rfl rfl
  | changed => exact .of_eq rfl rfl
  | forgotten => exact .of_eq rfl rfl
  | scheduled => exact .spawn rfl rfl
  | called => exact .spawn rfl rfl
  | dropped => exact .erase rfl rfl
  | launched task => exact .put task htask rfl rfl
  | went task => exact .put task htask rfl rfl
  | overtaken => exact .erase rfl rfl
  | @resolved editor id expired t run res s₁ slot task phase move place =>
      obtain ⟨hagents, hnext⟩ := agents_slotFor place
      have hput : ((s₁.enqueue slot id).putTask id t (.waiting slot res)).agents =
          s.agents.insert id (.task { t with phase := .waiting slot res }) := by
        simp only [putTask, Session.put, enqueue, hagents]
      exact .put task htask hput hnext
  | @callWent editor id expired run run' call move =>
      refine .put call ?_ rfl rfl
      intro run₀ heq
      cases heq
      exact ⟨run', rfl, (Resolver.comes_step s.resolver editor run expired).request_of_next move⟩
  | callEnded => exact .erase rfl rfl
  | applying task => exact .put task htask rfl rfl
  | passedOver => exact .erase rfl rfl
  | applied => exact .erase rfl rfl

end Session

end ClassLens
