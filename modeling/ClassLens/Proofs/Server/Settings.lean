import ClassLens.Proofs.Server.Freshness

/-! # Changes of settings

A change of settings goes on in parts, and other steps may come between.  Each part leaves what is
known of the documents; what is kept of them may be of the old settings, but nothing is ahead of its
document, and the cache is of the extractor in force.

* `Server.Orderly s i`: settings change one after the other, and the extractor changes only while no
  extraction is under way.  `Server.Lone s i`: a test for it, where a handler goes on alone.

**Main statements.** `Server.current_always`: careful and orderly impulses keep what does not depend on
the settings.  `Server.current_begin`: at the beginning everything is up to date. -/

namespace ClassLens

variable {files : FileTree} {sheets : String → Prop} {uri : Uri} {due : Prop}

/-- A run that waits for no extraction is true to whatever extractor comes. -/
theorem Run.Faithful.of_idle {run : Run} {x : Extractor} (h : run.Faithful x sheets)
    (hidle : ∀ job extraction, run.phase ≠ .extracting job extraction) (x' : Extractor) :
    run.Faithful x' sheets := by
  unfold Run.Faithful at h ⊢
  split at h
  · trivial
  · trivial
  · exact h
  · rename_i hphase
    exact absurd hphase (hidle _ _)

namespace Session

variable {s s' : Session}

/-- No run waits for what an extractor gives. -/
def ExtractsNothing (s : Session) : Prop :=
  ∀ id run, s.Runs id run → ∀ job extraction, run.phase ≠ .extracting job extraction

theorem Runs.of_agents {id : Nat} {run : Run} (h : s'.Runs id run) (hagents : s'.agents = s.agents) :
    s.Runs id run := by
  rwa [Runs, hagents] at h

/-- Something is set anew in the resolver; the cache is genuine still, and if the extractor changes no
extraction is under way. -/
theorem Faithful.reset (h : s.Faithful sheets) (hagents : s'.agents = s.agents)
    (hnext : s'.nextAgent = s.nextAgent)
    (hcache : s'.resolver.cache.Holds (Genuine s'.resolver.extractor sheets))
    (hx : s'.resolver.extractor = s.resolver.extractor ∨ s.ExtractsNothing) :
    s'.Faithful sheets := by
  refine ⟨?_, hcache, fun id run hrun => ?_, fun id t run htask => ?_⟩
  · intro id a ha
    rw [hagents] at ha
    rw [hnext]
    exact h.numbered id a ha
  · have hold := hrun.of_agents hagents
    obtain ⟨hfaithful, hstaged⟩ := h.runs id run hold
    rcases hx with hx | hidle
    · exact ⟨hx ▸ hfaithful, hstaged⟩
    · exact ⟨hfaithful.of_idle (hidle id run hold) _, hstaged⟩
  · rw [hagents] at htask
    exact h.tasks id t run htask

end Session

namespace Server

variable {s s' : Server} {i : Impulse}

/-! ### Parts of a change -/

/-- Something is set anew in the resolver; what it knows of the documents stays, and if the extractor
changes no extraction is under way. -/
theorem Current.reset (h : s.Current due files sheets uri) (hdocuments : s'.documents = s.documents)
    (hagents : s'.session.agents = s.session.agents)
    (hnext : s'.session.nextAgent = s.session.nextAgent)
    (hlatest : s'.session.resolver.latest = s.session.resolver.latest)
    (hresolutions : s'.session.resolver.resolutions = s.session.resolver.resolutions)
    (hcache : s'.session.resolver.cache.Holds (Genuine s'.session.resolver.extractor sheets))
    (hx : s'.session.resolver.extractor = s.session.resolver.extractor ∨ s.session.ExtractsNothing) :
    s'.Current False files sheets uri := by
  have hsnapshot : (s'.editor files).snapshot? uri = (s.editor files).snapshot? uri := by
    simp only [editor, hdocuments]
  refine ⟨h.faithful.reset hagents hnext hcache hx, ⟨?_, ?_, ?_⟩, False.elim⟩
  · rw [hsnapshot, Resolver.latest?, hlatest]
    exact h.within.latest
  · rw [Resolver.resolution?, hresolutions, Resolver.latest?, hlatest]
    exact h.within.kept
  · rw [hsnapshot]
    exact fun id run hrun => h.within.requests id run (hrun.of_agents hagents)

theorem current_resizeCache (h : s.Current due files sheets uri) (new : Settings) :
    (s.resizeCache new).Current False files sheets uri :=
  h.reset rfl rfl rfl rfl rfl (Cache.holds_resize h.faithful.cache _) (.inl rfl)

theorem current_followBindings (h : s.Current due files sheets uri) (new : Settings) :
    (s.followBindings new).Current False files sheets uri := by
  unfold followBindings Resolver.followBindings
  split <;> exact h.reset rfl rfl rfl rfl rfl h.faithful.cache (.inl rfl)

theorem current_followOptions (h : s.Current due files sheets uri) (new : Settings) :
    (s.followOptions new).Current False files sheets uri :=
  h.reset rfl rfl rfl rfl rfl h.faithful.cache (.inl rfl)

theorem current_followExtractor (h : s.Current due files sheets uri)
    (hidle : s.session.ExtractsNothing) (new : Settings) :
    (s.followExtractor files new).Current False files sheets uri :=
  h.reset rfl rfl rfl rfl rfl (fun key e he => by
    simp [followExtractor, withResolver, Resolver.setExtractor, Cache.clear] at he) (.inr hidle)

/-- The settings change one after the other, and the extractor only while no extraction is under
way. -/
structure Orderly (s : Server) (i : Impulse) : Prop where
  apart : ∀ id payload id' new phase, i = .handled id →
    s.handlers.get? id = some (.configuring payload) →
    s.handlers.get? id' ≠ some (.changing new phase)
  swapped : ∀ id new, i = .handled id → s.handlers.get? id = some (.changing new .extractor) →
    ∀ id' run, s.session.Runs id' run → ∀ job extraction, run.phase ≠ .extracting job extraction

/-- A handler goes on that is the only one, while no agent is there. -/
def Lone (s : Server) : Impulse → Prop
  | .handled _ => s.handlers.entries.length ≤ 1 ∧ s.session.agents.entries.length = 0
  | _ => True

instance (s : Server) : (i : Impulse) → Decidable (s.Lone i)
  | .handled _ => inferInstanceAs (Decidable (_ ∧ _))
  | .received _ | .resumed _ _ => isTrue trivial

theorem not_runs_of_idle {session : Session} (h : ∀ id, session.agents.get? id = none) (id : Nat)
    (run : Run) : ¬ session.Runs id run := by
  rintro (hcall | ⟨t, htask, -⟩)
  · rw [h id] at hcall
    cases hcall
  · rw [h id] at htask
    cases htask

theorem orderly_of_lone (h : s.Lone i) : s.Orderly i := by
  refine ⟨?_, ?_⟩
  · rintro id payload id' new phase rfl hconfiguring hchanging
    have hmem := Table.mem_of_lookup hconfiguring
    have hmem' := Table.mem_of_lookup hchanging
    have hle := h.1
    cases hentries : s.handlers.entries with
    | nil =>
        rw [hentries] at hmem
        cases hmem
    | cons e rest =>
        obtain rfl : rest = [] := List.eq_nil_of_length_eq_zero (by simpa [hentries] using hle)
        rw [hentries, List.mem_singleton] at hmem hmem'
        rw [← hmem, Prod.mk.injEq] at hmem'
        cases hmem'.2
  · rintro id new rfl - id' run hrun
    exact absurd hrun (not_runs_of_idle (Table.get?_of_size_zero h.2) id' run)

/-- What does not depend on the settings stays while they change. -/
theorem current_stepSettings (hinj : ∀ a b, sheets a → sheets b → digest a = digest b → a = b)
    (h : s.Current False files sheets uri) (id : Nat) (new : Settings) (phase : SettingsPhase)
    (hidle : phase = .extractor → s.session.ExtractsNothing) :
    (s.stepSettings files id new phase).Current False files sheets uri := by
  cases phase with
  | begun => exact (current_resizeCache h new).of_eq rfl rfl rfl
  | scanner previous =>
      exact (current_followBindings h new).of_eq rfl rfl rfl
  | options previous => exact (current_followOptions h new).of_eq rfl rfl rfl
  | extractor => exact (current_followExtractor h (hidle rfl) new).of_eq rfl rfl rfl
  | keeping =>
      have hkept : ((s.keepSettings new).drop id).Current False files sheets uri :=
        h.of_eq rfl rfl rfl
      simp only [stepSettings]
      split
      · rename_i u _
        exact current_turn hinj hkept (Session.turn_act _ ⟨_, .refreshed u⟩)
          (Session.suits_refreshed sheets _ uri u)
      · exact hkept

/-- Careful and orderly impulses keep what does not depend on the settings. -/
theorem current_always (hinj : ∀ a b, sheets a → sheets b → digest a = digest b → a = b)
    (h : s.Current False files sheets uri) (hi : s.Careful files sheets uri i) (ho : s.Orderly i) :
    (s.act files i).server.Current False files sheets uri := by
  by_cases hsteady : s.Steady i
  · exact current_act hinj h hi hsteady
  · simp only [Steady, not_forall, not_not] at hsteady
    obtain ⟨id, new, phase, rfl, hh⟩ := hsteady
    simp only [act, stepHandler, hh]
    refine current_stepSettings hinj h id new phase ?_
    rintro rfl
    exact ho.swapped id new rfl hh

/-! ### The beginning -/

/-- A document that is not open is up to date. -/
theorem Current.of_closed (h : s.Current False files sheets uri)
    (hclosed : s.documents.get? uri = none) : s.Current due files sheets uri where
  faithful := h.faithful
  within := h.within
  upToDate := fun _ d hd => by
    rw [hclosed] at hd
    cases hd

/-- No agent is there before the first call. -/
theorem agents_ofExtractor (x : Extractor) (pinned : Bool) (id : Nat) :
    (ofExtractor x pinned).session.agents.get? id = none := rfl

theorem faithful_ofExtractor (x : Extractor) (pinned : Bool) :
    (ofExtractor x pinned).session.Faithful sheets := by
  have hidle := agents_ofExtractor x pinned
  refine ⟨fun id a ha => ?_, Cache.holds_ofCapacity _,
    fun id run hrun => absurd hrun (not_runs_of_idle hidle id run), fun id t run ht => ?_⟩
  · rw [hidle id] at ha
    cases ha
  · rw [hidle id] at ht
    cases ht

theorem current_ofExtractor (x : Extractor) (pinned : Bool) :
    (ofExtractor x pinned).Current False files sheets uri := by
  have hruns := not_runs_of_idle (agents_ofExtractor x pinned)
  refine ⟨faithful_ofExtractor x pinned, ⟨fun latest hl => ?_, fun res hres => ?_,
      fun id run hrun => absurd hrun (hruns id run)⟩, False.elim⟩
  · cases hl
  · cases hres

/-- Settings are applied all at once while nothing is under way. -/
theorem current_applySettings (h : s.Current due files sheets uri)
    (hidle : ∀ id, s.session.agents.get? id = none) (new : Settings) :
    (s.applySettings files new).Current False files sheets uri := by
  have h₃ := current_followOptions (current_followBindings (current_resizeCache h new) new) new
  have hidle₃ : ∀ id, (((s.resizeCache new).followBindings new).followOptions new).session.agents.get?
      id = none := by
    simpa only [followOptions, followBindings, resizeCache, withResolver] using hidle
  unfold applySettings
  simp only
  split
  · exact (current_followExtractor h₃
      (fun id run hrun => absurd hrun (not_runs_of_idle hidle₃ id run)) new).of_eq rfl rfl rfl
  · exact h₃.of_eq rfl rfl rfl

/-- At the beginning everything is up to date. -/
theorem current_begin (x : Extractor) (pinned : Bool) (client : Client) :
    ((ofExtractor x pinned).begin files client).Current due files sheets uri := by
  have h : ((ofExtractor x pinned).applySettings files (startSettings files client)).Current False
      files sheets uri :=
    current_applySettings (current_ofExtractor x pinned) (agents_ofExtractor x pinned) _
  have hbegun : ((ofExtractor x pinned).begin files client).Current False files sheets uri :=
    h.reset rfl rfl rfl rfl rfl h.faithful.cache (.inl rfl)
  refine hbegun.of_closed ?_
  simp only [begin, applySettings]
  split <;> rfl

end Server

end ClassLens
