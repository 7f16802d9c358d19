import ClassLens.Proofs.Session.Agents

/-! # What a session knows, and of which documents

All that a session knows of a document came in while the document was open, and closing it drops all of
that.  Agents that are still under way for a closed document change nothing of it: each looks at the
latest version, or at the editor, right before it would.

* `Session.Confined opened s`: what the session knows is about open documents only.

**Main statements.** `Session.confined_turn`: a moment that asks for open documents only keeps this, and
closing a document does (`Session.Confined.forget`). -/

namespace ClassLens

namespace Resolver

variable {r : Resolver} {uri : Uri}

/-- What is noted of a document after a failure or a success was. -/
theorem noted_of_noteFailure {u : Uri} {failure : Option Failure} {noted : List Failure}
    (h : (r.noteFailure u failure).1.ledger.get? uri = some noted) :
    u = uri ∨ r.ledger.get? uri = some noted := by
  by_cases hu : u = uri
  · exact .inl hu
  right
  cases failure with
  | none =>
      have herase : (r.ledger.erase u).get? uri = some noted := h
      rw [Table.get?_erase, if_neg hu] at herase
      exact herase
  | some e =>
      unfold noteFailure Ledger.note at h
      simp only at h
      split at h
      · exact h
      · rw [Table.get?_insert, if_neg hu] at h
        exact h

/-- A run notes something of its own document only, and only if its version is the latest. -/
theorem noted_of_step {editor : Editor} {run : Run} {expired : Bool} {noted : List Failure}
    (h : (r.step editor run expired).resolver.ledger.get? uri = some noted) :
    r.ledger.get? uri = some noted ∨
      run.request.uri = uri ∧ r.latest? uri = some run.request.version := by
  have hcomes := comes_step r editor run expired
  generalize r.step editor run expired = step at h hcomes
  cases hcomes with
  | on => exact .inl h
  | overtaken => exact .inl h
  | ended cache res current =>
      obtain ⟨resolutions, hstore⟩ :=
        store_eq ({ r with cache }.noteFailure run.request.uri res.failure).1 res
      simp only [hstore] at h
      rcases noted_of_noteFailure h with hu | hold
      · refine .inr ⟨hu, ?_⟩
        rw [← hu]
        exact (supersededBy?_eq_none_iff _ _ _).mp current
      · exact .inl hold

/-- A change notes nothing. -/
theorem noted_of_changed {change : Change} {noted : List Failure}
    (h : (r.changed change).ledger.get? uri = some noted) : r.ledger.get? uri = some noted := by
  cases change with
  | record u version =>
      rw [changed, ledger_begin] at h
      exact h
  | forget u =>
      have herase : (r.ledger.erase u).get? uri = some noted := h
      rw [Table.get?_erase] at herase
      split at herase
      · cases herase
      · exact herase
  | setOptions o =>
      have hset : (r.setOptions o).ledger = r.ledger := by
        unfold setOptions followBindings
        split <;> rfl
      rw [changed, hset] at h
      exact h
  | setExtractor x => exact h
  | useCache use => exact h

end Resolver

namespace Session

variable {s s' : Session} {m : Moment} {events : List Event} {opened : Uri → Prop}

/-- What the session knows is about open documents only, and the run of a task is of its document. -/
structure Confined (opened : Uri → Prop) (s : Session) : Prop where
  latest : ∀ uri version, s.resolver.latest? uri = some version → opened uri
  kept : ∀ uri res, s.resolver.resolution? uri = some res → opened uri
  noted : ∀ uri noted, s.resolver.ledger.get? uri = some noted → opened uri
  slots : ∀ uri slot, s.slotOf.get? uri = some slot → opened uri
  tasks : ∀ id t run, s.agents.get? id = some (.task t) → t.phase = .resolving run →
    run.request.uri = t.uri

theorem confined_ofResolver (x : Extractor) (o : Options) (debounce : Nat) :
    Confined opened { ofResolver (.ofOptions x o) with debounce } where
  latest := fun uri version h => by cases h
  kept := fun uri res h => by cases h
  noted := fun uri noted h => by cases h
  slots := fun uri slot h => by cases h
  tasks := fun id t run h => by cases h

theorem Confined.mono {opened' : Uri → Prop} (h : Confined opened s)
    (hmono : ∀ uri, opened uri → opened' uri) : Confined opened' s where
  latest := fun uri version hl => hmono uri (h.latest uri version hl)
  kept := fun uri res hres => hmono uri (h.kept uri res hres)
  noted := fun uri noted hn => hmono uri (h.noted uri noted hn)
  slots := fun uri slot hk => hmono uri (h.slots uri slot hk)
  tasks := h.tasks

/-- Closing a document drops all that is known of it. -/
theorem Confined.forget (h : Confined opened s) (uri : Uri) :
    Confined (fun u => opened u ∧ u ≠ uri) (s.forget uri) where
  latest := fun u version hl => by
    have herase : (s.resolver.latest.erase uri).get? u = some version := hl
    rw [Table.get?_erase] at herase
    split at herase
    · cases herase
    · rename_i hne
      exact ⟨h.latest u version herase, Ne.symm hne⟩
  kept := fun u res hres => by
    have herase : (s.resolver.resolutions.erase uri).get? u = some res := hres
    rw [Table.get?_erase] at herase
    split at herase
    · cases herase
    · rename_i hne
      exact ⟨h.kept u res herase, Ne.symm hne⟩
  noted := fun u noted hn => by
    have herase : (s.resolver.ledger.erase uri).get? u = some noted := hn
    rw [Table.get?_erase] at herase
    split at herase
    · cases herase
    · rename_i hne
      exact ⟨h.noted u noted herase, Ne.symm hne⟩
  slots := fun u slot hk => by
    have herase : (s.slotOf.erase uri).get? u = some slot := hk
    rw [Table.get?_erase] at herase
    split at herase
    · cases herase
    · rename_i hne
      exact ⟨h.slots u slot herase, Ne.symm hne⟩
  tasks := h.tasks

/-- What is set of the resolver does not matter. -/
theorem Confined.of_tables (h : Confined opened s) (hlatest : s'.resolver.latest = s.resolver.latest)
    (hkept : s'.resolver.resolutions = s.resolver.resolutions)
    (hledger : s'.resolver.ledger = s.resolver.ledger) (hslots : s'.slotOf = s.slotOf)
    (hagents : s'.agents = s.agents) : Confined opened s' where
  latest := by
    unfold Resolver.latest?
    rw [hlatest]
    exact h.latest
  kept := by
    unfold Resolver.resolution?
    rw [hkept]
    exact h.kept
  noted := hledger ▸ h.noted
  slots := hslots ▸ h.slots
  tasks := hagents ▸ h.tasks

/-- The run of a task stays a run of its document. -/
theorem uri_of_turn (h : ∀ id t run, s.agents.get? id = some (.task t) → t.phase = .resolving run →
      run.request.uri = t.uri) (hturn : s.Turn m s' events) {id : Nat} {t : LensTask} {run : Run}
    (htask : s'.agents.get? id = some (.task t)) (hphase : t.phase = .resolving run) :
    run.request.uri = t.uri := by
  cases became_of_turn hturn htask with
  | stayed old => exact h id t run old hphase
  | scheduled asked unstarted =>
      rcases unstarted with hp | ⟨delay, hp⟩ <;> rw [hp] at hphase <;> cases hphase
  | launched task snapshot idle =>
      cases hphase
      rfl
  | @went t run₀ run' expired task phase move occasion =>
      cases hphase
      have hsame := (Resolver.comes_step s.resolver m.editor run₀ expired).request_of_next move
      rw [hsame]
      exact h id t run₀ task phase
  | resolved => cases hphase
  | applying => cases hphase

/-- A document gets a slot only from a task whose version is the latest. -/
theorem Turn.slotOf (h : s.Turn m s' events) {uri : Uri} {slot : Nat}
    (hslot : s'.slotOf.get? uri = some slot) :
    s.slotOf.get? uri = some slot ∨
      ∃ id t run, s.agents.get? id = some (.task t) ∧ t.phase = .resolving run ∧ t.uri = uri ∧
        s.resolver.latest? run.request.uri = some run.request.version := by
  cases h with
  | forgotten editor u =>
      left
      have herase : (s.slotOf.erase u).get? uri = some slot := hslot
      rw [Table.get?_erase] at herase
      split at herase
      · cases herase
      · exact herase
  | @resolved editor id expired t run res s₁ k task phase move place =>
      have hkept : s₁.slotOf.get? uri = some slot := hslot
      rcases slotFor_cases { s with resolver := (s.resolver.step editor run expired).resolver } t.uri with
        ⟨k', -, heq⟩ | ⟨-, heq⟩
      · rw [heq, Prod.mk.injEq] at place
        rw [← place.1] at hkept
        exact .inl hkept
      · rw [heq, Prod.mk.injEq] at place
        rw [← place.1, Table.get?_insert] at hkept
        split at hkept
        · rename_i hu
          right
          rcases (Resolver.comes_step s.resolver editor run expired).answer_cases move with
            ⟨hlatest, -⟩ | ⟨-, latest, hstale⟩
          · exact ⟨id, t, run, task, phase, hu, hlatest⟩
          · cases hstale
        · exact .inl hkept
  | _ => exact .inl hslot

/-- A moment that asks for open documents only, and closes none, leaves nothing known of others. -/
theorem confined_turn (h : Confined opened s) (hturn : s.Turn m s' events)
    (hasks : ∀ uri version, m.Asks uri version → opened uri) (hkeep : ∀ uri, ¬ m.Forgets uri) :
    Confined opened s' where
  latest := fun uri version hl => by
    rcases hturn.latest? (hkeep uri) with heq | ⟨v, hasked, -, -⟩
    · exact h.latest uri version (heq.symm.trans hl)
    · exact hasks uri v hasked
  kept := fun uri res hres => by
    rcases hturn.resolution? (hkeep uri) with heq | ⟨-, -, -, res', -, -, -, -, -, hlatest, -, -⟩
    · exact h.kept uri res (heq.symm.trans hres)
    · exact h.latest uri res'.version hlatest
  noted := fun uri noted hn => by
    have hsteps := steps_of_turn hturn
    generalize s'.resolver = r at hsteps hn
    cases hsteps with
    | still => exact h.noted uri noted hn
    | begun u version =>
        rw [Resolver.ledger_begin] at hn
        exact h.noted uri noted hn
    | @forgot u occasion => exact absurd (.inl occasion) (hkeep u)
    | changed => exact h.noted uri noted (Resolver.noted_of_changed hn)
    | went =>
        rcases Resolver.noted_of_step hn with hold | ⟨-, hlatest⟩
        · exact h.noted uri noted hold
        · exact h.latest uri _ hlatest
  slots := fun uri slot hk => by
    rcases hturn.slotOf hk with hold | ⟨id, t, run, task, phase, hu, hlatest⟩
    · exact h.slots uri slot hold
    · rw [h.tasks id t run task phase, hu] at hlatest
      exact h.latest uri _ hlatest
  tasks := fun id t run htask hphase => uri_of_turn h.tasks hturn htask hphase

end Session

end ClassLens
