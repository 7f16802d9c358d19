import Mathlib
import ClassLens.Proofs.Session.Course

/-! # How results are handed to the editor

A finished task hands its result over while it holds the slot of its document.  As long as the document
is open it has one slot, and the task whose result the editor takes is the first in the line of it.

* `Session.Orderly uri`: the invariant of the slots and of the tasks that wait for them or hold them.
* `Session.handed uri events`: the versions of a document that are handed to the editor, in order.

**Main statements.** `Session.orderly_turn`: every moment keeps the invariant.
`Session.handed_in_order`: results for a document are handed over one at a time, each while its version
is the latest, and never an older one after a newer one. -/

namespace ClassLens

namespace LensTask

/-- The slot that a task waits for or holds. -/
def slot? (t : LensTask) : Option Nat :=
  match t.phase with
  | .waiting slot _ | .applying slot _ => some slot
  | _ => none

/-- The editor is taking the result of the task. -/
def Applies (t : LensTask) : Prop := ∃ slot res, t.phase = .applying slot res

end LensTask

namespace Session

variable {s s' : Session} {uri : Uri}

/-! ### Slots -/

theorem get?_modify {κ ν : Type} [DecidableEq κ] (t : Table κ ν) (k k' : κ) (f : ν → ν) :
    (t.modify k f).get? k' = if k = k' then (t.get? k').map f else t.get? k' := by
  unfold Table.modify
  cases h : t.get? k with
  | none =>
      by_cases hk : k = k'
      · subst hk
        simp [h]
      · simp [hk]
  | some v =>
      by_cases hk : k = k'
      · subst hk
        simp [h]
      · simp [hk]

theorem holder?_release_of_ne {k k' : Nat} (h : k ≠ k') : (s.release k).holder? k' = s.holder? k' := by
  rw [holder?, holder?, release, get?_modify, if_neg h]

/-- Who joins a line does not pass its head. -/
theorem holder?_enqueue {k k' id id' : Nat} (h : s.holder? k' = some id) :
    (s.enqueue k id').holder? k' = some id := by
  rw [holder?, enqueue, get?_modify]
  rw [holder?] at h
  split
  · rw [Option.bind_eq_some_iff] at h
    obtain ⟨slot, hslot, hhead⟩ := h
    rw [hslot, Option.map_some, Option.bind_some, List.head?_append, hhead, Option.some_or]
  · exact h

/-! ### The invariant -/

/-- The slots are in order: those of the document are its own, every task waits for or holds the slot of
its document, and who is applying its result holds the slot. -/
structure Orderly (uri : Uri) (s : Session) : Prop where
  slots : ∀ k slot, s.slots.get? k = some slot → k < s.nextSlot
  places : ∀ u k, s.slotOf.get? u = some k → k < s.nextSlot
  single : ∀ u k, s.slotOf.get? u = some k → s.slotOf.get? uri = some k → u = uri
  tasks : ∀ id t k, s.agents.get? id = some (.task t) → t.slot? = some k →
    k < s.nextSlot ∧ (t.uri = uri ↔ s.slotOf.get? uri = some k)
  holders : ∀ id t k res, s.agents.get? id = some (.task t) → t.phase = .applying k res →
    s.holder? k = some id

theorem orderly_ofResolver (r : Resolver) (uri : Uri) : Orderly uri (ofResolver r) where
  slots := fun k slot h => by simp [ofResolver] at h
  places := fun u k h => by simp [ofResolver] at h
  single := fun u k h => by simp [ofResolver] at h
  tasks := fun id t k h => by simp [ofResolver] at h
  holders := fun id t k res h => by simp [ofResolver] at h

/-- Agents that have no slot may come and go. -/
theorem Orderly.of_agents (h : Orderly uri s) (hslotOf : s'.slotOf = s.slotOf)
    (hslots : s'.slots = s.slots) (hnext : s'.nextSlot = s.nextSlot)
    (hagents : ∀ id t, s'.agents.get? id = some (.task t) →
      s.agents.get? id = some (.task t) ∨ t.slot? = none) : Orderly uri s' where
  slots := by rw [hslots, hnext]; exact h.slots
  places := by rw [hslotOf, hnext]; exact h.places
  single := by rw [hslotOf]; exact h.single
  tasks := by
    intro id t k ht hk
    rw [hnext, hslotOf]
    rcases hagents id t ht with ht | hnone
    · exact h.tasks id t k ht hk
    · rw [hnone] at hk
      cases hk
  holders := by
    intro id t k res ht hphase
    rw [holder?, hslots]
    rcases hagents id t ht with ht | hnone
    · exact h.holders id t k res ht hphase
    · simp [LensTask.slot?, hphase] at hnone

/-- An agent without a slot may take the place of any other. -/
theorem Orderly.put (h : Orderly uri s) (r : Resolver) (n : Nat) {id : Nat} {a : Agent}
    (ha : ∀ t, a = .task t → t.slot? = none) :
    Orderly uri { s with resolver := r, agents := s.agents.insert id a, nextAgent := n } := by
  refine h.of_agents rfl rfl rfl fun id' t ht => ?_
  simp only [Table.get?_insert] at ht
  split at ht
  · exact .inr (ha t (Option.some.inj ht))
  · exact .inl ht

theorem Orderly.erase (h : Orderly uri s) (r : Resolver) (id : Nat) :
    Orderly uri { s with resolver := r, agents := s.agents.erase id } := by
  refine h.of_agents rfl rfl rfl fun id' t ht => ?_
  simp only [Table.get?_erase] at ht
  split at ht
  · cases ht
  · exact .inl ht

theorem Orderly.forget (h : Orderly uri s) {u : Uri} (hu : u ≠ uri) : Orderly uri (s.forget u) where
  slots := h.slots
  places := by
    intro u' k hk
    simp only [Session.forget, Table.get?_erase] at hk
    split at hk
    · cases hk
    · exact h.places u' k hk
  single := by
    intro u' k hk hk'
    simp only [Session.forget, Table.get?_erase, hu, if_false] at hk hk'
    split at hk
    · cases hk
    · exact h.single u' k hk hk'
  tasks := by
    intro id t k ht hk
    simp only [Session.forget, Table.get?_erase, hu, if_false]
    exact h.tasks id t k ht hk
  holders := h.holders

/-- A slot that is made is a new one. -/
theorem Orderly.slotFor (h : Orderly uri s) {u : Uri} {k : Nat} (heq : s.slotFor u = (s', k)) :
    Orderly uri s' ∧ s'.agents = s.agents ∧ s'.slotOf.get? u = some k := by
  rcases slotFor_cases s u with ⟨k', hk', heq'⟩ | ⟨hnone, heq'⟩
  · rw [heq', Prod.mk.injEq] at heq
    obtain ⟨rfl, rfl⟩ := heq
    exact ⟨h, rfl, hk'⟩
  · rw [heq', Prod.mk.injEq] at heq
    obtain ⟨rfl, rfl⟩ := heq
    refine ⟨⟨?_, ?_, ?_, ?_, ?_⟩, rfl, by simp⟩
    · intro k slot hk
      simp only [Table.get?_insert] at hk
      split at hk
      · rename_i hk'
        exact hk' ▸ Nat.lt_succ_self _
      · exact Nat.lt_succ_of_lt (h.slots k slot hk)
    · intro u' k hk
      simp only [Table.get?_insert] at hk
      split at hk
      · exact Option.some.inj hk ▸ Nat.lt_succ_self _
      · exact Nat.lt_succ_of_lt (h.places u' k hk)
    · intro u' k hk hk'
      simp only [Table.get?_insert] at hk hk'
      split at hk <;> split at hk'
      · rename_i h₁ h₂
        exact h₁.symm.trans h₂
      · exact absurd (h.places uri k hk') (by have := Option.some.inj hk; omega)
      · exact absurd (h.places u' k hk) (by have := Option.some.inj hk'; omega)
      · exact h.single u' k hk hk'
    · intro id t k ht hk
      obtain ⟨hlt, hiff⟩ := h.tasks id t k ht hk
      refine ⟨Nat.lt_succ_of_lt hlt, ?_⟩
      simp only [Table.get?_insert]
      split
      · rename_i hu
        subst hu
        rw [hiff, hnone]
        simp only [Option.some.injEq, reduceCtorEq, false_iff]
        omega
      · exact hiff
    · intro id t k res ht hphase
      have hk := h.holders id t k res ht hphase
      have hlt := (h.tasks id t k ht (by simp [LensTask.slot?, hphase])).1
      rw [holder?] at hk ⊢
      simp only [Table.get?_insert]
      rw [if_neg (by omega)]
      exact hk

/-- A task may wait for the slot of its document. -/
theorem Orderly.enqueue (h : Orderly uri s) {id : Nat} {t : LensTask} {k : Nat}
    (hk : s.slotOf.get? t.uri = some k) (res : Resolution) :
    Orderly uri ((s.enqueue k id).putTask id t (.waiting k res)) where
  slots := by
    intro k' slot hslot
    simp only [putTask, Session.put, Session.enqueue, get?_modify] at hslot
    split at hslot
    · rename_i heq
      subst heq
      exact h.places t.uri k hk
    · exact h.slots k' slot hslot
  places := h.places
  single := h.single
  tasks := by
    intro id' t' k' ht' hk'
    simp only [putTask, Session.put, Session.enqueue, Table.get?_insert] at ht' ⊢
    split at ht'
    · rw [Option.some.injEq, Agent.task.injEq] at ht'
      subst ht'
      simp only [LensTask.slot?, Option.some.injEq] at hk'
      subst hk'
      exact ⟨h.places t.uri k hk, fun hu => hu ▸ hk, fun hu => h.single t.uri k hk hu⟩
    · exact h.tasks id' t' k' ht' hk'
  holders := by
    intro id' t' k' res' ht' hphase
    simp only [putTask, Session.put, Session.enqueue, Table.get?_insert] at ht'
    split at ht'
    · rw [Option.some.injEq, Agent.task.injEq] at ht'
      subst ht'
      cases hphase
    · exact holder?_enqueue (h.holders id' t' k' res' ht' hphase)

/-- Who holds a slot may hand its result over. -/
theorem Orderly.apply (h : Orderly uri s) {id : Nat} {t : LensTask} {k : Nat} {res : Resolution}
    (ht : s.agents.get? id = some (.task t)) (hphase : t.phase = .waiting k res)
    (hholds : s.holder? k = some id) : Orderly uri (s.putTask id t (.applying k res)) where
  slots := h.slots
  places := h.places
  single := h.single
  tasks := by
    intro id' t' k' ht' hk'
    simp only [putTask, Session.put, Table.get?_insert] at ht' ⊢
    split at ht'
    · rw [Option.some.injEq, Agent.task.injEq] at ht'
      subst ht'
      exact h.tasks id t k' ht (by simpa [LensTask.slot?, hphase] using hk')
    · exact h.tasks id' t' k' ht' hk'
  holders := by
    intro id' t' k' res' ht' hphase'
    simp only [putTask, Session.put, Table.get?_insert] at ht'
    split at ht'
    · rename_i hid
      rw [Option.some.injEq, Agent.task.injEq] at ht'
      subst ht' hid
      cases hphase'
      exact hholds
    · exact h.holders id' t' k' res' ht' hphase'

/-- The holder of a slot may leave it, and end. -/
theorem Orderly.leave (h : Orderly uri s) {id k : Nat} (hholds : s.holder? k = some id)
    (hslotOf : s'.slotOf = s.slotOf) (hnext : s'.nextSlot = s.nextSlot)
    (hagents : s'.agents = s.agents.erase id)
    (hslots : ∀ k', s'.slots.get? k' = none ↔ s.slots.get? k' = none)
    (hothers : ∀ k', k ≠ k' → s'.holder? k' = s.holder? k') : Orderly uri s' where
  slots := by
    intro k' slot hk'
    rw [hnext]
    cases hold : s.slots.get? k' with
    | none =>
        rw [(hslots k').mpr hold] at hk'
        cases hk'
    | some slot' => exact h.slots k' slot' hold
  places := by rw [hslotOf, hnext]; exact h.places
  single := by rw [hslotOf]; exact h.single
  tasks := by
    intro id' t k' ht hk'
    rw [hagents, Table.get?_erase] at ht
    rw [hnext, hslotOf]
    split at ht
    · cases ht
    · exact h.tasks id' t k' ht hk'
  holders := by
    intro id' t k' res ht hphase
    rw [hagents, Table.get?_erase] at ht
    split at ht
    · cases ht
    · rename_i hid
      have hk' := h.holders id' t k' res ht hphase
      have hne : k ≠ k' := fun heq => by
        subst heq
        exact hid (Option.some.inj (hholds.symm.trans hk'))
      rw [hothers k' hne, hk']

/-- Every moment keeps the invariant while the document is open. -/
theorem orderly_turn {m : Moment} {events : List Event} (h : Orderly uri s) (hturn : s.Turn m s' events)
    (hopen : ¬ m.Forgets uri) : Orderly uri s' := by
  cases hturn with
  | still => exact h
  | debounceSet => exact h.of_agents rfl rfl rfl fun id t ht => .inl ht
  | changed => exact h.of_agents rfl rfl rfl fun id t ht => .inl ht
  | forgotten editor u => exact h.forget fun hu => hopen (.inl (hu ▸ rfl))
  | scheduled asked delay =>
      refine h.put _ _ fun t ht => ?_
      cases ht
      by_cases hd : delay = 0 <;> simp [LensTask.slot?, hd]
  | called => exact h.put _ _ fun t ht => by cases ht
  | dropped => exact h.erase s.resolver _
  | launched => exact h.put _ s.nextAgent fun t ht => by cases ht; rfl
  | went => exact h.put _ s.nextAgent fun t ht => by cases ht; rfl
  | overtaken => exact h.erase _ _
  | @resolved editor id expired t run res s₁ k task phase move place =>
      have h' : Orderly uri
          { s with resolver := (s.resolver.step editor run expired).resolver } :=
        h.of_agents rfl rfl rfl fun id t ht => .inl ht
      obtain ⟨h₁, -, hk⟩ := h'.slotFor place
      exact h₁.enqueue hk res
  | callWent => exact h.put _ s.nextAgent fun t ht => by cases ht
  | callEnded => exact h.erase _ _
  | applying task phase holds may => exact h.apply task phase holds
  | @passedOver editor id expired t k res task phase holds may =>
      refine h.leave holds rfl rfl rfl (fun k' => ?_) fun k' hk' => holder?_release_of_ne hk'
      simp only [release, get?_modify]
      split <;> simp
  | @applied editor id expired t k res task phase =>
      refine h.leave (h.holders _ t k res task phase) rfl rfl rfl (fun k' => ?_) fun k' hk' => ?_
      · simp only [release, get?_modify]
        split <;> simp
      · simp only [holder?, release, get?_modify, if_neg hk']

theorem orderly_after (h : Orderly uri s) {ms : List Moment} (hopen : ∀ m ∈ ms, ¬ m.Forgets uri) :
    Orderly uri (s.after ms) := by
  induction ms generalizing s with
  | nil => exact h
  | cons m ms ih =>
      exact ih (orderly_turn h (turn_act s m) (hopen m List.mem_cons_self)) fun m' hm' =>
        hopen m' (List.mem_cons_of_mem m hm')

/-- Only one task at a time applies a result for the document. -/
theorem Orderly.eq_of_applies (h : Orderly uri s) {id id' : Nat} {t t' : LensTask}
    (ht : s.agents.get? id = some (.task t)) (ht' : s.agents.get? id' = some (.task t'))
    (hu : t.uri = uri) (hu' : t'.uri = uri) (ha : t.Applies) (ha' : t'.Applies) : id = id' := by
  obtain ⟨k, res, hphase⟩ := ha
  obtain ⟨k', res', hphase'⟩ := ha'
  have hk := (h.tasks id t k ht (by simp [LensTask.slot?, hphase])).2.mp hu
  have hk' := (h.tasks id' t' k' ht' (by simp [LensTask.slot?, hphase'])).2.mp hu'
  obtain rfl : k = k' := Option.some.inj (hk.symm.trans hk')
  exact Option.some.inj
    ((h.holders id t k res ht hphase).symm.trans (h.holders id' t' k res' ht' hphase'))

/-! ### What is handed over -/

/-- The version of the document that an event hands to the editor. -/
def handed? (uri : Uri) : Event → Option Int
  | .applying u version => if u = uri then some version else none
  | _ => none

/-- The versions of a document that are handed to the editor, in order. -/
def handed (uri : Uri) (events : List Event) : List Int := events.filterMap (handed? uri)

theorem mem_handed_iff {events : List Event} {version : Int} :
    version ∈ handed uri events ↔ .applying uri version ∈ events := by
  rw [handed, List.mem_filterMap]
  constructor
  · rintro ⟨e, he, hv⟩
    cases e <;> simp only [handed?, reduceCtorEq] at hv
    split at hv
    · rename_i hu
      rw [← Option.some.inj hv, ← hu]
      exact he
    · cases hv
  · exact fun he => ⟨_, he, by simp [handed?]⟩

theorem handed_append (uri : Uri) (events events' : List Event) :
    handed uri (events ++ events') = handed uri events ++ handed uri events' :=
  List.filterMap_append

/-- A run hands nothing over. -/
theorem handed_eventsOf (uri u : Uri) (step : RunStep) : handed uri (eventsOf u step) = [] := by
  unfold eventsOf
  cases step.report <;> cases step.extracts <;> rfl

/-- A moment hands over one version at most, and this is the latest one. -/
theorem handed_turn {m : Moment} {events : List Event} (h : s.Turn m s' events) (uri : Uri) :
    handed uri events = [] ∨
      ∃ version, handed uri events = [version] ∧ s.resolver.latest? uri = some version ∧
        s'.resolver = s.resolver := by
  cases h with
  | went => exact .inl (handed_eventsOf _ _ _)
  | overtaken => exact .inl (by rw [handed_append, handed_eventsOf]; rfl)
  | resolved => exact .inl (handed_eventsOf _ _ _)
  | callWent => exact .inl (handed_eventsOf _ _ _)
  | callEnded => exact .inl (by rw [handed_append, handed_eventsOf]; rfl)
  | @applying editor id expired t slot res task phase holds may =>
      by_cases hu : t.uri = uri
      · subst hu
        rw [mayApply, Bool.and_eq_true, Resolver.isCurrent, beq_iff_eq] at may
        exact .inr ⟨t.version, by simp [handed, handed?], may.1, rfl⟩
      · exact .inl (by simp [handed, handed?, hu])
  | _ => exact .inl rfl

/-- What is handed over is never older than what was asked for before. -/
theorem le_of_mem_handed {ms : List Moment} (hopen : ∀ m ∈ ms, ¬ m.Forgets uri) {latest : Int}
    (hl : s.resolver.latest? uri = some latest) {version : Int}
    (hv : version ∈ handed uri (s.events ms)) : latest ≤ version := by
  induction ms generalizing s latest with
  | nil => cases hv
  | cons m ms ih =>
      have hturn := turn_act s m
      rw [events, handed_append, List.mem_append] at hv
      rcases hv with hv | hv
      · rcases handed_turn hturn uri with hnone | ⟨version', hsome, hl', -⟩
        · rw [hnone] at hv
          cases hv
        · rw [hsome, List.mem_singleton] at hv
          rw [hl, Option.some.injEq] at hl'
          omega
      · obtain ⟨latest', hl', hle⟩ := hturn.latest?_mono (hopen m List.mem_cons_self) hl
        exact Int.le_trans hle
          (ih (fun m' hm' => hopen m' (List.mem_cons_of_mem m hm')) hl' hv)

theorem pairwise_handed {ms : List Moment} (hopen : ∀ m ∈ ms, ¬ m.Forgets uri) :
    (handed uri (s.events ms)).Pairwise (· ≤ ·) := by
  induction ms generalizing s with
  | nil => exact List.Pairwise.nil
  | cons m ms ih =>
      have hrest : ∀ m' ∈ ms, ¬ m'.Forgets uri := fun m' hm' =>
        hopen m' (List.mem_cons_of_mem m hm')
      rw [events, handed_append]
      rcases handed_turn (turn_act s m) uri with hnone | ⟨version, hsome, hl, hr⟩
      · rw [hnone, List.nil_append]
        exact ih hrest
      · rw [hsome, List.singleton_append, List.pairwise_cons]
        exact ⟨fun v hv => le_of_mem_handed hrest (hr ▸ hl) hv, ih hrest⟩

/-- While a document is open, results for it are handed to the editor one at a time, each while its
version is the latest, and never an older one after a newer one. -/
theorem handed_in_order (r : Resolver) {uri : Uri} {ms : List Moment}
    (hopen : ∀ m ∈ ms, ¬ m.Forgets uri) :
    (∀ id id' t t', ((ofResolver r).after ms).agents.get? id = some (.task t) →
        ((ofResolver r).after ms).agents.get? id' = some (.task t') →
        t.uri = uri → t'.uri = uri → t.Applies → t'.Applies → id = id') ∧
      (∀ m version, .applying uri version ∈ (((ofResolver r).after ms).act m).2 →
        ((ofResolver r).after ms).resolver.latest? uri = some version) ∧
      (handed uri ((ofResolver r).events ms)).Pairwise (· ≤ ·) := by
  refine ⟨fun id id' t t' ht ht' hu hu' ha ha' => ?_, fun m version he => ?_, pairwise_handed hopen⟩
  · exact (orderly_after (orderly_ofResolver r uri) hopen).eq_of_applies ht ht' hu hu' ha ha'
  · rcases handed_turn (turn_act ((ofResolver r).after ms) m) uri with hnone | ⟨v, hsome, hl, -⟩
    · rw [← mem_handed_iff, hnone] at he
      cases he
    · rw [← mem_handed_iff, hsome, List.mem_singleton] at he
      rw [he, hl]

open Sample in
theorem handed_in_order_of_edit :
    let events := (ofResolver Sample.resolver).events (opened ++ edited)
    handed Sample.uri events = [1, 2] ∧ (handed Sample.uri events).Pairwise (· ≤ ·) := by
  have hopen : ∀ m ∈ opened ++ edited, ¬ m.Forgets Sample.uri := by
    simp [opened, edited, go, Moment.Forgets]
  exact ⟨by cbv, (handed_in_order Sample.resolver hopen).2.2⟩

end Session

end ClassLens
