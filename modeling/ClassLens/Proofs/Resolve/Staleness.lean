import Mathlib
import ClassLens.Proofs.Resolve.Traffic

/-! # Runs that a closed document leaves behind

A run asks the table of versions whether it was overtaken.  Closing a document empties its place
there, so that runs which are under way find none; but whoever asks for the document again fills the
place anew, and a run whose version is the latest once more cannot tell.

* `Traffic.Traceless`: a step that others see nothing of, except in the cache.
* `Traffic.sinceForget uri hs`: the versions that were asked for since the document was last closed.

**Main statements.** `Traffic.latest?_after_forget`: the latest version is the greatest of those.
`Traffic.stale_iff_of_forgotten`: a run that was under way when its document was closed ends stale and
without a trace if and only if its version is not the greatest of those. -/

namespace ClassLens

namespace Resolver

variable {r : Resolver} {run : Run} {step : RunStep}

/-- A run that goes on, or is overtaken, leaves the resolutions and the failures as they are. -/
theorem Comes.traceless (h : Comes r run step) (hready : ∀ res, step.move ≠ .done (.ready res)) :
    step.resolver.resolutions = r.resolutions ∧ step.resolver.ledger = r.ledger ∧
      step.report = none := by
  cases h with
  | on => exact ⟨rfl, rfl, rfl⟩
  | overtaken => exact ⟨rfl, rfl, rfl⟩
  | ended cache res => exact absurd rfl (hready res)

end Resolver

namespace Traffic

variable {w : Traffic}

/-! ### The latest version -/

/-- What a happening does to the versions that were asked for of a document. -/
def asked (uri : Uri) (versions : List Int) : Happening → List Int
  | .asked q => if q.uri = uri then q.version :: versions else versions
  | .changed (.record u version) => if u = uri then version :: versions else versions
  | .changed (.forget u) => if u = uri then [] else versions
  | _ => versions

/-- The versions of a document that were asked for since it was last closed. -/
def sinceForget (uri : Uri) (hs : List Happening) : List Int := hs.foldl (asked uri) []

theorem latest?_begin {r : Resolver} {uri u : Uri} {versions : List Int}
    (h : r.latest? uri = versions.max?) (version : Int) :
    (r.begin u version).latest? uri =
      (if u = uri then version :: versions else versions).max? := by
  by_cases hu : u = uri
  · subst hu
    rw [if_pos rfl, List.max?_cons, ← h, Resolver.latest?_begin]
  · rw [if_neg hu, Resolver.latest?_begin_of_ne hu, h]

theorem latest?_step {uri : Uri} {versions : List Int} (h : w.resolver.latest? uri = versions.max?)
    (e : Happening) : (w.step e).1.resolver.latest? uri = (asked uri versions e).max? := by
  cases e with
  | asked q =>
      have hb := latest?_begin (u := q.uri) h q.version
      cases hr : w.resolver.refusedBy? q.uri q.version with
      | some latest =>
          rw [Resolver.latest?_begin_of_refused hr] at hb
          rw [step_asked_refused hr]
          exact hb
      | none =>
          rw [step_asked hr]
          exact hb
  | resumed id editor expired =>
      cases hrun : w.runs.get? id with
      | none =>
          rw [step_resumed_none hrun]
          exact h
      | some run =>
          have hl := (Resolver.latest?_step w.resolver editor run expired uri).trans h
          cases hmove : (w.resolver.step editor run expired).move with
          | next run' =>
              rw [step_resumed_next hrun hmove]
              exact hl
          | done answer =>
              rw [step_resumed_done hrun hmove]
              exact hl
  | changed change =>
      cases change with
      | record u version => exact latest?_begin h version
      | forget u =>
          by_cases hu : u = uri
          · subst hu
            rw [asked, if_pos rfl]
            exact Resolver.latest?_forget _ _
          · rw [asked, if_neg hu]
            show (w.resolver.forget u).latest? uri = _
            rw [Resolver.latest?, Resolver.forget, Table.get?_erase, if_neg hu]
            exact h
      | setOptions o =>
          show (w.resolver.setOptions o).latest? uri = _
          unfold Resolver.setOptions Resolver.followBindings
          split <;> exact h
      | setExtractor x => exact h
      | useCache use => exact h

theorem latest?_after {uri : Uri} {versions : List Int} (h : w.resolver.latest? uri = versions.max?)
    (hs : List Happening) :
    (w.after hs).resolver.latest? uri = (hs.foldl (asked uri) versions).max? := by
  induction hs generalizing w versions with
  | nil => exact h
  | cons e hs ih => exact ih (latest?_step h e)

/-- Once a document was closed, its latest version is the greatest one that was asked for since. -/
theorem latest?_after_forget {uri : Uri} {hs : List Happening}
    (hforget : .changed (.forget uri) ∈ hs) :
    (w.after hs).resolver.latest? uri = (sinceForget uri hs).max? := by
  obtain ⟨hs₁, hs₂, rfl⟩ := List.append_of_mem hforget
  have hcut : sinceForget uri (hs₁ ++ .changed (.forget uri) :: hs₂) = hs₂.foldl (asked uri) [] := by
    rw [sinceForget, List.foldl_append, List.foldl_cons, asked, if_pos rfl]
  rw [after_append, after_cons, hcut]
  exact latest?_after (Resolver.latest?_forget _ _) hs₂

/-! ### Steps without a trace -/

/-- A step that others see nothing of, except in the cache: no resolution is kept, and no failure is
noted or reported. -/
def Traceless (w : Traffic) (h : Happening) : Prop :=
  (w.step h).1.resolver.resolutions = w.resolver.resolutions ∧
    (w.step h).1.resolver.ledger = w.resolver.ledger ∧
    ∀ uri failure, .reported uri failure ∉ (w.step h).2

theorem not_reported_of_none {step : RunStep} (h : step.report = none) (uri u : Uri)
    (failure : Failure) : .reported u failure ∉ Session.eventsOf uri step := by
  unfold Session.eventsOf
  rw [h]
  cases step.extracts <;> simp

/-- A run leaves no trace until it ends with a resolution. -/
theorem traceless_of_run {id : Nat} {run : Run} (hrun : w.runs.get? id = some run) {editor : Editor}
    {expired : Bool}
    (hready : ∀ res, (w.resolver.step editor run expired).move ≠ .done (.ready res)) :
    w.Traceless (.resumed id editor expired) := by
  obtain ⟨hr, hl, hreport⟩ := (Resolver.comes_step w.resolver editor run expired).traceless hready
  unfold Traceless
  cases hmove : (w.resolver.step editor run expired).move with
  | next run' =>
      rw [step_resumed_next hrun hmove]
      exact ⟨hr, hl, fun u f => not_reported_of_none hreport _ u f⟩
  | done answer =>
      rw [step_resumed_done hrun hmove]
      refine ⟨hr, hl, fun u f => ?_⟩
      rw [List.mem_append, not_or]
      exact ⟨not_reported_of_none hreport _ u f, by simp⟩

/-! ### Forgotten runs -/

/-- A run that is still under way has left no trace so far. -/
theorem traceless_of_later (hn : w.Numbered) {id : Nat} {run run' : Run}
    (hrun : w.runs.get? id = some run) {editor : Editor} {expired : Bool} {hs : List Happening}
    (hrun' : (w.after (.resumed id editor expired :: hs)).runs.get? id = some run') :
    w.Traceless (.resumed id editor expired) := by
  refine traceless_of_run hrun fun res hmove => ?_
  have hgone : (w.step (.resumed id editor expired)).1.runs.get? id = none := by
    rw [step_resumed_done hrun hmove]
    simp
  have hid := Nat.lt_of_lt_of_le (hn id run hrun) (next_le_step w (.resumed id editor expired))
  rw [after_cons, get?_after_of_ended hid hgone] at hrun'
  cases hrun'

/-- A run that was under way when its document was closed ends stale, without a trace in any of its
steps since, if and only if its version is not the greatest that was asked for after the closing. -/
theorem stale_iff_of_forgotten {r : Resolver} {hs hs' : List Happening} {id : Nat} {run : Run}
    (hrun : ((idle r).after hs).runs.get? id = some run)
    (hforget : .changed (.forget run.request.uri) ∈ hs') {editor : Editor} {expired : Bool}
    {answer : Answer}
    (hanswer : .answered id answer ∈
      (((idle r).after (hs ++ hs')).step (.resumed id editor expired)).2) :
    ((∃ latest, answer = .stale run.request.version latest) ∧
      ∀ hs₁ e b hs₂, hs' ++ [.resumed id editor expired] = hs₁ ++ .resumed id e b :: hs₂ →
        ((idle r).after (hs ++ hs₁)).Traceless (.resumed id e b)) ↔
      (sinceForget run.request.uri hs').max? ≠ some run.request.version := by
  have hn : ((idle r).after hs).Numbered := numbered_after (numbered_idle r) hs
  simp only [after_append] at hanswer ⊢
  generalize (idle r).after hs = w at *
  obtain ⟨run', hrun', hmove⟩ := done_of_answered hanswer
  have hreq := request_after hn hrun hrun'
  have hcases := (Resolver.comes_step _ editor run' expired).answer_cases hmove
  rw [hreq, latest?_after_forget hforget] at hcases
  rcases hcases with ⟨hcur, res, rfl⟩ | ⟨hlate, latest, rfl⟩
  · exact ⟨fun ⟨⟨_, h⟩, _⟩ => (nomatch h), fun h => absurd hcur h⟩
  refine ⟨fun _ => hlate, fun _ => ⟨⟨latest, rfl⟩, fun hs₁ e b hs₂ hcut => ?_⟩⟩
  rcases List.eq_nil_or_concat hs₂ with rfl | ⟨hs₃, last, rfl⟩
  · -- the last step, which ends the run
    obtain ⟨rfl, hlast⟩ := List.append_inj' hcut rfl
    rw [← List.singleton_inj.mp hlast]
    refine traceless_of_run hrun' fun res hready => ?_
    rw [hmove] at hready
    cases hready
  · -- an earlier one, after which the run is still under way
    rw [List.concat_eq_append, ← List.cons_append, ← List.append_assoc] at hcut
    obtain ⟨rfl, -⟩ := List.append_inj' hcut rfl
    rw [after_append] at hrun'
    cases hrun₁ : (w.after hs₁).runs.get? id with
    | some run₁ => exact traceless_of_later (numbered_after hn hs₁) hrun₁ hrun'
    | none =>
        have hid := Nat.lt_of_lt_of_le (hn id run hrun) (next_le_after w hs₁)
        rw [get?_after_of_ended hid hrun₁] at hrun'
        cases hrun'

open Sample in
/-- A document that is opened again in the version of the run: the run ends as if it had not been
closed, and its result is kept.  In another version, it ends stale and without a trace. -/
theorem stale_iff_of_reopened :
    let early := [.resumed 0 (editor 1) false, .resumed 0 (editor 1) false,
      .resumed 0 (editor 1) false, .changed (.forget uri)]
    let last := .resumed 0 (editor 1) false
    let w version := (idle Sample.resolver).after
      ([.asked (request 1)] ++ (early ++ [.changed (.record uri version)]))
    (((w 1).step last).2 = [.answered 0 (.ready (resolution 1))] ∧
        ((w 1).step last).1.resolver.resolution? uri = some (resolution 1)) ∧
      ((w 2).step last).2 = [.answered 0 (.stale 1 2)] ∧ (w 2).Traceless last := by
  intro early last w
  have h : ((w 2).step last).2 = [.answered 0 (.stale 1 2)] := by cbv
  refine ⟨⟨by cbv, by cbv⟩, h, ?_⟩
  have hbegun : ((idle Sample.resolver).after [.asked (request 1)]).runs.get? 0 =
      some ⟨request 1, ⟨"App.tsx", 1, .idle, 0⟩, .begun⟩ := by cbv
  have hanswer : .answered 0 (.stale 1 2) ∈ (((idle Sample.resolver).after ([.asked (request 1)] ++
      (early ++ [.changed (.record uri 2)]))).step (.resumed 0 (editor 1) false)).2 := by
    rw [h]
    exact List.mem_cons_self
  have hstale := (stale_iff_of_forgotten hbegun (by simp [early, request]) hanswer).mpr (by decide)
  exact hstale.2 _ (editor 1) false [] rfl

end Traffic

end ClassLens
