import ClassLens.Proofs.Resolve.Traffic

/-! # What a run leaves behind

A run that ends with a resolution keeps it, unless one of a later version is kept.  The resolution has
an annotation for each usage that the run found, or a failure and no annotations.

* `Scanned P text version usages`: the usages are those of the text, for options and a scanner that
  were in force at some time; `P` holds of the resolver at all times.
* `Run.Scanned P run`: the run has found such usages, or is going to.

**Main statements.** `Resolver.resolution?_step`: what is kept after a step.
`Resolver.scanned_of_ready`: a run that ends well annotates the usages of its text. -/

namespace ClassLens

open Usage

variable {P : Resolver → Prop}

/-- The usages are those of the text, for options and a scanner that were in force at some time. -/
def Scanned (P : Resolver → Prop) (text : String) (version : Int) (usages : List Site) : Prop :=
  ∃ r₁ r₂, P r₁ ∧ P r₂ ∧
    usages = (r₂.scannerFor (imports text).head? r₁.options).scan version text

/-- The options of the run were in force at some time, and so was its scanner. -/
def Run.Scanned (P : Resolver → Prop) (run : Run) : Prop :=
  match run.phase with
  | .begun => True
  | .scanning options => ∃ r, P r ∧ options = r.options
  | .locating job | .extracting job _ =>
    ClassLens.Scanned P run.request.text run.request.version job.usages

namespace Resolver

variable {r : Resolver} {run : Run} {editor : Editor} {expired : Bool}

/-! ### Resolutions that are kept -/

theorem resolution?_store (r : Resolver) (res : Resolution) (uri : Uri) :
    (r.store res).resolution? uri = r.resolution? uri ∨
      res.uri = uri ∧ (r.store res).resolution? uri = some res ∧
        ∀ kept, r.resolution? uri = some kept → kept.version ≤ res.version := by
  by_cases hu : res.uri = uri
  · subst hu
    unfold store
    split
    · rename_i kept hkept
      split
      · rename_i hle
        refine .inr ⟨rfl, by simp [resolution?], fun kept' hkept' => ?_⟩
        rw [hkept, Option.some.injEq] at hkept'
        exact hkept' ▸ hle
      · exact .inl rfl
    · rename_i hnone
      refine .inr ⟨rfl, by simp [resolution?], fun kept hkept => ?_⟩
      rw [hnone] at hkept
      cases hkept
  · left
    unfold store
    split
    · split
      · simp [resolution?, hu]
      · rfl
    · simp [resolution?, hu]

/-- After a resolution was to be kept, one of its version or a later one is. -/
theorem le_version_store (r : Resolver) (res : Resolution) :
    ∃ kept, (r.store res).resolution? res.uri = some kept ∧ res.version ≤ kept.version := by
  unfold store
  split
  · rename_i kept hkept
    split
    · exact ⟨res, by simp [resolution?], Int.le_refl _⟩
    · exact ⟨kept, hkept, by omega⟩
  · exact ⟨res, by simp [resolution?], Int.le_refl _⟩

theorem resolution?_noteFailure (r : Resolver) (cache : Cache) (u uri : Uri) (f : Option Failure) :
    ({ r with cache }.noteFailure u f).1.resolution? uri = r.resolution? uri := by
  rw [resolution?, resolutions_noteFailure, resolution?]

/-- A step keeps what was kept, or it keeps the resolution that the run ends with, which is of the
latest version. -/
theorem resolution?_step (r : Resolver) (editor : Editor) (run : Run) (expired : Bool) (uri : Uri) :
    (r.step editor run expired).resolver.resolution? uri = r.resolution? uri ∨
      ∃ res, (r.step editor run expired).move = .done (.ready res) ∧ run.request.uri = uri ∧
        res.version = run.request.version ∧ r.latest? uri = some res.version ∧
        (r.step editor run expired).resolver.resolution? uri = some res ∧
        ∀ kept, r.resolution? uri = some kept → kept.version ≤ res.version := by
  have h := comes_step r editor run expired
  generalize r.step editor run expired = step at h ⊢
  cases h with
  | on => exact .inl rfl
  | overtaken => exact .inl rfl
  | ended cache res current huri hversion =>
      rcases resolution?_store ({ r with cache }.noteFailure run.request.uri res.failure).1 res uri with
        heq | ⟨hu, heq, hle⟩
      · exact .inl (heq.trans (resolution?_noteFailure r cache _ uri _))
      · have hrun : run.request.uri = uri := huri.symm.trans hu
        refine .inr ⟨res, rfl, hrun, hversion, ?_, heq, fun kept hkept => hle kept ?_⟩
        · rw [supersededBy?_eq_none_iff, hrun] at current
          rw [hversion, current]
        · rw [resolution?_noteFailure, hkept]

theorem resolution?_store_self {r : Resolver} {res : Resolution}
    (h : ∀ kept, r.resolution? res.uri = some kept → kept.version ≤ res.version) :
    (r.store res).resolution? res.uri = some res := by
  unfold store
  split
  · rename_i kept hkept
    rw [if_pos (h kept hkept)]
    simp [resolution?]
  · simp [resolution?]

theorem uri_of_ready {res : Resolution}
    (hmove : (r.step editor run expired).move = .done (.ready res)) : res.uri = run.request.uri := by
  have h := comes_step r editor run expired
  generalize r.step editor run expired = step at h hmove
  cases h with
  | on => cases hmove
  | overtaken => cases hmove
  | ended cache res' current huri hversion =>
      simp only [Move.done.injEq, Answer.ready.injEq] at hmove
      exact hmove ▸ huri

/-- A run that ends with a resolution leaves it, if nothing of a later version is kept. -/
theorem resolution?_of_ready {res : Resolution}
    (hmove : (r.step editor run expired).move = .done (.ready res))
    (hle : ∀ kept, r.resolution? run.request.uri = some kept → kept.version ≤ run.request.version) :
    res.version = run.request.version ∧
      (r.step editor run expired).resolver.resolution? run.request.uri = some res := by
  have h := comes_step r editor run expired
  generalize r.step editor run expired = step at h hmove ⊢
  cases h with
  | on => cases hmove
  | overtaken => cases hmove
  | ended cache res' current huri hversion =>
      simp only [Move.done.injEq, Answer.ready.injEq] at hmove
      subst hmove
      refine ⟨hversion, ?_⟩
      rw [← huri]
      refine resolution?_store_self fun kept hkept => ?_
      rw [resolution?_noteFailure, huri] at hkept
      exact hversion ▸ hle kept hkept

/-- A run that ends with a resolution leaves one of its version or a later one. -/
theorem le_version_of_ready {res : Resolution}
    (hmove : (r.step editor run expired).move = .done (.ready res)) :
    ∃ kept, (r.step editor run expired).resolver.resolution? run.request.uri = some kept ∧
      run.request.version ≤ kept.version := by
  have h := comes_step r editor run expired
  generalize r.step editor run expired = step at h hmove ⊢
  cases h with
  | on => cases hmove
  | overtaken => cases hmove
  | ended cache res' current huri hversion =>
      have hle :=
        le_version_store ({ r with cache }.noteFailure run.request.uri res'.failure).1 res'
      rw [huri, hversion] at hle
      exact hle

/-! ### What others leave of the resolutions -/

theorem resolution?_begin (r : Resolver) (u uri : Uri) (version : Int) :
    (r.begin u version).resolution? uri = r.resolution? uri := by
  unfold begin
  split <;> rfl

theorem resolution?_changed {r : Resolver} {uri : Uri} {change : Change}
    (hf : change ≠ .forget uri) : (r.changed change).resolution? uri = r.resolution? uri := by
  cases change with
  | record u version => exact resolution?_begin r u uri version
  | forget u =>
      have hu : u ≠ uri := fun h => hf (h ▸ rfl)
      show (r.resolutions.erase u).get? uri = r.resolutions.get? uri
      rw [Table.get?_erase, if_neg hu]
  | setOptions o =>
      show (r.setOptions o).resolution? uri = _
      unfold setOptions followBindings
      split <;> rfl
  | setExtractor x => rfl
  | useCache use => rfl

/-! ### Usages of a resolution -/

/-- A resolution with a failure has no annotations. -/
theorem annotations_of_failure {res : Resolution}
    (hmove : (r.step editor run expired).move = .done (.ready res)) (hf : res.failure ≠ none) :
    res.annotations = [] := by
  unfold step at hmove
  split at hmove
  · cases hmove
  · rename_i options hphase
    obtain ⟨progress, heq⟩ := scanAndLocate_eq r editor run options
    rw [heq] at hmove
    split at hmove
    · exact (eq_of_finish hmove).2.1
    · unfold lookUp at hmove
      split at hmove
      · exact absurd (eq_of_annotate hmove).2.2 hf
      · cases hmove
  · cases hmove
  · rcases eq_of_receive hmove with ⟨message, ha, -⟩ | ⟨sheet, -, -, hnone, -⟩
    · exact ha
    · exact absurd hnone hf

/-- What a run that reads its options has found, or finds now, are usages of its text. -/
theorem scanned_usages (hP : P r) (hrun : run.Scanned P) (hbegun : run.phase ≠ .begun) :
    Scanned P run.request.text run.request.version (run.usages r) := by
  unfold Run.Scanned at hrun
  unfold Run.usages
  split
  · rename_i hphase
    exact absurd hphase hbegun
  · rename_i options hphase
    rw [hphase] at hrun
    obtain ⟨r₁, hr₁, rfl⟩ := hrun
    exact ⟨r₁, r, hr₁, hP, rfl⟩
  · rename_i job hphase
    rw [hphase] at hrun
    exact hrun
  · rename_i job extraction hphase
    rw [hphase] at hrun
    exact hrun

/-- A run that goes on has found usages of its text, or is going to. -/
theorem scanned_of_next (hP : P r) (hrun : run.Scanned P) {run' : Run}
    (hmove : (r.step editor run expired).move = .next run') : run'.Scanned P := by
  have hreq := (comes_step r editor run expired).request_of_next hmove
  rcases usages_of_next hmove r with ⟨-, hphase⟩ | ⟨hbegun, ⟨job, hjob⟩, husages⟩
  · rw [Run.Scanned, hphase]
    exact ⟨r, hP, rfl⟩
  · have h := scanned_usages hP hrun hbegun
    rw [← husages, ← hreq] at h
    unfold Run.job? at hjob
    unfold Run.usages at h
    unfold Run.Scanned
    split at hjob <;> simp_all

/-- A run that ends well annotates the usages of its text. -/
theorem scanned_of_ready (hP : P r) (hrun : run.Scanned P) {res : Resolution}
    (hmove : (r.step editor run expired).move = .done (.ready res)) (hok : res.failure = none) :
    Scanned P run.request.text run.request.version (res.annotations.map Annotation.usage) := by
  rw [usages_of_ready hmove hok]
  refine scanned_usages hP hrun fun hbegun => ?_
  simp only [step, hbegun] at hmove
  cases hmove

end Resolver

end ClassLens
