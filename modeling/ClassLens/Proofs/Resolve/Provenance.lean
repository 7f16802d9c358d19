import ClassLens.Proofs.Resolve.Transparency

/-! # Where the rules in the cache come from

Another extractor empties the cache.  A run that waits for the old one then goes on to wait for it, and
puts what it gets into the emptied cache.

* `Traffic.LeftOver w hs d index`: the index is that of an extraction that was under way in `w` and came
  back in time in the course `hs`.
* `Traffic.Supplied x w hs v`: the invariant of the course after the change of the extractor.

**Main statements.** `Traffic.supplied_step`: every step keeps the invariant.
`Traffic.genuine_or_leftOver`: whatever is found in the cache afterwards is of the new extractor, or
left over from the old ones. -/

namespace ClassLens

namespace Traffic

variable {x : Extractor} {w v : Traffic} {hs : List Happening}

/-- An extraction that was under way in `w`, and came back in time in the course `hs`, gave the rules of
the index for a stylesheet with the digest. -/
def LeftOver (w : Traffic) (hs : List Happening) (d : UInt64) (index : ClassIndex) : Prop :=
  ∃ id run job extraction sheet editor, w.runs.get? id = some run ∧
    run.phase = .extracting job extraction ∧ .resumed id editor false ∈ hs ∧
    extraction.result = .ok sheet ∧ d = digest job.css ∧ index = .ofSheet sheet

/-- What is extracted is extracted by `x`, or was under way in `w`; and so is what is in the cache. -/
structure Supplied (x : Extractor) (w : Traffic) (hs : List Happening) (v : Traffic) : Prop where
  extractor : v.resolver.extractor = x
  runs : ∀ id run job extraction, v.runs.get? id = some run → run.phase = .extracting job extraction →
    extraction = x.extract job.css ∨ w.runs.get? id = some run
  cache : v.resolver.cache.Holds fun d index =>
    Genuine x (fun _ => True) d index ∨ w.LeftOver hs d index

/-- The extractor is replaced: the cache is empty, and what is under way is left over. -/
theorem supplied_setExtractor (x : Extractor) (w : Traffic) (hs : List Happening) :
    Supplied x w hs (w.step (.changed (.setExtractor x))).1 where
  extractor := rfl
  runs := fun _ _ _ _ hrun _ => .inr hrun
  cache := fun key e he => by
    simp [step, Resolver.changed, Resolver.setExtractor, Cache.clear] at he

/-- A run that goes on to an extraction starts it with the extractor of the time. -/
theorem extraction_of_next {r : Resolver} {editor : Editor} {run run' : Run} {expired : Bool}
    (hmove : (r.step editor run expired).move = .next run') {job : Job} {extraction : Extraction}
    (hphase : run'.phase = .extracting job extraction) :
    extraction = r.extractor.extract job.css := by
  have hfaithful : run.Faithful r.extractor fun _ => True := by
    unfold Run.Faithful
    split
    · trivial
    · trivial
    · trivial
    · rename_i job' extraction' hlast
      obtain ⟨answer, hdone⟩ := Resolver.exists_done_receive r run job' extraction' expired
      simp only [Resolver.step, hlast, hdone] at hmove
      cases hmove
  have hnext := Resolver.faithful_of_next rfl hfaithful (fun _ _ _ => trivial) hmove
  simp only [Run.Faithful, hphase] at hnext
  exact hnext.2

/-- What is extracted after a step is extracted by the extractor of the time, or was before. -/
theorem Supplied.runs_step (h : Supplied x w hs v) (e : Happening) (id : Nat) (run : Run) (job : Job)
    (extraction : Extraction) (hrun : (v.step e).1.runs.get? id = some run)
    (hphase : run.phase = .extracting job extraction) :
    extraction = x.extract job.css ∨ w.runs.get? id = some run := by
  cases became_of_step hrun with
  | stayed old => exact h.runs id run job extraction old hphase
  | begun q idle => cases hphase
  | went old move => exact .inl (h.extractor ▸ extraction_of_next move hphase)

/-- A run puts into the cache what it gets in time. -/
theorem Supplied.cache_step (h : Supplied x w hs v) {id : Nat} {run : Run}
    (hrun : v.runs.get? id = some run) {editor : Editor} {expired : Bool}
    (hmem : .resumed id editor expired ∈ hs) :
    (v.resolver.step editor run expired).resolver.cache.Holds fun d index =>
      Genuine x (fun _ => True) d index ∨ w.LeftOver hs d index := by
  refine Resolver.holds_cache_of_extracted h.cache editor
    fun job extraction sheet hphase hexpired hresult => ?_
  subst hexpired
  rcases h.runs id run job extraction hrun hphase with rfl | hold
  · exact .inl ⟨job.css, sheet, trivial, hresult, rfl, rfl⟩
  · exact .inr ⟨id, run, job, extraction, sheet, editor, hold, hphase, hmem, hresult, rfl, rfl⟩

/-- Every step keeps the invariant, unless others replace the extractor or write into the cache. -/
theorem supplied_step (h : Supplied x w hs v) {e : Happening} (hmem : e ∈ hs)
    (hlast : ∀ x', e ≠ .changed (.setExtractor x'))
    (hput : ∀ path d index, e ≠ .changed (.useCache (.insert path d index))) :
    Supplied x w hs (v.step e).1 := by
  have hruns := h.runs_step e
  cases e with
  | asked q =>
      refine ⟨?_, hruns, ?_⟩ <;> rw [resolver_step_asked]
      · rw [Resolver.extractor_begin, h.extractor]
      · rw [Resolver.cache_begin]
        exact h.cache
  | resumed id editor expired =>
      cases hid : v.runs.get? id with
      | none =>
          rw [step_resumed_none hid]
          exact h
      | some run =>
          have hx := (Resolver.comes_step v.resolver editor run expired).frame.1
          refine ⟨?_, hruns, ?_⟩ <;> rw [resolver_step_resumed hid]
          · exact hx.trans h.extractor
          · exact h.cache_step hid hmem
  | changed change =>
      cases change with
      | record uri version =>
          refine ⟨(Resolver.extractor_begin _ _ _).trans h.extractor, hruns, ?_⟩
          show (v.resolver.begin uri version).cache.Holds _
          rw [Resolver.cache_begin]
          exact h.cache
      | forget uri => exact ⟨h.extractor, hruns, h.cache⟩
      | setOptions o =>
          obtain ⟨hx, hc⟩ : (v.resolver.setOptions o).extractor = v.resolver.extractor ∧
              (v.resolver.setOptions o).cache = v.resolver.cache.resize o.cacheCapacity := by
            unfold Resolver.setOptions Resolver.followBindings
            split <;> exact ⟨rfl, rfl⟩
          refine ⟨hx.trans h.extractor, hruns, ?_⟩
          show (v.resolver.setOptions o).cache.Holds _
          rw [hc]
          exact Cache.holds_resize h.cache _
      | setExtractor x' => exact absurd rfl (hlast x')
      | useCache use =>
          refine ⟨h.extractor, hruns, Cache.holds_used h.cache fun path d index heq => ?_⟩
          exact absurd (by rw [heq]) (hput path d index)

theorem supplied_after (h : Supplied x w hs v) {hs' : List Happening} (hsub : hs' ⊆ hs)
    (hlast : ∀ x', .changed (.setExtractor x') ∉ hs')
    (hput : ∀ path d index, .changed (.useCache (.insert path d index)) ∉ hs') :
    Supplied x w hs (v.after hs') := by
  induction hs' generalizing v with
  | nil => exact h
  | cons e hs' ih =>
      obtain ⟨hmem, hsub'⟩ := List.cons_subset.mp hsub
      refine ih (supplied_step h hmem ?_ ?_) hsub' (fun x' hm => ?_) fun path d index hm => ?_
      · exact fun x' he => hlast x' (he ▸ List.mem_cons_self)
      · exact fun path d index he => hput path d index (he ▸ List.mem_cons_self)
      · exact hlast x' (List.mem_cons_of_mem e hm)
      · exact hput path d index (List.mem_cons_of_mem e hm)

/-- Once an extractor was set for good, whatever a run finds in the cache is the index of rules that
this extractor gave, or of rules that an older one gave in an extraction that was under way by then and
came back in time afterwards. -/
theorem genuine_or_leftOver (w : Traffic) {x : Extractor} {hs : List Happening}
    (hlast : ∀ x', .changed (.setExtractor x') ∉ hs)
    (hput : ∀ path d index, .changed (.useCache (.insert path d index)) ∉ hs) {path : Path}
    {d : UInt64} {index : ClassIndex}
    (hhit : ((w.after (.changed (.setExtractor x) :: hs)).resolver.cache.get path d).1 =
      some index) :
    Genuine x (fun _ => True) d index ∨ w.LeftOver hs d index :=
  Cache.of_hit (supplied_after (supplied_setExtractor x w hs) (List.Subset.refl hs) hlast hput).cache
    (Prod.ext hhit rfl)

end Traffic

/-! ### A sample -/

namespace Sample

/-- An extractor that finds no rules. -/
def blind : Extractor := ⟨fun _ => ⟨0, .ok ⟨[]⟩⟩⟩

/-- A run that waits for the extractor. -/
def waiting : Traffic :=
  (Traffic.idle resolver).after (.asked (request 1) :: List.replicate 3 (.resumed 0 (editor 1) false))

end Sample

namespace Traffic

open Sample in
/-- The extractor is replaced by one that finds no rules while a run waits for the old one, and the
old rules are found in the cache all the same. -/
theorem leftOver_of_waiting :
    ((waiting.after (.changed (.setExtractor blind) ::
        [.resumed 0 (editor 1) false])).resolver.cache.get ⟨[0x61]⟩ (digest ".a { }")).1 =
        some (.ofSheet ⟨[⟨[".a"], []⟩]⟩) ∧
      waiting.LeftOver [.resumed 0 (editor 1) false] (digest ".a { }")
        (.ofSheet ⟨[⟨[".a"], []⟩]⟩) := by
  have hhit : ((waiting.after (.changed (.setExtractor blind) ::
      [.resumed 0 (editor 1) false])).resolver.cache.get ⟨[0x61]⟩ (digest ".a { }")).1 =
        some (.ofSheet ⟨[⟨[".a"], []⟩]⟩) := by cbv
  refine ⟨hhit, ?_⟩
  rcases genuine_or_leftOver waiting (by simp) (by simp) hhit with
    ⟨css, sheet, -, hresult, -, hindex⟩ | hleft
  · have hsheet : (⟨[]⟩ : Sheet) = sheet := Except.ok.inj hresult
    rw [← hsheet] at hindex
    exact absurd (congrArg ClassIndex.sheet hindex) (by simp [ClassIndex.ofSheet])
  · exact hleft

end Traffic

end ClassLens
