import ClassLens.Proofs.Resolve.Dossiers

/-! # A request made twice

Making a request again, with nothing in between, changes nothing that counts: the first call has put
its version, its resolution and its failure where the second one would put them, and its rules into the
cache.

* `Cache.consult`: the rules of a stylesheet, from the cache or else from the extractor, and the cache
  that knows them from then on.
* `Resolver.told r editor q`, `Resolver.extracts`: the resolution that a request comes to if it is left
  alone, with the cache after it, and whether the extractor is run for it.
* `Resolver.conclude`: a resolution is kept, and its failure or its success noted.
* `Traffic.Settled w editor id n cache res extracted`: the run with the number, left alone, ends so.

**Main statements.** `Cache.get_of_consult`: what was consulted is known.  `Traffic.settled_of_granted`: what
a call that is left alone does and shows.  `Resolver.conclude_conclude`: concluding twice is concluding
once.  `Traffic.resolved_twice`: the second of two equal calls shows its answer again and changes the cache at
most. -/

namespace ClassLens

variable {x : Extractor} {q : Request} {job : Job}

/-! ### Rules -/

namespace Cache

variable {c c' : Cache} {path : Path} {d : UInt64} {index : ClassIndex}

/-- What is found is found again. -/
theorem get_of_hit (h : c.get path d = (some index, c')) : (c'.get path d).1 = some index := by
  unfold get at h
  split at h
  · cases h
  · rename_i e he
    split at h
    · rename_i hd
      cases h
      simp [get, hd]
    · cases h

/-- Looking in vain leaves the cache as it is. -/
theorem eq_of_miss (h : c.get path d = (none, c')) : c' = c := by
  unfold get at h
  split at h
  · cases h
    rfl
  · split at h
    · cases h
    · cases h
      rfl

/-- What is put in is found: room is made before it comes in. -/
theorem get_insert (c : Cache) (path : Path) (d : UInt64) (index : ClassIndex) :
    ((c.insert path d index).get path d).1 = some index := by
  simp [insert, get]

/-- The rules of a stylesheet, as the cache knows them or else as the extractor gives them, or what the
extractor fails with; and the cache once they were asked for. -/
def consult (c : Cache) (x : Extractor) (job : Job) : Except String ClassIndex × Cache :=
  match c.get job.path (digest job.css) with
  | (some index, c) => (.ok index, c)
  | (none, c) =>
    match (x.extract job.css).result with
    | .error fault => (.error fault.message, c)
    | .ok sheet => (.ok (.ofSheet sheet), c.insert job.path (digest job.css) (.ofSheet sheet))

/-- Whether the extractor has to be asked for the rules of a stylesheet. -/
def misses (c : Cache) (job : Job) : Bool := (c.get job.path (digest job.css)).1.isNone

/-- What the cache misses is not there, and looking for it changes nothing. -/
theorem get_of_misses (h : c.misses job = true) : c.get job.path (digest job.css) = (none, c) := by
  have hnone : (c.get job.path (digest job.css)).1 = none := by simpa [misses] using h
  exact Prod.ext hnone (eq_of_miss (Prod.ext hnone rfl))

theorem get_of_not_misses (h : c.misses job = false) :
    ∃ index c', c.get job.path (digest job.css) = (some index, c') := by
  cases hget : c.get job.path (digest job.css) with
  | mk hit c' =>
      cases hit with
      | some index => exact ⟨index, c', rfl⟩
      | none => simp [misses, hget] at h

/-- Rules that were consulted are known. -/
theorem get_of_consult (h : (c.consult x job).1 = .ok index) :
    ((c.consult x job).2.get job.path (digest job.css)).1 = some index := by
  unfold consult at h ⊢
  split at h
  · rename_i hhit
    cases h
    exact get_of_hit hhit
  · split at h
    · cases h
    · cases h
      exact get_insert _ _ _ _

/-- Rules that are known are not asked for. -/
theorem consult_of_hit (h : (c.get job.path (digest job.css)).1 = some index) :
    (c.consult x job).1 = .ok index := by
  unfold consult
  split
  · rename_i hhit
    rw [hhit, Option.some.injEq] at h
    rw [h]
  · rename_i hmiss
    rw [hmiss] at h
    cases h

/-- The extractor fails only if it is asked, and then nothing is learnt. -/
theorem consult_of_error {message : String} (h : (c.consult x job).1 = .error message) :
    c.misses job = true ∧ (c.consult x job).2 = c := by
  unfold consult at h ⊢
  split at h
  · cases h
  · rename_i hmiss
    split at h
    · exact ⟨by rw [misses, hmiss]; rfl, eq_of_miss hmiss⟩
    · cases h

/-- Who consults again is told the same. -/
theorem consult_consult (c : Cache) (x : Extractor) (job : Job) :
    ((c.consult x job).2.consult x job).1 = (c.consult x job).1 := by
  cases hrules : (c.consult x job).1 with
  | ok index => exact consult_of_hit (get_of_consult hrules)
  | error message => rw [(consult_of_error hrules).2, hrules]

/-- The extractor is asked again only if it was asked and has failed. -/
theorem misses_consult (c : Cache) (x : Extractor) (job : Job) :
    (c.consult x job).2.misses job = true ↔
      c.misses job = true ∧ ∃ message, (c.consult x job).1 = .error message := by
  cases hrules : (c.consult x job).1 with
  | ok index => simp [misses, get_of_consult hrules]
  | error message =>
      obtain ⟨hmiss, hsame⟩ := consult_of_error hrules
      simp [hsame, hmiss]

end Cache

/-! ### What a request comes to -/

/-- The resolution that a request comes to whose stylesheet is read, given the rules. -/
def Request.annotated (q : Request) (job : Job) : Except String ClassIndex → Resolution
  | .ok index =>
    ⟨q.uri, q.version, some ⟨job.specifier, some job.path⟩, index.annotateAll job.usages, none, .ready⟩
  | .error message =>
    ⟨q.uri, q.version, some ⟨job.specifier, some job.path⟩, [],
      some (.extraction job.path message), .failed⟩

theorem Request.uri_annotated (q : Request) (job : Job) (rules : Except String ClassIndex) :
    (q.annotated job rules).uri = q.uri := by
  cases rules <;> rfl

namespace Resolver

variable {r : Resolver} {editor : Editor} {res : Resolution} {run : Run}

/-- The resolution that a request comes to if it is left alone, and the cache after it. -/
def told (r : Resolver) (editor : Editor) (q : Request) : Resolution × Cache :=
  match r.seek editor q r.options with
  | .error (source, failure) => (⟨q.uri, q.version, source, [], some failure, .failed⟩, r.cache)
  | .ok job =>
    (q.annotated job (r.cache.consult r.extractor job).1, (r.cache.consult r.extractor job).2)

/-- Whether the extractor is run for a request that is left alone. -/
def extracts (r : Resolver) (editor : Editor) (q : Request) : Bool :=
  match r.seek editor q r.options with
  | .error _ => false
  | .ok job => r.cache.misses job

/-- A resolution is kept, and its failure or its success noted; gives the failure if it is to be
reported. -/
def conclude (r : Resolver) (res : Resolution) : Resolver × Option Failure :=
  ((r.noteFailure res.uri res.failure).1.store res, (r.noteFailure res.uri res.failure).2)

/-- The last step of a run that ends with a resolution. -/
def concluding (r : Resolver) (res : Resolution) : RunStep where
  resolver := (r.conclude res).1
  move := .done (.ready res)
  report := (r.conclude res).2

theorem uri_told (r : Resolver) (editor : Editor) (q : Request) : (r.told editor q).1.uri = q.uri := by
  unfold told
  split
  · rfl
  · exact Request.uri_annotated _ _ _

/-- What is told again is the same, if it is asked with the cache that was left. -/
theorem told_again {r' : Resolver} (hx : r'.extractor = r.extractor) (ho : r'.options = r.options)
    (hs : r'.scanner = r.scanner) (hcache : r'.cache = (r.told editor q).2) :
    (r'.told editor q).1 = (r.told editor q).1 ∧
      (r'.extracts editor q = true ↔ r.extracts editor q = true ∧
        ∃ path message, (r.told editor q).1.failure = some (.extraction path message)) := by
  have hseek := seek_congr hs editor q r.options
  unfold told extracts at *
  rw [hx, ho, hseek]
  cases hsought : r.seek editor q r.options with
  | error sought =>
      obtain ⟨source, failure⟩ := sought
      simp
  | ok job =>
      simp only [hsought] at hcache
      simp only [hcache, Cache.consult_consult, Cache.misses_consult, true_and]
      refine and_congr_right fun _ => ?_
      cases (r.cache.consult r.extractor job).1 with
      | ok index => simp [Request.annotated]
      | error message => simp [Request.annotated]

/-! ### Concluding twice -/

/-- A version that is the latest already may be asked for again. -/
theorem begin_of_latest {uri : Uri} {version : Int} (h : r.latest? uri = some version) :
    r.begin uri version = r := by
  have hgranted : r.refusedBy? uri version = none := by simp [refusedBy?, h]
  simp only [begin, hgranted, Table.insert_self h]

/-- A failure that is noted already is passed over. -/
theorem noteFailure_eq_of_known {uri : Uri} {e : Failure} (h : (r.noted uri).any e.same = true) :
    r.noteFailure uri (some e) = (r, none) := by
  unfold noted at h
  simp [noteFailure, Ledger.note, h]

/-- Noting again changes and reports nothing. -/
theorem noteFailure_noteFailure (r : Resolver) (uri : Uri) (failure : Option Failure) :
    (r.noteFailure uri failure).1.noteFailure uri failure = ((r.noteFailure uri failure).1, none) := by
  cases failure with
  | none =>
      have herased : (r.ledger.erase uri).get? uri = none := by simp
      simp only [noteFailure, Ledger.clear, Table.erase_of_get?_none herased]
  | some e =>
      refine noteFailure_eq_of_known ?_
      cases hold : (r.noted uri).any e.same with
      | true => rw [(noteFailure_of_known hold).2, hold]
      | false =>
          have hsame : e.same e = true := by cases e <;> simp [Failure.same, Path.same]
          simp [(noteFailure_of_new hold).2, hsame]

/-- A resolution that is kept already, or one that is older than what is kept, changes nothing. -/
theorem store_of_kept {kept : Resolution} (hkept : r.resolution? res.uri = some kept)
    (h : kept = res ∨ res.version < kept.version) : r.store res = r := by
  simp only [store, hkept]
  rcases h with rfl | hlater
  · simp only [Table.insert_self (show r.resolutions.get? kept.uri = some kept from hkept), ite_self]
  · rw [if_neg (Int.not_le.mpr hlater)]

/-- Keeping again changes nothing. -/
theorem store_store (r : Resolver) (res : Resolution) : (r.store res).store res = r.store res := by
  have hnow := resolution?_store_eq r res
  split at hnow
  · rename_i hlater
    obtain ⟨kept, hkept, hlt⟩ := Option.any_eq_true _ _ |>.mp hlater
    exact store_of_kept (hnow.trans hkept) (.inr (by simpa using hlt))
  · exact store_of_kept hnow (.inl rfl)

/-- Noting a failure leaves the resolutions and the cache aside. -/
theorem noteFailure_congr (r : Resolver) (cache : Cache) (resolutions : Table Uri Resolution) (uri : Uri)
    (failure : Option Failure) :
    { r with cache, resolutions }.noteFailure uri failure =
      ({ (r.noteFailure uri failure).1 with cache, resolutions }, (r.noteFailure uri failure).2) := by
  cases failure <;> rfl

theorem store_cache (r : Resolver) (cache : Cache) (res : Resolution) :
    { r with cache }.store res = { r.store res with cache } := by
  simp only [store, resolution?]
  split
  · split <;> rfl
  · rfl

/-- Concluding again changes and reports nothing. -/
theorem conclude_conclude (r : Resolver) (cache : Cache) (res : Resolution) :
    { (r.conclude res).1 with cache }.conclude res = ({ (r.conclude res).1 with cache }, none) := by
  obtain ⟨resolutions, heq⟩ := store_eq (r.noteFailure res.uri res.failure).1 res
  have hagain := store_store (r.noteFailure res.uri res.failure).1 res
  simp only [conclude, heq] at hagain ⊢
  rw [noteFailure_congr, noteFailure_noteFailure]
  refine Prod.ext ?_ rfl
  exact (store_cache _ cache res).trans (congrArg (fun r : Resolver => { r with cache }) hagain)

/-- What is reported does not depend on the cache. -/
theorem report_conclude_cache (r : Resolver) (cache : Cache) (res : Resolution) :
    ({ r with cache }.conclude res).2 = (r.conclude res).2 := by
  simp only [conclude, noteFailure_congr r cache r.resolutions res.uri res.failure]

/-! ### The end of a run -/

/-- A run of the latest version concludes with what it has found. -/
theorem finish_eq (hcurrent : r.latest? run.request.uri = some run.request.version)
    {source : Option CssSource} {annotations : List Annotation} {failure : Option Failure}
    (hstage : run.progress.stage.mayMove (if failure.isSome then .failed else .ready) = true) :
    r.finish run source annotations failure =
      r.concluding ⟨run.request.uri, run.request.version, source, annotations, failure,
        if failure.isSome then .failed else .ready⟩ := by
  have hnone := (supersededBy?_eq_none_iff r _ _).mpr hcurrent
  simp only [finish, hnone, Progress.stage_advance hstage, concluding, conclude]

theorem annotate_eq (hcurrent : r.latest? run.request.uri = some run.request.version)
    (hstage : run.progress.stage = .extractingRules) (job : Job) (index : ClassIndex) :
    r.annotate run job index = r.concluding (run.request.annotated job (.ok index)) := by
  have hnone := (supersededBy?_eq_none_iff r _ _).mpr hcurrent
  have hmatching : (run.progress.advance .matching).1.stage = .matching :=
    Progress.stage_advance (by rw [hstage]; rfl)
  simp only [annotate, hnone]
  refine finish_eq ?_ ?_
  · exact hcurrent
  · rw [hmatching]
    rfl

end Resolver

/-! ### A call that is left alone -/

/-- What others see of a call that is left alone: that the extractor is run, a failure that is reported,
and the answer. -/
def showing (uri : Uri) (extracted : Bool) (report : Option Failure) (id : Nat) (answer : Answer) :
    List Event :=
  (if extracted then [.extracted uri] else []) ++ (report.map (.reported uri)).toList ++
    [.answered id answer]

theorem answers_showing (uri : Uri) (extracted : Bool) (report : Option Failure) (id : Nat)
    (answer : Answer) : answers (showing uri extracted report id answer) = [answer] := by
  cases extracted <;> cases report <;> rfl

theorem reports_showing (uri : Uri) (extracted : Bool) (report : Option Failure) (id : Nat)
    (answer : Answer) :
    reports (showing uri extracted report id answer) = (report.map fun e => (uri, e)).toList := by
  cases extracted <;> cases report <;> rfl

theorem extracted_mem_showing (uri : Uri) (extracted : Bool) (report : Option Failure) (id : Nat)
    (answer : Answer) :
    (∃ u, .extracted u ∈ showing uri extracted report id answer) ↔ extracted = true := by
  cases extracted <;> cases report <;> simp [showing]

namespace Traffic

variable {w : Traffic} {editor : Editor} {id : Nat} {run run' : Run} {cache : Cache} {res : Resolution}
  {extracted : Bool} {n : Nat}

/-- Left alone, the run with the number ends with the resolution after so many steps at most; it leaves the
cache, and `extracted` tells whether the extractor is run. -/
structure Settled (w : Traffic) (editor : Editor) (id n : Nat) (cache : Cache) (res : Resolution)
    (extracted : Bool) : Prop where
  resolver : (w.after (.replicate n (.resumed id editor false))).resolver =
    ({ w.resolver with cache }.conclude res).1
  events : w.events (.replicate n (.resumed id editor false)) =
    showing res.uri extracted (w.resolver.conclude res).2 id (.ready res)

/-- The run with the number is of the latest version, and has made the moves that lead to where it
stands. -/
structure Leading (w : Traffic) (id : Nat) (run : Run) : Prop where
  runs : w.runs.get? id = some run
  latest : w.resolver.latest? run.request.uri = some run.request.version
  staged : run.Staged

/-- A run that concludes has ended; what is left of its steps does nothing. -/
theorem Leading.settled_of_concluding (h : w.Leading id run) (huri : res.uri = run.request.uri)
    (hstep : w.resolver.step editor run false = { w.resolver with cache }.concluding res) (n : Nat) :
    w.Settled editor id (n + 1) cache res false := by
  have hmove : (w.resolver.step editor run false).move = .done (.ready res) := by rw [hstep]; rfl
  have hgone : (w.step (.resumed id editor false)).1.runs.get? id = none := by
    rw [step_resumed_done h.runs hmove]
    simp
  obtain ⟨hafter, hevents⟩ := after_replicate_of_none hgone editor n
  constructor
  · rw [List.replicate_succ, after_cons, hafter, resolver_step_resumed h.runs, hstep]
    rfl
  · rw [List.replicate_succ, events, hevents, List.append_nil, step_resumed_done h.runs hmove, hstep]
    simp [showing, Session.eventsOf, Resolver.concluding, Resolver.report_conclude_cache, huri]

/-- The runs when the one with the number has gone on. -/
def moved (w : Traffic) (id : Nat) (run : Run) : Traffic := { w with runs := w.runs.insert id run }

/-- A run that goes on leads as before. -/
theorem Leading.next (h : w.Leading id run) {extracts : Bool}
    (hstep : w.resolver.step editor run false =
      { resolver := w.resolver, move := .next run', extracts }) :
    (w.moved id run').Leading id run' := by
  have hmove := congrArg RunStep.move hstep
  constructor
  · exact (Table.get?_insert _ _ _ _).trans (if_pos rfl)
  · rw [(Resolver.comes_step w.resolver editor run false).request_of_next hmove]
    exact h.latest
  · exact Resolver.staged_of_next h.staged hmove

/-- A run that goes on leaves its end to later steps. -/
theorem Leading.settled_of_next (h : w.Leading id run) (huri : res.uri = run.request.uri) {extracts : Bool}
    (hstep : w.resolver.step editor run false =
      { resolver := w.resolver, move := .next run', extracts })
    (hlater : (w.moved id run').Settled editor id n cache res extracted)
    (honce : extracts = true → extracted = false) :
    w.Settled editor id (n + 1) cache res (extracts || extracted) := by
  have hmove := congrArg RunStep.move hstep
  have hmoved : w.step (.resumed id editor false) =
      (w.moved id run', if extracts then [.extracted res.uri] else []) := by
    rw [step_resumed_next h.runs hmove, hstep, huri]
    rfl
  obtain ⟨hresolver, hevents⟩ := hlater
  constructor
  · rw [List.replicate_succ, after_cons, hmoved, hresolver]
    rfl
  · rw [List.replicate_succ, events, hmoved, hevents]
    cases hx : extracts with
    | false => rfl
    | true => simp [showing, honce hx, moved]

/-! ### From stop to stop -/

/-- A run that waits for its extraction ends with what the extractor gives. -/
theorem Leading.settled_of_extracting (h : w.Leading id run) (editor : Editor)
    (hphase : run.phase = .extracting job (w.resolver.extractor.extract job.css))
    (hmiss : w.resolver.cache.misses job = true) :
    w.Settled editor id 1 (w.resolver.cache.consult w.resolver.extractor job).2
      (run.request.annotated job (w.resolver.cache.consult w.resolver.extractor job).1) false := by
  have hstage : run.progress.stage = .extractingRules := by
    simpa only [Run.Staged, hphase] using h.staged
  refine h.settled_of_concluding (Request.uri_annotated _ _ _) ?_ 0
  simp only [Resolver.step, hphase, Resolver.receive, Bool.false_eq_true, if_false, Cache.consult,
    Cache.get_of_misses hmiss]
  cases (w.resolver.extractor.extract job.css).result with
  | error fault => exact Resolver.finish_eq h.latest (by rw [hstage]; rfl)
  | ok sheet =>
      refine Resolver.annotate_eq ?_ hstage job _
      exact h.latest

/-- A run that has missed its rules in the cache has them extracted. -/
theorem Leading.settled_of_locating (h : w.Leading id run) (editor : Editor)
    (hphase : run.phase = .locating job) (hmiss : w.resolver.cache.misses job = true) :
    w.Settled editor id 2 (w.resolver.cache.consult w.resolver.extractor job).2
      (run.request.annotated job (w.resolver.cache.consult w.resolver.extractor job).1) true := by
  have hstep : w.resolver.step editor run false =
      { resolver := w.resolver, extracts := true,
        move := .next { run with
          phase := .extracting job (w.resolver.extractor.extract job.css) } } := by
    simp only [Resolver.step, hphase]
  have hlater := (h.next hstep).settled_of_extracting editor rfl hmiss
  exact h.settled_of_next (Request.uri_annotated _ _ _) hstep hlater fun _ => rfl

/-- A run that scans ends at once, or goes on to the extractor. -/
theorem Leading.settled_of_scanning (h : w.Leading id run) (editor : Editor)
    (hphase : run.phase = .scanning w.resolver.options) :
    w.Settled editor id 3 (w.resolver.told editor run.request).2
      (w.resolver.told editor run.request).1 (w.resolver.extracts editor run.request) := by
  have hstage : run.progress.stage = .scanning := by simpa only [Run.Staged, hphase] using h.staged
  have hstep : w.resolver.step editor run false =
      w.resolver.scanAndLocate editor run w.resolver.options := by
    simp only [Resolver.step, hphase]
  rw [Resolver.scanAndLocate_of_staged _ _ hstage] at hstep
  unfold Resolver.told Resolver.extracts
  cases hsought : w.resolver.seek editor run.request w.resolver.options with
  | error sought =>
      obtain ⟨source, failure⟩ := sought
      simp only [hsought] at hstep ⊢
      refine h.settled_of_concluding rfl (hstep.trans ?_) 2
      refine Resolver.finish_eq ?_ ?_
      · exact h.latest
      · rfl
  | ok job =>
      simp only [hsought, Resolver.lookUp] at hstep ⊢
      cases hmiss : w.resolver.cache.misses job with
      | true =>
          rw [Cache.get_of_misses hmiss] at hstep
          have hlater := (h.next hstep).settled_of_locating editor rfl hmiss
          exact h.settled_of_next (Request.uri_annotated _ _ _) hstep hlater fun hx => by cases hx
      | false =>
          obtain ⟨index, cache, hget⟩ := Cache.get_of_not_misses hmiss
          simp only [hget] at hstep
          simp only [Cache.consult, hget]
          refine h.settled_of_concluding rfl (hstep.trans ?_) 2
          refine Resolver.annotate_eq ?_ rfl job index
          exact h.latest

/-- A run that begins now goes through all its stops. -/
theorem Leading.settled_of_begun (h : w.Leading id run) (editor : Editor)
    (hphase : run.phase = .begun) :
    w.Settled editor id 4 (w.resolver.told editor run.request).2
      (w.resolver.told editor run.request).1 (w.resolver.extracts editor run.request) := by
  have hstep : w.resolver.step editor run false =
      { resolver := w.resolver,
        move := .next { run with
          progress := (run.progress.advance .scanning).1
          phase := .scanning w.resolver.options } } := by
    simp only [Resolver.step, hphase]
  have hlater := (h.next hstep).settled_of_scanning editor rfl
  exact h.settled_of_next (Resolver.uri_told _ _ _) hstep hlater fun hx => by cases hx

/-- A request that is not refused is answered as told, and this is concluded. -/
theorem settled_of_granted (editor : Editor)
    (hgranted : w.resolver.refusedBy? q.uri q.version = none) {r : Resolver}
    (hr : r = w.resolver.begin q.uri q.version) :
    (w.deal (.resolve q editor)).resolver =
        ({ r with cache := (r.told editor q).2 }.conclude (r.told editor q).1).1 ∧
      w.shown (.resolve q editor) =
        showing q.uri (r.extracts editor q) (r.conclude (r.told editor q).1).2 w.next
          (.ready (r.told editor q).1) := by
  subst hr
  have hleading : (w.step (.asked q)).1.Leading w.next
      ⟨q, ⟨q.uri.shortName, q.version, .idle, 0⟩, .begun⟩ := by
    rw [step_asked hgranted]
    exact ⟨(Table.get?_insert _ _ _ _).trans (if_pos rfl), Resolver.latest?_begin_self hgranted, rfl⟩
  obtain ⟨hresolver, hevents⟩ := hleading.settled_of_begun editor rfl
  rw [Resolver.uri_told] at hevents
  unfold deal shown Dealing.happenings
  rw [after_cons, Traffic.events, hresolver, hevents, step_asked hgranted]
  exact ⟨rfl, rfl⟩

/-! ### The second call -/

/-- A request that was granted is granted again: it is told the same, and concluding it once more changes
nothing but the cache. -/
theorem settled_again (editor : Editor)
    (hgranted : w.resolver.refusedBy? q.uri q.version = none) {r r' : Resolver}
    (hr : r = w.resolver.begin q.uri q.version) (hr' : r' = (w.deal (.resolve q editor)).resolver) :
    (∃ cache, ((w.deal (.resolve q editor)).deal (.resolve q editor)).resolver = { r' with cache }) ∧
      (w.deal (.resolve q editor)).shown (.resolve q editor) =
        showing q.uri (r'.extracts editor q) none (w.deal (.resolve q editor)).next
          (.ready (r.told editor q).1) ∧
      (r'.extracts editor q = true ↔ r.extracts editor q = true ∧
        ∃ path message, (r.told editor q).1.failure = some (.extraction path message)) := by
  have hconcluded := hr'.trans (settled_of_granted editor hgranted hr).1
  -- The first call leaves what the second one reads as it is.
  have hframe : r'.extractor = r.extractor ∧ r'.options = r.options ∧ r'.scanner = r.scanner ∧
      r'.cache = (r.told editor q).2 ∧ r'.latest = r.latest := by
    obtain ⟨resolutions, hstored⟩ := Resolver.store_eq
      ({ r with cache := (r.told editor q).2 }.noteFailure (r.told editor q).1.uri
        (r.told editor q).1.failure).1 (r.told editor q).1
    rw [hconcluded, Resolver.conclude, hstored]
    simp
  obtain ⟨hx, ho, hs, hcache, hlatest⟩ := hframe
  obtain ⟨htold, hextracts⟩ := Resolver.told_again hx ho hs hcache
  have hcurrent : r'.latest? q.uri = some q.version := by
    rw [Resolver.latest?, hlatest, hr]
    exact Resolver.latest?_begin_self hgranted
  have hbegun : r' = (w.deal (.resolve q editor)).resolver.begin q.uri q.version := by
    rw [← hr', Resolver.begin_of_latest hcurrent]
  have hgranted' : (w.deal (.resolve q editor)).resolver.refusedBy? q.uri q.version = none := by
    simp [← hr', Resolver.refusedBy?, hcurrent]
  obtain ⟨hresolver, hshown⟩ := settled_of_granted editor hgranted' hbegun
  rw [htold] at hresolver hshown
  have hagain : ∀ cache, { r' with cache }.conclude (r.told editor q).1 = ({ r' with cache }, none) := by
    intro cache
    rw [hconcluded]
    exact Resolver.conclude_conclude _ cache _
  rw [hagain] at hresolver
  refine ⟨⟨_, hresolver⟩, ?_, hextracts⟩
  rw [hshown, show r'.conclude (r.told editor q).1 = (r', none) from hagain r'.cache]

/-- Whatever has happened to a resolver, and whatever runs are under way in it: of two equal calls with
nothing in between, the editor answering alike and no extraction taking too long, both are answered, and
equally.  The second one reports nothing and leaves the latest versions, the resolutions and the ledger
as they are; and it runs the extractor only if the first one has run it and the extractor has failed. -/
theorem resolved_twice (r : Resolver) (hs : List Happening) (q : Request) (editor : Editor) :
    let call := Dealing.resolve q editor
    let w := (idle r).after hs
    let w' := w.deal call
    let w'' := w'.deal call
    ∃ answer, answers (w.shown call) = [answer] ∧ answers (w'.shown call) = [answer] ∧
      reports (w'.shown call) = [] ∧
      w''.resolver.latest = w'.resolver.latest ∧
      w''.resolver.resolutions = w'.resolver.resolutions ∧
      w''.resolver.ledger = w'.resolver.ledger ∧
      ((∃ uri, .extracted uri ∈ w'.shown call) ↔
        (∃ uri, .extracted uri ∈ w.shown call) ∧
          ∃ res path message, answer = .ready res ∧
            res.failure = some (.extraction path message)) := by
  dsimp only
  have hn : ((idle r).after hs).Numbered := numbered_after (numbered_idle r) hs
  generalize (idle r).after hs = w at hn
  cases href : w.resolver.refusedBy? q.uri q.version with
  | some latest =>
      obtain ⟨hsame, hshown⟩ := deal_of_refused editor hn href
      have href' : (w.deal (.resolve q editor)).resolver.refusedBy? q.uri q.version = some latest := by
        rw [hsame, href]
      obtain ⟨hsame', hshown'⟩ :=
        deal_of_refused editor (numbered_deal hn (.resolve q editor)) href'
      refine ⟨.stale q.version latest, ?_⟩
      rw [hshown, hshown', hsame']
      simp [answers, reports, Event.answer?, Event.report?]
  | none =>
      obtain ⟨-, hshown⟩ := settled_of_granted editor href rfl
      obtain ⟨⟨cache, hsame'⟩, hshown', hextracts⟩ := settled_again editor href rfl rfl
      refine ⟨.ready ((w.resolver.begin q.uri q.version).told editor q).1, ?_⟩
      rw [hshown, hshown', hsame', answers_showing, answers_showing, reports_showing,
        extracted_mem_showing, extracted_mem_showing, hextracts]
      simp

end Traffic

end ClassLens
