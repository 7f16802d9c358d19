import ClassLens.Proofs.Resolve.Afresh
import ClassLens.Proofs.Resolve.Results
import ClassLens.Proofs.Resolve.Staleness

/-! # The last result stays

Runs for one document may end in any order.  Those of the latest version cannot be told apart by the
table of versions, so what is kept in the end is of the one among them that ends last, whichever
began last.

* `Traffic.Reads w hs id q sought`: in the course `hs` the run with number `id`, for the request `q`,
  scans and locates, and finds what it is to resolve.
* `Traffic.results uri events`: the resolutions of a document that runs ended with, in order.
* `Traffic.Completing`: the invariant of a course in which the document stays open.

**Main statements.** `Traffic.completing_step`: every happening keeps the invariant.
`Traffic.kept_of_last`: when all runs have ended, what is kept is of the greatest version that was
asked for, and of the run that ended last: the outcome of what this run found when it read its
stylesheet.  `Traffic.kept_of_agreement`: the order does not matter if the runs of this version found
the same. -/

namespace ClassLens

namespace Traffic

variable {x : Extractor} {sheets : String → Prop} {uri : Uri} {w v : Traffic} {hs : List Happening}

/-! ### What runs read, and what they end with -/

/-- In the course the run scans and locates, and finds what it is to resolve. -/
def Reads (w : Traffic) (hs : List Happening) (id : Nat) (q : Request) (sought : Sought) : Prop :=
  ∃ hs₁ editor expired hs₂ run options, hs = hs₁ ++ .resumed id editor expired :: hs₂ ∧
    (w.after hs₁).runs.get? id = some run ∧ run.request = q ∧ run.phase = .scanning options ∧
    sought = (w.after hs₁).resolver.seek editor q options

theorem Reads.append {id : Nat} {q : Request} {sought : Sought} (h : w.Reads hs id q sought)
    (hs' : List Happening) : w.Reads (hs ++ hs') id q sought := by
  obtain ⟨hs₁, editor, expired, hs₂, run, options, rfl, h⟩ := h
  exact ⟨hs₁, editor, expired, hs₂ ++ hs', run, options, by simp, h⟩

/-- The number of a run, and the resolution of the document that it ended with. -/
def result? (uri : Uri) : Event → Option (Nat × Resolution)
  | .answered id (.ready res) => if res.uri = uri then some (id, res) else none
  | _ => none

/-- The resolutions of a document that runs ended with, in order. -/
def results (uri : Uri) (events : List Event) : List (Nat × Resolution) :=
  events.filterMap (result? uri)

theorem results_append (uri : Uri) (events events' : List Event) :
    results uri (events ++ events') = results uri events ++ results uri events' :=
  List.filterMap_append

theorem results_eventsOf (uri u : Uri) (step : RunStep) :
    results uri (Session.eventsOf u step) = [] := by
  unfold Session.eventsOf
  cases step.report <;> cases step.extracts <;> rfl

theorem events_append (w : Traffic) (hs hs' : List Happening) :
    w.events (hs ++ hs') = w.events hs ++ (w.after hs).events hs' := by
  induction hs generalizing w with
  | nil => rfl
  | cons h hs ih => rw [List.cons_append, events, ih, events, List.append_assoc, after_cons]

/-- While the document is open, a happening leaves what is kept of it, or a run of the latest version
ends and its resolution is kept. -/
theorem kept_step (hle : ∀ kept, w.resolver.resolution? uri = some kept →
      ∃ latest, w.resolver.latest? uri = some latest ∧ kept.version ≤ latest) {h : Happening}
    (hopen : h ≠ .changed (.forget uri)) :
    (results uri (w.step h).2 = [] ∧
        (w.step h).1.resolver.resolution? uri = w.resolver.resolution? uri) ∨
      ∃ id editor expired run res, h = .resumed id editor expired ∧ w.runs.get? id = some run ∧
        (w.resolver.step editor run expired).move = .done (.ready res) ∧ run.request.uri = uri ∧
        w.resolver.latest? uri = some res.version ∧ results uri (w.step h).2 = [(id, res)] ∧
        (w.step h).1.resolver.resolution? uri = some res := by
  cases h with
  | asked q =>
      left
      cases href : w.resolver.refusedBy? q.uri q.version with
      | some latest =>
          rw [step_asked_refused href]
          exact ⟨rfl, rfl⟩
      | none =>
          rw [step_asked href]
          exact ⟨rfl, Resolver.resolution?_begin _ _ _ _⟩
  | resumed id editor expired =>
      cases hid : w.runs.get? id with
      | none =>
          rw [step_resumed_none hid]
          exact .inl ⟨rfl, rfl⟩
      | some run =>
          have hsame := Resolver.resolution?_step w.resolver editor run expired uri
          cases hmove : (w.resolver.step editor run expired).move with
          | next run' =>
              rw [step_resumed_next hid hmove]
              refine .inl ⟨results_eventsOf _ _ _, hsame.resolve_right ?_⟩
              rintro ⟨res, hready, -⟩
              rw [hmove] at hready
              cases hready
          | done answer =>
              rw [step_resumed_done hid hmove]
              rcases (Resolver.comes_step w.resolver editor run expired).answer_cases hmove with
                ⟨hl, res, rfl⟩ | ⟨-, latest, rfl⟩
              · by_cases hu : run.request.uri = uri
                · subst hu
                  obtain ⟨hversion, hkept⟩ := Resolver.resolution?_of_ready hmove fun kept hkept => by
                    obtain ⟨latest, hl', hle'⟩ := hle kept hkept
                    rw [hl, Option.some.injEq] at hl'
                    exact hl' ▸ hle'
                  refine .inr ⟨id, editor, expired, run, res, rfl, hid, hmove, rfl, hversion ▸ hl, ?_,
                    hkept⟩
                  rw [results_append, results_eventsOf]
                  simp [results, result?, Resolver.uri_of_ready hmove]
                · have hres : res.uri ≠ uri := fun h =>
                    hu ((Resolver.uri_of_ready hmove).symm.trans h)
                  refine .inl ⟨?_, hsame.resolve_right fun ⟨_, _, hu', _⟩ => hu hu'⟩
                  rw [results_append, results_eventsOf]
                  simp [results, result?, hres]
              · refine .inl ⟨?_, hsame.resolve_right ?_⟩
                · rw [results_append, results_eventsOf]
                  rfl
                · rintro ⟨res, hready, -⟩
                  rw [hmove] at hready
                  cases hready
  | changed change =>
      exact .inl ⟨rfl, Resolver.resolution?_changed fun h => hopen (h ▸ rfl)⟩

/-- The run with number `id` ends with this if it has found `sought`: the outcome, or the fault that the
extraction took too long, if it did. -/
def EndsWith (x : Extractor) (hs : List Happening) (id : Nat) (q : Request) (sought : Sought)
    (res : Resolution) : Prop :=
  res = q.outcome x sought ∨
    ∃ job editor, sought = .ok job ∧ .resumed id editor true ∈ hs ∧ res = q.timedOut job

theorem EndsWith.append {id : Nat} {q : Request} {sought : Sought} {res : Resolution}
    (h : EndsWith x hs id q sought res) (hs' : List Happening) :
    EndsWith x (hs ++ hs') id q sought res := by
  rcases h with h | ⟨job, editor, hsought, hmem, h⟩
  · exact .inl h
  · exact .inr ⟨job, editor, hsought, List.mem_append_left hs' hmem, h⟩

theorem EndsWith.version_eq {id : Nat} {q : Request} {sought : Sought} {res : Resolution}
    (h : EndsWith x hs id q sought res) : res.version = q.version := by
  rcases h with rfl | ⟨job, editor, -, -, rfl⟩
  · exact Request.version_outcome q x sought
  · rfl

/-! ### The invariant -/

/-- What is kept of the document is what the last of its runs ended with, the outcome of what this run
found when it read its stylesheet; and unless it is of the latest version, a run of this version is
under way. -/
structure Completing (x : Extractor) (sheets : String → Prop) (uri : Uri) (w : Traffic)
    (hs : List Happening) : Prop where
  faithful : (w.after hs).Faithful x sheets
  staged : ∀ id run, (w.after hs).runs.get? id = some run → run.Staged
  read : ∀ id run job, (w.after hs).runs.get? id = some run → run.job? = some job →
    w.Reads hs id run.request (.ok job)
  kept : (w.after hs).resolver.resolution? uri = (results uri (w.events hs)).getLast?.map Prod.snd
  ends : ∀ id res, (id, res) ∈ results uri (w.events hs) →
    ∃ q sought, w.Reads hs id q sought ∧ q.uri = uri ∧ EndsWith x hs id q sought res
  le : ∀ kept, (w.after hs).resolver.resolution? uri = some kept →
    ∃ latest, (w.after hs).resolver.latest? uri = some latest ∧ kept.version ≤ latest
  pending : ∀ latest, (w.after hs).resolver.latest? uri = some latest →
    (∃ id run, (w.after hs).runs.get? id = some run ∧ run.request.uri = uri ∧
        run.request.version = latest) ∨
      ∃ kept, (w.after hs).resolver.resolution? uri = some kept ∧ kept.version = latest

theorem completing_idle {r : Resolver} (hr : r.Fresh x) (uri : Uri) :
    Completing x sheets uri (idle r) [] := by
  have hnone : r.resolution? uri = none ∧ r.latest? uri = none := by cases hr <;> exact ⟨rfl, rfl⟩
  refine ⟨faithful_idle hr, ?_, ?_, hnone.1, ?_, ?_, ?_⟩
  · exact fun id run hrun => by simp [idle] at hrun
  · exact fun id run job hrun => by simp [idle] at hrun
  · exact fun id res hres => by simp [events, results] at hres
  · exact fun kept hkept => by
      rw [after_nil, idle, hnone.1] at hkept
      cases hkept
  · exact fun latest hlatest => by
      rw [after_nil, idle, hnone.2] at hlatest
      cases hlatest

/-- A run that goes on, or begins, keeps count of its stages. -/
theorem staged_step (h : ∀ id run, v.runs.get? id = some run → run.Staged) (e : Happening) (id : Nat)
    (run : Run) (hrun : (v.step e).1.runs.get? id = some run) : run.Staged := by
  cases became_of_step hrun with
  | stayed old => exact h id run old
  | begun q idle => exact idle
  | went old move => exact Resolver.staged_of_next (h id _ old) move

/-- A run that scans and locates reads what is there by then. -/
theorem reads_of_scanning {id : Nat} {run : Run} {options : Options}
    (hrun : (w.after hs).runs.get? id = some run) (hphase : run.phase = .scanning options)
    (editor : Editor) (expired : Bool) :
    w.Reads (hs ++ [.resumed id editor expired]) id run.request
      ((w.after hs).resolver.seek editor run.request options) :=
  ⟨hs, editor, expired, [], run, options, rfl, hrun, rfl, hphase, rfl⟩

/-- What a run has left to do is what it has read. -/
theorem read_step (h : Completing x sheets uri w hs) (e : Happening) {id : Nat} {run : Run} {job : Job}
    (hrun : ((w.after hs).step e).1.runs.get? id = some run) (hjob : run.job? = some job) :
    w.Reads (hs ++ [e]) id run.request (.ok job) := by
  cases became_of_step hrun with
  | stayed old => exact (h.read id run job old hjob).append [e]
  | begun q idle => cases hjob
  | @went editor expired run₀ run old move =>
      rw [(Resolver.comes_step _ _ _ _).request_of_next move]
      cases hphase : run₀.phase with
      | begun =>
          simp only [Resolver.step, hphase, Move.next.injEq] at move
          subst move
          cases hjob
      | scanning options =>
          obtain ⟨job', hsought, hjob'⟩ := Resolver.seek_of_scanning hphase move
          rw [hjob, Option.some.injEq] at hjob'
          rw [hjob', ← hsought]
          exact reads_of_scanning old hphase editor expired
      | locating job' | extracting job' _ =>
          have hjob' : run₀.job? = some job' := by simp only [Run.job?, hphase]
          have hsame := Resolver.job?_of_next hjob' move
          rw [hjob, Option.some.injEq] at hsame
          subst hsame
          exact (h.read id run₀ job old hjob').append _

/-- A run ends with what it has read calls for. -/
theorem endsWith_of_ready (hinj : ∀ a b, sheets a → sheets b → digest a = digest b → a = b)
    (h : Completing x sheets uri w hs) {id : Nat} {editor : Editor} {expired : Bool}
    (hread : ∀ path css, editor.read path = .ok css → sheets css) {run : Run}
    (hrun : (w.after hs).runs.get? id = some run) {res : Resolution}
    (hmove : ((w.after hs).resolver.step editor run expired).move = .done (.ready res)) :
    ∃ sought, w.Reads (hs ++ [.resumed id editor expired]) id run.request sought ∧
      EndsWith x (hs ++ [.resumed id editor expired]) id run.request sought res := by
  have hstaged := h.staged id run hrun
  cases hphase : run.phase with
  | begun => simp [Resolver.step, hphase] at hmove
  | scanning options =>
      refine ⟨_, reads_of_scanning hrun hphase editor expired, .inl ?_⟩
      refine Resolver.outcome_of_scanning hstaged hphase (fun job hjob => ?_) hmove
      obtain ⟨-, -, -, hcss, -⟩ := Resolver.eq_of_seek_ok hjob
      exact Cache.recalls_of_holds hinj h.faithful.resolver.cache (hread _ _ hcss)
  | locating job => simp [Resolver.step, hphase] at hmove
  | extracting job extraction =>
      have hjob : run.job? = some job := by simp only [Run.job?, hphase]
      refine ⟨.ok job, (h.read id run job hrun hjob).append _, ?_⟩
      cases expired with
      | false => exact .inl (Resolver.outcome_of_job (h.faithful.runs id run hrun) hstaged hjob hmove)
      | true =>
          exact .inr ⟨job, editor, rfl, by simp, Resolver.timedOut_of_expired hstaged hjob hmove⟩

/-- The latest version changes only when a run is asked for, which begins then. -/
theorem latest?_step_cases {e : Happening} (hopen : e ≠ .changed (.forget uri))
    (hrecord : ∀ version, e ≠ .changed (.record uri version)) :
    (v.step e).1.resolver.latest? uri = v.resolver.latest? uri ∨
      ∃ q run, e = .asked q ∧ q.uri = uri ∧ run.request = q ∧
        (v.step e).1.runs.get? v.next = some run ∧
        (v.step e).1.resolver.latest? uri = some q.version ∧
        ∀ latest, v.resolver.latest? uri = some latest → latest ≤ q.version := by
  cases e with
  | asked q =>
      by_cases hu : q.uri = uri
      · subst hu
        cases href : v.resolver.refusedBy? q.uri q.version with
        | some latest =>
            rw [step_asked_refused href]
            exact .inl rfl
        | none =>
            rw [step_asked href]
            refine .inr ⟨q, _, rfl, rfl, rfl, by rw [Table.get?_insert, if_pos rfl],
              Resolver.latest?_begin_self href, fun _ => Resolver.le_of_not_refused href⟩
      · rw [resolver_step_asked]
        exact .inl (Resolver.latest?_begin_of_ne hu)
  | resumed id editor expired =>
      left
      cases hid : v.runs.get? id with
      | none => rw [step_resumed_none hid]
      | some run =>
          rw [resolver_step_resumed hid]
          exact Resolver.latest?_step _ _ _ _ _
  | changed change =>
      left
      cases change with
      | record u version =>
          exact Resolver.latest?_begin_of_ne fun h => hrecord version (h ▸ rfl)
      | forget u =>
          have hu : u ≠ uri := fun h => hopen (h ▸ rfl)
          show (v.resolver.latest.erase u).get? uri = v.resolver.latest.get? uri
          rw [Table.get?_erase, if_neg hu]
      | setOptions o =>
          show (v.resolver.setOptions o).latest? uri = _
          unfold Resolver.setOptions Resolver.followBindings
          split <;> rfl
      | setExtractor x => rfl
      | useCache use => rfl

/-- A run of the latest version stays under way, or ends and its resolution is kept. -/
theorem pending_step (h : Completing x sheets uri w hs) {e : Happening}
    (hopen : e ≠ .changed (.forget uri)) {latest : Int}
    (hlatest : (w.after hs).resolver.latest? uri = some latest)
    (hsame : ((w.after hs).step e).1.resolver.latest? uri = some latest) :
    (∃ id run, ((w.after hs).step e).1.runs.get? id = some run ∧ run.request.uri = uri ∧
        run.request.version = latest) ∨
      ∃ kept, ((w.after hs).step e).1.resolver.resolution? uri = some kept ∧
        kept.version = latest := by
  rcases kept_step h.le hopen with ⟨-, hkept⟩ | ⟨-, -, -, -, res, -, -, -, -, hl, -, hkept⟩
  · rcases h.pending latest hlatest with ⟨id, run, hrun, hu, hv⟩ | ⟨kept, hold, hv⟩
    · by_cases hown : ∃ editor expired, e = .resumed id editor expired
      · obtain ⟨editor, expired, rfl⟩ := hown
        cases hmove : ((w.after hs).resolver.step editor run expired).move with
        | next run' =>
            have hreq := (Resolver.comes_step _ _ _ _).request_of_next hmove
            rw [step_resumed_next hrun hmove]
            exact .inl ⟨id, run', by simp, hreq ▸ hu, hreq ▸ hv⟩
        | done answer =>
            rcases (Resolver.comes_step _ _ _ _).answer_cases hmove with ⟨-, res, rfl⟩ | ⟨hlate, -⟩
            · obtain ⟨hversion, hkept⟩ := Resolver.resolution?_of_ready hmove fun kept hkept => by
                obtain ⟨latest', hl, hle⟩ := h.le kept (hu ▸ hkept)
                rw [hlatest, Option.some.injEq] at hl
                rw [hv, hl]
                exact hle
              rw [resolver_step_resumed hrun]
              exact .inr ⟨res, hu ▸ hkept, hversion.trans hv⟩
            · exact absurd (by rw [hu, hlatest, hv]) hlate
      · have hother := (step_of_other (h.faithful.numbered id run hrun) fun editor expired he =>
          hown ⟨editor, expired, he⟩).1
        exact .inl ⟨id, run, hother.trans hrun, hu, hv⟩
    · exact .inr ⟨kept, hkept.trans hold, hv⟩
  · rw [hlatest, Option.some.injEq] at hl
    exact .inr ⟨res, hkept, hl.symm⟩

/-- Every happening keeps the invariant, as long as the document stays open. -/
theorem completing_step (hinj : ∀ a b, sheets a → sheets b → digest a = digest b → a = b)
    (h : Completing x sheets uri w hs) {e : Happening} (hfit : e.Fits x sheets)
    (hopen : e ≠ .changed (.forget uri)) (hrecord : ∀ version, e ≠ .changed (.record uri version)) :
    Completing x sheets uri w (hs ++ [e]) := by
  have hafter : w.after (hs ++ [e]) = ((w.after hs).step e).1 := by
    rw [after_append, after_cons, after_nil]
  have hevents : w.events (hs ++ [e]) = w.events hs ++ ((w.after hs).step e).2 := by
    rw [events_append, events, events, List.append_nil]
  have hkept := kept_step h.le hopen
  constructor
  · rw [hafter]
    exact faithful_step h.faithful hfit
  · rw [hafter]
    exact staged_step h.staged e
  · intro id run job hrun hjob
    rw [hafter] at hrun
    exact read_step h e hrun hjob
  · rw [hafter, hevents, results_append]
    rcases hkept with ⟨hnone, hsame⟩ | ⟨id, -, -, -, res, -, -, -, -, -, hres, hnew⟩
    · rw [hnone, List.append_nil, hsame, h.kept]
    · rw [hres, hnew, List.getLast?_concat, Option.map_some]
  · intro id res hmem
    rw [hevents, results_append, List.mem_append] at hmem
    rcases hmem with hmem | hmem
    · obtain ⟨q, sought, hreads, hu, hends⟩ := h.ends id res hmem
      exact ⟨q, sought, hreads.append [e], hu, hends.append [e]⟩
    · rcases hkept with ⟨hnone, -⟩ | ⟨id', editor, expired, run, res', rfl, hrun, hmove, hu, -, hres, -⟩
      · rw [hnone] at hmem
        cases hmem
      · rw [hres, List.mem_singleton, Prod.mk.injEq] at hmem
        obtain ⟨rfl, rfl⟩ := hmem
        obtain ⟨sought, hreads, hends⟩ := endsWith_of_ready hinj h hfit hrun hmove
        exact ⟨run.request, sought, hreads, hu, hends⟩
  · intro kept hk
    rw [hafter] at hk ⊢
    have hold : ∃ latest, (w.after hs).resolver.latest? uri = some latest ∧ kept.version ≤ latest := by
      rcases hkept with ⟨-, hold⟩ | ⟨-, -, -, -, res, -, -, -, -, hres, -, hnew⟩
      · exact h.le kept (hold.symm.trans hk)
      · rw [hnew, Option.some.injEq] at hk
        exact ⟨res.version, hres, hk ▸ Int.le_refl _⟩
    obtain ⟨latest, hl, hle⟩ := hold
    rcases latest?_step_cases hopen hrecord with hsame | ⟨q, -, -, -, -, -, hnew, hrise⟩
    · exact ⟨latest, hsame.trans hl, hle⟩
    · exact ⟨q.version, hnew, Int.le_trans hle (hrise latest hl)⟩
  · intro latest hl
    rw [hafter] at hl ⊢
    rcases latest?_step_cases hopen hrecord with hsame | ⟨q, run, rfl, hu, rfl, hrun, hnew, hle⟩
    · exact pending_step h hopen (hsame.symm.trans hl) hl
    · rw [hnew, Option.some.injEq] at hl
      exact .inl ⟨_, run, hrun, hu, hl⟩

theorem completing_after (hinj : ∀ a b, sheets a → sheets b → digest a = digest b → a = b)
    {r : Resolver} (hr : r.Fresh x) {hs : List Happening} (hfit : ∀ h ∈ hs, h.Fits x sheets)
    (hopen : .changed (.forget uri) ∉ hs)
    (hrecord : ∀ version, .changed (.record uri version) ∉ hs) :
    Completing x sheets uri (idle r) hs := by
  induction hs using List.reverseRecOn with
  | nil => exact completing_idle hr uri
  | append_singleton hs e ih =>
      simp only [List.mem_append, List.mem_singleton, not_or] at hopen hrecord
      refine completing_step hinj (ih (fun h hh => hfit h (List.mem_append_left _ hh)) hopen.1
        fun v => (hrecord v).1) ?_ (Ne.symm hopen.2) fun v => Ne.symm (hrecord v).2
      exact hfit e (List.mem_append_right _ (List.mem_singleton_self e))

end Traffic

/-! ### A sample -/

namespace Sample

/-- An extractor that takes a stylesheet for the name of a color. -/
def painter : Extractor := ⟨fun css => ⟨0, .ok ⟨[⟨[".a"], [⟨"color", css⟩]⟩]⟩⟩⟩

/-- An editor that has the given stylesheet. -/
def reading (css : String) : Editor := { editor 1 with read := fun _ => .ok css }

/-- What the document comes to with the given color. -/
def painted (css : String) : Resolution :=
  { resolution 1 with annotations := [⟨⟨"a", 17, 25, 1⟩, [⟨[".a"], [⟨"color", css⟩]⟩]⟩] }

/-- Two runs: the first one to begin reads first, and ends last. -/
def crossing : List Happening :=
  .asked (request 1) :: List.replicate 3 (.resumed 0 (reading "red") false) ++
    .asked (request 1) :: List.replicate 4 (.resumed 1 (reading "blue") false) ++
    [.resumed 0 (reading "blue") false]

end Sample

namespace Traffic

variable {x : Extractor} {sheets : String → Prop} {uri : Uri} {w : Traffic} {hs : List Happening}

/-! ### When all runs have ended -/

/-- What is kept in the end is what the run that ended last read for the latest version. -/
theorem Completing.exists_last (h : Completing x sheets uri w hs)
    (hended : ∀ id run, (w.after hs).runs.get? id = some run → run.request.uri ≠ uri) {version : Int}
    (hlatest : (w.after hs).resolver.latest? uri = some version) :
    ∃ id q sought res, w.Reads hs id q sought ∧ q.uri = uri ∧ q.version = version ∧
      EndsWith x hs id q sought res ∧ (results uri (w.events hs)).getLast? = some (id, res) ∧
      (w.after hs).resolver.resolution? uri = some res := by
  rcases h.pending version hlatest with ⟨id, run, hrun, hu, -⟩ | ⟨kept, hkept, hv⟩
  · exact absurd hu (hended id run hrun)
  · have hlast := h.kept
    rw [hkept, eq_comm, Option.map_eq_some_iff] at hlast
    obtain ⟨⟨id, res⟩, hlast, rfl⟩ := hlast
    obtain ⟨q, sought, hreads, hu, hends⟩ := h.ends id res (List.mem_of_getLast? hlast)
    exact ⟨id, q, sought, res, hreads, hu, hends.version_eq.symm.trans hv, hends, hlast, hkept⟩

theorem latest?_of_fresh {r : Resolver} (hr : r.Fresh x) (uri : Uri) (hs : List Happening) :
    ((idle r).after hs).resolver.latest? uri = (sinceForget uri hs).max? := by
  have hnone : (idle r).resolver.latest? uri = ([] : List Int).max? := by cases hr <;> rfl
  exact latest?_after hnone hs

/-- When all runs for the document have ended, what is kept of it is of the greatest version that was
asked for, and of the run that ended last: what this run found when it read its stylesheet calls for
it. -/
theorem kept_of_last (hinj : ∀ a b, sheets a → sheets b → digest a = digest b → a = b)
    {r : Resolver} (hr : r.Fresh x) {hs : List Happening} (hfit : ∀ h ∈ hs, h.Fits x sheets)
    (hopen : .changed (.forget uri) ∉ hs) (hrecord : ∀ version, .changed (.record uri version) ∉ hs)
    (hended : ∀ id run, ((idle r).after hs).runs.get? id = some run → run.request.uri ≠ uri)
    {version : Int} (hgreatest : (sinceForget uri hs).max? = some version) :
    ∃ id q sought res, (idle r).Reads hs id q sought ∧ q.uri = uri ∧ q.version = version ∧
      EndsWith x hs id q sought res ∧
      (results uri ((idle r).events hs)).getLast? = some (id, res) ∧
      ((idle r).after hs).resolver.resolution? uri = some res :=
  (completing_after hinj hr hfit hopen hrecord).exists_last hended
    ((latest?_of_fresh hr uri hs).trans hgreatest)

open Sample in
/-- Two runs for one version: the first one reads its stylesheet before it is edited, and ends after the
second one, which has read the edited one.  What the first one read is kept. -/
theorem kept_of_first :
    ∃ q sought, (idle (.ofOptions painter {})).Reads crossing 0 q sought ∧
      EndsWith painter crossing 0 q sought (painted "red") ∧
      ((idle (.ofOptions painter {})).after crossing).resolver.resolution? Sample.uri =
        some (painted "red") := by
  have hfit : ∀ h ∈ crossing, Happening.Fits painter (fun css => css = "red" ∨ css = "blue") h := by
    simp [crossing, Happening.Fits, reading]
  have hinj : ∀ a b, (a = "red" ∨ a = "blue") → (b = "red" ∨ b = "blue") → digest a = digest b →
      a = b := by
    have hne : digest "red" ≠ digest "blue" := by decide +kernel
    rintro a b (rfl | rfl) (rfl | rfl) hd
    · rfl
    · exact absurd hd hne
    · exact absurd hd.symm hne
    · rfl
  have hended : ∀ id run, ((idle (.ofOptions painter {})).after crossing).runs.get? id = some run →
      run.request.uri ≠ Sample.uri := by
    have hnone : ((idle (.ofOptions painter {})).after crossing).runs.size = 0 := by cbv
    intro id run h
    rw [Table.get?_of_size_zero hnone] at h
    cases h
  obtain ⟨id, q, sought, res, hreads, -, -, hends, hlast, hkept⟩ :=
    kept_of_last hinj (.ofOptions {}) hfit (by simp [crossing]) (by simp [crossing]) hended
      (show (sinceForget Sample.uri crossing).max? = some 1 by decide)
  have hfirst : (results Sample.uri ((idle (.ofOptions painter {})).events crossing)).getLast? =
      some (0, painted "red") := by cbv
  rw [hfirst, Option.some.injEq, Prod.mk.injEq] at hlast
  obtain ⟨rfl, rfl⟩ := hlast
  exact ⟨q, sought, hreads, hends, hkept⟩

/-- If whatever the runs of the greatest version read calls for one resolution, this one is kept in the
end, in whichever order they end. -/
theorem kept_of_agreement (hinj : ∀ a b, sheets a → sheets b → digest a = digest b → a = b)
    {r : Resolver} (hr : r.Fresh x) {hs : List Happening} (hfit : ∀ h ∈ hs, h.Fits x sheets)
    (hopen : .changed (.forget uri) ∉ hs) (hrecord : ∀ version, .changed (.record uri version) ∉ hs)
    (hended : ∀ id run, ((idle r).after hs).runs.get? id = some run → run.request.uri ≠ uri)
    {version : Int} (hgreatest : (sinceForget uri hs).max? = some version) {res : Resolution}
    (hagree : ∀ id q sought res', (idle r).Reads hs id q sought → q.uri = uri → q.version = version →
      EndsWith x hs id q sought res' → res' = res) :
    ((idle r).after hs).resolver.resolution? uri = some res := by
  obtain ⟨id, q, sought, res', hreads, hu, hv, hends, -, hkept⟩ :=
    (completing_after hinj hr hfit hopen hrecord).exists_last hended
      ((latest?_of_fresh hr uri hs).trans hgreatest)
  rw [hkept, hagree id q sought res' hreads hu hv hends]

end Traffic

end ClassLens
