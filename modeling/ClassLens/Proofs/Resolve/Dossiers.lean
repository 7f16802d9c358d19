import ClassLens.Proofs.Resolve.Afresh
import ClassLens.Proofs.Resolve.Reports

/-! # What is known of one document

When the calls on a resolver do not overlap, all that it knows of a document is kept by itself: each
call reads and changes what is known of its own document only.

* `Dealing`: a call on a resolver that is over before the next one begins.
* `Traffic.deal`, `Traffic.shown`: what a dealing leads to, and what others see of it.
* `Dossier`, `Resolver.dossier r uri`: all that a resolver knows of a document.
* `Dossier.deal`, `Dossier.reply`, `Dossier.reports`: what a dealing makes of the dossier of its
  document, what the asker gets, and what is reported, given what each request comes to.
* `Traffic.Underway w editor id run res`, `Traffic.Concluded w hs res`: a run whose request comes to
  `res`, and happenings that conclude a request with `res`.

**Main statements.** `Traffic.concludes_of_alone`: a run that is left alone ends with what its request
comes to afresh, whatever the cache holds.  `Traffic.dossier_deal`, `Traffic.reply_eq`,
`Traffic.reports_eq`: a dealing does to the resolver what it does to the dossier of its document. -/

namespace ClassLens

variable {x : Extractor} {sheets : String → Prop}

/-! ### Dealings -/

/-- A call on a resolver that is over before the next one begins. No extraction takes too long. -/
inductive Dealing where
  /-- The editor is the same all the while. -/
  | resolve (q : Request) (editor : Editor)
  | record (uri : Uri) (version : Int)
  | forget (uri : Uri)

namespace Dealing

/-- The document that a dealing is about. -/
def uri : Dealing → Uri
  | resolve q _ => q.uri
  | record uri _ => uri
  | forget uri => uri

/-- The happenings of a dealing; a run has ended when it has gone on four times. -/
def happenings (id : Nat) : Dealing → List Happening
  | resolve q editor => .asked q :: List.replicate 4 (.resumed id editor false)
  | record uri version => [.changed (.record uri version)]
  | forget uri => [.changed (.forget uri)]

/-- The editor of a dealing reads only the given stylesheets. -/
def Reads (sheets : String → Prop) : Dealing → Prop
  | resolve _ editor => ∀ path css, editor.read path = .ok css → sheets css
  | _ => True

theorem fits_happenings {d : Dealing} (hd : d.Reads sheets) (id : Nat) :
    ∀ h ∈ d.happenings id, h.Fits x sheets := by
  intro h hh
  cases d with
  | resolve q editor =>
      rcases List.mem_cons.mp hh with rfl | hh
      · trivial
      · rw [List.eq_of_mem_replicate hh]
        exact hd
  | record uri version =>
      rw [List.mem_singleton.mp hh]
      trivial
  | forget uri =>
      rw [List.mem_singleton.mp hh]
      trivial

end Dealing

/-- What the one who asked gets. -/
inductive Reply where
  | answered (answers : List Answer)
  /-- Whether a version counts as asked for, no later one being known. -/
  | recorded (accepted : Bool)
  | forgotten
  deriving DecidableEq

/-- The answer that a run is given. -/
def Event.answer? : Event → Option Answer
  | .answered _ answer => some answer
  | _ => none

/-- The answers that are given, in order. -/
def answers (events : List Event) : List Answer := events.filterMap Event.answer?

@[simp] theorem answers_append (events events' : List Event) :
    answers (events ++ events') = answers events ++ answers events' :=
  List.filterMap_append

@[simp] theorem reports_append (events events' : List Event) :
    reports (events ++ events') = reports events ++ reports events' :=
  List.filterMap_append

theorem answers_eventsOf (uri : Uri) (step : RunStep) : answers (Session.eventsOf uri step) = [] := by
  unfold Session.eventsOf answers
  cases step.report <;> cases step.extracts <;> rfl

theorem reports_eventsOf (uri : Uri) (step : RunStep) :
    reports (Session.eventsOf uri step) = (step.report.map fun e => (uri, e)).toList := by
  unfold Session.eventsOf reports
  cases step.report <;> cases step.extracts <;> rfl

namespace Traffic

/-- What a dealing leads to. -/
def deal (w : Traffic) (d : Dealing) : Traffic := w.after (d.happenings w.next)

/-- What others see of a dealing. -/
def shown (w : Traffic) (d : Dealing) : List Event := w.events (d.happenings w.next)

/-- What the one who asked gets. -/
def reply (w : Traffic) : Dealing → Reply
  | .resolve q editor => .answered (answers (w.shown (.resolve q editor)))
  | .record uri version => .recorded (w.resolver.refusedBy? uri version).isNone
  | .forget _ => .forgotten

theorem faithful_deal {w : Traffic} (hw : w.Faithful x sheets) {d : Dealing} (hd : d.Reads sheets) :
    (w.deal d).Faithful x sheets :=
  faithful_after hw (d.fits_happenings hd _)

end Traffic

/-! ### Dossiers -/

/-- All that a resolver knows of a document. -/
structure Dossier where
  latest : Option Int
  kept : Option Resolution
  noted : List Failure

namespace Dossier

/-- Nothing is known. -/
def blank : Dossier := ⟨none, none, []⟩

/-- The later version that refuses a request. -/
def refusedBy? (f : Dossier) (version : Int) : Option Int := f.latest.filter (version < ·)

/-- A version is asked for. -/
def begin (f : Dossier) (version : Int) : Dossier :=
  { f with latest := some (f.latest.elim version (max version)) }

/-- A resolution is kept, unless one of a later version is, and its failure or its success is noted. -/
def conclude (f : Dossier) (res : Resolution) : Dossier where
  latest := f.latest
  kept := if f.kept.any (res.version < ·.version) then f.kept else some res
  noted :=
    match res.failure with
    | none => []
    | some e => if f.noted.any e.same then f.noted else f.noted ++ [e]

/-- The failure of a resolution, if none of its cause is noted. -/
def report? (f : Dossier) (res : Resolution) : Option Failure :=
  res.failure.filter fun e => !f.noted.any e.same

variable (fresh : Editor → Request → Resolution)

/-- What a dealing makes of the dossier of its document, if requests come to `fresh`. -/
def deal (f : Dossier) : Dealing → Dossier
  | .resolve q editor =>
    if (f.refusedBy? q.version).isSome then f else (f.begin q.version).conclude (fresh editor q)
  | .record _ version => f.begin version
  | .forget _ => blank

/-- What the one who asked gets. -/
def reply (f : Dossier) : Dealing → Reply
  | .resolve q editor =>
    match f.refusedBy? q.version with
    | some latest => .answered [.stale q.version latest]
    | none => .answered [.ready (fresh editor q)]
  | .record _ version => .recorded (f.refusedBy? version).isNone
  | .forget _ => .forgotten

/-- What is reported. -/
def reports (f : Dossier) : Dealing → List (Uri × Failure)
  | .resolve q editor =>
    if (f.refusedBy? q.version).isSome then []
    else ((f.report? (fresh editor q)).map fun e => (q.uri, e)).toList
  | _ => []

end Dossier

namespace Resolver

variable {r r' : Resolver} {uri : Uri} {res : Resolution}

/-- All that the resolver knows of a document. -/
def dossier (r : Resolver) (uri : Uri) : Dossier := ⟨r.latest? uri, r.resolution? uri, r.noted uri⟩

theorem refusedBy?_dossier (r : Resolver) (uri : Uri) (version : Int) :
    (r.dossier uri).refusedBy? version = r.refusedBy? uri version := rfl

/-- The cache is not about documents. -/
theorem dossier_cache (r : Resolver) (cache : Cache) (uri : Uri) :
    { r with cache }.dossier uri = r.dossier uri := rfl

theorem dossier_begin (r : Resolver) (uri : Uri) (version : Int) :
    (r.begin uri version).dossier uri = (r.dossier uri).begin version := by
  simp only [dossier, Dossier.begin, latest?_begin, resolution?_begin,
    noted_congr (ledger_begin r uri version)]

theorem dossier_begin_of_ne {other : Uri} (h : other ≠ uri) (version : Int) :
    (r.begin other version).dossier uri = r.dossier uri := by
  simp only [dossier, latest?_begin_of_ne h, resolution?_begin,
    noted_congr (ledger_begin r other version)]

theorem dossier_forget (r : Resolver) (uri : Uri) : (r.forget uri).dossier uri = .blank := by
  simp [dossier, Dossier.blank, forget, latest?, resolution?, noted, Ledger.clear]

theorem dossier_forget_of_ne {other : Uri} (h : other ≠ uri) :
    (r.forget other).dossier uri = r.dossier uri := by
  simp [dossier, forget, latest?, resolution?, noted, Ledger.clear, h]

theorem uri_afresh (r : Resolver) (editor : Editor) (q : Request) :
    (r.afresh editor q).uri = q.uri := Request.uri_outcome _ _ _

/-- A run that ends with a resolution does to the dossier of its document what this calls for. -/
structure Concludes (r : Resolver) (res : Resolution) (r' : Resolver) : Prop where
  own : r'.dossier res.uri = (r.dossier res.uri).conclude res
  others : ∀ other ≠ res.uri, r'.dossier other = r.dossier other

theorem resolution?_store_eq (r : Resolver) (res : Resolution) :
    (r.store res).resolution? res.uri =
      if (r.resolution? res.uri).any (res.version < ·.version) then r.resolution? res.uri
      else some res := by
  unfold store
  cases hkept : r.resolution? res.uri with
  | none => simp [resolution?]
  | some kept =>
      by_cases hle : kept.version ≤ res.version
      · simp [resolution?, hle, Int.not_lt.mpr hle]
      · simp [hkept, hle, Int.not_le.mp hle]

theorem noted_noteFailure_eq (r : Resolver) (res : Resolution) :
    (r.noteFailure res.uri res.failure).1.noted res.uri = ((r.dossier res.uri).conclude res).noted := by
  unfold Dossier.conclude
  cases res.failure with
  | none => exact noted_noteFailure_none r res.uri
  | some e =>
      cases hknown : (r.noted res.uri).any e.same with
      | true =>
          rw [(noteFailure_of_known hknown).2]
          simp [dossier, hknown]
      | false =>
          rw [(noteFailure_of_new hknown).2]
          simp [dossier, hknown]

theorem report_noteFailure_eq (r : Resolver) (res : Resolution) :
    (r.noteFailure res.uri res.failure).2 = (r.dossier res.uri).report? res := by
  unfold Dossier.report?
  cases res.failure with
  | none => rfl
  | some e =>
      rw [Option.filter_some]
      cases hknown : (r.noted res.uri).any e.same with
      | true => rw [(noteFailure_of_known hknown).1, if_neg (by simp [dossier, hknown])]
      | false => rw [(noteFailure_of_new hknown).1, if_pos (by simp [dossier, hknown])]

/-- A run that goes on changes nothing but the cache. -/
theorem Comes.cache_of_next {run run' : Run} {step : RunStep} (h : Comes r run step)
    (hmove : step.move = .next run') :
    (∃ cache, step.resolver = { r with cache }) ∧ step.report = none := by
  cases h with
  | on cache => exact ⟨⟨cache, rfl⟩, rfl⟩
  | overtaken => cases hmove
  | ended => cases hmove

/-- The end of a run, on the dossiers. -/
theorem Comes.concludes {run : Run} {step : RunStep} (h : Comes r run step)
    (hmove : step.move = .done (.ready res)) :
    res.uri = run.request.uri ∧ r.Concludes res step.resolver ∧
      step.report = (r.dossier res.uri).report? res := by
  have hnoted := h.noted hmove
  have hframe := h.frame.2.2.2.2
  cases h with
  | on => cases hmove
  | overtaken => cases hmove
  | ended cache res' current huri hversion =>
      simp only [Move.done.injEq, Answer.ready.injEq] at hmove
      subst hmove
      rw [← huri] at hnoted hframe ⊢
      have hlatest : ∀ u, (({ r with cache }.noteFailure res'.uri res'.failure).1.store res').latest? u =
          r.latest? u := fun u => by rw [latest?, hframe, latest?]
      refine ⟨rfl, ⟨?_, fun other hother => ?_⟩, hnoted.1.trans (report_noteFailure_eq r res')⟩
      · simp only [dossier, Dossier.conclude, hlatest, resolution?_store_eq, resolution?_noteFailure]
        congr 1
        rw [hnoted.2, noted_noteFailure_eq]
        rfl
      · have hkept : (({ r with cache }.noteFailure res'.uri res'.failure).1.store res').resolution? other =
            r.resolution? other := by
          rcases resolution?_store ({ r with cache }.noteFailure res'.uri res'.failure).1 res' other with
            heq | ⟨hu, -⟩
          · exact heq.trans (resolution?_noteFailure r cache _ other _)
          · exact absurd hu.symm hother
        simp only [dossier, hlatest, hkept, hnoted.2, noted_noteFailure_of_ne (Ne.symm hother)]

end Resolver

/-! ### A call that is left alone -/

namespace Traffic

variable {w : Traffic} {editor : Editor} {q : Request} {id : Nat}

/-- A run that is not there does not go on. -/
theorem after_replicate_of_none (h : w.runs.get? id = none) (editor : Editor) (n : Nat) :
    w.after (List.replicate n (.resumed id editor false)) = w ∧
      w.events (List.replicate n (.resumed id editor false)) = [] := by
  induction n with
  | zero => exact ⟨rfl, rfl⟩
  | succ n ih =>
      rw [List.replicate_succ, after_cons, events, step_resumed_none h]
      exact ⟨ih.1, by rw [ih.2]; rfl⟩

/-- The run with the number is on course and of the latest version; its request comes to `res`. -/
structure Underway (w : Traffic) (editor : Editor) (id : Nat) (run : Run) (res : Resolution) : Prop where
  runs : w.runs.get? id = some run
  latest : w.resolver.latest? run.request.uri = some run.request.version
  staged : run.Staged
  course : run.OnCourse w.resolver editor
  outcome : res = w.resolver.afresh editor run.request

variable {run run' : Run} {res : Resolution}

/-- Some happenings conclude a request: the dossiers change as its resolution says, the asker gets it, and
its failure is reported if this is due. -/
structure Concluded (w : Traffic) (hs : List Happening) (res : Resolution) : Prop where
  concludes : w.resolver.Concludes res (w.after hs).resolver
  answers : answers (w.events hs) = [.ready res]
  reports : reports (w.events hs) =
    (((w.resolver.dossier res.uri).report? res).map fun e => (res.uri, e)).toList

/-- A run that is not at its end goes on with its request. -/
theorem Underway.next (h : w.Underway editor id run res)
    (hmove : (w.resolver.step editor run false).move = .next run') :
    (w.step (.resumed id editor false)).1.Underway editor id run' res := by
  obtain ⟨hx, ho, hs, -, hl⟩ := (Resolver.comes_step w.resolver editor run false).frame
  have hreq := (Resolver.comes_step w.resolver editor run false).request_of_next hmove
  rw [step_resumed_next h.runs hmove]
  constructor
  · exact (Table.get?_insert _ _ _ _).trans (if_pos rfl)
  · rw [hreq]
    exact (Resolver.latest?_step _ _ _ _ _).trans h.latest
  · exact Resolver.staged_of_next h.staged hmove
  · exact Resolver.onCourse_congr ho hs (Resolver.onCourse_of_next h.course hmove)
  · rw [h.outcome, hreq]
    exact (Resolver.afresh_congr hx ho hs _ _).symm

/-- A run that ends has found what its request comes to afresh, whatever the cache holds. -/
theorem Underway.found (hinj : ∀ a b, sheets a → sheets b → digest a = digest b → a = b)
    (hread : ∀ path css, editor.read path = .ok css → sheets css) (hw : w.Faithful x sheets)
    (h : w.Underway editor id run res) {found : Resolution}
    (hmove : (w.resolver.step editor run false).move = .done (.ready found)) : found = res := by
  have hfaithful : run.Faithful w.resolver.extractor sheets := by
    rw [hw.resolver.extractor]
    exact hw.runs id run h.runs
  rw [h.outcome]
  refine Resolver.afresh_of_onCourse hfaithful h.staged h.course (fun _ job hjob => ?_) hmove
  obtain ⟨-, -, -, hcss, -⟩ := Resolver.eq_of_seek_ok hjob
  rw [hw.resolver.extractor]
  exact Cache.recalls_of_holds hinj hw.resolver.cache (hread _ _ hcss)

/-- A run that ends concludes its request, and what is left of the happenings does nothing. -/
theorem Underway.concluded (h : w.Underway editor id run res)
    (hmove : (w.resolver.step editor run false).move = .done (.ready res)) (n : Nat) :
    w.Concluded (.resumed id editor false :: List.replicate n (.resumed id editor false)) res := by
  obtain ⟨huri, hconcludes, hreport⟩ :=
    (Resolver.comes_step w.resolver editor run false).concludes hmove
  have hgone : (w.step (.resumed id editor false)).1.runs.get? id = none := by
    rw [step_resumed_done h.runs hmove]
    simp
  obtain ⟨hafter, hevents⟩ := after_replicate_of_none hgone editor n
  rw [step_resumed_done h.runs hmove] at hafter hevents
  constructor
  · rw [after_cons, step_resumed_done h.runs hmove, hafter]
    exact hconcludes
  · rw [events, step_resumed_done h.runs hmove, hevents, List.append_nil, answers_append,
      answers_eventsOf]
    rfl
  · rw [events, step_resumed_done h.runs hmove, hevents, List.append_nil, reports_append,
      reports_eventsOf, hreport, huri]
    simp [reports, Event.report?]

/-- A run that goes on leaves what is known of documents and what is reported to its end. -/
theorem Concluded.after_next (hrun : w.runs.get? id = some run)
    (hmove : (w.resolver.step editor run false).move = .next run') {hs : List Happening}
    (h : (w.step (.resumed id editor false)).1.Concluded hs res) :
    w.Concluded (.resumed id editor false :: hs) res := by
  have hcomes := Resolver.comes_step w.resolver editor run false
  obtain ⟨⟨cache, hcache⟩, hreports⟩ := hcomes.cache_of_next hmove
  have hdossier : ∀ u, (w.resolver.step editor run false).resolver.dossier u = w.resolver.dossier u :=
    fun u => by rw [hcache, Resolver.dossier_cache]
  obtain ⟨⟨hown, hothers⟩, hanswers, hreported⟩ := h
  rw [step_resumed_next hrun hmove] at hown hothers hanswers hreported
  rw [hdossier] at hown hreported
  constructor
  · rw [after_cons, step_resumed_next hrun hmove]
    exact ⟨hown, fun other hother => (hothers other hother).trans (hdossier other)⟩
  · rw [events, step_resumed_next hrun hmove, answers_append, answers_eventsOf, List.nil_append]
    exact hanswers
  · rw [events, step_resumed_next hrun hmove, reports_append, reports_eventsOf, hreports]
    exact hreported

/-- A run that is on course and of the latest version ends, if it is left alone, with what its request
comes to afresh. -/
theorem concludes_of_alone (hinj : ∀ a b, sheets a → sheets b → digest a = digest b → a = b)
    (hread : ∀ path css, editor.read path = .ok css → sheets css) (hw : w.Faithful x sheets)
    (h : w.Underway editor id run res) {n : Nat} (hn : run.stops ≤ n) :
    w.Concluded (List.replicate n (.resumed id editor false)) res := by
  induction n generalizing w run with
  | zero =>
      unfold Run.stops at hn
      split at hn <;> omega
  | succ n ih =>
      rw [List.replicate_succ]
      cases hmove : (w.resolver.step editor run false).move with
      | done answer =>
          obtain ⟨-, found, rfl⟩ | ⟨hlate, -⟩ :=
            (Resolver.comes_step w.resolver editor run false).answer_cases hmove
          · obtain rfl := h.found hinj hread hw hmove
            exact h.concluded hmove n
          · exact absurd h.latest hlate
      | next run' =>
          have hlt := Resolver.stops_of_next hmove
          have hw' := faithful_step hw (h := .resumed id editor false) hread
          exact (ih hw' (h.next hmove) (by omega)).after_next h.runs hmove

/-- A request that is refused leaves everything as it is. -/
theorem deal_of_refused (editor : Editor) (hn : w.Numbered) {latest : Int}
    (href : w.resolver.refusedBy? q.uri q.version = some latest) :
    (w.deal (.resolve q editor)).resolver = w.resolver ∧
      w.shown (.resolve q editor) = [.answered w.next (.stale q.version latest)] := by
  have hgone : (w.step (.asked q)).1.runs.get? w.next = none := by
    rw [step_asked_refused href]
    cases hg : w.runs.get? w.next with
    | none => rfl
    | some run => exact absurd (hn _ _ hg) (Nat.lt_irrefl _)
  obtain ⟨hafter, hevents⟩ := after_replicate_of_none hgone editor 4
  unfold deal shown Dealing.happenings
  rw [after_cons, events, hafter, hevents, step_asked_refused href]
  exact ⟨rfl, rfl⟩

/-- A request that is not refused is answered with what it comes to afresh. -/
theorem deal_of_granted (hinj : ∀ a b, sheets a → sheets b → digest a = digest b → a = b)
    (hw : w.Faithful x sheets) (hread : ∀ path css, editor.read path = .ok css → sheets css)
    (hgranted : w.resolver.refusedBy? q.uri q.version = none) {res : Resolution}
    (hres : res = w.resolver.afresh editor q) :
    (w.resolver.begin q.uri q.version).Concludes res (w.deal (.resolve q editor)).resolver ∧
      answers (w.shown (.resolve q editor)) = [.ready res] ∧
      reports (w.shown (.resolve q editor)) =
        (((w.resolver.dossier q.uri).report? res).map fun e => (q.uri, e)).toList := by
  have huri : res.uri = q.uri := by
    rw [hres]
    exact Resolver.uri_afresh _ _ _
  have hstep := step_asked hgranted
  have hw' := faithful_step hw (h := .asked q) trivial
  have hfresh : res = (w.step (.asked q)).1.resolver.afresh editor q := by
    rw [hres, hstep]
    exact (Resolver.afresh_congr (Resolver.extractor_begin _ _ _) (Resolver.options_begin _ _ _)
      (Resolver.scanner_begin _ _ _) _ _).symm
  have hrun : (w.step (.asked q)).1.runs.get? w.next =
      some ⟨q, ⟨q.uri.shortName, q.version, .idle, 0⟩, .begun⟩ := by
    rw [hstep]
    simp
  have hunderway : (w.step (.asked q)).1.Underway editor w.next
      ⟨q, ⟨q.uri.shortName, q.version, .idle, 0⟩, .begun⟩ res := by
    refine ⟨hrun, ?_, rfl, trivial, hfresh⟩
    rw [hstep]
    exact Resolver.latest?_begin_self hgranted
  obtain ⟨hconcludes, hanswers, hreports⟩ :=
    concludes_of_alone hinj hread hw' hunderway (Nat.le_refl 4)
  have hshown : w.shown (.resolve q editor) =
      (w.step (.asked q)).1.events (List.replicate 4 (.resumed w.next editor false)) := by
    unfold shown Dealing.happenings
    rw [events, hstep, List.nil_append]
  have hnoted : ∀ f : Dossier, (f.begin q.version).report? res = f.report? res := fun f => rfl
  rw [hshown]
  refine ⟨?_, hanswers, ?_⟩
  · rw [hstep] at hconcludes
    unfold deal Dealing.happenings
    rw [after_cons, hstep]
    exact hconcludes
  · rw [hreports, huri, hstep]
    simp only [Resolver.dossier_begin, hnoted]

/-! ### Dealings on dossiers -/

variable {d : Dealing}

/-- What is set of the resolver stays in each happening of a dealing. -/
theorem frame_step_of_mem {h : Happening} {n : Nat} (hmem : h ∈ d.happenings n) :
    (w.step h).1.resolver.extractor = w.resolver.extractor ∧
      (w.step h).1.resolver.options = w.resolver.options ∧
      (w.step h).1.resolver.scanner = w.resolver.scanner := by
  cases h with
  | asked q =>
      rw [resolver_step_asked]
      simp
  | resumed id editor expired =>
      cases hrun : w.runs.get? id with
      | none =>
          rw [step_resumed_none hrun]
          exact ⟨rfl, rfl, rfl⟩
      | some run =>
          rw [resolver_step_resumed hrun]
          obtain ⟨hx, ho, hs, -, -⟩ := (Resolver.comes_step w.resolver editor run expired).frame
          exact ⟨hx, ho, hs⟩
  | changed change =>
      cases d with
      | resolve q editor => simp [Dealing.happenings] at hmem
      | record uri version =>
          simp only [Dealing.happenings, List.mem_singleton, Happening.changed.injEq] at hmem
          subst hmem
          simp [step, Resolver.changed]
      | forget uri =>
          simp only [Dealing.happenings, List.mem_singleton, Happening.changed.injEq] at hmem
          subst hmem
          exact ⟨rfl, rfl, rfl⟩

theorem frame_after_happenings {hs : List Happening} {n : Nat} (hsub : hs ⊆ d.happenings n) :
    (w.after hs).resolver.extractor = w.resolver.extractor ∧
      (w.after hs).resolver.options = w.resolver.options ∧
      (w.after hs).resolver.scanner = w.resolver.scanner := by
  induction hs generalizing w with
  | nil => exact ⟨rfl, rfl, rfl⟩
  | cons h hs ih =>
      rw [List.cons_subset] at hsub
      obtain ⟨hx, ho, hs⟩ := ih (w := (w.step h).1) hsub.2
      obtain ⟨hx', ho', hs'⟩ := frame_step_of_mem (w := w) hsub.1
      exact ⟨hx.trans hx', ho.trans ho', hs.trans hs'⟩

/-- What requests come to does not change with a dealing. -/
theorem afresh_deal (w : Traffic) (d : Dealing) :
    (w.deal d).resolver.afresh = w.resolver.afresh := by
  obtain ⟨hx, ho, hs⟩ := frame_after_happenings (w := w) (List.Subset.refl (d.happenings w.next))
  funext editor q
  exact Resolver.afresh_congr hx ho hs editor q

theorem numbered_deal (hn : w.Numbered) (d : Dealing) : (w.deal d).Numbered :=
  numbered_after hn (d.happenings w.next)

/-- A dealing does to the dossier of its document what this and the request call for. -/
theorem dossier_deal (hinj : ∀ a b, sheets a → sheets b → digest a = digest b → a = b)
    (hw : w.Faithful x sheets) (hn : w.Numbered) (hd : d.Reads sheets) :
    (w.deal d).resolver.dossier d.uri = (w.resolver.dossier d.uri).deal w.resolver.afresh d := by
  cases d with
  | record uri version => exact Resolver.dossier_begin w.resolver uri version
  | forget uri => exact Resolver.dossier_forget w.resolver uri
  | resolve q editor =>
      cases href : w.resolver.refusedBy? q.uri q.version with
      | some latest =>
          simp only [Dossier.deal, Dealing.uri, Resolver.refusedBy?_dossier, href, Option.isSome_some,
            if_true, (deal_of_refused _ hn href).1]
      | none =>
          have hown := (deal_of_granted hinj hw hd href rfl).1.own
          rw [Resolver.uri_afresh, Resolver.dossier_begin] at hown
          simpa only [Dossier.deal, Dealing.uri, Resolver.refusedBy?_dossier, href, Option.isSome_none,
            Bool.false_eq_true, if_false] using hown

/-- A dealing leaves the dossiers of the other documents as they are. -/
theorem dossier_deal_of_ne (hinj : ∀ a b, sheets a → sheets b → digest a = digest b → a = b)
    (hw : w.Faithful x sheets) (hn : w.Numbered) (hd : d.Reads sheets) {other : Uri}
    (hother : other ≠ d.uri) : (w.deal d).resolver.dossier other = w.resolver.dossier other := by
  cases d with
  | record uri version => exact Resolver.dossier_begin_of_ne (Ne.symm hother) version
  | forget uri => exact Resolver.dossier_forget_of_ne (Ne.symm hother)
  | resolve q editor =>
      cases href : w.resolver.refusedBy? q.uri q.version with
      | some latest => rw [(deal_of_refused _ hn href).1]
      | none =>
          have hothers := (deal_of_granted hinj hw hd href rfl).1.others
          rw [Resolver.uri_afresh] at hothers
          rw [hothers other hother]
          exact Resolver.dossier_begin_of_ne (Ne.symm hother) q.version

/-- The one who asked gets what the dossier and the request call for. -/
theorem reply_eq (hinj : ∀ a b, sheets a → sheets b → digest a = digest b → a = b)
    (hw : w.Faithful x sheets) (hn : w.Numbered) (hd : d.Reads sheets) :
    w.reply d = (w.resolver.dossier d.uri).reply w.resolver.afresh d := by
  cases d with
  | record uri version => rfl
  | forget uri => rfl
  | resolve q editor =>
      cases href : w.resolver.refusedBy? q.uri q.version with
      | some latest =>
          simp only [reply, Dossier.reply, Dealing.uri, Resolver.refusedBy?_dossier, href,
            (deal_of_refused _ hn href).2]
          rfl
      | none =>
          simp only [reply, Dossier.reply, Dealing.uri, Resolver.refusedBy?_dossier, href,
            (deal_of_granted hinj hw hd href rfl).2.1]

/-- What is reported is what the dossier and the request call for. -/
theorem reports_eq (hinj : ∀ a b, sheets a → sheets b → digest a = digest b → a = b)
    (hw : w.Faithful x sheets) (hn : w.Numbered) (hd : d.Reads sheets) :
    reports (w.shown d) = (w.resolver.dossier d.uri).reports w.resolver.afresh d := by
  cases d with
  | record uri version => rfl
  | forget uri => rfl
  | resolve q editor =>
      cases href : w.resolver.refusedBy? q.uri q.version with
      | some latest =>
          simp only [Dossier.reports, Dealing.uri, Resolver.refusedBy?_dossier, href,
            Option.isSome_some, if_true, (deal_of_refused _ hn href).2]
          rfl
      | none =>
          simp only [Dossier.reports, Dealing.uri, Resolver.refusedBy?_dossier, href,
            Option.isSome_none, Bool.false_eq_true, if_false, (deal_of_granted hinj hw hd href rfl).2.2]

end Traffic

end ClassLens
