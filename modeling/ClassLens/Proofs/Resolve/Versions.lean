import ClassLens.Proofs.Resolve.Completion

/-! # Versions and staleness

As long as no document is closed, the table of versions tells exactly which runs are of use: those of
the greatest version that was asked for.

* `Traffic.versions uri hs`: the versions of a document that were asked for in a course.
* `Traffic.Completes w hs id q answer`: with the last happening of the course, the run with number `id`,
  which was asked for in it, is answered.
* `Traffic.Slight w q h`: a step that only raises the latest version of a document, and looks something
  up in the cache or keeps what was extracted there.

**Main statements.** `Traffic.answer_of_completes`: a run is answered with a resolution if no greater
version was asked for before it ended, and is stale otherwise.  `Traffic.slight_of_stale`: every step of
a run that ends stale is slight.  `Traffic.kept_le_after`: what is kept of a document is never replaced
by what is older.  `Traffic.stale_exactly`: all of this. -/

namespace ClassLens

namespace Happening

/-- The version of the document that is asked for. -/
def version? (uri : Uri) : Happening → Option Int
  | .asked q => if q.uri = uri then some q.version else none
  | .changed (.record u version) => if u = uri then some version else none
  | _ => none

/-- Whether the run with the given number goes on. -/
def resumes (id : Nat) : Happening → Bool
  | .resumed id' _ _ => id' == id
  | _ => false

end Happening

namespace Resolver

variable {r : Resolver} {run : Run}

/-- A run is answered with a resolution if its version is the latest, and with the latest otherwise. -/
theorem Comes.answer_of_latest {step : RunStep} (h : Comes r run step) {latest : Int}
    (hlatest : r.latest? run.request.uri = some latest) {answer : Answer}
    (hmove : step.move = .done answer) :
    (latest = run.request.version ∧ ∃ res, answer = .ready res) ∨
      latest ≠ run.request.version ∧ answer = .stale run.request.version latest := by
  have hsuper : r.supersededBy? run.request.uri run.request.version =
      if latest = run.request.version then none else some latest := by
    simp only [supersededBy?, hlatest]
  rcases h.answer_eq hmove with ⟨hcurrent, hready⟩ | ⟨other, hlate, hstale⟩
  · rw [hsuper] at hcurrent
    split at hcurrent
    · rename_i heq
      exact .inl ⟨heq, hready⟩
    · cases hcurrent
  · rw [hsuper] at hlate
    split at hlate
    · cases hlate
    · rename_i hne
      cases hlate
      exact .inr ⟨hne, hstale⟩

/-- A step looks up at most one stylesheet, and keeps what was extracted only when it ends the run. -/
theorem cache_step (r : Resolver) (editor : Editor) (run : Run) (expired : Bool) :
    ((r.step editor run expired).resolver.cache = r.cache ∨
        ∃ path digest, (r.step editor run expired).resolver.cache = r.cache.used (.get path digest)) ∨
      (∃ answer, (r.step editor run expired).move = .done answer) ∧
        ∃ path css sheet, (r.step editor run expired).resolver.cache =
          r.cache.used (.insert path (digest css) (.ofSheet sheet)) := by
  rcases cache_step_cases r editor run expired with heq | ⟨path, d, heq⟩ |
    ⟨job, extraction, sheet, hphase, -, -, heq⟩
  · exact .inl (.inl heq)
  · exact .inl (.inr ⟨path, d, heq⟩)
  · obtain ⟨answer, hdone⟩ := exists_done_receive r run job extraction expired
    refine .inr ⟨⟨answer, ?_⟩, _, _, _, heq⟩
    simp only [step, hphase, hdone]

/-- A step that does not end with a resolution changes nothing but the cache. -/
theorem Comes.eq_of_not_ready {step : RunStep} (h : Comes r run step)
    (hready : ∀ res, step.move ≠ .done (.ready res)) :
    step.resolver = { r with cache := step.resolver.cache } := by
  cases h with
  | on => rfl
  | overtaken => rfl
  | ended cache res => exact absurd rfl (hready res)

/-- Asking for a version changes nothing but the latest version of the document. -/
theorem begin_eq (r : Resolver) (uri : Uri) (version : Int) :
    r.begin uri version = { r with latest := (r.begin uri version).latest } := by
  unfold begin
  split <;> rfl

end Resolver

namespace Traffic

variable {x : Extractor} {uri : Uri} {w : Traffic} {hs : List Happening} {h : Happening} {id : Nat}
  {q : Request} {answer : Answer}

/-! ### The versions that were asked for -/

/-- The versions of a document that were asked for, in order. -/
def versions (uri : Uri) (hs : List Happening) : List Int := hs.filterMap (Happening.version? uri)

theorem versions_append (uri : Uri) (hs hs' : List Happening) :
    versions uri (hs ++ hs') = versions uri hs ++ versions uri hs' :=
  List.filterMap_append

theorem asked_of_open (versions : List Int) (hopen : h ≠ .changed (.forget uri)) :
    asked uri versions h = (h.version? uri).toList ++ versions := by
  cases h with
  | asked q =>
      simp only [asked, Happening.version?]
      split <;> rfl
  | resumed id editor expired => rfl
  | changed change =>
      cases change with
      | record u version =>
          simp only [asked, Happening.version?]
          split <;> rfl
      | forget u =>
          have hu : u ≠ uri := fun hu => hopen (hu ▸ rfl)
          rw [asked, if_neg hu]
          rfl
      | setOptions o => rfl
      | setExtractor x => rfl
      | useCache use => rfl

theorem sinceForget_of_open (hopen : .changed (.forget uri) ∉ hs) :
    sinceForget uri hs = (versions uri hs).reverse := by
  induction hs using List.reverseRecOn with
  | nil => rfl
  | append_singleton hs h ih =>
      simp only [List.mem_append, List.mem_singleton, not_or] at hopen
      have hlast : versions uri [h] = (h.version? uri).toList := by
        unfold versions
        cases hv : h.version? uri <;> simp [hv]
      have hstep : sinceForget uri (hs ++ [h]) = asked uri (sinceForget uri hs) h := by
        simp [sinceForget, List.foldl_append]
      rw [hstep, asked_of_open _ (Ne.symm hopen.2), ih hopen.1, versions_append, hlast,
        List.reverse_append]
      congr 1
      cases h.version? uri <;> rfl

/-- The latest version of a document that stays open is the greatest one that was ever asked for. -/
theorem latest?_of_open {r : Resolver} (hr : r.Fresh x) (hopen : .changed (.forget uri) ∉ hs) :
    ((idle r).after hs).resolver.latest? uri = (versions uri hs).max? := by
  rw [latest?_of_fresh hr, sinceForget_of_open hopen]
  refine Option.ext fun v => ?_
  rw [List.max?_eq_some_iff, List.max?_eq_some_iff]
  simp only [List.mem_reverse]

/-- The latest version never falls. -/
theorem latest?_le_step (hopen : h ≠ .changed (.forget uri)) {latest : Int}
    (hlatest : w.resolver.latest? uri = some latest) :
    ∃ latest', (w.step h).1.resolver.latest? uri = some latest' ∧ latest ≤ latest' := by
  have hstep : (w.step h).1.resolver.latest? uri = (asked uri [latest] h).max? :=
    latest?_step hlatest h
  rw [hstep, asked_of_open _ hopen]
  cases h.version? uri with
  | none => exact ⟨latest, rfl, Int.le_refl _⟩
  | some version => exact ⟨max version latest, rfl, Int.le_max_right _ _⟩

/-! ### What is kept -/

/-- What is kept of the document is not of a later version than the latest. -/
def Bounded (uri : Uri) (w : Traffic) : Prop :=
  ∀ kept, w.resolver.resolution? uri = some kept →
    ∃ latest, w.resolver.latest? uri = some latest ∧ kept.version ≤ latest

theorem bounded_idle {r : Resolver} (hr : r.Fresh x) : Bounded uri (idle r) := by
  have hnone : r.resolution? uri = none := by cases hr <;> rfl
  intro kept hkept
  rw [idle, hnone] at hkept
  cases hkept

theorem bounded_step (hw : Bounded uri w) (hopen : h ≠ .changed (.forget uri)) :
    Bounded uri (w.step h).1 := by
  intro kept hkept
  have hold : ∃ latest, w.resolver.latest? uri = some latest ∧ kept.version ≤ latest := by
    rcases kept_step hw hopen with ⟨-, hsame⟩ | ⟨-, -, -, -, res, -, -, -, -, hlatest, -, hnew⟩
    · exact hw kept (hsame.symm.trans hkept)
    · rw [hnew, Option.some.injEq] at hkept
      exact ⟨res.version, hlatest, hkept ▸ Int.le_refl _⟩
  obtain ⟨latest, hlatest, hle⟩ := hold
  obtain ⟨latest', hlatest', hrise⟩ := latest?_le_step hopen hlatest
  exact ⟨latest', hlatest', Int.le_trans hle hrise⟩

theorem bounded_after (hw : Bounded uri w) (hopen : .changed (.forget uri) ∉ hs) :
    Bounded uri (w.after hs) := by
  induction hs generalizing w with
  | nil => exact hw
  | cons h hs ih =>
      rw [List.mem_cons, not_or] at hopen
      exact ih (bounded_step hw (Ne.symm hopen.1)) hopen.2

/-- What is kept stays, or gives way to what is not older. -/
theorem kept_le_step (hw : Bounded uri w) (hopen : h ≠ .changed (.forget uri)) {old : Resolution}
    (hold : w.resolver.resolution? uri = some old) :
    ∃ new, (w.step h).1.resolver.resolution? uri = some new ∧ old.version ≤ new.version := by
  rcases kept_step hw hopen with ⟨-, hsame⟩ | ⟨-, -, -, -, res, -, -, -, -, hlatest, -, hnew⟩
  · exact ⟨old, hsame.trans hold, Int.le_refl _⟩
  · obtain ⟨latest, hl, hle⟩ := hw old hold
    rw [hlatest, Option.some.injEq] at hl
    exact ⟨res, hnew, hl ▸ hle⟩

theorem kept_le_after (hw : Bounded uri w) (hopen : .changed (.forget uri) ∉ hs) {old : Resolution}
    (hold : w.resolver.resolution? uri = some old) :
    ∃ new, (w.after hs).resolver.resolution? uri = some new ∧ old.version ≤ new.version := by
  induction hs generalizing w old with
  | nil => exact ⟨old, hold, Int.le_refl _⟩
  | cons h hs ih =>
      rw [List.mem_cons, not_or] at hopen
      obtain ⟨mid, hmid, hle⟩ := kept_le_step hw (Ne.symm hopen.1) hold
      obtain ⟨new, hnew, hle'⟩ := ih (bounded_step hw (Ne.symm hopen.1)) hopen.2 hmid
      exact ⟨new, hnew, Int.le_trans hle hle'⟩

/-! ### Answers -/

/-- A course is cut before its last happening, or earlier. -/
theorem cut_cases {past rest : List Happening} {last : Happening}
    (hcut : hs ++ [last] = past ++ h :: rest) :
    (rest = [] ∧ past = hs ∧ h = last) ∨ ∃ mid, rest = mid ++ [last] ∧ hs = past ++ h :: mid := by
  rcases List.eq_nil_or_concat rest with rfl | ⟨mid, last', rfl⟩
  · obtain ⟨hpast, hlast⟩ := List.append_inj' hcut rfl
    exact .inl ⟨rfl, hpast.symm, (List.singleton_inj.mp hlast).symm⟩
  · rw [List.concat_eq_append, ← List.cons_append, ← List.append_assoc] at hcut
    obtain ⟨hpast, hlast⟩ := List.append_inj' hcut rfl
    exact .inr ⟨mid, by rw [List.concat_eq_append, hlast], hpast⟩

/-- The course ends with the answer to the run that has this number and was asked for in it. -/
structure Completes (w : Traffic) (hs : List Happening) (id : Nat) (q : Request) (answer : Answer) :
    Prop where
  asked : ∃ before later, hs = before ++ .asked q :: later ∧ (w.after before).next = id
  answered : ∃ past last, hs = past ++ [last] ∧ .answered id answer ∈ ((w.after past).step last).2

/-- A run is refused when it is asked for, or answered by a later step of its own. -/
theorem Completes.cases (hn : w.Numbered) (hc : w.Completes hs id q answer) :
    (∃ past latest, hs = past ++ [.asked q] ∧
        (w.after past).resolver.refusedBy? q.uri q.version = some latest ∧
        answer = .stale q.version latest) ∨
      ∃ past editor expired run, hs = past ++ [.resumed id editor expired] ∧ .asked q ∈ past ∧
        (w.after past).runs.get? id = some run ∧ run.request = q ∧
        ((w.after past).resolver.step editor run expired).move = .done answer := by
  obtain ⟨⟨before, later, hbefore, rfl⟩, past, last, rfl, hanswer⟩ := hc
  have hnb := numbered_after hn before
  rcases cut_cases hbefore with ⟨rfl, rfl, rfl⟩ | ⟨mid, rfl, rfl⟩
  · -- the answer is the refusal
    left
    cases href : (w.after before).resolver.refusedBy? q.uri q.version with
    | none => simp [step_asked href] at hanswer
    | some latest =>
        simp only [step_asked_refused href, List.mem_singleton, Event.answered.injEq,
          true_and] at hanswer
        exact ⟨before, latest, rfl, href, hanswer⟩
  · -- the run has begun and goes on
    rw [after_append, after_cons] at hanswer
    have hid := next_lt_asked (w.after before) q
    have hid' := Nat.lt_of_lt_of_le hid (next_le_after _ mid)
    have hown : ∃ editor expired, last = .resumed (w.after before).next editor expired := by
      by_contra hother
      exact (step_of_other hid' fun e b he => hother ⟨e, b, he⟩).2 answer hanswer
    obtain ⟨editor, expired, rfl⟩ := hown
    obtain ⟨run, hrun, hmove⟩ := done_of_answered hanswer
    rcases get?_after_asked hnb q fun _ _ => List.not_mem_nil with hgone | ⟨progress, hbegun⟩
    · rw [get?_after_of_ended hid hgone] at hrun
      cases hrun
    · have hreq := request_after (numbered_step hnb (.asked q)) hbegun hrun
      refine .inr ⟨before ++ .asked q :: mid, editor, expired, run, rfl, by simp, ?_, hreq, ?_⟩
      · rw [after_append, after_cons]
        exact hrun
      · rw [after_append, after_cons]
        exact hmove

/-- A run that is resumed often enough is answered. -/
theorem exists_answer_of_resumed (hn : w.Numbered) {run : Run} (hrun : w.runs.get? id = some run)
    (hoften : run.stops ≤ hs.countP (Happening.resumes id)) :
    ∃ past last rest answer, hs = past ++ last :: rest ∧
      .answered id answer ∈ ((w.after past).step last).2 := by
  induction hs generalizing w run with
  | nil =>
      unfold Run.stops at hoften
      split at hoften <;> simp at hoften
  | cons h hs ih =>
      -- it is enough that the run is still under way, with no more stops than are left
      have hlater : (∃ run', (w.step h).1.runs.get? id = some run' ∧
          run'.stops ≤ hs.countP (Happening.resumes id)) →
          ∃ past last rest answer, h :: hs = past ++ last :: rest ∧
            .answered id answer ∈ ((w.after past).step last).2 := by
        rintro ⟨run', hrun', hleft⟩
        obtain ⟨past, last, rest, answer, rfl, hanswer⟩ := ih (numbered_step hn h) hrun' hleft
        exact ⟨h :: past, last, rest, answer, rfl, hanswer⟩
      by_cases hown : ∃ editor expired, h = .resumed id editor expired
      · obtain ⟨editor, expired, rfl⟩ := hown
        rw [List.countP_cons_of_pos (by simp [Happening.resumes])] at hoften
        cases hmove : (w.resolver.step editor run expired).move with
        | next run' =>
            have hless := Resolver.stops_of_next hmove
            refine hlater ⟨run', ?_, by omega⟩
            rw [step_resumed_next hrun hmove, Table.get?_insert, if_pos rfl]
        | done answer =>
            refine ⟨[], _, hs, answer, rfl, ?_⟩
            rw [after_nil, step_resumed_done hrun hmove]
            simp
      · have hno : h.resumes id ≠ true := by
          cases h with
          | resumed id' editor expired =>
              intro heq
              exact hown ⟨editor, expired, by rw [beq_iff_eq.mp heq]⟩
          | asked q => simp [Happening.resumes]
          | changed change => simp [Happening.resumes]
        rw [List.countP_cons_of_neg hno] at hoften
        have hother := (step_of_other (hn id run hrun) fun e b he => hown ⟨e, b, he⟩).1
        exact hlater ⟨run, hother.trans hrun, hoften⟩

/-- A run that is asked for is answered at the latest when it goes on for the fourth time. -/
theorem exists_completes {before later : List Happening} (hn : w.Numbered)
    (hoften : 4 ≤ later.countP (Happening.resumes (w.after before).next)) :
    ∃ hs answer, hs <+: before ++ .asked q :: later ∧
      w.Completes hs (w.after before).next q answer := by
  have hnb := numbered_after hn before
  cases href : (w.after before).resolver.refusedBy? q.uri q.version with
  | some latest =>
      refine ⟨before ++ [.asked q], .stale q.version latest, ⟨later, by simp⟩,
        ⟨before, [], rfl, rfl⟩, before, .asked q, rfl, ?_⟩
      rw [step_asked_refused href]
      exact List.mem_cons_self
  | none =>
      have hrun : ((w.after before).step (.asked q)).1.runs.get? (w.after before).next =
          some ⟨q, ⟨q.uri.shortName, q.version, .idle, 0⟩, .begun⟩ := by
        rw [step_asked href, Table.get?_insert, if_pos rfl]
      obtain ⟨past, last, rest, answer, rfl, hanswer⟩ :=
        exists_answer_of_resumed (numbered_step hnb (.asked q)) hrun hoften
      refine ⟨before ++ .asked q :: past ++ [last], answer, ⟨rest, by simp⟩,
        ⟨before, past ++ [last], by simp, rfl⟩, before ++ .asked q :: past, last, rfl, ?_⟩
      rw [after_append, after_cons]
      exact hanswer

theorem le_max_of_mem {l : List Int} {v greatest : Int} (hv : v ∈ l) (hmax : l.max? = some greatest) :
    v ≤ greatest :=
  (List.max?_eq_some_iff.mp hmax).2 v hv

/-- A run is answered with a resolution if no greater version of its document was asked for before, and
with the greatest one otherwise. -/
theorem answer_of_completes {r : Resolver} (hr : r.Fresh x)
    (hopen : ∀ uri, .changed (.forget uri) ∉ hs) (hc : (idle r).Completes hs id q answer) :
    ((versions q.uri hs).max? = some q.version ∧ ∃ res, answer = .ready res) ∨
      ∃ latest, (versions q.uri hs).max? = some latest ∧ q.version < latest ∧
        answer = .stale q.version latest := by
  rcases hc.cases (numbered_idle r) with
    ⟨past, latest, rfl, href, rfl⟩ | ⟨past, editor, expired, run, rfl, hasked, hrun, rfl, hmove⟩
  · -- refused: the version that refuses it stays the greatest
    have hlatest := latest?_of_open hr (hopen q.uri)
    rw [after_append, after_cons, after_nil, step_asked_refused href] at hlatest
    rw [Resolver.refusedBy?, Option.filter_eq_some_iff] at href
    exact .inr ⟨latest, hlatest.symm.trans href.1, of_decide_eq_true href.2, rfl⟩
  · -- answered by a step of its own, which asks for no version
    have hlatest := latest?_of_open hr fun hm => hopen run.request.uri (List.mem_append_left _ hm)
    have hsame : versions run.request.uri (past ++ [.resumed id editor expired]) =
        versions run.request.uri past := by
      rw [versions_append]
      exact List.append_nil _
    have hown : run.request.version ∈ versions run.request.uri past :=
      List.mem_filterMap.mpr ⟨_, hasked, if_pos rfl⟩
    rw [hsame, ← hlatest]
    obtain ⟨latest, hl⟩ := Option.isSome_iff_exists.mp (List.isSome_max?_of_mem hown)
    have hle := le_max_of_mem hown hl
    rw [hl] at hlatest
    rw [hlatest]
    rcases (Resolver.comes_step _ editor run expired).answer_of_latest hlatest hmove with
      ⟨rfl, hready⟩ | ⟨hne, hstale⟩
    · exact .inl ⟨rfl, hready⟩
    · exact .inr ⟨latest, rfl, by omega, hstale⟩

/-! ### Runs that end stale -/

/-- A step that others see nothing of but a raised version of the document, and the cache: there it
looks a stylesheet up, or keeps what was extracted, which it does only when it answers the run. -/
structure Slight (w : Traffic) (id : Nat) (q : Request) (h : Happening) : Prop where
  traceless : w.Traceless h
  only : ∃ latest cache, (w.step h).1.resolver = { w.resolver with latest, cache }
  latest : ∀ uri, (w.step h).1.resolver.latest? uri = w.resolver.latest? uri ∨
    h = .asked q ∧ uri = q.uri ∧ (w.step h).1.resolver.latest? uri = some q.version ∧
      ∀ old, w.resolver.latest? uri = some old → old ≤ q.version
  cache : ((w.step h).1.resolver.cache = w.resolver.cache ∨
      ∃ path digest, (w.step h).1.resolver.cache = w.resolver.cache.used (.get path digest)) ∨
    (∃ answer, .answered id answer ∈ (w.step h).2) ∧
      ∃ path css sheet, (w.step h).1.resolver.cache =
        w.resolver.cache.used (.insert path (digest css) (.ofSheet sheet))

theorem traceless_asked (w : Traffic) (q : Request) : w.Traceless (.asked q) := by
  have heq := Resolver.begin_eq w.resolver q.uri q.version
  unfold Traceless
  rw [resolver_step_asked, heq]
  refine ⟨rfl, rfl, fun uri failure => ?_⟩
  cases href : w.resolver.refusedBy? q.uri q.version with
  | some latest => simp [step_asked_refused href]
  | none => simp [step_asked href]

theorem slight_asked (w : Traffic) (id : Nat) (q : Request) : w.Slight id q (.asked q) where
  traceless := traceless_asked w q
  only := by
    rw [resolver_step_asked]
    exact ⟨_, w.resolver.cache, Resolver.begin_eq _ _ _⟩
  latest := fun uri => by
    rw [resolver_step_asked]
    by_cases hu : uri = q.uri
    · subst hu
      cases href : w.resolver.refusedBy? q.uri q.version with
      | some latest => exact .inl (by rw [Resolver.latest?_begin_of_refused href])
      | none =>
          exact .inr ⟨rfl, rfl, Resolver.latest?_begin_self href, fun _ =>
            Resolver.le_of_not_refused href⟩
    · exact .inl (Resolver.latest?_begin_of_ne (Ne.symm hu))
  cache := by
    rw [resolver_step_asked, Resolver.cache_begin]
    exact .inl (.inl rfl)

/-- A step of a run is slight as long as it does not end with a resolution. -/
theorem slight_resumed (q : Request) {editor : Editor} {expired : Bool}
    (hready : ∀ run res, w.runs.get? id = some run →
      (w.resolver.step editor run expired).move ≠ .done (.ready res)) :
    w.Slight id q (.resumed id editor expired) := by
  cases hrun : w.runs.get? id with
  | none =>
      have hstep := step_resumed_none hrun editor expired
      exact ⟨by simp [Traceless, hstep], ⟨w.resolver.latest, w.resolver.cache, by rw [hstep]⟩,
        fun uri => .inl (by rw [hstep]), .inl (.inl (by rw [hstep]))⟩
  | some run =>
      have hcomes := Resolver.comes_step w.resolver editor run expired
      have hresolver := resolver_step_resumed hrun editor expired
      refine ⟨traceless_of_run hrun (hready run · hrun),
        ⟨w.resolver.latest, (w.resolver.step editor run expired).resolver.cache, ?_⟩,
        fun uri => .inl ?_, ?_⟩
      · rw [hresolver]
        exact hcomes.eq_of_not_ready (hready run · hrun)
      · rw [hresolver, Resolver.latest?_step]
      · rw [hresolver]
        rcases Resolver.cache_step w.resolver editor run expired with hfound | ⟨⟨answer, hmove⟩, hkept⟩
        · exact .inl hfound
        · refine .inr ⟨⟨answer, ?_⟩, hkept⟩
          rw [step_resumed_done hrun hmove]
          simp

/-- What the last step shows is shown from every earlier one on. -/
theorem mem_events_of_last {past past' rest : List Happening} {last : Happening} {e : Event}
    (hcut : past' ++ [last] = past ++ h :: rest) (he : e ∈ ((w.after past').step last).2) :
    e ∈ (w.after past).events (h :: rest) := by
  rcases cut_cases hcut with ⟨rfl, rfl, rfl⟩ | ⟨mid, rfl, rfl⟩
  · rw [events, List.mem_append]
    exact .inl he
  · rw [after_append] at he
    rw [← List.cons_append, events_append, List.mem_append]
    exact .inr (by rwa [events, events, List.append_nil])

/-- Every step of a run that ends stale is slight. -/
theorem slight_of_stale (hn : w.Numbered) {version latest : Int}
    (hc : w.Completes hs id q (.stale version latest)) {past rest : List Happening}
    (hcut : hs = past ++ h :: rest)
    (hown : h = .asked q ∨ ∃ editor expired, h = .resumed id editor expired) :
    (w.after past).Slight id q h := by
  rcases hown with rfl | ⟨editor, expired, rfl⟩
  · exact slight_asked _ _ _
  · refine slight_resumed q fun run res hrun hmove => ?_
    obtain ⟨past', last, hlast, hanswer⟩ := hc.answered
    have hmem := mem_events_of_last (hlast.symm.trans hcut) hanswer
    rcases answered_of_resumed (numbered_after hn past) hrun hmem with hdone | ⟨run', hnext, -⟩
    · rw [hmove] at hdone
      cases hdone
    · rw [hmove] at hnext
      cases hnext

end Traffic

/-! ### A sample -/

namespace Sample

/-- A run for version 1; while the stylesheet is extracted, version 2 is noted. -/
def overtaking : List Happening :=
  .asked (request 1) :: List.replicate 3 (.resumed 0 (editor 1) false) ++
    [.changed (.record uri 2), .resumed 0 (editor 1) false]

end Sample

namespace Traffic

variable {x : Extractor}

/-! ### Exactness -/

/-- As long as no document is closed: the latest version of a document is the greatest that was asked
for.  A run is answered at the latest when it goes on for the fourth time: with a resolution if and only
if no greater version was asked for by then, and stale otherwise; and if it ends stale, its steps were
slight.  What is kept is never of a later version than the latest, and never gives way to what is
older. -/
theorem stale_exactly {r : Resolver} (hr : r.Fresh x) {hs : List Happening}
    (hopen : ∀ uri, .changed (.forget uri) ∉ hs) :
    (∀ uri, ((idle r).after hs).resolver.latest? uri = (versions uri hs).max?) ∧
    (∀ before q later, hs = before ++ .asked q :: later →
      4 ≤ later.countP (Happening.resumes ((idle r).after before).next) →
      ∃ hs' answer, hs' <+: hs ∧ (idle r).Completes hs' ((idle r).after before).next q answer) ∧
    (∀ id q answer, (idle r).Completes hs id q answer →
      ((∃ res, answer = .ready res) ↔ ∀ v ∈ versions q.uri hs, v ≤ q.version) ∧
      ((∃ latest, answer = .stale q.version latest) ↔ ∃ v ∈ versions q.uri hs, q.version < v) ∧
      ∀ version latest, answer = .stale version latest →
        (versions q.uri hs).max? = some latest ∧
          ∀ past h rest, hs = past ++ h :: rest →
            (h = .asked q ∨ ∃ editor expired, h = .resumed id editor expired) →
            ((idle r).after past).Slight id q h) ∧
    (∀ uri kept, ((idle r).after hs).resolver.resolution? uri = some kept →
      ∃ latest, ((idle r).after hs).resolver.latest? uri = some latest ∧ kept.version ≤ latest) ∧
    ∀ past rest, hs = past ++ rest →
      ∀ uri old, ((idle r).after past).resolver.resolution? uri = some old →
        ∃ new, ((idle r).after hs).resolver.resolution? uri = some new ∧
          old.version ≤ new.version := by
  have hn := numbered_idle r
  refine ⟨fun uri => latest?_of_open hr (hopen uri), ?_, ?_, ?_, ?_⟩
  · rintro before q later rfl hoften
    exact exists_completes hn hoften
  · intro id q answer hc
    rcases answer_of_completes hr hopen hc with ⟨hmax, res, rfl⟩ | ⟨latest, hmax, hlt, rfl⟩
    · have hle : ∀ v ∈ versions q.uri hs, v ≤ q.version := (List.max?_eq_some_iff.mp hmax).2
      have hno : ¬ ∃ v ∈ versions q.uri hs, q.version < v := by
        rintro ⟨v, hv, hlt⟩
        exact absurd (hle v hv) (Int.not_le.mpr hlt)
      exact ⟨iff_of_true ⟨res, rfl⟩ hle, iff_of_false (by simp) hno, by simp⟩
    · have hmem : latest ∈ versions q.uri hs := List.max?_mem hmax
      have hno : ¬ ∀ v ∈ versions q.uri hs, v ≤ q.version := fun hle =>
        absurd (hle latest hmem) (Int.not_le.mpr hlt)
      refine ⟨iff_of_false (by simp) hno, iff_of_true ⟨latest, rfl⟩ ⟨latest, hmem, hlt⟩,
        fun version greatest hstale => ?_⟩
      cases hstale
      exact ⟨hmax, fun past h rest hcut hown => slight_of_stale hn hc hcut hown⟩
  · exact fun uri => bounded_after (bounded_idle hr) (hopen uri)
  · rintro past rest rfl uri old hold
    have hclosed := hopen uri
    rw [List.mem_append, not_or] at hclosed
    rw [after_append]
    exact kept_le_after (bounded_after (bounded_idle hr) hclosed.1) hclosed.2 hold

open Sample in
/-- The run ends stale; its last step keeps what was extracted in the cache, and does nothing else. -/
theorem stale_exactly_of_overtaking :
    let w := (idle Sample.resolver).after (overtaking.take 5)
    let last := .resumed 0 (editor 1) false
    (w.step last).2 = [.answered 0 (.stale 1 2)] ∧ (∃ v ∈ versions uri overtaking, 1 < v) ∧
      w.Slight 0 (request 1) last ∧ (w.step last).1.resolver.cache.size = 1 := by
  intro w last
  have hanswer : (w.step last).2 = [.answered 0 (.stale 1 2)] := by cbv
  have hc : (idle Sample.resolver).Completes overtaking 0 (request 1) (.stale 1 2) :=
    ⟨⟨[], _, rfl, rfl⟩, overtaking.take 5, last, rfl, by rw [hanswer]; exact List.mem_cons_self⟩
  obtain ⟨-, -, hexact, -⟩ :=
    stale_exactly (.ofOptions {}) (show ∀ uri, .changed (.forget uri) ∉ overtaking by simp [overtaking])
  obtain ⟨-, hstale, htraces⟩ := hexact 0 (request 1) _ hc
  exact ⟨hanswer, hstale.mp ⟨2, rfl⟩, (htraces 1 2 rfl).2 _ _ [] rfl (.inr ⟨_, _, rfl⟩), by cbv⟩

end Traffic

end ClassLens
