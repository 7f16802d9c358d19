import ClassLens.Proofs.Resolve.Completion
import ClassLens.Proofs.Resolve.Dossiers

/-! # Documents do not see each other

All documents share one cache, and each run may put in, replace or push out what others look up.  If
calls do not overlap and no extraction takes too long, nothing of this shows: what is said and known of
a document is what it would be if there were no other documents.

* `Traffic.dealt`, `Traffic.replies`, `Traffic.failures`: what a course of dealings leads to, what the
  askers get, and what is reported.
* `Traffic.Agree uri w w'`: the same is known of a document, and requests come to the same.

**Main statements.** `Traffic.Agree.dealt`: the same calls on a document keep two resolvers in
agreement on it, whatever calls on other documents stand in between on one side.
`Traffic.independent`: so a course of dealings shows of a document what the dealings with it alone
would show. -/

namespace ClassLens

namespace Dealing

/-- The dealings of a course that are with a document. -/
def only (uri : Uri) (ds : List Dealing) : List Dealing := ds.filter fun d => d.uri = uri

theorem only_cons_self (d : Dealing) (ds : List Dealing) :
    only d.uri (d :: ds) = d :: only d.uri ds := by
  simp [only]

theorem only_cons_of_ne {uri : Uri} {d : Dealing} (h : d.uri ≠ uri) (ds : List Dealing) :
    only uri (d :: ds) = only uri ds := by
  simp [only, h]

end Dealing

/-- An asker that waits for an answer gets one and no more. -/
def Reply.Complete : Reply → Prop
  | .answered answers => answers.length = 1
  | _ => True

namespace Dossier

variable (fresh : Editor → Request → Resolution)

theorem complete_reply (f : Dossier) (d : Dealing) : (f.reply fresh d).Complete := by
  cases d with
  | record => trivial
  | forget => trivial
  | resolve q editor =>
      cases href : f.refusedBy? q.version with
      | none => simp [reply, href, Reply.Complete]
      | some latest => simp [reply, href, Reply.Complete]

/-- A dealing reports failures of its own document only. -/
theorem eq_of_mem_reports {f : Dossier} {d : Dealing} {report : Uri × Failure}
    (h : report ∈ f.reports fresh d) : report.1 = d.uri := by
  cases d with
  | record => cases h
  | forget => cases h
  | resolve q editor =>
      simp only [reports] at h
      split at h
      · cases h
      · rw [Option.mem_toList, Option.map_eq_some_iff] at h
        obtain ⟨e, -, rfl⟩ := h
        rfl

end Dossier

namespace Traffic

variable {x : Extractor} {sheets : String → Prop} {uri : Uri} {w w' : Traffic} {d : Dealing}
  {ds : List Dealing}

/-! ### Courses of dealings -/

/-- What a course of dealings leads to. -/
def dealt (w : Traffic) (ds : List Dealing) : Traffic := ds.foldl deal w

/-- What the askers get in a course of dealings, each with the document in question. -/
def replies (w : Traffic) : List Dealing → List (Uri × Reply)
  | [] => []
  | d :: ds => (d.uri, w.reply d) :: (w.deal d).replies ds

/-- What is reported in a course of dealings. -/
def failures (w : Traffic) : List Dealing → List (Uri × Failure)
  | [] => []
  | d :: ds => reports (w.shown d) ++ (w.deal d).failures ds

@[simp] theorem dealt_nil (w : Traffic) : w.dealt [] = w := rfl

@[simp] theorem dealt_cons (w : Traffic) (d : Dealing) (ds : List Dealing) :
    w.dealt (d :: ds) = (w.deal d).dealt ds := rfl

/-- Every asker gets an answer. -/
theorem complete_of_mem_replies
    (hinj : ∀ a b, sheets a → sheets b → digest a = digest b → a = b) (hw : w.Faithful x sheets)
    (hn : w.Numbered) (hds : ∀ d ∈ ds, d.Reads sheets) :
    ∀ entry ∈ w.replies ds, entry.2.Complete := by
  induction ds generalizing w with
  | nil =>
      intro entry hentry
      cases hentry
  | cons d ds ih =>
      intro entry hentry
      rw [List.forall_mem_cons] at hds
      rcases List.mem_cons.mp hentry with rfl | hlater
      · change (w.reply d).Complete
        rw [reply_eq hinj hw hn hds.1]
        exact Dossier.complete_reply _ _ d
      · exact ih (faithful_deal hw hds.1) (numbered_deal hn d) hds.2 entry hlater

/-! ### Agreement on a document -/

/-- The same is known of a document, and requests come to the same. -/
structure Agree (uri : Uri) (w w' : Traffic) : Prop where
  afresh : w.resolver.afresh = w'.resolver.afresh
  dossier : w.resolver.dossier uri = w'.resolver.dossier uri

namespace Agree

/-- The same dealing with the document keeps the agreement, and shows the same on both sides. -/
theorem deal (h : Agree d.uri w w')
    (hinj : ∀ a b, sheets a → sheets b → digest a = digest b → a = b) (hw : w.Faithful x sheets)
    (hw' : w'.Faithful x sheets) (hn : w.Numbered) (hn' : w'.Numbered) (hd : d.Reads sheets) :
    Agree d.uri (w.deal d) (w'.deal d) ∧ w.reply d = w'.reply d ∧
      reports (w.shown d) = reports (w'.shown d) := by
  refine ⟨⟨?_, ?_⟩, ?_, ?_⟩
  · rw [afresh_deal, afresh_deal, h.afresh]
  · rw [dossier_deal hinj hw hn hd, dossier_deal hinj hw' hn' hd, h.dossier, h.afresh]
  · rw [reply_eq hinj hw hn hd, reply_eq hinj hw' hn' hd, h.dossier, h.afresh]
  · rw [reports_eq hinj hw hn hd, reports_eq hinj hw' hn' hd, h.dossier, h.afresh]

/-- A dealing with another document, on one side only, keeps the agreement. -/
theorem deal_of_ne (h : Agree uri w w')
    (hinj : ∀ a b, sheets a → sheets b → digest a = digest b → a = b) (hw : w.Faithful x sheets)
    (hn : w.Numbered) (hd : d.Reads sheets) (hne : d.uri ≠ uri) : Agree uri (w.deal d) w' := by
  constructor
  · rw [afresh_deal, h.afresh]
  · rw [dossier_deal_of_ne hinj hw hn hd hne.symm, h.dossier]

/-- Two resolvers that agree on a document go on to do so, and show the same of it, if one of them is
left with the calls on this document. -/
theorem dealt (h : Agree uri w w')
    (hinj : ∀ a b, sheets a → sheets b → digest a = digest b → a = b) (hw : w.Faithful x sheets)
    (hw' : w'.Faithful x sheets) (hn : w.Numbered) (hn' : w'.Numbered)
    (hds : ∀ d ∈ ds, d.Reads sheets) :
    Agree uri (w.dealt ds) (w'.dealt (Dealing.only uri ds)) ∧
      (w.replies ds).filter (·.1 = uri) = w'.replies (Dealing.only uri ds) ∧
      (w.failures ds).filter (·.1 = uri) = w'.failures (Dealing.only uri ds) := by
  induction ds generalizing w w' with
  | nil => exact ⟨h, rfl, rfl⟩
  | cons d ds ih =>
      rw [List.forall_mem_cons] at hds
      obtain ⟨hd, hds⟩ := hds
      have hwd := faithful_deal hw hd
      have hnd := numbered_deal hn d
      have howner : ∀ report ∈ reports (w.shown d), report.1 = d.uri := by
        intro report hreport
        rw [reports_eq hinj hw hn hd] at hreport
        exact Dossier.eq_of_mem_reports _ hreport
      simp only [dealt_cons, replies, failures, List.filter_append]
      by_cases hne : d.uri = uri
      · subst hne
        obtain ⟨hagree, hreply, hreports⟩ := h.deal hinj hw hw' hn hn' hd
        obtain ⟨hend, hreplies, hfailures⟩ :=
          ih hagree hwd (faithful_deal hw' hd) hnd (numbered_deal hn' d) hds
        have hall : (reports (w.shown d)).filter (·.1 = d.uri) = reports (w.shown d) :=
          List.filter_eq_self.mpr fun report hreport => decide_eq_true (howner report hreport)
        rw [Dealing.only_cons_self]
        refine ⟨hend, ?_, ?_⟩
        · simp only [replies, List.filter_cons, decide_true, if_true, hreply, hreplies]
        · rw [hall, hfailures, hreports]
          rfl
      · obtain ⟨hend, hreplies, hfailures⟩ :=
          ih (h.deal_of_ne hinj hw hn hd hne) hwd hw' hnd hn' hds
        have hnone : (reports (w.shown d)).filter (·.1 = uri) = [] := by
          rw [List.filter_eq_nil_iff]
          intro report hreport
          rw [howner report hreport]
          simpa using hne
        rw [Dealing.only_cons_of_ne hne]
        refine ⟨hend, ?_, ?_⟩
        · simpa only [List.filter_cons, hne, decide_false, Bool.false_eq_true, if_false] using hreplies
        · rw [hnone, List.nil_append, hfailures]

end Agree

end Traffic

/-! ### A sample -/

namespace Sample

/-- Another document that uses a class of its stylesheet. -/
def neighbour : Uri := ⟨"file:///Page.tsx"⟩

/-- A resolver that remembers one stylesheet, which another extractor takes for a color. -/
def cramped : Resolver := .ofOptions painter { cacheCapacity := 1 }

/-- Two documents in turn, with a stylesheet each under the same path: each pushes the rules of the
other one out of the cache. -/
def neighbourly : List Dealing :=
  [.resolve (request 1) (reading "red"), .resolve ⟨neighbour, text, 7⟩ (reading "blue"),
    .record uri 2, .resolve (request 1) (reading "red"), .forget neighbour]

end Sample

namespace Traffic

variable {x : Extractor} {sheets : String → Prop}

/-- In a course of calls that do not overlap, on any number of documents: every call is answered.
What the callers get for a document, the failures that are reported of it, its latest version and the
resolution that is kept of it are the same as when only the calls on this document are made. -/
theorem independent (hinj : ∀ a b, sheets a → sheets b → digest a = digest b → a = b)
    {r : Resolver} (hr : r.Fresh x) {ds : List Dealing} (hds : ∀ d ∈ ds, d.Reads sheets) (uri : Uri) :
    let alone := Dealing.only uri ds
    (∀ entry ∈ (idle r).replies ds, entry.2.Complete) ∧
      ((idle r).replies ds).filter (·.1 = uri) = (idle r).replies alone ∧
      ((idle r).failures ds).filter (·.1 = uri) = (idle r).failures alone ∧
      ((idle r).dealt ds).resolver.latest? uri = ((idle r).dealt alone).resolver.latest? uri ∧
      ((idle r).dealt ds).resolver.resolution? uri =
        ((idle r).dealt alone).resolver.resolution? uri := by
  intro alone
  have hw : (idle r).Faithful x sheets := faithful_idle hr
  have hn := numbered_idle r
  obtain ⟨hend, hreplies, hfailures⟩ :=
    (Agree.mk rfl rfl : Agree uri (idle r) (idle r)).dealt hinj hw hw hn hn hds
  have hdossier := hend.dossier
  simp only [Resolver.dossier, Dossier.mk.injEq] at hdossier
  exact ⟨complete_of_mem_replies hinj hw hn hds, hreplies, hfailures, hdossier.1, hdossier.2.1⟩

open Sample in
/-- The document is answered as if the other one did not push its rules out of the cache. -/
theorem independent_of_neighbour :
    let w := idle cramped
    (w.replies neighbourly).filter (·.1 = uri) =
        [(uri, .answered [.ready (painted "red")]), (uri, .recorded true),
          (uri, .answered [.stale 1 2])] ∧
      (w.failures neighbourly).filter (·.1 = uri) = [] ∧
      (w.dealt neighbourly).resolver.latest? uri = some 2 ∧
      (w.dealt neighbourly).resolver.resolution? uri = some (painted "red") := by
  have hinj : ∀ a b, a ∈ ["red", "blue"] → b ∈ ["red", "blue"] → digest a = digest b → a = b := by
    have hdigest : digest "red" ≠ digest "blue" := by decide +kernel
    simp only [List.mem_cons, List.not_mem_nil, or_false]
    rintro a b (rfl | rfl) (rfl | rfl) heq
    · rfl
    · exact absurd heq hdigest
    · exact absurd heq.symm hdigest
    · rfl
  have hreads : ∀ d ∈ neighbourly, d.Reads (· ∈ ["red", "blue"]) := by
    simp [neighbourly, Dealing.Reads, reading]
  obtain ⟨-, hreplies, hfailures, hlatest, hkept⟩ :=
    independent hinj (.ofOptions { cacheCapacity := 1 }) hreads uri
  exact ⟨hreplies.trans (by cbv), hfailures.trans (by cbv), hlatest.trans (by cbv),
    hkept.trans (by cbv)⟩

end Traffic

end ClassLens
