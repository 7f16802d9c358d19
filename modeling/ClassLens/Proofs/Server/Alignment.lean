import ClassLens.Proofs.Document.Positions
import ClassLens.Proofs.Server.Sources
import ClassLens.Proofs.Server.Stylesheets

/-! # Lenses line up with the text

A lens is made from a usage that was found some time ago, in a text that the document had then.  The
document may have been edited, closed and opened again since; what is left of the usage is its version.

* `Lens.Covers d lens u`: the lens stands over the usage `u`, which the text of the document reads
  there.
* `Server.Unambiguous s₀ ts`: no document has had two texts under one version.

**Main statements.** `Server.mem_answered_observe`, `Server.answered_askLenses`: what a lens request is
answered from.  `Server.lenses_line_up`: every lens of every answer covers a usage that was found in
the text that the document has when it is answered. -/

namespace ClassLens

open Usage
open Text (byteLength byteLength_append)

/-- The ends of the lens are the bytes where the usage starts and stops, and between them the text reads
a binding, a full stop and a class token. -/
structure Lens.Covers (d : Document) (lens : Lens) (u : Site) : Prop where
  start : d.offsetOf? lens.start = some u.start
  stop : d.offsetOf? lens.stop = some u.stop
  reads : ∃ front binding token back,
    d.text.toList = front ++ (binding ++ '.' :: token) ++ back ∧
      d.slice u.start u.stop = binding ++ '.' :: token ∧ isIdentifier binding = true ∧
      front.getLast?.any isIdentifierChar = false ∧ token ≠ [] ∧
      (∀ c ∈ token, isTokenChar c = true) ∧ u = .covering d.version front binding token
  /-- 32 bits hold the numbers of both positions, if they hold those of the bytes. -/
  fits : byteLength d.text.toList < 2 ^ 32 →
    (lens.start.line < 2 ^ 32 ∧ lens.start.character < 2 ^ 32) ∧
      lens.stop.line < 2 ^ 32 ∧ lens.stop.character < 2 ^ 32

namespace Server

variable {s₀ s : Server} {ts : List Instant} {t : Instant} {files : FileTree} {uri : Uri}
  {d : Document}

/-- No document has had two texts under one version. -/
def Unambiguous (s₀ : Server) (ts : List Instant) : Prop :=
  ∀ q q', s₀.Held ts q → s₀.Held ts q' → q.uri = q'.uri → q.version = q'.version → q.text = q'.text

/-- What was found in a text that the document has had under its version was found in its text. -/
theorem Unambiguous.found (h : s₀.Unambiguous ts) (hd : (s₀.lived ts).documents.get? uri = some d)
    {q : Request} (hq : s₀.Held ts q) (hu : q.uri = uri) (hv : q.version = d.version)
    {ts' : List Instant} {u : Site} (hfound : s₀.Found ts' q u) :
    s₀.Found ts' ⟨uri, d.text, d.version⟩ u := by
  have htext : q.text = d.text := h q ⟨uri, d.text, d.version⟩ hq (held_of_get? hd) hu hv
  have hsame : q = ⟨uri, d.text, d.version⟩ := by
    rw [← hu, ← htext, ← hv]
  exact hsame ▸ hfound

/-! ### One lens -/

/-- The position of a usage that was found in the text of the document leads back to its bytes. -/
theorem covers_of_lens? (hs : Initial s₀) (hlines : d.lines = lineStarts d.text) {a : Annotation}
    (hfound : s₀.Found ts ⟨uri, d.text, d.version⟩ a.usage) {settings : LensSettings} {lens : Lens}
    (hlens : lens? d settings a = some lens) : lens.Covers d a.usage := by
  obtain ⟨front, binding, token, back, htext, hbinding, hboundary, hnonempty, htoken, husage⟩ :=
    hfound.occurs hs
  simp only at htext husage
  unfold lens? at hlens
  obtain ⟨title, -, rfl⟩ := Option.map_eq_some_iff.mp hlens
  have hfront : d.text.toList = front ++ (binding ++ '.' :: token ++ back) := by
    rw [htext, List.append_assoc]
  have hstart : a.usage.start = byteLength front := by rw [husage]; rfl
  have hstop : a.usage.stop = byteLength (front ++ (binding ++ '.' :: token)) := by
    rw [husage, byteLength_append]
    rfl
  have hfits : ∀ {before after : List Char}, d.text.toList = before ++ after →
      byteLength d.text.toList < 2 ^ 32 →
      (Position.after before).line < 2 ^ 32 ∧ (Position.after before).character < 2 ^ 32 := by
    intro before after h hsize
    rw [h, byteLength_append] at hsize
    exact Position.after_lt (Nat.lt_of_le_of_lt (Nat.le_add_right _ _) hsize)
  -- the positions are those after the characters before the usage, and after the usage
  rw [hstart, hstop, Document.positionOf_byteLength hlines hfront,
    Document.positionOf_byteLength hlines htext]
  constructor
  · rw [hstart]
    exact Document.offsetOf?_after hlines hfront
  · rw [hstop]
    exact Document.offsetOf?_after hlines htext
  · refine ⟨front, binding, token, back, htext, ?_, hbinding, hboundary, hnonempty, htoken, husage⟩
    rw [husage]
    exact Document.slice_eq htext
  · exact fun hsize => ⟨hfits hfront hsize, hfits htext hsize⟩

/-- Lenses that are made from annotations cover usages of the document's text, if the annotations of the
document's version are of usages that were found in it. -/
theorem covers_of_mem_lenses (hs : Initial s₀) (hlines : d.lines = lineStarts d.text)
    {annotations : List Annotation}
    (hfound : ∀ a ∈ annotations, a.usage.version = d.version →
      s₀.Found ts ⟨uri, d.text, d.version⟩ a.usage)
    {settings : LensSettings} {lens : Lens} (hmem : lens ∈ lenses d settings annotations) :
    ∃ u, s₀.Found ts ⟨uri, d.text, d.version⟩ u ∧ lens.Covers d u := by
  obtain ⟨a, ha, hlens⟩ := List.mem_filterMap.mp hmem
  obtain ⟨ha, hv⟩ := List.mem_filter.mp ha
  have husage := hfound a ha (of_decide_eq_true hv)
  exact ⟨a.usage, husage, covers_of_lens? hs hlines husage hlens⟩

/-! ### What a request is answered from -/

/-- A lens request that is answered right away is answered from what is kept of the document's
version. -/
theorem answered_askLenses {id k : Nat} {found : List Lens}
    (h : (k, some found) ∈ (s.askLenses files id uri).answered) :
    k = id ∧ ∃ d settings annotations, s.documents.get? uri = some d ∧
      found = lenses d settings annotations ∧
      ∀ a ∈ annotations, ∃ kept, s.session.resolver.resolution? uri = some kept ∧
        kept.version = d.version ∧ a ∈ kept.annotations := by
  generalize hstep : s.askLenses files id uri = step at h
  cases hstep ▸ asks_askLenses s files id uri with
  | unwanted => simp [answerLens] at h
  | @kept annotations known =>
      simp only [answerLens, List.mem_singleton, Prod.mk.injEq] at h
      obtain ⟨rfl, hlenses⟩ := h
      obtain ⟨d, hd, rfl⟩ := Option.map_eq_some_iff.mp hlenses.symm
      obtain ⟨kept, hkept, hv, rfl⟩ :=
        Session.kept_of_annotations known (Documents.snapshot?_of_get? hd)
      exact ⟨rfl, d, _, _, hd, rfl, fun a ha => ⟨kept, hkept, hv, ha⟩⟩
  | refused unknown call =>
      simp only [answerLens, List.mem_singleton, Prod.mk.injEq] at h
      obtain ⟨rfl, hlenses⟩ := h
      obtain ⟨d, hd, rfl⟩ := Option.map_eq_some_iff.mp hlenses.symm
      refine ⟨rfl, d, _, _, hd, rfl, fun a ha => ?_⟩
      rw [Session.annotationsOf_refused call] at ha
      cases ha
  | waits => cases h

/-- A lens request that has waited is answered when its run ends. -/
theorem mem_answered_observe {step : ServerStep} {events : List Event} {k : Nat}
    {found : Option (List Lens)} (h : (k, found) ∈ (observe step events).answered) :
    (k, found) ∈ step.answered ∨ ∃ call answer uri settings, .answered call answer ∈ events ∧
      step.server.handlers.get? k = some (.lensResolving uri settings call) ∧
      found = step.server.lensesFor uri settings (Session.annotationsOf answer) := by
  induction events generalizing step with
  | nil => exact .inl h
  | cons e rest ih =>
      unfold observe at h
      simp only at h
      split at h
      · rename_i call answer
        set step₁ : ServerStep :=
          { step with sent := step.sent ++ step.server.messagesOf (.answered call answer) }
        obtain ⟨handlers, hanswers, heq⟩ := settleCall_eq step₁ call answer
        rcases ih h with hsettled | ⟨call', answer', uri, settings, hmem, hold, hfound⟩
        · unfold settleCall at hsettled
          split at hsettled
          · exact .inl hsettled
          · rename_i id uri settings hwaiting
            rcases List.mem_append.mp hsettled with hbefore | hnow
            · exact .inl hbefore
            · simp only [List.mem_singleton, Prod.mk.injEq] at hnow
              obtain ⟨rfl, rfl⟩ := hnow
              exact .inr ⟨call, answer, uri, settings, List.mem_cons_self,
                waits_of_waitingFor? hwaiting, rfl⟩
        · rw [heq] at hold hfound
          exact .inr ⟨call', answer', uri, settings, List.mem_cons_of_mem _ hmem,
            hanswers.old _ _ hold, hfound⟩
      · rcases ih h with hbefore | ⟨call, answer, uri, settings, hmem, hold, hfound⟩
        · exact .inl hbefore
        · exact .inr ⟨call, answer, uri, settings, List.mem_cons_of_mem _ hmem, hold, hfound⟩

/-- A handler that goes on answers lens requests only if it is that of one. -/
theorem answered_handled {id k : Nat} {found : Option (List Lens)}
    (h : (k, found) ∈ (s.stepHandler files id).answered) :
    ∃ u, s.handlers.get? id = some (.lensAsked u) ∧ (k, found) ∈ (s.askLenses files id u).answered := by
  cases hh : s.handlers.get? id with
  | none => simp [stepHandler, hh] at h
  | some handler =>
      cases handler with
      | lensAsked u =>
          simp only [stepHandler, hh] at h
          exact ⟨u, rfl, h⟩
      | opening =>
          simp only [stepHandler, hh] at h
          split at h <;> cases h
      | announcing | configuring | changing | lensResolving =>
          simp only [stepHandler, hh] at h
          cases h

/-! ### Every answer -/

/-- Whatever has happened to a server, and in whichever order its handlers and agents went on: if no
document has had two texts under one version, every lens of an answer covers a usage that was found in
the text that the document has then, under the version that it has then. -/
theorem lenses_line_up (hs : Initial s₀) (hclear : s₀.Unambiguous ts) {id : Nat} {found : List Lens}
    (hanswer : (id, some found) ∈ ((s₀.lived ts).meet t).answered) :
    ∃ uri d, s₀.Requested ts id uri ∧
      ((s₀.lived ts).meet t).server.documents.get? uri = some d ∧
      ∀ lens ∈ found, ∃ u, s₀.Found (ts ++ [t]) ⟨uri, d.text, d.version⟩ u ∧ lens.Covers d u := by
  obtain ⟨files, impulse⟩ := t
  have hgrounded := grounded_lived hs ts
  have hpending := pending_lived hs ts
  cases impulse with
  | received call => simp [meet, act] at hanswer
  | handled k =>
      obtain ⟨uri, hasked, hmem⟩ := answered_handled hanswer
      obtain ⟨rfl, d, settings, annotations, hd, rfl, hkept⟩ := answered_askLenses hmem
      refine ⟨uri, d, hpending.requests _ _ uri hasked .asked, ?_, fun lens hlens => ?_⟩
      · simp only [meet, act, stepHandler, hasked, documents_askLenses]
        exact hd
      · refine covers_of_mem_lenses hs (hgrounded.lines uri d hd) (fun a ha hv => ?_) hlens
        obtain ⟨kept, hres, hversion, hmem⟩ := hkept a ha
        obtain ⟨text, hheld, hback⟩ := hgrounded.session.kept uri kept hres
        exact hclear.found hd hheld rfl hversion ((hback a hmem).concat _)
  | resumed k expired =>
      have hturn := Session.turn_act (s₀.lived ts).session
        ⟨(s₀.lived ts).editor files, .resumed k expired⟩
      obtain ⟨handlers, -, heq⟩ := stepAgent_server (s₀.lived ts) files k expired
      rcases mem_answered_observe hanswer with hnone | ⟨call, answer, uri, settings, hmem, hold, hfound⟩
      · cases hnone
      obtain ⟨d, hd, rfl⟩ := Option.map_eq_some_iff.mp hfound.symm
      refine ⟨uri, d, hpending.requests _ _ uri hold (.resolving settings call), ?_, fun lens hlens => ?_⟩
      · rw [meet, act, heq]
        exact hd
      · -- the run scans with this very impulse, or has scanned before
        have hsourced := hgrounded.session.mono (fun _ hq => hq) fun q u hu =>
          Found.concat hu ⟨files, .resumed k expired⟩
        obtain ⟨run, hrun, hheld, husages⟩ := hsourced.of_answered hturn (fun id expired ho q u hu => by
          cases ho
          exact ⟨ts, files, k, expired, [], rfl, hu⟩) hmem
        obtain ⟨run', heq', huri⟩ := (hpending.calls _ uri settings call hold).agent _ hrun
        cases heq'
        refine covers_of_mem_lenses hs (hgrounded.lines uri d hd) (fun a ha hv => ?_) hlens
        have hfound := husages a ha
        have hversion : run.request.version = d.version := by
          obtain ⟨front, binding, token, back, -, -, -, -, -, husage⟩ := hfound.occurs hs
          rw [← hv, husage]
          rfl
        exact hclear.found hd hheld huri hversion hfound

end Server

/-! ### A sample -/

namespace Sample

/-- The stylesheet and the document are opened, and a lens request waits for a run, which is about to
end. -/
def asking : List Instant :=
  let run : List Impulse := List.replicate 3 (.resumed 2 false)
  (opening.take 6 ++ .received (.lenses uri) :: .handled 2 :: run).map (Instant.mk {})

/-- The texts that the documents have, under their versions. -/
def versions : List Request := [⟨sheet, "red", 1⟩, ⟨uri, page.text, 1⟩]

end Sample

namespace Server

open Sample in
theorem unambiguous_asking : server.Unambiguous asking := by
  have hheld : ∀ q, server.Held asking q → q ∈ versions := by
    rintro ⟨u, text, version⟩ ⟨before, d, hbefore, hd, rfl, rfl⟩
    have hall : ∀ before ∈ asking.inits, ∀ e ∈ (server.lived before).documents.entries,
        ⟨e.1, e.2.text, e.2.version⟩ ∈ versions := by
      decide +kernel
    exact hall before ((List.mem_inits _ _).mpr hbefore) (u, d) (Table.mem_of_lookup hd)
  have hclear : ∀ q ∈ versions, ∀ q' ∈ versions, q.uri = q'.uri → q.version = q'.version →
      q.text = q'.text := by
    decide
  exact fun q q' hq hq' => hclear q (hheld q hq) q' (hheld q' hq')

open Sample in
/-- The run ends, and the lens of the answer stands over `styles.a`. -/
theorem lenses_line_up_of_asking :
    let t : Instant := ⟨{}, .resumed 2 false⟩
    let lens : Lens := ⟨⟨0, 17⟩, ⟨0, 25⟩, ".a \x7b color: red; \x7d"⟩
    ((server.lived asking).meet t).answered = [(2, some [lens])] ∧
      ∃ u, server.Found (asking ++ [t]) ⟨Sample.uri, page.text, 1⟩ u ∧ lens.Covers page u := by
  intro t lens
  have hanswered : ((server.lived asking).meet t).answered = [(2, some [lens])] := by decide +kernel
  have hs : Initial server := .begun painter true {} {}
  obtain ⟨u, d, ⟨before, files, later, hcourse, -⟩, hd, hcovers⟩ :=
    lenses_line_up hs unambiguous_asking (hanswered ▸ List.mem_singleton_self _)
  -- only the document's lenses are asked for
  have hrequest : ⟨files, .received (.lenses u)⟩ ∈ asking := by simp [hcourse]
  obtain ⟨-, rfl⟩ : files = {} ∧ u = Sample.uri := by simpa [asking, opening] using hrequest
  have hpage : ((server.lived asking).meet t).server.documents.get? Sample.uri = some page := by
    decide +kernel
  rw [hpage, Option.some.injEq] at hd
  subst hd
  exact ⟨hanswered, hcovers lens (List.mem_singleton_self _)⟩

end Server

end ClassLens
