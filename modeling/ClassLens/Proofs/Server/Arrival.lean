import ClassLens.Proofs.Server.Configuration
import ClassLens.Proofs.Server.Deeds
import ClassLens.Proofs.Server.Stylesheets

/-! # Notices in the order of their arrival

A client tells of a document when it opens, changes or closes it.  Changes and closings are heeded as they
arrive.  An opening is heeded only when its handler has told the client's log, and by then a change or a
closing may have overtaken it: the change finds no document, and the closing leaves it open.

* `Notice`, `Documents.heed`, `Documents.heedAll`: what a client tells of a document, and what some
  notices come to, one after the other.
* `arrivals ts`, `Server.effects s ts`: the notices of a course in the order in which they arrive, and in
  the order in which they are heeded.
* `Server.Opening s uri`: an opening of the document has arrived and is not heeded yet.
* `Proper uri ts`: the client opens the document only while it is closed, and changes and closes it only
  while it is open.
* `Server.Heeded s uri ts`: every change and every closing of the document finds it open.
* `Server.Unhurried s uri ts`: no notice of the document arrives while an opening of it is not heeded.

**Main statements.** `Server.documents_lived`: the open documents are what the notices come to in the
order in which they are heeded.  `Server.in_order_of_arrival`: nothing overtakes an opening if and only if
no change or closing is lost, and then the document is what the notices come to in the order in which they
arrived. -/

namespace ClassLens

/-! ### Notices -/

/-- What a client tells of a document. -/
inductive Notice where
  | opened (uri : Uri) (language text : String) (version : Int)
  | changed (uri : Uri) (changes : List Change) (version : Int)
  | closed (uri : Uri)

namespace Notice

def uri : Notice → Uri
  | opened uri _ _ _ => uri
  | changed uri _ _ => uri
  | closed uri => uri

def isOpening : Notice → Bool
  | opened _ _ _ _ => true
  | _ => false

/-- What the document is after the notice. -/
def outcome : Notice → Option Document → Option Document
  | opened uri language text version, _ => some (.ofText uri language text version)
  | changed _ changes version, d => d.map fun d => d.apply changes version
  | closed _, _ => none

end Notice

/-- The notice that arrives with an impulse. -/
def Impulse.notice? : Impulse → Option Notice
  | .received (.opened uri language text version) => some (.opened uri language text version)
  | .received (.changed uri changes version) => some (.changed uri changes version)
  | .received (.closed uri) => some (.closed uri)
  | _ => none

/-- The notice that a handler has not heeded yet. -/
def Handler.notice? : Handler → Option Notice
  | .opening uri language text version => some (.opened uri language text version)
  | .announcing uri language text version => some (.opened uri language text version)
  | _ => none

/-- The notices about a document. -/
def about (uri : Uri) (ns : List Notice) : List Notice := ns.filter fun n => n.uri = uri

theorem about_append (uri : Uri) (ns ns' : List Notice) :
    about uri (ns ++ ns') = about uri ns ++ about uri ns' :=
  List.filter_append _ _

theorem about_cons_of_eq {uri : Uri} {n : Notice} (h : n.uri = uri) (ns : List Notice) :
    about uri (n :: ns) = n :: about uri ns :=
  List.filter_cons_of_pos (decide_eq_true h)

theorem about_cons_of_ne {uri : Uri} {n : Notice} (h : n.uri ≠ uri) (ns : List Notice) :
    about uri (n :: ns) = about uri ns :=
  List.filter_cons_of_neg (by simpa using h)

theorem Handler.isOpening_of_notice? {h : Handler} {n : Notice} (hn : h.notice? = some n) :
    n.isOpening = true := by
  cases h with
  | opening | announcing =>
      cases hn
      rfl
  | _ => cases hn

theorem Handler.notice?_of_waits {h : Handler} (hw : h.Waits) : h.notice? = none := by
  obtain ⟨uri, settings, call, rfl⟩ := hw
  rfl

namespace Documents

variable {uri : Uri}

/-- A notice is heeded. -/
def heed (ds : Documents) : Notice → Documents
  | .opened uri language text version => ds.openDocument uri language text version
  | .changed uri changes version => ds.change uri changes version
  | .closed uri => ds.close uri

/-- Notices are heeded, one after the other. -/
def heedAll (ds : Documents) (ns : List Notice) : Documents := ns.foldl heed ds

theorem heedAll_append (ds : Documents) (ns ns' : List Notice) :
    ds.heedAll (ns ++ ns') = (ds.heedAll ns).heedAll ns' :=
  List.foldl_append

/-- A notice is about one document. -/
theorem get?_heed (ds : Documents) (n : Notice) (uri : Uri) :
    (ds.heed n).get? uri = if n.uri = uri then n.outcome (ds.get? uri) else ds.get? uri := by
  cases n with
  | opened u language text version => exact Table.get?_insert _ _ _ _
  | closed u => exact Table.get?_erase _ _ _
  | changed u changes version =>
      change (ds.change u changes version).get? uri =
        if u = uri then (ds.get? uri).map (fun d => d.apply changes version) else ds.get? uri
      unfold change Table.modify
      by_cases hu : u = uri
      · subst hu
        cases hd : ds.get? u <;> simp [hd]
      · cases hd : ds.get? u <;> simp [hu]

/-- A document is what the notices about it come to. -/
theorem get?_heedAll (ds : Documents) (ns : List Notice) (uri : Uri) :
    (ds.heedAll ns).get? uri = (about uri ns).foldl (fun d n => n.outcome d) (ds.get? uri) := by
  induction ns generalizing ds with
  | nil => rfl
  | cons n ns ih =>
      change ((ds.heed n).heedAll ns).get? uri = _
      rw [ih, get?_heed]
      by_cases hu : n.uri = uri
      · rw [about_cons_of_eq hu, List.foldl_cons, if_pos hu]
      · rw [about_cons_of_ne hu, if_neg hu]

theorem get?_heedAll_congr (ds : Documents) {ns ns' : List Notice} (h : about uri ns = about uri ns') :
    (ds.heedAll ns).get? uri = (ds.heedAll ns').get? uri := by
  rw [get?_heedAll, get?_heedAll, h]

/-- After an opening as the last notice about it, a document is open. -/
theorem contains_heedAll_of_opening (ds : Documents) {ns front : List Notice} {n : Notice}
    (h : about uri ns = front ++ [n]) (hn : n.isOpening = true) :
    (ds.heedAll ns).contains uri = true := by
  rw [Table.contains, get?_heedAll, h, List.foldl_append]
  cases n with
  | opened => rfl
  | changed | closed => cases hn

end Documents

/-! ### Arrivals and effects -/

/-- The notices of a course in the order in which they arrive. -/
def arrivals (ts : List Instant) : List Notice := ts.filterMap fun t => t.impulse.notice?

theorem arrivals_concat (ts : List Instant) (t : Instant) :
    arrivals (ts ++ [t]) = arrivals ts ++ t.impulse.notice?.toList := by
  rw [arrivals, List.filterMap_append, arrivals]
  cases h : t.impulse.notice? <;> simp [h]

/-- The notice arrives after a part of the course. -/
def Arrives (ts before : List Instant) (n : Notice) : Prop :=
  ∃ t later, ts = before ++ t :: later ∧ t.impulse.notice? = some n

/-- The client opens the document only while it is closed, and changes and closes it only while it is
open. -/
def Proper (uri : Uri) (ts : List Instant) : Prop :=
  ∀ before n, Arrives ts before n → n.uri = uri →
    (Documents.heedAll .empty (arrivals before)).contains uri = !n.isOpening

section

variable {ts ts' before : List Instant} {t : Instant} {n : Notice} {uri : Uri}

theorem Arrives.prefix (h : Arrives ts before n) : before <+: ts := by
  obtain ⟨t, later, rfl, -⟩ := h
  exact List.prefix_append before _

theorem Arrives.mono (h : Arrives ts before n) (hts : ts <+: ts') : Arrives ts' before n := by
  obtain ⟨t, later, rfl, hn⟩ := h
  obtain ⟨rest, rfl⟩ := hts
  exact ⟨t, later ++ rest, by simp, hn⟩

theorem Arrives.last (ts : List Instant) (hn : t.impulse.notice? = some n) :
    Arrives (ts ++ [t]) ts n :=
  ⟨t, [], rfl, hn⟩

theorem arrives_concat (h : Arrives (ts ++ [t]) before n) :
    Arrives ts before n ∨ before = ts ∧ t.impulse.notice? = some n := by
  obtain ⟨t', later, hts, hn⟩ := h
  rcases List.eq_nil_or_concat later with rfl | ⟨later, last, rfl⟩
  · obtain ⟨rfl, hlast⟩ := List.append_inj' hts rfl
    rw [List.singleton_inj] at hlast
    exact .inr ⟨rfl, hlast ▸ hn⟩
  · have hts' : ts ++ [t] = (before ++ t' :: later) ++ [last] := by
      rw [hts, List.concat_eq_append, List.append_assoc, List.cons_append]
    obtain ⟨rfl, -⟩ := List.append_inj' hts' rfl
    exact .inl ⟨t', later, rfl, hn⟩

/-- The last notice about a document arrives after the others. -/
theorem exists_arrives {front : List Notice} (h : about uri (arrivals ts) = front ++ [n]) :
    ∃ before, Arrives ts before n ∧ about uri (arrivals before) = front := by
  induction ts using List.reverseRecOn with
  | nil => simp [arrivals, about] at h
  | append_singleton ts t ih =>
      have hearlier : about uri (arrivals ts) = front ++ [n] →
          ∃ before, Arrives (ts ++ [t]) before n ∧ about uri (arrivals before) = front := by
        intro hbefore
        obtain ⟨before, harrives, hfront⟩ := ih hbefore
        exact ⟨before, harrives.mono (List.prefix_append ts [t]), hfront⟩
      rw [arrivals_concat, about_append] at h
      cases ht : t.impulse.notice? with
      | none =>
          rw [ht] at h
          exact hearlier (by simpa [about] using h)
      | some m =>
          rw [ht, Option.toList_some] at h
          by_cases hu : m.uri = uri
          · rw [about_cons_of_eq hu] at h
            obtain ⟨hfront, hlast⟩ := List.append_inj' h rfl
            exact ⟨ts, .last ts ((List.cons.inj hlast).1 ▸ ht), hfront⟩
          · rw [about_cons_of_ne hu] at h
            exact hearlier (by simpa [about] using h)

theorem Proper.of_prefix (h : Proper uri ts') (hts : ts <+: ts') : Proper uri ts :=
  fun before n harrives => h before n (harrives.mono hts)

end

namespace Server

variable {s₀ s : Server} {ts ts' : List Instant} {t : Instant} {n : Notice} {uri : Uri}

/-- The notice that is heeded with an impulse. -/
def effect? (s : Server) : Impulse → Option Notice
  | .received (.changed uri changes version) => some (.changed uri changes version)
  | .received (.closed uri) => some (.closed uri)
  | .handled id =>
    match s.handlers.get? id with
    | some (.opening uri language text version) =>
      if s.settings.logging.level.allowsInfo then none else some (.opened uri language text version)
    | some (.announcing uri language text version) => some (.opened uri language text version)
    | _ => none
  | _ => none

/-- The notices of a course in the order in which they are heeded. -/
def effects (s : Server) : List Instant → List Notice
  | [] => []
  | t :: ts => (s.effect? t.impulse).toList ++ effects (s.meet t).server ts

theorem effects_concat (s : Server) (ts : List Instant) (t : Instant) :
    s.effects (ts ++ [t]) = s.effects ts ++ ((s.lived ts).effect? t.impulse).toList := by
  induction ts generalizing s with
  | nil => simp [effects]
  | cons t' ts ih => simp only [List.cons_append, effects, ih, lived_cons, List.append_assoc]

theorem documents_openDocument (s : Server) (files : FileTree) (u : Uri) (language text : String)
    (version : Int) :
    (s.openDocument files u language text version).documents =
      s.documents.openDocument u language text version :=
  (updates_documentUpdated
    { s with documents := s.documents.openDocument u language text version } files u true).documents

theorem documents_changeDocument (s : Server) (files : FileTree) (u : Uri) (changes : List Change)
    (version : Int) :
    (s.changeDocument files u changes version).documents = s.documents.change u changes version := by
  unfold changeDocument
  split
  · exact (updates_documentUpdated
      { s with documents := s.documents.change u changes version } files u false).documents
  · rename_i hclosed
    rw [Table.contains, Bool.not_eq_true, Option.isSome_eq_false_iff, Option.isNone_iff_eq_none] at hclosed
    simp only [Documents.change, Table.modify, hclosed]

/-- The documents change as the notice that is heeded says. -/
theorem documents_meet (s : Server) (t : Instant) :
    (s.meet t).server.documents = s.documents.heedAll (s.effect? t.impulse).toList := by
  obtain ⟨files, impulse⟩ := t
  cases impulse with
  | received call =>
      cases call with
      | opened | configured | lenses => rfl
      | changed u changes version => exact documents_changeDocument s files u changes version
      | closed u => exact documents_closeDocument s files u
  | handled id =>
      cases hh : s.handlers.get? id with
      | none =>
          simp only [meet, act, stepHandler, effect?, hh]
          rfl
      | some handler =>
          cases handler with
          | opening u language text version =>
              simp only [meet, act, stepHandler, effect?, hh]
              split
              · rfl
              · exact documents_openDocument s files u language text version
          | announcing u language text version =>
              simp only [meet, act, stepHandler, effect?, hh]
              exact documents_openDocument s files u language text version
          | configuring payload =>
              simp only [meet, act, stepHandler, effect?, hh]
              split <;> rfl
          | changing new phase =>
              simp only [meet, act, stepHandler, effect?, hh]
              cases phase with
              | begun | scanner | options | extractor => rfl
              | keeping =>
                  simp only [stepSettings]
                  split <;> rfl
          | lensAsked u =>
              simp only [meet, act, stepHandler, effect?, hh]
              exact documents_askLenses s files id u
          | lensResolving u settings call =>
              simp only [meet, act, stepHandler, effect?, hh]
              rfl
  | resumed id expired =>
      obtain ⟨handlers, -, heq⟩ := stepAgent_server s files id expired
      simp only [meet, act, heq]
      rfl

/-- The open documents are what the notices come to in the order in which they are heeded. -/
theorem documents_lived (s : Server) (ts : List Instant) :
    (s.lived ts).documents = s.documents.heedAll (s.effects ts) := by
  induction ts using List.reverseRecOn with
  | nil => rfl
  | append_singleton ts t ih =>
      rw [lived_concat, documents_meet, ih, effects_concat, Documents.heedAll_append]

/-! ### Openings that are not heeded yet -/

/-- The notice that the handler with the number has not heeded yet. -/
def pending? (s : Server) (id : Nat) : Option Notice := (s.handlers.get? id).bind Handler.notice?

/-- An opening of the document has arrived and is not heeded yet. -/
def Opening (s : Server) (uri : Uri) : Prop := ∃ id n, s.pending? id = some n ∧ n.uri = uri

theorem opening_iff :
    s.Opening uri ↔ ∃ e ∈ s.handlers.entries, e.2.notice?.any (fun n => n.uri = uri) = true := by
  constructor
  · rintro ⟨id, n, hwaits, hu⟩
    obtain ⟨h, hh, hn⟩ := Option.bind_eq_some_iff.mp hwaits
    exact ⟨(id, h), Table.mem_of_lookup hh, by simp [hn, hu]⟩
  · rintro ⟨⟨id, h⟩, hmem, hany⟩
    obtain ⟨n, hn, hu⟩ := (Option.any_eq_true _ _).mp hany
    have hh : s.handlers.get? id = some h := Table.lookup_of_mem s.handlers.nodup hmem
    exact ⟨id, n, Option.bind_eq_some_iff.mpr ⟨h, hh, hn⟩, of_decide_eq_true hu⟩

instance decidableOpening (s : Server) (uri : Uri) : Decidable (s.Opening uri) :=
  decidable_of_iff _ opening_iff.symm

theorem Numbered.pending? (hn : s.Numbered) : s.pending? s.nextHandler = none := by
  unfold Server.pending?
  cases hh : s.handlers.get? s.nextHandler with
  | none => rfl
  | some h => exact absurd (hn _ h hh) (Nat.lt_irrefl _)

theorem isOpening_of_pending? {id : Nat} (h : s.pending? id = some n) : n.isOpening = true := by
  obtain ⟨handler, -, hn⟩ := Option.bind_eq_some_iff.mp h
  exact Handler.isOpening_of_notice? hn

variable {s' : Server} {id : Nat} {h : Handler}

theorem pending?_insert (hs : s'.handlers = s.handlers.insert id h) (id' : Nat) :
    s'.pending? id' = if id = id' then h.notice? else s.pending? id' := by
  rw [pending?, hs, Table.get?_insert]
  split <;> rfl

theorem pending?_erase (hs : s'.handlers = s.handlers.erase id) (id' : Nat) :
    s'.pending? id' = if id = id' then none else s.pending? id' := by
  rw [pending?, hs, Table.get?_erase]
  split <;> rfl

theorem pending?_congr (hs : s'.handlers = s.handlers) (id' : Nat) : s'.pending? id' = s.pending? id' := by
  rw [pending?, pending?, hs]

/-- A handler goes on without heeding a notice. -/
theorem pending?_put (hs : s'.handlers = s.handlers.insert id h) (hsame : s.pending? id = h.notice?)
    (id' : Nat) : s'.pending? id' = s.pending? id' := by
  rw [pending?_insert hs]
  split
  · rename_i hid
    rw [← hid, hsame]
  · rfl

/-- A handler ends that has no notice to heed. -/
theorem pending?_drop (hs : s'.handlers = s.handlers.erase id) (hnone : s.pending? id = none)
    (id' : Nat) : s'.pending? id' = s.pending? id' := by
  rw [pending?_erase hs]
  split
  · rename_i hid
    rw [← hid, hnone]
  · rfl

/-- Handlers that wait for a run have no notice to heed. -/
theorem pending?_answers (hs : Answers s.handlers s'.handlers) (id' : Nat) :
    s'.pending? id' = s.pending? id' := by
  unfold pending?
  cases hafter : s'.handlers.get? id' with
  | some h => rw [hs.old id' h hafter]
  | none =>
      cases hbefore : s.handlers.get? id' with
      | none => rfl
      | some h =>
          by_cases hwaits : h.Waits
          · exact (Handler.notice?_of_waits hwaits).symm
          · rw [hs.stays id' h hbefore hwaits] at hafter
            cases hafter

/-- What becomes of notices with an impulse. -/
inductive Passes (s : Server) (t : Instant) : Prop where
  /-- An opening arrives and is to be heeded by a new handler. -/
  | opened {n : Notice} (arrives : t.impulse.notice? = some n) (effect : s.effect? t.impulse = none)
      (pending : ∀ id, (s.meet t).server.pending? id =
        if s.nextHandler = id then some n else s.pending? id)
  /-- An opening is heeded. -/
  | entered {id : Nat} {n : Notice} (arrives : t.impulse.notice? = none)
      (effect : s.effect? t.impulse = some n) (waited : s.pending? id = some n)
      (pending : ∀ id', (s.meet t).server.pending? id' = if id = id' then none else s.pending? id')
  /-- Whatever arrives is heeded at once. -/
  | direct (effect : s.effect? t.impulse = t.impulse.notice?)
      (pending : ∀ id, (s.meet t).server.pending? id = s.pending? id)

/-- A handler that goes on heeds the opening that it was made for, or nothing. -/
theorem passes_handled (s : Server) (files : FileTree) (id : Nat) : s.Passes ⟨files, .handled id⟩ := by
  cases hh : s.handlers.get? id with
  | none =>
      refine .direct (by simp only [effect?, hh, Impulse.notice?]) (pending?_congr ?_)
      simp only [meet, act, stepHandler, hh]
  | some handler =>
      have hpending : s.pending? id = handler.notice? := by rw [pending?, hh, Option.bind_some]
      cases handler with
      | opening u language text version =>
          cases hinfo : s.settings.logging.level.allowsInfo with
          | true =>
              refine .direct (by simp only [effect?, hh, hinfo, if_true, Impulse.notice?])
                (pending?_put (h := .announcing u language text version) ?_ hpending)
              simp only [meet, act, stepHandler, hh, hinfo, if_true, put]
          | false =>
              refine .entered rfl (by simp [effect?, hh, hinfo]) hpending (pending?_erase ?_)
              simp only [meet, act, stepHandler, hh, hinfo, Bool.false_eq_true, if_false, drop,
                handlers_openDocument]
      | announcing u language text version =>
          refine .entered rfl (by simp only [effect?, hh]) hpending (pending?_erase ?_)
          simp only [meet, act, stepHandler, hh, drop, handlers_openDocument]
      | configuring payload =>
          refine .direct (by simp only [effect?, hh, Impulse.notice?]) ?_
          simp only [meet, act, stepHandler, hh]
          split
          · exact pending?_drop rfl hpending
          · exact pending?_put rfl hpending
      | changing new phase =>
          refine .direct (by simp only [effect?, hh, Impulse.notice?]) ?_
          simp only [meet, act, stepHandler, hh]
          cases phase with
          | begun | scanner | options | extractor => exact pending?_put rfl hpending
          | keeping =>
              simp only [stepSettings]
              split <;> exact pending?_drop rfl hpending
      | lensAsked u =>
          refine .direct (by simp only [effect?, hh, Impulse.notice?]) ?_
          obtain ⟨handlers, hcases, heq⟩ := askLenses_cases s files id u
          have hhandlers : (s.askLenses files id u).server.handlers = handlers := by
            rcases heq with heq | heq <;> rw [heq]
          simp only [meet, act, stepHandler, hh]
          rcases hcases with rfl | ⟨settings, call, rfl⟩
          · exact pending?_drop hhandlers hpending
          · exact pending?_put hhandlers hpending
      | lensResolving u settings call =>
          refine .direct (by simp only [effect?, hh, Impulse.notice?]) (pending?_congr ?_)
          simp only [meet, act, stepHandler, hh]

/-- There are no other cases. -/
theorem passes_meet (hn : s.Numbered) (t : Instant) : s.Passes t := by
  obtain ⟨files, impulse⟩ := t
  cases impulse with
  | received call =>
      cases call with
      | opened u language text version =>
          exact .opened rfl rfl (pending?_insert (h := .opening u language text version) rfl)
      | changed u changes version =>
          exact .direct rfl (pending?_congr (handlers_changeDocument s files u changes version))
      | closed u => exact .direct rfl (pending?_congr (handlers_closeDocument s files u))
      | configured | lenses => exact .direct rfl (pending?_put rfl hn.pending?)
  | handled id => exact passes_handled s files id
  | resumed id expired =>
      obtain ⟨handlers, hanswers, heq⟩ := stepAgent_server s files id expired
      refine .direct rfl (pending?_answers ?_)
      simp only [meet, act, heq]
      exact hanswers

/-! ### In step -/

/-- The notices about the document are heeded in the order of their arrival, and at most one opening of
it is not heeded yet. -/
inductive InStep (uri : Uri) (arrived heeded : List Notice) (s : Server) : Prop where
  | settled (none : ¬ s.Opening uri) (same : about uri arrived = about uri heeded)
  | opening {id : Nat} {n : Notice} (waits : s.pending? id = some n) (of : n.uri = uri)
      (only : ∀ id' n', s.pending? id' = some n' → n'.uri = uri → id' = id)
      (last : about uri arrived = about uri heeded ++ [n])

variable {arrived arrived' heeded heeded' : List Notice}

/-- Nothing happens to the notices about the document. -/
theorem InStep.of_same (h : InStep uri arrived heeded s)
    (hpending : ∀ id n, n.uri = uri → (s'.pending? id = some n ↔ s.pending? id = some n))
    (harrived : about uri arrived' = about uri arrived)
    (hheeded : about uri heeded' = about uri heeded) : InStep uri arrived' heeded' s' := by
  cases h with
  | settled none same =>
      refine .settled ?_ (by rw [harrived, hheeded, same])
      rintro ⟨id, n, hwaits, hu⟩
      exact none ⟨id, n, (hpending id n hu).mp hwaits, hu⟩
  | @opening id n waits of only last =>
      refine .opening ((hpending id n of).mpr waits) of ?_ (by rw [harrived, hheeded, last])
      intro id' n' hwaits hu
      exact only id' n' ((hpending id' n' hu).mp hwaits) hu

/-- An opening of the document arrives while no other is waiting. -/
theorem InStep.opened (h : InStep uri arrived heeded s) (hnone : ¬ s.Opening uri) (hu : n.uri = uri)
    (hpending : ∀ id, s'.pending? id = if s.nextHandler = id then some n else s.pending? id) :
    InStep uri (arrived ++ [n]) heeded s' := by
  cases h with
  | opening waits of => exact absurd ⟨_, _, waits, of⟩ hnone
  | settled none same =>
      have hwaits : s'.pending? s.nextHandler = some n := by rw [hpending, if_pos rfl]
      refine .opening hwaits hu ?_ ?_
      · intro id' n' hwaits hu'
        rw [hpending] at hwaits
        split at hwaits
        · rename_i hid
          exact hid.symm
        · exact absurd ⟨id', n', hwaits, hu'⟩ hnone
      · rw [about_append, same, about_cons_of_eq hu]
        rfl

/-- The opening of the document is heeded. -/
theorem InStep.entered (h : InStep uri arrived heeded s) (hu : n.uri = uri)
    (waited : s.pending? id = some n)
    (hpending : ∀ id', s'.pending? id' = if id = id' then none else s.pending? id') :
    InStep uri arrived (heeded ++ [n]) s' := by
  cases h with
  | settled none => exact absurd ⟨id, n, waited, hu⟩ none
  | @opening id₀ m waits of only last =>
      obtain rfl := only id n waited hu
      rw [waits, Option.some.injEq] at waited
      subst waited
      refine .settled ?_ ?_
      · rintro ⟨id', n', hwaits, hu'⟩
        rw [hpending] at hwaits
        split at hwaits
        · cases hwaits
        · rename_i hid
          exact hid (only id' n' hwaits hu').symm
      · rw [about_append, last, about_cons_of_eq hu]
        rfl

/-- An impulse keeps in step what is, unless a notice about the document arrives while an opening of it is
not heeded. -/
theorem inStep_meet (hn : s.Numbered) (h : InStep uri arrived heeded s)
    (hcalm : ∀ n, t.impulse.notice? = some n → n.uri = uri → ¬ s.Opening uri) :
    InStep uri (arrived ++ t.impulse.notice?.toList) (heeded ++ (s.effect? t.impulse).toList)
      (s.meet t).server := by
  have hother : ∀ {n : Notice} (ns : List Notice), n.uri ≠ uri → about uri (ns ++ [n]) = about uri ns :=
    fun ns hu => by rw [about_append, about_cons_of_ne hu]; exact List.append_nil _
  cases passes_meet hn t with
  | @opened n arrives effect pending =>
      rw [arrives, effect, Option.toList_some, Option.toList_none, List.append_nil]
      by_cases hu : n.uri = uri
      · exact h.opened (hcalm n arrives hu) hu pending
      · refine h.of_same (fun id m hm => ?_) (hother arrived hu) rfl
        rw [pending]
        split
        · rename_i hid
          rw [← hid, hn.pending?, Option.some.injEq]
          exact ⟨fun heq => absurd (heq ▸ hm) hu, fun heq => by cases heq⟩
        · exact Iff.rfl
  | @entered id n arrives effect waited pending =>
      rw [arrives, effect, Option.toList_some, Option.toList_none, List.append_nil]
      by_cases hu : n.uri = uri
      · exact h.entered hu waited pending
      · refine h.of_same (fun id' m hm => ?_) rfl (hother heeded hu)
        rw [pending]
        split
        · rename_i hid
          rw [← hid, waited, Option.some.injEq]
          exact ⟨(fun heq => by cases heq), fun heq => absurd (heq ▸ hm) hu⟩
        · exact Iff.rfl
  | direct effect pending =>
      rw [effect]
      by_cases hopening : s.Opening uri
      · -- whatever arrives is about other documents
        have hnone : about uri t.impulse.notice?.toList = [] := by
          cases ht : t.impulse.notice? with
          | none => rfl
          | some m => exact about_cons_of_ne (fun hu => hcalm m ht hu hopening) []
        refine h.of_same (fun id m _ => by rw [pending]) ?_ ?_ <;>
          rw [about_append, hnone, List.append_nil]
      · cases h with
        | opening waits of => exact absurd ⟨_, _, waits, of⟩ hopening
        | settled none same =>
            refine .settled ?_ (by rw [about_append, about_append, same])
            rintro ⟨id, n, hwaits, hu⟩
            exact none ⟨id, n, pending id ▸ hwaits, hu⟩

/-! ### Courses -/

/-- Every change and every closing of the document finds it open. -/
def Heeded (s₀ : Server) (uri : Uri) (ts : List Instant) : Prop :=
  ∀ before n, Arrives ts before n → n.uri = uri → n.isOpening = false →
    (s₀.lived before).documents.contains uri = true

/-- No notice of the document arrives while an opening of it is not heeded. -/
def Unhurried (s₀ : Server) (uri : Uri) (ts : List Instant) : Prop :=
  ∀ before n, Arrives ts before n → n.uri = uri → ¬ (s₀.lived before).Opening uri

theorem Heeded.of_prefix (h : s₀.Heeded uri ts') (hts : ts <+: ts') : s₀.Heeded uri ts :=
  fun before n harrives => h before n (harrives.mono hts)

theorem Unhurried.of_prefix (h : s₀.Unhurried uri ts') (hts : ts <+: ts') : s₀.Unhurried uri ts :=
  fun before n harrives => h before n (harrives.mono hts)

theorem numbered_lived (hs : Initial s₀) (ts : List Instant) : (s₀.lived ts).Numbered := by
  induction ts using List.reverseRecOn with
  | nil =>
      intro id h hh
      rw [lived_nil, hs.handlers, Table.get?_empty] at hh
      cases hh
  | append_singleton ts t ih =>
      rw [lived_concat]
      exact numbered_act ih (nextHandler_act _ _ _)

/-- In an unhurried course the notices about the document are heeded in the order of their arrival. -/
theorem inStep_lived (hs : Initial s₀) (h : s₀.Unhurried uri ts) :
    InStep uri (arrivals ts) (s₀.effects ts) (s₀.lived ts) := by
  induction ts using List.reverseRecOn with
  | nil =>
      refine .settled ?_ rfl
      rintro ⟨id, n, hwaits, -⟩
      rw [pending?, lived_nil, hs.handlers, Table.get?_empty] at hwaits
      cases hwaits
  | append_singleton ts t ih =>
      rw [arrivals_concat, effects_concat, lived_concat]
      exact inStep_meet (numbered_lived hs ts) (ih (h.of_prefix (List.prefix_append ts [t])))
        fun n hn hu => h ts n (.last ts hn) hu

/-- The document is what the notices about it come to in the order in which they are heeded. -/
theorem get?_lived (hs : Initial s₀) {ns : List Notice} (h : about uri ns = about uri (s₀.effects ts)) :
    (s₀.lived ts).documents.get? uri = (Documents.heedAll .empty ns).get? uri := by
  rw [documents_lived, hs.documents]
  exact Documents.get?_heedAll_congr .empty h.symm

/-- Once nothing waits, the document is what the notices come to in the order of their arrival. -/
theorem Unhurried.get?_lived (h : s₀.Unhurried uri ts) (hs : Initial s₀)
    (hnone : ¬ (s₀.lived ts).Opening uri) :
    (s₀.lived ts).documents.get? uri = (Documents.heedAll .empty (arrivals ts)).get? uri := by
  cases inStep_lived hs h with
  | settled none same => exact Server.get?_lived hs same
  | opening waits of => exact absurd ⟨_, _, waits, of⟩ hnone

/-- A notice that overtakes an opening finds the document closed. -/
theorem not_contains_of_opening (hs : Initial s₀) (hproper : Proper uri ts)
    (h : s₀.Unhurried uri ts) (hopening : (s₀.lived ts).Opening uri) :
    (s₀.lived ts).documents.contains uri = false := by
  cases inStep_lived hs h with
  | settled none => exact absurd hopening none
  | @opening id n waits of only last =>
      obtain ⟨before, harrives, hfront⟩ := exists_arrives last
      have hclosed := hproper before n harrives of
      have hn : n.isOpening = true := isOpening_of_pending? waits
      rw [Table.contains, Server.get?_lived hs hfront]
      rw [hn] at hclosed
      exact hclosed

/-- Where changes and closings find the document open, none has overtaken an opening. -/
theorem unhurried_of_heeded (hs : Initial s₀) (hproper : Proper uri ts) (hheeded : s₀.Heeded uri ts) :
    s₀.Unhurried uri ts := by
  induction ts using List.reverseRecOn with
  | nil =>
      rintro before n ⟨t, later, hts, -⟩
      exact absurd hts.symm (List.append_ne_nil_of_right_ne_nil before (List.cons_ne_nil t later))
  | append_singleton ts t ih =>
      have hts := List.prefix_append ts [t]
      have hearlier := ih (hproper.of_prefix hts) (hheeded.of_prefix hts)
      intro before n harrives hu hopening
      rcases arrives_concat harrives with hbefore | ⟨rfl, -⟩
      · exact hearlier before n hbefore hu hopening
      · cases hn : n.isOpening with
        | false =>
            have hclosed := not_contains_of_opening hs (hproper.of_prefix hts) hearlier hopening
            rw [hheeded before n harrives hu hn] at hclosed
            cases hclosed
        | true =>
            -- the client has opened the document twice
            have hclient := hproper before n harrives hu
            cases inStep_lived hs hearlier with
            | settled none => exact none hopening
            | opening waits of only last =>
                rw [Documents.contains_heedAll_of_opening .empty last (isOpening_of_pending? waits),
                  hn] at hclient
                cases hclient

/-- Nothing overtakes an opening of a document if and only if every change and every closing of it finds
it open, and then, as soon as no opening of it is waiting, the document is what the notices come to in the
order of their arrival. -/
theorem in_order_of_arrival (hs : Initial s₀) (hproper : Proper uri ts) :
    (s₀.Heeded uri ts ↔ s₀.Unhurried uri ts) ∧
      (s₀.Unhurried uri ts → ∀ before, before <+: ts → ¬ (s₀.lived before).Opening uri →
        (s₀.lived before).documents.get? uri =
          (Documents.heedAll .empty (arrivals before)).get? uri) := by
  refine ⟨⟨unhurried_of_heeded hs hproper, fun hcalm => ?_⟩, fun hcalm before hbefore hnone => ?_⟩
  · intro before n harrives hu hn
    have hnone := hcalm before n harrives hu
    have hclient := hproper before n harrives hu
    rw [hn] at hclient
    rw [Table.contains, (hcalm.of_prefix harrives.prefix).get?_lived hs hnone]
    exact hclient
  · exact (hcalm.of_prefix hbefore).get?_lived hs hnone

end Server

/-! ### A sample -/

namespace Sample

/-- The document is opened and changed, and the opening is heeded first. -/
def unhurried : List Instant :=
  let is : List Impulse := [.received (.opened uri "typescriptreact" "styles.a" 1), .handled 0,
    .handled 0, .received (.changed uri [.whole "styles.b"] 2)]
  is.map (Instant.mk {})

/-- The change overtakes the opening. -/
def hurried : List Instant :=
  let is : List Impulse := [.received (.opened uri "typescriptreact" "styles.a" 1),
    .received (.changed uri [.whole "styles.b"] 2), .handled 0, .handled 0]
  is.map (Instant.mk {})

end Sample

namespace Server

/-- What is to hold when a notice arrives is looked up arrival by arrival. -/
theorem forall_arrives {P : List Instant → Notice → Prop}
    (h : ∀ before ∈ ts.inits, ∀ n ∈ (ts[before.length]?.bind fun t => t.impulse.notice?).toList,
      P before n) :
    ∀ before n, Arrives ts before n → P before n := by
  rintro before n ⟨t, later, rfl, hn⟩
  refine h before ((List.mem_inits _ _).mpr (List.prefix_append before _)) n ?_
  simp [hn]

open Sample in
theorem in_order_of_arrival_of_hurried :
    (server.lived unhurried).documents.snapshot? Sample.uri = some ("styles.b", 2) ∧
      ¬ server.Heeded Sample.uri hurried ∧
      (server.lived hurried).documents.snapshot? Sample.uri = some ("styles.a", 1) := by
  have hs : Initial server := .begun painter true {} {}
  have hproper : Proper Sample.uri unhurried := forall_arrives (by decide +kernel)
  have hproper' : Proper Sample.uri hurried := forall_arrives (by decide +kernel)
  have hcalm : server.Unhurried Sample.uri unhurried := forall_arrives (by decide +kernel)
  have hhurried : ¬ server.Unhurried Sample.uri hurried := by
    intro hcalm
    refine hcalm (hurried.take 1) (.changed Sample.uri [.whole "styles.b"] 2)
      ⟨⟨{}, .received (.changed Sample.uri [.whole "styles.b"] 2)⟩, hurried.drop 2, rfl, rfl⟩ rfl ?_
    decide +kernel
  have hdocument := (in_order_of_arrival hs hproper).2 hcalm unhurried List.prefix_rfl (by decide +kernel)
  refine ⟨?_, fun hheeded => hhurried ((in_order_of_arrival hs hproper').1.mp hheeded), ?_⟩
  · rw [Documents.snapshot?, hdocument]
    decide +kernel
  · decide +kernel

end Server

end ClassLens
