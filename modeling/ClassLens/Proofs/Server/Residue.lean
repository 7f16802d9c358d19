import ClassLens.Proofs.Server.Deeds
import ClassLens.Proofs.Server.Stylesheets
import ClassLens.Proofs.Session.Residue

/-! # Closed documents leave nothing behind

A server knows of open documents only, whatever is still under way for a document when it is closed.

* `Server.Knows s uri`: something is known of a document.
* `Server.Tidy s`: the invariant.

**Main statements.** `Server.tidy_deed`, `Server.tidy_meet`: every deed, and so every impulse, keeps the
invariant.  `Server.open_of_known`: a document that anything is known of is open. -/

namespace ClassLens

/-- At such a moment only versions of open documents are asked for. -/
theorem Moment.Asks.opened {m : Moment} {docs : Documents}
    (hsnapshot : m.editor.snapshot? = docs.snapshot?)
    (hoccasion : m.occasion.Asking ∨ ∃ id expired, m.occasion = .resumed id expired) {uri : Uri}
    {version : Int} (h : m.Asks uri version) : docs.contains uri = true := by
  have hopen : ∀ {u : Uri} {text : String} {v : Int}, m.editor.snapshot? u = some (text, v) →
      docs.contains u = true := by
    intro u text v hs
    rw [hsnapshot, Documents.snapshot?, Option.map_eq_some_iff] at hs
    obtain ⟨d, hd, -⟩ := hs
    rw [Table.contains, hd]
    rfl
  obtain ⟨editor, occasion⟩ := m
  cases h with
  | scheduled asked =>
      cases asked with
      | activated active snapshot => exact hopen snapshot
      | edited active => rcases hoccasion with hasking | ⟨_, _, heq⟩ <;> contradiction
      | refreshed snapshot => exact hopen snapshot
  | @called q asked same =>
      subst same
      cases asked with
      | called => rcases hoccasion with hasking | ⟨_, _, heq⟩ <;> contradiction
      | lensAsked snapshot => exact hopen snapshot
  | recorded record =>
      simp only at record
      subst record
      rcases hoccasion with hasking | ⟨_, _, heq⟩ <;> contradiction
  | «open» snapshot => exact hopen snapshot

namespace Server

variable {s s' : Server} {docs : Documents}

/-- Something is known of a document. -/
inductive Knows (s : Server) (uri : Uri) : Prop where
  /-- A version of it was asked for. -/
  | latest {version : Int} (asked : s.session.resolver.latest? uri = some version)
  /-- A resolution of it is kept. -/
  | kept {res : Resolution} (kept : s.session.resolver.resolution? uri = some res)
  /-- A failure of it was reported. -/
  | noted {noted : List Failure} (noted : s.session.resolver.ledger.get? uri = some noted)
  /-- There is a place where its results wait to be applied. -/
  | slot {slot : Nat} (slot : s.session.slotOf.get? uri = some slot)
  | active (active : s.active = some uri)
  /-- It is among the documents that import a stylesheet. -/
  | importing {path : Path} (importing : uri ∈ s.session.resolver.importing path)

/-- All that the server knows is about open documents. -/
structure Tidy (s : Server) : Prop where
  session : s.session.Confined fun uri => s.documents.contains uri = true
  active : ∀ uri, s.active = some uri → s.documents.contains uri = true

theorem Tidy.open_of_knows (h : s.Tidy) {uri : Uri} (hknows : s.Knows uri) :
    s.documents.contains uri = true := by
  cases hknows with
  | latest asked => exact h.session.latest uri _ asked
  | kept kept => exact h.session.kept uri _ kept
  | noted noted => exact h.session.noted uri _ noted
  | slot slot => exact h.session.slots uri _ slot
  | active active => exact h.active uri active
  | importing importing =>
      obtain ⟨⟨u, res⟩, hmem, rfl⟩ := List.mem_map.mp importing
      have hentry := (List.mem_filter.mp hmem).1
      exact h.session.kept u res (Table.lookup_of_mem s.session.resolver.resolutions.nodup hentry)

theorem Tidy.of_eq (h : s.Tidy) (hsession : s'.session = s.session)
    (hdocuments : s'.documents = s.documents) (hactive : s'.active = s.active) : s'.Tidy where
  session := by
    rw [hsession, hdocuments]
    exact h.session
  active := by
    rw [hactive, hdocuments]
    exact h.active

/-- A moment of the session with the editor as it is leaves nothing known of closed documents. -/
theorem Tidy.turned (h : s.Tidy) {m : Moment} {session : Session} {events : List Event}
    (turn : s.session.Turn m session events) (hsnapshot : m.editor.snapshot? = s.documents.snapshot?)
    (hoccasion : m.occasion.Asking ∨ ∃ id expired, m.occasion = .resumed id expired) :
    Tidy { s with session } where
  session := by
    refine Session.confined_turn h.session turn (fun uri version hasks => ?_) fun uri hforgets => ?_
    · exact hasks.opened hsnapshot hoccasion
    · rcases hforgets with heq | heq <;> rw [heq] at hoccasion <;>
        rcases hoccasion with hasking | ⟨_, _, heq⟩ <;> contradiction
  active := h.active

/-- Every deed keeps the invariant. -/
theorem tidy_deed (h : s.Tidy) (hdeed : Deed docs s s') : s'.Tidy := by
  cases hdeed with
  | aside session documents active => exact h.of_eq session documents active
  | @entered uri d enters final =>
      have hmono : ∀ u, s.documents.contains u = true → docs.contains u = true := by
        intro u hu
        rw [final, Table.contains, Table.get?_insert]
        split
        · rfl
        · exact hu
      exact ⟨h.session.mono hmono, fun u hu => hmono u (h.active u hu)⟩
  | closed uri final =>
      have hstays : ∀ u, s.documents.contains u = true → u ≠ uri →
          (s.documents.close uri).contains u = true := by
        intro u hu hne
        rw [Table.contains, Documents.close, Table.get?_erase, if_neg (Ne.symm hne)]
        exact hu
      refine ⟨(h.session.forget uri).mono fun u hu => hstays u hu.1 hu.2, ?_⟩
      intro u hu
      simp only [withoutDocument] at hu
      split at hu
      · cases hu
      · rename_i hother
        exact hstays u (h.active u hu) fun hsame => hother (hsame ▸ hu)
  | @activated uri d found =>
      refine ⟨h.session, ?_⟩
      intro u hu
      rw [← Option.some.inj hu, Table.contains, found]
      rfl
  | turned turn asking final snapshot =>
      rw [← final] at snapshot
      exact h.turned turn snapshot (.inl asking)
  | told retold debounce =>
      exact ⟨h.session.of_tables retold.latest retold.resolutions retold.ledger rfl rfl, h.active⟩

theorem tidy_deeds (h : s.Tidy) (hdeeds : Deeds docs s s') : s'.Tidy := by
  induction hdeeds with
  | refl => exact h
  | tail _ hdeed ih => exact tidy_deed ih hdeed

/-- Every impulse keeps the invariant. -/
theorem tidy_meet (h : s.Tidy) (t : Instant) : (s.meet t).server.Tidy := by
  rcases meet_cases s t with ⟨id, expired, handlers, -, heq⟩ | hdeeds
  · have hturn := Session.turn_act s.session ⟨s.editor t.files, .resumed id expired⟩
    have hsession := h.turned hturn rfl (.inr ⟨id, expired, rfl⟩)
    rw [heq]
    exact hsession.of_eq rfl rfl rfl
  · exact tidy_deeds h hdeeds

theorem tidy_initial (h : Initial s) : s.Tidy := by
  obtain ⟨x, pinned, hdeeds⟩ := h.deeds
  refine tidy_deeds ⟨Session.confined_ofResolver x _ _, ?_⟩ hdeeds
  intro uri hactive
  cases hactive

theorem tidy_lived (h : s.Tidy) (ts : List Instant) : (s.lived ts).Tidy := by
  induction ts generalizing s with
  | nil => exact h
  | cons t ts ih => exact ih (tidy_meet h t)

end Server

/-! ### A sample -/

namespace Sample

/-- The document is edited, and a run for its new text gets as far as its extraction. -/
def editing : List Impulse :=
  .received (.changed uri [.whole page.text] 2) :: List.replicate 4 (.resumed 2 false)

end Sample

namespace Server

/-- Whatever has happened to a server, and in whichever order its handlers and agents went on: a
document of which a version, a resolution, failures or a place for results are known, which is the
active one or which counts as importing a stylesheet, is open. -/
theorem open_of_known {s₀ : Server} (hs : Initial s₀) (ts : List Instant) {uri : Uri}
    (hknown : (s₀.lived ts).Knows uri) : (s₀.lived ts).documents.contains uri = true :=
  (tidy_lived (tidy_initial hs) ts).open_of_knows hknown

open Sample in
/-- A document is closed while a run for it is under way, which goes on afterwards. -/
theorem open_of_known_in_flight :
    let lived (is : List Impulse) := server.lived (is.map (Instant.mk {}))
    let edited := opening ++ editing
    let closed := edited ++ [.received (.closed Sample.uri)]
    (lived edited).Knows Sample.uri ∧ (lived edited).documents.contains Sample.uri = true ∧
      (lived closed).session.agents.contains 2 = true ∧ ¬ (lived closed).Knows Sample.uri ∧
      ¬ (lived (closed ++ working 2)).Knows Sample.uri := by
  intro lived edited closed
  have hs : Initial server := .begun painter true {} {}
  have hlatest : (lived edited).session.resolver.latest? Sample.uri = some 2 := by
    decide +kernel
  have hgone : (lived closed).documents.contains Sample.uri = false ∧
      (lived (closed ++ working 2)).documents.contains Sample.uri = false := by
    decide +kernel
  refine ⟨.latest hlatest, open_of_known hs _ (.latest hlatest), by decide +kernel, ?_, ?_⟩
  · intro hknown
    have hopen := open_of_known hs _ hknown
    rw [hgone.1] at hopen
    cases hopen
  · intro hknown
    have hopen := open_of_known hs _ hknown
    rw [hgone.2] at hopen
    cases hopen

end Server

end ClassLens
