import ClassLens.Proofs.Session.Freshness
import ClassLens.Server.Step

/-! # Courses of a server

A server is driven from outside: by the calls of its client, and by whoever decides which handler or
which agent of its session goes on next.

* `Impulse`: what may happen to a server.
* `Server.act`, `Server.after`: what an impulse and a course of them lead to.
* `Server.Throughout P`: something holds of every impulse of a course, and of the server by then.
* `Server.Updates uri s s'`: what the server does about a document that was opened or edited.
* `Server.withoutDocument s uri`: the server once a document is gone.

**Main statements.** `Server.updates_documentUpdated`, `Server.closeDocument_cases`: there are no other
cases. -/

namespace ClassLens

/-! ### Courses -/

/-- What may happen to a server. -/
inductive Impulse where
  /-- A call of the client comes in. -/
  | received (call : Call)
  /-- A handler goes on. -/
  | handled (id : Nat)
  /-- An agent of the session goes on. -/
  | resumed (id : Nat) (expired : Bool)

/-- The impulse closes nothing, and no extraction takes too long. -/
def Impulse.isCalm : Impulse → Bool
  | .received (.closed _) | .resumed _ true => false
  | _ => true

namespace Server

variable {files : FileTree} {s s' : Server} {uri : Uri}

/-- What an impulse leads to. -/
def act (s : Server) (files : FileTree) : Impulse → ServerStep
  | .received call => { server := (s.receive files call).1 }
  | .handled id => s.stepHandler files id
  | .resumed id expired => s.stepAgent files id expired

/-- What a course leads to. -/
def after (s : Server) (files : FileTree) (is : List Impulse) : Server :=
  is.foldl (fun s i => (s.act files i).server) s

@[simp] theorem after_nil (s : Server) (files : FileTree) : s.after files [] = s := rfl

@[simp] theorem after_cons (s : Server) (files : FileTree) (i : Impulse) (is : List Impulse) :
    s.after files (i :: is) = (s.act files i).server.after files is := rfl

theorem after_append (s : Server) (files : FileTree) (is is' : List Impulse) :
    s.after files (is ++ is') = (s.after files is).after files is' :=
  List.foldl_append

/-- Something holds of every impulse of a course, and of the server by then. -/
def Throughout (P : Server → Impulse → Prop) (files : FileTree) : Server → List Impulse → Prop
  | _, [] => True
  | s, i :: is => P s i ∧ Throughout P files (s.act files i).server is

instance decidableThroughout {P : Server → Impulse → Prop} [∀ s i, Decidable (P s i)]
    (files : FileTree) : (s : Server) → (is : List Impulse) → Decidable (Throughout P files s is)
  | _, [] => isTrue trivial
  | s, i :: is =>
    @instDecidableAnd (P s i) _ inferInstance (decidableThroughout files (s.act files i).server is)

theorem throughout_append {P : Server → Impulse → Prop} {is is' : List Impulse} :
    Throughout P files s (is ++ is') ↔
      Throughout P files s is ∧ Throughout P files (s.after files is) is' := by
  induction is generalizing s with
  | nil => simp [Throughout]
  | cons i is ih => simp [Throughout, ih, and_assoc]

theorem throughout_of_forall {P : Server → Impulse → Prop} {is : List Impulse}
    (h : ∀ i ∈ is, ∀ s, P s i) : s.Throughout P files is := by
  induction is generalizing s with
  | nil => trivial
  | cons i is ih =>
      exact ⟨h i List.mem_cons_self s, ih fun i' hi' => h i' (List.mem_cons_of_mem i hi')⟩

theorem Throughout.and {P Q : Server → Impulse → Prop} {is : List Impulse}
    (h : s.Throughout P files is) (h' : s.Throughout Q files is) :
    s.Throughout (fun s i => P s i ∧ Q s i) files is := by
  induction is generalizing s with
  | nil => trivial
  | cons i is ih => exact ⟨⟨h.1, h'.1⟩, ih h.2 h'.2⟩

theorem Throughout.mono {P Q : Server → Impulse → Prop} {is : List Impulse}
    (h : s.Throughout P files is) (hpq : ∀ s i, P s i → Q s i) : s.Throughout Q files is := by
  induction is generalizing s with
  | nil => trivial
  | cons i is ih => exact ⟨hpq s i h.1, ih h.2⟩

/-! ### What a server does about a document -/

/-- The tasks for the documents that import a stylesheet are made one after the other. -/
theorem refreshDependents_eq (s : Server) (files : FileTree) (path : Path) :
    s.refreshDependents files path =
      { s with
        session := s.session.after
          ((s.session.resolver.importing path).map fun u => ⟨s.editor files, .refreshed u⟩) } := by
  unfold refreshDependents
  generalize s.session.resolver.importing path = us
  induction us generalizing s with
  | nil => rfl
  | cons u us ih => exact ih (s.refresh files u)

/-- What a server does about a document that was opened or edited. -/
inductive Updates (files : FileTree) (uri : Uri) (s : Server) : Server → Prop where
  /-- Nothing: it is no stylesheet, and no usages are looked for in it. -/
  | nothing
      (other : ∀ d, s.documents.get? uri = some d → d.isResolvable = false ∧
        (d.isStylesheet = true → uri.filePath? = none)) : Updates files uri s s
  /-- It becomes the active one, and a task is made for it. -/
  | scheduled {d : Document} (found : s.documents.get? uri = some d)
      (resolvable : d.isResolvable = true) (delay : Nat) :
      Updates files uri s
        { s with active := some uri, session := (s.session.schedule uri d.version delay).1 }
  /-- Tasks are made for the documents that import it. -/
  | refreshed {d : Document} {path : Path} (found : s.documents.get? uri = some d)
      (other : d.isResolvable = false) (stylesheet : d.isStylesheet = true)
      (place : uri.filePath? = some path) :
      Updates files uri s
        { s with
          session := s.session.after
            ((s.session.resolver.importing path).map fun u => ⟨s.editor files, .refreshed u⟩) }

theorem Updates.documents (h : s.Updates files uri s') : s'.documents = s.documents := by
  cases h <;> rfl

theorem Updates.handlers (h : s.Updates files uri s') : s'.handlers = s.handlers := by
  cases h <;> rfl

theorem updates_documentUpdated (s : Server) (files : FileTree) (uri : Uri) (opened : Bool) :
    s.Updates files uri (s.documentUpdated files uri opened) := by
  unfold documentUpdated
  cases hd : s.documents.get? uri with
  | none =>
      refine .nothing fun d h => ?_
      rw [hd] at h
      cases h
  | some d =>
      have hsnapshot := Documents.snapshot?_of_get? hd
      simp only
      split
      · rename_i hresolvable
        split
        · have heq : ({ s with active := some uri } : Server).handleEvent files (.activated uri) =
              { s with active := some uri, session := (s.session.schedule uri d.version 0).1 } := by
            simp [handleEvent, Session.handle, EditorEvent.uri, editor, Session.refresh, hsnapshot]
          rw [heq]
          exact .scheduled hd hresolvable 0
        · have heq : ({ s with active := some uri } : Server).handleEvent files
              (.edited uri d.version) =
              { s with
                active := some uri
                session := (s.session.schedule uri d.version s.session.debounce).1 } := by
            simp [handleEvent, Session.handle, EditorEvent.uri, editor]
          rw [heq]
          exact .scheduled hd hresolvable _
      · rename_i hresolvable
        have hno : d.isResolvable = false := by simpa using hresolvable
        split
        · rename_i hstyles
          cases hplace : uri.filePath? with
          | some path =>
              simp only [refreshDependents_eq]
              exact .refreshed hd hno hstyles hplace
          | none =>
              refine .nothing fun d' h => ⟨?_, fun _ => hplace⟩
              rw [hd, Option.some.injEq] at h
              exact h ▸ hno
        · rename_i hstyles
          refine .nothing fun d' h => ?_
          rw [hd, Option.some.injEq] at h
          subst h
          exact ⟨hno, fun hs => absurd hs hstyles⟩

/-- The server once a document is gone, before those that import it are refreshed. -/
def withoutDocument (s : Server) (uri : Uri) : Server :=
  { s with
    documents := s.documents.close uri
    session := s.session.forget uri
    active := if s.active = some uri then none else s.active }

/-- Where a stylesheet is closed, those that import it are refreshed. -/
theorem closeDocument_cases (s : Server) (files : FileTree) (u : Uri) :
    (∃ path, u.filePath? = some path ∧
      s.closeDocument files u =
        ((s.withoutDocument u).withResolver
          { (s.withoutDocument u).session.resolver with
            cache := (s.withoutDocument u).session.resolver.cache.invalidate path }).refreshDependents
          files path) ∨
      (∀ d, s.documents.get? u = some d → d.isStylesheet = true → u.filePath? = none) ∧
        s.closeDocument files u = s.withoutDocument u := by
  cases hclosed : (s.documents.get? u).filter Document.isStylesheet with
  | none =>
      refine .inr ⟨fun d hd hstyle => ?_, by simp only [closeDocument, hclosed]; rfl⟩
      simp [hd, hstyle] at hclosed
  | some d =>
      cases hplace : u.filePath? with
      | none => exact .inr ⟨fun _ _ _ => rfl, by simp only [closeDocument, hclosed, hplace]; rfl⟩
      | some path => exact .inl ⟨path, rfl, by simp only [closeDocument, hclosed, hplace]; rfl⟩

theorem documents_closeDocument (s : Server) (files : FileTree) (u : Uri) :
    (s.closeDocument files u).documents = s.documents.close u := by
  rcases closeDocument_cases s files u with ⟨path, -, heq⟩ | ⟨-, heq⟩ <;> rw [heq]
  · rw [refreshDependents_eq]
    rfl
  · rfl

end Server

end ClassLens
