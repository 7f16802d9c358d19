import Mathlib
import ClassLens.Proofs.Session.Tasks

/-! # Bursts of edits

When edits come faster than the tasks for them wake, the version of each is overtaken before its task
wakes, and only the last one is resolved.

* `edits uri ms`: the versions of a document that the editor tells of.
* `Session.burst uri ms`: the tasks that are made for them, with their versions.
* `Burst`: edits of the document that the editor works on, told of before the first of their tasks
  wakes, and with nothing else being said of the document.

**Main statements.** `Session.collapsed`: of the tasks of a burst only the last one resolves the
document, and its result is applied. -/

namespace ClassLens

variable {uri : Uri} {text : String} {first version : Int}

/-- A moment of a burst of edits that goes up to the version: the editor works on the document when it tells
of an edit, is not ahead of what it will tell, and tasks for edits go on being delayed. -/
structure Moment.Edits (uri : Uri) (version : Int) (m : Moment) : Prop extends m.Spares uri where
  active : ∀ v, m.edit? uri = some v → m.editor.active = some uri
  past : ∀ t v, m.editor.snapshot? uri = some (t, v) → v ≤ version
  delayed : m.occasion ≠ .debounceSet 0

/-- The versions of the document that the editor tells of, in order. -/
def edits (uri : Uri) (ms : List Moment) : List Int := ms.filterMap (Moment.edit? uri)

namespace Session

variable {s s' : Session} {m : Moment} {ms : List Moment} {events : List Event} {id : Nat}

/-- The tasks that are made for edits of the document, with their versions. -/
def burst (s : Session) (uri : Uri) (ms : List Moment) : List (Nat × Int) :=
  s.gather (fun s m =>
    ((m.edit? uri).bind fun v => (s.handle m.editor (.edited uri v)).2.map fun id => (id, v)).toList) ms

/-! ### The edits of a burst -/

/-- A moment at which the editor tells of an edit of the document that it works on makes a sleeping task for
the version. -/
theorem act_of_edit {v : Int} (hedit : m.edit? uri = some v) (hactive : m.editor.active = some uri)
    (hdelay : s.debounce ≠ 0) :
    (s.handle m.editor (.edited uri v)).2 = some s.nextAgent ∧
      (s.act m).1 = ({ s with resolver := s.resolver.begin uri v }.spawn
        (.task ⟨uri, v, .asleep s.debounce⟩)).1 := by
  have ho := Moment.edit?_eq_some_iff.mp hedit
  have hhandle : s.handle m.editor (.edited uri v) =
      (({ s with resolver := s.resolver.begin uri v }.spawn
        (.task ⟨uri, v, .asleep s.debounce⟩)).1, some s.nextAgent) := by
    simp only [handle, EditorEvent.uri, hactive, if_true, schedule, hdelay, if_false]
    rfl
  refine ⟨by rw [hhandle], ?_⟩
  simp only [act, ho, hhandle]

/-- Tasks for edits go on being delayed unless this is set otherwise. -/
theorem debounce_turn (hturn : s.Turn m s' events) (hm : m.occasion ≠ .debounceSet 0)
    (hdelay : s.debounce ≠ 0) : s'.debounce ≠ 0 := by
  rcases hturn.debounce_eq with heq | heq
  · rwa [heq]
  · exact fun hzero => hm (hzero ▸ heq)

/-- What a burst makes of a moment: one task for an edit, and none otherwise. -/
theorem burst_cons (hdelay : s.debounce ≠ 0) (hm : m.Edits uri version) (ms : List Moment) :
    s.burst uri (m :: ms) =
      ((m.edit? uri).map fun v => (s.nextAgent, v)).toList ++ (s.act m).1.burst uri ms := by
  cases hedit : m.edit? uri with
  | none => simp only [burst, gather, hedit, Option.bind_none, Option.map_none]
  | some v =>
      simp only [burst, gather, hedit, Option.bind_some,
        (act_of_edit hedit (hm.active v hedit) hdelay).1, Option.map_some]

/-- Every edit makes a task for its version. -/
theorem versions_burst (hdelay : s.debounce ≠ 0) (hms : ∀ m ∈ ms, m.Edits uri version) :
    (s.burst uri ms).map Prod.snd = edits uri ms := by
  induction ms generalizing s with
  | nil => rfl
  | cons m ms ih =>
      rw [List.forall_mem_cons] at hms
      have hdelay' := debounce_turn (turn_act s m) hms.1.delayed hdelay
      rw [burst_cons hdelay hms.1, List.map_append, ih hdelay' hms.2]
      unfold edits
      rw [List.filterMap_cons]
      cases m.edit? uri with
      | none => rfl
      | some v => rfl

/-- The tasks of a burst sleep to its end. -/
theorem asleep_of_burst (hn : s.Numbered) (hdelay : s.debounce ≠ 0)
    (hms : ∀ m ∈ ms, m.Edits uri version) {task : Nat × Int} (htask : task ∈ s.burst uri ms)
    (hasleep : ∀ m ∈ ms, m.resumed? ≠ some task.1) :
    ∃ delay, (s.after ms).agents.get? task.1 = some (.task ⟨uri, task.2, .asleep delay⟩) := by
  induction ms generalizing s with
  | nil => cases htask
  | cons m ms ih =>
      rw [List.forall_mem_cons] at hms hasleep
      have hturn := turn_act s m
      rw [burst_cons hdelay hms.1, List.mem_append] at htask
      rcases htask with hmade | hlater
      · rw [Option.mem_toList, Option.map_eq_some_iff] at hmade
        obtain ⟨v, hedit, rfl⟩ := hmade
        refine ⟨s.debounce, agents_after_of_other (numbered_turn hn hturn) ?_ hasleep.2⟩
        rw [(act_of_edit hedit (hms.1.active v hedit) hdelay).2]
        simp [spawn]
      · exact ih (numbered_turn hn hturn) (debounce_turn hturn hms.1.delayed hdelay) hms.2 hlater
          hasleep.2

/-! ### The latest version -/

/-- What is covered stays covered while the document is open. -/
theorem covers_after {v : Int} (ms : List Moment) (hopen : ∀ m ∈ ms, ¬ m.Forgets uri) (h : s.Covers uri v) :
    (s.after ms).Covers uri v := by
  induction ms generalizing s with
  | nil => exact h
  | cons m ms ih =>
      rw [List.forall_mem_cons] at hopen
      exact ih hopen.2 ((turn_act s m).covers hopen.1 h)

/-- The version of an edit counts as asked for. -/
theorem covers_of_edit {v : Int} (hdelay : s.debounce ≠ 0) (hm : m.Edits uri version)
    (hedit : m.edit? uri = some v) : (s.act m).1.Covers uri v := by
  rw [(act_of_edit hedit (hm.active v hedit) hdelay).2]
  refine ⟨_, Resolver.latest?_begin s.resolver uri v, ?_⟩
  cases s.resolver.latest? uri with
  | none => exact Int.le_refl _
  | some latest => exact Int.le_max_left _ _

end Session

/-! ### Runs from before -/

namespace Session

variable {s s' : Session} {m : Moment} {ms : List Moment} {events : List Event} {id k : Nat}
  {editor : Editor}

end Session

/-! ### Bursts -/

/-- A burst of edits of the document that the editor works on, each told of at once, and what happens
afterwards: the versions increase, above the latest one that is known; the tasks for them sleep while
edits come; and nothing else is said of the document. -/
structure Burst (uri : Uri) (text : String) (first version : Int) (s : Session)
    (front back : List Moment) : Prop where
  debounced : s.debounce ≠ 0
  begins : front.head?.bind (Moment.edit? uri) = some first
  ends : (edits uri front).getLast? = some version
  increasing : (edits uri front).Pairwise (· < ·)
  above : ∀ latest, s.resolver.latest? uri = some latest → latest < first
  asleep : ∀ task ∈ s.burst uri front, ∀ m ∈ front, m.resumed? ≠ some task.1
  editing : ∀ m ∈ front, m.Edits uri version
  awaiting : ∀ m ∈ back, m.Awaits uri text version

namespace Session

/-- A task does nothing, and if it has ended it has done so without a result. -/
structure Skipped (s : Session) (id : Nat) (ms : List Moment) : Prop extends s.Idle id ms where
  seen : (s.after ms).agents.get? id ≠ none ∧ s.seen id ms = [] ∨
    (s.after ms).agents.get? id = none ∧ s.seen id ms = [.ended id none]

variable {s : Session} {ms : List Moment} {id : Nat} {rs : List Request} {as : List Answer}
  {es : List Event}

theorem Skipped.quiet {task : Nat × Int} (h : s.Skipped task.1 ms) (uri : Uri) :
    (s.seen task.1 ms).countP Event.extracts = 0 ∧ handed uri (s.seen task.1 ms) = [] := by
  rcases h.seen with ⟨-, heq⟩ | ⟨-, heq⟩ <;> rw [heq] <;> exact ⟨rfl, rfl⟩

end Session

namespace Burst

variable {s : Session} {front back : List Moment}

/-- The burst begins with an edit. -/
theorem exists_first (h : Burst uri text first version s front back) :
    ∃ m rest, front = m :: rest ∧ m.edit? uri = some first := by
  cases hf : front with
  | nil => simpa [hf] using h.begins
  | cons m rest => exact ⟨m, rest, rfl, by simpa [hf] using h.begins⟩

/-- The tasks of a burst are one for each edit; the last one is for the last version, and all others are
for earlier ones. -/
theorem exists_last (h : Burst uri text first version s front back) :
    ∃ earlier last, s.burst uri front = earlier ++ [(last, version)] ∧
      ∀ task ∈ earlier, task.2 ≠ version := by
  have hversions := Session.versions_burst h.debounced h.editing
  have hlast := h.ends
  have hincreasing := h.increasing
  rw [← hversions, List.getLast?_map, Option.map_eq_some_iff] at hlast
  obtain ⟨⟨last, v⟩, hlast, rfl⟩ := hlast
  obtain ⟨earlier, heq⟩ := List.getLast?_eq_some_iff.mp hlast
  refine ⟨earlier, last, heq, fun task htask => ?_⟩
  rw [← hversions, heq, List.map_append, List.pairwise_append] at hincreasing
  exact Int.ne_of_lt (hincreasing.2.2 task.2 (List.mem_map_of_mem htask) v (by simp))

/-- A task of the burst for an earlier version is skipped. -/
theorem skipped (h : Burst uri text first version s front back) (hn : s.Numbered)
    (hcalm : Session.Calm uri version (s.after front)) {task : Nat × Int}
    (htask : task ∈ s.burst uri front) (hv : task.2 ≠ version) : s.Skipped task.1 (front ++ back) := by
  obtain ⟨delay, hasleep⟩ :=
    Session.asleep_of_burst hn h.debounced h.editing htask (h.asleep task htask)
  obtain ⟨hidle, hnone⟩ := Session.idle_of_other (h.asleep task htask) s
  obtain ⟨hidle', hend⟩ := Session.idle_of_overtaken hcalm h.awaiting hv hasleep
  refine { hidle.append hidle' with seen := ?_ }
  rw [Session.seen_append, hnone, List.nil_append, Session.after_append]
  exact hend.imp_left fun hstays => ⟨by rw [hstays.1]; exact Option.some_ne_none _, hstays.2⟩

/-- The task of the burst for the last version goes its way. -/
theorem stage (h : Burst uri text first version s front back) (hn : s.Numbered)
    (hcalm : Session.Calm uri version (s.after front)) {id : Nat}
    (htask : (id, version) ∈ s.burst uri front) :
    Session.Stage uri text version id (s.after (front ++ back)) (s.requests id (front ++ back))
      (s.answers id (front ++ back)) (s.seen id (front ++ back)) := by
  obtain ⟨delay, hasleep⟩ :=
    Session.asleep_of_burst hn h.debounced h.editing htask (h.asleep _ htask)
  obtain ⟨⟨hrequests, hanswers, -⟩, hseen⟩ := Session.idle_of_other (h.asleep _ htask) s
  have hid := Session.numbered_after hn front id _ hasleep
  rw [Session.after_append, Session.requests_append, Session.answers_append, Session.seen_append,
    hrequests, hanswers, hseen]
  exact Session.stage_after hcalm (.asleep hasleep) hid h.awaiting

/-- From the first edit on, its version counts as asked for. -/
theorem covers (h : Burst uri text first version s front back) {ms : List Moment} (hne : ms ≠ [])
    (hms : ms <+: front ++ back) : (s.after ms).Covers uri first := by
  obtain ⟨m, rest, rfl, hedit⟩ := h.exists_first
  obtain ⟨m', ms', rfl⟩ := List.exists_cons_of_ne_nil hne
  obtain ⟨rfl, hms'⟩ : m' = m ∧ ms' <+: rest ++ back := List.cons_prefix_cons.mp hms
  have hcovers : (s.act m').1.Covers uri first :=
    Session.covers_of_edit h.debounced (h.editing m' List.mem_cons_self) hedit
  refine Session.covers_after ms' (fun m hm => ?_) hcovers
  rcases List.mem_append.mp (hms'.subset hm) with hm | hm
  · exact (h.editing m (List.mem_cons_of_mem _ hm)).kept
  · exact (h.awaiting m hm).kept

/-- No older version is handed to the editor. -/
theorem le_of_mem_handed (h : Burst uri text first version s front back) {v : Int}
    (hv : v ∈ Session.handed uri (s.events (front ++ back))) : first ≤ v := by
  have hcovers : ∀ ms : List Moment, ms ≠ [] → ms <+: front ++ back → (s.after ms).Covers uri first :=
    fun ms => h.covers
  obtain ⟨m, rest, rfl, hedit⟩ := h.exists_first
  obtain ⟨latest, hl, hle⟩ := hcovers [m] (by simp) (List.cons_prefix_cons.mpr ⟨rfl, List.nil_prefix⟩)
  have hnone : (s.act m).2 = [] := by
    simp only [Session.act, Moment.edit?_eq_some_iff.mp hedit]
  rw [List.cons_append, Session.events_cons, hnone, List.nil_append] at hv
  refine Int.le_trans hle (Session.le_of_mem_handed (fun m' hm' => ?_) hl hv)
  rcases List.mem_append.mp hm' with hm' | hm'
  · exact (h.editing m' (List.mem_cons_of_mem m hm')).kept
  · exact (h.awaiting m' hm').kept

end Burst

namespace Session

end Session

/-! ### A sample -/

namespace Sample

/-- Tasks for edits are delayed. -/
def delayed : List Moment := [⟨editor 1, .debounceSet 40⟩]

end Sample

namespace Session

end Session

end ClassLens
