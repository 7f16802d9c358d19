import ClassLens.Proofs.Resolve.Afresh
import ClassLens.Proofs.Session.Currency

/-! # Results that are up to date

What is kept of a document is what its text would come to afresh, as long as every run for the current
version finds what is there to be found now.

* `Moment.Plain sheets m`: nothing is set anew.  `Moment.Suits sheets uri m`: beyond that, what the
  session is told of the document is of its current version, and no extraction takes too long.
* `Session.Faithful sheets s`: the cache and the runs are of the extractor in force.
* `Session.Within editor uri s`: nothing in the session is ahead of the document.
* `Session.Heading editor uri text version s`: the version was asked for, and its runs are on course.
* `Session.UpToDate editor uri text version s`: beyond that, the document is about to be resolved, or
  what is kept of it is what it comes to afresh.

**Main statements.** `Session.faithful_turn`, `Session.within_turn`, `Session.upToDate_turn`: every
moment that suits keeps them.  `Session.upToDate_schedule`, `Session.upToDate_of_refreshes`: a new task
for the document brings it up to date. -/

namespace ClassLens

variable {sheets : String → Prop} {editor : Editor} {uri : Uri} {text : String} {version : Int}

/-! ### Moments that suit -/

/-- The extractor, the options and the scanner stay, nothing is put into the cache, and runs read only
the given stylesheets. -/
structure Moment.Plain (sheets : String → Prop) (m : Moment) : Prop where
  changed : ∀ change, m.occasion = .changed change →
    ∃ use, change = .useCache use ∧ ∀ path d index, use ≠ .insert path d index
  read : ∀ id expired, m.occasion = .resumed id expired →
    ∀ path css, m.editor.read path = .ok css → sheets css

/-- Whatever is said of the document is said of its current version; the document stays open, and no
extraction takes too long. -/
structure Moment.Suits (sheets : String → Prop) (uri : Uri) (m : Moment) : Prop
    extends Moment.Plain sheets m where
  told : ∀ v, m.occasion = .told (.edited uri v) → ∃ t, m.editor.snapshot? uri = some (t, v)
  called : ∀ q, m.occasion = .called q → q.uri = uri →
    m.editor.snapshot? uri = some (q.text, q.version)
  kept : ¬ m.Forgets uri
  inTime : ∀ id, m.occasion ≠ .resumed id true

namespace Moment

variable {m : Moment}

/-- A moment at which the resolver is not changed from outside is plain. -/
theorem plain_of_unchanged (hm : ∀ change, m.occasion ≠ .changed change) : m.Plain fun _ => True :=
  ⟨fun change h => absurd h (hm change), fun _ _ _ _ _ _ => trivial⟩

theorem Suits.snapshot_of_calls (h : m.Suits sheets uri) {q : Request} (hm : m.Calls q)
    (hq : q.uri = uri) : m.editor.snapshot? uri = some (q.text, q.version) := by
  cases hm with
  | called editor q => exact h.called q rfl hq
  | lensAsked snapshot => exact hq ▸ snapshot

theorem Suits.snapshot_of_asks (h : m.Suits sheets uri) {v : Int} (hm : m.Asks uri v) :
    ∃ t, m.editor.snapshot? uri = some (t, v) := by
  cases hm with
  | scheduled asked =>
      cases asked with
      | activated active snapshot => exact ⟨_, snapshot⟩
      | edited active => exact h.told v rfl
      | refreshed snapshot => exact ⟨_, snapshot⟩
  | called asked same version_eq => exact ⟨_, version_eq ▸ h.snapshot_of_calls asked same⟩
  | recorded record =>
      obtain ⟨use, hchange, -⟩ := h.changed _ record
      cases hchange
  | «open» snapshot => exact ⟨_, snapshot⟩

theorem Suits.expired_eq (h : m.Suits sheets uri) {id : Nat} {expired : Bool}
    (ho : m.occasion = .resumed id expired) : expired = false := by
  cases expired with
  | false => rfl
  | true => exact absurd ho (h.inTime id)

end Moment

namespace Session

variable {s s' : Session} {m : Moment} {events : List Event}

/-! ### The extractor in force -/

/-- What the cache holds and what the runs wait for is of the extractor in force; a task's run is its
own. -/
structure Faithful (sheets : String → Prop) (s : Session) : Prop where
  numbered : s.Numbered
  cache : s.resolver.cache.Holds (Genuine s.resolver.extractor sheets)
  runs : ∀ id run, s.Runs id run → run.Faithful s.resolver.extractor sheets ∧ run.Staged
  tasks : ∀ id t run, s.agents.get? id = some (.task t) → t.phase = .resolving run →
    run.request.uri = t.uri ∧ run.request.version = t.version

/-- A plain moment leaves what is set of the resolver. -/
theorem frame_turn (hturn : s.Turn m s' events) (hm : m.Plain sheets) :
    s'.resolver.extractor = s.resolver.extractor ∧ s'.resolver.options = s.resolver.options ∧
      s'.resolver.scanner = s.resolver.scanner ∧
      s'.resolver.fixedScanner = s.resolver.fixedScanner := by
  have h := steps_of_turn hturn
  generalize s'.resolver = r at h ⊢
  cases h with
  | still => exact ⟨rfl, rfl, rfl, rfl⟩
  | begun u v => simp
  | forgot => exact ⟨rfl, rfl, rfl, rfl⟩
  | changed ho =>
      obtain ⟨use, rfl, -⟩ := hm.changed _ ho
      exact ⟨rfl, rfl, rfl, rfl⟩
  | @went id run expired old ho =>
      obtain ⟨hx, ho, hs, hf, -⟩ := (Resolver.comes_step s.resolver m.editor run expired).frame
      exact ⟨hx, ho, hs, hf⟩

theorem Faithful.cache_turn (h : s.Faithful sheets) (hturn : s.Turn m s' events)
    (hm : m.Plain sheets) :
    s'.resolver.cache.Holds (Genuine s.resolver.extractor sheets) := by
  have hsteps := steps_of_turn hturn
  generalize s'.resolver = r at hsteps ⊢
  cases hsteps with
  | still => exact h.cache
  | begun u v =>
      rw [Resolver.cache_begin]
      exact h.cache
  | forgot => exact h.cache
  | changed ho =>
      obtain ⟨use, rfl, huse⟩ := hm.changed _ ho
      exact Cache.holds_used h.cache fun path d index heq => absurd heq (huse path d index)
  | went old ho => exact Resolver.holds_cache_step h.cache (h.runs _ _ old).1 _ _

/-- Every plain moment keeps to the extractor in force. -/
theorem faithful_turn (h : s.Faithful sheets) (hturn : s.Turn m s' events) (hm : m.Plain sheets) :
    s'.Faithful sheets := by
  obtain ⟨hx, -⟩ := frame_turn hturn hm
  refine ⟨numbered_turn h.numbered hturn, hx ▸ h.cache_turn hturn hm, fun id run hrun => ?_,
    fun id t run htask hphase => ?_⟩
  · rw [hx]
    cases stems_of_turn hturn hrun with
    | stayed old => exact h.runs id run old
    | begun idle asked => exact ⟨trivial, idle⟩
    | @went run₀ _ expired old move ho =>
        obtain ⟨hfaithful, hstaged⟩ := h.runs id run₀ old
        exact ⟨Resolver.faithful_of_next rfl hfaithful (hm.read id expired ho) move,
          Resolver.staged_of_next hstaged move⟩
  · cases became_of_turn hturn htask with
    | stayed old => exact h.tasks id t run old hphase
    | scheduled asked unstarted =>
        rcases unstarted with hp | ⟨delay, hp⟩ <;> rw [hp] at hphase <;> cases hphase
    | launched task snapshot idle =>
        cases hphase
        exact ⟨rfl, rfl⟩
    | @went t₀ run₀ _ expired task phase move =>
        cases hphase
        rw [(Resolver.comes_step _ _ _ _).request_of_next move]
        exact h.tasks id t₀ run₀ task phase
    | resolved => cases hphase
    | applying => cases hphase

/-- A run of the latest version that ends is answered with what it comes to afresh, if it is on
course. -/
theorem Faithful.afresh_of_ready (hinj : ∀ a b, sheets a → sheets b → digest a = digest b → a = b)
    (h : s.Faithful sheets) (hread : ∀ path css, editor.read path = .ok css → sheets css) {id : Nat}
    {run : Run} (hrun : s.Runs id run) (hcourse : run.OnCourse s.resolver editor) {res : Resolution}
    (hmove : (s.resolver.step editor run false).move = .done (.ready res)) :
    res = s.resolver.afresh editor run.request := by
  obtain ⟨hfaithful, hstaged⟩ := h.runs id run hrun
  refine Resolver.afresh_of_onCourse hfaithful hstaged hcourse (fun _ job hjob => ?_) hmove
  obtain ⟨-, -, -, hcss, -⟩ := Resolver.eq_of_seek_ok hjob
  exact Cache.recalls_of_holds hinj h.cache (hread _ _ hcss)

/-! ### Nothing is ahead of the document -/

/-- What was asked for, what is kept and what is under way of the document is of a version so far. -/
structure Within (editor : Editor) (uri : Uri) (s : Session) : Prop where
  latest : ∀ latest, s.resolver.latest? uri = some latest →
    ∃ t v, editor.snapshot? uri = some (t, v) ∧ latest ≤ v
  kept : ∀ res, s.resolver.resolution? uri = some res →
    ∃ latest, s.resolver.latest? uri = some latest ∧ res.version ≤ latest
  requests : ∀ id run, s.Runs id run → run.request.uri = uri →
    ∃ t v, editor.snapshot? uri = some (t, v) ∧ run.request.Serves t v

theorem within_turn (h : s.Within m.editor uri) (hturn : s.Turn m s' events)
    (hm : m.Suits sheets uri) : s'.Within m.editor uri where
  latest := fun latest hl => by
    rcases hturn.latest? hm.kept with heq | ⟨v, hasks, heq, -⟩
    · exact h.latest latest (heq.symm.trans hl)
    · rw [heq, Option.some.injEq] at hl
      obtain ⟨t, hs⟩ := hm.snapshot_of_asks hasks
      exact ⟨t, v, hs, Int.le_of_eq hl.symm⟩
  kept := fun res hres => by
    have hold : ∃ latest, s.resolver.latest? uri = some latest ∧ res.version ≤ latest := by
      rcases hturn.resolution? hm.kept with heq | ⟨-, -, -, res', -, -, -, -, -, hl, heq, -⟩
      · exact h.kept res (heq.symm.trans hres)
      · rw [heq, Option.some.injEq] at hres
        exact ⟨res'.version, hl, Int.le_of_eq (congrArg Resolution.version hres.symm)⟩
    obtain ⟨latest, hl, hle⟩ := hold
    obtain ⟨latest', hl', hle'⟩ := hturn.latest?_mono hm.kept hl
    exact ⟨latest', hl', Int.le_trans hle hle'⟩
  requests := fun id run hrun hu => by
    cases stems_of_turn hturn hrun with
    | stayed old => exact h.requests id run old hu
    | @begun q progress idle asked =>
        have hs : m.editor.snapshot? uri = some (q.text, q.version) := by
          rcases asked with asked | snapshot
          · exact hm.snapshot_of_calls asked hu
          · exact hu ▸ snapshot
        exact ⟨q.text, q.version, hs, Int.le_refl _, fun _ => rfl⟩
    | @went run₀ _ expired old move =>
        have hreq := (Resolver.comes_step _ _ _ _).request_of_next move
        obtain ⟨t, v, hs, hserves⟩ := h.requests id run₀ old (hreq ▸ hu)
        exact ⟨t, v, hs, hreq ▸ hserves⟩

/-- A run for the current version is for the current text. -/
theorem Within.request_eq (h : s.Within editor uri) (hs : editor.snapshot? uri = some (text, version))
    {id : Nat} {run : Run} (hrun : s.Runs id run) (hu : run.request.uri = uri)
    (hv : run.request.version = version) : run.request = ⟨uri, text, version⟩ := by
  obtain ⟨t, v, hs', hserves⟩ := h.requests id run hrun hu
  rw [hs, Option.some.injEq, Prod.mk.injEq] at hs'
  obtain ⟨rfl, rfl⟩ := hs'
  rw [← hu, ← hv, ← hserves.text_eq hv]

/-- Another editor in which the document is the same. -/
theorem Within.congr (h : s.Within editor uri) {editor' : Editor}
    (hs : editor'.snapshot? uri = editor.snapshot? uri) : s.Within editor' uri where
  latest := hs ▸ h.latest
  kept := h.kept
  requests := hs ▸ h.requests

/-- The document is edited, and gets a greater version. -/
theorem Within.edited (h : s.Within editor uri) (hs : editor.snapshot? uri = some (text, version))
    {editor' : Editor} {t : String} {v : Int} (hs' : editor'.snapshot? uri = some (t, v))
    (hlt : version < v) : s.Within editor' uri where
  latest := fun latest hl => by
    obtain ⟨t₀, v₀, hs₀, hle⟩ := h.latest latest hl
    rw [hs, Option.some.injEq, Prod.mk.injEq] at hs₀
    exact ⟨t, v, hs', by omega⟩
  kept := h.kept
  requests := fun id run hrun hu => by
    obtain ⟨t₀, v₀, hs₀, hle, -⟩ := h.requests id run hrun hu
    rw [hs, Option.some.injEq, Prod.mk.injEq] at hs₀
    exact ⟨t, v, hs', by omega, fun hv => by omega⟩

/-- Of a document that is not open nothing is known. -/
theorem Within.opened (h : s.Within editor uri) (hs : editor.snapshot? uri = none) (editor' : Editor) :
    s.Within editor' uri where
  latest := fun latest hl => by
    obtain ⟨t, v, hs', -⟩ := h.latest latest hl
    rw [hs] at hs'
    cases hs'
  kept := h.kept
  requests := fun id run hrun hu => by
    obtain ⟨t, v, hs', -⟩ := h.requests id run hrun hu
    rw [hs] at hs'
    cases hs'

/-- The document is closed while no run for it is under way. -/
theorem within_forget (hruns : ∀ id run, s.Runs id run → run.request.uri ≠ uri) (editor : Editor) :
    (s.forget uri).Within editor uri where
  latest := fun latest hl => by
    rw [forget, Resolver.latest?_forget] at hl
    cases hl
  kept := fun res hres => by
    simp [forget, Resolver.forget, Resolver.resolution?] at hres
  requests := fun id run hrun hu => absurd hu (hruns id run hrun)

/-! ### Up to date -/

/-- The version was asked for last, and its runs find what is there to be found now. -/
structure Heading (editor : Editor) (uri : Uri) (text : String) (version : Int)
    (s : Session) : Prop where
  snapshot : editor.snapshot? uri = some (text, version)
  latest : s.resolver.latest? uri = some version
  course : ∀ id run, s.Runs id run → run.request.uri = uri → run.request.version = version →
    run.OnCourse s.resolver editor

/-- The task is going to resolve its document, or does so. -/
def LensTask.Works (t : LensTask) : Prop := t.Unstarted ∨ ∃ run, t.phase = .resolving run

/-- A task is going to resolve the document in the version, or does so. -/
def Works (uri : Uri) (version : Int) (s : Session) : Prop :=
  ∃ id t, s.agents.get? id = some (.task t) ∧ t.uri = uri ∧ t.version = version ∧ LensTask.Works t

/-- What is kept of the document is what its text comes to afresh. -/
def KeepsAfresh (editor : Editor) (uri : Uri) (text : String) (version : Int) (s : Session) : Prop :=
  s.resolver.resolution? uri = some (s.resolver.afresh editor ⟨uri, text, version⟩)

/-- The document is being resolved anew, or what is kept of it is what its text comes to afresh. -/
structure UpToDate (editor : Editor) (uri : Uri) (text : String) (version : Int)
    (s : Session) : Prop where
  heading : s.Heading editor uri text version
  busy : s.Works uri version ∨ s.KeepsAfresh editor uri text version

theorem heading_turn (h : s.Heading m.editor uri text version) (hturn : s.Turn m s' events)
    (hm : m.Suits sheets uri) : s'.Heading m.editor uri text version where
  snapshot := h.snapshot
  latest := by
    rcases hturn.latest? hm.kept with heq | ⟨v, hasks, heq, -⟩
    · exact heq.trans h.latest
    · obtain ⟨t, hs⟩ := hm.snapshot_of_asks hasks
      rw [h.snapshot, Option.some.injEq, Prod.mk.injEq] at hs
      rw [heq, hs.2]
  course := fun id run hrun hu hv => by
    obtain ⟨-, ho, hs, -⟩ := frame_turn hturn hm.toPlain
    cases stems_of_turn hturn hrun with
    | stayed old => exact Resolver.onCourse_congr ho hs (h.course id run old hu hv)
    | begun idle asked => trivial
    | @went run₀ _ expired old move =>
        have hreq := (Resolver.comes_step _ _ _ _).request_of_next move
        exact Resolver.onCourse_congr ho hs
          (Resolver.onCourse_of_next (h.course id run₀ old (hreq ▸ hu) (hreq ▸ hv)) move)

/-- A task that resolves the document goes on, or what is kept of the document is what it comes to
afresh. -/
theorem works_of_resumed (hinj : ∀ a b, sheets a → sheets b → digest a = digest b → a = b)
    (hf : s.Faithful sheets) (hw : s.Within editor uri) (h : s.Heading editor uri text version)
    {id : Nat} {t : LensTask} (htask : s.agents.get? id = some (.task t)) (hu : t.uri = uri)
    (hv : t.version = version) (hworks : LensTask.Works t) {expired : Bool}
    (hturn : s.Turn ⟨editor, .resumed id expired⟩ s' events)
    (hm : Moment.Suits sheets uri ⟨editor, .resumed id expired⟩) :
    s'.Works uri version ∨ s'.KeepsAfresh editor uri text version := by
  have hsame : ∀ {t' : LensTask}, s.agents.get? id = some (.task t') → t = t' := by
    intro t' ht'
    rw [htask, Option.some.injEq, Agent.task.injEq] at ht'
    exact ht'
  have hgo : ∀ {r : Resolver} {run' : Run},
      Works uri version ({ s with resolver := r }.putTask id t (.resolving run')) := fun {r run'} =>
    ⟨id, { t with phase := .resolving run' }, by simp [putTask, Session.put], hu, hv,
      .inr ⟨run', rfl⟩⟩
  cases hturn with
  | still => exact .inl ⟨id, t, htask, hu, hv, hworks⟩
  | scheduled asked => cases asked
  | called asked => cases asked
  | dropped task unstarted late =>
      obtain rfl := hsame task
      rcases late with hlate | hlate
      · exact absurd (by rw [hu, h.latest, hv]) hlate
      · exact absurd (by rw [hu, h.snapshot, hv]) (hlate text)
  | launched task =>
      obtain rfl := hsame task
      exact .inl hgo
  | went task =>
      obtain rfl := hsame task
      exact .inl hgo
  | @overtaken _ _ _ _ run v latest task phase move =>
      obtain rfl := hsame task
      obtain ⟨hru, hrv⟩ := hf.tasks id t run htask phase
      rcases (Resolver.comes_step s.resolver editor run expired).answer_cases move with
        ⟨-, res, hready⟩ | ⟨hlate, -⟩
      · cases hready
      · exact absurd (by rw [hru, hu, h.latest, hrv, hv]) hlate
  | @resolved _ _ _ _ run res s₁ slot task phase move place =>
      obtain rfl := hsame task
      obtain rfl := hm.expired_eq rfl
      obtain ⟨hru, hrv⟩ := hf.tasks id t run htask phase
      have hrun : s.Runs id run := .inr ⟨t, htask, phase⟩
      have hcourse := h.course id run hrun (hru.trans hu) (hrv.trans hv)
      have hreq := hw.request_eq h.snapshot hrun (hru.trans hu) (hrv.trans hv)
      obtain ⟨-, hkept⟩ := Resolver.resolution?_of_ready move fun kept hkept => by
        obtain ⟨latest, hl, hle⟩ := hw.kept kept (by rw [← hu, ← hru, hkept])
        rw [h.latest, Option.some.injEq] at hl
        rw [hrv, hv, hl]
        exact hle
      right
      obtain ⟨hx, ho, hs, -, -⟩ := (Resolver.comes_step s.resolver editor run false).frame
      have hr : ((s₁.enqueue slot id).putTask id t (.waiting slot res)).resolver =
          (s.resolver.step editor run false).resolver := resolver_slotFor place
      rw [KeepsAfresh, hr, Resolver.afresh_congr hx ho hs, ← hreq, ← hf.afresh_of_ready hinj
        (hm.read id false rfl) hrun hcourse move, ← hkept, hreq]
  | callWent call =>
      rw [htask] at call
      cases call
  | callEnded call =>
      rw [htask] at call
      cases call
  | applying task phase | passedOver task phase | applied task phase =>
      obtain rfl := hsame task
      rcases hworks with (hp | ⟨delay, hp⟩) | ⟨run, hp⟩ <;> rw [hp] at phase <;> cases phase

theorem keepsAfresh_turn (hinj : ∀ a b, sheets a → sheets b → digest a = digest b → a = b)
    (hf : s.Faithful sheets) (hw : s.Within m.editor uri) (h : s.Heading m.editor uri text version)
    (hkeeps : s.KeepsAfresh m.editor uri text version) (hturn : s.Turn m s' events)
    (hm : m.Suits sheets uri) : s'.KeepsAfresh m.editor uri text version := by
  obtain ⟨hx, ho, hs, -⟩ := frame_turn hturn hm.toPlain
  rw [KeepsAfresh, Resolver.afresh_congr hx ho hs]
  rcases hturn.resolution? hm.kept with heq |
    ⟨id, run, expired, res, hrun, hres, hmove, hu, hv, hl, heq, -⟩
  · rw [heq, hkeeps]
  · obtain rfl := hm.expired_eq hres
    rw [h.latest, hv, Option.some.injEq] at hl
    rw [heq, hf.afresh_of_ready hinj (hm.read _ _ hres) hrun (h.course id run hrun hu hl.symm) hmove,
      hw.request_eq h.snapshot hrun hu hl.symm]

/-- Every moment that suits keeps the document up to date. -/
theorem upToDate_turn (hinj : ∀ a b, sheets a → sheets b → digest a = digest b → a = b)
    (hf : s.Faithful sheets) (hw : s.Within m.editor uri) (h : s.UpToDate m.editor uri text version)
    (hturn : s.Turn m s' events) (hm : m.Suits sheets uri) :
    s'.UpToDate m.editor uri text version := by
  refine ⟨heading_turn h.heading hturn hm, ?_⟩
  rcases h.busy with ⟨id, t, htask, hu, hv, hworks⟩ | hkeeps
  · by_cases hown : ∃ expired, m.occasion = .resumed id expired
    · obtain ⟨expired, ho⟩ := hown
      obtain ⟨editor, occasion⟩ := m
      subst ho
      exact works_of_resumed hinj hf hw h.heading htask hu hv hworks hturn hm
    · have hother := hturn.agents_of_other hf.numbered htask fun expired ho => hown ⟨expired, ho⟩
      exact .inl ⟨id, t, hother, hu, hv, hworks⟩
  · exact .inr (keepsAfresh_turn hinj hf hw h.heading hkeeps hturn hm)

/-! ### New tasks -/

/-- The current version of a document is not refused. -/
theorem Within.granted (hw : s.Within editor uri) (hs : editor.snapshot? uri = some (text, version)) :
    s.resolver.refusedBy? uri version = none := by
  rw [Resolver.refusedBy?, Option.filter_eq_none_iff]
  intro latest hl
  obtain ⟨t, v, hs', hle⟩ := hw.latest latest hl
  rw [hs, Option.some.injEq, Prod.mk.injEq] at hs'
  rw [← hs'.2] at hle
  simpa using hle

theorem runs_of_schedule {delay id : Nat} {run : Run}
    (hrun : (s.schedule uri version delay).1.Runs id run) : s.Runs id run := by
  rcases hrun with hcall | ⟨t, htask, hphase⟩
  · rw [schedule, spawn, Table.get?_insert] at hcall
    split at hcall
    · cases hcall
    · exact .inl hcall
  · rw [schedule, spawn, Table.get?_insert] at htask
    split at htask
    · cases htask
      by_cases hd : delay = 0 <;> simp [hd] at hphase
    · exact .inr ⟨t, htask, hphase⟩

theorem task_schedule (s : Session) (uri : Uri) (version : Int) (delay : Nat) :
    ∃ id t, (s.schedule uri version delay).1.agents.get? id = some (.task t) ∧ t.uri = uri ∧
      t.version = version ∧ t.Unstarted := by
  refine ⟨s.nextAgent, _, (Table.get?_insert _ _ _ _).trans (if_pos rfl), rfl, rfl, ?_⟩
  by_cases hd : delay = 0
  · exact .inl (if_pos hd)
  · exact .inr ⟨delay, if_neg hd⟩

/-- A new task for the current version brings the document up to date, if the runs for this version are
on course. -/
theorem upToDate_schedule (hw : s.Within editor uri) (hs : editor.snapshot? uri = some (text, version))
    (hcourse : ∀ id run, s.Runs id run → run.request.uri = uri → run.request.version = version →
      run.OnCourse s.resolver editor) (delay : Nat) :
    (s.schedule uri version delay).1.UpToDate editor uri text version := by
  refine ⟨⟨hs, Resolver.latest?_begin_self (hw.granted hs), fun id run hrun hu hv => ?_⟩, .inl ?_⟩
  · exact Resolver.onCourse_congr (Resolver.options_begin _ _ _) (Resolver.scanner_begin _ _ _)
      (hcourse id run (runs_of_schedule hrun) hu hv)
  · obtain ⟨id, t, htask, hu, hv, hunstarted⟩ := task_schedule s uri version delay
    exact ⟨id, t, htask, hu, hv, .inl hunstarted⟩

theorem suits_refreshed (sheets : String → Prop) (editor : Editor) (uri u : Uri) :
    Moment.Suits sheets uri ⟨editor, .refreshed u⟩ where
  changed := nofun
  read := nofun
  told := nofun
  called := nofun
  kept := by rintro (h | h) <;> cases h
  inTime := nofun

theorem suits_lensAsked (sheets : String → Prop) (editor : Editor) (uri u : Uri) :
    Moment.Suits sheets uri ⟨editor, .lensAsked u⟩ where
  changed := nofun
  read := nofun
  told := nofun
  called := nofun
  kept := by rintro (h | h) <;> cases h
  inTime := nofun

theorem suits_resumed (uri : Uri) (hread : ∀ path css, editor.read path = .ok css → sheets css)
    (id : Nat) : Moment.Suits sheets uri ⟨editor, .resumed id false⟩ where
  changed := nofun
  read := fun _ _ _ => hread
  told := nofun
  called := nofun
  kept := by rintro (h | h) <;> cases h
  inTime := by rintro id' ⟨⟩

theorem suits_forgotten (sheets : String → Prop) (editor : Editor) {u : Uri} (hu : u ≠ uri) :
    Moment.Suits sheets uri ⟨editor, .forgotten u⟩ where
  changed := nofun
  read := nofun
  told := nofun
  called := nofun
  kept := by
    rintro (h | h) <;> cases h
    exact hu rfl
  inTime := nofun

theorem suits_invalidated (sheets : String → Prop) (editor : Editor) (uri : Uri) (path : Path) :
    Moment.Suits sheets uri ⟨editor, .changed (.useCache (.invalidate path))⟩ where
  changed := by
    rintro _ ⟨⟩
    exact ⟨.invalidate path, rfl, by simp⟩
  read := nofun
  told := nofun
  called := nofun
  kept := by rintro (h | h) <;> cases h
  inTime := nofun

/-- Of all the documents that are refreshed, each is brought up to date. -/
theorem upToDate_of_refreshes (hinj : ∀ a b, sheets a → sheets b → digest a = digest b → a = b)
    (hf : s.Faithful sheets) (hw : s.Within editor uri) (h : s.Heading editor uri text version)
    {us : List Uri}
    (hdue : (s.Works uri version ∨ s.KeepsAfresh editor uri text version) ∨ uri ∈ us) :
    (s.after (us.map fun u => ⟨editor, .refreshed u⟩)).UpToDate editor uri text version := by
  induction us generalizing s with
  | nil => exact ⟨h, hdue.resolve_right (by simp)⟩
  | cons u us ih =>
      have hturn := turn_act s ⟨editor, .refreshed u⟩
      have hm := suits_refreshed sheets editor uri u
      rw [List.map_cons, after_cons]
      refine ih (faithful_turn hf hturn hm.toPlain) (within_turn hw hturn hm)
        (heading_turn h hturn hm) ?_
      rcases hdue with hbusy | hmem
      · exact .inl (upToDate_turn hinj hf hw ⟨h, hbusy⟩ hturn hm).busy
      · rcases List.mem_cons.mp hmem with rfl | hmem
        · have hact : (s.act ⟨editor, .refreshed uri⟩).1 = (s.schedule uri version 0).1 := by
            simp only [act, refresh, h.snapshot]
          rw [hact]
          exact .inl (upToDate_schedule hw h.snapshot h.course 0).busy
        · exact .inr hmem

/-! ### Another editor -/

/-- In another editor that has the same text and the same stylesheet for it, the document is up to date
just as well. -/
theorem Heading.congr (hw : s.Within editor uri) (h : s.Heading editor uri text version)
    {editor' : Editor} (hs : editor'.snapshot? uri = editor.snapshot? uri)
    (hseek : ∀ options, s.resolver.seek editor' ⟨uri, text, version⟩ options =
      s.resolver.seek editor ⟨uri, text, version⟩ options) :
    s.Heading editor' uri text version where
  snapshot := hs.trans h.snapshot
  latest := h.latest
  course := fun id run hrun hu hv => by
    have hcourse := h.course id run hrun hu hv
    rw [Run.OnCourse, hw.request_eq h.snapshot hrun hu hv] at hcourse ⊢
    simp only [hseek]
    exact hcourse

theorem UpToDate.congr (hw : s.Within editor uri) (h : s.UpToDate editor uri text version)
    {editor' : Editor} (hs : editor'.snapshot? uri = editor.snapshot? uri)
    (hseek : ∀ options, s.resolver.seek editor' ⟨uri, text, version⟩ options =
      s.resolver.seek editor ⟨uri, text, version⟩ options) :
    s.UpToDate editor' uri text version := by
  refine ⟨h.heading.congr hw hs hseek, h.busy.imp_right fun hkeeps => ?_⟩
  rw [KeepsAfresh, hkeeps, Resolver.afresh, Resolver.afresh, hseek]

/-- If no run for the document has read its stylesheet yet, the runs are on course in whatever
editor. -/
theorem Heading.restyled (h : s.Heading editor uri text version) {editor' : Editor}
    (hs : editor'.snapshot? uri = editor.snapshot? uri)
    (hunread : ∀ id run, s.Runs id run → run.request.uri = uri → run.request.version = version →
      run.job? = none) : s.Heading editor' uri text version where
  snapshot := hs.trans h.snapshot
  latest := h.latest
  course := fun id run hrun hu hv => by
    have hcourse := h.course id run hrun hu hv
    have hjob := hunread id run hrun hu hv
    unfold Run.OnCourse at hcourse ⊢
    unfold Run.job? at hjob
    split at hjob <;> simp_all

end Session

end ClassLens
