import ClassLens.Proofs.Server.Configuration
import ClassLens.Proofs.Server.Deeds
import ClassLens.Proofs.Settings.Merging

/-! # The parts of a server agree with its settings

Settings are copied: the cache takes its size from them, the scanner its bindings, the session how long
tasks sleep, and so on.  While no change of settings goes on, all copies are of the settings in force.

* `Incident`, `Server.face`, `Server.faced`: the first call of a client or an impulse, and what a course
  of them leads to; it begins with `Server.start`.
* `Server.Rests s`, `Server.InOrder s es`: no change of settings goes on; the settings change one after the
  other.
* `Server.Follows x? cached scanned told extracted s`: each part follows some settings.
  `Server.FollowsAt x? new s phase`: the new ones, as far as the change has come.
* `Server.HoldsTo x new phase s`, `Server.Forgot s`: the change has not replaced the extractor `x` so far;
  nothing is cached.
* `Server.SwapsIdle s es`: the extractor is replaced only while no extraction is under way.
* `Server.Ends s es new`: a course in order after which the settings are these.
  `Server.configure s files payload`: a call with new settings is handled to its end.

**Main statements.** `Server.following_face`, `Server.holdsTo_face`, `Server.faithful_face`: what every
incident in order keeps.  `Server.ends_configure`: a call with new settings leads to them.
`Server.parts_agree`: while no change of settings goes on, all parts follow the settings in force, and
nothing is cached from before the extractor was changed. -/

namespace ClassLens

open Usage

/-- What a server may meet: the first call of a client, or an impulse. -/
inductive Incident where
  | began (files : FileTree) (client : Client)
  | met (instant : Instant)

/-! ### Settings in normal form -/

namespace Settings

theorem normal_mergeConfigFile {σ : Settings} (h : σ.Normal) (files : FileTree) (start : Path) :
    (σ.mergeConfigFile files start).Normal := by
  unfold mergeConfigFile
  split
  · exact h
  · split
    · rename_i text _
      unfold mergeToml?
      cases Toml.ofString? text with
      | none => exact h
      | some payload => exact normal_merge σ payload
    · exact h

/-- A scanner keeps the bindings of settings in normal form as they are. -/
theorem Normal.scanner_eq {σ : Settings} (h : σ.Normal) :
    σ.options.scanner = ⟨σ.scanner.bindings, true⟩ := by
  rw [Options.scanner, Scanner.ofList, options,
    bindingsOf_of_nodup h.bindings_identifier h.bindings_nodup h.bindings_ne_nil]

end Settings

/-- The number of steps that a change of settings has left at most. -/
def SettingsPhase.left : SettingsPhase → Nat
  | .begun => 5
  | .scanner _ => 4
  | .options _ => 3
  | .extractor => 2
  | .keeping => 1

namespace Server

variable {files : FileTree} {s s' : Server} {x? : Option Extractor} {new : Settings}
  {phase phase' : SettingsPhase} {e : Incident} {es : List Incident}

theorem normal_startSettings (files : FileTree) (client : Client) :
    (startSettings files client).Normal := by
  unfold startSettings
  simp only
  split
  · exact Settings.normal_merge _ _
  · split
    · exact Settings.normal_mergeConfigFile Settings.tidy_defaults.toNormal _ _
    · exact Settings.tidy_defaults.toNormal

/-! ### Courses -/

/-- A server that has handled nothing yet: it is fixed to an extractor, or runs that of its settings. -/
def start : Option Extractor → Server
  | none => ofSettings
  | some x => ofExtractor x true

/-- What an incident leads to. -/
def face (s : Server) : Incident → Server
  | .began files client => s.begin files client
  | .met t => (s.meet t).server

/-- What a course of incidents leads to. -/
def faced (s : Server) (es : List Incident) : Server := es.foldl face s

@[simp] theorem faced_nil (s : Server) : s.faced [] = s := rfl

@[simp] theorem faced_cons (s : Server) (e : Incident) (es : List Incident) :
    s.faced (e :: es) = (s.face e).faced es := rfl

theorem faced_append (s : Server) (es es' : List Incident) :
    s.faced (es ++ es') = (s.faced es).faced es' :=
  List.foldl_append

/-- No change of settings goes on. -/
def Rests (s : Server) : Prop := ∀ id, ¬ s.Changes id

/-- No change of settings begins while another one goes on. -/
def Allows (s : Server) : Incident → Prop
  | .began _ _ => s.Rests
  | .met t => s.Apart t.impulse

/-- The settings change one after the other. -/
def InOrder : Server → List Incident → Prop
  | _, [] => True
  | s, e :: es => s.Allows e ∧ (s.face e).InOrder es

theorem inOrder_append {es' : List Incident} :
    s.InOrder (es ++ es') ↔ s.InOrder es ∧ (s.faced es).InOrder es' := by
  induction es generalizing s with
  | nil => simp [InOrder]
  | cons e es ih => simp only [List.cons_append, InOrder, ih, faced_cons, and_assoc]

/-! ### The first call of a client -/

/-- The server once all parts but the extractor follow the settings. -/
def adjusted (s : Server) (new : Settings) : Server :=
  ((s.resizeCache new).followBindings new).followOptions new

/-- The server once the settings hold, and more is known of the client. -/
def greeted (s : Server) (client : Client) (new : Settings) : Server :=
  { s.keepSettings new with
    roots := rootsOf client, refreshSupported := client.refreshSupported }

theorem goes_greeted (s : Server) (client : Client) (new : Settings) :
    (s.keepSettings new).Goes (s.greeted client new) :=
  ⟨.refl, rfl, rfl, rfl, Nat.le_refl _⟩

/-- The settings are applied all at once: the extractor is replaced, or it stays. -/
theorem begin_cases (s : Server) (files : FileTree) (client : Client) :
    ∃ s', s.begin files client = s'.greeted client (startSettings files client) ∧
      (s.changesExtractor s.settings (startSettings files client) = true ∧
          s' = (s.adjusted (startSettings files client)).followExtractor files
            (startSettings files client) ∨
        s.changesExtractor s.settings (startSettings files client) = false ∧
          s' = s.adjusted (startSettings files client)) := by
  have hsame : ∀ new, (s.adjusted new).changesExtractor s.settings new =
      s.changesExtractor s.settings new := fun new => rfl
  unfold begin applySettings
  simp only
  rw [show ∀ new, ((s.resizeCache new).followBindings new).followOptions new = s.adjusted new from
    fun new => rfl, hsame]
  cases s.changesExtractor s.settings (startSettings files client) with
  | true => exact ⟨_, rfl, .inl ⟨rfl, rfl⟩⟩
  | false => exact ⟨_, rfl, .inr ⟨rfl, rfl⟩⟩

theorem handlers_begin (s : Server) (files : FileTree) (client : Client) :
    (s.begin files client).handlers = s.handlers ∧
      (s.begin files client).nextHandler = s.nextHandler := by
  obtain ⟨s', heq, hcases⟩ := begin_cases s files client
  rw [heq]
  rcases hcases with ⟨-, rfl⟩ | ⟨-, rfl⟩ <;> exact ⟨rfl, rfl⟩

theorem rests_begin (h : s.Rests) (files : FileTree) (client : Client) :
    (s.begin files client).Rests := by
  simp only [Rests, Changes, (handlers_begin s files client).1]
  exact h

theorem settings_begin (s : Server) (files : FileTree) (client : Client) :
    (s.begin files client).settings = startSettings files client := by
  obtain ⟨s', heq, -⟩ := begin_cases s files client
  rw [heq]
  rfl

theorem InTurn.begun {P : Settings → SettingsPhase → Server → Prop} {Q : Server → Prop}
    (h : s.InTurn P Q) (hrests : s.Rests) {client : Client} (hQ : Q (s.begin files client)) :
    (s.begin files client).InTurn P Q := by
  obtain ⟨hhandlers, hnext⟩ := handlers_begin s files client
  refine .of_between (fun id a ha => ?_) (rests_begin hrests files client) hQ
  rw [hhandlers] at ha
  rw [hnext]
  exact h.numbered id a ha

/-! ### Parts that follow settings -/

/-- What holds of a server whatever its parts follow. -/
structure Sound (x? : Option Extractor) (s : Server) : Prop where
  pinned : s.pinned = x?.isSome
  follows : s.session.resolver.fixedScanner = false
  bounded : s.session.resolver.cache.size ≤ s.session.resolver.cache.capacity
  normal : s.settings.Normal

/-- The extractor in force is the one that the server is fixed to, or runs the command of the
settings. -/
def Extracts (x? : Option Extractor) (settings : Settings) (s : Server) : Prop :=
  match x? with
  | some x => s.session.resolver.extractor = x
  | none => ∃ files, s.session.resolver.extractor =
      .command files settings.extractor.command settings.extractor.args

/-- Each part of a server follows some settings: its cache, its scanner, its options, and its
extractor. -/
structure Follows (x? : Option Extractor) (cached scanned told extracted : Settings) (s : Server) :
    Prop where
  capacity : s.session.resolver.cache.capacity = cached.cache.maxEntries
  scanner : s.session.resolver.scanner = ⟨scanned.scanner.bindings, true⟩
  options : s.session.resolver.options = told.options
  debounce : s.session.debounce = told.resolution.debounce
  forwarding : s.forwarding = told.logging.level.allowsWarn
  extractor : s.Extracts x? extracted

/-- The parts follow the new settings as far as the change has come. -/
def FollowsAt (x? : Option Extractor) (new : Settings) (s : Server) : SettingsPhase → Prop
  | .begun => s.Follows x? s.settings s.settings s.settings s.settings
  | .scanner previous => previous = s.settings ∧ s.Follows x? new s.settings s.settings s.settings
  | .options previous => previous = s.settings ∧ s.Follows x? new new s.settings s.settings
  | .extractor => x? = none ∧ s.Follows x? new new new s.settings
  | .keeping => s.Follows x? new new new new

variable {cached scanned told extracted : Settings}

theorem Sound.goes (h : s.Sound x?) (hgoes : s.Goes s') : s'.Sound x? := by
  obtain ⟨-, -, -, hfixed, -, -⟩ := hgoes.session.frame
  exact ⟨hgoes.pinned.trans h.pinned, hfixed.trans h.follows, hgoes.session.size_le h.bounded,
    hgoes.settings ▸ h.normal⟩

theorem Follows.goes (h : s.Follows x? cached scanned told extracted) (hgoes : s.Goes s') :
    s'.Follows x? cached scanned told extracted := by
  obtain ⟨hx, hoptions, hscanner, -, hdebounce, hcapacity⟩ := hgoes.session.frame
  refine ⟨hcapacity.trans h.capacity, hscanner.trans h.scanner, hoptions.trans h.options,
    hdebounce.trans h.debounce, hgoes.forwarding.trans h.forwarding, ?_⟩
  have hextracts := h.extractor
  cases x? with
  | some x => exact hx.trans hextracts
  | none =>
      obtain ⟨files, heq⟩ := hextracts
      exact ⟨files, hx.trans heq⟩

theorem followsAt_goes (h : s.FollowsAt x? new phase) (hgoes : s.Goes s') :
    s'.FollowsAt x? new phase := by
  unfold FollowsAt at h ⊢
  rw [hgoes.settings]
  cases phase with
  | begun | keeping => exact h.goes hgoes
  | scanner previous | options previous => exact ⟨h.1, h.2.goes hgoes⟩
  | extractor => exact ⟨h.1, h.2.goes hgoes⟩

/-! ### One part after the other -/

theorem sound_resizeCache (h : s.Sound x?) (new : Settings) : (s.resizeCache new).Sound x? :=
  ⟨h.pinned, h.follows, Cache.size_resize_le _ _, h.normal⟩

theorem follows_resizeCache (h : s.Follows x? cached scanned told extracted) (hnew : new.Normal) :
    (s.resizeCache new).Follows x? new scanned told extracted where
  capacity := by
    have hresized : ∀ c : Cache, (c.resize new.cache.maxEntries).capacity = new.cache.maxEntries := by
      intro c
      rw [Cache.resize, Cache.capacity_shrink]
      exact Nat.max_eq_right hnew.le_maxEntries
    exact hresized _
  scanner := h.scanner
  options := h.options
  debounce := h.debounce
  forwarding := h.forwarding
  extractor := h.extractor

theorem followBindings_eq (h : s.session.resolver.fixedScanner = false) (hnew : new.Normal) :
    s.followBindings new =
      s.withResolver { s.session.resolver with scanner := ⟨new.scanner.bindings, true⟩ } := by
  rw [followBindings, Resolver.followBindings, if_neg (by simp [h]), hnew.scanner_eq]

theorem sound_followBindings (h : s.Sound x?) (hnew : new.Normal) : (s.followBindings new).Sound x? := by
  rw [followBindings_eq h.follows hnew]
  exact ⟨h.pinned, h.follows, h.bounded, h.normal⟩

theorem follows_followBindings (h : s.Follows x? cached scanned told extracted) (hs : s.Sound x?)
    (hnew : new.Normal) : (s.followBindings new).Follows x? cached new told extracted := by
  rw [followBindings_eq hs.follows hnew]
  exact ⟨h.capacity, rfl, h.options, h.debounce, h.forwarding, h.extractor⟩

theorem sound_followOptions (h : s.Sound x?) (new : Settings) : (s.followOptions new).Sound x? :=
  ⟨h.pinned, h.follows, h.bounded, h.normal⟩

theorem follows_followOptions (h : s.Follows x? cached scanned told extracted) (new : Settings) :
    (s.followOptions new).Follows x? cached scanned new extracted :=
  ⟨h.capacity, h.scanner, rfl, rfl, rfl, h.extractor⟩

theorem sound_adjusted (h : s.Sound x?) (hnew : new.Normal) : (s.adjusted new).Sound x? :=
  sound_followOptions (sound_followBindings (sound_resizeCache h new) hnew) new

theorem follows_adjusted (h : s.Follows x? cached scanned told extracted) (hs : s.Sound x?)
    (hnew : new.Normal) : (s.adjusted new).Follows x? new new new extracted :=
  follows_followOptions
    (follows_followBindings (follows_resizeCache h hnew) (sound_resizeCache hs new) hnew) new

theorem sound_followExtractor (h : s.Sound x?) (files : FileTree) (new : Settings) :
    (s.followExtractor files new).Sound x? :=
  ⟨h.pinned, h.follows, Nat.zero_le _, h.normal⟩

/-- The extractor of a server that is not fixed to one is replaced. -/
theorem follows_followExtractor (h : s.Follows none cached scanned told extracted) (files : FileTree)
    (new : Settings) : (s.followExtractor files new).Follows none cached scanned told new :=
  ⟨h.capacity, h.scanner, h.options, h.debounce, h.forwarding, files, rfl⟩

/-- The extractor stays where the settings do not change it. -/
theorem Follows.of_same (h : s.Follows x? cached scanned told extracted) (hs : s.Sound x?)
    (hsame : s.changesExtractor extracted new = false) :
    s.Follows x? cached scanned told new := by
  refine ⟨h.capacity, h.scanner, h.options, h.debounce, h.forwarding, ?_⟩
  have hextracts := h.extractor
  rw [changesExtractor, hs.pinned, Bool.and_eq_false_iff, bne_eq_false_iff_eq] at hsame
  cases x? with
  | some x => exact hextracts
  | none =>
      have hextractor : extracted.extractor = new.extractor := hsame.resolve_left (by simp)
      unfold Extracts at hextracts ⊢
      rwa [← hextractor]

theorem eq_none_of_changesExtractor {previous : Settings} (hs : s.Sound x?)
    (hother : s.changesExtractor previous new = true) : x? = none := by
  rw [changesExtractor, hs.pinned, Bool.and_eq_true] at hother
  cases x? with
  | some x => simp at hother
  | none => rfl

/-! ### Changes of settings -/

/-- A change of settings leaves a server sound, and the next part follows it. -/
theorem Advances.follows (hadv : s.Advances files new phase phase' s') (hnew : new.Normal)
    (hs : s.Sound x?) (hat : s.FollowsAt x? new phase) :
    s'.Sound x? ∧ s'.FollowsAt x? new phase' := by
  cases hadv with
  | begun => exact ⟨sound_resizeCache hs new, rfl, follows_resizeCache hat hnew⟩
  | scanner previous =>
      obtain ⟨rfl, hfollows⟩ := hat
      refine ⟨sound_followBindings hs hnew, ?_, ?_⟩
      · rw [followBindings_eq hs.follows hnew]
        rfl
      · have hnext := follows_followBindings hfollows hs hnew
        rw [followBindings_eq hs.follows hnew] at hnext ⊢
        exact hnext
  | options same =>
      obtain ⟨rfl, hfollows⟩ := hat
      exact ⟨sound_followOptions hs new, follows_followOptions (hfollows.of_same hs same) new⟩
  | swapping other =>
      obtain ⟨rfl, hfollows⟩ := hat
      exact ⟨sound_followOptions hs new, eq_none_of_changesExtractor hs other,
        follows_followOptions hfollows new⟩
  | extractor =>
      obtain ⟨rfl, hfollows⟩ := hat
      exact ⟨sound_followExtractor hs files new, follows_followExtractor hfollows files new⟩

/-- While the settings change, the parts are as far as the change. -/
def Following (x? : Option Extractor) (new : Settings) (phase : SettingsPhase) (s : Server) : Prop :=
  new.Normal ∧ s.Sound x? ∧ s.FollowsAt x? new phase

/-- All parts follow the settings in force. -/
def Agrees (x? : Option Extractor) (s : Server) : Prop :=
  s.Sound x? ∧ s.Follows x? s.settings s.settings s.settings s.settings

theorem settles_following (x? : Option Extractor) : Settles (Following x?) (Agrees x?) where
  stays hgoes h := ⟨h.1, h.2.1.goes hgoes, followsAt_goes h.2.2 hgoes⟩
  rests hgoes h := ⟨h.1.goes hgoes, by
    rw [hgoes.settings]
    exact h.2.goes hgoes⟩
  begun payload h := ⟨Settings.normal_merge _ payload, h⟩
  kept h := ⟨⟨h.2.1.pinned, h.2.1.follows, h.2.1.bounded, h.1⟩, h.2.2.capacity, h.2.2.scanner,
    h.2.2.options, h.2.2.debounce, h.2.2.forwarding, h.2.2.extractor⟩

theorem agrees_begin (h : s.Agrees x?) (files : FileTree) (client : Client) :
    (s.begin files client).Agrees x? := by
  have hnew := normal_startSettings files client
  obtain ⟨s', heq, hcases⟩ := begin_cases s files client
  have hsound := sound_adjusted h.1 hnew
  have hfollows := follows_adjusted h.2 h.1 hnew
  rw [heq]
  refine (settles_following x?).rests (goes_greeted _ _ _) ((settles_following x?).kept ⟨hnew, ?_⟩)
  rcases hcases with ⟨hother, rfl⟩ | ⟨hsame, rfl⟩
  · obtain rfl := eq_none_of_changesExtractor h.1 hother
    exact ⟨sound_followExtractor hsound files _, follows_followExtractor hfollows files _⟩
  · exact ⟨hsound, hfollows.of_same hsound hsame⟩

/-- Every incident in order keeps the parts in step. -/
theorem following_face (h : s.InTurn (Following x?) (Agrees x?)) (he : s.Allows e) :
    (s.face e).InTurn (Following x?) (Agrees x?) := by
  cases e with
  | began files client => exact h.begun he (agrees_begin (h.between he) files client)
  | met t =>
      exact h.act (settles_following x?) he fun _ _ hadv hfollowing =>
        ⟨hfollowing.1, hadv.follows hfollowing.1 hfollowing.2.1 hfollowing.2.2⟩

theorem following_faced (h : s.InTurn (Following x?) (Agrees x?)) (hes : s.InOrder es) :
    (s.faced es).InTurn (Following x?) (Agrees x?) := by
  induction es generalizing s with
  | nil => exact h
  | cons e es ih => exact ih (following_face h hes.1) hes.2

theorem agrees_ofExtractor {x : Extractor} {pinned : Bool} (hpinned : pinned = x?.isSome)
    (hx : (ofExtractor x pinned).Extracts x? {}) : (ofExtractor x pinned).Agrees x? :=
  ⟨⟨hpinned, rfl, Nat.zero_le _, Settings.tidy_defaults.toNormal⟩, rfl,
    Settings.tidy_defaults.toNormal.scanner_eq, rfl, rfl, rfl, hx⟩

theorem rests_start (x? : Option Extractor) : (start x?).Rests := by
  rintro id ⟨new, phase, hh⟩
  cases x? <;> cases hh

/-- The server begins with the default settings, and all parts follow them. -/
theorem following_start (x? : Option Extractor) :
    (start x?).InTurn (Following x?) (Agrees x?) := by
  refine .of_between (fun id a ha => ?_) (rests_start x?) ?_
  · cases x? <;> cases ha
  · cases x? with
    | some x => exact agrees_ofExtractor rfl rfl
    | none => exact agrees_ofExtractor rfl ⟨{}, rfl⟩

/-! ### What is cached since the extractor was changed -/

/-- Nothing is cached. -/
def Forgot (s : Server) : Prop := s.session.resolver.cache.entries = .empty

/-- A server that is not fixed to an extractor has not replaced the one of these settings, as far as the
change of settings has come. -/
def HoldsTo (e : ExtractorSettings) (new : Settings) (phase : SettingsPhase) (s : Server) : Prop :=
  s.pinned = false ∧
    match phase with
    | .begun => s.settings.extractor = e
    | .scanner previous | .options previous => previous.extractor = e
    | .extractor => True
    | .keeping => new.extractor = e

/-- The settings in force call for the extractor. -/
def CallsFor (e : ExtractorSettings) (s : Server) : Prop :=
  s.pinned = false ∧ s.settings.extractor = e

variable {x : ExtractorSettings}

theorem settles_holdsTo (x : ExtractorSettings) : Settles (HoldsTo x) (CallsFor x) where
  stays {s s' new phase} hgoes h := by
    refine ⟨hgoes.pinned.trans h.1, ?_⟩
    have hphase := h.2
    cases phase with
    | begun => exact (congrArg Settings.extractor hgoes.settings).trans hphase
    | _ => exact hphase
  rests hgoes h := ⟨hgoes.pinned.trans h.1, (congrArg Settings.extractor hgoes.settings).trans h.2⟩
  begun payload h := h
  kept h := h

theorem extractor_eq_of_same {previous : Settings} (hpinned : s.pinned = false)
    (hsame : s.changesExtractor previous new = false) : previous.extractor = new.extractor := by
  rw [changesExtractor, hpinned, Bool.and_eq_false_iff, bne_eq_false_iff_eq] at hsame
  exact hsame.resolve_left (by simp)

/-- A change of settings keeps the extractor until it replaces it. -/
theorem Advances.holdsTo (hadv : s.Advances files new phase phase' s') (hphase : phase ≠ .extractor)
    (h : s.HoldsTo x new phase) : s'.HoldsTo x new phase' := by
  refine ⟨hadv.pinned.trans h.1, ?_⟩
  cases hadv with
  | begun | scanner => exact h.2
  | options same => exact (extractor_eq_of_same h.1 same).symm.trans h.2
  | swapping => trivial
  | extractor => exact absurd rfl hphase

/-- When the extractor is replaced, nothing is cached any more. -/
theorem forgot_stepSettings (s : Server) (files : FileTree) (id : Nat) (new : Settings) :
    (s.stepSettings files id new .extractor).Forgot := rfl

/-- An incident in order keeps the extractor that the settings call for, or nothing is cached after
it. -/
theorem holdsTo_face (h : s.InTurn (HoldsTo x) (CallsFor x)) (he : s.Allows e) :
    (s.face e).InTurn (HoldsTo x) (CallsFor x) ∨ (s.face e).Forgot := by
  cases e with
  | began files client =>
      obtain ⟨hpinned, hx⟩ := h.between he
      obtain ⟨s', heq, ⟨-, rfl⟩ | ⟨hsame, rfl⟩⟩ := begin_cases s files client
      · right
        rw [face, heq]
        exact rfl
      · left
        have hnew := (extractor_eq_of_same hpinned hsame).symm.trans hx
        refine h.begun he ?_
        rw [heq]
        exact ⟨hpinned, hnew⟩
  | met t =>
      by_cases hswaps : ∃ id new, t.impulse = .handled id ∧
          s.handlers.get? id = some (.changing new .extractor)
      · obtain ⟨id, new, hi, hh⟩ := hswaps
        right
        simp only [face, meet, hi, act, stepHandler, hh]
        exact forgot_stepSettings s t.files id new
      · left
        refine h.act (settles_holdsTo x) he fun {id new phase _ _} hi hh hadv hholds =>
          hadv.holdsTo ?_ hholds
        rintro rfl
        exact hswaps ⟨id, new, hi, hh⟩

/-- If the settings call for another extractor in the end, there was a time in between when nothing was
cached. -/
theorem forgot_between (h : s.InTurn (HoldsTo x) (CallsFor x)) (hes : s.InOrder es)
    (hrests : (s.faced es).Rests) (hx : (s.faced es).settings.extractor ≠ x) :
    ∃ since, since <+: es ∧ since ≠ [] ∧ (s.faced since).Forgot := by
  induction es generalizing s with
  | nil => exact absurd (h.between hrests).2 hx
  | cons e es ih =>
      rcases holdsTo_face h hes.1 with hheld | hforgot
      · obtain ⟨since, hsince, -, hforgot⟩ := ih hheld hes.2 hrests hx
        exact ⟨e :: since, List.cons_prefix_cons.mpr ⟨rfl, hsince⟩, by simp, hforgot⟩
      · exact ⟨[e], by simp, by simp, hforgot⟩

/-! ### What is cached is of the extractor in force -/

/-- The extractor is replaced only while no extraction is under way. -/
def SwapsIdle : Server → List Incident → Prop
  | _, [] => True
  | s, e :: es =>
    ((s.face e).session.resolver.extractor ≠ s.session.resolver.extractor →
      s.session.ExtractsNothing) ∧ (s.face e).SwapsIdle es

/-- What the session has cached, and what its runs wait for, is of the extractor in force. -/
abbrev Faithful (s : Server) : Prop := s.session.Faithful fun _ => True

theorem faithful_resizeCache (h : s.Faithful) (new : Settings) : (s.resizeCache new).Faithful :=
  h.reset rfl rfl (Cache.holds_resize h.cache _) (.inl rfl)

theorem faithful_followBindings (h : s.Faithful) (new : Settings) : (s.followBindings new).Faithful := by
  unfold followBindings Resolver.followBindings
  split <;> exact h.reset rfl rfl h.cache (.inl rfl)

theorem faithful_followOptions (h : s.Faithful) (new : Settings) : (s.followOptions new).Faithful :=
  h.reset rfl rfl h.cache (.inl rfl)

theorem faithful_adjusted (h : s.Faithful) (new : Settings) : (s.adjusted new).Faithful :=
  faithful_followOptions (faithful_followBindings (faithful_resizeCache h new) new) new

theorem extractor_adjusted (s : Server) (new : Settings) :
    (s.adjusted new).session.resolver.extractor = s.session.resolver.extractor := by
  unfold adjusted followBindings Resolver.followBindings
  split <;> rfl

theorem faithful_followExtractor (h : s.Faithful)
    (hidle : (s.followExtractor files new).session.resolver.extractor ≠ s.session.resolver.extractor →
      s.session.ExtractsNothing) : (s.followExtractor files new).Faithful := by
  refine h.reset rfl rfl (fun key e he => ?_) ?_
  · simp [followExtractor, withResolver, Resolver.setExtractor, Cache.clear] at he
  · by_cases hsame : (s.followExtractor files new).session.resolver.extractor =
      s.session.resolver.extractor
    · exact .inl hsame
    · exact .inr (hidle hsame)

theorem Advances.faithful (hadv : s.Advances files new phase phase' s') (h : s.Faithful)
    (hidle : s'.session.resolver.extractor ≠ s.session.resolver.extractor →
      s.session.ExtractsNothing) : s'.Faithful := by
  cases hadv with
  | begun => exact faithful_resizeCache h new
  | scanner => exact faithful_followBindings h new
  | options | swapping => exact faithful_followOptions h new
  | extractor => exact faithful_followExtractor h hidle

theorem faithful_face (h : s.Faithful)
    (hidle : (s.face e).session.resolver.extractor ≠ s.session.resolver.extractor →
      s.session.ExtractsNothing) : (s.face e).Faithful := by
  cases e with
  | began files client =>
      obtain ⟨s', heq, ⟨-, rfl⟩ | ⟨-, rfl⟩⟩ := begin_cases s files client
      · rw [face, heq] at hidle ⊢
        exact faithful_followExtractor (faithful_adjusted h _)
          fun hother => hidle fun hsame => hother (hsame.trans (extractor_adjusted s _).symm)
      · rw [face, heq]
        exact faithful_adjusted h _
  | met t =>
      by_cases hsteady : s.Steady t.impulse
      · exact (goes_act t.files hsteady).session.faithful h
      · simp only [Steady, not_forall, not_not] at hsteady
        obtain ⟨id, new, phase, hi, hh⟩ := hsteady
        have hstep : s.face (.met t) = s.stepSettings t.files id new phase := by
          simp only [face, meet, hi, act, stepHandler, hh]
        rw [hstep] at hidle ⊢
        rcases stepSettings_cases s t.files id new phase with
          ⟨phase', s', hadv, heq⟩ | ⟨rfl, hgoes, -⟩
        · rw [heq] at hidle ⊢
          exact hadv.faithful h hidle
        · exact hgoes.session.faithful h

theorem faithful_faced (h : s.Faithful) (hes : s.SwapsIdle es) : (s.faced es).Faithful := by
  induction es generalizing s with
  | nil => exact h
  | cons e es ih => exact ih (faithful_face h hes.1) hes.2

theorem faithful_start (x? : Option Extractor) : (start x?).Faithful := by
  cases x? with
  | some x => exact faithful_ofExtractor x true
  | none => exact faithful_ofExtractor _ false

/-! ### A call with new settings, to its end -/

/-- A handler goes on so many times, with nothing in between. -/
def goesOn (files : FileTree) (id n : Nat) : List Incident :=
  List.replicate n (.met ⟨files, .handled id⟩)

/-- A call with new settings comes in and is handled to its end, with nothing in between. -/
def configure (s : Server) (files : FileTree) (payload : Json.Value) : List Incident :=
  .met ⟨files, .received (.configured payload)⟩ :: goesOn files s.nextHandler 6

/-- A course in order after which the settings are these, and no change of them goes on. -/
structure Ends (s : Server) (es : List Incident) (new : Settings) : Prop where
  inOrder : s.InOrder es
  rests : (s.faced es).Rests
  settings : (s.faced es).settings = new

theorem Ends.cons (h : (s.face e).Ends es new) (he : s.Allows e) : s.Ends (e :: es) new :=
  ⟨⟨he, h.inOrder⟩, h.rests, h.settings⟩

/-- The only change of settings that may go on is the one of this handler. -/
def Changing (s : Server) (id : Nat) : Prop := ∀ id', s.Changes id' → id' = id

theorem Changing.put {id : Nat} (h : s.Changing id) {handler : Handler}
    (hhandlers : s'.handlers = s.handlers.insert id handler) : s'.Changing id := by
  rintro id' ⟨new, phase, hh⟩
  rw [hhandlers, Table.get?_insert] at hh
  split at hh
  · rename_i hid
    exact hid.symm
  · exact h id' ⟨new, phase, hh⟩

/-- Without its handler none goes on. -/
theorem Changing.drop {id : Nat} (h : s.Changing id) (hhandlers : s'.handlers = s.handlers.erase id) :
    s'.Rests := by
  rintro id' ⟨new, phase, hh⟩
  rw [hhandlers, Table.get?_erase] at hh
  split at hh
  · cases hh
  · rename_i hne
    exact hne (h id' ⟨new, phase, hh⟩).symm

theorem Rests.changing (h : s.Rests) (id : Nat) : s.Changing id := fun id' hid' => absurd hid' (h id')

/-- Where there is no handler, none goes on. -/
theorem ends_of_none {id : Nat} (hnone : s.handlers.get? id = none) (hrests : s.Rests)
    (files : FileTree) (n : Nat) : s.Ends (goesOn files id n) s.settings := by
  induction n with
  | zero => exact ⟨trivial, hrests, rfl⟩
  | succ n ih =>
      have hface : s.face (.met ⟨files, .handled id⟩) = s := by
        simp only [face, meet, act, stepHandler, hnone]
      exact Ends.cons (e := .met ⟨files, .handled id⟩) (by rwa [hface]) fun _ _ _ _ => hrests

theorem Advances.left_lt (hadv : s.Advances files new phase phase' s') : phase'.left < phase.left := by
  cases hadv <;> simp [SettingsPhase.left]

/-- A change of settings that is alone ends, and its settings hold then. -/
theorem ends_of_changing {id n : Nat} (hh : s.handlers.get? id = some (.changing new phase))
    (honly : s.Changing id) (hn : phase.left ≤ n) : s.Ends (goesOn files id n) new := by
  induction n generalizing s phase with
  | zero => cases phase <;> cases hn
  | succ n ih =>
      have hface : s.face (.met ⟨files, .handled id⟩) = s.stepSettings files id new phase := by
        simp only [face, meet, act, stepHandler, hh]
      refine Ends.cons (e := .met ⟨files, .handled id⟩) ?_ ?_
      · rw [hface]
        rcases stepSettings_cases s files id new phase with
          ⟨phase', s', hadv, heq⟩ | ⟨rfl, hgoes, hhandlers, -⟩
        · have hleft := hadv.left_lt
          have hsame : s'.handlers = s.handlers := by cases hadv <;> rfl
          have hhandlers : (s'.put id (.changing new phase')).handlers =
              s.handlers.insert id (.changing new phase') := by rw [put, hsame]
          have hnext : (s'.put id (.changing new phase')).handlers.get? id =
              some (.changing new phase') := by simp [hhandlers]
          rw [heq]
          exact ih hnext (honly.put hhandlers) (by omega)
        · have hnone : (s.stepSettings files id new .keeping).handlers.get? id = none := by
            rw [hhandlers]
            simp
          have hends := ends_of_none hnone (honly.drop hhandlers) files n
          rwa [hgoes.settings] at hends
      · rintro _ payload ⟨⟩ hconfiguring
        rw [hh] at hconfiguring
        cases hconfiguring

/-- A call with new settings leads to them. -/
theorem ends_configure (hrests : s.Rests) (files : FileTree) (payload : Json.Value) :
    s.Ends (s.configure files payload) (s.settings.merge payload) := by
  -- the call has a handler of its own, which is no change of settings yet
  let s₁ := (s.spawn (.configuring payload)).1
  have hhandler : s₁.handlers.get? s.nextHandler = some (.configuring payload) := by
    simp [s₁, spawn]
  have hrests₁ : s₁.Rests := by
    rintro id ⟨new, phase, hh⟩
    have honly : s₁.Changing s.nextHandler := (hrests.changing s.nextHandler).put rfl
    obtain rfl := honly id ⟨new, phase, hh⟩
    rw [hhandler] at hh
    cases hh
  have honly := hrests₁.changing s.nextHandler
  have hface : s₁.face (.met ⟨files, .handled s.nextHandler⟩) =
      if s.settings.merge payload = s.settings then s₁.drop s.nextHandler
      else s₁.put s.nextHandler (.changing (s.settings.merge payload) .begun) := by
    simp only [face, meet, act, stepHandler, hhandler]
    rfl
  have hrest : s₁.Ends (goesOn files s.nextHandler 6) (s.settings.merge payload) := by
    refine Ends.cons (e := .met ⟨files, .handled s.nextHandler⟩) ?_ fun _ _ _ _ => hrests₁
    rw [hface]
    split
    · rename_i hsame
      have hnone : (s₁.drop s.nextHandler).handlers.get? s.nextHandler = none := by simp [drop]
      rw [hsame]
      exact ends_of_none hnone (honly.drop rfl) files 5
    · have hbegun : (s₁.put s.nextHandler (.changing (s.settings.merge payload) .begun)).handlers.get?
          s.nextHandler = some (.changing (s.settings.merge payload) .begun) := by simp [put]
      exact ends_of_changing hbegun (honly.put rfl) (Nat.le_refl 5)
  exact Ends.cons (e := .met ⟨files, .received (.configured payload)⟩) hrest (by rintro _ _ ⟨⟩)

/-- The first call of a client is handled at once. -/
theorem ends_began (hrests : s.Rests) (files : FileTree) (client : Client) :
    s.Ends [.began files client] (startSettings files client) :=
  ⟨⟨hrests, trivial⟩, rests_begin hrests files client, settings_begin s files client⟩

/-! ### Agreement -/

/-- Whatever a server met, with its settings changing one after the other: while no change goes on, its
parts follow the settings in force.  If they call for another extractor than they did at an earlier time,
nothing is cached from before that; and if the extractor was only replaced while no extraction was under
way, all that is cached is what the extractor in force gives.  Each call with settings that comes now can be
handled to its end, and its settings hold then. -/
theorem parts_agree (x? : Option Extractor) (es : List Incident) (horder : (start x?).InOrder es)
    (hrests : ((start x?).faced es).Rests) :
    let s := (start x?).faced es
    let r := s.session.resolver
    r.options = s.settings.options ∧ r.scanner = ⟨s.settings.scanner.bindings, true⟩ ∧
      r.cache.capacity = s.settings.cache.maxEntries ∧
      r.cache.size ≤ s.settings.cache.maxEntries ∧
      s.session.debounce = s.settings.resolution.debounce ∧
      s.forwarding = s.settings.logging.level.allowsWarn ∧
      s.Extracts x? s.settings ∧
      (x? = none → ∀ before since, es = before ++ since → ((start x?).faced before).Rests →
        ((start x?).faced before).settings.extractor ≠ s.settings.extractor →
        ∃ middle, middle <+: since ∧ middle ≠ [] ∧ ((start x?).faced (before ++ middle)).Forgot) ∧
      ((start x?).SwapsIdle es → r.cache.Holds (Genuine r.extractor fun _ => True)) ∧
      (∀ files client, s.Ends [.began files client] (startSettings files client)) ∧
      ∀ files payload, s.Ends (s.configure files payload) (s.settings.merge payload) := by
  intro s r
  obtain ⟨hsound, hfollows⟩ := (following_faced (following_start x?) horder).between hrests
  refine ⟨hfollows.options, hfollows.scanner, hfollows.capacity, ?_, hfollows.debounce,
    hfollows.forwarding, hfollows.extractor, ?_, fun hswaps => ?_, ends_began hrests,
    ends_configure hrests⟩
  · exact Nat.le_trans hsound.bounded (Nat.le_of_eq hfollows.capacity)
  · rintro rfl before since rfl hbefore hother
    obtain ⟨hfirst, hsince⟩ := inOrder_append.mp horder
    have hturn := following_faced (following_start none) hfirst
    have hpinned : ((start none).faced before).pinned = false := (hturn.between hbefore).1.pinned
    have hend : s = ((start none).faced before).faced since := faced_append _ _ _
    obtain ⟨middle, hprefix, hne, hforgot⟩ :=
      forgot_between (.of_between hturn.numbered hbefore ⟨hpinned, rfl⟩) hsince (hend ▸ hrests)
        (hend ▸ hother.symm)
    exact ⟨middle, hprefix, hne, by rwa [faced_append]⟩
  · exact (faithful_faced (faithful_start x?) hswaps).cache

end Server

namespace Sample

/-- Settings with another name, another command and a smaller cache. -/
def tuned : Json.Value :=
  .object [
    ("scanner", .object [("bindings", .list [.string "k"])]),
    ("extractor", .object [("command", .string "other")]),
    ("cache", .object [("maxEntries", .number (.whole 2))])]

end Sample

namespace Server

open Sample in
/-- A client calls with other settings: the parts follow them, and nothing is cached from before. -/
theorem parts_agree_after_call :
    let first : Incident := .began {} {}
    let s := (start none).faced (first :: ((start none).face first).configure {} tuned)
    s.session.resolver.options = ⟨["k"], true, 5000, 2⟩ ∧
      s.session.resolver.scanner = ⟨["k"], true⟩ ∧ s.session.resolver.cache.size ≤ 2 ∧
      (∃ files, s.session.resolver.extractor = .command files "other" []) ∧
      ∃ middle, middle <+: ((start none).face first).configure {} tuned ∧ middle ≠ [] ∧
        ((start none).faced ([first] ++ middle)).Forgot := by
  intro first
  have hrests : ((start none).face first).Rests := rests_begin (rests_start none) {} {}
  have hfirst : ((start none).face first).settings = {} := settings_begin (start none) {} {}
  have hcall := ends_configure hrests {} tuned
  have hmerged : ({} : Settings).merge tuned =
      { scanner := { bindings := ["k"] }, extractor := { command := "other" },
        cache := { maxEntries := 2 } } := by decide +kernel
  rw [hfirst, hmerged] at hcall
  generalize ((start none).face first).configure {} tuned = call at hcall ⊢
  have horder : (start none).InOrder (first :: call) := ⟨rests_start none, hcall.inOrder⟩
  obtain ⟨hoptions, hscanner, -, hsize, -, -, hextracts, hforgot, -⟩ :=
    parts_agree none (first :: call) horder (by rw [faced_cons]; exact hcall.rests)
  have hsettings := hcall.settings
  rw [← faced_cons] at hsettings
  rw [hsettings] at hoptions hscanner hsize hextracts hforgot
  refine ⟨hoptions, hscanner, hsize, hextracts, ?_⟩
  refine hforgot rfl [first] call rfl (by rwa [faced_cons, faced_nil]) ?_
  rw [faced_cons, faced_nil, hfirst]
  decide

end Server

end ClassLens
