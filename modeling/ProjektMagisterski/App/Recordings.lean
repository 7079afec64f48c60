import ProjektMagisterski.App.Model

/-!
# What the readings files hold

Every run of the app projects to runs of its two parts.  Over these:

* `rounds_accounted`: in every run, no line is lost, repeated, torn or reordered
  within its thread, and only readings files are written;
* `sampling_of_starts`: a recording is only started while a thread samples;
* `appendsBound_reachUnder`: in the runs that bind the readings file to the
  recording, a line is only ever written to the file of the video that is recorded.
-/

namespace ProjektMagisterski.App

open Bluetooth Camera Obd Lib.Machine

/-! ## Projections -/

section Parts

variable (targetDir : String) (files : FileSystem)

theorem app_step (s t : AppState) (a : Action) :
    (app targetDir files).step s a = some t ↔ enabled s a ∧ next targetDir s a = t :=
  guarded_step _ enabled (next targetDir) a

/-- What a step is for the link. -/
def linkLabel : Action → Option Bluetooth.Action
  | .link a => some a
  | _ => none

/-- What a step is for the camera fragment. -/
def cameraLabel : Action → Option Camera.Action
  | .link _ => none
  | .camera a => some a
  | .roundChecks _ _ => some .roundChecks
  | .roundAppends _ => some .roundAppends

theorem roundChecks_camera (s : AppState) (r : Round) :
    (s.roundChecks r).camera = s.camera.roundChecks := by
  unfold AppState.roundChecks
  split
  · rename_i hpath
    simp [CameraFragment.roundChecks, hpath]
  · rfl

theorem roundAppends_camera (s : AppState) (r : Round) :
    (s.roundAppends r).camera = s.camera.roundAppends := by
  unfold AppState.roundAppends
  split <;> rfl

theorem roundChecks_link (s : AppState) (r : Round) : (s.roundChecks r).link = s.link := by
  unfold AppState.roundChecks
  split <;> rfl

theorem roundAppends_link (s : AppState) (r : Round) : (s.roundAppends r).link = s.link := by
  unfold AppState.roundAppends
  split <;> rfl

theorem next_camera (s : AppState) (a : Action) (ha : enabled s a) (b : Camera.Action)
    (hb : cameraLabel a = some b) :
    Camera.enabled s.camera b ∧ (next targetDir s a).camera = Camera.next targetDir s.camera b := by
  cases a with
  | link a => cases hb
  | camera a =>
    obtain rfl := Option.some.inj hb
    exact ⟨ha.1, rfl⟩
  | roundChecks t formatted =>
    obtain rfl := Option.some.inj hb
    exact ⟨ha.1, roundChecks_camera s _⟩
  | roundAppends t =>
    obtain rfl := Option.some.inj hb
    obtain ⟨r, hr⟩ := Option.ne_none_iff_exists'.1 ha.2
    refine ⟨ha.1, ?_⟩
    simp only [next, hr]
    exact roundAppends_camera s r

theorem next_link (s : AppState) (a : Action) (hb : linkLabel a = none) :
    (next targetDir s a).link = s.link := by
  cases a with
  | link a => cases hb
  | camera a => rfl
  | roundChecks t formatted => exact roundChecks_link s _
  | roundAppends t =>
    simp only [next]
    split
    · rfl
    · exact roundAppends_link s _

/-- The app's Bluetooth link is the link on its own. -/
def linkPart : Projection (app targetDir files) Bluetooth.app where
  state := AppState.link
  label := fun _ => linkLabel
  init := rfl
  moves := by
    intro s a t b hstep hb
    obtain ⟨ha, rfl⟩ := (app_step targetDir files s t a).1 hstep
    cases a with
    | link a =>
      obtain rfl := Option.some.inj hb
      exact (Bluetooth.app_step _ _ _).2 ⟨ha.1, rfl⟩
    | _ => cases hb
  rests := by
    intro s a t hstep hb
    obtain ⟨-, rfl⟩ := (app_step targetDir files s t a).1 hstep
    exact next_link targetDir s a hb

/-- The app's camera fragment is the fragment on its own. -/
def cameraPart : Projection (app targetDir files) (Camera.app targetDir) where
  state := AppState.camera
  label := fun _ => cameraLabel
  init := rfl
  moves := by
    intro s a t b hstep hb
    obtain ⟨ha, rfl⟩ := (app_step targetDir files s t a).1 hstep
    obtain ⟨hb, hnext⟩ := next_camera targetDir s a ha b hb
    exact (guarded_step _ _ _ _).2 ⟨hb, hnext.symm⟩
  rests := by
    intro s a t hstep hb
    obtain ⟨-, rfl⟩ := (app_step targetDir files s t a).1 hstep
    cases a with
    | link a => rfl
    | _ => cases hb

end Parts

/-! ## The camera fragment and the path -/

/-- `f` leaves the rounds alone, and keeps the path, clears it, or sets it to a readings
file of the directory. -/
structure SetsPath (targetDir : String) (s t : CameraFragment) : Prop where
  checkedRounds : t.checkedRounds = s.checkedRounds
  path : t.mReadingsAbsolutePath = s.mReadingsAbsolutePath ∨ t.mReadingsAbsolutePath = none ∨
    ∃ timeStamp, t.mReadingsAbsolutePath = some (readingsFile targetDir timeStamp)

variable {targetDir : String}

theorem SetsPath.same {s t : CameraFragment} (hrounds : t.checkedRounds = s.checkedRounds)
    (hpath : t.mReadingsAbsolutePath = s.mReadingsAbsolutePath) : SetsPath targetDir s t :=
  ⟨hrounds, Or.inl hpath⟩

/-- Calls on the recorder do to the path what is done after them. -/
theorem setsPath_onRecorder {s t : CameraFragment} {cs : List RecorderCall}
    {k : CameraFragment → CameraFragment} (hs : SetsPath targetDir t s)
    (hk : ∀ r, SetsPath targetDir t (k { s with mMediaRecorder := some r })) :
    SetsPath targetDir t (s.onRecorder cs k) := by
  unfold CameraFragment.onRecorder
  split
  · exact hk _
  · exact ⟨hs.checkedRounds, hs.path⟩

theorem setsPath_startRecordingVideo (s : CameraFragment) (textureAvailable : Bool)
    (timeStamp : String) (outcome : StartOutcome) :
    SetsPath targetDir s (s.startRecordingVideo textureAvailable targetDir timeStamp outcome) := by
  have hset : ∀ r, SetsPath targetDir s
      (({ s with mMediaRecorder := r } : CameraFragment).getVideoFilePath targetDir timeStamp) :=
    fun r => ⟨rfl, Or.inr (Or.inr ⟨timeStamp, rfl⟩)⟩
  unfold CameraFragment.startRecordingVideo CameraFragment.setUpMediaRecorder
  split
  · exact .same rfl rfl
  · refine setsPath_onRecorder (.same rfl rfl) fun r => ?_
    refine setsPath_onRecorder (hset _) fun r' => ?_
    split
    · exact hset _
    · refine setsPath_onRecorder (hset _) fun r'' => ?_
      split
      · exact hset _
      · refine setsPath_onRecorder (hset _) fun r''' => ?_
        split
        · exact hset _
        · exact ⟨rfl, Or.inr (Or.inr ⟨timeStamp, rfl⟩)⟩

theorem setsPath_onClick (s : CameraFragment) (obdConnected textureAvailable : Bool)
    (timeStamp : String) (outcome : StartOutcome) :
    SetsPath targetDir s
      (s.onClick obdConnected textureAvailable targetDir timeStamp outcome) := by
  unfold CameraFragment.onClick
  split
  · exact setsPath_onRecorder (.same rfl rfl) fun r => ⟨rfl, Or.inr (Or.inl rfl)⟩
  · split
    · exact .same rfl rfl
    · exact setsPath_startRecordingVideo s textureAvailable timeStamp outcome

theorem setsPath_openCamera (s : CameraFragment) (outcome : OpenOutcome) :
    SetsPath targetDir s (s.openCamera outcome) := by
  by_cases hp : s.permits = 0
  · cases outcome <;> constructor <;> simp [CameraFragment.openCamera, hp, CameraFragment.crashed]
  · cases outcome <;> constructor <;> simp [CameraFragment.openCamera, hp, CameraFragment.crashed]

/-- **Frame.**  What the steps of the fragment itself do to path and rounds. -/
theorem setsPath_next (targetDir : String) (s : AppState) (a : Camera.Action)
    (ha : Agrees s a) :
    SetsPath targetDir s.camera (Camera.next targetDir s.camera a) := by
  cases a with
  | openCamera outcome => exact setsPath_openCamera s.camera outcome
  | onClick obdConnected textureAvailable timeStamp outcome =>
    exact setsPath_onClick s.camera _ _ timeStamp outcome
  | recordingConfigured =>
    exact setsPath_onRecorder (.same rfl rfl) fun r => .same rfl rfl
  | roundChecks => exact absurd ha id
  | roundAppends => exact absurd ha id
  | _ => exact .same rfl rfl

/-! ## Rounds by thread -/

/-- The rounds of one thread, in order. -/
def roundsOf (t : ThreadId) (rs : List Round) : List Round := rs.filter fun r => r.thread = t

theorem roundsOf_append (t : ThreadId) (rs rs' : List Round) :
    roundsOf t (rs ++ rs') = roundsOf t rs ++ roundsOf t rs' :=
  List.filter_append ..

theorem roundsOf_single (r : Round) : roundsOf r.thread [r] = [r] := by
  simp [roundsOf]

theorem roundsOf_other {t : ThreadId} {r : Round} (h : r.thread ≠ t) : roundsOf t [r] = [] := by
  simp [roundsOf, h]

/-- What is left once the rounds of one thread are removed. -/
theorem roundsOf_removed (t u : ThreadId) (rs : List Round) :
    roundsOf t (rs.filter fun q => q.thread ≠ u) = if t = u then [] else roundsOf t rs := by
  unfold roundsOf
  rw [List.filter_filter]
  split
  · rename_i h
    apply List.filter_eq_nil_iff.mpr
    intro r _
    simp [h]
  · rename_i h
    apply List.filter_congr
    intro r _
    by_cases hr : r.thread = t
    · simp [hr, h]
    · simp [hr]

theorem pending_eq (s : AppState) (t : ThreadId) : s.pending t = (roundsOf t s.checked).head? :=
  (List.head?_filter ..).symm

/-- The lines that the rounds have appended to a file, in order. -/
def AppState.linesAt (s : AppState) (path : String) : List String :=
  (s.appends.filter fun a => a.path = path).map fun a => lineOf a.round.formatted

/-! ## Accounts -/

/-- **Accounts.**  Where every line is. -/
structure Accounted (targetDir : String) (files : FileSystem) (s : AppState) : Prop where
  /-- A file holds what it held, and then the lines appended to it, whole and in order. -/
  contents : ∀ path, s.files.contents path =
    if files.writable path then appended (files.contents path) (s.linesAt path)
    else files.contents path
  writable : s.files.writable = files.writable
  /-- Only readings files of the directory are appended to. -/
  readings : ∀ a ∈ s.appends, ∃ timeStamp, a.path = readingsFile targetDir timeStamp
  path : s.camera.mReadingsAbsolutePath = none ∨
    ∃ timeStamp, s.camera.mReadingsAbsolutePath = some (readingsFile targetDir timeStamp)
  /-- The rounds of a thread are appended once each and in order, up to one that waits. -/
  inOrder : ∀ t, roundsOf t s.sampled =
    roundsOf t (s.appends.map Append.round) ++ roundsOf t s.checked
  single : ∀ t, (roundsOf t s.checked).length ≤ 1
  checkedRounds : s.camera.checkedRounds = s.checked.length

variable {files : FileSystem} {s : AppState}

/-- The rounds of a thread that waits for its append. -/
theorem Accounted.waiting (h : Accounted targetDir files s) {t : ThreadId} {r : Round}
    (hr : s.pending t = some r) : r.thread = t ∧ roundsOf t s.checked = [r] := by
  refine ⟨by simpa using List.find?_some hr, ?_⟩
  have hsingle := h.single t
  rw [pending_eq] at hr
  cases hrounds : roundsOf t s.checked with
  | nil => simp [hrounds] at hr
  | cons q qs =>
    rw [hrounds] at hr hsingle
    obtain rfl := Option.some.inj hr
    have hqs : qs = [] := by
      apply List.eq_nil_of_length_eq_zero
      simpa using hsingle
    rw [hqs]

theorem Accounted.roundChecks (h : Accounted targetDir files s) (r : Round)
    (hr : s.pending r.thread = none) : Accounted targetDir files (s.roundChecks r) := by
  have hnone : roundsOf r.thread s.checked = [] := by
    rw [pending_eq] at hr
    exact List.head?_eq_none_iff.mp hr
  unfold AppState.roundChecks
  split
  · exact h
  · rename_i path hpath
    refine ⟨h.contents, h.writable, h.readings, ?_, ?_, ?_, ?_⟩
    · simpa [CameraFragment.roundChecks, hpath] using h.path
    · intro t
      simp only [roundsOf_append, h.inOrder t, List.append_assoc]
    · intro t
      rw [roundsOf_append]
      by_cases ht : r.thread = t
      · subst ht
        simp [hnone, roundsOf_single]
      · simpa [roundsOf_other ht] using h.single t
    · simp [CameraFragment.roundChecks, hpath, h.checkedRounds]

/-- Without the one round of a thread there is one round less. -/
theorem Accounted.removed_length (h : Accounted targetDir files s) {t : ThreadId} {r : Round}
    (hr : s.pending t = some r) :
    (s.checked.filter fun q => q.thread ≠ t).length + 1 = s.checked.length := by
  have hone := (h.waiting hr).2
  have hsum := List.length_eq_length_filter_add (l := s.checked) fun q => decide (q.thread = t)
  have hlen : (s.checked.filter fun q => decide (q.thread = t)).length = 1 :=
    congrArg List.length hone
  have hrest : (s.checked.filter fun q => !decide (q.thread = t)) =
      s.checked.filter fun q => q.thread ≠ t := by
    simp
  rw [hlen, hrest] at hsum
  omega

theorem Accounted.contents_append (h : Accounted targetDir files s) (r : Round) (path : String)
    (video : Option String) (p : String) :
    ((s.files.write path [lineOf r.formatted]).getD s.files).contents p =
      if files.writable p then
        appended (files.contents p)
          (({ s with appends := s.appends ++ [⟨r, path, video⟩] } : AppState).linesAt p)
      else files.contents p := by
  rw [contents_write _ _ _ _ (by simp), h.writable, h.contents p]
  unfold AppState.linesAt
  rw [List.filter_append]
  by_cases hpath : p = path
  · subst hpath
    by_cases hw : files.writable p = true
    · simp [hw, appended_append]
    · simp [hw]
  · simp [hpath, Ne.symm hpath]

theorem Accounted.roundAppends (h : Accounted targetDir files s) {t : ThreadId} {r : Round}
    (hr : s.pending t = some r) : Accounted targetDir files (s.roundAppends r) := by
  obtain ⟨rfl, hone⟩ := h.waiting hr
  unfold AppState.roundAppends
  split
  · rename_i hpath
    refine ⟨h.contents, h.writable, h.readings, ?_, h.inOrder, h.single, ?_⟩
    · exact Or.inl (by simp [CameraFragment.roundAppends, hpath, CameraFragment.crashed])
    · simpa [CameraFragment.roundAppends, hpath, CameraFragment.crashed] using h.checkedRounds
  · rename_i path hpath
    refine ⟨h.contents_append r path _, ?_, ?_, ?_, ?_, ?_, ?_⟩
    · exact (writable_write ..).trans h.writable
    · intro a ha
      rcases List.mem_append.mp ha with ha | ha
      · exact h.readings a ha
      · rw [List.mem_singleton.mp ha]
        rcases h.path with hnone | ⟨timeStamp, hts⟩
        · cases hnone.symm.trans hpath
        · exact ⟨timeStamp, Option.some.inj (hpath.symm.trans hts)⟩
    · simpa [CameraFragment.roundAppends, hpath] using h.path
    · intro u
      rw [h.inOrder u, roundsOf_removed, List.map_append, roundsOf_append]
      split
      · rename_i hu
        subst hu
        simp [hone, roundsOf_single]
      · rename_i hu
        simp [roundsOf_other (Ne.symm hu)]
    · intro u
      rw [roundsOf_removed]
      split
      · simp
      · exact h.single u
    · have hlen := h.removed_length hr
      simp only [CameraFragment.roundAppends, hpath, reduceCtorEq, ↓reduceIte, h.checkedRounds]
      omega

theorem Accounted.next (a : Action) (h : Accounted targetDir files s) (ha : enabled s a) :
    Accounted targetDir files (next targetDir s a) := by
  cases a with
  | link a =>
    exact ⟨h.contents, h.writable, h.readings, h.path, h.inOrder, h.single, h.checkedRounds⟩
  | camera a =>
    have hset := setsPath_next targetDir s a ha.2.1
    refine ⟨h.contents, h.writable, h.readings, ?_, h.inOrder, h.single,
      hset.checkedRounds.trans h.checkedRounds⟩
    rcases hset.path with hkeep | hset
    · rcases h.path with hpath | ⟨timeStamp, hpath⟩
      · exact Or.inl (hkeep.trans hpath)
      · exact Or.inr ⟨timeStamp, hkeep.trans hpath⟩
    · exact hset
  | roundChecks t formatted => exact h.roundChecks ⟨t, formatted⟩ ha.2.2
  | roundAppends t =>
    simp only [App.next]
    split
    · exact h
    · rename_i r hr
      exact h.roundAppends hr

/-- **Every run keeps its accounts.** -/
theorem accounted_reachable (targetDir : String) (files : FileSystem) (s : AppState)
    (h : (app targetDir files).Reachable s) : Accounted targetDir files s := by
  apply ReachUnder.invariant _ _ h
  · refine ⟨?_, rfl, by simp [app, guarded], Or.inl rfl, fun _ => rfl, fun _ => by simp [app,
      guarded, roundsOf], rfl⟩
    intro path
    simp [app, guarded, appended, AppState.linesAt]
  · intro s a t hs _ hstep
    obtain ⟨ha, rfl⟩ := (app_step targetDir files s t a).1 hstep
    exact hs.next a ha

/-- A round that waits can append as long as the process lives. -/
theorem Accounted.roundAppends_enabled (h : Accounted targetDir files s) (t : ThreadId) :
    enabled s (.roundAppends t) ↔ s.camera.crash = none ∧ s.pending t ≠ none := by
  constructor
  · intro ha
    exact ⟨ha.1.1, ha.2⟩
  · rintro ⟨hcrash, hpending⟩
    refine ⟨⟨hcrash, ?_⟩, hpending⟩
    obtain ⟨r, hr⟩ := Option.ne_none_iff_exists'.1 hpending
    have hlen := h.removed_length hr
    have hcount := h.checkedRounds
    simp only [ready]
    omega

/-- A link that samples, and an open camera. -/
def linkAndCamera : List Action :=
  (successfulConnect "A" 0 0 ++ [Bluetooth.Action.samples 0]).map .link ++
    [.camera (.openCamera .requested), .camera (.onOpened 0)]

/-- A recording over that link, with one round. -/
def oneRound (timeStamp value : String) : List Action :=
  linkAndCamera ++
    [.camera (.onClick true true timeStamp .requested), .camera .onConfigured,
      .camera .recordingConfigured, .roundChecks 0 fun _ => value, .roundAppends 0]

/-- The same recording with a second round. -/
def twoRounds (timeStamp first second : String) : List Action :=
  oneRound timeStamp first ++ [.roundChecks 0 fun _ => second, .roundAppends 0]

/-- **No line lost.**  In every run, the files are the ones there were with the lines of
the rounds appended to readings files, whole and in order, and the rounds of a thread that
passed their null check are those it has appended, in order, and at most one that waits. -/
theorem rounds_accounted (targetDir : String) (files : FileSystem) (s : AppState)
    (h : (app targetDir files).Reachable s) :
    (∀ path, s.files.contents path =
      if files.writable path then appended (files.contents path) (s.linesAt path)
      else files.contents path) ∧
    (∀ path, (∀ timeStamp, path ≠ readingsFile targetDir timeStamp) → s.linesAt path = []) ∧
    ∀ t, ∃ waiting, waiting.length ≤ 1 ∧
      roundsOf t s.sampled = roundsOf t (s.appends.map Append.round) ++ waiting := by
  have haccounts := accounted_reachable targetDir files s h
  refine ⟨haccounts.contents, ?_, ?_⟩
  · intro path hother
    rw [AppState.linesAt, List.map_eq_nil_iff, List.filter_eq_nil_iff]
    intro a ha hpath
    obtain ⟨timeStamp, hts⟩ := haccounts.readings a ha
    exact hother timeStamp ((of_decide_eq_true hpath).symm.trans hts)
  · intro t
    exact ⟨_, haccounts.single t, haccounts.inOrder t⟩

theorem rounds_accounted_oneRound :
    ∃ s : AppState, s.appends.length = 1 ∧
      ∀ t, ∃ waiting, waiting.length ≤ 1 ∧
        roundsOf t s.sampled = roundsOf t (s.appends.map Append.round) ++ waiting :=
  ⟨_, rfl, (rounds_accounted "/Movies" ⟨fun _ => none, fun _ => true⟩ _
    (reachable_of_exec (oneRound "20180611_101500" "1") rfl)).2.2⟩

/-! ## Clicks -/

instance (s : CameraFragment) (outcome : OpenOutcome) : Decidable (CreatesRecorder s outcome) :=
  inferInstanceAs (Decidable (_ ∧ _))

instance (s : CameraFragment) : (a : Camera.Action) → Decidable (Camera.BindsReadings s a)
  | .onClick _ _ _ _ => inferInstanceAs (Decidable ((_ → _) ∧ (_ → _ → _)))
  | .openCamera _ => inferInstanceAs (Decidable (_ → _ ∧ _))
  | .closeCamera => inferInstanceAs (Decidable (_ ∧ _))
  | .roundChecks => inferInstanceAs (Decidable (_ = _))
  | .onConfigureFailed => instDecidableFalse
  | .onOpened _ | .onDisconnected _ | .onError _ | .onPause | .acquired | .acquireInterrupted
  | .backgroundStopped | .onConfigured | .recordingConfigured | .roundAppends => instDecidableTrue

instance (s : Session) : (a : Bluetooth.Action) → Decidable (KeepsConnection s a)
  | .start | .clearThreads | .ioException _ => inferInstanceAs (Decidable (_ ≠ _))
  | .connect _ | .joinReturns | .connectReturns _ | .connected _ | .readSocket _ _
  | .socketConnects _ _ | .socketRefuses _ _ | .startInit _ _ | .initSends _ _ | .initEnds _
  | .initJoinReturns _ | .linkLost _ | .samples _ => instDecidableTrue

/-- **Admitted recordings.**  While the held connection is not cleared under
`STATE_CONNECTED`, a click only starts a recording when a sampling thread is held and
has not ended. -/
theorem sampling_of_starts (targetDir : String) (files : FileSystem) (s : AppState)
    (h : (app targetDir files).ReachUnder ((linkPart targetDir files).lift KeepsConnection) s)
    (obdConnected textureAvailable : Bool) (timeStamp : String) (outcome : StartOutcome)
    (ha : enabled s (.camera (.onClick obdConnected textureAvailable timeStamp outcome)))
    (hstarts : Starts s.camera obdConnected textureAvailable) :
    ∃ t, s.link.mConnectedThread = some t ∧ s.link.Runs t := by
  have htruthful : Truthful s.link := by
    refine (linkPart targetDir files).invariant (fun l hl => ?_) h
    apply hl.invariant
    · exact ⟨Coherent.init, fun _ => by simp [Bluetooth.app, guarded]⟩
    · intro l a m hl hok hstep
      obtain ⟨ha, rfl⟩ := (Bluetooth.app_step l m a).1 hstep
      exact truthful_next l a hl hok ha
  -- no `connect` executes while the UI thread handles the click
  have hidle : s.link.executing = none := ha.2.2 rfl
  have hobd : obdConnected = admitsRecording s.link := ha.2.1
  have hadmits : admitsRecording s.link = true := hobd.symm.trans hstarts.2.1
  have hstate : s.link.mState = .stateConnected := of_decide_eq_true hadmits
  obtain ⟨t, ht⟩ := Option.ne_none_iff_exists'.1 ((htruthful.held hidle).1 hstate)
  exact ⟨t, ht, htruthful.coherent.threadHeld t ht⟩

theorem sampling_of_starts_first :
    ∃ s : AppState, ∃ t, s.link.mConnectedThread = some t ∧ s.link.Runs t :=
  ⟨_, sampling_of_starts "/Movies" ⟨fun _ => none, fun _ => true⟩ _
    (reachUnder_of_execUnder linkAndCamera rfl) true true "20180611_101500" .requested
    (by decide) (by decide)⟩

/-! ## Lines and recordings -/

section Bound

variable (targetDir : String) (files : FileSystem)

/-- The condition under which the fragment binds the readings file to the recording. -/
abbrev bindsReadings : AppState → Action → Prop :=
  (cameraPart targetDir files).lift Camera.BindsReadings

/-- Every line was written to the readings file of the video that was recorded then. -/
def AppendsBound (s : AppState) : Prop :=
  ∀ a ∈ s.appends, ∃ timeStamp, a.video = some (videoFile targetDir timeStamp) ∧
    a.path = readingsFile targetDir timeStamp

theorem bound_reachUnder (s : CameraFragment)
    (h : (Camera.app targetDir).ReachUnder Camera.BindsReadings s) : Bound targetDir s := by
  apply h.invariant
  · exact ⟨⟨.resting, rfl, rfl, rfl, Or.inl rfl, rfl⟩, by simp [Camera.app, guarded],
      by simp [Camera.app, guarded]⟩
  · intro s a t hs hok hstep
    obtain ⟨ha, rfl⟩ := (guarded_step _ _ _ _).1 hstep
    exact bound_next targetDir s a hs hok ha

theorem appendsBound_roundAppends (s : AppState) (r : Round) (hbound : Bound targetDir s.camera)
    (hrounds : 0 < s.camera.checkedRounds) (h : AppendsBound targetDir s) :
    AppendsBound targetDir (s.roundAppends r) := by
  obtain ⟨p, hp⟩ := hbound.phase
  obtain ⟨-, -, timeStamp, hrecorder, hpath⟩ := boundIn_recording hp hrounds
  unfold AppState.roundAppends
  rw [hpath]
  intro a ha
  rcases List.mem_append.mp ha with ha | ha
  · exact h a ha
  · rw [List.mem_singleton.mp ha]
    exact ⟨timeStamp, by simp [recordedVideo, hrecorder], rfl⟩

theorem appendsBound_next (s : AppState) (a : Action) (hbound : Bound targetDir s.camera)
    (h : AppendsBound targetDir s) (ha : enabled s a) :
    AppendsBound targetDir (next targetDir s a) := by
  cases a with
  | link a => exact h
  | camera a => exact h
  | roundChecks t formatted =>
    simp only [next, AppState.roundChecks]
    split <;> exact h
  | roundAppends t =>
    simp only [next]
    split
    · exact h
    · exact appendsBound_roundAppends targetDir s _ hbound ha.1.2 h

/-- **Lines and recordings.** -/
theorem appendsBound_reachUnder (s : AppState)
    (h : (app targetDir files).ReachUnder (bindsReadings targetDir files) s) :
    AppendsBound targetDir s := by
  refine h.invariant_of (J := fun s => Bound targetDir s.camera) ?_ ?_ ?_
  · intro s hs
    exact (cameraPart targetDir files).invariant (bound_reachUnder targetDir) hs
  · intro a ha
    simp [app, guarded] at ha
  · intro s a t hbound hs _ hstep
    obtain ⟨ha, rfl⟩ := (app_step targetDir files s t a).1 hstep
    exact appendsBound_next targetDir s a hbound hs ha

end Bound

end ProjektMagisterski.App
