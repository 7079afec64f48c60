import Mathlib.Tactic.ByContra
import ProjektMagisterski.Camera.Model

/-!
# What the handlers do to the recorder

The recorder calls of a handler, followed through the life cycle once.

* `onClick_fresh`, `onClick_used`, `onClick_stop`: a click starts a recording on a
  fresh recorder, misuses any other one, and stops a started one;
* `recordingConfigured_prepared`, `recordingConfigured_unprepared`;
* `keepsRecording_next`: the steps that have to do with the camera only;
* `misuse_of_pending`: a pending start that has lost its recorder.
-/

namespace ProjektMagisterski.Camera

open CameraFragment Lib.Machine

/-- Recordings whose session is requested, or configured and not started yet. -/
def startsPending (s : CameraFragment) : Nat := s.sessionsRequested + s.runnablesPosted

/-- Where a recording is: none, one that is set up and not started yet, or a running one. -/
inductive Phase where
  | resting | starting | recording
deriving DecidableEq, Repr

/-- The click goes on to set up the recorder. -/
def Starts (s : CameraFragment) (obdConnected textureAvailable : Bool) : Prop :=
  s.mIsRecordingVideo = false ∧ obdConnected = true ∧ s.mCameraDevice ≠ none ∧
    textureAvailable = true ∧ s.previewSizeSet = true

instance (s : CameraFragment) (obdConnected textureAvailable : Bool) :
    Decidable (Starts s obdConnected textureAvailable) :=
  inferInstanceAs (Decidable (_ ∧ _ ∧ _ ∧ _ ∧ _))

/-- `openCamera` gets as far as its new `MediaRecorder`. -/
def CreatesRecorder (s : CameraFragment) (outcome : OpenOutcome) : Prop :=
  s.permits ≠ 0 ∧ (outcome = .requestFails ∨ outcome = .requested)

/-! ## Calls on the recorder -/

theorem onRecorder_some {s : CameraFragment} {r r' : MediaRecorder} {cs : List RecorderCall}
    {k : CameraFragment → CameraFragment} (hr : s.mMediaRecorder = some r)
    (hc : r.calls cs = some r') : s.onRecorder cs k = k { s with mMediaRecorder := some r' } := by
  simp [onRecorder, hr, hc]

theorem onRecorder_misuse {s : CameraFragment} {cs : List RecorderCall}
    {k : CameraFragment → CameraFragment}
    (hr : ∀ r, s.mMediaRecorder = some r → r.calls cs = none) :
    s.onRecorder cs k = s.crashed .recorderMisuse := by
  cases hs : s.mMediaRecorder with
  | none => simp [onRecorder, hs]
  | some r => simp [onRecorder, hs, hr r hs]

/-! ## Clicks -/

/-- A recording that is set up as far as `outcome` allows. -/
def afterSetUp (s : CameraFragment) (targetDir timeStamp : String) :
    StartOutcome → CameraFragment
  | .prepareFails =>
    { s.getVideoFilePath targetDir timeStamp with
      mMediaRecorder := some (.configured (some (videoFile targetDir timeStamp))) }
  | .requestFails | .sessionFails =>
    { s.getVideoFilePath targetDir timeStamp with
      mMediaRecorder := some (.prepared (videoFile targetDir timeStamp)) }
  | .requested =>
    { s.getVideoFilePath targetDir timeStamp with
      mMediaRecorder := some (.prepared (videoFile targetDir timeStamp))
      sessionsRequested := s.sessionsRequested + 1 }

variable {s : CameraFragment} {obdConnected textureAvailable : Bool}
  {targetDir timeStamp : String} {outcome : StartOutcome}

theorem onClick_idle (hrec : s.mIsRecordingVideo = false)
    (h : ¬ Starts s obdConnected textureAvailable) :
    s.onClick obdConnected textureAvailable targetDir timeStamp outcome = s := by
  unfold onClick startRecordingVideo
  rw [hrec, if_neg Bool.false_ne_true]
  split
  · rfl
  · rename_i hobd
    rw [if_pos]
    by_contra hreaches
    simp only [not_or, Bool.not_eq_false] at hobd hreaches
    exact h ⟨hrec, hobd, hreaches⟩

/-- A click that goes on is one call of `setUpMediaRecorder`. -/
theorem onClick_starts (h : Starts s obdConnected textureAvailable) :
    s.onClick obdConnected textureAvailable targetDir timeStamp outcome =
      s.setUpMediaRecorder targetDir timeStamp outcome fun s =>
        if outcome = .requestFails then s
        else s.onRecorder [.getSurface] fun s =>
          if outcome = .sessionFails then s
          else { s with sessionsRequested := s.sessionsRequested + 1 } := by
  obtain ⟨hrec, hobd, hdevice, htexture, hsize⟩ := h
  simp [onClick, startRecordingVideo, hrec, hobd, hdevice, htexture, hsize]

theorem onClick_fresh (h : Starts s obdConnected textureAvailable)
    (hr : s.mMediaRecorder = some .initial) :
    s.onClick obdConnected textureAvailable targetDir timeStamp outcome =
      afterSetUp s targetDir timeStamp outcome := by
  rw [onClick_starts h]
  unfold setUpMediaRecorder
  rw [onRecorder_some hr rfl, onRecorder_some rfl rfl]
  cases outcome with
  | prepareFails => rfl
  | requestFails =>
    simp only [reduceCtorEq, if_false]
    rw [onRecorder_some rfl rfl]
    rfl
  | sessionFails =>
    simp only [reduceCtorEq, if_false]
    rw [onRecorder_some rfl rfl, onRecorder_some rfl rfl]
    rfl
  | requested =>
    simp only [reduceCtorEq, if_false]
    rw [onRecorder_some rfl rfl, onRecorder_some rfl rfl]
    rfl

/-- `setVideoSource` comes first, and a recorder in use forbids it. -/
theorem onClick_used (h : Starts s obdConnected textureAvailable)
    (hr : s.mMediaRecorder = none ∨ ∃ file, s.mMediaRecorder = some (.prepared file)) :
    s.onClick obdConnected textureAvailable targetDir timeStamp outcome =
      s.crashed .recorderMisuse := by
  rw [onClick_starts h]
  refine onRecorder_misuse fun r hs => ?_
  obtain hnone | ⟨file, hfile⟩ := hr
  · rw [hnone] at hs
    cases hs
  · obtain rfl := Option.some.inj (hfile.symm.trans hs)
    rfl

theorem onClick_stop {file : String} (hrec : s.mIsRecordingVideo = true)
    (hr : s.mMediaRecorder = some (.started file)) :
    s.onClick obdConnected textureAvailable targetDir timeStamp outcome =
      { s with
        mIsRecordingVideo := false
        mMediaRecorder := some .initial
        mReadingsAbsolutePath := none
        mVideoFilePath := none } := by
  unfold onClick
  rw [if_pos hrec]
  exact onRecorder_some (s := { s with mIsRecordingVideo := false }) hr rfl

/-! ## The posted runnable -/

theorem recordingConfigured_prepared {file : String}
    (hr : s.mMediaRecorder = some (.prepared file)) :
    s.recordingConfigured =
      { s with
        runnablesPosted := s.runnablesPosted - 1
        mIsRecordingVideo := true
        mMediaRecorder := some (.started file) } :=
  onRecorder_some (s := { s with
    runnablesPosted := s.runnablesPosted - 1, mIsRecordingVideo := true }) hr rfl

/-- After the recorder was released or replaced there is nothing prepared to start. -/
theorem recordingConfigured_unprepared
    (hr : s.mMediaRecorder = none ∨ s.mMediaRecorder = some .initial) :
    s.recordingConfigured =
      { s with
        runnablesPosted := s.runnablesPosted - 1
        mIsRecordingVideo := true
        crash := some .recorderMisuse } := by
  refine onRecorder_misuse fun r hs => ?_
  obtain hnone | hinitial := hr
  · cases hnone.symm.trans hs
  · obtain rfl := Option.some.inj (hinitial.symm.trans hs)
    rfl

/-! ## The camera -/

/-- A camera is open, or being opened. -/
def NearCamera (s : CameraFragment) : Prop := s.mCameraDevice ≠ none ∨ s.awaiting ≠ []

/-- The steps that have to do with the camera and its lock only. -/
def IsCameraStep (s : CameraFragment) : Action → Prop
  | .openCamera outcome => ¬ CreatesRecorder s outcome
  | .onOpened _ | .onDisconnected _ | .onError _ | .onPause | .acquired | .acquireInterrupted =>
    True
  | _ => False

/-- What such a step leaves alone. -/
structure KeepsRecording (s t : CameraFragment) : Prop where
  mMediaRecorder : t.mMediaRecorder = s.mMediaRecorder
  mIsRecordingVideo : t.mIsRecordingVideo = s.mIsRecordingVideo
  mReadingsAbsolutePath : t.mReadingsAbsolutePath = s.mReadingsAbsolutePath
  sessionsRequested : t.sessionsRequested = s.sessionsRequested
  runnablesPosted : t.runnablesPosted = s.runnablesPosted
  checkedRounds : t.checkedRounds = s.checkedRounds
  crash : t.crash ≠ some .recorderMisuse ∧ t.crash ≠ some .nullPath
  stopping : t.ui = .stopping → s.ui = .stopping
  nearCamera : NearCamera t → NearCamera s

theorem keepsRecording_openCamera (s : CameraFragment) (outcome : OpenOutcome)
    (hcrash : s.crash = none) (h : ¬ CreatesRecorder s outcome) :
    KeepsRecording s (s.openCamera outcome) := by
  by_cases hp : s.permits = 0
  · cases outcome <;> constructor <;> simp [openCamera, hp, crashed, hcrash, NearCamera]
  · cases outcome with
    | requestFails => exact absurd ⟨hp, Or.inl rfl⟩ h
    | requested => exact absurd ⟨hp, Or.inr rfl⟩ h
    | _ => constructor <;> simp [openCamera, hp, crashed, hcrash, NearCamera]

theorem keepsRecording_onDisconnected (s : CameraFragment) (d : DeviceId)
    (hcrash : s.crash = none) : KeepsRecording s (s.onDisconnected d) := by
  refine ⟨rfl, rfl, rfl, rfl, rfl, rfl, by simp [onDisconnected, hcrash], id, ?_⟩
  rintro (hdevice | hawaiting)
  · exact absurd rfl hdevice
  · right
    intro hnil
    exact hawaiting (by simp [onDisconnected, hnil])

theorem keepsRecording_next (targetDir : String) (s : CameraFragment) (a : Action)
    (ha : enabled s a) (h : IsCameraStep s a) : KeepsRecording s (next targetDir s a) := by
  have hcrash := ha.1
  cases a with
  | openCamera outcome => exact keepsRecording_openCamera s outcome hcrash h
  | onOpened d =>
    refine ⟨rfl, rfl, rfl, rfl, rfl, rfl, by simp [next, onOpened, hcrash], id, fun _ => ?_⟩
    exact Or.inr (List.ne_nil_of_mem ha.2.2)
  | onDisconnected d => exact keepsRecording_onDisconnected s d hcrash
  | onError d => exact keepsRecording_onDisconnected s d hcrash
  | onPause => exact ⟨rfl, rfl, rfl, rfl, rfl, rfl, by simp [next, hcrash], by simp [next], id⟩
  | acquired => exact ⟨rfl, rfl, rfl, rfl, rfl, rfl, by simp [next, hcrash], by simp [next], id⟩
  | acquireInterrupted => exact ⟨rfl, rfl, rfl, rfl, rfl, rfl, by simp [next], id, id⟩
  | _ => exact absurd h id

theorem openCamera_creates (s : CameraFragment) (outcome : OpenOutcome)
    (h : CreatesRecorder s outcome) :
    ∃ awaiting nextDevice, s.openCamera outcome =
      { s with
        permits := s.permits - 1
        previewSizeSet := true
        mMediaRecorder := some .initial
        awaiting := awaiting
        nextDevice := nextDevice } := by
  obtain ⟨hp, rfl | rfl⟩ := h
  · exact ⟨s.awaiting, s.nextDevice, by simp [openCamera, hp]⟩
  · exact ⟨s.nextDevice :: s.awaiting, s.nextDevice + 1, by simp [openCamera, hp]⟩

/-! ## Pending starts -/

theorem startsPending_pos (h : 0 < s.sessionsRequested ∨ 0 < s.runnablesPosted) :
    0 < startsPending s := by
  unfold startsPending
  omega

theorem sessionsRequested_eq_zero (h : startsPending s = 0) : s.sessionsRequested = 0 := by
  unfold startsPending at h
  omega

/-- `onConfigured` turns a requested session into a posted runnable. -/
theorem startsPending_onConfigured (targetDir : String) (h : 0 < s.sessionsRequested) :
    startsPending (next targetDir s .onConfigured) = startsPending s := by
  simp only [startsPending, next]
  omega

theorem startsPending_onConfigureFailed (targetDir : String) (h : 0 < s.sessionsRequested) :
    startsPending (next targetDir s .onConfigureFailed) + 1 = startsPending s := by
  simp only [startsPending, next]
  omega

theorem backgroundStopped_eq (targetDir : String) (h : s.sessionsRequested = 0) :
    next targetDir s .backgroundStopped = { s with ui := .idle } := by
  simp [next, h]

/-- What is left of a start that has been requested. -/
def FinishesStart (_ : CameraFragment) : Action → Prop
  | .onConfigured | .backgroundStopped | .recordingConfigured => True
  | _ => False

theorem app_steps (targetDir : String) (s : CameraFragment) (a : Action) (hok : FinishesStart s a)
    (ha : enabled s a) : (app targetDir).Steps FinishesStart s (next targetDir s a) :=
  Steps.guarded a hok ha

/-- A pending start can get its runnable posted before anything else happens. -/
theorem configured_first (targetDir : String) (s : CameraFragment) (hcrash : s.crash = none)
    (hpending : 0 < startsPending s) :
    ∃ n m, (app targetDir).Steps FinishesStart s
        { s with sessionsRequested := n, runnablesPosted := m + 1 } ∧
      n + m + 1 = startsPending s := by
  unfold startsPending at hpending ⊢
  cases hposted : s.runnablesPosted with
  | succ m =>
    refine ⟨s.sessionsRequested, m, ?_, by omega⟩
    rw [← hposted]
    exact Steps.refl s
  | zero =>
    have hconfigured : enabled s .onConfigured := ⟨hcrash, by simp only [ready]; omega⟩
    refine ⟨s.sessionsRequested - 1, 0, ?_, by omega⟩
    have hstep := app_steps targetDir s .onConfigured trivial hconfigured
    simpa [next, hposted] using hstep

/-- A pending start whose recorder was released or replaced ends in misuse.  The UI
thread gets to the runnable at once, or after it has joined the background thread. -/
theorem misuse_of_pending (targetDir : String) (s : CameraFragment) (hcrash : s.crash = none)
    (hpending : 0 < startsPending s) (hui : s.ui = .idle ∨ s.ui = .stopping)
    (hr : s.mMediaRecorder = none ∨ s.mMediaRecorder = some .initial) :
    ∃ u, (app targetDir).Steps FinishesStart s u ∧ u.crash = some .recorderMisuse ∧
      u.mMediaRecorder = s.mMediaRecorder ∧
      u.mReadingsAbsolutePath = s.mReadingsAbsolutePath ∧
      startsPending u < startsPending s := by
  obtain ⟨n, m, hconfigured, htotal⟩ := configured_first targetDir s hcrash hpending
  have hidle : ∃ n' ≤ n, (app targetDir).Steps FinishesStart s
      { s with sessionsRequested := n', runnablesPosted := m + 1, ui := .idle } := by
    obtain hui | hui := hui
    · refine ⟨n, Nat.le_refl n, ?_⟩
      rw [← hui]
      exact hconfigured
    · refine ⟨0, Nat.zero_le n, hconfigured.trans ?_⟩
      exact app_steps targetDir _ .backgroundStopped trivial ⟨hcrash, hui⟩
  obtain ⟨n', hle, hsteps⟩ := hidle
  have hrun := app_steps targetDir
    { s with sessionsRequested := n', runnablesPosted := m + 1, ui := .idle }
    .recordingConfigured trivial ⟨hcrash, rfl, Nat.succ_pos m⟩
  have hmisuse := recordingConfigured_unprepared
    (s := { s with sessionsRequested := n', runnablesPosted := m + 1, ui := .idle }) hr
  simp only [next, hmisuse] at hrun
  refine ⟨_, hsteps.trans hrun, rfl, rfl, rfl, ?_⟩
  simp only [startsPending, Nat.add_sub_cancel] at htotal ⊢
  omega

end ProjektMagisterski.Camera
