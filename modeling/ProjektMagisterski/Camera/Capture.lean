import ProjektMagisterski.Camera.OpenDevices
import ProjektMagisterski.Camera.Recording
import ProjektMagisterski.Lib.Projection

/-!
# Capture sessions

`CameraFragment` with its preview and recording sessions, and with the thread that
configures them.

* `startPreview` and `startRecordingVideo` make a request builder and ask for a session.
* `onConfigured` comes later, on the background thread: it stores its session, and
  `updatePreview` then looks for the camera and sets the request of the builder that is
  stored by that time.
* Meanwhile the UI thread may close the session or the camera, and clears `mCameraDevice`
  only after that.
* Every other step is one of the fragment's own.

`camera_reachable`: without its sessions, this is the fragment.  `awaited_of_reachable`: it
awaits a callback for each recording session on its way.
-/

namespace ProjektMagisterski.Camera

open CameraFragment Lib Lib.Machine

abbrev BuilderId := Nat

/-- A capture session of a camera, with the builder of the `createCaptureRequest` before it. -/
structure CaptureSession where
  device : DeviceId
  builder : BuilderId
  recording : Bool
  deriving DecidableEq, Repr

/-- How `createCaptureRequest` and `createCaptureSession` end. -/
inductive SessionOutcome where
  /-- `createCaptureRequest` raises a `CameraAccessException`. -/
  | requestFails
  /-- `createCaptureSession` raises a `CameraAccessException`. -/
  | sessionFails
  | requested
  deriving DecidableEq, Repr

/-- An `IOException` of `prepare` comes before them. -/
def StartOutcome.session : StartOutcome → SessionOutcome
  | .prepareFails | .requestFails => .requestFails
  | .sessionFails => .sessionFails
  | .requested => .requested

structure Capture where
  camera : CameraFragment := {}
  mPreviewSession : Option CaptureSession := none
  mPreviewRequestBuilder : Option BuilderId := none
  nextBuilder : BuilderId := 0
  /-- The sessions that await their callback. -/
  requested : List CaptureSession := []
  /-- The session whose `onConfigured` has stored it and has not returned. -/
  configuring : Option CaptureSession := none
  /-- Its `updatePreview` has found a camera, and is about to use the session. -/
  checked : Bool := false
  /-- The UI thread is in `closeCamera`, `onDisconnected` or `onError`: it has closed the
  session or the camera, and has not cleared `mCameraDevice`. -/
  closing : Option Action := none
  /-- A `NullPointerException` on the background thread has ended the process. -/
  crashed : Bool := false

namespace Capture

/-- The sessions that do not have their request yet. -/
def onTheirWay (s : Capture) : List CaptureSession := s.requested ++ s.configuring.toList

def closePreviewSession (s : Capture) : Capture := { s with mPreviewSession := none }

/-- `createCaptureRequest` and `createCaptureSession` of the camera. -/
def createCaptureSession (s : Capture) (device : DeviceId) (recording : Bool)
    (outcome : SessionOutcome) : Capture :=
  match outcome with
  | .requestFails => s
  | .sessionFails =>
    { s with
      mPreviewRequestBuilder := some s.nextBuilder
      nextBuilder := s.nextBuilder + 1 }
  | .requested =>
    { s with
      mPreviewRequestBuilder := some s.nextBuilder
      nextBuilder := s.nextBuilder + 1
      requested := s.requested ++ [⟨device, s.nextBuilder, recording⟩] }

/-- The camera, if `startPreview` and `startRecordingVideo` go past their first check. -/
def previewDevice (s : CameraFragment) (textureAvailable : Bool) : Option DeviceId :=
  if textureAvailable = true ∧ s.previewSizeSet = true then s.mCameraDevice else none

def startPreview (s : Capture) (textureAvailable : Bool) (outcome : SessionOutcome) : Capture :=
  match previewDevice s.camera textureAvailable with
  | some device => s.closePreviewSession.createCaptureSession device false outcome
  | none => s

/-- Once the recorder has been set up, or has ended the process. -/
def startRecordingVideo (s : Capture) (textureAvailable : Bool) (outcome : StartOutcome) :
    Capture :=
  match previewDevice s.camera textureAvailable with
  | some device =>
    if s.camera.crash = none then
      s.closePreviewSession.createCaptureSession device true outcome.session
    else s.closePreviewSession
  | none => s

/-- Once the recorder has been stopped, or has ended the process. -/
def stopRecordingVideo (s : Capture) (textureAvailable : Bool) (preview : SessionOutcome) :
    Capture :=
  if s.camera.crash = none then s.startPreview textureAvailable preview else s

end Capture

/-! ## Steps -/

inductive CaptureAction where
  /-- A step of the fragment.  `textureAvailable` is what `onOpened` finds, and `preview` is
  how the `startPreview` ends that is part of it. -/
  | fragment (a : Action) (textureAvailable : Bool) (preview : SessionOutcome)
  /-- The first half of `closeCamera`, up to `closePreviewSession`, or of `onDisconnected`
  or `onError`, up to the `close` of the camera.  The other half is the step itself. -/
  | startsClosing (a : Action)
  /-- `onConfigured` stores its session. -/
  | onConfigured (session : CaptureSession)
  /-- `updatePreview` looks for the camera, and returns where there is none. -/
  | updatePreview
  /-- And uses the session where it has found one. -/
  | setRepeatingRequest
  | onConfigureFailed (session : CaptureSession)
  deriving DecidableEq, Repr

/-- The callbacks of a recording session are steps of the fragment, too. -/
def IsCallback : Action → Prop
  | .onConfigured | .onConfigureFailed => True
  | _ => False

instance : (a : Action) → Decidable (IsCallback a)
  | .onConfigured | .onConfigureFailed => instDecidableTrue
  | .openCamera _ | .onOpened _ | .onDisconnected _ | .onError _ | .onPause | .acquired
  | .acquireInterrupted | .closeCamera | .backgroundStopped | .onClick _ _ _ _
  | .recordingConfigured | .roundChecks | .roundAppends => instDecidableFalse

/-- What the UI thread has begun when it comes to a step. -/
def begun : Action → Option Action
  | .closeCamera => some .closeCamera
  | .onDisconnected d => some (.onDisconnected d)
  | .onError d => some (.onError d)
  | _ => none

namespace Capture

/-- The end of `onConfigured`, with what that of a recording posts to the UI thread. -/
def configured (s : Capture) (targetDir : String) : Capture :=
  match s.configuring with
  | some ⟨_, _, true⟩ =>
    { s with
      configuring := none
      checked := false
      camera := Camera.next targetDir s.camera .onConfigured }
  | _ => { s with configuring := none, checked := false }

/-- The fragment awaits the callback, if it is that of a recording. -/
def Awaited (s : Capture) : Prop :=
  ∀ session ∈ s.configuring, session.recording = true → Camera.enabled s.camera .onConfigured

instance (s : Capture) : Decidable s.Awaited :=
  inferInstanceAs (Decidable (∀ session ∈ s.configuring, _))

/-- What `updatePreview` uses once it has found a camera. -/
def HasSession (s : Capture) : Prop :=
  s.mPreviewRequestBuilder ≠ none ∧ s.mPreviewSession ≠ none

instance (s : Capture) : Decidable s.HasSession := inferInstanceAs (Decidable (_ ∧ _))

/-- Neither thread has ended the process. -/
def Running (s : Capture) : Prop := s.camera.crash = none ∧ s.crashed = false

instance (s : Capture) : Decidable s.Running := inferInstanceAs (Decidable (_ ∧ _))

/-- The background thread runs one callback at a time, and is joined after the last.
Sampling rounds need neither of the two threads. -/
def enabled (s : Capture) : CaptureAction → Prop
  | .fragment a _ _ =>
    s.crashed = false ∧ Camera.enabled s.camera a ∧ ¬ IsCallback a ∧
      (s.closing = begun a ∨ a = .roundChecks ∨ a = .roundAppends) ∧
      (a = .backgroundStopped → s.configuring = none)
  | .startsClosing a =>
    s.crashed = false ∧ Camera.enabled s.camera a ∧ begun a = some a ∧ s.closing = none
  | .onConfigured session => s.Running ∧ s.configuring = none ∧ session ∈ s.requested
  | .updatePreview =>
    s.Running ∧ s.configuring ≠ none ∧ s.checked = false ∧
      (s.camera.mCameraDevice = none → s.Awaited)
  | .setRepeatingRequest =>
    s.Running ∧ s.configuring ≠ none ∧ s.checked = true ∧ (s.HasSession → s.Awaited)
  | .onConfigureFailed session =>
    s.Running ∧ s.configuring = none ∧ session ∈ s.requested ∧
      (session.recording = true → Camera.enabled s.camera .onConfigureFailed)

instance (s : Capture) : (a : CaptureAction) → Decidable (enabled s a)
  | .fragment _ _ _ => inferInstanceAs (Decidable (_ ∧ _ ∧ _ ∧ _ ∧ _))
  | .startsClosing _ => inferInstanceAs (Decidable (_ ∧ _ ∧ _ ∧ _))
  | .onConfigured _ => inferInstanceAs (Decidable (_ ∧ _ ∧ _))
  | .updatePreview => inferInstanceAs (Decidable (_ ∧ _ ∧ _ ∧ _))
  | .setRepeatingRequest => inferInstanceAs (Decidable (_ ∧ _ ∧ _ ∧ _))
  | .onConfigureFailed _ => inferInstanceAs (Decidable (_ ∧ _ ∧ _ ∧ _))

/-- The fragment's step, and what it does with the sessions. -/
def nextFragment (targetDir : String) (s : Capture) (a : Action) (textureAvailable : Bool)
    (preview : SessionOutcome) : Capture :=
  let t := { s with camera := Camera.next targetDir s.camera a }
  match a with
  | .onOpened _ => t.startPreview textureAvailable preview
  | .closeCamera | .onDisconnected _ | .onError _ => { t with closing := none }
  | .backgroundStopped => { t with requested := [] }
  | .onClick obdConnected textureAvailable _ outcome =>
    if s.camera.mIsRecordingVideo then t.stopRecordingVideo textureAvailable preview
    else if obdConnected = false then t
    else t.startRecordingVideo textureAvailable outcome
  | _ => t

def next (targetDir : String) (s : Capture) : CaptureAction → Capture
  | .fragment a textureAvailable preview => s.nextFragment targetDir a textureAvailable preview
  | .startsClosing .closeCamera => { s.closePreviewSession with closing := some .closeCamera }
  | .startsClosing a => { s with closing := some a }
  | .onConfigured session =>
    { s with
      mPreviewSession := some session
      requested := s.requested.erase session
      configuring := some session }
  | .updatePreview =>
    if s.camera.mCameraDevice = none then s.configured targetDir else { s with checked := true }
  | .setRepeatingRequest =>
    -- a `CameraAccessException` of the call is caught
    if s.HasSession then s.configured targetDir else { s with crashed := true }
  | .onConfigureFailed session =>
    { s with
      requested := s.requested.erase session
      camera :=
        if session.recording then Camera.next targetDir s.camera .onConfigureFailed
        else s.camera }

end Capture

/-- The fragment with its sessions. -/
def capture (targetDir : String) : Machine Capture CaptureAction :=
  .guarded {} Capture.enabled (Capture.next targetDir)

theorem capture_step (targetDir : String) (s t : Capture) (a : CaptureAction) :
    (capture targetDir).step s a = some t ↔ Capture.enabled s a ∧ Capture.next targetDir s a = t :=
  guarded_step {} Capture.enabled (Capture.next targetDir) a

/-! ## The fragment without its sessions -/

namespace Capture

/-- What the end of `onConfigured` is to the fragment. -/
def configuredLabel (s : Capture) : Option Action :=
  match s.configuring with
  | some ⟨_, _, true⟩ => some .onConfigured
  | _ => none

/-- What a step is to the fragment. -/
def label (s : Capture) : CaptureAction → Option Action
  | .fragment a _ _ => some a
  | .startsClosing _ => none
  | .onConfigured _ => none
  | .updatePreview => if s.camera.mCameraDevice = none then s.configuredLabel else none
  | .setRepeatingRequest => if s.HasSession then s.configuredLabel else none
  | .onConfigureFailed session => if session.recording then some .onConfigureFailed else none

theorem camera_createCaptureSession (s : Capture) (device : DeviceId) (recording : Bool)
    (outcome : SessionOutcome) :
    (s.createCaptureSession device recording outcome).camera = s.camera := by
  cases outcome <;> rfl

theorem camera_startPreview (s : Capture) (textureAvailable : Bool) (outcome : SessionOutcome) :
    (s.startPreview textureAvailable outcome).camera = s.camera := by
  unfold startPreview
  split
  · exact camera_createCaptureSession ..
  · rfl

theorem camera_nextFragment (targetDir : String) (s : Capture) (a : Action)
    (textureAvailable : Bool) (preview : SessionOutcome) :
    (s.nextFragment targetDir a textureAvailable preview).camera =
      Camera.next targetDir s.camera a := by
  cases a with
  | onOpened d => exact camera_startPreview ..
  | onClick obdConnected textureAvailable timeStamp outcome =>
    simp only [nextFragment]
    split
    · unfold stopRecordingVideo
      split
      · exact camera_startPreview ..
      · rfl
    · split
      · rfl
      · unfold startRecordingVideo
        split
        · split
          · exact camera_createCaptureSession ..
          · rfl
        · rfl
  | _ => rfl

theorem camera_startsClosing (targetDir : String) (s : Capture) (a : Action) :
    (next targetDir s (.startsClosing a)).camera = s.camera := by
  cases a <;> rfl

/-- The end of `onConfigured` is a callback of the fragment, or nothing to it. -/
theorem configured_cases (targetDir : String) (s : Capture) :
    (∃ session ∈ s.configuring, session.recording = true ∧
      s.configuredLabel = some .onConfigured ∧
      (s.configured targetDir).camera = Camera.next targetDir s.camera .onConfigured) ∨
    s.configuredLabel = none ∧ (s.configured targetDir).camera = s.camera := by
  rcases hsession : s.configuring with _ | ⟨device, builder, _ | _⟩
  · exact Or.inr ⟨by simp [configuredLabel, hsession], by simp [configured, hsession]⟩
  · exact Or.inr ⟨by simp [configuredLabel, hsession], by simp [configured, hsession]⟩
  · exact Or.inl ⟨_, rfl, rfl, by simp [configuredLabel, hsession], by simp [configured, hsession]⟩

end Capture

/-- The fragment of a run with its sessions makes a run of the fragment. -/
def fragmentPart (targetDir : String) : Projection (capture targetDir) (app targetDir) where
  state := Capture.camera
  label := Capture.label
  init := rfl
  moves := by
    intro s a t b hstep hlabel
    obtain ⟨ha, rfl⟩ := (capture_step targetDir s t a).1 hstep
    have hends : s.configuredLabel = some b → s.Awaited →
        Camera.enabled s.camera b ∧
          Camera.next targetDir s.camera b = (s.configured targetDir).camera := by
      intro hb hawaited
      rcases Capture.configured_cases targetDir s with
        ⟨session, hmem, hrecording, hlabel, hcamera⟩ | ⟨hnone, -⟩
      · obtain rfl := Option.some.inj (hlabel.symm.trans hb)
        exact ⟨hawaited session hmem hrecording, hcamera.symm⟩
      · cases hnone.symm.trans hb
    apply (guarded_step _ _ _ _).2
    cases a with
    | fragment a textureAvailable preview =>
      obtain rfl := Option.some.inj hlabel
      exact ⟨ha.2.1, (Capture.camera_nextFragment ..).symm⟩
    | startsClosing a => cases hlabel
    | onConfigured session => cases hlabel
    | updatePreview =>
      simp only [Capture.label] at hlabel
      split at hlabel
      · rename_i hnone
        simpa [Capture.next, hnone] using hends hlabel (ha.2.2.2 hnone)
      · cases hlabel
    | setRepeatingRequest =>
      simp only [Capture.label] at hlabel
      split at hlabel
      · rename_i hsession
        simpa [Capture.next, hsession] using hends hlabel (ha.2.2.2 hsession)
      · cases hlabel
    | onConfigureFailed session =>
      simp only [Capture.label] at hlabel
      split at hlabel
      · rename_i hrecording
        obtain rfl := Option.some.inj hlabel
        exact ⟨ha.2.2.2 hrecording, by simp [Capture.next, hrecording]⟩
      · cases hlabel
  rests := by
    intro s a t hstep hlabel
    obtain ⟨ha, rfl⟩ := (capture_step targetDir s t a).1 hstep
    have hends : s.configuredLabel = none → (s.configured targetDir).camera = s.camera := by
      intro hnone
      rcases Capture.configured_cases targetDir s with ⟨session, -, -, hlabel, -⟩ | ⟨-, hcamera⟩
      · cases hnone.symm.trans hlabel
      · exact hcamera
    cases a with
    | fragment a textureAvailable preview => cases hlabel
    | startsClosing a => exact Capture.camera_startsClosing targetDir s a
    | onConfigured session => rfl
    | updatePreview =>
      simp only [Capture.label] at hlabel
      simp only [Capture.next]
      split at hlabel
      · rename_i hnone
        rw [if_pos hnone]
        exact hends hlabel
      · rename_i hsome
        rw [if_neg hsome]
    | setRepeatingRequest =>
      simp only [Capture.label] at hlabel
      simp only [Capture.next]
      split at hlabel
      · rename_i hsession
        rw [if_pos hsession]
        exact hends hlabel
      · rename_i hsession
        rw [if_neg hsession]
    | onConfigureFailed session =>
      simp only [Capture.label] at hlabel
      split at hlabel
      · cases hlabel
      · rename_i hpreview
        simp [Capture.next, hpreview]

/-- Every state of a run with sessions has a state of a run of the fragment. -/
theorem camera_reachable (targetDir : String) {s : Capture}
    (h : (capture targetDir).Reachable s) : (app targetDir).Reachable s.camera :=
  (fragmentPart targetDir).reachable h

/-! ## The callbacks that the fragment awaits -/

/-- Unless it has ended the process, the call has asked for so many recording sessions, on
the same camera. -/
def Asked (s : CameraFragment) (sessions : Nat) (t : CameraFragment) : Prop :=
  t.crash = none → t.sessionsRequested = s.sessionsRequested + sessions ∧
    t.mCameraDevice = s.mCameraDevice ∧ t.previewSizeSet = s.previewSizeSet

theorem asked_onRecorder {s t : CameraFragment} {sessions : Nat} {cs : List RecorderCall}
    {k : CameraFragment → CameraFragment}
    (hk : ∀ r, Asked s sessions (k { t with mMediaRecorder := some r })) :
    Asked s sessions (t.onRecorder cs k) := by
  unfold onRecorder
  split
  · exact hk _
  · intro hcrash
    cases hcrash

/-- A click that goes on asks for a session where nothing fails. -/
theorem asked_onClick (s : CameraFragment) (obdConnected textureAvailable : Bool)
    (targetDir timeStamp : String) (outcome : StartOutcome) :
    Asked s (if Starts s obdConnected textureAvailable ∧ outcome = .requested then 1 else 0)
      (s.onClick obdConnected textureAvailable targetDir timeStamp outcome) := by
  cases hrec : s.mIsRecordingVideo with
  | true =>
    have hstops : s.onClick obdConnected textureAvailable targetDir timeStamp outcome =
        s.stopRecordingVideo := by simp [onClick, hrec]
    have hnot : ¬ (Starts s obdConnected textureAvailable ∧ outcome = .requested) := by
      simp [Starts, hrec]
    rw [hstops, if_neg hnot]
    exact asked_onRecorder fun _ _ => ⟨rfl, rfl, rfl⟩
  | false =>
    by_cases hstarts : Starts s obdConnected textureAvailable
    · rw [onClick_starts hstarts]
      apply asked_onRecorder
      intro r
      apply asked_onRecorder
      intro r
      cases outcome with
      | prepareFails =>
        simp only [reduceCtorEq, if_true, if_false, and_false]
        exact fun _ => ⟨rfl, rfl, rfl⟩
      | requestFails =>
        simp only [reduceCtorEq, if_false, and_false]
        exact asked_onRecorder fun _ _ => ⟨rfl, rfl, rfl⟩
      | sessionFails =>
        simp only [reduceCtorEq, if_false, and_false]
        exact asked_onRecorder fun _ => asked_onRecorder fun _ _ => ⟨rfl, rfl, rfl⟩
      | requested =>
        simp only [reduceCtorEq, if_false, hstarts, and_true, if_true]
        exact asked_onRecorder fun _ => asked_onRecorder fun _ _ => ⟨rfl, rfl, rfl⟩
    · rw [onClick_idle hrec hstarts, if_neg fun h => hstarts h.1]
      exact fun _ => ⟨rfl, rfl, rfl⟩

/-- No other step of the UI thread or of a round asks for a recording session. -/
theorem sessionsRequested_next (targetDir : String) (s : CameraFragment) (a : Action)
    (hclick : ∀ obdConnected textureAvailable timeStamp outcome,
      a ≠ .onClick obdConnected textureAvailable timeStamp outcome)
    (hcallback : ¬ IsCallback a) (hstopped : a ≠ .backgroundStopped)
    (hcrash : (Camera.next targetDir s a).crash = none) :
    (Camera.next targetDir s a).sessionsRequested = s.sessionsRequested := by
  cases a with
  | openCamera outcome =>
    by_cases hp : s.permits = 0
    · cases outcome <;> simp [Camera.next, CameraFragment.openCamera, hp, crashed]
    · cases outcome <;> simp [Camera.next, CameraFragment.openCamera, hp, crashed]
  | onClick obdConnected textureAvailable timeStamp outcome => exact absurd rfl (hclick _ _ _ _)
  | onConfigured => exact absurd trivial hcallback
  | onConfigureFailed => exact absurd trivial hcallback
  | backgroundStopped => exact absurd rfl hstopped
  | recordingConfigured =>
    have hasked : Asked s 0 (Camera.next targetDir s .recordingConfigured) :=
      asked_onRecorder fun _ _ => ⟨rfl, rfl, rfl⟩
    exact (hasked hcrash).1
  | roundChecks =>
    show (if _ then s else _ : CameraFragment).sessionsRequested = _
    split <;> rfl
  | roundAppends =>
    show (if _ then s.crashed _ else _ : CameraFragment).sessionsRequested = _
    split <;> rfl
  | _ => rfl

namespace Capture

/-- The recording sessions on their way. -/
def recordings (s : Capture) : Nat := s.onTheirWay.countP (·.recording)

/-- The fragment awaits as many callbacks as there are recording sessions on their way. -/
def Counts (s : Capture) : Prop :=
  s.camera.crash = none → s.camera.sessionsRequested = s.recordings

theorem recordings_startPreview (s : Capture) (textureAvailable : Bool)
    (outcome : SessionOutcome) :
    (s.startPreview textureAvailable outcome).recordings = s.recordings := by
  unfold startPreview
  split
  · cases outcome <;>
      simp [Capture.createCaptureSession, closePreviewSession, recordings, onTheirWay]
  · rfl

theorem recordings_startRecordingVideo {s : Capture} (textureAvailable : Bool)
    (outcome : StartOutcome) (hcrash : s.camera.crash = none) :
    (s.startRecordingVideo textureAvailable outcome).recordings = s.recordings +
      if previewDevice s.camera textureAvailable ≠ none ∧ outcome = .requested then 1 else 0 := by
  unfold startRecordingVideo
  cases hdevice : previewDevice s.camera textureAvailable with
  | none => simp
  | some device =>
    simp only [hcrash, if_true]
    cases outcome with
    | requested =>
      simp only [Capture.createCaptureSession, closePreviewSession, StartOutcome.session,
        recordings, onTheirWay, List.countP_append]
      simp [Nat.add_right_comm]
    | _ => simp [Capture.createCaptureSession, closePreviewSession, StartOutcome.session,
        recordings, onTheirWay]

theorem counts_onClick (targetDir : String) {s : Capture} (h : Counts s)
    (hrunning : s.camera.crash = none) (obdConnected textureAvailable : Bool)
    (timeStamp : String) (outcome : StartOutcome) (texture : Bool) (preview : SessionOutcome) :
    Counts (s.nextFragment targetDir (.onClick obdConnected textureAvailable timeStamp outcome)
      texture preview) := by
  intro hcrash
  rw [camera_nextFragment] at hcrash ⊢
  obtain ⟨hcount, hdevice, hsize⟩ :=
    asked_onClick s.camera obdConnected textureAvailable targetDir timeStamp outcome hcrash
  simp only [Camera.next] at hcrash ⊢
  rw [hcount, h hrunning]
  cases hrec : s.camera.mIsRecordingVideo with
  | true =>
    simp only [nextFragment, Camera.next, hrec, if_true, stopRecordingVideo, hcrash]
    rw [recordings_startPreview]
    simp [Starts, hrec, recordings, onTheirWay]
  | false =>
    cases obdConnected with
    | false => simp [nextFragment, Starts, hrec, recordings, onTheirWay]
    | true =>
      have hgoes : Starts s.camera true textureAvailable ↔
          previewDevice (s.camera.onClick true textureAvailable targetDir timeStamp outcome)
            textureAvailable ≠ none := by
        simp only [Starts, hrec, previewDevice, hdevice, hsize]
        split <;> simp_all
      simp only [nextFragment, Camera.next, hrec, Bool.false_eq_true, reduceCtorEq, if_false]
      rw [recordings_startRecordingVideo _ _ hcrash]
      simp only [hgoes]
      rfl

theorem counts_configured (targetDir : String) {s : Capture} (h : Counts s)
    (hrunning : s.camera.crash = none) : Counts (s.configured targetDir) := by
  intro _
  have hcount := h hrunning
  rcases hsession : s.configuring with _ | ⟨device, builder, _ | _⟩
  · simp_all [configured, recordings, onTheirWay]
  · simp_all [configured, recordings, onTheirWay]
  · simp_all [configured, recordings, onTheirWay, Camera.next]

theorem counts_fragment (targetDir : String) {s : Capture} (h : Counts s) (a : Action)
    (textureAvailable : Bool) (preview : SessionOutcome)
    (ha : enabled s (.fragment a textureAvailable preview)) :
    Counts (s.nextFragment targetDir a textureAvailable preview) := by
  obtain ⟨-, ⟨hrunning, -⟩, hcallback, -, hidle⟩ := ha
  by_cases hclick : ∃ obdConnected textureAvailable timeStamp outcome,
      a = .onClick obdConnected textureAvailable timeStamp outcome
  · obtain ⟨_, _, _, _, rfl⟩ := hclick
    exact counts_onClick targetDir h hrunning _ _ _ _ _ _
  · by_cases hstopped : a = .backgroundStopped
    · subst hstopped
      intro _
      simp [nextFragment, Camera.next, recordings, onTheirWay, hidle rfl]
    · intro hcrash
      rw [camera_nextFragment] at hcrash ⊢
      rw [sessionsRequested_next targetDir s.camera a
        (fun _ _ _ _ he => hclick ⟨_, _, _, _, he⟩) hcallback hstopped hcrash, h hrunning]
      cases a with
      | onOpened d =>
        simp only [nextFragment]
        rw [recordings_startPreview]
        rfl
      | onClick obdConnected textureAvailable timeStamp outcome =>
        exact absurd ⟨_, _, _, _, rfl⟩ hclick
      | backgroundStopped => exact absurd rfl hstopped
      | _ => rfl

/-- **One step.** -/
theorem counts_next (targetDir : String) {s : Capture} (h : Counts s) (a : CaptureAction)
    (ha : enabled s a) : Counts (next targetDir s a) := by
  have hmoved : ∀ session, s.configuring = none → session ∈ s.requested →
      s.recordings = (s.requested.erase session).countP (·.recording) +
        if session.recording = true then 1 else 0 := by
    intro session hidle hmem
    have hperm := List.perm_cons_erase hmem
    rw [recordings, onTheirWay, hidle, Option.toList_none, List.append_nil, hperm.countP_eq,
      List.countP_cons]
  cases a with
  | fragment a textureAvailable preview => exact counts_fragment targetDir h a _ preview ha
  | startsClosing a => cases a <;> exact h
  | onConfigured session =>
    obtain ⟨-, hidle, hmem⟩ := ha
    intro hcrash
    rw [show (next targetDir s (.onConfigured session)).camera = s.camera from rfl, h hcrash,
      hmoved session hidle hmem]
    simp [next, recordings, onTheirWay]
  | updatePreview =>
    simp only [next]
    split
    · exact counts_configured targetDir h ha.1.1
    · exact h
  | setRepeatingRequest =>
    simp only [next]
    split
    · exact counts_configured targetDir h ha.1.1
    · exact h
  | onConfigureFailed session =>
    obtain ⟨⟨hrunning, -⟩, hidle, hmem, -⟩ := ha
    intro _
    have hcount := h hrunning
    rw [hmoved session hidle hmem] at hcount
    cases hrecording : session.recording with
    | true => simp_all [next, recordings, onTheirWay, Camera.next]
    | false => simp_all [next, recordings, onTheirWay]

/-- A callback of a recording session always finds the fragment awaiting it: what `enabled`
asks for there stops nothing. -/
theorem awaited_of_reachable (targetDir : String) {s : Capture}
    (h : (capture targetDir).Reachable s) (hcrash : s.camera.crash = none) :
    s.Awaited ∧ ∀ session ∈ s.requested, session.recording = true →
      Camera.enabled s.camera .onConfigureFailed := by
  have hcounts : Counts s := by
    refine h.invariant (fun _ => rfl) ?_
    intro s a t hs _ hstep
    obtain ⟨ha, rfl⟩ := (capture_step targetDir s t a).1 hstep
    exact counts_next targetDir hs a ha
  have hpos : ∀ session ∈ s.onTheirWay, session.recording = true →
      0 < s.camera.sessionsRequested := by
    intro session hmem hrecording
    rw [hcounts hcrash]
    exact List.countP_pos_iff.2 ⟨session, hmem, hrecording⟩
  refine ⟨fun session hsession hrecording => ⟨hcrash, ?_⟩, fun session hmem hrecording =>
    ⟨hcrash, ?_⟩⟩
  · exact hpos session (List.mem_append_right _ (by simpa using hsession)) hrecording
  · exact hpos session (List.mem_append_left _ hmem) hrecording

end Capture

end ProjektMagisterski.Camera
