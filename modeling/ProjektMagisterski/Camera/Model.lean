import ProjektMagisterski.Lib.Machine

/-!
# The camera fragment

`CameraFragment` with the threads it talks to, as one machine.  Handlers and
callbacks of the UI thread are atomic steps and need it idle; capture-session
callbacks come on the background thread, sampling rounds on theirs.

* `MediaRecorder`, `MediaRecorder.call`: the platform's recorder life cycle;
* `startRecordingVideo`, `stopRecordingVideo`, `openCamera`, `closeCamera`, …:
  the methods of the fragment;
* `Action`, `enabled`, `next`, `app`: their interleavings.

The camera callbacks are delivered to the UI thread, because `openCamera` passes
no handler.  An uncaught exception ends the process: a `crash` stops the machine.
-/

namespace ProjektMagisterski.Camera

/-! ## The recorder -/

/-- The platform's recorder, with its output file once it has one. -/
inductive MediaRecorder where
  | initial
  | initialized
  | configured (outputFile : Option String)
  | prepared (outputFile : String)
  | started (outputFile : String)
deriving DecidableEq, Repr

/-- The parameters that `setUpMediaRecorder` sets.  The orientation hint is left out
on sensors that are mounted neither way. -/
inductive RecorderParameter where
  | videoEncodingBitRate (bitRate : Nat)
  | videoFrameRate (rate : Nat)
  | videoSize
  | videoEncoder
  | orientationHint
deriving DecidableEq, Repr

inductive RecorderCall where
  | setVideoSource
  | setOutputFormat
  | setOutputFile (path : String)
  | set (parameter : RecorderParameter)
  | prepare
  | getSurface
  | start
  | stop
  | reset
deriving DecidableEq, Repr

/-- One call; `none` is an `IllegalStateException`. -/
def MediaRecorder.call : MediaRecorder → RecorderCall → Option MediaRecorder
  | .initial, .setVideoSource => some .initialized
  | .initialized, .setVideoSource => some .initialized
  | .initialized, .setOutputFormat => some (.configured none)
  | .configured _, .setOutputFile path => some (.configured (some path))
  | .configured file, .set _ => some (.configured file)
  | .configured (some file), .prepare => some (.prepared file)
  | .prepared file, .getSurface => some (.prepared file)
  | .started file, .getSurface => some (.started file)
  | .prepared file, .start => some (.started file)
  | .started _, .stop => some .initial
  | _, .reset => some .initial
  | _, _ => none

def MediaRecorder.calls (r : MediaRecorder) : List RecorderCall → Option MediaRecorder
  | [] => some r
  | c :: cs => (r.call c).bind fun r => r.calls cs

/-! ## The fragment -/

abbrev DeviceId := Nat

/-- What the UI thread is at: free for handlers, or in `onPause`, which waits for the
lock, closes the camera with the lock held, and then joins the background thread. -/
inductive UiThread where
  | idle | acquiring | closing | stopping
deriving DecidableEq, Repr

/-- The uncaught exceptions that the model follows. -/
inductive Crash where
  /-- A recorder method on null or in a state that forbids it. -/
  | recorderMisuse
  /-- "Time out waiting acquiring camera". -/
  | lockTimeout
  /-- "Interrupted while trying to lock camera opening" or "closing". -/
  | interrupted
  /-- No camera, or "Cannot get available preview/video sizes". -/
  | noCamera
  /-- `Paths.get(null)` in a sampling round. -/
  | nullPath
deriving DecidableEq, Repr

structure CameraFragment where
  /-- Permits of `mCameraOpenCloseLock`. -/
  permits : Nat := 1
  ui : UiThread := .idle
  crash : Option Crash := none
  /-- Opens handed over to the platform that await their callback. -/
  awaiting : List DeviceId := []
  /-- Devices that were opened and not closed. -/
  opened : List DeviceId := []
  nextDevice : DeviceId := 0
  mCameraDevice : Option DeviceId := none
  mMediaRecorder : Option MediaRecorder := none
  /-- `mPreviewSize` is not null. -/
  previewSizeSet : Bool := false
  mIsRecordingVideo : Bool := false
  mVideoFilePath : Option String := none
  /-- The static field of `MyMultiOBDCommand`. -/
  mReadingsAbsolutePath : Option String := none
  /-- Recording sessions requested and not configured yet. -/
  sessionsRequested : Nat := 0
  /-- `onConfigured` runnables posted to the UI thread. -/
  runnablesPosted : Nat := 0
  /-- Sampling rounds between their null check and their append. -/
  checkedRounds : Nat := 0
deriving DecidableEq, Repr

def videoFile (targetDir timeStamp : String) : String :=
  targetDir ++ ("/VIDEO_" ++ timeStamp ++ ".mp4")

def readingsFile (mVideoFolder timeStamp : String) : String :=
  mVideoFolder ++ "/" ++ ("READINGS_" ++ timeStamp) ++ ".txt"

/-- How `openCamera` ends, after the checks for permissions. -/
inductive OpenOutcome where
  /-- A permission is missing and is requested. -/
  | noPermission
  /-- `tryAcquire` is interrupted. -/
  | interrupted
  /-- A `CameraAccessException` from the list of cameras or the characteristics. -/
  | characteristicsFail
  /-- No camera, or no stream configuration map: a `RuntimeException`. -/
  | noCamera
  /-- A `CameraAccessException` from the platform's `openCamera`. -/
  | requestFails
  | requested
deriving DecidableEq, Repr

/-- How setting up a recording ends, unless the recorder is misused. -/
inductive StartOutcome where
  /-- `prepare` raises an `IOException`. -/
  | prepareFails
  /-- `createCaptureRequest` raises a `CameraAccessException`. -/
  | requestFails
  /-- `createCaptureSession` raises a `CameraAccessException`. -/
  | sessionFails
  | requested
deriving DecidableEq, Repr

namespace CameraFragment

def crashed (s : CameraFragment) (c : Crash) : CameraFragment := { s with crash := some c }

/-- Calls on `mMediaRecorder`, and what follows unless one of them raises an exception.
Nothing looks at the recorder after that. -/
def onRecorder (s : CameraFragment) (cs : List RecorderCall)
    (k : CameraFragment → CameraFragment) : CameraFragment :=
  match s.mMediaRecorder.bind fun r => r.calls cs with
  | some r => k { s with mMediaRecorder := some r }
  | none => s.crashed .recorderMisuse

/-! ### `MyMultiOBDCommand` -/

def createReadingsFileName (s : CameraFragment) (timeStamp mVideoFolder : String) :
    CameraFragment :=
  { s with mReadingsAbsolutePath := some (readingsFile mVideoFolder timeStamp) }

def clearReadingsFileName (s : CameraFragment) : CameraFragment :=
  { s with mReadingsAbsolutePath := none }

/-! ### Recording -/

/-- The names of the recording's two files are chosen together. -/
def getVideoFilePath (s : CameraFragment) (targetDir timeStamp : String) : CameraFragment :=
  { s.createReadingsFileName timeStamp targetDir with
    mVideoFilePath := some (videoFile targetDir timeStamp) }

/-- `setUpMediaRecorder`, and what follows unless `prepare` raises its `IOException`.
`getVideoFilePath` is an argument of `setOutputFile`. -/
def setUpMediaRecorder (s : CameraFragment) (targetDir timeStamp : String)
    (outcome : StartOutcome) (k : CameraFragment → CameraFragment) : CameraFragment :=
  s.onRecorder [.setVideoSource, .setOutputFormat] fun s =>
    (s.getVideoFilePath targetDir timeStamp).onRecorder
      [.setOutputFile (videoFile targetDir timeStamp), .set (.videoEncodingBitRate 10000000),
        .set (.videoFrameRate 30), .set .videoSize, .set .videoEncoder, .set .orientationHint]
      fun s => if outcome = .prepareFails then s else s.onRecorder [.prepare] k

def startRecordingVideo (s : CameraFragment) (textureAvailable : Bool)
    (targetDir timeStamp : String) (outcome : StartOutcome) : CameraFragment :=
  if s.mCameraDevice = none ∨ textureAvailable = false ∨ s.previewSizeSet = false then s
  else s.setUpMediaRecorder targetDir timeStamp outcome fun s =>
    if outcome = .requestFails then s
    else s.onRecorder [.getSurface] fun s =>
      if outcome = .sessionFails then s
      else { s with sessionsRequested := s.sessionsRequested + 1 }

def stopRecordingVideo (s : CameraFragment) : CameraFragment :=
  ({ s with mIsRecordingVideo := false } : CameraFragment).onRecorder [.stop, .reset] fun s =>
    { s.clearReadingsFileName with mVideoFilePath := none }

/-- A click on the record button; `obdConnected` is the guard on `BluetoothIO.getState()`. -/
def onClick (s : CameraFragment) (obdConnected textureAvailable : Bool)
    (targetDir timeStamp : String) (outcome : StartOutcome) : CameraFragment :=
  if s.mIsRecordingVideo then s.stopRecordingVideo
  else if obdConnected = false then s
  else s.startRecordingVideo textureAvailable targetDir timeStamp outcome

/-- What `onConfigured` posts to the UI thread. -/
def recordingConfigured (s : CameraFragment) : CameraFragment :=
  ({ s with runnablesPosted := s.runnablesPosted - 1, mIsRecordingVideo := true } :
    CameraFragment).onRecorder [.start] id

/-! ### Opening and closing the camera -/

/-- `openCamera` waits on the UI thread, where every release of the lock happens as
well: without a permit the wait times out. -/
def openCamera (s : CameraFragment) (outcome : OpenOutcome) : CameraFragment :=
  match outcome with
  | .noPermission => s
  | .interrupted => s.crashed .interrupted
  | _ =>
    if s.permits = 0 then s.crashed .lockTimeout
    else
      let s := { s with permits := s.permits - 1 }
      match outcome with
      | .noCamera => s.crashed .noCamera
      | .requestFails => { s with previewSizeSet := true, mMediaRecorder := some .initial }
      | .requested =>
        { s with
          previewSizeSet := true
          mMediaRecorder := some .initial
          awaiting := s.nextDevice :: s.awaiting
          nextDevice := s.nextDevice + 1 }
      | _ => s

/-- `onOpened` of `mStateCallback`. -/
def onOpened (s : CameraFragment) (d : DeviceId) : CameraFragment :=
  { s with
    awaiting := s.awaiting.erase d
    opened := d :: s.opened
    mCameraDevice := some d
    permits := s.permits + 1 }

/-- `onDisconnected` and `onError` of `mStateCallback`, instead of `onOpened` or after it. -/
def onDisconnected (s : CameraFragment) (d : DeviceId) : CameraFragment :=
  { s with
    permits := s.permits + 1
    awaiting := s.awaiting.erase d
    opened := s.opened.erase d
    mCameraDevice := none }

/-- `closeCamera` once it has the lock. -/
def closeCamera (s : CameraFragment) : CameraFragment :=
  { s with
    opened := match s.mCameraDevice with
      | some d => s.opened.erase d
      | none => s.opened
    mCameraDevice := none
    mMediaRecorder := none
    permits := s.permits + 1
    ui := .stopping }

/-! ### Sampling rounds -/

/-- A round whose null check passes goes on to its append. -/
def roundChecks (s : CameraFragment) : CameraFragment :=
  if s.mReadingsAbsolutePath = none then s
  else { s with checkedRounds := s.checkedRounds + 1 }

/-- The append reads the path again. -/
def roundAppends (s : CameraFragment) : CameraFragment :=
  if s.mReadingsAbsolutePath = none then s.crashed .nullPath
  else { s with checkedRounds := s.checkedRounds - 1 }

end CameraFragment

/-! ## Steps -/

inductive Action where
  /-- From `onResume`, or from `onSurfaceTextureAvailable` after it. -/
  | openCamera (outcome : OpenOutcome)
  | onOpened (d : DeviceId)
  | onDisconnected (d : DeviceId)
  | onError (d : DeviceId)
  /-- `onPause` calls `closeCamera`, which starts to wait for the lock. -/
  | onPause
  | acquired
  /-- The `acquire` of `closeCamera` is interrupted; its `finally` block runs. -/
  | acquireInterrupted
  /-- `closeCamera` does its work and releases the lock. -/
  | closeCamera
  /-- The background thread is joined; sessions not configured by then never are. -/
  | backgroundStopped
  | onClick (obdConnected textureAvailable : Bool) (timeStamp : String) (outcome : StartOutcome)
  | onConfigured
  /-- The UI thread runs what `onConfigured` has posted. -/
  | recordingConfigured
  | onConfigureFailed
  | roundChecks
  | roundAppends
deriving DecidableEq, Repr

/-- When a step is possible, in a process that has not crashed. -/
def ready (s : CameraFragment) : Action → Prop
  | .openCamera _ => s.ui = .idle
  | .onOpened d => s.ui = .idle ∧ d ∈ s.awaiting
  | .onDisconnected d => s.ui = .idle ∧ (d ∈ s.awaiting ∨ d ∈ s.opened)
  | .onError d => s.ui = .idle ∧ (d ∈ s.awaiting ∨ d ∈ s.opened)
  | .onPause => s.ui = .idle
  | .acquired => s.ui = .acquiring ∧ 0 < s.permits
  | .acquireInterrupted => s.ui = .acquiring
  | .closeCamera => s.ui = .closing
  | .backgroundStopped => s.ui = .stopping
  | .onClick _ _ _ _ => s.ui = .idle
  | .onConfigured => 0 < s.sessionsRequested
  | .recordingConfigured => s.ui = .idle ∧ 0 < s.runnablesPosted
  | .onConfigureFailed => 0 < s.sessionsRequested
  | .roundChecks => True
  | .roundAppends => 0 < s.checkedRounds

def enabled (s : CameraFragment) (a : Action) : Prop := s.crash = none ∧ ready s a

instance (s : CameraFragment) (a : Action) : Decidable (ready s a) := by
  cases a <;> dsimp only [ready] <;> infer_instance

instance (s : CameraFragment) (a : Action) : Decidable (enabled s a) :=
  inferInstanceAs (Decidable (_ ∧ _))

def next (targetDir : String) (s : CameraFragment) : Action → CameraFragment
  | .openCamera outcome => s.openCamera outcome
  | .onOpened d => s.onOpened d
  | .onDisconnected d => s.onDisconnected d
  | .onError d => s.onDisconnected d
  | .onPause => { s with ui := .acquiring }
  | .acquired => { s with permits := s.permits - 1, ui := .closing }
  | .acquireInterrupted => { s with permits := s.permits + 1, crash := some .interrupted }
  | .closeCamera => s.closeCamera
  | .backgroundStopped => { s with sessionsRequested := 0, ui := .idle }
  | .onClick obdConnected textureAvailable timeStamp outcome =>
    s.onClick obdConnected textureAvailable targetDir timeStamp outcome
  | .onConfigured =>
    { s with
      sessionsRequested := s.sessionsRequested - 1
      runnablesPosted := s.runnablesPosted + 1 }
  | .recordingConfigured => s.recordingConfigured
  | .onConfigureFailed => { s with sessionsRequested := s.sessionsRequested - 1 }
  | .roundChecks => s.roundChecks
  | .roundAppends => s.roundAppends

/-- Every interleaving, with the videos under `targetDir`. -/
def app (targetDir : String) : Lib.Machine CameraFragment Action :=
  .guarded {} enabled (next targetDir)

end ProjektMagisterski.Camera
