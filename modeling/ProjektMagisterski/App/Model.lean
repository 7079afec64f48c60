import ProjektMagisterski.Bluetooth.ConnectionState
import ProjektMagisterski.Camera.ReadingsFile
import ProjektMagisterski.Lib.Projection
import ProjektMagisterski.Obd.Playback

/-!
# The process of the app

The Bluetooth link, the camera fragment and the readings files, put together.

* The guard of `onClick` asks the link for its state.
* A `ConnectedThread` that has sampled all commands goes through the end of
  `getFormattedResult`: a null check of the path, then an append that reads the
  path again.  In between it does nothing else.
* `onActivityResult` calls `connect` on the UI thread, which is held until
  `connect` returns.

`checked`, `sampled` and `appends` are not stored by the code: they say which
rounds are between the two reads of the path, which rounds got that far, and
what the calls of `Files.write` were.
-/

namespace ProjektMagisterski.App

open Bluetooth Camera Obd

/-- A round of a `ConnectedThread`, with what its commands have formatted. -/
structure Round where
  thread : ThreadId
  formatted : ObdCommand → String

/-- A call of `Files.write`, with the video that is recorded at that time. -/
structure Append where
  round : Round
  path : String
  video : Option String

structure AppState where
  link : Session := {}
  camera : CameraFragment := {}
  files : FileSystem
  /-- The rounds between their null check and their append. -/
  checked : List Round := []
  /-- The rounds that have passed the null check so far. -/
  sampled : List Round := []
  appends : List Append := []

/-- The output file of a recorder that is started. -/
def recordedVideo (s : CameraFragment) : Option String :=
  match s.mMediaRecorder with
  | some (.started file) => some file
  | _ => none

namespace AppState

/-- The round with which the thread is between null check and append. -/
def pending (s : AppState) (t : ThreadId) : Option Round := s.checked.find? fun r => r.thread = t

/-- The null check of `getFormattedResult`. -/
def roundChecks (s : AppState) (r : Round) : AppState :=
  match s.camera.mReadingsAbsolutePath with
  | none => s
  | some _ =>
    { s with
      camera := s.camera.roundChecks
      checked := s.checked ++ [r]
      sampled := s.sampled ++ [r] }

/-- The append of `getFormattedResult`; an `IOException` is only logged. -/
def roundAppends (s : AppState) (r : Round) : AppState :=
  match s.camera.mReadingsAbsolutePath with
  | none => { s with camera := s.camera.roundAppends }
  | some path =>
    { s with
      camera := s.camera.roundAppends
      files := (s.files.write path [lineOf r.formatted]).getD s.files
      checked := s.checked.filter fun q => q.thread ≠ r.thread
      appends := s.appends ++ [⟨r, path, recordedVideo s.camera⟩] }

end AppState

/-! ## Steps -/

inductive Action where
  | link (a : Bluetooth.Action)
  | camera (a : Camera.Action)
  /-- The `ConnectedThread` has sampled all commands and checks the path. -/
  | roundChecks (t : ThreadId) (formatted : ObdCommand → String)
  | roundAppends (t : ThreadId)

/-- The `ConnectedThread` whose own step it is. -/
def sampler : Bluetooth.Action → Option ThreadId
  | .samples t | .ioException t => some t
  | _ => none

/-- What the UI thread does for the link. -/
def linkOnUiThread : Bluetooth.Action → Bool
  | .connect _ => true
  | _ => false

/-- What the UI thread does for the camera; `onConfigured` and `onConfigureFailed` come
on the background thread. -/
def cameraOnUiThread : Camera.Action → Bool
  | .onConfigured | .onConfigureFailed => false
  | _ => true

/-- The steps of the fragment itself; a click finds the link as it is. -/
def Agrees (s : AppState) : Camera.Action → Prop
  | .onClick obdConnected _ _ _ => obdConnected = admitsRecording s.link
  | .roundChecks | .roundAppends => False
  | _ => True

instance (s : AppState) : (a : Camera.Action) → Decidable (Agrees s a)
  | .onClick obdConnected _ _ _ => instDecidableEqBool obdConnected (admitsRecording s.link)
  | .roundChecks | .roundAppends => instDecidableFalse
  | .openCamera _ | .onOpened _ | .onDisconnected _ | .onError _ | .onPause | .acquired
  | .acquireInterrupted | .closeCamera | .backgroundStopped | .onConfigured
  | .recordingConfigured | .onConfigureFailed => instDecidableTrue

def enabled (s : AppState) : Action → Prop
  | .link a =>
    Bluetooth.enabled s.link a ∧ s.camera.crash = none ∧
      (linkOnUiThread a = true → s.camera.ui = .idle) ∧
      ∀ t ∈ sampler a, s.pending t = none
  | .camera a =>
    Camera.enabled s.camera a ∧ Agrees s a ∧
      (cameraOnUiThread a = true → s.link.executing = none)
  | .roundChecks t _ =>
    Camera.enabled s.camera .roundChecks ∧ (s.link.connectedThreads t).stage = .sampling ∧
      s.pending t = none
  | .roundAppends t => Camera.enabled s.camera .roundAppends ∧ s.pending t ≠ none

instance (s : AppState) (t : ThreadId) : Decidable (s.pending t = none) :=
  decidable_of_iff ((s.pending t).isNone = true) Option.isNone_iff_eq_none

instance (s : AppState) (a : Bluetooth.Action) :
    Decidable (∀ t ∈ sampler a, s.pending t = none) :=
  match h : sampler a with
  | none => isTrue (by simp)
  | some t => decidable_of_iff (s.pending t = none) (by simp)

instance (s : AppState) (a : Action) : Decidable (enabled s a) := by
  cases a <;> dsimp only [enabled] <;> infer_instance

def next (targetDir : String) (s : AppState) : Action → AppState
  | .link a => { s with link := Bluetooth.next s.link a }
  | .camera a => { s with camera := Camera.next targetDir s.camera a }
  | .roundChecks t formatted => s.roundChecks ⟨t, formatted⟩
  | .roundAppends t =>
    match s.pending t with
    | none => s
    | some r => s.roundAppends r

/-- The app, with its videos under `targetDir` and the given files to begin with. -/
def app (targetDir : String) (files : FileSystem) : Lib.Machine AppState Action :=
  .guarded { files := files } enabled (next targetDir)

end ProjektMagisterski.App
