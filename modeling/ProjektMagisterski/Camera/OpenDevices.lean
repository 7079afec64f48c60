import ProjektMagisterski.Camera.OpenCloseLock

/-!
# The open camera

The fragment keeps one camera in `mCameraDevice`, and closes that one when it is paused.

* `OneDevice`: it is the only one that is open, and none is open or on its way once
  `closeCamera` is done;
* `cameraPart_next`: the steps that have nothing to do with the camera;
* `oneDevice_exact`: exactly as long as a camera is only requested when there is none,
  and no callback releases a permit that is there.
-/

namespace ProjektMagisterski.Camera

open CameraFragment Lib.Machine

/-- **One camera.**  The held one is the one that is open, at most one is open or on its
way, and none is when the camera has been closed. -/
structure OneDevice (s : CameraFragment) : Prop where
  held : s.opened = s.mCameraDevice.toList
  one : s.opened.length + s.awaiting.length ≤ 1
  closed : s.ui = .stopping → s.opened = [] ∧ s.awaiting = []

/-- A camera is only requested when there is none, and a callback that comes after
`onOpened` finds the permit taken. -/
def OpensOne (s : CameraFragment) : Action → Prop
  | .openCamera .requested => s.permits = 0 ∨ s.opened = [] ∧ s.awaiting = []
  | .onDisconnected d | .onError d => d ∈ s.awaiting ∨ s.permits = 0
  | _ => True

/-! ## Steps without the camera -/

/-- What the fragment knows of its camera, and the lock. -/
structure CameraPart where
  permits : Nat
  ui : UiThread
  awaiting : List DeviceId
  opened : List DeviceId
  nextDevice : DeviceId
  mCameraDevice : Option DeviceId

def cameraPart (s : CameraFragment) : CameraPart :=
  ⟨s.permits, s.ui, s.awaiting, s.opened, s.nextDevice, s.mCameraDevice⟩

theorem cameraPart_onRecorder (s : CameraFragment) (cs : List RecorderCall)
    (k : CameraFragment → CameraFragment) (hk : ∀ s, cameraPart (k s) = cameraPart s) :
    cameraPart (s.onRecorder cs k) = cameraPart s := by
  unfold onRecorder
  split
  · exact hk _
  · rfl

theorem cameraPart_ite (p : Prop) [Decidable p] {s t u : CameraFragment}
    (ht : cameraPart t = cameraPart s) (hu : cameraPart u = cameraPart s) :
    cameraPart (if p then t else u) = cameraPart s := by
  split
  · exact ht
  · exact hu

theorem cameraPart_startRecordingVideo (s : CameraFragment) (textureAvailable : Bool)
    (targetDir timeStamp : String) (outcome : StartOutcome) :
    cameraPart (s.startRecordingVideo textureAvailable targetDir timeStamp outcome) =
      cameraPart s := by
  apply cameraPart_ite _ rfl
  apply cameraPart_onRecorder
  intro s
  apply cameraPart_onRecorder (s.getVideoFilePath targetDir timeStamp)
  intro s
  apply cameraPart_ite _ rfl
  apply cameraPart_onRecorder
  intro s
  apply cameraPart_ite _ rfl
  apply cameraPart_onRecorder
  intro s
  exact cameraPart_ite _ rfl rfl

theorem cameraPart_onClick (s : CameraFragment) (obdConnected textureAvailable : Bool)
    (targetDir timeStamp : String) (outcome : StartOutcome) :
    cameraPart (s.onClick obdConnected textureAvailable targetDir timeStamp outcome) =
      cameraPart s := by
  apply cameraPart_ite
  · exact cameraPart_onRecorder { s with mIsRecordingVideo := false } _ _ fun _ => rfl
  · exact cameraPart_ite _ rfl (cameraPart_startRecordingVideo s _ _ _ outcome)

/-- Recordings and rounds, and their callbacks. -/
def IsRecordingStep : Action → Prop
  | .onClick _ _ _ _ | .onConfigured | .recordingConfigured | .onConfigureFailed
  | .roundChecks | .roundAppends => True
  | _ => False

/-- **Frame.** -/
theorem cameraPart_next (targetDir : String) (s : CameraFragment) (a : Action)
    (ha : IsRecordingStep a) : cameraPart (next targetDir s a) = cameraPart s := by
  cases a with
  | onClick obdConnected textureAvailable timeStamp outcome =>
    exact cameraPart_onClick s obdConnected textureAvailable targetDir timeStamp outcome
  | onConfigured => rfl
  | recordingConfigured =>
    exact cameraPart_onRecorder { s with
      runnablesPosted := s.runnablesPosted - 1, mIsRecordingVideo := true } _ _ fun _ => rfl
  | onConfigureFailed => rfl
  | roundChecks => exact cameraPart_ite _ rfl rfl
  | roundAppends => exact cameraPart_ite _ rfl rfl
  | _ => exact absurd ha id

/-- `openCamera` returns without the callback, and leaves the readings alone. -/
theorem openCamera_frame (s : CameraFragment) (outcome : OpenOutcome) :
    (s.openCamera outcome).ui = s.ui ∧
      (s.openCamera outcome).mReadingsAbsolutePath = s.mReadingsAbsolutePath := by
  by_cases hp : s.permits = 0
  · cases outcome <;> simp [CameraFragment.openCamera, hp, crashed]
  · cases outcome <;> simp [CameraFragment.openCamera, hp, crashed]

/-! ## The invariant -/

/-- `OneDevice`, and no more than one permit is there or held. -/
structure OneOpen (s : CameraFragment) : Prop where
  device : OneDevice s
  lock : s.crash = none → s.permits + holders s ≤ 1

theorem OneOpen.of_cameraPart {s t : CameraFragment} (h : OneOpen s)
    (hcrash : s.crash = none) (ht : cameraPart t = cameraPart s) : OneOpen t := by
  have hpermits : t.permits = s.permits := congrArg CameraPart.permits ht
  have hui : t.ui = s.ui := congrArg CameraPart.ui ht
  have hawaiting : t.awaiting = s.awaiting := congrArg CameraPart.awaiting ht
  have hopened : t.opened = s.opened := congrArg CameraPart.opened ht
  have hdevice : t.mCameraDevice = s.mCameraDevice := congrArg CameraPart.mCameraDevice ht
  refine ⟨⟨?_, ?_, ?_⟩, fun _ => ?_⟩
  · rw [hopened, hdevice]
    exact h.device.held
  · rw [hopened, hawaiting]
    exact h.device.one
  · rw [hui, hopened, hawaiting]
    exact h.device.closed
  · rw [holders, hpermits, hawaiting, hui]
    exact h.lock hcrash

/-- The permit of an open that fails is lost. -/
theorem OneOpen.lostPermit {s t : CameraFragment} (h : OneOpen s) (hcrash : s.crash = none)
    (ht : cameraPart t = { cameraPart s with permits := s.permits - 1 }) : OneOpen t := by
  have hless : OneOpen { s with permits := s.permits - 1 } := by
    refine ⟨⟨h.device.held, h.device.one, h.device.closed⟩, fun _ => ?_⟩
    have hlock := h.lock hcrash
    show s.permits - 1 + holders s ≤ 1
    omega
  exact hless.of_cameraPart hcrash ht

theorem OneOpen.openCamera {s : CameraFragment} (h : OneOpen s) (outcome : OpenOutcome)
    (hcrash : s.crash = none) (hui : s.ui = .idle)
    (hok : OpensOne s (.openCamera outcome)) : OneOpen (s.openCamera outcome) := by
  by_cases hp : s.permits = 0
  · apply h.of_cameraPart hcrash
    cases outcome <;> simp [CameraFragment.openCamera, hp, crashed, cameraPart]
  · cases outcome with
    | noPermission => exact h.of_cameraPart hcrash rfl
    | interrupted => exact h.of_cameraPart hcrash rfl
    | requested =>
      obtain ⟨hopened, hawaiting⟩ := hok.resolve_left hp
      have hlock := h.lock hcrash
      have hheld := h.device.held
      refine ⟨⟨?_, ?_, ?_⟩, fun _ => ?_⟩
      · simpa [CameraFragment.openCamera, hp] using hheld
      · simp [CameraFragment.openCamera, hp, hopened, hawaiting]
      · intro hstopping
        simp [CameraFragment.openCamera, hp, hui] at hstopping
      · simp only [CameraFragment.openCamera, hp, if_false, holders, hawaiting, hui,
          UiThread.holders, List.length_singleton]
        simp only [holders] at hlock
        omega
    | _ => exact h.lostPermit hcrash (by simp [CameraFragment.openCamera, hp, crashed, cameraPart])

theorem OneOpen.onOpened {s : CameraFragment} (h : OneOpen s) (d : DeviceId)
    (hcrash : s.crash = none) (hui : s.ui = .idle) (hd : d ∈ s.awaiting) :
    OneOpen (s.onOpened d) := by
  have hone := h.device.one
  have hpos := List.length_pos_of_mem hd
  have hopened : s.opened = [] := List.length_eq_zero_iff.1 (by omega)
  have hlength := List.length_erase_of_mem hd
  have hlock := h.lock hcrash
  simp only [holders, hui, UiThread.holders] at hlock
  refine ⟨⟨?_, ?_, ?_⟩, fun _ => ?_⟩
  · simp [CameraFragment.onOpened, hopened]
  · simp only [CameraFragment.onOpened, hopened, List.length_singleton, hlength]
    omega
  · intro hstopping
    cases hui.symm.trans hstopping
  · simp only [CameraFragment.onOpened, holders, hui, UiThread.holders, hlength]
    omega

/-- The camera that is gone was the only one. -/
theorem OneOpen.gone {s : CameraFragment} (h : OneOpen s) {d : DeviceId}
    (hd : d ∈ s.awaiting ∨ d ∈ s.opened) : s.opened.erase d = [] ∧ s.awaiting.erase d = [] := by
  have hone := h.device.one
  rcases hd with hd | hd
  · have hpos := List.length_pos_of_mem hd
    have hlength := List.length_erase_of_mem hd
    have hopened : s.opened = [] := List.length_eq_zero_iff.1 (by omega)
    exact ⟨by simp [hopened], List.length_eq_zero_iff.1 (by omega)⟩
  · have hpos := List.length_pos_of_mem hd
    have hlength := List.length_erase_of_mem hd
    have hawaiting : s.awaiting = [] := List.length_eq_zero_iff.1 (by omega)
    exact ⟨List.length_eq_zero_iff.1 (by omega), by simp [hawaiting]⟩

/-- Either the camera that is on its way is gone, or the one that is open. -/
theorem OneOpen.onDisconnected {s : CameraFragment} (h : OneOpen s) (d : DeviceId)
    (hcrash : s.crash = none) (hui : s.ui = .idle) (hd : d ∈ s.awaiting ∨ d ∈ s.opened)
    (hok : d ∈ s.awaiting ∨ s.permits = 0) : OneOpen (s.onDisconnected d) := by
  have hlock := h.lock hcrash
  simp only [holders, hui, UiThread.holders] at hlock
  obtain ⟨hopened, hawaiting⟩ := h.gone hd
  have hpermits : s.permits + 1 ≤ 1 := by
    rcases hok with hd | hpermits
    · have hpos := List.length_pos_of_mem hd
      omega
    · omega
  refine ⟨⟨hopened, ?_, fun _ => ⟨hopened, hawaiting⟩⟩, fun _ => ?_⟩
  · simp [CameraFragment.onDisconnected, hopened, hawaiting]
  · simpa [CameraFragment.onDisconnected, holders, hui, UiThread.holders, hawaiting] using hpermits

/-- `closeCamera` finds nothing on its way, because it holds the lock. -/
theorem OneOpen.closeCamera {s : CameraFragment} (h : OneOpen s) (hcrash : s.crash = none)
    (hui : s.ui = .closing) : OneOpen s.closeCamera := by
  have hlock := h.lock hcrash
  simp only [holders, hui, UiThread.holders] at hlock
  have hawaiting : s.awaiting = [] := List.length_eq_zero_iff.1 (by omega)
  have hopened : s.closeCamera.opened = [] := by
    have hheld := h.device.held
    unfold CameraFragment.closeCamera
    cases hdevice : s.mCameraDevice with
    | none => simpa [hdevice] using hheld
    | some d => simp [hheld, hdevice]
  refine ⟨⟨hopened, ?_, fun _ => ⟨hopened, hawaiting⟩⟩, fun _ => ?_⟩
  · rw [hopened]
    simp [CameraFragment.closeCamera, hawaiting]
  · simp only [CameraFragment.closeCamera, holders, UiThread.holders, hawaiting]
    simp only [List.length_nil] at hlock ⊢
    omega

/-- **One step.** -/
theorem OneOpen.next (targetDir : String) {s : CameraFragment} (h : OneOpen s) (a : Action)
    (hok : OpensOne s a) (ha : enabled s a) : OneOpen (next targetDir s a) := by
  obtain ⟨hcrash, hready⟩ := ha
  have hlock := h.lock hcrash
  cases a with
  | openCamera outcome => exact h.openCamera outcome hcrash hready hok
  | onOpened d => exact h.onOpened d hcrash hready.1 hready.2
  | onDisconnected d => exact h.onDisconnected d hcrash hready.1 hready.2 hok
  | onError d => exact h.onDisconnected d hcrash hready.1 hready.2 hok
  | onPause =>
    have hui : s.ui = .idle := hready
    refine ⟨⟨h.device.held, h.device.one, fun hstopping => ?_⟩, fun _ => ?_⟩
    · cases hstopping
    · simpa [Camera.next, holders, hui, UiThread.holders] using hlock
  | acquired =>
    obtain ⟨hui, hpos⟩ := hready
    refine ⟨⟨h.device.held, h.device.one, fun hstopping => ?_⟩, fun _ => ?_⟩
    · cases hstopping
    · simp only [Camera.next, holders, hui, UiThread.holders] at hlock ⊢
      omega
  | acquireInterrupted =>
    have hui : s.ui = .acquiring := hready
    refine ⟨⟨h.device.held, h.device.one, fun hstopping => ?_⟩, fun hnone => ?_⟩
    · cases hui.symm.trans hstopping
    · cases hnone
  | closeCamera => exact h.closeCamera hcrash hready
  | backgroundStopped =>
    have hui : s.ui = .stopping := hready
    refine ⟨⟨h.device.held, h.device.one, fun hstopping => ?_⟩, fun _ => ?_⟩
    · cases hstopping
    · simpa [Camera.next, holders, hui, UiThread.holders] using hlock
  | _ => exact h.of_cameraPart hcrash (cameraPart_next targetDir s _ trivial)

/-! ## Every other step leaves a camera open -/

/-- With two permits the fragment can be paused before the camera it has requested is
opened. -/
theorem left_of_twoPermits (targetDir : String) {s : CameraFragment} (hcrash : s.crash = none)
    (hui : s.ui = .idle) (hpermits : s.permits = 2) (hnone : s.opened = [] ∧ s.awaiting = []) :
    ∃ t, (app targetDir).Steps OpensOne s t ∧ ¬ OneDevice t := by
  have hopen : (app targetDir).Steps OpensOne s (next targetDir s (.openCamera .requested)) :=
    Steps.guarded (Action.openCamera .requested) (Or.inr hnone) ⟨hcrash, hui⟩
  have hexec : (app targetDir).exec (next targetDir s (.openCamera .requested))
      [.onPause, .acquired, .closeCamera] =
      some (CameraFragment.closeCamera { s.openCamera .requested with
        permits := 0, ui := .closing }) := by
    simp [exec, app, guarded, enabled, ready, next, CameraFragment.openCamera, hcrash, hui,
      hpermits]
  have hclose : (app targetDir).Steps OpensOne _ _ := exec_steps _ (by simp [OpensOne]) hexec
  refine ⟨_, hopen.trans hclose, fun hone => ?_⟩
  obtain ⟨-, hawaiting⟩ := hone.closed rfl
  simp [CameraFragment.closeCamera, CameraFragment.openCamera, hpermits] at hawaiting

/-- **The open camera.**  The fragment holds the only camera that is open, and leaves none
open when it is paused, exactly as long as a camera is only requested when there is none,
and `onDisconnected` and `onError` find no permit that they would add to. -/
theorem oneDevice_exact (targetDir : String) : (app targetDir).Exact OpensOne OneDevice := by
  apply exact_guarded OneOpen
  · exact ⟨⟨rfl, by decide, fun _ => ⟨rfl, rfl⟩⟩, fun _ => by decide⟩
  · intro s a h hok ha
    exact h.next targetDir a hok ha
  · intro s h
    exact h.device
  · intro s a h hnot ha
    obtain ⟨hcrash, hready⟩ := ha
    have hlock := h.lock hcrash
    cases a with
    | openCamera outcome =>
      cases outcome with
      | requested =>
        obtain ⟨hp, hsome⟩ := not_or.1 hnot
        refine ⟨_, Steps.refl _, fun hone => hsome ?_⟩
        have hlength := hone.one
        simp only [Camera.next, CameraFragment.openCamera, hp, if_false,
          List.length_cons] at hlength
        exact ⟨List.length_eq_zero_iff.1 (by omega), List.length_eq_zero_iff.1 (by omega)⟩
      | _ => exact absurd trivial hnot
    | onDisconnected d =>
      have hui : s.ui = .idle := hready.1
      obtain ⟨-, hp⟩ := not_or.1 hnot
      apply left_of_twoPermits targetDir
      · exact hcrash
      · exact hui
      · show s.permits + 1 = 2
        omega
      · exact h.gone hready.2
    | onError d =>
      have hui : s.ui = .idle := hready.1
      obtain ⟨-, hp⟩ := not_or.1 hnot
      apply left_of_twoPermits targetDir
      · exact hcrash
      · exact hui
      · show s.permits + 1 = 2
        omega
      · exact h.gone hready.2
    | _ => exact absurd trivial hnot

end ProjektMagisterski.Camera
