import ProjektMagisterski.Camera.Model

/-!
# The open/close lock

The permit is acquired in `openCamera` and released in whichever callback comes;
`closeCamera` acquires and releases it itself.

* `accessFailure_keeps_permit`: `openCamera` fails after `tryAcquire`;
* `openCloseLock_exact`: the semaphore stays a lock exactly as long as no open
  fails between `tryAcquire` and the platform, no opened camera is disconnected
  or in error, and no `acquire` is interrupted.
-/

namespace ProjektMagisterski.Camera

open CameraFragment Lib.Machine

/-- One `closeCamera` in its critical section, or none. -/
def UiThread.holders : UiThread → Nat
  | .closing => 1
  | _ => 0

/-- The opens that await their callback, and the `closeCamera` in its critical section. -/
def holders (s : CameraFragment) : Nat := s.awaiting.length + s.ui.holders

/-- The permit is there when nobody holds the lock, and nobody shares it. -/
def IsLock (s : CameraFragment) : Prop :=
  s.permits = (if holders s = 0 then 1 else 0) ∧ holders s ≤ 1

instance (s : CameraFragment) : Decidable (IsLock s) := inferInstanceAs (Decidable (_ ∧ _))

/-- `openCamera` does not get the permit, or hands it over to the callback. -/
def HandsOver (s : CameraFragment) (outcome : OpenOutcome) : Prop :=
  outcome = .noPermission ∨ outcome = .interrupted ∨ s.permits = 0 ∨ outcome = .requested

/-- Each permit that is acquired is released once. -/
def ReleasesOnce (s : CameraFragment) : Action → Prop
  | .openCamera outcome => HandsOver s outcome
  | .onDisconnected d | .onError d => d ∈ s.awaiting
  | .acquireInterrupted => False
  | _ => True

/-- The camera cannot be accessed when the fragment is resumed. -/
theorem accessFailure_keeps_permit : ∃ s, (app "/Movies").Reachable s ∧ ¬ IsLock s :=
  ⟨_, reachable_of_exec [.openCamera .characteristicsFail] rfl, by decide⟩

/-! ## The invariant -/

theorem isLock_iff (s : CameraFragment) : IsLock s ↔ s.permits + holders s = 1 := by
  unfold IsLock
  split
  · omega
  · omega

/-- A step that touches neither permits nor holders. -/
def KeepsLock (s t : CameraFragment) : Prop := t.permits = s.permits ∧ holders t = holders s

/-- Calls on the recorder leave the lock alone if what follows does. -/
theorem keepsLock_onRecorder (s : CameraFragment) (cs : List RecorderCall)
    (k : CameraFragment → CameraFragment) (hk : ∀ s, KeepsLock s (k s)) :
    KeepsLock s (s.onRecorder cs k) := by
  unfold onRecorder
  split
  · exact hk _
  · exact ⟨rfl, rfl⟩

theorem keepsLock_ite (p : Prop) [Decidable p] (s t u : CameraFragment) (ht : KeepsLock s t)
    (hu : KeepsLock s u) : KeepsLock s (if p then t else u) := by
  split
  · exact ht
  · exact hu

theorem keepsLock_refl (s : CameraFragment) : KeepsLock s s := ⟨rfl, rfl⟩

theorem keepsLock_onClick (s : CameraFragment) (obdConnected textureAvailable : Bool)
    (targetDir timeStamp : String) (outcome : StartOutcome) :
    KeepsLock s (s.onClick obdConnected textureAvailable targetDir timeStamp outcome) := by
  have hsession : ∀ s : CameraFragment, KeepsLock s (s.onRecorder [.getSurface] fun s =>
      if outcome = .sessionFails then s
      else { s with sessionsRequested := s.sessionsRequested + 1 }) := by
    intro s
    refine keepsLock_onRecorder s _ _ fun s => ?_
    exact keepsLock_ite _ _ _ _ (keepsLock_refl s) ⟨rfl, rfl⟩
  have hsetUp : ∀ (s : CameraFragment) (k : CameraFragment → CameraFragment),
      (∀ s, KeepsLock s (k s)) →
      KeepsLock s (s.setUpMediaRecorder targetDir timeStamp outcome k) := by
    intro s k hk
    refine keepsLock_onRecorder s _ _ fun s => ?_
    refine keepsLock_onRecorder (s.getVideoFilePath targetDir timeStamp) _ _ fun s => ?_
    exact keepsLock_ite _ _ _ _ (keepsLock_refl s) (keepsLock_onRecorder s _ _ hk)
  have hstart :
      KeepsLock s (s.startRecordingVideo textureAvailable targetDir timeStamp outcome) := by
    refine keepsLock_ite _ _ _ _ (keepsLock_refl s) (hsetUp s _ fun s => ?_)
    exact keepsLock_ite _ _ _ _ (keepsLock_refl s) (hsession s)
  refine keepsLock_ite _ _ _ _ (keepsLock_onRecorder _ _ _ fun _ => ⟨rfl, rfl⟩) ?_
  exact keepsLock_ite _ _ _ _ (keepsLock_refl s) hstart

/-- The permit of `openCamera` is handed over or kept. -/
theorem lock_openCamera (s : CameraFragment) (outcome : OpenOutcome)
    (h : s.permits + holders s = 1) :
    (s.openCamera outcome).permits + holders (s.openCamera outcome) = 1 ↔
      HandsOver s outcome := by
  unfold holders at h ⊢
  by_cases hp : s.permits = 0
  · cases outcome <;> simpa [CameraFragment.openCamera, HandsOver, hp, crashed] using h
  · cases outcome <;> simp [CameraFragment.openCamera, HandsOver, hp, crashed] <;> omega

/-- The callback of an open releases its permit; any other one releases a permit too many. -/
theorem lock_onDisconnected (s : CameraFragment) (d : DeviceId) (h : s.permits + holders s = 1) :
    (s.onDisconnected d).permits + holders (s.onDisconnected d) = 1 ↔ d ∈ s.awaiting := by
  unfold holders at h ⊢
  by_cases hd : d ∈ s.awaiting
  · have hpos := List.length_pos_of_mem hd
    simp only [CameraFragment.onDisconnected, List.length_erase_of_mem hd, hd, iff_true]
    omega
  · simp only [CameraFragment.onDisconnected, List.erase_of_not_mem hd, hd, iff_false]
    omega

/-- **Permits.**  A step keeps permits and holders balanced exactly if it releases
what it has acquired. -/
theorem lock_next (targetDir : String) (s : CameraFragment) (a : Action)
    (h : s.permits + holders s = 1) (ha : ready s a) :
    (next targetDir s a).permits + holders (next targetDir s a) = 1 ↔ ReleasesOnce s a := by
  cases a with
  | openCamera outcome => exact lock_openCamera s outcome h
  | onOpened d =>
    have hpos := List.length_pos_of_mem ha.2
    simp only [next, CameraFragment.onOpened, holders, ReleasesOnce, iff_true,
      List.length_erase_of_mem ha.2] at h ⊢
    omega
  | onDisconnected d => exact lock_onDisconnected s d h
  | onError d => exact lock_onDisconnected s d h
  | onPause =>
    have hui : s.ui = .idle := ha
    simpa [next, holders, hui, UiThread.holders, ReleasesOnce] using h
  | acquired =>
    obtain ⟨hui, hpos⟩ := ha
    simp only [holders, hui, UiThread.holders] at h
    simp only [next, holders, UiThread.holders, ReleasesOnce, iff_true]
    omega
  | acquireInterrupted =>
    simp only [next, holders, ReleasesOnce, iff_false] at h ⊢
    omega
  | closeCamera =>
    have hui : s.ui = .closing := ha
    simp only [holders, hui, UiThread.holders] at h
    simp only [next, CameraFragment.closeCamera, holders, UiThread.holders, ReleasesOnce, iff_true]
    omega
  | backgroundStopped =>
    have hui : s.ui = .stopping := ha
    simpa [next, holders, hui, UiThread.holders, ReleasesOnce] using h
  | onClick obdConnected textureAvailable timeStamp outcome =>
    have hkeeps := keepsLock_onClick s obdConnected textureAvailable targetDir timeStamp outcome
    simpa [next, hkeeps.1, hkeeps.2, ReleasesOnce] using h
  | recordingConfigured =>
    have hkeeps : KeepsLock s s.recordingConfigured := keepsLock_onRecorder _ _ _ keepsLock_refl
    simpa [next, hkeeps.1, hkeeps.2, ReleasesOnce] using h
  | roundChecks =>
    have hkeeps : KeepsLock s s.roundChecks := keepsLock_ite _ _ _ _ (keepsLock_refl s) ⟨rfl, rfl⟩
    simpa [next, hkeeps.1, hkeeps.2, ReleasesOnce] using h
  | roundAppends =>
    have hkeeps : KeepsLock s s.roundAppends := keepsLock_ite _ _ _ _ ⟨rfl, rfl⟩ ⟨rfl, rfl⟩
    simpa [next, hkeeps.1, hkeeps.2, ReleasesOnce] using h
  | onConfigured => simpa [next, holders, ReleasesOnce] using h
  | onConfigureFailed => simpa [next, holders, ReleasesOnce] using h

/-- **The open/close lock.** -/
theorem openCloseLock_exact (targetDir : String) :
    (app targetDir).Exact ReleasesOnce IsLock := by
  refine exact_guarded (fun s => s.permits + holders s = 1) rfl ?_ (fun s => (isLock_iff s).2) ?_
  · intro s a h hok ha
    exact (lock_next targetDir s a h ha.2).2 hok
  · intro s a h hok ha
    refine ⟨_, Steps.refl _, ?_⟩
    rw [isLock_iff, lock_next targetDir s a h ha.2]
    exact hok

end ProjektMagisterski.Camera
