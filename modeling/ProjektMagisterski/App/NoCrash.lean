import ProjektMagisterski.App.Recordings
import ProjektMagisterski.Camera.OpenCloseLock
import ProjektMagisterski.Camera.RecorderLifeCycle

/-!
# Runs without a crash

The conditions under which the recorder, the readings file and the lock are used as they
should be, together.  `Crash` lists the exceptions that are followed.  Those that depend on
more than the states of these parts are not among them: `stop` of a recorder that has no
frame yet, or `updatePreview` while the camera is closed.

* `crash_next`: what an uncaught exception can come from;
* `undisturbed_runs`: under all the conditions there is none, and no round that has passed
  its null check loses its line.
-/

namespace ProjektMagisterski.App

open Bluetooth (ThreadId)
open Camera CameraFragment Obd Lib Lib.Machine

/-- A camera is there, and is only requested when no other one is on its way. -/
def OpensFreely (s : CameraFragment) : Camera.Action → Prop
  | .openCamera outcome => outcome = .noPermission ∨ outcome = .requested ∧ s.awaiting = []
  | _ => True

/-- Starts succeed; the camera is neither closed nor opened again during a recording or its
start, and rounds overlap with neither start nor stop; each permit is released once. -/
structure Undisturbed (s : CameraFragment) (a : Camera.Action) : Prop where
  binds : BindsReadings s a
  order : KeepsOrder s a
  lock : ReleasesOnce s a
  opens : OpensFreely s a

/-! ## Crashes -/

/-- Nothing has gone wrong, or else with the recorder. -/
def AtMostMisuse (s : CameraFragment) : Prop :=
  s.crash = none ∨ s.crash = some .recorderMisuse

theorem atMostMisuse_onRecorder (s : CameraFragment) (cs : List RecorderCall)
    (k : CameraFragment → CameraFragment) (hs : s.crash = none)
    (hk : ∀ s, s.crash = none → AtMostMisuse (k s)) : AtMostMisuse (s.onRecorder cs k) := by
  unfold onRecorder
  split
  · exact hk _ hs
  · exact Or.inr rfl

theorem atMostMisuse_ite (p : Prop) [Decidable p] {s t : CameraFragment} (hs : AtMostMisuse s)
    (ht : AtMostMisuse t) : AtMostMisuse (if p then s else t) := by
  split
  · exact hs
  · exact ht

theorem atMostMisuse_onClick (s : CameraFragment) (obdConnected textureAvailable : Bool)
    (targetDir timeStamp : String) (outcome : StartOutcome) (hs : s.crash = none) :
    AtMostMisuse (s.onClick obdConnected textureAvailable targetDir timeStamp outcome) := by
  apply atMostMisuse_ite
  · exact atMostMisuse_onRecorder _ _ _ hs fun _ h => Or.inl h
  apply atMostMisuse_ite _ (Or.inl hs)
  apply atMostMisuse_ite _ (Or.inl hs)
  apply atMostMisuse_onRecorder s _ _ hs
  intro s hs
  apply atMostMisuse_onRecorder (s.getVideoFilePath targetDir timeStamp) _ _ hs
  intro s hs
  apply atMostMisuse_ite _ (Or.inl hs)
  apply atMostMisuse_onRecorder s _ _ hs
  intro s hs
  apply atMostMisuse_ite _ (Or.inl hs)
  apply atMostMisuse_onRecorder s _ _ hs
  intro s hs
  exact atMostMisuse_ite _ (Or.inl hs) (Or.inl hs)

/-- With the lock in order, an exception can only come from the recorder or from the path. -/
theorem crash_next (targetDir : String) (s : CameraFragment) (a : Camera.Action)
    (hlock : s.permits + holders s = 1) (hrelease : ReleasesOnce s a) (hopens : OpensFreely s a)
    (ha : Camera.enabled s a) :
    (Camera.next targetDir s a).crash = none ∨
      (Camera.next targetDir s a).crash = some .recorderMisuse ∨
      (Camera.next targetDir s a).crash = some .nullPath := by
  obtain ⟨hcrash, hready⟩ := ha
  cases a with
  | openCamera outcome =>
    rcases hopens with rfl | ⟨rfl, hawaiting⟩
    · exact Or.inl hcrash
    · have hui : s.ui = .idle := hready
      have hpermits : s.permits ≠ 0 := by
        simp only [holders, hawaiting, hui, UiThread.holders, List.length_nil] at hlock
        omega
      exact Or.inl (by simp [Camera.next, CameraFragment.openCamera, hpermits, hcrash])
  | acquireInterrupted => exact absurd hrelease id
  | onClick obdConnected textureAvailable timeStamp outcome =>
    exact (atMostMisuse_onClick s obdConnected textureAvailable targetDir timeStamp outcome
      hcrash).imp_right Or.inl
  | recordingConfigured =>
    exact (atMostMisuse_onRecorder { s with
      runnablesPosted := s.runnablesPosted - 1, mIsRecordingVideo := true } _ _ hcrash
      fun _ h => Or.inl h).imp_right Or.inl
  | roundChecks =>
    refine Or.inl ?_
    show s.roundChecks.crash = none
    unfold CameraFragment.roundChecks
    split <;> exact hcrash
  | roundAppends =>
    show s.roundAppends.crash = none ∨ s.roundAppends.crash = some .recorderMisuse ∨
      s.roundAppends.crash = some .nullPath
    unfold CameraFragment.roundAppends
    split
    · exact Or.inr (Or.inr rfl)
    · exact Or.inl hcrash
  | _ => exact Or.inl hcrash

/-- The recorder, the readings file and the lock are in order, and nothing has gone wrong. -/
structure Smooth (targetDir : String) (s : CameraFragment) : Prop where
  order : InOrder s
  bound : Bound targetDir s
  lock : s.permits + holders s = 1
  noCrash : s.crash = none

/-- **One step.** -/
theorem Smooth.next {targetDir : String} {s : CameraFragment} (h : Smooth targetDir s)
    (a : Camera.Action) (hok : Undisturbed s a) (ha : Camera.enabled s a) :
    Smooth targetDir (Camera.next targetDir s a) := by
  have horder := inOrder_next targetDir s a h.order hok.order ha
  have hbound := bound_next targetDir s a h.bound hok.binds ha
  refine ⟨horder, hbound, (lock_next targetDir s a h.lock ha.2).2 hok.lock, ?_⟩
  rcases crash_next targetDir s a h.lock hok.lock hok.opens ha with hnone | hmisuse | hnull
  · exact hnone
  · exact absurd hmisuse horder.noMisuse
  · exact absurd hnull hbound.notNull

theorem smooth_reachUnder (targetDir : String) (s : CameraFragment)
    (h : (Camera.app targetDir).ReachUnder Undisturbed s) : Smooth targetDir s := by
  apply h.invariant
  · refine ⟨⟨?_, ⟨.resting, rfl, rfl, ?_, ?_⟩, ?_⟩, ⟨⟨.resting, rfl, rfl, rfl, Or.inl rfl, rfl⟩,
      ?_, ?_⟩, rfl, rfl⟩ <;> simp [Camera.app, guarded, NearCamera]
  · intro s a t hs hok hstep
    obtain ⟨ha, rfl⟩ := (guarded_step _ _ _ _).1 hstep
    exact hs.next a hok ha

/-! ## Undisturbed runs -/

instance (s : CameraFragment) : Decidable (NearCamera s) :=
  inferInstanceAs (Decidable (_ ∨ _))

instance (s : CameraFragment) (outcome : OpenOutcome) : Decidable (HandsOver s outcome) :=
  inferInstanceAs (Decidable (_ ∨ _))

instance (s : CameraFragment) : (a : Camera.Action) → Decidable (KeepsOrder s a)
  | .onClick _ _ _ _ => inferInstanceAs (Decidable (_ → _ ∧ _))
  | .onConfigureFailed => inferInstanceAs (Decidable (¬ _))
  | .openCamera _ => inferInstanceAs (Decidable (_ → _ ∧ _))
  | .closeCamera => inferInstanceAs (Decidable (_ ∧ _))
  | .onOpened _ | .onDisconnected _ | .onError _ | .onPause | .acquired | .acquireInterrupted
  | .backgroundStopped | .onConfigured | .recordingConfigured | .roundChecks | .roundAppends =>
    instDecidableTrue

instance (s : CameraFragment) : (a : Camera.Action) → Decidable (ReleasesOnce s a)
  | .openCamera outcome => inferInstanceAs (Decidable (HandsOver s outcome))
  | .onDisconnected d | .onError d => inferInstanceAs (Decidable (d ∈ s.awaiting))
  | .acquireInterrupted => instDecidableFalse
  | .onOpened _ | .onPause | .acquired | .closeCamera | .backgroundStopped | .onClick _ _ _ _
  | .onConfigured | .recordingConfigured | .onConfigureFailed | .roundChecks | .roundAppends =>
    instDecidableTrue

instance (s : CameraFragment) : (a : Camera.Action) → Decidable (OpensFreely s a)
  | .openCamera _ => inferInstanceAs (Decidable (_ ∨ _ ∧ _))
  | .onOpened _ | .onDisconnected _ | .onError _ | .onPause | .acquired | .acquireInterrupted
  | .closeCamera | .backgroundStopped | .onClick _ _ _ _ | .onConfigured | .recordingConfigured
  | .onConfigureFailed | .roundChecks | .roundAppends => instDecidableTrue

instance (s : CameraFragment) (a : Camera.Action) : Decidable (Undisturbed s a) :=
  decidable_of_iff
    (BindsReadings s a ∧ KeepsOrder s a ∧ ReleasesOnce s a ∧ OpensFreely s a)
    ⟨fun ⟨hbinds, horder, hlock, hopens⟩ => ⟨hbinds, horder, hlock, hopens⟩,
      fun h => ⟨h.binds, h.order, h.lock, h.opens⟩⟩

/-- A round that waits appends to the readings file of the recording. -/
theorem Smooth.append {targetDir : String} {files : FileSystem} {s : AppState}
    (h : Smooth targetDir s.camera) (haccounts : Accounted targetDir files s) {t : ThreadId}
    {r : Round} (hr : s.pending t = some r) :
    ∃ timeStamp u, (app targetDir files).step s (.roundAppends t) = some u ∧
      u.appends = s.appends ++
        [⟨r, readingsFile targetDir timeStamp, some (videoFile targetDir timeStamp)⟩] := by
  have henabled : enabled s (.roundAppends t) :=
    (haccounts.roundAppends_enabled t).2 ⟨h.noCrash, Option.ne_none_iff_exists'.2 ⟨r, hr⟩⟩
  obtain ⟨p, hp⟩ := h.bound.phase
  obtain ⟨-, -, timeStamp, hrecorder, hpath⟩ := boundIn_recording hp henabled.1.2
  refine ⟨timeStamp, _, (app_step targetDir files s _ _).2 ⟨henabled, rfl⟩, ?_⟩
  simp [App.next, hr, AppState.roundAppends, hpath, recordedVideo, hrecorder]

/-- **No misuse.**  In every undisturbed run none of the followed exceptions ends the process
(those of the recorder's states, the lock, the list of cameras and the readings path), the
recorder is used in order, the lock stays one, and every round that has passed its null check
can append its line to the readings file of the video that is recorded. -/
theorem undisturbed_runs (targetDir : String) (files : FileSystem) (s : AppState)
    (h : (app targetDir files).ReachUnder ((cameraPart targetDir files).lift Undisturbed) s) :
    s.camera.crash = none ∧ RecorderInOrder s.camera ∧ IsLock s.camera ∧
      ∀ t r, s.pending t = some r →
        ∃ timeStamp u, (app targetDir files).step s (.roundAppends t) = some u ∧
          u.appends = s.appends ++
            [⟨r, readingsFile targetDir timeStamp, some (videoFile targetDir timeStamp)⟩] := by
  have hsmooth : Smooth targetDir s.camera :=
    (cameraPart targetDir files).invariant (smooth_reachUnder targetDir) h
  have haccounts := accounted_reachable targetDir files s h.reachable
  exact ⟨hsmooth.noCrash, recorderInOrder_of_inOrder s.camera hsmooth.order,
    (isLock_iff s.camera).2 hsmooth.lock, fun _ _ hr => hsmooth.append haccounts hr⟩

/-- A recording with one round. -/
theorem undisturbed_runs_oneRound : ∃ s : AppState, s.appends.length = 1 ∧
    s.camera.crash = none ∧ RecorderInOrder s.camera ∧ IsLock s.camera :=
  have hrun := undisturbed_runs "/Movies" ⟨fun _ => none, fun _ => true⟩ _
    (reachUnder_of_execUnder (oneRound "20180611_101500" "1") rfl)
  ⟨_, rfl, hrun.1, hrun.2.1, hrun.2.2.1⟩

end ProjektMagisterski.App
