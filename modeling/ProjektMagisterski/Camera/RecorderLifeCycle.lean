import ProjektMagisterski.Camera.Recording

/-!
# The recorder's life cycle

A recorder is set up by the click and started by a callback, and the camera may
be closed, reopened or lost in between.

* `secondClick_misuses`: two clicks before the session is configured;
* `recorderLifeCycle_exact`: the recorder is used in order exactly as long as no
  recording is started while another start is pending, no start fails, and the
  camera is not closed or reopened while a recording is pending or running.
-/

namespace ProjektMagisterski.Camera

open CameraFragment Lib.Machine

/-- No call has been out of order, the flag tells whether the recorder is started, and
a click with no start pending finds a fresh recorder when there is a camera. -/
def RecorderInOrder (s : CameraFragment) : Prop :=
  s.crash ≠ some .recorderMisuse ∧
    (s.mIsRecordingVideo = true ↔ ∃ file, s.mMediaRecorder = some (.started file)) ∧
    (s.mIsRecordingVideo = false → startsPending s = 0 → NearCamera s →
      s.mMediaRecorder = some .initial)

/-- Starts follow each other and succeed, and the recorder is only released or replaced
when it is not in use. -/
def KeepsOrder (s : CameraFragment) : Action → Prop
  | .onClick obdConnected textureAvailable _ outcome =>
    Starts s obdConnected textureAvailable → startsPending s = 0 ∧ outcome = .requested
  | .onConfigureFailed => ¬ NearCamera s
  | .openCamera outcome =>
    CreatesRecorder s outcome → s.mIsRecordingVideo = false ∧ startsPending s = 0
  | .closeCamera => s.mIsRecordingVideo = false ∧ startsPending s = 0 ∧ s.awaiting = []
  | _ => True

/-- The second click finds the recorder prepared by the first. -/
theorem secondClick_misuses : ∃ s, (app "/Movies").Reachable s ∧ ¬ RecorderInOrder s := by
  refine ⟨_, reachable_of_exec
    [.openCamera .requested, .onOpened 0, .onClick true true "20170101_120000" .requested,
      .onClick true true "20170101_120001" .requested] rfl, ?_⟩
  intro h
  exact h.1 rfl

/-! ## The invariant -/

/-- The recorder in each phase. -/
def InPhase (s : CameraFragment) : Phase → Prop
  | .resting =>
    startsPending s = 0 ∧ s.mIsRecordingVideo = false ∧
      (∀ file, s.mMediaRecorder ≠ some (.started file)) ∧
      (NearCamera s → s.mMediaRecorder = some .initial)
  | .starting =>
    startsPending s = 1 ∧ s.mIsRecordingVideo = false ∧
      ∃ file, s.mMediaRecorder = some (.prepared file)
  | .recording =>
    startsPending s = 0 ∧ s.mIsRecordingVideo = true ∧
      ∃ file, s.mMediaRecorder = some (.started file)

structure InOrder (s : CameraFragment) : Prop where
  noMisuse : s.crash ≠ some .recorderMisuse
  phase : ∃ p, InPhase s p
  stopping : s.ui = .stopping → s.sessionsRequested = 0

theorem inPhase_keeps {s t : CameraFragment} {p : Phase} (h : InPhase s p)
    (hk : KeepsRecording s t) : InPhase t p := by
  have hpending : startsPending t = startsPending s := by
    simp [startsPending, hk.sessionsRequested, hk.runnablesPosted]
  cases p with
  | resting =>
    obtain ⟨h0, hrec, hstarted, hfresh⟩ := h
    refine ⟨hpending.trans h0, hk.mIsRecordingVideo.trans hrec, ?_, ?_⟩
    · rw [hk.mMediaRecorder]
      exact hstarted
    · intro hnear
      exact hk.mMediaRecorder.trans (hfresh (hk.nearCamera hnear))
  | starting =>
    obtain ⟨h1, hrec, file, hfile⟩ := h
    exact ⟨hpending.trans h1, hk.mIsRecordingVideo.trans hrec, file,
      hk.mMediaRecorder.trans hfile⟩
  | recording =>
    obtain ⟨h0, hrec, file, hfile⟩ := h
    exact ⟨hpending.trans h0, hk.mIsRecordingVideo.trans hrec, file,
      hk.mMediaRecorder.trans hfile⟩

theorem starting_of_pending {s : CameraFragment} {p : Phase} (h : InPhase s p)
    (hpending : 0 < s.sessionsRequested ∨ 0 < s.runnablesPosted) : InPhase s .starting := by
  cases p with
  | starting => exact h
  | resting | recording =>
    have h0 := h.1
    have hpos := startsPending_pos hpending
    omega

theorem inOrder_onClick (targetDir : String) (s : CameraFragment)
    (obdConnected textureAvailable : Bool) (timeStamp : String) (outcome : StartOutcome)
    (h : InOrder s) (hui : s.ui = .idle)
    (hok : Starts s obdConnected textureAvailable → startsPending s = 0 ∧ outcome = .requested) :
    InOrder (s.onClick obdConnected textureAvailable targetDir timeStamp outcome) := by
  obtain ⟨p, hp⟩ := h.phase
  by_cases hstarts : Starts s obdConnected textureAvailable
  · obtain ⟨h0, rfl⟩ := hok hstarts
    cases p with
    | resting =>
      have hfresh := hp.2.2.2 (Or.inl hstarts.2.2.1)
      rw [onClick_fresh hstarts hfresh]
      refine ⟨h.noMisuse, ⟨.starting, ?_, hstarts.1, _, rfl⟩, ?_⟩
      · simp only [startsPending, afterSetUp, getVideoFilePath, createReadingsFileName] at h0 ⊢
        omega
      · intro hstopping
        cases hui.symm.trans hstopping
    | starting =>
      have h1 := hp.1
      omega
    | recording => cases hstarts.1.symm.trans hp.2.1
  · by_cases hrec : s.mIsRecordingVideo = true
    · cases p with
      | recording =>
        obtain ⟨h0, -, file, hfile⟩ := hp
        rw [onClick_stop hrec hfile]
        exact ⟨h.noMisuse, ⟨.resting, h0, rfl, by simp, fun _ => rfl⟩, h.stopping⟩
      | resting => cases hrec.symm.trans hp.2.1
      | starting => cases hrec.symm.trans hp.2.1
    · rw [onClick_idle (by simpa using hrec) hstarts]
      exact h

theorem inOrder_next (targetDir : String) (s : CameraFragment) (a : Action) (h : InOrder s)
    (hok : KeepsOrder s a) (ha : enabled s a) : InOrder (next targetDir s a) := by
  obtain ⟨p, hp⟩ := h.phase
  have hkeeps : IsCameraStep s a → InOrder (next targetDir s a) := by
    intro hcamera
    have hk := keepsRecording_next targetDir s a ha hcamera
    refine ⟨hk.crash.1, ⟨p, inPhase_keeps hp hk⟩, ?_⟩
    intro hstopping
    exact hk.sessionsRequested.trans (h.stopping (hk.stopping hstopping))
  cases a with
  | openCamera outcome =>
    by_cases hcreates : CreatesRecorder s outcome
    · obtain ⟨hrec, h0⟩ := hok hcreates
      obtain ⟨awaiting, nextDevice, hopen⟩ := openCamera_creates s outcome hcreates
      simp only [next, hopen]
      exact ⟨h.noMisuse, ⟨.resting, h0, hrec, by simp, fun _ => rfl⟩, h.stopping⟩
    · exact hkeeps hcreates
  | onClick obdConnected textureAvailable timeStamp outcome =>
    exact inOrder_onClick targetDir s _ _ timeStamp outcome h ha.2 hok
  | closeCamera =>
    obtain ⟨hrec, h0, hawaiting⟩ := hok
    refine ⟨h.noMisuse, ⟨.resting, h0, hrec, by simp [next, closeCamera], ?_⟩, ?_⟩
    · rintro (hdevice | hne)
      · exact absurd rfl hdevice
      · exact absurd hawaiting hne
    · intro _
      exact sessionsRequested_eq_zero h0
  | backgroundStopped =>
    rw [backgroundStopped_eq targetDir (h.stopping ha.2)]
    exact ⟨h.noMisuse, ⟨p, hp⟩, fun he => by cases he⟩
  | onConfigured =>
    obtain ⟨hpending, hrec, hfile⟩ := starting_of_pending hp (Or.inl ha.2)
    refine ⟨h.noMisuse, ⟨.starting, ?_, hrec, hfile⟩, ?_⟩
    · exact (startsPending_onConfigured targetDir ha.2).trans hpending
    · intro hstopping
      simp [next, h.stopping hstopping]
  | recordingConfigured =>
    obtain ⟨hpending, -, file, hfile⟩ := starting_of_pending hp (Or.inr ha.2.2)
    simp only [next, recordingConfigured_prepared hfile]
    refine ⟨h.noMisuse, ⟨.recording, ?_, rfl, file, rfl⟩, h.stopping⟩
    have hpos := ha.2.2
    simp only [startsPending] at hpending ⊢
    omega
  | onConfigureFailed =>
    obtain ⟨hpending, hrec, file, hfile⟩ := starting_of_pending hp (Or.inl ha.2)
    refine ⟨h.noMisuse, ⟨.resting, ?_, hrec, ?_, fun hnear => absurd hnear hok⟩, ?_⟩
    · have hone := startsPending_onConfigureFailed targetDir ha.2
      omega
    · intro f hf
      cases hfile.symm.trans hf
    · intro hstopping
      simp [next, h.stopping hstopping]
  | roundChecks =>
    simp only [next, CameraFragment.roundChecks]
    split
    · exact h
    · exact ⟨h.noMisuse, ⟨p, hp⟩, h.stopping⟩
  | roundAppends =>
    simp only [next, CameraFragment.roundAppends]
    split
    · exact ⟨by simp [crashed], ⟨p, hp⟩, h.stopping⟩
    · exact ⟨h.noMisuse, ⟨p, hp⟩, h.stopping⟩
  | _ => exact hkeeps trivial

theorem recorderInOrder_of_inOrder (s : CameraFragment) (h : InOrder s) : RecorderInOrder s := by
  obtain ⟨p, hp⟩ := h.phase
  refine ⟨h.noMisuse, ?_⟩
  cases p with
  | resting =>
    obtain ⟨h0, hrec, hstarted, hfresh⟩ := hp
    refine ⟨?_, fun _ _ => hfresh⟩
    simp [hrec, hstarted]
  | starting =>
    obtain ⟨h1, hrec, file, hfile⟩ := hp
    refine ⟨by simp [hrec, hfile], fun _ h0 => ?_⟩
    omega
  | recording =>
    obtain ⟨h0, hrec, file, hfile⟩ := hp
    simp [hrec, hfile]

/-! ## Out of order -/

theorem keepsOrder_of_finishesStart (s : CameraFragment) (a : Action) (ha : FinishesStart s a) :
    KeepsOrder s a := by
  cases a <;> first | exact trivial | exact ha.elim

theorem outOfOrder_of_pending (targetDir : String) (s : CameraFragment) (hcrash : s.crash = none)
    (hpending : 0 < startsPending s) (hui : s.ui = .idle ∨ s.ui = .stopping)
    (hr : s.mMediaRecorder = none ∨ s.mMediaRecorder = some .initial) :
    ∃ u, (app targetDir).Steps KeepsOrder s u ∧ ¬ RecorderInOrder u := by
  obtain ⟨u, hsteps, hmisuse, -⟩ := misuse_of_pending targetDir s hcrash hpending hui hr
  exact ⟨u, hsteps.mono keepsOrder_of_finishesStart, fun horder => horder.1 hmisuse⟩

/-- A start that fails leaves a used recorder, and one that finds the recorder
prepared misuses it. -/
theorem outOfOrder_onClick (targetDir : String) (s : CameraFragment)
    (obdConnected textureAvailable : Bool) (timeStamp : String) (outcome : StartOutcome)
    (h : InOrder s)
    (hok : ¬ (Starts s obdConnected textureAvailable →
      startsPending s = 0 ∧ outcome = .requested)) :
    ¬ RecorderInOrder (s.onClick obdConnected textureAvailable targetDir timeStamp outcome) := by
  obtain ⟨hstarts, hfails⟩ := Classical.not_imp.1 hok
  obtain ⟨p, hp⟩ := h.phase
  cases p with
  | resting =>
    have hfresh := hp.2.2.2 (Or.inl hstarts.2.2.1)
    rw [onClick_fresh hstarts hfresh]
    intro horder
    have hleft := horder.2.2
    cases outcome with
    | requested => exact hfails ⟨hp.1, rfl⟩
    | _ => cases hleft hstarts.1 hp.1 (Or.inl hstarts.2.2.1)
  | starting =>
    rw [onClick_used hstarts (Or.inr hp.2.2)]
    exact fun horder => horder.1 rfl
  | recording => cases hstarts.1.symm.trans hp.2.1

/-- **The recorder's life cycle.** -/
theorem recorderLifeCycle_exact (targetDir : String) :
    (app targetDir).Exact KeepsOrder RecorderInOrder := by
  refine exact_guarded InOrder ?_ (inOrder_next targetDir) recorderInOrder_of_inOrder ?_
  · exact ⟨by simp, ⟨.resting, by simp [InPhase, startsPending, NearCamera]⟩, by simp⟩
  intro s a h hok ha
  obtain ⟨p, hp⟩ := h.phase
  cases a with
  | onClick obdConnected textureAvailable timeStamp outcome =>
    exact ⟨_, Steps.refl _, outOfOrder_onClick targetDir s _ _ timeStamp outcome h hok⟩
  | onConfigureFailed =>
    refine ⟨_, Steps.refl _, fun horder => ?_⟩
    obtain ⟨hpending, hrec, file, hfile⟩ := starting_of_pending hp (Or.inl ha.2)
    have hnone : startsPending (next targetDir s .onConfigureFailed) = 0 := by
      have hone := startsPending_onConfigureFailed targetDir ha.2
      omega
    cases hfile.symm.trans (horder.2.2 hrec hnone (not_not.1 hok))
  | openCamera outcome =>
    obtain ⟨hcreates, huse⟩ := Classical.not_imp.1 hok
    obtain ⟨awaiting, nextDevice, hopen⟩ := openCamera_creates s outcome hcreates
    simp only [next, hopen]
    cases p with
    | resting => exact absurd ⟨hp.2.1, hp.1⟩ huse
    | starting =>
      refine outOfOrder_of_pending targetDir _ ha.1 ?_ (Or.inl ha.2) (Or.inr rfl)
      exact Nat.lt_of_lt_of_eq Nat.zero_lt_one hp.1.symm
    | recording =>
      refine ⟨_, Steps.refl _, fun horder => ?_⟩
      obtain ⟨file, hfile⟩ := horder.2.1.1 hp.2.1
      cases hfile
  | closeCamera =>
    cases p with
    | resting =>
      -- an open awaits its callback, and its recorder is gone
      refine ⟨_, Steps.refl _, fun horder => ?_⟩
      have hawaiting : s.awaiting ≠ [] := fun hnil => hok ⟨hp.2.1, hp.1, hnil⟩
      cases horder.2.2 hp.2.1 hp.1 (Or.inr hawaiting)
    | starting =>
      refine outOfOrder_of_pending targetDir _ ha.1 ?_ (Or.inr rfl) (Or.inl rfl)
      exact Nat.lt_of_lt_of_eq Nat.zero_lt_one hp.1.symm
    | recording =>
      refine ⟨_, Steps.refl _, fun horder => ?_⟩
      obtain ⟨file, hfile⟩ := horder.2.1.1 hp.2.1
      cases hfile
  | _ => exact absurd trivial hok

end ProjektMagisterski.Camera
