import ProjektMagisterski.Camera.Recording

/-!
# The readings file of a recording

`getVideoFilePath` sets the path before there is a session, and only
`stopRecordingVideo` clears it.  Sampling rounds check it and read it again.

* `pausedRecording_keeps_path`: `onPause` during a recording;
* `readingsFile_exact`: the path belongs to the running recording exactly as
  long as starts succeed, the recorder is not released or replaced under a
  recording, and no round checks the path during a start or outlives a stop.
-/

namespace ProjektMagisterski.Camera

open CameraFragment Lib.Machine

/-- The recorder writes the video of that time, and the rounds its readings file. -/
def RecordsWith (targetDir : String) (s : CameraFragment) (timeStamp : String) : Prop :=
  s.mMediaRecorder = some (.started (videoFile targetDir timeStamp)) ∧
    s.mReadingsAbsolutePath = some (readingsFile targetDir timeStamp)

/-- With no start pending there is a path exactly while a video is recorded, and it is
the one of that video; a round that has checked it appends to that file. -/
def ReadingsBound (targetDir : String) (s : CameraFragment) : Prop :=
  (startsPending s = 0 →
    (s.mReadingsAbsolutePath ≠ none ↔ ∃ file, s.mMediaRecorder = some (.started file)) ∧
      (s.mReadingsAbsolutePath ≠ none → ∃ timeStamp, RecordsWith targetDir s timeStamp)) ∧
    (0 < s.checkedRounds → ∃ timeStamp, RecordsWith targetDir s timeStamp) ∧
    s.crash ≠ some .nullPath

/-- Starts succeed, recordings end by a click, and rounds do not overlap with either. -/
def BindsReadings (s : CameraFragment) : Action → Prop
  | .onClick obdConnected textureAvailable _ outcome =>
    (s.mIsRecordingVideo = true → s.checkedRounds = 0) ∧
      (Starts s obdConnected textureAvailable → s.mMediaRecorder = some .initial →
        outcome = .requested)
  | .onConfigureFailed => False
  | .openCamera outcome =>
    CreatesRecorder s outcome → s.mIsRecordingVideo = false ∧ startsPending s = 0
  | .closeCamera => s.mIsRecordingVideo = false ∧ startsPending s = 0
  | .roundChecks => startsPending s = 0
  | _ => True

/-- The fragment is paused during a recording. -/
theorem pausedRecording_keeps_path :
    ∃ s, (app "/Movies").Reachable s ∧ ¬ ReadingsBound "/Movies" s := by
  refine ⟨_, reachable_of_exec
    [.openCamera .requested, .onOpened 0, .onClick true true "20170101_120000" .requested,
      .onConfigured, .recordingConfigured, .onPause, .acquired, .closeCamera] rfl, ?_⟩
  intro h
  obtain ⟨file, hfile⟩ := (h.1 rfl).1.1 (by decide)
  cases hfile

/-! ## The invariant -/

/-- The recorder and the path in each phase. -/
def BoundIn (targetDir : String) (s : CameraFragment) : Phase → Prop
  | .resting =>
    startsPending s = 0 ∧ s.mIsRecordingVideo = false ∧ s.checkedRounds = 0 ∧
      (s.mMediaRecorder = none ∨ s.mMediaRecorder = some .initial) ∧
      s.mReadingsAbsolutePath = none
  | .starting =>
    startsPending s = 1 ∧ s.mIsRecordingVideo = false ∧ s.checkedRounds = 0 ∧
      ∃ timeStamp, s.mMediaRecorder = some (.prepared (videoFile targetDir timeStamp)) ∧
        s.mReadingsAbsolutePath = some (readingsFile targetDir timeStamp)
  | .recording =>
    startsPending s = 0 ∧ s.mIsRecordingVideo = true ∧
      ∃ timeStamp, RecordsWith targetDir s timeStamp

structure Bound (targetDir : String) (s : CameraFragment) : Prop where
  phase : ∃ p, BoundIn targetDir s p
  notNull : s.crash ≠ some .nullPath
  stopping : s.ui = .stopping → s.sessionsRequested = 0

variable {targetDir : String} {s t : CameraFragment} {p : Phase}

theorem boundIn_keeps (h : BoundIn targetDir s p) (hk : KeepsRecording s t) :
    BoundIn targetDir t p := by
  have hpending : startsPending t = startsPending s := by
    simp [startsPending, hk.sessionsRequested, hk.runnablesPosted]
  cases p <;>
    simpa only [BoundIn, RecordsWith, hpending, hk.mIsRecordingVideo, hk.mMediaRecorder,
      hk.mReadingsAbsolutePath, hk.checkedRounds] using h

theorem boundIn_starting (h : BoundIn targetDir s p)
    (hpending : 0 < s.sessionsRequested ∨ 0 < s.runnablesPosted) :
    BoundIn targetDir s .starting := by
  cases p with
  | starting => exact h
  | resting | recording =>
    have h0 := h.1
    have hpos := startsPending_pos hpending
    omega

/-- A round that has checked the path is only there during a recording. -/
theorem boundIn_recording (h : BoundIn targetDir s p) (hround : 0 < s.checkedRounds) :
    BoundIn targetDir s .recording := by
  cases p with
  | recording => exact h
  | resting | starting =>
    have h0 := h.2.2.1
    omega

theorem bound_onClick (obdConnected textureAvailable : Bool) (timeStamp : String)
    (outcome : StartOutcome) (h : Bound targetDir s) (hui : s.ui = .idle)
    (hstop : s.mIsRecordingVideo = true → s.checkedRounds = 0)
    (hstart : Starts s obdConnected textureAvailable → s.mMediaRecorder = some .initial →
      outcome = .requested) :
    Bound targetDir (s.onClick obdConnected textureAvailable targetDir timeStamp outcome) := by
  obtain ⟨p, hp⟩ := h.phase
  by_cases hstarts : Starts s obdConnected textureAvailable
  · cases p with
    | resting =>
      obtain ⟨h0, hrec, hrounds, hrecorder, hpath⟩ := hp
      obtain hnone | hfresh := hrecorder
      · rw [onClick_used hstarts (Or.inl hnone)]
        exact ⟨⟨.resting, h0, hrec, hrounds, Or.inl hnone, hpath⟩, by simp [crashed], h.stopping⟩
      · obtain rfl := hstart hstarts hfresh
        rw [onClick_fresh hstarts hfresh]
        refine ⟨⟨.starting, ?_, hrec, hrounds, timeStamp, rfl, rfl⟩, h.notNull, ?_⟩
        · simp only [startsPending, afterSetUp, getVideoFilePath, createReadingsFileName] at h0 ⊢
          omega
        · intro hstopping
          cases hui.symm.trans hstopping
    | starting =>
      obtain ⟨ts, hfile, -⟩ := hp.2.2.2
      rw [onClick_used hstarts (Or.inr ⟨_, hfile⟩)]
      exact ⟨⟨.starting, hp⟩, by simp [crashed], h.stopping⟩
    | recording => cases hstarts.1.symm.trans hp.2.1
  · by_cases hrec : s.mIsRecordingVideo = true
    · cases p with
      | recording =>
        obtain ⟨h0, -, ts, hfile, -⟩ := hp
        rw [onClick_stop hrec hfile]
        exact ⟨⟨.resting, h0, rfl, hstop hrec, Or.inr rfl, rfl⟩, h.notNull, h.stopping⟩
      | resting | starting => cases hrec.symm.trans hp.2.1
    · rw [onClick_idle (by simpa using hrec) hstarts]
      exact h

theorem bound_next (targetDir : String) (s : CameraFragment) (a : Action) (h : Bound targetDir s)
    (hok : BindsReadings s a) (ha : enabled s a) : Bound targetDir (next targetDir s a) := by
  obtain ⟨p, hp⟩ := h.phase
  have hkeeps : IsCameraStep s a → Bound targetDir (next targetDir s a) := by
    intro hcamera
    have hk := keepsRecording_next targetDir s a ha hcamera
    refine ⟨⟨p, boundIn_keeps hp hk⟩, hk.crash.2, ?_⟩
    intro hstopping
    exact hk.sessionsRequested.trans (h.stopping (hk.stopping hstopping))
  cases a with
  | openCamera outcome =>
    by_cases hcreates : CreatesRecorder s outcome
    · obtain ⟨hrec, h0⟩ := hok hcreates
      obtain ⟨awaiting, nextDevice, hopen⟩ := openCamera_creates s outcome hcreates
      simp only [next, hopen]
      cases p with
      | resting =>
        obtain ⟨-, -, hrounds, -, hpath⟩ := hp
        exact ⟨⟨.resting, h0, hrec, hrounds, Or.inr rfl, hpath⟩, h.notNull, h.stopping⟩
      | starting => cases h0.symm.trans hp.1
      | recording => cases hrec.symm.trans hp.2.1
    · exact hkeeps hcreates
  | onClick obdConnected textureAvailable timeStamp outcome =>
    exact bound_onClick _ _ timeStamp outcome h ha.2 hok.1 hok.2
  | closeCamera =>
    obtain ⟨hrec, h0⟩ := hok
    cases p with
    | resting =>
      obtain ⟨-, -, hrounds, -, hpath⟩ := hp
      exact ⟨⟨.resting, h0, hrec, hrounds, Or.inl rfl, hpath⟩, h.notNull,
        fun _ => sessionsRequested_eq_zero h0⟩
    | starting => cases h0.symm.trans hp.1
    | recording => cases hrec.symm.trans hp.2.1
  | backgroundStopped =>
    rw [backgroundStopped_eq targetDir (h.stopping ha.2)]
    exact ⟨⟨p, hp⟩, h.notNull, fun he => by cases he⟩
  | onConfigured =>
    obtain ⟨hpending, hrest⟩ := boundIn_starting hp (Or.inl ha.2)
    refine ⟨⟨.starting, ?_, hrest⟩, h.notNull, ?_⟩
    · exact (startsPending_onConfigured targetDir ha.2).trans hpending
    · intro hstopping
      simp [next, h.stopping hstopping]
  | recordingConfigured =>
    obtain ⟨hpending, -, -, ts, hfile, hpath⟩ := boundIn_starting hp (Or.inr ha.2.2)
    simp only [next, recordingConfigured_prepared hfile]
    refine ⟨⟨.recording, ?_, rfl, ts, rfl, hpath⟩, h.notNull, h.stopping⟩
    have hpos := ha.2.2
    simp only [startsPending] at hpending ⊢
    omega
  | onConfigureFailed => exact absurd hok id
  | roundChecks =>
    simp only [next, CameraFragment.roundChecks]
    split
    · exact h
    · rename_i hpath
      cases p with
      | resting => exact absurd hp.2.2.2.2 hpath
      | starting => cases (show startsPending s = 0 from hok).symm.trans hp.1
      | recording => exact ⟨⟨.recording, hp⟩, h.notNull, h.stopping⟩
  | roundAppends =>
    have hrecording := boundIn_recording hp ha.2
    obtain ⟨ts, hrecords⟩ := hrecording.2.2
    have hpath : s.mReadingsAbsolutePath ≠ none := by simp [hrecords.2]
    simp only [next, CameraFragment.roundAppends, if_neg hpath]
    exact ⟨⟨.recording, hrecording⟩, h.notNull, h.stopping⟩
  | _ => exact hkeeps trivial

theorem readingsBound_of_bound (targetDir : String) (s : CameraFragment) (h : Bound targetDir s) :
    ReadingsBound targetDir s := by
  obtain ⟨p, hp⟩ := h.phase
  refine ⟨?_, fun hround => (boundIn_recording hp hround).2.2, h.notNull⟩
  intro h0
  cases p with
  | resting =>
    obtain ⟨-, -, -, hrecorder, hpath⟩ := hp
    obtain hr | hr := hrecorder <;> simp [hr, hpath]
  | starting => cases h0.symm.trans hp.1
  | recording =>
    obtain ⟨-, -, ts, hrecords⟩ := hp
    exact ⟨by simp [hrecords.1, hrecords.2], fun _ => ⟨ts, hrecords⟩⟩

/-! ## Loose paths -/

/-- A path without a running recording. -/
theorem loose_of_path (hpending : startsPending s = 0) (hpath : s.mReadingsAbsolutePath ≠ none)
    (hr : ∀ file, s.mMediaRecorder ≠ some (.started file)) : ¬ ReadingsBound targetDir s := by
  intro hbound
  obtain ⟨file, hfile⟩ := (hbound.1 hpending).1.1 hpath
  exact hr file hfile

theorem bindsReadings_of_finishesStart (s : CameraFragment) (a : Action)
    (ha : FinishesStart s a) : BindsReadings s a := by
  cases a <;> first | exact trivial | exact ha.elim

/-- A pending start that has lost its recorder keeps its path to the end. -/
theorem loose_of_pending (hcrash : s.crash = none) (hpending : startsPending s = 1)
    (hui : s.ui = .idle ∨ s.ui = .stopping)
    (hr : s.mMediaRecorder = none ∨ s.mMediaRecorder = some .initial)
    (hpath : s.mReadingsAbsolutePath ≠ none) :
    ∃ u, (app targetDir).Steps BindsReadings s u ∧ ¬ ReadingsBound targetDir u := by
  obtain ⟨u, hsteps, -, hru, hpu, hlt⟩ :=
    misuse_of_pending targetDir s hcrash (by omega) hui hr
  refine ⟨u, hsteps.mono bindsReadings_of_finishesStart,
    loose_of_path (by omega) (by rwa [hpu]) ?_⟩
  intro file hfile
  rw [hru] at hfile
  obtain hr | hr := hr <;> cases hr.symm.trans hfile

/-- The click stops a recording under a round, or fails to start one. -/
theorem loose_onClick (obdConnected textureAvailable : Bool) (timeStamp : String)
    (outcome : StartOutcome) (h : Bound targetDir s)
    (hok : ¬ ((s.mIsRecordingVideo = true → s.checkedRounds = 0) ∧
      (Starts s obdConnected textureAvailable → s.mMediaRecorder = some .initial →
        outcome = .requested))) :
    ¬ ReadingsBound targetDir
      (s.onClick obdConnected textureAvailable targetDir timeStamp outcome) := by
  obtain ⟨p, hp⟩ := h.phase
  by_cases hstop : s.mIsRecordingVideo = true → s.checkedRounds = 0
  · obtain ⟨hstarts, hstart⟩ := Classical.not_imp.1 fun hstart => hok ⟨hstop, hstart⟩
    obtain ⟨hfresh, hfails⟩ := Classical.not_imp.1 hstart
    cases p with
    | resting =>
      rw [onClick_fresh hstarts hfresh]
      cases outcome with
      | requested => exact absurd rfl hfails
      | _ => exact loose_of_path hp.1 (by simp [afterSetUp, getVideoFilePath,
          createReadingsFileName]) (by simp [afterSetUp])
    | starting =>
      obtain ⟨ts, hfile, -⟩ := hp.2.2.2
      cases hfresh.symm.trans hfile
    | recording => cases hstarts.1.symm.trans hp.2.1
  · obtain ⟨hrec, hrounds⟩ := Classical.not_imp.1 hstop
    obtain ⟨-, -, ts, hfile, -⟩ := boundIn_recording hp (by omega)
    rw [onClick_stop hrec hfile]
    intro hbound
    obtain ⟨ts', -, hpath⟩ := hbound.2.1 (by simp only; omega)
    cases hpath

/-- **The readings file.** -/
theorem readingsFile_exact (targetDir : String) :
    (app targetDir).Exact BindsReadings (ReadingsBound targetDir) := by
  refine exact_guarded (Bound targetDir) ?_ (bound_next targetDir)
    (readingsBound_of_bound targetDir) ?_
  · exact ⟨⟨.resting, rfl, rfl, rfl, Or.inl rfl, rfl⟩, by simp, by simp⟩
  intro s a h hok ha
  obtain ⟨p, hp⟩ := h.phase
  cases a with
  | onClick obdConnected textureAvailable timeStamp outcome =>
    exact ⟨_, Steps.refl _, loose_onClick _ _ timeStamp outcome h hok⟩
  | onConfigureFailed =>
    obtain ⟨hpending, -, -, ts, hfile, hpath⟩ := boundIn_starting hp (Or.inl ha.2)
    have hone := startsPending_onConfigureFailed targetDir ha.2
    refine ⟨_, Steps.refl _, loose_of_path ?_ (by simp [next, hpath]) (by simp [next, hfile])⟩
    omega
  | openCamera outcome =>
    obtain ⟨hcreates, huse⟩ := Classical.not_imp.1 hok
    obtain ⟨awaiting, nextDevice, hopen⟩ := openCamera_creates s outcome hcreates
    simp only [next, hopen]
    cases p with
    | resting => exact absurd ⟨hp.2.1, hp.1⟩ huse
    | starting =>
      obtain ⟨hpending, -, -, ts, -, hpath⟩ := hp
      exact loose_of_pending ha.1 hpending (Or.inl ha.2) (Or.inr rfl) (by simp [hpath])
    | recording =>
      obtain ⟨h0, -, ts, -, hpath⟩ := hp
      exact ⟨_, Steps.refl _, loose_of_path h0 (by simp [hpath]) (by simp)⟩
  | closeCamera =>
    cases p with
    | resting => exact absurd ⟨hp.2.1, hp.1⟩ hok
    | starting =>
      obtain ⟨hpending, -, -, ts, -, hpath⟩ := hp
      exact loose_of_pending ha.1 hpending (Or.inr rfl) (Or.inl rfl)
        (by simp [next, closeCamera, hpath])
    | recording =>
      obtain ⟨h0, -, ts, -, hpath⟩ := hp
      exact ⟨_, Steps.refl _, loose_of_path h0 (by simp [next, closeCamera, hpath])
        (by simp [next, closeCamera])⟩
  | roundChecks =>
    cases p with
    | resting => exact absurd hp.1 hok
    | starting =>
      -- the round goes on with the path of a video that is not recorded yet
      obtain ⟨-, -, -, ts, hfile, hpath⟩ := hp
      refine ⟨_, Steps.refl _, fun hbound => ?_⟩
      obtain ⟨ts', hstarted, -⟩ := hbound.2.1 (by simp [next, CameraFragment.roundChecks, hpath])
      simp [next, CameraFragment.roundChecks, hpath, hfile] at hstarted
    | recording => exact absurd hp.1 hok
  | _ => exact absurd trivial hok

end ProjektMagisterski.Camera
