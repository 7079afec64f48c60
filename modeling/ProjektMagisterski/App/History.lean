import ProjektMagisterski.App.Gallery
import ProjektMagisterski.Camera.OpenDevices
import ProjektMagisterski.Camera.TimeStamp
import ProjektMagisterski.Lib.Refinement

/-!
# The recordings

What the app is for is a history: recordings are started one after the other, and the
rounds that are sampled belong to the last one.  The app keeps it in the files, under
names that it makes out of the time of the start.

* `finished_steps`: in the history, a recording that is not the last one never changes;
* `keepsHistory`: the app refines the history, where no two recordings are started within
  one second;
* `history_refined`: the readings files are the history, and nothing else;
* `finished_recording`: what the player replays of a recording stays the same once
  another one has been started.
-/

namespace ProjektMagisterski.App

open Bluetooth (ThreadId)
open Camera Obd Gallery Lib Lib.Machine

/-! ## The history -/

/-- When a recording was started, and the rounds that were sampled during it. -/
structure Recording where
  start : Date
  rounds : List (ObdCommand → String) := []

inductive Event where
  | start (date : Date)
  | sample (formatted : ObdCommand → String)

namespace Event

def enabled (rs : List Recording) : Event → Prop
  | .start date => ∀ r ∈ rs, r.start ≠ date
  | .sample _ => rs ≠ []

instance (rs : List Recording) : (e : Event) → Decidable (e.enabled rs)
  | .start date => inferInstanceAs (Decidable (∀ r ∈ rs, r.start ≠ date))
  | .sample _ =>
    match rs with
    | [] => isFalse fun h => h rfl
    | _ :: _ => isTrue (List.cons_ne_nil _ _)

/-- The last recording comes first. -/
def next : List Recording → Event → List Recording
  | rs, .start date => { start := date } :: rs
  | r :: rs, .sample formatted => { r with rounds := r.rounds ++ [formatted] } :: rs
  | [], .sample _ => []

end Event

def history : Machine (List Recording) Event :=
  .guarded [] (fun rs e => e.enabled rs) Event.next

theorem history_step (rs rs' : List Recording) (e : Event) :
    history.step rs e = some rs' ↔ e.enabled rs ∧ e.next rs = rs' :=
  guarded_step _ (fun rs e => Event.enabled rs e) Event.next e

/-- Every recording has a time of its own. -/
def Distinct (rs : List Recording) : Prop := rs.Pairwise fun r r' => r.start ≠ r'.start

theorem distinct_reachable (rs : List Recording) (h : history.Reachable rs) : Distinct rs := by
  apply ReachUnder.invariant _ _ h
  · exact List.Pairwise.nil
  · intro rs e rs' hrs _ hstep
    obtain ⟨he, rfl⟩ := (history_step _ _ _).1 hstep
    cases e with
    | start date =>
      exact List.Pairwise.cons (fun r hr hdate => he r hr hdate.symm) hrs
    | sample formatted =>
      cases rs with
      | nil => exact hrs
      | cons r rs =>
        obtain ⟨hr, hrest⟩ := List.pairwise_cons.1 hrs
        exact List.Pairwise.cons hr hrest

theorem finished_next (rs : List Recording) (e : Event) : rs.tail <:+ (e.next rs).tail := by
  cases e with
  | start date => exact List.tail_suffix rs
  | sample formatted =>
    cases rs with
    | nil => exact List.suffix_rfl
    | cons r rs => exact List.suffix_rfl

/-- **Finished recordings.** -/
theorem finished_steps {rs rs' : List Recording} (h : history.Steps anyStep rs rs') :
    rs.tail <:+ rs'.tail := by
  induction h with
  | refl => exact List.suffix_rfl
  | tail _ hst ih =>
    obtain ⟨e, -, hstep⟩ := hst
    obtain ⟨-, rfl⟩ := (history_step _ _ _).1 hstep
    exact ih.trans (finished_next _ e)

/-! ## The app with its history -/

/-- A step of the app, and what the clock shows. -/
structure TimedAction where
  action : Action
  now : Date

/-- The app with the recordings so far. -/
structure Logged where
  app : AppState
  recordings : List Recording := []

/-- The click sets up a recording on a fresh recorder. -/
def SetsUp (s : CameraFragment) (obdConnected textureAvailable : Bool) : Prop :=
  Starts s obdConnected textureAvailable ∧ s.mMediaRecorder = some .initial

instance (s : CameraFragment) (obdConnected textureAvailable : Bool) :
    Decidable (SetsUp s obdConnected textureAvailable) :=
  inferInstanceAs (Decidable (_ ∧ _))

/-- What a step is for the history. -/
def event (s : AppState) : TimedAction → Option Event
  | ⟨.camera (.onClick obdConnected textureAvailable _ _), now⟩ =>
    if SetsUp s.camera obdConnected textureAvailable then some (.start now) else none
  | ⟨.roundAppends t, _⟩ => (s.pending t).map fun r => .sample r.formatted
  | _ => none

/-- The timestamp of a click is what the clock shows. -/
def ReadsClock (digits : LocaleDigits) : TimedAction → Prop
  | ⟨.camera (.onClick _ _ timeStamp _), now⟩ => timeStamp = digits.timeStamp now
  | _ => True

instance (digits : LocaleDigits) : (a : TimedAction) → Decidable (ReadsClock digits a)
  | ⟨.camera (.onClick _ _ timeStamp _), now⟩ =>
    instDecidableEqString timeStamp (digits.timeStamp now)
  | ⟨.camera (.openCamera _), _⟩ | ⟨.camera (.onOpened _), _⟩ | ⟨.camera (.onDisconnected _), _⟩
  | ⟨.camera (.onError _), _⟩ | ⟨.camera .onPause, _⟩ | ⟨.camera .acquired, _⟩
  | ⟨.camera .acquireInterrupted, _⟩ | ⟨.camera .closeCamera, _⟩
  | ⟨.camera .backgroundStopped, _⟩ | ⟨.camera .onConfigured, _⟩
  | ⟨.camera .recordingConfigured, _⟩ | ⟨.camera .onConfigureFailed, _⟩
  | ⟨.camera .roundChecks, _⟩ | ⟨.camera .roundAppends, _⟩ | ⟨.link _, _⟩
  | ⟨.roundChecks _ _, _⟩ | ⟨.roundAppends _, _⟩ => instDecidableTrue

namespace Logged

def enabled (digits : LocaleDigits) (s : Logged) (a : TimedAction) : Prop :=
  App.enabled s.app a.action ∧ ReadsClock digits a

instance (digits : LocaleDigits) (s : Logged) (a : TimedAction) :
    Decidable (enabled digits s a) :=
  inferInstanceAs (Decidable (_ ∧ _))

def next (targetDir : String) (s : Logged) (a : TimedAction) : Logged where
  app := App.next targetDir s.app a.action
  recordings :=
    match event s.app a with
    | none => s.recordings
    | some e => e.next s.recordings

end Logged

section Refinement

variable (digits : LocaleDigits) (targetDir : String) (files : FileSystem)

/-- The app, with its clock and its history. -/
def logged : Machine Logged TimedAction :=
  .guarded { app := { files := files } } (Logged.enabled digits) (Logged.next targetDir)

theorem logged_step (s t : Logged) (a : TimedAction) :
    (logged digits targetDir files).step s a = some t ↔
      Logged.enabled digits s a ∧ Logged.next targetDir s a = t :=
  guarded_step _ (Logged.enabled digits) (Logged.next targetDir) a

/-- Clock and history leave the app as it is. -/
def appPart : Projection (logged digits targetDir files) (app targetDir files) where
  state := Logged.app
  label := fun _ a => some a.action
  init := rfl
  moves := by
    intro s a t b hstep hb
    obtain ⟨ha, rfl⟩ := (logged_step digits targetDir files s t a).1 hstep
    obtain rfl := Option.some.inj hb
    exact (app_step targetDir files _ _ _).2 ⟨ha.1, rfl⟩
  rests := by
    intro s a t _ hb
    cases hb

/-- The readings are bound to the recording, and no recording is started within the second
in which another one was. -/
structure OnePerSecond (s : Logged) (a : TimedAction) : Prop where
  binds : bindsReadings targetDir files s.app a.action
  second : ∀ date, event s.app a = some (.start date) → ∀ r ∈ s.recordings, r.start ≠ date

instance (s : Logged) (a : TimedAction) : Decidable
    (∀ date, event s.app a = some (.start date) → ∀ r ∈ s.recordings, r.start ≠ date) :=
  match h : event s.app a with
  | some (.start date) => decidable_of_iff (∀ r ∈ s.recordings, r.start ≠ date) (by simp)
  | some (.sample _) | none => isTrue (by simp)

instance (s : Logged) (a : TimedAction) : Decidable (OnePerSecond targetDir files s a) :=
  decidable_of_iff (bindsReadings targetDir files s.app a.action ∧
      ∀ date, event s.app a = some (.start date) → ∀ r ∈ s.recordings, r.start ≠ date)
    ⟨fun ⟨hbinds, hsecond⟩ => ⟨hbinds, hsecond⟩, fun h => ⟨h.binds, h.second⟩⟩

end Refinement

namespace Recording

variable (digits : LocaleDigits) (targetDir : String) (r : Recording)

def video : String := videoFile targetDir (digits.timeStamp r.start)

def readings : String := readingsFile targetDir (digits.timeStamp r.start)

theorem video_inj {r r' : Recording} (h : r.video digits targetDir = r'.video digits targetDir) :
    r.start = r'.start :=
  digits.timeStamp_inj (videoFile_inj targetDir h)

end Recording

/-! ## What a step does to the path -/

section Path

variable {targetDir : String} {s : CameraFragment} {obdConnected textureAvailable : Bool}

/-- A click that sets up nothing leaves the path alone or clears it. -/
theorem path_onClick (hbound : Bound targetDir s) (h : ¬ SetsUp s obdConnected textureAvailable)
    (timeStamp : String) (outcome : StartOutcome) :
    (s.onClick obdConnected textureAvailable targetDir timeStamp outcome).mReadingsAbsolutePath =
        s.mReadingsAbsolutePath ∨
      (s.onClick obdConnected textureAvailable targetDir timeStamp outcome).mReadingsAbsolutePath =
        none := by
  by_cases hstarts : Starts s obdConnected textureAvailable
  · obtain ⟨p, hp⟩ := hbound.phase
    have hused : s.mMediaRecorder = none ∨ ∃ file, s.mMediaRecorder = some (.prepared file) := by
      cases p with
      | resting => exact Or.inl (hp.2.2.2.1.resolve_right fun hfresh => h ⟨hstarts, hfresh⟩)
      | starting =>
        obtain ⟨timeStamp, hfile, -⟩ := hp.2.2.2
        exact Or.inr ⟨_, hfile⟩
      | recording => cases hstarts.1.symm.trans hp.2.1
    rw [onClick_used hstarts hused]
    exact Or.inl rfl
  · by_cases hrec : s.mIsRecordingVideo = true
    · unfold CameraFragment.onClick CameraFragment.stopRecordingVideo CameraFragment.onRecorder
      rw [if_pos hrec]
      split
      · exact Or.inr rfl
      · exact Or.inl rfl
    · rw [onClick_idle (by simpa using hrec) hstarts]
      exact Or.inl rfl

/-- A click that sets up a recording sets the path of its readings file. -/
theorem path_onClick_setsUp {timeStamp : String}
    (h : SetsUp s obdConnected textureAvailable) :
    (s.onClick obdConnected textureAvailable targetDir timeStamp .requested).mReadingsAbsolutePath =
      some (readingsFile targetDir timeStamp) := by
  rw [onClick_fresh h.1 h.2]
  rfl

theorem path_recordingConfigured (s : CameraFragment) :
    s.recordingConfigured.mReadingsAbsolutePath = s.mReadingsAbsolutePath := by
  unfold CameraFragment.recordingConfigured CameraFragment.onRecorder
  split <;> rfl

/-- A step of the camera that is nothing for the history. -/
theorem path_next (s : AppState) (a : Camera.Action) (now : Date)
    (hbound : Bound targetDir s.camera) (ha : Agrees s a)
    (h : event s ⟨.camera a, now⟩ = none) :
    (Camera.next targetDir s.camera a).mReadingsAbsolutePath = s.camera.mReadingsAbsolutePath ∨
      (Camera.next targetDir s.camera a).mReadingsAbsolutePath = none := by
  cases a with
  | onClick obdConnected textureAvailable timeStamp outcome =>
    refine path_onClick hbound (fun hsets => ?_) timeStamp outcome
    simp [event, hsets] at h
  | openCamera outcome => exact Or.inl (openCamera_frame s.camera outcome).2
  | recordingConfigured => exact Or.inl (path_recordingConfigured _)
  | roundChecks => exact absurd ha id
  | roundAppends => exact absurd ha id
  | _ => exact Or.inl rfl

end Path

/-! ## The invariant -/

section Kept

variable (digits : LocaleDigits) (targetDir : String)

/-- The path is that of the last recording, and what was appended is the history. -/
structure Kept (s : Logged) : Prop where
  bound : Bound targetDir s.app.camera
  current : ∀ path, s.app.camera.mReadingsAbsolutePath = some path →
    ∃ r rs, s.recordings = r :: rs ∧ path = r.readings digits targetDir
  rounds : ∀ r ∈ s.recordings, s.app.roundsDuring (r.video digits targetDir) = r.rounds
  videos : ∀ a ∈ s.app.appends, ∃ r ∈ s.recordings, a.video = some (r.video digits targetDir)

variable {digits targetDir} {files : FileSystem} {s : Logged}

/-- Steps that append nothing and keep the path or clear it. -/
theorem Kept.keeps (h : Kept digits targetDir s) {t : AppState}
    (hbound : Bound targetDir t.camera) (happends : t.appends = s.app.appends)
    (hpath : t.camera.mReadingsAbsolutePath = s.app.camera.mReadingsAbsolutePath ∨
      t.camera.mReadingsAbsolutePath = none) :
    Kept digits targetDir { s with app := t } := by
  refine ⟨hbound, ?_, ?_, ?_⟩
  · intro path hp
    rcases hpath with hkeep | hnone
    · exact h.current path (hkeep.symm.trans hp)
    · cases hnone.symm.trans hp
  · intro r hr
    simpa [AppState.roundsDuring, happends] using h.rounds r hr
  · intro a ha
    exact h.videos a (happends ▸ ha)

/-- A recording is set up: nothing has been appended during it. -/
theorem Kept.start (h : Kept digits targetDir s) {t : AppState} (now : Date)
    (hbound : Bound targetDir t.camera) (happends : t.appends = s.app.appends)
    (hpath : t.camera.mReadingsAbsolutePath =
      some (readingsFile targetDir (digits.timeStamp now)))
    (hnow : ∀ r ∈ s.recordings, r.start ≠ now) :
    Kept digits targetDir { app := t, recordings := { start := now } :: s.recordings } := by
  refine ⟨hbound, ?_, ?_, ?_⟩
  · intro path hp
    exact ⟨_, _, rfl, (Option.some.inj (hpath.symm.trans hp)).symm⟩
  · intro r hr
    rcases List.mem_cons.1 hr with rfl | hr
    · rw [AppState.roundsDuring, List.map_eq_nil_iff, List.filter_eq_nil_iff]
      intro a ha hvideo
      obtain ⟨r, hr, hr'⟩ := h.videos a (happends ▸ ha)
      have heq := hr'.symm.trans (of_decide_eq_true hvideo)
      exact hnow r hr (Recording.video_inj digits targetDir (Option.some.inj heq))
    · simpa [AppState.roundsDuring, happends] using h.rounds r hr
  · intro a ha
    obtain ⟨r, hr, hvideo⟩ := h.videos a (happends ▸ ha)
    exact ⟨r, List.mem_cons_of_mem _ hr, hvideo⟩

theorem roundsDuring_append {s t : AppState} {a : Append} (h : t.appends = s.appends ++ [a])
    (video : String) :
    t.roundsDuring video =
      s.roundsDuring video ++ if a.video = some video then [a.round.formatted] else [] := by
  unfold AppState.roundsDuring
  rw [h, List.filter_append, List.map_append]
  by_cases hvideo : a.video = some video
  · simp [hvideo]
  · simp [hvideo]

/-- A round that has been checked is one of the last recording. -/
theorem Kept.append (h : Kept digits targetDir s) (hdistinct : Distinct s.recordings) (q : Round)
    (hround : 0 < s.app.camera.checkedRounds)
    (hbound : Bound targetDir (s.app.roundAppends q).camera) :
    s.recordings ≠ [] ∧ Kept digits targetDir
      { app := s.app.roundAppends q
        recordings := (Event.sample q.formatted).next s.recordings } := by
  obtain ⟨p, hp⟩ := h.bound.phase
  obtain ⟨-, -, timeStamp, hrecorder, hpath⟩ := boundIn_recording hp hround
  obtain ⟨r, rs, hrs, hreadings⟩ := h.current _ hpath
  obtain rfl := readingsFile_inj targetDir hreadings
  have hvideo : recordedVideo s.app.camera = some (r.video digits targetDir) := by
    simp [recordedVideo, hrecorder, Recording.video]
  have happends : (s.app.roundAppends q).appends =
      s.app.appends ++ [⟨q, r.readings digits targetDir, some (r.video digits targetDir)⟩] := by
    simp [AppState.roundAppends, hpath, hvideo, Recording.readings]
  have hrounds := h.rounds
  rw [hrs] at hdistinct hrounds ⊢
  have hlast := (List.pairwise_cons.1 hdistinct).1
  refine ⟨List.cons_ne_nil r rs, hbound, ?_, ?_, ?_⟩
  · intro path hp
    rw [roundAppends_camera] at hp
    refine ⟨_, rs, rfl, ?_⟩
    simpa [CameraFragment.roundAppends, hpath, Recording.readings] using hp.symm
  · intro r' hr'
    rw [roundsDuring_append happends]
    rcases List.mem_cons.1 hr' with rfl | hr'
    · have hr := hrounds r List.mem_cons_self
      simpa [Recording.video] using hr
    · have hne : r.video digits targetDir ≠ r'.video digits targetDir :=
        fun heq => hlast r' hr' (Recording.video_inj digits targetDir heq)
      simpa [hne] using hrounds r' (List.mem_cons_of_mem r hr')
  · intro a ha
    rw [happends] at ha
    rcases List.mem_append.1 ha with ha | ha
    · obtain ⟨r', hr', hold⟩ := h.videos a ha
      rw [hrs] at hr'
      rcases List.mem_cons.1 hr' with rfl | hr'
      · exact ⟨_, List.mem_cons_self, hold⟩
      · exact ⟨r', List.mem_cons_of_mem _ hr', hold⟩
    · rw [List.mem_singleton.1 ha]
      exact ⟨_, List.mem_cons_self, rfl⟩

theorem bound_step (s : AppState) (a : Action) (h : Bound targetDir s.camera)
    (hok : bindsReadings targetDir files s a) (ha : enabled s a) :
    Bound targetDir (next targetDir s a).camera := by
  cases hb : cameraLabel a with
  | none =>
    cases a with
    | link a => exact h
    | _ => cases hb
  | some b =>
    obtain ⟨hb', hnext⟩ := next_camera targetDir s a ha b hb
    rw [hnext]
    exact bound_next targetDir s.camera b h (hok b hb) hb'

theorem roundChecks_appends (s : AppState) (r : Round) : (s.roundChecks r).appends = s.appends := by
  unfold AppState.roundChecks
  split <;> rfl

theorem roundChecks_path (s : AppState) (r : Round) :
    (s.roundChecks r).camera.mReadingsAbsolutePath = s.camera.mReadingsAbsolutePath := by
  rw [roundChecks_camera, CameraFragment.roundChecks]
  split <;> rfl

theorem enabled_of_none {rs : List Recording} {o : Option Event} (h : o = none) (e : Event)
    (he : o = some e) : e.enabled rs := by
  cases h.symm.trans he

/-- **One step.**  An event of the app is possible in the history. -/
theorem Kept.next (h : Kept digits targetDir s) (hdistinct : Distinct s.recordings)
    (a : TimedAction) (hok : OnePerSecond targetDir files s a) (ha : Logged.enabled digits s a) :
    Kept digits targetDir (Logged.next targetDir s a) ∧
      ∀ e, event s.app a = some e → e.enabled s.recordings := by
  obtain ⟨a, now⟩ := a
  have hbound := bound_step s.app a h.bound hok.binds ha.1
  cases a with
  | link a => exact ⟨h.keeps hbound rfl (Or.inl rfl), enabled_of_none rfl⟩
  | roundChecks t formatted =>
    exact ⟨h.keeps hbound (roundChecks_appends s.app _) (Or.inl (roundChecks_path s.app _)),
      enabled_of_none rfl⟩
  | roundAppends t =>
    obtain ⟨q, hq⟩ := Option.ne_none_iff_exists'.1 ha.1.2
    have hevent : event s.app ⟨.roundAppends t, now⟩ = some (.sample q.formatted) := by
      simp [event, hq]
    have hnext : App.next targetDir s.app (.roundAppends t) = s.app.roundAppends q := by
      simp [App.next, hq]
    rw [hnext] at hbound
    obtain ⟨hne, hkept⟩ := h.append hdistinct q ha.1.1.2 hbound
    simp only [Logged.next, hevent, hnext]
    refine ⟨hkept, fun e he => ?_⟩
    obtain rfl := Option.some.inj he
    exact hne
  | camera a =>
    cases he : event s.app ⟨.camera a, now⟩ with
    | none =>
      simp only [Logged.next, he]
      exact ⟨h.keeps hbound rfl (path_next s.app a now h.bound ha.1.2.1 he), enabled_of_none rfl⟩
    | some e =>
      cases a with
      | onClick obdConnected textureAvailable timeStamp outcome =>
        have hsets : SetsUp s.app.camera obdConnected textureAvailable := by
          by_contra hsets
          simp [event, hsets] at he
        obtain rfl : e = .start now := by simpa [event, hsets] using he.symm
        obtain rfl : timeStamp = digits.timeStamp now := ha.2
        obtain rfl := (hok.binds _ rfl).2 hsets.1 hsets.2
        have hnow := hok.second now he
        simp only [Logged.next, he]
        refine ⟨h.start now hbound rfl (path_onClick_setsUp hsets) hnow, fun e he => ?_⟩
        obtain rfl := Option.some.inj he
        exact hnow
      | _ => cases he

end Kept

/-! ## The refinement -/

section Refinement

variable (digits : LocaleDigits) (targetDir : String) (files : FileSystem)

/-- **The app keeps the history.** -/
def keepsHistory :
    Refinement (logged digits targetDir files) history (OnePerSecond targetDir files) where
  abstract := Logged.recordings
  event := fun s a => event s.app a
  Inv := Kept digits targetDir
  inv_init := by
    refine ⟨⟨⟨.resting, rfl, rfl, rfl, Or.inl rfl, rfl⟩, ?_, ?_⟩, ?_, ?_, ?_⟩ <;>
      simp [logged, guarded]
  init := rfl
  inv_step := by
    intro s a t hs hreached hok hstep
    obtain ⟨ha, rfl⟩ := (logged_step digits targetDir files s t a).1 hstep
    exact (hs.next (distinct_reachable _ hreached) a hok ha).1
  moves := by
    intro s a t e hs hreached hok hstep he
    obtain ⟨ha, rfl⟩ := (logged_step digits targetDir files s t a).1 hstep
    refine (history_step _ _ _).2 ⟨(hs.next (distinct_reachable _ hreached) a hok ha).2 e he, ?_⟩
    simp [Logged.next, he]
  rests := by
    intro s a t hs hok hstep he
    obtain ⟨ha, rfl⟩ := (logged_step digits targetDir files s t a).1 hstep
    simp [Logged.next, he]

variable {digits targetDir files} {s : Logged}

theorem app_reachUnder
    (h : (logged digits targetDir files).ReachUnder (OnePerSecond targetDir files) s) :
    (app targetDir files).ReachUnder (bindsReadings targetDir files) s.app := by
  apply (appPart digits targetDir files).reachUnder
  refine h.mono fun s a hok b hb => ?_
  obtain rfl := Option.some.inj hb
  exact hok.binds

/-- The lines of a recording are those of its rounds. -/
theorem linesAt_readings
    (h : (logged digits targetDir files).ReachUnder (OnePerSecond targetDir files) s)
    {r : Recording} (hr : r ∈ s.recordings) :
    s.app.linesAt (r.readings digits targetDir) = r.rounds.map lineOf := by
  have hkept := ((keepsHistory digits targetDir files).reachable h).1
  have hbound := appendsBound_reachUnder targetDir files s.app (app_reachUnder h)
  rw [← hkept.rounds r hr]
  exact linesAt_readingsFile hbound _

/-- Nothing is appended anywhere else. -/
theorem linesAt_other
    (h : (logged digits targetDir files).ReachUnder (OnePerSecond targetDir files) s)
    {path : String} (hpath : ∀ r ∈ s.recordings, path ≠ r.readings digits targetDir) :
    s.app.linesAt path = [] := by
  have hkept := ((keepsHistory digits targetDir files).reachable h).1
  have hbound := appendsBound_reachUnder targetDir files s.app (app_reachUnder h)
  rw [AppState.linesAt, List.map_eq_nil_iff, List.filter_eq_nil_iff]
  intro a ha hat
  obtain ⟨r, hr, hvideo⟩ := hkept.videos a ha
  obtain ⟨timeStamp, hvideo', hreadings⟩ := hbound a ha
  obtain rfl := videoFile_inj targetDir (Option.some.inj (hvideo'.symm.trans hvideo))
  exact hpath r hr ((of_decide_eq_true hat).symm.trans hreadings)

/-- A readings file is what it was before, and then the recording. -/
def HoldsRecording (digits : LocaleDigits) (targetDir : String) (before after : FileSystem)
    (r : Recording) : Prop :=
  after.contents (r.readings digits targetDir) =
    if before.writable (r.readings digits targetDir) then
      appended (before.contents (r.readings digits targetDir)) (r.rounds.map lineOf)
    else before.contents (r.readings digits targetDir)

theorem holdsRecording
    (h : (logged digits targetDir files).ReachUnder (OnePerSecond targetDir files) s)
    {r : Recording} (hr : r ∈ s.recordings) :
    HoldsRecording digits targetDir files s.app.files r := by
  have haccounts := accounted_reachable targetDir files s.app (app_reachUnder h).reachable
  rw [HoldsRecording, haccounts.contents, linesAt_readings h hr]

/-- **The files are the history.**  Where the readings are bound to the recording and no two
recordings are started within one second, the app refines the history: each recording has a
readings file of its own, with the rounds sampled during its video, whole and in order,
and no other file changes. -/
theorem history_refined (digits : LocaleDigits) (targetDir : String) (files : FileSystem)
    (s : Logged)
    (h : (logged digits targetDir files).ReachUnder (OnePerSecond targetDir files) s) :
    history.Reachable s.recordings ∧
      (∀ r ∈ s.recordings, s.app.roundsDuring (r.video digits targetDir) = r.rounds ∧
        HoldsRecording digits targetDir files s.app.files r) ∧
      (s.recordings.map fun r => r.readings digits targetDir).Nodup ∧
      ∀ path, (∀ r ∈ s.recordings, path ≠ r.readings digits targetDir) →
        s.app.files.contents path = files.contents path := by
  obtain ⟨hkept, hhistory⟩ := (keepsHistory digits targetDir files).reachable h
  refine ⟨hhistory, fun r hr => ⟨hkept.rounds r hr, holdsRecording h hr⟩, ?_, ?_⟩
  · rw [List.Nodup, List.pairwise_map]
    refine (distinct_reachable _ hhistory).imp fun hne heq => hne ?_
    exact digits.timeStamp_inj (readingsFile_inj targetDir heq)
  · intro path hpath
    have haccounts := accounted_reachable targetDir files s.app (app_reachUnder h).reachable
    rw [haccounts.contents, linesAt_other h hpath]
    simp [appended]

/-- A quarter past ten, and so many seconds. -/
def quarterPastTen (second : Fin 60) : Date where
  year := 2018
  month := 6
  day := 11
  hour := 10
  minute := 15
  second := second
  year_lt := by decide
  month_le := by decide
  day_le := by decide
  hour_lt := by decide
  minute_lt := by decide
  second_lt := second.isLt

/-- A recording with one round, and one that is started after it. -/
def twoRecordings : List TimedAction :=
  (oneRound "20180611_101500" "1").map (fun a => ⟨a, quarterPastTen 0⟩) ++
    [⟨.camera (.onClick true true "20180611_101505" .requested), quarterPastTen 5⟩,
      ⟨.camera (.onClick true true "20180611_101507" .requested), quarterPastTen 7⟩]

theorem history_refined_twoRecordings :
    ∃ s : Logged, s.recordings.map Recording.rounds = [[], [fun _ => "1"]] ∧
      history.Reachable s.recordings ∧
      (s.recordings.map fun r => r.readings .latin "/Movies").Nodup :=
  have h := history_refined .latin "/Movies" ⟨fun _ => none, fun _ => true⟩ _
    (reachUnder_of_execUnder twoRecordings rfl)
  ⟨_, rfl, h.1, h.2.2.1⟩

/-! ## Finished recordings -/

/-- A timestamp holds neither of the words that the player replaces. -/
theorem plain_timeStamp (digits : LocaleDigits) (date : Date) : Plain (digits.timeStamp date) := by
  have hletter : ∀ c, c ≠ '_' → (∀ i, digits.digit i ≠ c) →
      c ∉ (digits.timeStamp date).toList := by
    intro c hunderscore hdigit hmem
    rcases digits.mem_timeStamp hmem with h | ⟨i, h⟩
    · exact hunderscore h
    · exact hdigit i h.symm
  refine ⟨fun hvideo => ?_, fun hmp4 => ?_⟩
  · exact hletter 'V' (by decide) (fun i => (digits.noLetter i).1) (hvideo.subset (by decide))
  · exact hletter 'm' (by decide) (fun i => (digits.noLetter i).2) (hmp4.subset (by decide))

/-- **A finished recording** is final.  Once another one has been started, its readings file
never changes again, and from then on the player replays its rounds as they were sent live,
exactly if their values hold no separator. -/
theorem finished_recording (getName : ObdCommand → String) (digits : LocaleDigits)
    (targetDir : String) (files : FileSystem) (s t : Logged)
    (hs : (logged digits targetDir files).ReachUnder (OnePerSecond targetDir files) s)
    (hst : (logged digits targetDir files).Steps (OnePerSecond targetDir files) s t)
    (r : Recording) (hr : r ∈ s.recordings.tail) :
    r ∈ t.recordings.tail ∧
      t.app.files.contents (r.readings digits targetDir) =
        s.app.files.contents (r.readings digits targetDir) ∧
      (Plain targetDir → files.contents (r.readings digits targetDir) = none →
        files.writable (r.readings digits targetDir) = true →
        ((readFileToMemory t.app.files (mReadingsPath (r.video digits targetDir))).map
            (sentReplaying getName) =
            r.rounds.map (fun formatted => some (sentLive getName formatted)) ↔
          ∀ formatted ∈ r.rounds, ∀ c ∈ prepareCommands.all, SeparatorFree (formatted c))) := by
  have ht := hs.trans hst
  obtain ⟨hkept, hreached⟩ := (keepsHistory digits targetDir files).reachable hs
  obtain ⟨hkept', hsteps⟩ := (keepsHistory digits targetDir files).steps hkept hreached hst
  have hr' : r ∈ t.recordings.tail := (finished_steps hsteps).subset hr
  have hmem := List.mem_of_mem_tail hr
  have hmem' := List.mem_of_mem_tail hr'
  refine ⟨hr', (holdsRecording ht hmem').trans (holdsRecording hs hmem).symm, ?_⟩
  intro hdir hnew hwritable
  have hpath : mReadingsPath (r.video digits targetDir) = r.readings digits targetDir :=
    mReadingsPath_videoFile hdir (plain_timeStamp digits r.start)
  have hreplays := replays_iff getName targetDir files t.app (digits.timeStamp r.start)
    (app_reachUnder ht) hnew hwritable
  have hrounds : t.app.roundsDuring (videoFile targetDir (digits.timeStamp r.start)) = r.rounds :=
    hkept'.rounds r hmem'
  rw [hrounds] at hreplays
  rw [hpath]
  exact hreplays

/-- The first of two recordings, while the second one runs. -/
theorem finished_recording_twoRecordings :
    ∃ (t : Logged) (r : Recording), t.recordings.length = 2 ∧ r.rounds = [fun _ => "1"] ∧
      r ∈ t.recordings.tail ∧
      (readFileToMemory t.app.files (mReadingsPath (r.video .latin "/Movies"))).map
          (sentReplaying fun _ => "Vehicle Speed") =
        r.rounds.map (fun formatted => some (sentLive (fun _ => "Vehicle Speed") formatted)) := by
  have hs : (logged .latin "/Movies" ⟨fun _ => none, fun _ => true⟩).ReachUnder
      (OnePerSecond "/Movies" ⟨fun _ => none, fun _ => true⟩) _ :=
    reachUnder_of_execUnder twoRecordings rfl
  obtain ⟨hr, -, hreplays⟩ := finished_recording (fun _ => "Vehicle Speed") .latin "/Movies" _ _ _
    hs (execUnder_steps [⟨.camera .onConfigured, quarterPastTen 8⟩] rfl)
    ⟨quarterPastTen 0, [fun _ => "1"]⟩ List.mem_cons_self
  refine ⟨_, _, rfl, rfl, hr, (hreplays (by decide) rfl rfl).2 ?_⟩
  simp [SeparatorFree]

end Refinement

end ProjektMagisterski.App
