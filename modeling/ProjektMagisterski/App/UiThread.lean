import ProjektMagisterski.App.Recordings
import ProjektMagisterski.Bluetooth.Reconnect
import ProjektMagisterski.Camera.OpenDevices

/-!
# The UI thread

`connect` holds the UI thread over its two waits, and `onPause` until `closeCamera` has
the permit of the lock.  The callbacks that release a permit come on the UI thread too.

* `stuck_onPause`: a UI thread that waits for the lock without a permit waits forever;
* `uiIdle_of_waits`: any other wait of the UI thread can end;
* `uiThread_exact`: the UI thread can always go on exactly as long as the fragment is
  only paused when nobody holds the lock.
-/

namespace ProjektMagisterski.App

open Bluetooth (Session quiet_next)
open Camera Obd Lib Lib.Machine

/-- The UI thread is free for the next handler or callback. -/
def UiIdle (s : AppState) : Prop :=
  s.camera.crash = none ∧ s.camera.ui = .idle ∧ s.link.executing = none

section Machine

variable (targetDir : String) (files : FileSystem)

/-- Unless the process has ended, the UI thread can get free without an exception. -/
def Responsive (s : AppState) : Prop :=
  s.camera.crash = none → ∃ t, (app targetDir files).Steps anyStep s t ∧ UiIdle t

end Machine

/-- The fragment is only paused when nobody holds the lock. -/
def PausesUnlocked (s : CameraFragment) : Camera.Action → Prop
  | .onPause => s.permits ≠ 0
  | _ => True

/-! ## Stuck -/

/-- The UI thread waits for a permit, and there is none. -/
def Stuck (s : CameraFragment) : Prop :=
  s.ui = .acquiring ∧ (s.permits = 0 ∨ s.crash ≠ none)

theorem stuck_next (targetDir : String) (s : CameraFragment) (a : Camera.Action) (h : Stuck s)
    (ha : Camera.enabled s a) : Stuck (Camera.next targetDir s a) := by
  obtain ⟨hcrash, hready⟩ := ha
  obtain ⟨hui, hpermits⟩ := h
  have hnone : s.permits = 0 := hpermits.resolve_right fun hne => hne hcrash
  have hbusy : s.ui ≠ .idle := by simp [hui]
  -- recordings and rounds go on, and do nothing about the lock
  have hframe : IsRecordingStep a → Stuck (Camera.next targetDir s a) := by
    intro hrecording
    have hpart := cameraPart_next targetDir s a hrecording
    exact ⟨(congrArg CameraPart.ui hpart).trans hui,
      Or.inl ((congrArg CameraPart.permits hpart).trans hnone)⟩
  cases a with
  | acquired => exact absurd hnone (Nat.ne_of_gt hready.2)
  | acquireInterrupted => exact ⟨hui, Or.inr (by simp [Camera.next])⟩
  | closeCamera => cases hui.symm.trans hready
  | backgroundStopped => cases hui.symm.trans hready
  | openCamera outcome => exact absurd hready hbusy
  | onPause => exact absurd hready hbusy
  | onOpened d => exact absurd hready.1 hbusy
  | onDisconnected d => exact absurd hready.1 hbusy
  | onError d => exact absurd hready.1 hbusy
  | _ => exact hframe trivial

variable {targetDir : String} {files : FileSystem}

theorem stuck_steps {s t : AppState} (h : (app targetDir files).Steps anyStep s t)
    (hs : Stuck s.camera) : Stuck t.camera := by
  induction h with
  | refl => exact hs
  | @tail s _ _ hst ih =>
    obtain ⟨a, -, hstep⟩ := hst
    obtain ⟨ha, rfl⟩ := (app_step targetDir files s _ a).1 hstep
    cases hb : cameraLabel a with
    | none =>
      cases a with
      | link a => exact ih
      | _ => cases hb
    | some b =>
      obtain ⟨hb, hnext⟩ := next_camera targetDir s a ha b hb
      rw [hnext]
      exact stuck_next targetDir s.camera b ih hb

/-- **Stuck for good.** -/
theorem stuck_onPause {s t u : AppState} (hlocked : s.camera.permits = 0)
    (hpause : (app targetDir files).step s (.camera .onPause) = some t)
    (h : (app targetDir files).Steps anyStep t u) : ¬ UiIdle u := by
  obtain ⟨-, rfl⟩ := (app_step targetDir files s t _).1 hpause
  have hstuck := stuck_steps h ⟨rfl, Or.inl hlocked⟩
  exact fun hidle => by cases hstuck.1.symm.trans hidle.2.1

/-! ## What the UI thread is at -/

/-- The UI thread is at one thing at a time, and gets the lock when it waits for it. -/
structure Waits (s : AppState) : Prop where
  started : Bluetooth.Started s.link
  single : s.link.executing ≠ none → s.camera.ui = .idle
  permit : s.camera.ui = .acquiring → s.camera.permits ≠ 0

/-- A UI thread that comes to wait for the lock comes from `onPause`. -/
theorem permit_next (targetDir : String) (s : CameraFragment) (a : Camera.Action)
    (ha : Camera.enabled s a) (hok : PausesUnlocked s a) (h : s.ui = .acquiring → s.permits ≠ 0)
    (hui : (Camera.next targetDir s a).ui = .acquiring) :
    (Camera.next targetDir s a).permits ≠ 0 := by
  have hready := ha.2
  have hbusy : s.ui = .idle → s.ui ≠ .acquiring := fun hidle => by simp [hidle]
  have hframe : IsRecordingStep a → (Camera.next targetDir s a).permits ≠ 0 := by
    intro hrecording
    have hpart := cameraPart_next targetDir s a hrecording
    rw [show (Camera.next targetDir s a).permits = s.permits from congrArg CameraPart.permits hpart]
    exact h ((congrArg CameraPart.ui hpart).symm.trans hui)
  cases a with
  | onPause => exact hok
  | acquired => cases hui
  | acquireInterrupted => exact Nat.succ_ne_zero s.permits
  | closeCamera => cases hui
  | backgroundStopped => cases hui
  | openCamera outcome =>
    exact absurd ((openCamera_frame s outcome).1.symm.trans hui) (hbusy hready)
  | onOpened d => exact absurd hui (hbusy hready.1)
  | onDisconnected d => exact absurd hui (hbusy hready.1)
  | onError d => exact absurd hui (hbusy hready.1)
  | _ => exact hframe trivial

/-- Only a call of `connect` makes one execute. -/
theorem executing_next (s : Session) (a : Bluetooth.Action) (ha : Bluetooth.enabled s a)
    (hconnect : linkOnUiThread a = false) (h : (Bluetooth.next s a).executing ≠ none) :
    s.executing ≠ none := by
  cases a with
  | connect device => cases hconnect
  | joinReturns => simp [show s.executing = some .join from ha]
  | connectReturns n => exact absurd rfl h
  | connected n =>
    simpa only [Bluetooth.next, Session.connected_eq] using h
  | start =>
    simpa only [Bluetooth.next, Session.start, Session.clearThreads_eq] using h
  | clearThreads => simpa only [Bluetooth.next, Session.clearThreads_eq] using h
  | ioException t =>
    simpa only [Bluetooth.next, Session.connectionLost, Session.start, Session.clearThreads_eq,
      Session.setConnectedThread] using h
  | _ =>
    rw [(quiet_next s _ ha rfl).executing] at h
    exact h

/-- A step of the background thread, or of a sampling thread. -/
theorem ui_background (targetDir : String) (s : CameraFragment) (a : Camera.Action)
    (h : cameraOnUiThread a = false ∨ a = .roundChecks ∨ a = .roundAppends) :
    (Camera.next targetDir s a).ui = s.ui := by
  have hrecording : IsRecordingStep a := by
    rcases h with h | rfl | rfl
    · cases a <;> trivial
    · trivial
    · trivial
  exact congrArg CameraPart.ui (cameraPart_next targetDir s a hrecording)

/-- **One step.** -/
theorem Waits.next {s : AppState} (h : Waits s) (a : Action)
    (hok : (cameraPart targetDir files).lift PausesUnlocked s a) (ha : enabled s a) :
    Waits (next targetDir s a) := by
  cases a with
  | link a =>
    refine ⟨h.started.next a ha.1, fun hexecuting => ?_, h.permit⟩
    cases hconnect : linkOnUiThread a with
    | true => exact ha.2.2.1 hconnect
    | false => exact h.single (executing_next s.link a ha.1 hconnect hexecuting)
  | camera a =>
    have hpermit := permit_next targetDir s.camera a ha.1 (hok a rfl) h.permit
    refine ⟨h.started, fun hexecuting => ?_, hpermit⟩
    cases hthread : cameraOnUiThread a with
    | true => exact absurd (ha.2.2 hthread) hexecuting
    | false =>
      have hui := ui_background targetDir s.camera a (Or.inl hthread)
      exact hui.trans (h.single hexecuting)
  | roundChecks t formatted =>
    have hui : s.camera.roundChecks.ui = s.camera.ui :=
      ui_background targetDir s.camera .roundChecks (Or.inr (Or.inl rfl))
    have hpermit := permit_next targetDir s.camera .roundChecks ha.1 trivial h.permit
    rw [App.next]
    constructor
    · rw [roundChecks_link]
      exact h.started
    · rw [roundChecks_link, roundChecks_camera, hui]
      exact h.single
    · rw [roundChecks_camera]
      exact hpermit
  | roundAppends t =>
    obtain ⟨r, hr⟩ := Option.ne_none_iff_exists'.1 ha.2
    have hui : s.camera.roundAppends.ui = s.camera.ui :=
      ui_background targetDir s.camera .roundAppends (Or.inr (Or.inr rfl))
    have hpermit := permit_next targetDir s.camera .roundAppends ha.1 trivial
      h.permit
    simp only [App.next, hr]
    constructor
    · rw [roundAppends_link]
      exact h.started
    · rw [roundAppends_link, roundAppends_camera, hui]
      exact h.single
    · rw [roundAppends_camera]
      exact hpermit

/-! ## Getting free -/

/-- One more step on the way. -/
theorem free_of_step {s : AppState} (a : Action) (ha : enabled s a)
    (h : ∃ t, (app targetDir files).Steps anyStep (next targetDir s a) t ∧ UiIdle t) :
    ∃ t, (app targetDir files).Steps anyStep s t ∧ UiIdle t := by
  obtain ⟨t, hsteps, ht⟩ := h
  exact ⟨t, (Steps.guarded a trivial ha).trans hsteps, ht⟩

section Free

variable {s : AppState} (hcrash : s.camera.crash = none)

include hcrash

theorem free_of_stopping (hlink : s.link.executing = none) (hui : s.camera.ui = .stopping) :
    ∃ t, (app targetDir files).Steps anyStep s t ∧ UiIdle t := by
  apply free_of_step (.camera .backgroundStopped) ⟨⟨hcrash, hui⟩, trivial, fun _ => hlink⟩
  exact ⟨_, Steps.refl _, hcrash, rfl, hlink⟩

theorem free_of_closing (hlink : s.link.executing = none) (hui : s.camera.ui = .closing) :
    ∃ t, (app targetDir files).Steps anyStep s t ∧ UiIdle t := by
  apply free_of_step (.camera .closeCamera) ⟨⟨hcrash, hui⟩, trivial, fun _ => hlink⟩
  exact free_of_stopping hcrash hlink rfl

theorem free_of_acquiring (hlink : s.link.executing = none) (hui : s.camera.ui = .acquiring)
    (hpermit : s.camera.permits ≠ 0) :
    ∃ t, (app targetDir files).Steps anyStep s t ∧ UiIdle t := by
  apply free_of_step (.camera .acquired)
    ⟨⟨hcrash, hui, Nat.pos_of_ne_zero hpermit⟩, trivial, fun _ => hlink⟩
  exact free_of_closing hcrash hlink rfl

/-- Both waits of `connect` end. -/
theorem free_of_executing (h : Waits s) (hlink : s.link.executing ≠ none) :
    ∃ t, (app targetDir files).Steps anyStep s t ∧ UiIdle t := by
  have hui := h.single hlink
  obtain ⟨n, hn⟩ := Option.ne_none_iff_exists'.1 (h.started.attempted hlink).2
  have hreturns : ∀ u : AppState, u.camera = s.camera → u.link.executing = some .sleep →
      u.link.mBTSocket = some n → ∃ t, (app targetDir files).Steps anyStep u t ∧ UiIdle t := by
    intro u hcamera hsleep hsocket
    apply free_of_step (.link (.connectReturns n))
    · exact ⟨⟨hsleep, hsocket⟩, by rw [hcamera]; exact hcrash, nofun, nofun⟩
    · exact ⟨_, Steps.refl _, by rw [← hcamera] at hcrash; exact hcrash,
        by rw [← hcamera] at hui; exact hui, rfl⟩
  cases hwait : s.link.executing with
  | none => exact absurd hwait hlink
  | some wait =>
    cases wait with
    | sleep => exact hreturns s rfl hwait hn
    | join =>
      apply free_of_step (.link .joinReturns) ⟨hwait, hcrash, nofun, nofun⟩
      exact hreturns _ rfl rfl hn

end Free

/-- **The UI thread gets free.** -/
theorem uiIdle_of_waits {s : AppState} (h : Waits s) : Responsive targetDir files s := by
  intro hcrash
  by_cases hlink : s.link.executing = none
  · cases hui : s.camera.ui with
    | idle => exact ⟨s, Steps.refl _, hcrash, hui, hlink⟩
    | acquiring => exact free_of_acquiring hcrash hlink hui (h.permit hui)
    | closing => exact free_of_closing hcrash hlink hui
    | stopping => exact free_of_stopping hcrash hlink hui
  · exact free_of_executing hcrash h hlink

/-- **The UI thread.**  As long as the fragment is only paused when nobody holds the lock, the
UI thread can always get free for its next event; paused when somebody does, it never
handles one again, whatever the other threads do. -/
theorem uiThread_exact (targetDir : String) (files : FileSystem) :
    (app targetDir files).Exact ((cameraPart targetDir files).lift PausesUnlocked)
        (Responsive targetDir files) ∧
      ∀ s t, s.camera.permits = 0 →
        (app targetDir files).step s (.camera .onPause) = some t →
        ∀ u, (app targetDir files).Steps anyStep t u → ¬ UiIdle u := by
  refine ⟨?_, fun s t hlocked hpause u hsteps => stuck_onPause hlocked hpause hsteps⟩
  refine exact_of_invariant Waits ?_ ?_ (fun s => uiIdle_of_waits) ?_
  · exact ⟨Bluetooth.started_reachable (Steps.refl _), fun h => absurd rfl h, nofun⟩
  · intro s a t hs hok hstep
    obtain ⟨ha, rfl⟩ := (app_step targetDir files s t a).1 hstep
    exact hs.next a hok ha
  · intro s a t hs hok hstep
    refine ⟨t, Steps.refl t, fun hresponsive => ?_⟩
    cases a with
    | link a => exact absurd (fun b hb => by cases hb) hok
    | roundChecks t formatted =>
      refine absurd (fun b hb => ?_) hok
      obtain rfl := Option.some.inj hb
      trivial
    | roundAppends t =>
      refine absurd (fun b hb => ?_) hok
      obtain rfl := Option.some.inj hb
      trivial
    | camera a =>
      have hlocked : ¬ PausesUnlocked s.camera a := by
        refine fun hunlocked => hok fun b hb => ?_
        obtain rfl := Option.some.inj hb
        exact hunlocked
      cases a with
      | onPause =>
        obtain ⟨⟨⟨hcrash, -⟩, -⟩, rfl⟩ := (app_step targetDir files s t _).1 hstep
        obtain ⟨u, hsteps, hidle⟩ := hresponsive hcrash
        exact stuck_onPause (not_not.1 hlocked) hstep hsteps hidle
      | _ => exact absurd trivial hlocked

/-- A pause between the request for a camera and its callback. -/
example : ((app "/Movies" ⟨fun _ => none, fun _ => true⟩).exec
    { files := ⟨fun _ => none, fun _ => true⟩ }
    [.camera (.openCamera .requested), .camera .onPause]).map
      (fun s => (s.camera.permits, s.camera.ui)) = some (0, .acquiring) := by decide

end ProjektMagisterski.App
