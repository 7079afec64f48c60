import ProjektMagisterski.Camera.Capture

/-!
# Requests and sessions

Whose request a session gets, where the UI thread and the background thread interleave.

* `OwnRequest`: what `updatePreview` is about to use once it has found a camera;
* `nextFragment_cases`, `awaiting_next`, `device_next`: what a step of the fragment does to
  the sessions and to the cameras;
* `Own`: the invariant;
* `ownRequest_exact`: a session gets its own request, on the camera it was made for, unless
  another one is asked for, or the camera is given up, before it has it.
-/

namespace ProjektMagisterski.Camera

open CameraFragment Lib Lib.Machine

namespace Capture

/-! ## The property -/

/-- The session is stored with its own builder, and its camera is held, and not about to be
cleared. -/
structure Has (s : Capture) (session : CaptureSession) : Prop where
  stored : s.mPreviewSession = some session
  builder : s.mPreviewRequestBuilder = some session.builder
  device : s.camera.mCameraDevice = some session.device
  opened : s.closing = none

/-- **Own requests.**  `updatePreview` never finds its session gone, and what it is about to
do is to set the request that was made for the session whose callback it is, on this session
and its camera. -/
def OwnRequest (s : Capture) : Prop :=
  s.crashed = false ∧
    (s.camera.crash = none → s.checked = true → ∀ session ∈ s.configuring, s.Has session)

/-- How the request for a session ends that is part of a step, if there is one. -/
def asks (targetDir : String) (s : Capture) : CaptureAction → Option SessionOutcome
  | .fragment (.onOpened d) textureAvailable preview =>
    (previewDevice (s.camera.onOpened d) textureAvailable).map fun _ => preview
  | .fragment (.onClick obdConnected textureAvailable timeStamp outcome) _ preview =>
    let camera := s.camera.onClick obdConnected textureAvailable targetDir timeStamp outcome
    if camera.crash = none ∧ previewDevice camera textureAvailable ≠ none then
      if s.camera.mIsRecordingVideo then some preview
      else if obdConnected = true then some outcome.session
      else none
    else none
  | _ => none

/-- A camera is replaced by `onOpened`, and given up by what starts to close it. -/
def ChangesCamera (s : Capture) : CaptureAction → Prop
  | .fragment (.onOpened _) _ _ => True
  | .startsClosing _ => s.camera.mCameraDevice ≠ none
  | _ => False

/-- The camera is only given up or replaced when no session is on its way, a session is only
asked for when there is no other one, and a builder is only made when none is to come. -/
structure AsksAlone (targetDir : String) (s : Capture) (a : CaptureAction) : Prop where
  camera : ChangesCamera s a → s.onTheirWay = []
  session : ∀ outcome ∈ asks targetDir s a,
    s.configuring = none ∧ (outcome ≠ .requestFails → s.requested = [])

/-! ## One step of the fragment -/

/-- The step leads to `t` by asking for a session of the held camera. -/
def AsksFor (targetDir : String) (s : Capture) (a : CaptureAction) (camera : CameraFragment)
    (t : Capture) : Prop :=
  ∃ device recording, ∃ outcome ∈ asks targetDir s a,
    t = ({ s with camera := camera } : Capture).closePreviewSession.createCaptureSession device
        recording outcome ∧
      camera.crash = none ∧ camera.mCameraDevice = some device

/-- The step leads to `t` and leaves the sessions alone, but for what the end of the
background thread, or of the process, does to them. -/
def LeavesSessions (targetDir : String) (s : Capture) (a : CaptureAction)
    (camera : CameraFragment) (t : Capture) : Prop :=
  asks targetDir s a = none ∧
    ∃ session requested closing,
      t = { s with
        camera := camera
        mPreviewSession := session
        requested := requested
        closing := closing } ∧
      (session = s.mPreviewSession ∨ camera.crash ≠ none) ∧
      (requested = s.requested ∨ requested = [] ∧ s.configuring = none) ∧
      (closing = s.closing ∨ closing = none)

/-- It changes nothing but the fragment. -/
theorem leavesSessions_of_eq {targetDir : String} {s : Capture} {a : CaptureAction}
    {camera : CameraFragment} {t : Capture} (hasks : asks targetDir s a = none)
    (h : t = { s with camera := camera }) : LeavesSessions targetDir s a camera t :=
  ⟨hasks, s.mPreviewSession, s.requested, s.closing, h, Or.inl rfl, Or.inl rfl, Or.inl rfl⟩

theorem device_of_previewDevice {camera : CameraFragment} {textureAvailable : Bool}
    {device : DeviceId} (h : previewDevice camera textureAvailable = some device) :
    camera.mCameraDevice = some device := by
  unfold previewDevice at h
  split at h
  · exact h
  · cases h

theorem nextFragment_onOpened (targetDir : String) (s : Capture) (d : DeviceId)
    (textureAvailable : Bool) (preview : SessionOutcome) (hcrash : s.camera.crash = none) :
    AsksFor targetDir s (.fragment (.onOpened d) textureAvailable preview) (s.camera.onOpened d)
        (s.nextFragment targetDir (.onOpened d) textureAvailable preview) ∨
      LeavesSessions targetDir s (.fragment (.onOpened d) textureAvailable preview)
        (s.camera.onOpened d)
        (s.nextFragment targetDir (.onOpened d) textureAvailable preview) := by
  cases hdevice : previewDevice (s.camera.onOpened d) textureAvailable with
  | some device =>
    exact Or.inl ⟨device, false, preview, by simp [asks, hdevice],
      by simp [nextFragment, startPreview, Camera.next, hdevice], hcrash,
      device_of_previewDevice hdevice⟩
  | none =>
    exact Or.inr (leavesSessions_of_eq (by simp [asks, hdevice])
      (by simp [nextFragment, startPreview, Camera.next, hdevice]))

/-- A click stops or starts a recording, or does neither. -/
theorem nextFragment_onClick (targetDir : String) (s : Capture)
    (obdConnected textureAvailable : Bool) (timeStamp : String) (outcome : StartOutcome)
    (texture : Bool) (preview : SessionOutcome) :
    let a : Action := .onClick obdConnected textureAvailable timeStamp outcome
    let camera := s.camera.onClick obdConnected textureAvailable targetDir timeStamp outcome
    AsksFor targetDir s (.fragment a texture preview) camera
        (s.nextFragment targetDir a texture preview) ∨
      LeavesSessions targetDir s (.fragment a texture preview) camera
        (s.nextFragment targetDir a texture preview) := by
  simp only [AsksFor, LeavesSessions, nextFragment, asks, Camera.next]
  generalize s.camera.onClick obdConnected textureAvailable targetDir timeStamp outcome = camera
  cases hdevice : previewDevice camera textureAvailable with
  | some device =>
    have hheld := device_of_previewDevice hdevice
    by_cases hcrash : camera.crash = none
    · by_cases hrec : s.camera.mIsRecordingVideo = true
      · exact Or.inl ⟨device, false, preview, by simp [hcrash, hrec],
          by simp [stopRecordingVideo, startPreview, hdevice, hcrash, hrec], hcrash, hheld⟩
      · cases obdConnected with
        | true =>
          exact Or.inl ⟨device, true, outcome.session, by simp [hcrash, hrec],
            by simp [startRecordingVideo, hdevice, hcrash, hrec], hcrash, hheld⟩
        | false =>
          exact Or.inr ⟨by simp [hrec], s.mPreviewSession, s.requested, s.closing,
            by simp [hrec], Or.inl rfl, Or.inl rfl, Or.inl rfl⟩
    · refine Or.inr ⟨by simp [hcrash], ?_⟩
      by_cases hstarts : s.camera.mIsRecordingVideo = false ∧ obdConnected = true
      · exact ⟨none, s.requested, s.closing,
          by simp [startRecordingVideo, closePreviewSession, hdevice, hcrash, hstarts],
          Or.inr hcrash, Or.inl rfl, Or.inl rfl⟩
      · refine ⟨s.mPreviewSession, s.requested, s.closing, ?_, Or.inl rfl, Or.inl rfl,
          Or.inl rfl⟩
        cases hrec : s.camera.mIsRecordingVideo with
        | true => simp [stopRecordingVideo, hcrash]
        | false => simp_all
  | none =>
    refine Or.inr ⟨by simp, s.mPreviewSession, s.requested, s.closing, ?_, Or.inl rfl,
      Or.inl rfl, Or.inl rfl⟩
    simp [stopRecordingVideo, startPreview, startRecordingVideo, hdevice]

/-- **The sessions of a step** of the fragment. -/
theorem nextFragment_cases (targetDir : String) (s : Capture) (a : Action)
    (textureAvailable : Bool) (preview : SessionOutcome)
    (ha : enabled s (.fragment a textureAvailable preview)) :
    AsksFor targetDir s (.fragment a textureAvailable preview) (Camera.next targetDir s.camera a)
        (s.nextFragment targetDir a textureAvailable preview) ∨
      LeavesSessions targetDir s (.fragment a textureAvailable preview)
        (Camera.next targetDir s.camera a)
        (s.nextFragment targetDir a textureAvailable preview) := by
  cases a with
  | onOpened d => exact nextFragment_onOpened targetDir s d textureAvailable preview ha.2.1.1
  | onClick obdConnected textureAvailable timeStamp outcome =>
    exact nextFragment_onClick targetDir s obdConnected textureAvailable timeStamp outcome _ preview
  | closeCamera =>
    exact Or.inr ⟨rfl, s.mPreviewSession, s.requested, none, rfl, Or.inl rfl, Or.inl rfl,
      Or.inr rfl⟩
  | onDisconnected d =>
    exact Or.inr ⟨rfl, s.mPreviewSession, s.requested, none, rfl, Or.inl rfl, Or.inl rfl,
      Or.inr rfl⟩
  | onError d =>
    exact Or.inr ⟨rfl, s.mPreviewSession, s.requested, none, rfl, Or.inl rfl, Or.inl rfl,
      Or.inr rfl⟩
  | backgroundStopped =>
    exact Or.inr ⟨rfl, s.mPreviewSession, [], s.closing, rfl, Or.inl rfl,
      Or.inr ⟨rfl, ha.2.2.2.2 rfl⟩, Or.inl rfl⟩
  | _ => exact Or.inr (leavesSessions_of_eq rfl rfl)

end Capture

/-! ## The numbers of the cameras -/

/-- The camera has been asked for, and is not on its way any more. -/
def Past (s : CameraFragment) (d : DeviceId) : Prop := d < s.nextDevice ∧ d ∉ s.awaiting

/-- The cameras on their way have numbers of their own. -/
structure Numbered (s : CameraFragment) : Prop where
  fresh : ∀ d ∈ s.awaiting, d < s.nextDevice
  once : s.awaiting.Nodup
  held : ∀ d, s.mCameraDevice = some d → Past s d

/-- A step asks for the next camera, or lets cameras arrive or fail. -/
theorem awaiting_next (targetDir : String) (s : CameraFragment) (a : Action) :
    ((Camera.next targetDir s a).nextDevice = s.nextDevice + 1 ∧
        (Camera.next targetDir s a).awaiting = s.nextDevice :: s.awaiting) ∨
      (Camera.next targetDir s a).nextDevice = s.nextDevice ∧
        (Camera.next targetDir s a).awaiting.Sublist s.awaiting := by
  by_cases hrecording : IsRecordingStep a
  · have hpart := cameraPart_next targetDir s a hrecording
    have hawaiting : (Camera.next targetDir s a).awaiting = s.awaiting :=
      congrArg CameraPart.awaiting hpart
    exact Or.inr ⟨congrArg CameraPart.nextDevice hpart, hawaiting ▸ List.Sublist.refl _⟩
  · cases a with
    | openCamera outcome =>
      by_cases hp : s.permits = 0
      · right
        cases outcome <;> simp [Camera.next, CameraFragment.openCamera, hp, crashed]
      · cases outcome <;> simp [Camera.next, CameraFragment.openCamera, hp, crashed]
    | onOpened d => exact Or.inr ⟨rfl, List.erase_sublist⟩
    | onDisconnected d => exact Or.inr ⟨rfl, List.erase_sublist⟩
    | onError d => exact Or.inr ⟨rfl, List.erase_sublist⟩
    | onPause => exact Or.inr ⟨rfl, List.Sublist.refl _⟩
    | acquired => exact Or.inr ⟨rfl, List.Sublist.refl _⟩
    | acquireInterrupted => exact Or.inr ⟨rfl, List.Sublist.refl _⟩
    | closeCamera => exact Or.inr ⟨rfl, List.Sublist.refl _⟩
    | backgroundStopped => exact Or.inr ⟨rfl, List.Sublist.refl _⟩
    | _ => exact absurd trivial hrecording

/-- The held camera is replaced, given up or kept. -/
theorem device_next (targetDir : String) (s : CameraFragment) (a : Action) :
    (∃ d, a = .onOpened d ∧ Camera.next targetDir s a = s.onOpened d) ∨
      (begun a = some a ∧ (Camera.next targetDir s a).mCameraDevice = none) ∨
      (Camera.next targetDir s a).mCameraDevice = s.mCameraDevice := by
  by_cases hrecording : IsRecordingStep a
  · have hpart := cameraPart_next targetDir s a hrecording
    exact Or.inr (Or.inr (congrArg CameraPart.mCameraDevice hpart))
  · cases a with
    | openCamera outcome =>
      refine Or.inr (Or.inr ?_)
      by_cases hp : s.permits = 0
      · cases outcome <;> simp [Camera.next, CameraFragment.openCamera, hp, crashed]
      · cases outcome <;> simp [Camera.next, CameraFragment.openCamera, hp, crashed]
    | onOpened d => exact Or.inl ⟨d, rfl, rfl⟩
    | onDisconnected d => exact Or.inr (Or.inl ⟨rfl, rfl⟩)
    | onError d => exact Or.inr (Or.inl ⟨rfl, rfl⟩)
    | closeCamera => exact Or.inr (Or.inl ⟨rfl, rfl⟩)
    | onPause => exact Or.inr (Or.inr rfl)
    | acquired => exact Or.inr (Or.inr rfl)
    | acquireInterrupted => exact Or.inr (Or.inr rfl)
    | backgroundStopped => exact Or.inr (Or.inr rfl)
    | _ => exact absurd trivial hrecording

theorem past_next (targetDir : String) {s : CameraFragment} {d : DeviceId} (a : Action)
    (h : Past s d) : Past (Camera.next targetDir s a) d := by
  obtain ⟨hlt, hgone⟩ := h
  rcases awaiting_next targetDir s a with ⟨hcount, hawaiting⟩ | ⟨hcount, hawaiting⟩
  · refine ⟨hcount ▸ Nat.lt_succ_of_lt hlt, ?_⟩
    rw [hawaiting, List.mem_cons, not_or]
    exact ⟨Nat.ne_of_lt hlt, hgone⟩
  · exact ⟨hcount ▸ hlt, fun hmem => hgone (hawaiting.subset hmem)⟩

theorem numbered_next (targetDir : String) {s : CameraFragment} (h : Numbered s) (a : Action)
    (ha : Camera.enabled s a) : Numbered (Camera.next targetDir s a) := by
  have hheld : ∀ d, (Camera.next targetDir s a).mCameraDevice = some d →
      Past (Camera.next targetDir s a) d := by
    intro d hd
    rcases device_next targetDir s a with ⟨d', rfl, hnext⟩ | ⟨-, hnone⟩ | hkept
    · rw [hnext] at hd ⊢
      obtain rfl := Option.some.inj hd
      have hmem := ha.2.2
      exact ⟨h.fresh _ hmem, fun herased => (h.once.mem_erase_iff.1 herased).1 rfl⟩
    · cases hnone.symm.trans hd
    · exact past_next targetDir a (h.held d (hkept.symm.trans hd))
  rcases awaiting_next targetDir s a with ⟨hcount, hawaiting⟩ | ⟨hcount, hawaiting⟩
  · refine ⟨?_, ?_, hheld⟩
    · intro d hd
      rw [hawaiting] at hd
      rw [hcount]
      rcases List.mem_cons.1 hd with rfl | hd
      · exact Nat.lt_succ_self _
      · exact Nat.lt_succ_of_lt (h.fresh d hd)
    · rw [hawaiting]
      exact List.nodup_cons.2 ⟨fun hmem => Nat.lt_irrefl _ (h.fresh _ hmem), h.once⟩
  · exact ⟨fun d hd => hcount ▸ h.fresh d (hawaiting.subset hd), h.once.sublist hawaiting, hheld⟩

namespace Capture

/-! ## The invariant -/

/-- At most one session is on its way: that of the builder that is stored, for the camera
that is held, if one is.  It is over before a camera is given up. -/
structure Own (s : Capture) : Prop where
  alive : s.crashed = false
  numbered : Numbered s.camera
  made : ∀ builder ∈ s.mPreviewRequestBuilder, builder < s.nextBuilder
  one : s.onTheirWay.length ≤ 1
  own : ∀ session ∈ s.onTheirWay, s.mPreviewRequestBuilder = some session.builder ∧
    Past s.camera session.device ∧
    (s.camera.mCameraDevice ≠ none → s.camera.mCameraDevice = some session.device)
  stored : s.camera.crash = none → s.camera.mCameraDevice ≠ none →
    ∀ session ∈ s.configuring, s.mPreviewSession = some session
  checked : s.checked = true → s.configuring ≠ none ∧ s.camera.mCameraDevice ≠ none
  closing : s.closing ≠ none → s.camera.mCameraDevice ≠ none → s.onTheirWay = []

theorem mem_onTheirWay {s : Capture} {session : CaptureSession} :
    session ∈ s.onTheirWay ↔ session ∈ s.requested ∨ s.configuring = some session := by
  simp [onTheirWay]

theorem onTheirWay_eq_nil {s : Capture} :
    s.onTheirWay = [] ↔ s.requested = [] ∧ s.configuring = none := by
  simp [onTheirWay]

theorem Own.ownRequest {s : Capture} (h : Own s) : OwnRequest s := by
  refine ⟨h.alive, fun hcrash hchecked session hsession => ?_⟩
  obtain ⟨hsome, hdevice⟩ := h.checked hchecked
  obtain ⟨hbuilder, -, hown⟩ := h.own session (mem_onTheirWay.2 (Or.inr hsession))
  refine ⟨h.stored hcrash hdevice session hsession, hbuilder, hown hdevice, ?_⟩
  apply Classical.not_not.1
  intro hclosing
  exact hsome (onTheirWay_eq_nil.1 (h.closing hclosing hdevice)).2

/-- While no `onConfigured` runs and the UI thread closes nothing, only the sessions to come
count. -/
theorem own_of_idle {s : Capture} (halive : s.crashed = false) (hnumbered : Numbered s.camera)
    (hmade : ∀ builder ∈ s.mPreviewRequestBuilder, builder < s.nextBuilder)
    (hidle : s.configuring = none) (hchecked : s.checked = false) (hclosing : s.closing = none)
    (hone : s.requested.length ≤ 1)
    (hown : ∀ session ∈ s.requested, s.mPreviewRequestBuilder = some session.builder ∧
      Past s.camera session.device ∧ s.camera.mCameraDevice = some session.device) : Own s := by
  have hway : s.onTheirWay = s.requested := by simp [onTheirWay, hidle]
  refine ⟨halive, hnumbered, hmade, hway ▸ hone, ?_, ?_, ?_, ?_⟩
  · intro session hsession
    obtain ⟨hbuilder, hpast, hdevice⟩ := hown session (hway ▸ hsession)
    exact ⟨hbuilder, hpast, fun _ => hdevice⟩
  · intro _ _ session hsession
    cases hidle.symm.trans hsession
  · intro hc
    cases hchecked.symm.trans hc
  · intro hc
    exact absurd hclosing hc

theorem Own.createCaptureSession {s : Capture} (h : Own s) {camera : CameraFragment}
    {device : DeviceId} (recording : Bool) (outcome : SessionOutcome)
    (hidle : s.configuring = none) (hfree : outcome ≠ .requestFails → s.requested = [])
    (hclosing : s.closing = none) (hnumbered : Numbered camera)
    (hdevice : camera.mCameraDevice = some device)
    (hold : ∀ session ∈ s.onTheirWay, Past camera session.device ∧
      camera.mCameraDevice = some session.device) :
    Own (({ s with camera := camera } :
      Capture).closePreviewSession.createCaptureSession device recording outcome) := by
  have hchecked : s.checked = false :=
    Bool.eq_false_iff.2 fun hc => (h.checked hc).1 hidle
  have hmade : ∀ builder ∈ some s.nextBuilder, builder < s.nextBuilder + 1 := by
    intro builder hbuilder
    obtain rfl := Option.some.inj hbuilder
    exact Nat.lt_succ_self _
  cases outcome with
  | requestFails =>
    have hway : s.onTheirWay = s.requested := by simp [onTheirWay, hidle]
    refine own_of_idle h.alive hnumbered h.made hidle hchecked hclosing (hway ▸ h.one) ?_
    intro session hsession
    have hmem : session ∈ s.onTheirWay := hway ▸ hsession
    exact ⟨(h.own session hmem).1, hold session hmem⟩
  | sessionFails =>
    have hempty : s.requested = [] := hfree (by simp)
    refine own_of_idle h.alive hnumbered hmade hidle hchecked hclosing ?_ ?_
    · simp [Capture.createCaptureSession, closePreviewSession, hempty]
    · simp [Capture.createCaptureSession, closePreviewSession, hempty]
  | requested =>
    have hempty : s.requested = [] := hfree (by simp)
    refine own_of_idle h.alive hnumbered hmade hidle hchecked hclosing ?_ ?_
    · simp [Capture.createCaptureSession, closePreviewSession, hempty]
    · intro session hsession
      have hnew : session = ⟨device, s.nextBuilder, recording⟩ := by
        simpa [Capture.createCaptureSession, closePreviewSession, hempty] using hsession
      rw [hnew]
      exact ⟨rfl, hnumbered.held device hdevice, hdevice⟩

/-- The camera only changes while no session is on its way. -/
theorem Own.device_kept (targetDir : String) {s : Capture} (h : Own s) (a : Action)
    (textureAvailable : Bool) (preview : SessionOutcome)
    (hok : AsksAlone targetDir s (.fragment a textureAvailable preview))
    (ha : enabled s (.fragment a textureAvailable preview)) :
    s.onTheirWay = [] ∨ (Camera.next targetDir s.camera a).mCameraDevice =
      s.camera.mCameraDevice := by
  rcases device_next targetDir s.camera a with ⟨d, rfl, -⟩ | ⟨hbegun, hnone⟩ | hkept
  · exact Or.inl (hok.camera trivial)
  · obtain ⟨-, -, -, hclosing, -⟩ := ha
    by_cases hdevice : s.camera.mCameraDevice = none
    · exact Or.inr (hnone.trans hdevice.symm)
    · rcases hclosing with hclosing | rfl | rfl
      · exact Or.inl (h.closing (by simp [hclosing, hbegun]) hdevice)
      · cases hbegun
      · cases hbegun
  · exact Or.inr hkept

/-- A session on its way stays that of the camera that is held. -/
theorem Own.own_fragment (targetDir : String) {s : Capture} (h : Own s) (a : Action)
    (hkept : s.onTheirWay = [] ∨ (Camera.next targetDir s.camera a).mCameraDevice =
      s.camera.mCameraDevice) :
    ∀ session ∈ s.onTheirWay, s.mPreviewRequestBuilder = some session.builder ∧
      Past (Camera.next targetDir s.camera a) session.device ∧
      ((Camera.next targetDir s.camera a).mCameraDevice ≠ none →
        (Camera.next targetDir s.camera a).mCameraDevice = some session.device) := by
  intro session hsession
  obtain ⟨hbuilder, hpast, hdevice⟩ := h.own session hsession
  refine ⟨hbuilder, past_next targetDir a hpast, ?_⟩
  rcases hkept with hempty | hkept
  · exact absurd (hempty ▸ hsession) List.not_mem_nil
  · rw [hkept]
    exact hdevice

/-- A step that asks for a session comes when the UI thread closes nothing. -/
theorem closing_of_asks (targetDir : String) {s : Capture} {a : Action} {textureAvailable : Bool}
    {preview outcome : SessionOutcome} (ha : enabled s (.fragment a textureAvailable preview))
    (hasks : outcome ∈ asks targetDir s (.fragment a textureAvailable preview)) :
    s.closing = none := by
  have hbegun : begun a = none := by
    cases a with
    | closeCamera => cases hasks
    | onDisconnected d => cases hasks
    | onError d => cases hasks
    | _ => rfl
  rcases ha.2.2.2.1 with hclosing | rfl | rfl
  · exact hclosing.trans hbegun
  · cases hasks
  · cases hasks

/-- A step that asks for no session leaves those on their way, or ends some. -/
theorem Own.left (targetDir : String) {s : Capture} (h : Own s) (a : Action)
    (ha : Camera.enabled s.camera a)
    (hkept : s.onTheirWay = [] ∨ (Camera.next targetDir s.camera a).mCameraDevice =
      s.camera.mCameraDevice)
    {session : Option CaptureSession} {requested : List CaptureSession} {closing : Option Action}
    (hsession : session = s.mPreviewSession ∨ (Camera.next targetDir s.camera a).crash ≠ none)
    (hsub : (requested ++ s.configuring.toList).Sublist s.onTheirWay)
    (hclosing : closing = s.closing ∨ closing = none) :
    Own { s with
      camera := Camera.next targetDir s.camera a
      mPreviewSession := session
      requested := requested
      closing := closing } := by
  have hempty : s.onTheirWay = [] → requested ++ s.configuring.toList = [] :=
    fun he => List.sublist_nil.1 (he ▸ hsub)
  refine ⟨h.alive, numbered_next targetDir h.numbered a ha, h.made,
    Nat.le_trans hsub.length_le h.one,
    fun r hr => h.own_fragment targetDir a hkept r (hsub.subset hr), ?_, ?_, ?_⟩
  · intro hcrash hdevice r hr
    have hmem : r ∈ s.onTheirWay := mem_onTheirWay.2 (Or.inr hr)
    rcases hkept with hnone | hkept
    · exact absurd (hnone ▸ hmem) List.not_mem_nil
    · rcases hsession with rfl | hcrashed
      · exact h.stored ha.1 (hkept ▸ hdevice) r hr
      · exact absurd hcrash hcrashed
  · intro hchecked
    obtain ⟨hsome, hdevice⟩ := h.checked hchecked
    refine ⟨hsome, ?_⟩
    rcases hkept with hnone | hkept
    · exact absurd (onTheirWay_eq_nil.1 hnone).2 hsome
    · rw [hkept]
      exact hdevice
  · intro hsome hdevice
    rcases hkept with hnone | hkept
    · exact hempty hnone
    · rcases hclosing with rfl | rfl
      · exact hempty (h.closing hsome (hkept ▸ hdevice))
      · exact absurd rfl hsome

theorem Own.fragment (targetDir : String) {s : Capture} (h : Own s) (a : Action)
    (textureAvailable : Bool) (preview : SessionOutcome)
    (hok : AsksAlone targetDir s (.fragment a textureAvailable preview))
    (ha : enabled s (.fragment a textureAvailable preview)) :
    Own (s.nextFragment targetDir a textureAvailable preview) := by
  have hkept := h.device_kept targetDir a textureAvailable preview hok ha
  rcases nextFragment_cases targetDir s a textureAvailable preview ha with
    ⟨device, recording, outcome, hasks, hnext, -, hdevice⟩ |
      ⟨-, session, requested, closing, hnext, hsession, hrequested, hclosing⟩
  · obtain ⟨hidle, hfree⟩ := hok.session outcome hasks
    rw [hnext]
    refine h.createCaptureSession recording outcome hidle hfree (closing_of_asks targetDir ha hasks)
      (numbered_next targetDir h.numbered a ha.2.1) hdevice ?_
    intro session hsession
    obtain ⟨-, hpast, hown⟩ := h.own_fragment targetDir a hkept session hsession
    exact ⟨hpast, hown (by simp [hdevice])⟩
  · rw [hnext]
    refine h.left targetDir a ha.2.1 hkept hsession ?_ hclosing
    rcases hrequested with rfl | ⟨rfl, -⟩
    · exact List.Sublist.refl _
    · exact (List.nil_sublist _).append (List.Sublist.refl _)

/-- What becomes of a state when the session is over, or `updatePreview` returns. -/
theorem Own.finished {s t : Capture} (h : Own s) (halive : t.crashed = false)
    (hcamera : cameraPart t.camera = cameraPart s.camera)
    (hbuilder : t.mPreviewRequestBuilder = s.mPreviewRequestBuilder)
    (hcount : t.nextBuilder = s.nextBuilder) (hclosing : t.closing = s.closing)
    (hchecked : t.checked = false) (hsub : t.onTheirWay.Sublist s.onTheirWay)
    (hidle : t.configuring = none) : Own t := by
  have hdevice : t.camera.mCameraDevice = s.camera.mCameraDevice :=
    congrArg CameraPart.mCameraDevice hcamera
  have hnumber : t.camera.nextDevice = s.camera.nextDevice :=
    congrArg CameraPart.nextDevice hcamera
  have hawaiting : t.camera.awaiting = s.camera.awaiting := congrArg CameraPart.awaiting hcamera
  have hpast : ∀ d, Past s.camera d → Past t.camera d := by
    intro d hd
    rw [Past, hnumber, hawaiting]
    exact hd
  refine ⟨halive, ⟨?_, ?_, ?_⟩, ?_, Nat.le_trans hsub.length_le h.one, ?_, ?_, ?_, ?_⟩
  · rw [hawaiting, hnumber]
    exact h.numbered.fresh
  · rw [hawaiting]
    exact h.numbered.once
  · intro d hd
    exact hpast d (h.numbered.held d (hdevice ▸ hd))
  · rw [hbuilder, hcount]
    exact h.made
  · intro session hsession
    obtain ⟨hown, hold, hheld⟩ := h.own session (hsub.subset hsession)
    rw [hbuilder, hdevice]
    exact ⟨hown, hpast _ hold, hheld⟩
  · intro _ _ session hsession
    cases hidle.symm.trans hsession
  · intro hc
    cases hchecked.symm.trans hc
  · intro hsome hheld
    rw [hclosing] at hsome
    rw [hdevice] at hheld
    exact List.sublist_nil.1 (h.closing hsome hheld ▸ hsub)

theorem Own.configured (targetDir : String) {s : Capture} (h : Own s) :
    Own (s.configured targetDir) := by
  have hsub : (s.requested ++ []).Sublist s.onTheirWay :=
    (List.Sublist.refl _).append (List.nil_sublist _)
  unfold Capture.configured
  split
  · exact h.finished h.alive rfl rfl rfl rfl rfl hsub rfl
  · exact h.finished h.alive rfl rfl rfl rfl rfl hsub rfl

/-- The UI thread begins to give up the camera. -/
theorem Own.startsClosing {s : Capture} (h : Own s) (a : Action) (session : Option CaptureSession)
    (hempty : s.camera.mCameraDevice ≠ none → s.onTheirWay = []) :
    Own { s with mPreviewSession := session, closing := some a } := by
  refine ⟨h.alive, h.numbered, h.made, h.one, h.own, ?_, ?_, fun _ => hempty⟩
  · intro _ hdevice r hr
    cases (onTheirWay_eq_nil.1 (hempty hdevice)).2.symm.trans hr
  · intro hc
    obtain ⟨hsome, hdevice⟩ := h.checked hc
    exact absurd (onTheirWay_eq_nil.1 (hempty hdevice)).2 hsome

theorem Own.onConfigured {s : Capture} (h : Own s) {session : CaptureSession}
    (hidle : s.configuring = none) (hmem : session ∈ s.requested) :
    Own { s with
      mPreviewSession := some session
      requested := s.requested.erase session
      configuring := some session } := by
  have hway : s.onTheirWay = s.requested := by simp [onTheirWay, hidle]
  have hlast : s.requested = [session] := by
    have hone := h.one
    rw [hway] at hone
    obtain ⟨r, hr⟩ := List.length_eq_one_iff.1
      (Nat.le_antisymm hone (List.length_pos_of_mem hmem))
    rw [hr, List.mem_singleton] at hmem
    rw [hr, hmem]
  have hsame : s.requested.erase session ++ (some session).toList = s.onTheirWay := by
    simp [hway, hlast]
  refine ⟨h.alive, h.numbered, h.made, ?_, ?_, fun _ _ r hr => hr, ?_, ?_⟩
  · exact Nat.le_trans (Nat.le_of_eq (congrArg List.length hsame)) h.one
  · intro r hr
    exact h.own r (hsame ▸ hr)
  · intro hc
    exact absurd hidle (h.checked hc).1
  · intro hsome hdevice
    exact hsame.trans (h.closing hsome hdevice)

/-- **One step.** -/
theorem Own.next (targetDir : String) {s : Capture} (h : Own s) (a : CaptureAction)
    (hok : AsksAlone targetDir s a) (ha : enabled s a) : Own (next targetDir s a) := by
  cases a with
  | fragment a textureAvailable preview => exact h.fragment targetDir a _ preview hok ha
  | startsClosing a =>
    cases a with
    | closeCamera => exact h.startsClosing _ none hok.camera
    | _ => exact h.startsClosing _ s.mPreviewSession hok.camera
  | onConfigured session => exact h.onConfigured ha.2.1 ha.2.2
  | updatePreview =>
    simp only [Capture.next]
    split
    · exact h.configured targetDir
    · rename_i hdevice
      exact ⟨h.alive, h.numbered, h.made, h.one, h.own, h.stored,
        fun _ => ⟨ha.2.1, hdevice⟩, h.closing⟩
  | setRepeatingRequest =>
    obtain ⟨⟨hcrash, -⟩, hsome, hchecked, -⟩ := ha
    obtain ⟨session, hsession⟩ := Option.ne_none_iff_exists'.1 hsome
    have hhas := h.ownRequest.2 hcrash hchecked session hsession
    have hsession : s.HasSession := by simp [HasSession, hhas.stored, hhas.builder]
    simp only [Capture.next, if_pos hsession]
    exact h.configured targetDir
  | onConfigureFailed session =>
    have hidle := ha.2.1
    have hsub : ((s.requested.erase session) ++ s.configuring.toList).Sublist s.onTheirWay :=
      List.erase_sublist.append (List.Sublist.refl _)
    have hcamera : cameraPart (if session.recording = true then
        Camera.next targetDir s.camera .onConfigureFailed else s.camera) = cameraPart s.camera :=
      cameraPart_ite _ rfl rfl
    refine h.finished h.alive hcamera rfl rfl rfl ?_ hsub hidle
    cases hc : s.checked with
    | false => exact hc
    | true => exact absurd hidle (h.checked hc).1

/-! ## Every other step mixes sessions up -/

/-- Callbacks are always allowed. -/
theorem asksAlone_callback (targetDir : String) (s : Capture) (a : CaptureAction)
    (ha : ¬ ChangesCamera s a) (hasks : asks targetDir s a = none) : AsksAlone targetDir s a :=
  ⟨fun hchanges => absurd hchanges ha, fun outcome houtcome => by cases hasks.symm.trans houtcome⟩

/-- A session is being configured that is not stored with its builder and its camera. -/
theorem mixed_of_configuring (targetDir : String) {s : Capture} {session : CaptureSession}
    (hrunning : s.Running) (hsession : s.configuring = some session)
    (hdevice : s.camera.mCameraDevice ≠ none) (hmixed : ¬ s.Has session) :
    ∃ t, (capture targetDir).Steps (AsksAlone targetDir) s t ∧ ¬ OwnRequest t := by
  cases hchecked : s.checked with
  | true =>
    exact ⟨s, Steps.refl s, fun hown => hmixed (hown.2 hrunning.1 hchecked session hsession)⟩
  | false =>
    have hnext : next targetDir s .updatePreview = { s with checked := true } := if_neg hdevice
    refine ⟨_, Steps.guarded CaptureAction.updatePreview
      (asksAlone_callback targetDir s _ id rfl)
      ⟨hrunning, by simp [hsession], hchecked, fun hnone => absurd hnone hdevice⟩, ?_⟩
    rw [hnext]
    intro hown
    have hhas := hown.2 hrunning.1 rfl session hsession
    exact hmixed ⟨hhas.stored, hhas.builder, hhas.device, hhas.opened⟩

/-- A session is to come whose builder or camera is not the one that is stored, or whose
camera is being closed. -/
theorem mixed_of_requested (targetDir : String) {s : Capture} {session : CaptureSession}
    (hrunning : s.Running) (hidle : s.configuring = none) (hmem : session ∈ s.requested)
    (hdevice : s.camera.mCameraDevice ≠ none)
    (hmixed : s.mPreviewRequestBuilder ≠ some session.builder ∨
      s.camera.mCameraDevice ≠ some session.device ∨ s.closing ≠ none) :
    ∃ t, (capture targetDir).Steps (AsksAlone targetDir) s t ∧ ¬ OwnRequest t := by
  have hstep : (capture targetDir).Steps (AsksAlone targetDir) s
      (next targetDir s (.onConfigured session)) :=
    Steps.guarded (CaptureAction.onConfigured session)
      (asksAlone_callback targetDir s _ id rfl) ⟨hrunning, hidle, hmem⟩
  have hnot : ¬ (next targetDir s (.onConfigured session)).Has session := by
    intro hhas
    rcases hmixed with hmixed | hmixed | hmixed
    · exact hmixed hhas.builder
    · exact hmixed hhas.device
    · exact hmixed hhas.opened
  have hrunning : (next targetDir s (.onConfigured session)).Running := hrunning
  obtain ⟨t, hsteps, ht⟩ := mixed_of_configuring targetDir hrunning rfl hdevice hnot
  exact ⟨t, hstep.trans hsteps, ht⟩

/-- A camera is given up or replaced while a session is on its way. -/
theorem mixed_of_changes (targetDir : String) {s t : Capture} (hway : s.onTheirWay ≠ [])
    (hsub : s.requested ⊆ t.requested ∧ t.configuring = s.configuring) (hrunning : t.Running)
    (hdevice : t.camera.mCameraDevice ≠ none)
    (hmixed : ∀ session ∈ s.onTheirWay,
      t.camera.mCameraDevice ≠ some session.device ∨ t.closing ≠ none) :
    ∃ u, (capture targetDir).Steps (AsksAlone targetDir) t u ∧ ¬ OwnRequest u := by
  cases hsession : s.configuring with
  | some session =>
    apply mixed_of_configuring targetDir hrunning (hsub.2.trans hsession) hdevice
    intro hhas
    rcases hmixed session (mem_onTheirWay.2 (Or.inr hsession)) with hother | hclosing
    · exact hother hhas.device
    · exact hclosing hhas.opened
  | none =>
    have hrequested : s.requested ≠ [] :=
      fun hempty => hway (onTheirWay_eq_nil.2 ⟨hempty, hsession⟩)
    obtain ⟨session, hmem⟩ := List.exists_mem_of_ne_nil _ hrequested
    exact mixed_of_requested targetDir hrunning (hsub.2.trans hsession) (hsub.1 hmem) hdevice
      (Or.inr (hmixed session (mem_onTheirWay.2 (Or.inl hmem))))

/-- `startPreview` only adds a session. -/
theorem startPreview_adds (s : Capture) (textureAvailable : Bool) (outcome : SessionOutcome) :
    s.requested ⊆ (s.startPreview textureAvailable outcome).requested ∧
      (s.startPreview textureAvailable outcome).configuring = s.configuring ∧
      (s.startPreview textureAvailable outcome).crashed = s.crashed := by
  unfold startPreview
  split
  · cases outcome with
    | requested => exact ⟨List.subset_append_left _ _, rfl, rfl⟩
    | _ => exact ⟨List.Subset.refl _, rfl, rfl⟩
  · exact ⟨List.Subset.refl _, rfl, rfl⟩

/-- A builder is made, or `mPreviewSession` is closed, while a session is on its way. -/
theorem mixed_of_asks (targetDir : String) {s : Capture} (h : Own s) (camera : CameraFragment)
    {device : DeviceId} (recording : Bool) (outcome : SessionOutcome) (hcrash : camera.crash = none)
    (hdevice : camera.mCameraDevice = some device)
    (hbusy : ¬ (s.configuring = none ∧ (outcome ≠ .requestFails → s.requested = []))) :
    ∃ t, (capture targetDir).Steps (AsksAlone targetDir) (({ s with camera := camera } :
      Capture).closePreviewSession.createCaptureSession device recording outcome) t ∧
        ¬ OwnRequest t := by
  rcases Option.eq_none_or_eq_some s.configuring with hidle | ⟨session, hsession⟩
  · obtain ⟨hbuilds, hrequested⟩ := Classical.not_imp.1 fun hfree => hbusy ⟨hidle, hfree⟩
    obtain ⟨session, hmem⟩ := List.exists_mem_of_ne_nil _ hrequested
    have hbuilder := (h.own session (mem_onTheirWay.2 (Or.inl hmem))).1
    have hother : some s.nextBuilder ≠ some session.builder :=
      fun he => Nat.ne_of_gt (h.made session.builder hbuilder) (Option.some.inj he)
    have hheld : camera.mCameraDevice ≠ none := by simp [hdevice]
    cases outcome with
    | requestFails => exact absurd rfl hbuilds
    | sessionFails =>
      exact mixed_of_requested targetDir ⟨hcrash, h.alive⟩ hidle hmem hheld (Or.inl hother)
    | requested =>
      exact mixed_of_requested targetDir ⟨hcrash, h.alive⟩ hidle (List.mem_append_left _ hmem)
        hheld (Or.inl hother)
  · apply mixed_of_configuring targetDir
    · cases outcome <;> exact ⟨hcrash, h.alive⟩
    · show _ = some session
      cases outcome <;> exact hsession
    · cases outcome <;> simp [Capture.createCaptureSession, closePreviewSession, hdevice]
    · intro hhas
      have hstored := hhas.stored
      cases outcome <;> cases hstored

/-- A camera is given up or replaced while a session is on its way. -/
theorem mixed_of_changesCamera (targetDir : String) {s : Capture} (h : Own s) (a : CaptureAction)
    (ha : enabled s a) (hchanges : ChangesCamera s a) (hway : s.onTheirWay ≠ []) :
    ∃ t, (capture targetDir).Steps (AsksAlone targetDir) (next targetDir s a) t ∧
      ¬ OwnRequest t := by
  cases a with
  | fragment a textureAvailable preview =>
    cases a with
    | onOpened d =>
      obtain ⟨halive, ⟨hcrash, -, hmem⟩, -⟩ := ha
      obtain ⟨hrequested, hconfiguring, hcrashed⟩ := startPreview_adds
        { s with camera := s.camera.onOpened d } textureAvailable preview
      have hcamera := camera_startPreview { s with camera := s.camera.onOpened d }
        textureAvailable preview
      apply mixed_of_changes targetDir hway ⟨hrequested, hconfiguring⟩
      · exact ⟨(congrArg CameraFragment.crash hcamera).trans hcrash, hcrashed.trans halive⟩
      · exact fun hnone => by cases hnone.symm.trans (congrArg mCameraDevice hcamera)
      · intro session hsession
        left
        intro hother
        obtain rfl := Option.some.inj
          ((congrArg mCameraDevice hcamera).symm.trans hother : some d = some session.device)
        exact (h.own session hsession).2.1.2 hmem
    | _ => exact absurd hchanges id
  | startsClosing a =>
    obtain ⟨halive, ⟨hcrash, -⟩, -⟩ := ha
    cases a with
    | closeCamera =>
      exact mixed_of_changes targetDir hway ⟨List.Subset.refl _, rfl⟩ ⟨hcrash, halive⟩ hchanges
        fun _ _ => Or.inr (by simp [Capture.next])
    | _ =>
      exact mixed_of_changes targetDir hway ⟨List.Subset.refl _, rfl⟩ ⟨hcrash, halive⟩ hchanges
        fun _ _ => Or.inr (by simp [Capture.next])
  | _ => exact absurd hchanges id

/-- A session is asked for while one is on its way. -/
theorem mixed_of_asksMore (targetDir : String) {s : Capture} (h : Own s) (a : CaptureAction)
    (ha : enabled s a) {outcome : SessionOutcome} (hasks : outcome ∈ asks targetDir s a)
    (hbusy : ¬ (s.configuring = none ∧ (outcome ≠ .requestFails → s.requested = []))) :
    ∃ t, (capture targetDir).Steps (AsksAlone targetDir) (next targetDir s a) t ∧
      ¬ OwnRequest t := by
  cases a with
  | fragment a textureAvailable preview =>
    rcases nextFragment_cases targetDir s a textureAvailable preview ha with
      ⟨device, recording, outcome', hasks', hnext, hcrash, hdevice⟩ | ⟨hnone, -⟩
    · obtain rfl := Option.some.inj (hasks.symm.trans hasks')
      have hmixed := mixed_of_asks targetDir h (Camera.next targetDir s.camera a) recording
        outcome hcrash hdevice hbusy
      rw [← hnext] at hmixed
      exact hmixed
    · cases hnone.symm.trans hasks
  | _ => cases hasks

end Capture

open Capture

/-- **Requests and sessions.**  In every interleaving of the UI thread's clicks, openings and
pauses with the background thread's callbacks of the sessions, `updatePreview` finds its
session, and each session gets the request that was made for it, exactly as long as a
session is only asked for, and the camera only given up or replaced, when no session is on
its way. -/
theorem ownRequest_exact (targetDir : String) :
    (capture targetDir).Exact (AsksAlone targetDir) OwnRequest := by
  apply exact_guarded Own
  · exact ⟨rfl, ⟨by simp, by simp, by simp⟩, by simp, by simp [onTheirWay],
      by simp [onTheirWay], by simp, by simp, by simp⟩
  · intro s a h hok ha
    exact h.next targetDir a hok ha
  · intro s h
    exact h.ownRequest
  · intro s a h hnot ha
    by_cases hcamera : ChangesCamera s a → s.onTheirWay = []
    · obtain ⟨outcome, houtcome⟩ :=
        Classical.not_forall.1 fun hsession => hnot ⟨hcamera, hsession⟩
      obtain ⟨hasks, hbusy⟩ := Classical.not_imp.1 houtcome
      exact mixed_of_asksMore targetDir h a ha hasks hbusy
    · obtain ⟨hchanges, hway⟩ := Classical.not_imp.1 hcamera
      exact mixed_of_changesCamera targetDir h a ha hchanges hway

/-- A pause closes the preview session between the two halves of `updatePreview`. -/
example : ((capture "/Movies").exec {}
    [.fragment (.openCamera .requested) true .requested, .fragment (.onOpened 0) true .requested,
      .onConfigured ⟨0, 0, false⟩, .updatePreview, .fragment .onPause true .requested,
      .fragment .acquired true .requested, .startsClosing .closeCamera,
      .setRepeatingRequest]).map Capture.crashed = some true := by decide

end ProjektMagisterski.Camera
