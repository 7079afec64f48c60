import ProjektMagisterski.Bluetooth.Threads

/-!
# What `getState` reports

`mState` is set to `STATE_CONNECTED` whatever became of the attempt, and no
method sets it back: the `setState` of `start` is commented out.

* `lostLink_still_connected`: after a handled failure the state is `STATE_CONNECTED`
  and there is no `ConnectedThread`;
* `connectionState_exact`: the state tells the truth exactly as long as no
  failure is handled, and no `start` called, once it is `STATE_CONNECTED`.
-/

namespace ProjektMagisterski.Bluetooth

open Function (update)
open Session Lib.Machine

/-- No `connect` executes and no thread has a failure to handle. -/
def Quiescent (s : Session) : Prop :=
  s.executing = none ∧
    ∀ t, s.Runs t → (s.sockets (s.connectedThreads t).mSocket).isLive = true

/-- The guard of `CameraFragment.onClick` before it starts a recording. -/
def admitsRecording (s : Session) : Bool := s.getState = .stateConnected

/-- The held thread has not ended and its socket is connected and not closed. -/
def Connected (s : Session) : Prop :=
  ∃ t, s.mConnectedThread = some t ∧ s.Runs t ∧
    (s.sockets (s.connectedThreads t).mSocket).isConnected = true

/-- In a quiescent session `getState` says whether there is a connection, and a
recording is only admitted while a thread can sample. -/
def TellsTruth (s : Session) : Prop :=
  Quiescent s →
    (s.getState = .stateConnected ↔ Connected s) ∧
      (admitsRecording s = true → ∃ t, s.mConnectedThread = some t ∧ enabled s (.samples t))

/-- The held threads are not cleared while the state is `STATE_CONNECTED`. -/
def KeepsConnection (s : Session) : Action → Prop
  | .start | .clearThreads | .ioException _ => s.getState ≠ .stateConnected
  | _ => True

/-- One connection, whose link is lost. -/
theorem lostLink_still_connected : ∃ s, app.Reachable s ∧ ¬ TellsTruth s := by
  refine ⟨_, reachable_of_exec
    (successfulConnect "A" 0 0 ++ [.samples 0, .linkLost 0, .ioException 0]) rfl, ?_⟩
  intro h
  have hconnected := (h ⟨rfl, ?_⟩).1.1 rfl
  · obtain ⟨t, ht, -⟩ := hconnected
    cases ht
  · intro t ht
    cases t with
    | zero => exact absurd rfl ht
    | succ t => exact absurd rfl ht

/-! ## The invariant -/

/-- Between two calls, the state is `STATE_CONNECTED` when a thread is held. -/
structure Truthful (s : Session) : Prop where
  coherent : Coherent s
  held : s.executing = none → (s.mState = .stateConnected ↔ s.mConnectedThread ≠ none)

theorem truthful_clearThreads (s : Session) (h : Truthful s) (hstate : s.mState ≠ .stateConnected) :
    Truthful s.clearThreads := by
  refine ⟨h.coherent.clearThreads, fun _ => ?_⟩
  simp [clearThreads_eq, hstate]

theorem truthful_connected (s : Session) (n : SocketId) (h : Truthful s) (hn : n < s.nextSocket) :
    Truthful { s.connected n with executing := none } := by
  refine ⟨h.coherent.connected n hn, fun _ => ?_⟩
  simp [connected_eq]

theorem truthful_next (s : Session) (a : Action) (h : Truthful s) (hok : KeepsConnection s a)
    (ha : enabled s a) : Truthful (next s a) := by
  cases a with
  | connect device => exact ⟨h.coherent.next _ ha, fun he => by cases he⟩
  | joinReturns => exact ⟨h.coherent.next _ ha, fun he => by cases he⟩
  | connectReturns n => exact truthful_connected s n h (h.coherent.sharedCreated n ha.2)
  | connected n =>
    have hn := truthful_connected s n h ha.2
    rwa [connected_idle n ha.1] at hn
  | start => exact truthful_clearThreads s h hok
  | clearThreads => exact truthful_clearThreads s h hok
  | ioException t =>
    have hcleared := truthful_clearThreads s h hok
    exact ⟨h.coherent.next _ ha, hcleared.held⟩
  | _ =>
    have hq := quiet_next s _ ha rfl
    refine ⟨h.coherent.quiet hq, ?_⟩
    rw [hq.executing, hq.mState, hq.mConnectedThread]
    exact h.held

theorem tellsTruth_of_truthful (s : Session) (h : Truthful s) : TellsTruth s := by
  rintro ⟨hidle, hlive⟩
  have hheld := h.held hidle
  have hconnected : ∀ t, s.mConnectedThread = some t → s.Runs t ∧
      (s.sockets (s.connectedThreads t).mSocket).isConnected = true := by
    intro t ht
    have hruns := h.coherent.threadHeld t ht
    exact ⟨hruns, BluetoothSocket.isConnected_of_isLive (hlive t hruns)⟩
  refine ⟨⟨?_, ?_⟩, ?_⟩
  · intro hstate
    obtain ⟨t, ht⟩ := Option.ne_none_iff_exists'.1 (hheld.1 hstate)
    exact ⟨t, ht, hconnected t ht⟩
  · rintro ⟨t, ht, -⟩
    exact hheld.2 (by simp [ht])
  · intro hadmits
    have hstate : s.mState = .stateConnected := of_decide_eq_true hadmits
    obtain ⟨t, ht⟩ := Option.ne_none_iff_exists'.1 (hheld.1 hstate)
    exact ⟨t, ht, hconnected t ht⟩

/-! ## Clearing a connection -/

/-- `STATE_CONNECTED` with nothing held, and the running threads numbered below `N`
where they have a failure to handle. -/
structure Cleared (N : Nat) (s : Session) : Prop where
  idle : s.executing = none
  state : s.mState = .stateConnected
  attempt : s.mConnectThread = none
  thread : s.mConnectedThread = none
  pending : ∀ t, s.Runs t → N ≤ t → (s.sockets (s.connectedThreads t).mSocket).isLive = true

theorem lies_of_cleared (s : Session) (h : Cleared 0 s) : ¬ TellsTruth s := by
  intro htruth
  have hquiet : Quiescent s := ⟨h.idle, fun t ht => h.pending t ht (Nat.zero_le t)⟩
  obtain ⟨t, ht, -⟩ := (htruth hquiet).1.1 h.state
  rw [h.thread] at ht
  cases ht

theorem cleared_clearThreads (s : Session) (h : Coherent s) (hidle : s.executing = none)
    (hstate : s.mState = .stateConnected) : Cleared s.nextConnectedThread s.clearThreads := by
  rw [clearThreads_eq]
  refine ⟨hidle, hstate, rfl, rfl, ?_⟩
  intro t ht hle
  exact absurd (h.created t ht).1 (Nat.not_lt.2 hle)

/-- One thread fewer has a failure to handle. -/
theorem cleared_ended (s : Session) (M N : Nat) (t : ThreadId) (h : Cleared N s)
    (hM : ∀ i, i ≠ t → M ≤ i → N ≤ i) :
    Cleared M (s.setConnectedThread t { s.connectedThreads t with stage := .ended }) := by
  refine ⟨h.idle, h.state, h.attempt, h.thread, ?_⟩
  intro i hi hle
  have hne : i ≠ t := by
    rintro rfl
    simp [Runs, setConnectedThread] at hi
  have hruns : s.Runs i := by simpa [Runs, setConnectedThread, hne] using hi
  simpa [setConnectedThread, hne] using h.pending i hruns (hM i hne hle)

/-- The last pending failure is handled; there is nothing left to clear. -/
theorem cleared_ioException (s : Session) (N : Nat) (h : Cleared (N + 1) s) :
    Cleared N (next s (.ioException N)) := by
  have hnothing : s.connectionLost = s := clearThreads_of_none s h.attempt h.thread
  have hended := cleared_ended s N (N + 1) N h fun _ hne hle => Nat.lt_of_le_of_ne hle hne.symm
  simpa [next, hnothing] using hended

/-- A `ConnectedThread` handles its failure. -/
def HandlesFailure (_ : Session) : Action → Prop
  | .ioException _ => True
  | _ => False

/-- All pending failures are handled one by one, and the state remains. -/
theorem cleared_drains (N : Nat) (s : Session) (h : Cleared N s) :
    ∃ u, app.Steps HandlesFailure s u ∧ ¬ TellsTruth u := by
  induction N generalizing s with
  | zero => exact ⟨s, Steps.refl s, lies_of_cleared s h⟩
  | succ N ih =>
    by_cases hN : enabled s (.ioException N)
    · obtain ⟨u, hu, hlies⟩ := ih _ (cleared_ioException s N h)
      exact ⟨u, (Steps.guarded _ trivial hN).trans hu, hlies⟩
    · refine ih s ⟨h.idle, h.state, h.attempt, h.thread, ?_⟩
      intro t ht hle
      obtain rfl | hlt := Nat.eq_or_lt_of_le hle
      · by_contra hdead
        exact hN ⟨h.idle, ht, by simpa using hdead⟩
      · exact h.pending t ht hlt

/-- **The connection state.**  It tells the truth in every run in which the held threads are
not cleared in `STATE_CONNECTED`; once they are, it does not when the failures that are
pending at that time have been handled. -/
theorem connectionState_exact (s : Session) (h : app.ReachUnder KeepsConnection s) :
    app.ExactVia KeepsConnection HandlesFailure TellsTruth s := by
  refine exactVia_guarded Truthful ⟨Coherent.init, fun _ => by simp⟩ truthful_next
    tellsTruth_of_truthful ?_ h
  intro s a h hok ha
  suffices hcleared : Cleared s.nextConnectedThread (next s a) from cleared_drains _ _ hcleared
  cases a with
  | start => exact cleared_clearThreads s h.coherent ha (not_not.1 hok)
  | clearThreads => exact cleared_clearThreads s h.coherent ha (not_not.1 hok)
  | ioException i =>
    have hcleared := cleared_clearThreads s h.coherent ha.1 (not_not.1 hok)
    exact cleared_ended _ _ _ i hcleared fun _ _ hle => hle
  | _ => exact absurd trivial hok

/-- A first connection that samples. -/
theorem connectionState_exact_first :
    ∃ s, s.getState = .stateConnected ∧
      app.ExactVia KeepsConnection HandlesFailure TellsTruth s :=
  ⟨_, rfl, connectionState_exact _
    (exec_steps (successfulConnect "A" 0 0 ++ [.samples 0])
      (by simp [successfulConnect, successfulAttempt, initCommands, KeepsConnection]) rfl)⟩

end ProjektMagisterski.Bluetooth
