import ProjektMagisterski.Bluetooth.Model

/-!
# What the methods of `BluetoothIO` do to threads and sockets

One equation for each method that cancels threads, one frame for all steps that
enter no method, and the invariant `Coherent` of every run.

* `clearThreads_eq`, `connected_eq`: the held threads are cancelled and their
  sockets closed, everything else stays;
* `quiet_next`: a step outside the methods of `BluetoothIO` leaves its fields
  alone, ends threads at most, and reopens no socket;
* `Coherent.next`: every step keeps the session coherent; in particular a
  running `ConnectedThread` is the held one, or cancelled with its socket closed.
-/

namespace ProjektMagisterski.Bluetooth

open Function (update update_apply)

namespace Session

/-- The socket that the held `ConnectThread` has stored. -/
def connectSocket (s : Session) : Option SocketId :=
  s.mConnectThread.bind fun k => (s.connectThreads k).mSocket

/-- The socket of the held `ConnectedThread`. -/
def connectedSocket (s : Session) : Option SocketId :=
  s.mConnectedThread.map fun t => (s.connectedThreads t).mSocket

/-- The `ConnectThread` has been started and has not ended. -/
def Attempts (s : Session) (k : ThreadId) : Prop := (s.connectThreads k).stage ≠ .ended

/-- The `ConnectedThread` has been started and has not ended. -/
def Runs (s : Session) (t : ThreadId) : Prop := (s.connectedThreads t).stage ≠ .ended

instance (s : Session) (k : ThreadId) : Decidable (s.Attempts k) :=
  inferInstanceAs (Decidable (_ ≠ _))

instance (s : Session) (t : ThreadId) : Decidable (s.Runs t) :=
  inferInstanceAs (Decidable (_ ≠ _))

/-! ## Cancelling -/

theorem closeIfSet_eq (s : Session) (o : Option SocketId) :
    s.closeIfSet o =
      { s with
        sockets := fun n =>
          { s.sockets n with closed := (s.sockets n).closed || decide (o = some n) } } := by
  cases o with
  | none =>
    simp only [closeIfSet]
    simp
  | some m =>
    simp only [closeIfSet, close, setSocket]
    congr 1
    funext n
    by_cases hn : n = m
    · subst hn
      simp
    · simp [hn, Ne.symm hn]

theorem clearConnectThread_eq (s : Session) :
    s.clearConnectThread =
      { s with
        mConnectThread := none
        connectThreads := fun k =>
          { s.connectThreads k with
            cancelled := (s.connectThreads k).cancelled || decide (s.mConnectThread = some k) }
        sockets := fun n =>
          { s.sockets n with
            closed := (s.sockets n).closed || decide (s.connectSocket = some n) } } := by
  unfold clearConnectThread connectSocket
  cases hk : s.mConnectThread with
  | none =>
    obtain ⟨⟩ := s
    simp only at hk
    simp [hk]
  | some k =>
    simp only [cancelConnectThread, closeIfSet_eq, setConnectThread]
    congr 1
    funext j
    by_cases hj : j = k
    · subst hj
      simp
    · simp [hj, Ne.symm hj]

theorem clearConnectedThread_eq (s : Session) :
    s.clearConnectedThread =
      { s with
        mConnectedThread := none
        connectedThreads := fun t =>
          { s.connectedThreads t with
            cancelled := (s.connectedThreads t).cancelled || decide (s.mConnectedThread = some t) }
        sockets := fun n =>
          { s.sockets n with
            closed := (s.sockets n).closed || decide (s.connectedSocket = some n) } } := by
  unfold clearConnectedThread connectedSocket
  cases ht : s.mConnectedThread with
  | none =>
    obtain ⟨⟩ := s
    simp only at ht
    simp [ht]
  | some t =>
    have hclose := closeIfSet_eq
      (s.setConnectedThread t { s.connectedThreads t with cancelled := true })
      (some (s.connectedThreads t).mSocket)
    simp only [closeIfSet, setConnectedThread] at hclose
    simp only [cancelConnectedThread, setConnectedThread, hclose, Option.map_some]
    congr 1
    funext j
    by_cases hj : j = t
    · subst hj
      simp
    · simp [hj, Ne.symm hj]

theorem clearThreads_eq (s : Session) :
    s.clearThreads =
      { s with
        mConnectThread := none
        mConnectedThread := none
        connectThreads := fun k =>
          { s.connectThreads k with
            cancelled := (s.connectThreads k).cancelled || decide (s.mConnectThread = some k) }
        connectedThreads := fun t =>
          { s.connectedThreads t with
            cancelled := (s.connectedThreads t).cancelled || decide (s.mConnectedThread = some t) }
        sockets := fun n =>
          { s.sockets n with
            closed := (s.sockets n).closed ||
              decide (s.connectSocket = some n ∨ s.connectedSocket = some n) } } := by
  simp [clearThreads, clearConnectThread_eq, clearConnectedThread_eq, connectedSocket,
    Bool.or_assoc]

theorem clearThreads_of_none (s : Session) (hk : s.mConnectThread = none)
    (ht : s.mConnectedThread = none) : s.clearThreads = s := by
  simp [clearThreads, clearConnectThread, clearConnectedThread, hk, ht]

theorem connected_eq (s : Session) (n : SocketId) :
    s.connected n =
      { s with
        mState := .stateConnected
        mConnectedThread := some s.nextConnectedThread
        nextConnectedThread := s.nextConnectedThread + 1
        connectedThreads :=
          update
            (fun t =>
              { s.connectedThreads t with
                cancelled :=
                  (s.connectedThreads t).cancelled || decide (s.mConnectedThread = some t) })
            s.nextConnectedThread { stage := .started, mSocket := n }
        sockets := fun m =>
          { s.sockets m with
            closed := (s.sockets m).closed || decide (s.connectedSocket = some m) } } := by
  simp only [connected, clearConnectedThread_eq, newConnectedThread, setState]

theorem connected_mConnectedThread (s : Session) (n : SocketId) :
    (s.connected n).mConnectedThread = some s.nextConnectedThread := by
  rw [connected_eq]

theorem runs_connected (s : Session) (n : SocketId) (t : ThreadId) :
    (s.connected n).Runs t ↔ t = s.nextConnectedThread ∨ s.Runs t := by
  rw [connected_eq]
  by_cases ht : t = s.nextConnectedThread
  · simp [Runs, ht]
  · simp [Runs, ht]

theorem connectionLost_mConnectedThread (s : Session) :
    s.connectionLost.mConnectedThread = none := by
  simp [connectionLost, start, clearThreads_eq]

/-- Outside `connect`, `connected` is what `connect` ends with. -/
theorem connected_idle {s : Session} (n : SocketId) (hidle : s.executing = none) :
    { s.connected n with executing := none } = s.connected n := by
  simp only [connected_eq, hidle]

end Session

open Session

/-! ## Steps outside the methods of `BluetoothIO` -/

/-- The steps of one thread or of the link, which enter no method of `BluetoothIO`. -/
def Action.isQuiet : Action → Bool
  | .connect _ | .joinReturns | .connectReturns _ | .connected _ | .start | .clearThreads
  | .ioException _ => false
  | _ => true

/-- What such a step leaves alone. -/
structure Quiet (s t : Session) : Prop where
  mState : t.mState = s.mState
  mConnectThread : t.mConnectThread = s.mConnectThread
  mConnectedThread : t.mConnectedThread = s.mConnectedThread
  executing : t.executing = s.executing
  mBTSocket : t.mBTSocket = s.mBTSocket
  nextSocket : t.nextSocket = s.nextSocket
  nextConnectThread : t.nextConnectThread = s.nextConnectThread
  nextConnectedThread : t.nextConnectedThread = s.nextConnectedThread
  cancelled : ∀ k, (t.connectThreads k).cancelled = (s.connectThreads k).cancelled
  attempts : ∀ k, t.Attempts k → s.Attempts k
  connectedThread : ∀ i, (t.connectedThreads i).mSocket = (s.connectedThreads i).mSocket ∧
    (t.connectedThreads i).cancelled = (s.connectedThreads i).cancelled
  runs : ∀ i, t.Runs i ↔ s.Runs i
  closed : ∀ n, (s.sockets n).closed = true → (t.sockets n).closed = true

theorem quiet_setConnectThread (s : Session) (k : ThreadId) (c : ConnectThread)
    (hcancelled : c.cancelled = (s.connectThreads k).cancelled)
    (hstage : c.stage ≠ .ended → s.Attempts k) : Quiet s (s.setConnectThread k c) := by
  refine ⟨rfl, rfl, rfl, rfl, rfl, rfl, rfl, rfl, ?_, ?_, fun _ => ⟨rfl, rfl⟩, fun _ => Iff.rfl,
    fun _ h => h⟩
  · intro j
    by_cases hj : j = k
    · subst hj
      simpa [setConnectThread] using hcancelled
    · simp [setConnectThread, hj]
  · intro j h
    by_cases hj : j = k
    · subst hj
      exact hstage (by simpa [setConnectThread, Attempts] using h)
    · simpa [setConnectThread, Attempts, hj] using h

theorem quiet_setSocket (s : Session) (n : SocketId) (b : BluetoothSocket)
    (hclosed : (s.sockets n).closed = true → b.closed = true) : Quiet s (s.setSocket n b) := by
  refine ⟨rfl, rfl, rfl, rfl, rfl, rfl, rfl, rfl, fun _ => rfl, fun _ h => h,
    fun _ => ⟨rfl, rfl⟩, fun _ => Iff.rfl, ?_⟩
  intro m h
  by_cases hm : m = n
  · subst hm
    simpa [setSocket] using hclosed h
  · simpa [setSocket, hm] using h

theorem Quiet.trans {s t u : Session} (h : Quiet s t) (h' : Quiet t u) : Quiet s u where
  mState := h'.mState.trans h.mState
  mConnectThread := h'.mConnectThread.trans h.mConnectThread
  mConnectedThread := h'.mConnectedThread.trans h.mConnectedThread
  executing := h'.executing.trans h.executing
  mBTSocket := h'.mBTSocket.trans h.mBTSocket
  nextSocket := h'.nextSocket.trans h.nextSocket
  nextConnectThread := h'.nextConnectThread.trans h.nextConnectThread
  nextConnectedThread := h'.nextConnectedThread.trans h.nextConnectedThread
  cancelled := fun k => (h'.cancelled k).trans (h.cancelled k)
  attempts := fun k ha => h.attempts k (h'.attempts k ha)
  connectedThread := fun i =>
    ⟨(h'.connectedThread i).1.trans (h.connectedThread i).1,
      (h'.connectedThread i).2.trans (h.connectedThread i).2⟩
  runs := fun i => (h'.runs i).trans (h.runs i)
  closed := fun n hn => h'.closed n (h.closed n hn)

theorem quiet_samples (s : Session) (t : ThreadId) (ht : s.Runs t) :
    Quiet s (s.setConnectedThread t { s.connectedThreads t with stage := .sampling }) := by
  refine ⟨rfl, rfl, rfl, rfl, rfl, rfl, rfl, rfl, fun _ => rfl, fun _ h => h, ?_, ?_,
    fun _ h => h⟩
  · intro i
    by_cases hi : i = t
    · subst hi
      simp [setConnectedThread]
    · simp [setConnectedThread, hi]
  · intro i
    by_cases hi : i = t
    · subst hi
      simpa [setConnectedThread, Runs] using ht
    · simp [setConnectedThread, Runs, hi]

/-- **Frame.**  A step that enters no method of `BluetoothIO` is quiet. -/
theorem quiet_next (s : Session) (a : Action) (ha : enabled s a) (hq : a.isQuiet = true) :
    Quiet s (next s a) := by
  cases a with
  | readSocket k n =>
    exact quiet_setConnectThread s k _ rfl fun _ => by simp [Attempts, ha.1]
  | socketConnects k n =>
    refine (quiet_setSocket s n { s.sockets n with connected := true } id).trans ?_
    exact quiet_setConnectThread _ k _ rfl fun _ => by simp [Attempts, setSocket, ha.1]
  | socketRefuses k n =>
    refine (quiet_setSocket s n { s.sockets n with closed := true } fun _ => rfl).trans ?_
    exact quiet_setConnectThread _ k _ rfl fun h => absurd rfl h
  | startInit k n =>
    refine quiet_setConnectThread s k _ (by split <;> rfl) fun _ => ?_
    simp [Attempts, ha.1]
  | initSends k n => exact quiet_setConnectThread s k _ rfl id
  | initEnds k => exact quiet_setConnectThread s k _ rfl id
  | initJoinReturns k => exact quiet_setConnectThread s k _ rfl fun h => absurd rfl h
  | linkLost n => exact quiet_setSocket s n _ id
  | samples t => exact quiet_samples s t ha.1
  | _ => simp [Action.isQuiet] at hq

/-! ## Coherent sessions -/

/-- The fields of `BluetoothIO` describe its threads.  A running `ConnectedThread` that
is not held has been cancelled; the state is only ever `STATE_CONNECTING` inside
`connect`, and nothing is held once `clearThreads` has run. -/
structure Coherent (s : Session) : Prop where
  attemptHeld : ∀ k, s.mConnectThread = some k →
    k < s.nextConnectThread ∧ (s.connectThreads k).cancelled = false
  threadHeld : ∀ t, s.mConnectedThread = some t → s.Runs t
  created : ∀ t, s.Runs t →
    t < s.nextConnectedThread ∧ (s.connectedThreads t).mSocket < s.nextSocket
  sharedCreated : ∀ n, s.mBTSocket = some n → n < s.nextSocket
  superseded : ∀ t, s.Runs t → s.mConnectedThread ≠ some t →
    (s.connectedThreads t).cancelled = true ∧
      (s.sockets (s.connectedThreads t).mSocket).closed = true
  notConnecting : s.executing = none → s.mState ≠ .stateConnecting
  cleared : s.executing = none → s.mConnectedThread = none → s.mConnectThread = none

namespace Coherent

theorem init : Coherent {} := by
  constructor <;> simp [Runs]

variable {s : Session}

theorem quiet (h : Coherent s) {t : Session} (hq : Quiet s t) : Coherent t where
  attemptHeld := fun k hk => by
    rw [hq.mConnectThread] at hk
    rw [hq.nextConnectThread, hq.cancelled k]
    exact h.attemptHeld k hk
  threadHeld := fun i hi => (hq.runs i).2 (h.threadHeld i (hq.mConnectedThread ▸ hi))
  created := fun i hi => by
    rw [hq.nextConnectedThread, hq.nextSocket, (hq.connectedThread i).1]
    exact h.created i ((hq.runs i).1 hi)
  sharedCreated := by
    rw [hq.mBTSocket, hq.nextSocket]
    exact h.sharedCreated
  superseded := fun i hi hne => by
    rw [hq.mConnectedThread] at hne
    obtain ⟨hc, hs⟩ := h.superseded i ((hq.runs i).1 hi) hne
    rw [(hq.connectedThread i).1, (hq.connectedThread i).2]
    exact ⟨hc, hq.closed _ hs⟩
  notConnecting := by
    rw [hq.executing, hq.mState]
    exact h.notConnecting
  cleared := by
    rw [hq.executing, hq.mConnectedThread, hq.mConnectThread]
    exact h.cleared

theorem connect (h : Coherent s) (device : String) (hidle : s.executing = none) :
    Coherent (s.connect device) := by
  have hstate := h.notConnecting hidle
  simp only [Session.connect, hstate, if_false, setState, newConnectThread]
  exact
    { attemptHeld := by simp
      threadHeld := h.threadHeld
      created := fun t ht => ⟨(h.created t ht).1, Nat.lt_succ_of_lt (h.created t ht).2⟩
      sharedCreated := by simp
      superseded := by
        intro t ht hne
        have hold := (h.created t ht).2
        obtain ⟨hc, hs⟩ := h.superseded t ht hne
        exact ⟨hc, by simpa [Nat.ne_of_lt hold] using hs⟩
      notConnecting := by simp
      cleared := by simp }

theorem clearThreads (h : Coherent s) : Coherent s.clearThreads := by
  rw [clearThreads_eq]
  refine ⟨by simp, by simp, h.created, h.sharedCreated, ?_, h.notConnecting, by simp⟩
  intro t ht _
  -- the held thread is cancelled now, every other one was before
  by_cases hheld : s.mConnectedThread = some t
  · simp [connectedSocket, hheld]
  · obtain ⟨hc, hs⟩ := h.superseded t ht hheld
    simp [hc, hs]

theorem connected (h : Coherent s) (n : SocketId) (hn : n < s.nextSocket) :
    Coherent { s.connected n with executing := none } := by
  rw [connected_eq]
  refine ⟨h.attemptHeld, by simp [Runs], ?_, h.sharedCreated, ?_, by simp, by simp⟩
  · intro t ht
    by_cases hnew : t = s.nextConnectedThread
    · subst hnew
      simpa using hn
    · have hold := h.created t (by simpa [Runs, hnew] using ht)
      exact ⟨Nat.lt_succ_of_lt hold.1, by simpa [hnew] using hold.2⟩
  · intro t ht hne
    have hnew : t ≠ s.nextConnectedThread := fun he => hne (by rw [he])
    by_cases hheld : s.mConnectedThread = some t
    · simp [hnew, connectedSocket, hheld]
    · obtain ⟨hc, hs⟩ := h.superseded t (by simpa [Runs, hnew] using ht) hheld
      simp [hnew, hc, hs]

/-- A thread that ends once nothing is held leaves nothing to describe. -/
theorem ended (h : Coherent s) (t : ThreadId) (hheld : s.mConnectedThread = none) :
    Coherent (s.setConnectedThread t { s.connectedThreads t with stage := .ended }) := by
  refine ⟨h.attemptHeld, by simp [setConnectedThread, hheld], ?_, h.sharedCreated, ?_,
    h.notConnecting, h.cleared⟩
  all_goals
    intro i hi
    have hne : i ≠ t := fun he => by simp [he, setConnectedThread, Runs] at hi
    have hi' : s.Runs i := by simpa [setConnectedThread, Runs, hne] using hi
  · simpa [setConnectedThread, hne] using h.created i hi'
  · intro _
    simpa [setConnectedThread, hne] using h.superseded i hi' (by simp [hheld])

/-- **Every run is coherent.** -/
theorem next (h : Coherent s) (a : Action) (ha : enabled s a) : Coherent (next s a) := by
  cases a with
  | connect device => exact h.connect device ha
  | joinReturns =>
    exact ⟨h.attemptHeld, h.threadHeld, h.created, h.sharedCreated, h.superseded,
      by simp [Bluetooth.next], by simp [Bluetooth.next]⟩
  | connectReturns n => exact h.connected n (h.sharedCreated n ha.2)
  | connected n =>
    have hn := h.connected n ha.2
    rwa [connected_idle n ha.1] at hn
  | start => exact h.clearThreads
  | clearThreads => exact h.clearThreads
  | ioException t => exact h.clearThreads.ended t (by rw [clearThreads_eq])
  | _ => exact h.quiet (quiet_next s _ ha rfl)

end Coherent

end ProjektMagisterski.Bluetooth
