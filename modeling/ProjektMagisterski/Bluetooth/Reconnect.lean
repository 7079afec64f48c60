import ProjektMagisterski.Bluetooth.Threads

/-!
# States and new connections

* `Started`: what each connection state stands for;
* `states_mean`: the `start` of `MainActivity.onCreate` never has anything to clear, and
  `connect` never comes to its `clearThreads`;
* `attempt`: a session in the middle of its newest `connect`;
* `can_reconnect`: from every state `connect` can still be called and lead to a new
  connection that samples, whatever became of the ones before.
-/

namespace ProjektMagisterski.Bluetooth

open Function (update update_self update_of_ne update_idem)
open Lib Lib.Machine Session

/-! ## States -/

/-- The part of `MainActivity.onCreate` about Bluetooth. -/
def onCreate (s : Session) : Session :=
  if s.getState = .stateNone then s.start else s

/-- The state is `STATE_NONE` before the first connection, `STATE_CONNECTING` while
`connect` joins its `ConnectThread`, and `STATE_CONNECTED` ever after. -/
structure Started (s : Session) : Prop where
  coherent : Coherent s
  none : s.mState = .stateNone ↔ s.nextConnectThread = 0 ∧ s.nextConnectedThread = 0
  connecting : s.mState = .stateConnecting ↔ s.executing = some .join
  listen : s.mState ≠ .stateListen
  attempted : s.executing ≠ Option.none → 0 < s.nextConnectThread ∧ s.mBTSocket ≠ Option.none

theorem Started.quiet {s t : Session} (h : Started s) (hq : Quiet s t) : Started t := by
  refine ⟨h.coherent.quiet hq, ?_, ?_, ?_, ?_⟩
  · rw [hq.mState, hq.nextConnectThread, hq.nextConnectedThread]
    exact h.none
  · rw [hq.mState, hq.executing]
    exact h.connecting
  · rw [hq.mState]
    exact h.listen
  · rw [hq.executing, hq.nextConnectThread, hq.mBTSocket]
    exact h.attempted

theorem Started.clearThreads {s : Session} (h : Started s) : Started s.clearThreads := by
  have hc := h.coherent.clearThreads
  rw [clearThreads_eq] at hc ⊢
  exact ⟨hc, h.none, h.connecting, h.listen, h.attempted⟩

/-- **One step.** -/
theorem Started.next {s : Session} (h : Started s) (a : Action) (ha : enabled s a) :
    Started (next s a) := by
  have hcoherent := h.coherent.next a ha
  cases a with
  | connect device =>
    have hstate : s.mState ≠ .stateConnecting := h.coherent.notConnecting ha
    refine ⟨hcoherent, ?_, ?_, ?_, ?_⟩ <;>
      simp [Bluetooth.next, Session.connect, hstate, setState, newConnectThread]
  | joinReturns =>
    have hjoin : s.executing = some .join := ha
    have hattempted := h.attempted (by simp [hjoin])
    refine ⟨hcoherent, ?_, ?_, ?_, fun _ => hattempted⟩
    · simp only [Bluetooth.next, setState]
      constructor
      · intro hnone
        cases hnone
      · intro hnone
        exact absurd hnone.1 (Nat.pos_iff_ne_zero.1 hattempted.1)
    · simp [Bluetooth.next, setState]
    · simp [Bluetooth.next, setState]
  | connectReturns n =>
    refine ⟨hcoherent, ?_, ?_, ?_, ?_⟩ <;> simp [Bluetooth.next, connected_eq]
  | connected n =>
    have hidle : s.executing = Option.none := ha.1
    refine ⟨hcoherent, ?_, ?_, ?_, ?_⟩ <;> simp [Bluetooth.next, connected_eq, hidle]
  | start => exact h.clearThreads
  | clearThreads => exact h.clearThreads
  | ioException t =>
    have hcleared := h.clearThreads
    exact ⟨hcoherent, hcleared.none, hcleared.connecting, hcleared.listen, hcleared.attempted⟩
  | _ => exact h.quiet (quiet_next s _ ha rfl)

theorem started_reachable {s : Session} (h : app.Reachable s) : Started s := by
  apply h.invariant
  · show Started {}
    exact ⟨Coherent.init, by simp, by simp, by simp, by simp⟩
  · intro s a t hs _ hstep
    obtain ⟨ha, rfl⟩ := (app_step s t a).1 hstep
    exact hs.next a ha

/-- Nothing is held before the first connection. -/
theorem Started.nothing_held {s : Session} (h : Started s) (hnone : s.getState = .stateNone) :
    s.mConnectThread = Option.none ∧ s.mConnectedThread = Option.none := by
  obtain ⟨hconnect, hconnected⟩ := h.none.1 hnone
  constructor
  · cases hk : s.mConnectThread with
    | none => rfl
    | some k =>
      have hlt := (h.coherent.attemptHeld k hk).1
      exact absurd (hconnect ▸ hlt) (Nat.not_lt_zero k)
  · cases ht : s.mConnectedThread with
    | none => rfl
    | some t =>
      have hlt := (h.coherent.created t (h.coherent.threadHeld t ht)).1
      exact absurd (hconnected ▸ hlt) (Nat.not_lt_zero t)

/-- The steps that a call of `connect` consists of. -/
def IsConnectStep : Action → Prop
  | .connect _ | .joinReturns | .connectReturns _ => True
  | _ => False

/-- None of them cancels a `ConnectThread`, or does anything else to it. -/
theorem Started.keepsAttempts {s : Session} (h : Started s) {a : Action} (ha : enabled s a)
    (hconnect : IsConnectStep a) {k : ThreadId} (hk : k < s.nextConnectThread) :
    (Bluetooth.next s a).connectThreads k = s.connectThreads k := by
  cases a with
  | connect device =>
    simp only [Bluetooth.next]
    rw [Session.connect, if_neg (h.coherent.notConnecting ha)]
    exact update_of_ne (Nat.ne_of_lt hk) ..
  | joinReturns => rfl
  | connectReturns n => simp [Bluetooth.next, connected_eq]
  | _ => exact absurd hconnect id

/-- **States.**  In every state of every run, `getState` is `STATE_NONE` exactly before the
first thread is started, and `STATE_CONNECTING` exactly while `connect` joins.  So
`onCreate` leaves a session as it is however often the activity is created, `connect` goes
to its `join` without a `clearThreads`, and no step of it cancels a `ConnectThread` that an
earlier one has started. -/
theorem states_mean (s : Session) (h : app.Reachable s) :
    (s.getState = .stateNone ↔ s.nextConnectThread = 0 ∧ s.nextConnectedThread = 0) ∧
      (s.getState = .stateConnecting ↔ s.executing = some .join) ∧
      s.getState ≠ .stateListen ∧ onCreate s = s ∧
      (s.executing = none → ∀ device,
        s.connect device =
          { (s.setState .stateConnecting).newConnectThread device with executing := some .join }) ∧
      ∀ a, IsConnectStep a → enabled s a → ∀ k < s.nextConnectThread,
        (next s a).connectThreads k = s.connectThreads k := by
  have hs := started_reachable h
  refine ⟨hs.none, hs.connecting, hs.listen, ?_, fun hidle device => ?_, ?_⟩
  · unfold onCreate
    split
    · rename_i hnone
      obtain ⟨hk, ht⟩ := hs.nothing_held hnone
      exact clearThreads_of_none s hk ht
    · rfl
  · rw [connect, if_neg (hs.coherent.notConnecting hidle)]
  · intro a hconnect ha k hk
    exact hs.keepsAttempts ha hconnect hk

/-- A session that samples, and is connected to another device while the attempt at it is
still in its `join`. -/
theorem states_mean_first :
    ∃ s : Session, s.mConnectedThread = some 0 ∧ s.getState = .stateConnecting ∧
      (s.getState = .stateNone ↔ s.nextConnectThread = 0 ∧ s.nextConnectedThread = 0) ∧
      (s.getState = .stateConnecting ↔ s.executing = some .join) ∧
      s.getState ≠ .stateListen ∧ onCreate s = s ∧
      (s.executing = none → ∀ device,
        s.connect device =
          { (s.setState .stateConnecting).newConnectThread device with
            executing := some .join }) ∧
      ∀ a, IsConnectStep a → enabled s a → ∀ k < s.nextConnectThread,
        (next s a).connectThreads k = s.connectThreads k :=
  ⟨_, rfl, rfl, states_mean _
    (reachable_of_exec (successfulConnect "A" 0 0 ++ [.connect "B", .readSocket 1 1]) rfl)⟩

/-! ## A new connection -/

/-- `s` in the middle of a new `connect`, with the `ConnectThread` and the socket that it
has created. -/
def attempt (s : Session) (c : ConnectThread) (b : BluetoothSocket) : Session :=
  { s with
    mState := .stateConnecting
    mConnectThread := some s.nextConnectThread
    mBTSocket := some s.nextSocket
    executing := some .join
    sockets := update s.sockets s.nextSocket b
    connectThreads := update s.connectThreads s.nextConnectThread c
    nextSocket := s.nextSocket + 1
    nextConnectThread := s.nextConnectThread + 1 }

@[simp] theorem attempt_connectThread (s : Session) (c : ConnectThread) (b : BluetoothSocket) :
    (attempt s c b).connectThreads s.nextConnectThread = c := update_self ..

@[simp] theorem attempt_socket (s : Session) (c : ConnectThread) (b : BluetoothSocket) :
    (attempt s c b).sockets s.nextSocket = b := update_self ..

theorem attempt_setConnectThread (s : Session) (c c' : ConnectThread) (b : BluetoothSocket) :
    (attempt s c b).setConnectThread s.nextConnectThread c' = attempt s c' b := by
  simp [attempt, setConnectThread]

theorem attempt_setSocket (s : Session) (c : ConnectThread) (b b' : BluetoothSocket) :
    (attempt s c b).setSocket s.nextSocket b' = attempt s c b' := by
  simp [attempt, setSocket]

theorem attempt_step {s : Session} {c c' : ConnectThread} {b b' : BluetoothSocket} (a : Action)
    (ha : enabled (attempt s c b) a) (hnext : next (attempt s c b) a = attempt s c' b') :
    app.Steps anyStep (attempt s c b) (attempt s c' b') :=
  Steps.single a trivial ((app_step _ _ a).2 ⟨ha, hnext⟩)

/-- The `initOBDThread` can send all that is left. -/
theorem attempt_sends (s : Session) (c : ConnectThread) (b : BluetoothSocket)
    (hsocket : c.mSocket = some s.nextSocket) (hb : b.isConnected = true)
    (commands : List InitCommand) :
    app.Steps anyStep (attempt s { c with initOBDThread := some commands } b)
      (attempt s { c with initOBDThread := some [] } b) := by
  induction commands with
  | nil => exact Steps.refl _
  | cons command commands ih =>
    refine Steps.trans (attempt_step (.initSends s.nextConnectThread s.nextSocket) ?_ ?_) ih
    · simp [enabled, hsocket, hb]
    · simp only [next, attempt_connectThread, attempt_setConnectThread]
      rfl

/-- **An attempt that goes well.**  Each of its steps is possible after the one before. -/
theorem attempt_succeeds (s : Session) (device : String) :
    app.Steps anyStep (attempt s { stage := .begun } { device := device })
      (attempt s { stage := .ended, mSocket := some s.nextSocket }
        { device := device, connected := true }) := by
  have hread : app.Steps anyStep (attempt s { stage := .begun } { device := device })
      (attempt s { stage := .connecting, mSocket := some s.nextSocket } { device := device }) := by
    apply attempt_step (.readSocket s.nextConnectThread s.nextSocket)
    · exact ⟨by simp, rfl⟩
    · simp only [next, attempt_connectThread, attempt_setConnectThread]
  have hconnect : app.Steps anyStep
      (attempt s { stage := .connecting, mSocket := some s.nextSocket } { device := device })
      (attempt s { stage := .sleeping, mSocket := some s.nextSocket }
        { device := device, connected := true }) := by
    apply attempt_step (.socketConnects s.nextConnectThread s.nextSocket)
    · simp [enabled]
    · simp only [next, attempt_connectThread, attempt_socket, attempt_setSocket,
        attempt_setConnectThread]
  have hinit : app.Steps anyStep
      (attempt s { stage := .sleeping, mSocket := some s.nextSocket }
        { device := device, connected := true })
      (attempt s
        { stage := .joining, mSocket := some s.nextSocket, initOBDThread := some initCommands }
        { device := device, connected := true }) := by
    apply attempt_step (.startInit s.nextConnectThread s.nextSocket)
    · simp [enabled]
    · simp only [next, attempt_connectThread, attempt_socket, attempt_setConnectThread]
      rfl
  have hsends := attempt_sends s { stage := .joining, mSocket := some s.nextSocket }
    { device := device, connected := true } rfl rfl initCommands
  have hends : app.Steps anyStep
      (attempt s { stage := .joining, mSocket := some s.nextSocket, initOBDThread := some [] }
        { device := device, connected := true })
      (attempt s { stage := .joining, mSocket := some s.nextSocket }
        { device := device, connected := true }) := by
    apply attempt_step (.initEnds s.nextConnectThread)
    · simp [enabled]
    · simp only [next, attempt_connectThread, attempt_setConnectThread]
  have hjoins : app.Steps anyStep
      (attempt s { stage := .joining, mSocket := some s.nextSocket }
        { device := device, connected := true })
      (attempt s { stage := .ended, mSocket := some s.nextSocket }
        { device := device, connected := true }) := by
    apply attempt_step (.initJoinReturns s.nextConnectThread)
    · simp [enabled]
    · simp only [next, attempt_connectThread, attempt_setConnectThread]
  exact hread.trans (hconnect.trans (hinit.trans (hsends.trans (hends.trans hjoins))))

/-- The held `ConnectedThread` has been started on a live socket of the device that no
other thread has, and every other one that runs has been cancelled. -/
structure Samples (s : Session) (device : String) : Prop where
  idle : s.executing = none
  state : s.getState = .stateConnected
  thread : ∃ t, s.mConnectedThread = some t ∧ s.Runs t ∧
    (s.connectedThreads t).cancelled = false ∧
    (s.sockets (s.connectedThreads t).mSocket).device = device ∧
    (s.sockets (s.connectedThreads t).mSocket).isLive = true ∧
    ∀ i, s.Runs i → i ≠ t → (s.connectedThreads i).cancelled = true ∧
      (s.connectedThreads i).mSocket ≠ (s.connectedThreads t).mSocket

/-- `connected` over a live socket that no running thread has. -/
theorem samples_connected {s : Session} {n : SocketId} (h : Coherent s) (hn : n < s.nextSocket)
    (hfree : ∀ i, s.Runs i → (s.connectedThreads i).mSocket ≠ n)
    (hlive : (s.sockets n).isLive = true) :
    Samples { s.connected n with executing := none } (s.sockets n).device := by
  have hcoherent := h.connected n hn
  have hkept : s.connectedSocket ≠ some n := by
    unfold connectedSocket
    cases hheld : s.mConnectedThread with
    | none => simp
    | some i =>
      intro he
      exact hfree i (h.threadHeld i hheld) (Option.some.inj he)
  rw [connected_eq] at hcoherent ⊢
  refine ⟨rfl, rfl, s.nextConnectedThread, rfl, ?_, ?_, ?_, ?_, ?_⟩
  · simp [Runs]
  · simp
  · simp
  · simpa [hkept] using hlive
  · intro i hi hne
    have hold : s.Runs i := by simpa [Runs, hne] using hi
    have hsuperseded := hcoherent.superseded i hi (fun he => hne (Option.some.inj he).symm)
    exact ⟨hsuperseded.1, by simpa [hne] using hfree i hold⟩

/-- The session when the `join` of a `connect` returns after such an attempt. -/
def joined (s : Session) (device : String) : Session :=
  { (attempt s { stage := .ended, mSocket := some s.nextSocket }
      { device := device, connected := true }).setState .stateConnected with
    executing := some .sleep }

theorem joined_socket (s : Session) (device : String) :
    (joined s device).sockets s.nextSocket = { device := device, connected := true } :=
  update_self ..

/-- Whatever a call of `connect` waits for is over at last. -/
theorem becomes_idle {s : Session} (h : app.Reachable s) :
    ∃ t, app.Steps anyStep s t ∧ t.executing = none ∧
      s.nextConnectedThread ≤ t.nextConnectedThread := by
  have hreturn : ∀ s : Session, s.executing = some .sleep → s.mBTSocket ≠ none →
      ∃ t, app.Steps anyStep s t ∧ t.executing = none ∧
        s.nextConnectedThread ≤ t.nextConnectedThread := by
    intro s hsleep hsocket
    obtain ⟨n, hn⟩ := Option.ne_none_iff_exists'.1 hsocket
    refine ⟨_, Steps.guarded (Action.connectReturns n) trivial ⟨hsleep, hn⟩, rfl, ?_⟩
    simp [Bluetooth.next, connected_eq]
  have hattempted := (started_reachable h).attempted
  cases hexec : s.executing with
  | none => exact ⟨s, Steps.refl s, hexec, Nat.le_refl _⟩
  | some wait =>
    have hsocket := (hattempted (by simp [hexec])).2
    cases wait with
    | join =>
      obtain ⟨t, hsteps, hidle, hcount⟩ :=
        hreturn { s.setState .stateConnected with executing := some .sleep } rfl hsocket
      exact ⟨t, (Steps.guarded Action.joinReturns trivial hexec).trans hsteps, hidle, hcount⟩
    | sleep => exact hreturn s hexec hsocket

/-- **New connections.**  From every state of every run, whatever threads it has left
behind, `connect` can be called again and lead to a connection that samples: its thread is
a new one and alone has the new socket, and all others that still run have been cancelled. -/
theorem can_reconnect (s : Session) (h : app.Reachable s) (device : String) :
    ∃ u v t, app.Steps anyStep s u ∧ app.step u (.connect device) = some v ∧
      app.Steps anyStep v t ∧ Samples t device ∧
      ∃ i, t.mConnectedThread = some i ∧ s.nextConnectedThread ≤ u.nextConnectedThread ∧
        u.nextConnectedThread ≤ i := by
  obtain ⟨u, hsteps, hidle, hcount⟩ := becomes_idle h
  have hu : Coherent u := (started_reachable (Steps.trans h hsteps)).coherent
  have hconnect : u.connect device = attempt u { stage := .begun } { device := device } := by
    rw [connect, if_neg (hu.notConnecting hidle)]
    rfl
  have hcall : app.step u (.connect device) =
      some (attempt u { stage := .begun } { device := device }) :=
    (app_step u _ (.connect device)).2 ⟨hidle, hconnect⟩
  have hjoin : app.Steps anyStep
      (attempt u { stage := .ended, mSocket := some u.nextSocket }
        { device := device, connected := true }) (joined u device) :=
    Steps.guarded Action.joinReturns trivial rfl
  have hjoined := (attempt_succeeds u device).trans hjoin
  have hreturn : app.Steps anyStep (joined u device)
      { (joined u device).connected u.nextSocket with executing := none } :=
    Steps.guarded (Action.connectReturns u.nextSocket) trivial ⟨rfl, rfl⟩
  have hreached : app.Reachable (joined u device) :=
    Steps.trans h (hsteps.trans ((Steps.single _ trivial hcall).trans hjoined))
  refine ⟨u, _, _, hsteps, hcall, hjoined.trans hreturn, ?_, u.nextConnectedThread, ?_, hcount,
    Nat.le_refl _⟩
  · have hsamples := samples_connected (started_reachable hreached).coherent
      (Nat.lt_succ_self u.nextSocket) (fun i hi => Nat.ne_of_lt (hu.created i hi).2)
      (by rw [joined_socket]; rfl)
    rw [joined_socket] at hsamples
    exact hsamples
  · rw [connected_eq]
    rfl

/-- A link is lost while a call of `connect` waits, and another one was abandoned. -/
theorem can_reconnect_first :
    ∃ s : Session, s.executing = some .join ∧ s.Runs 0 ∧
      ∃ u v t, app.Steps anyStep s u ∧ app.step u (.connect "B") = some v ∧
        app.Steps anyStep v t ∧ Samples t "B" ∧
        ∃ i, t.mConnectedThread = some i ∧ s.nextConnectedThread ≤ u.nextConnectedThread ∧
          u.nextConnectedThread ≤ i :=
  ⟨_, rfl, by decide, can_reconnect _ (reachable_of_exec
    (successfulConnect "A" 0 0 ++ [.linkLost 0, .connect "C", .joinReturns, .connectReturns 1,
      .connect "A", .readSocket 2 2]) rfl) "B"⟩

end ProjektMagisterski.Bluetooth
