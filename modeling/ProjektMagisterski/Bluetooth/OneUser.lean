import ProjektMagisterski.Bluetooth.Threads

/-!
# Who sends over a socket

Both joins are bounded: `connect` goes on to `connected` while the
initialisation of the new socket is still to come or still running.

* `slowInit_overlaps`: initialisation and readings over one socket;
* `oneUser_exact`: a socket has one user exactly as long as `connect` only
  returns when the initialisation of its `ConnectThread` is over.
-/

namespace ProjektMagisterski.Bluetooth

open Function (update update_self update_of_ne)
open Session Lib.Machine

/-- A thread that sends OBD commands: the `initOBDThread` of a `ConnectThread`, or a
`ConnectedThread`. -/
inductive Sender where
  | initOBD (k : ThreadId)
  | readings (t : ThreadId)
deriving DecidableEq, Repr

/-- The sender is in the course of sending commands over the socket. -/
def SendsOver (s : Session) : Sender → SocketId → Prop
  | .initOBD k, n =>
    (s.connectThreads k).initOBDThread ≠ none ∧ (s.connectThreads k).mSocket = some n
  | .readings t, n =>
    (s.connectedThreads t).stage = .sampling ∧ (s.connectedThreads t).mSocket = n

/-- `run` has no initialisation to come, and none runs. -/
def InitOver (c : ConnectThread) : Prop :=
  c.initOBDThread = none ∧ (c.stage = .joining ∨ c.stage = .ended)

instance (c : ConnectThread) : Decidable (InitOver c) := inferInstanceAs (Decidable (_ ∧ _))

/-- A socket has at most one sender, and readings only after its initialisation. -/
def OneUser (s : Session) : Prop :=
  (∀ a b n, SendsOver s a n → SendsOver s b n → a = b) ∧
    ∀ t k, (s.connectedThreads t).stage = .sampling →
      (s.connectThreads k).mSocket = some (s.connectedThreads t).mSocket →
      InitOver (s.connectThreads k)

/-- `connect` only goes on to `connected` when the initialisation is over. -/
def WaitsForInit (s : Session) : Action → Prop
  | .connectReturns _ => ∀ k, s.mConnectThread = some k → InitOver (s.connectThreads k)
  | _ => True

/-- The adapter takes longer than `join(10000)` to answer the reset. -/
theorem slowInit_overlaps : ∃ s, app.Reachable s ∧ ¬ OneUser s := by
  refine ⟨_, reachable_of_exec
    [.connect "A", .readSocket 0 0, .socketConnects 0 0, .startInit 0 0, .initSends 0 0,
      .initJoinReturns 0, .joinReturns, .connectReturns 0, .samples 0] rfl, ?_⟩
  intro h
  have hover := h.2 0 0 rfl rfl
  exact absurd hover (by decide)

/-! ## The invariant -/

/-- How far the attempt of an executing `connect` has come with its socket. -/
def OnNewSocket (c : ConnectThread) (b : BluetoothSocket) (n : SocketId) : Prop :=
  match c.stage with
  | .begun =>
    c.mSocket = none ∧ c.initOBDThread = none ∧ b.connected = false ∧ b.closed = false
  | .connecting =>
    c.mSocket = some n ∧ c.initOBDThread = none ∧ b.connected = false ∧ b.closed = false
  | .sleeping => c.mSocket = some n ∧ c.initOBDThread = none ∧ b.isConnected = true
  | .joining | .ended => c.initOBDThread ≠ none → c.mSocket = some n ∧ b.isConnected = true

theorem mSocket_of_onNewSocket {c : ConnectThread} {b : BluetoothSocket} {n m : SocketId}
    (h : OnNewSocket c b n) (hover : ¬ InitOver c) (hm : c.mSocket = some m) : m = n := by
  unfold OnNewSocket at h
  unfold InitOver at hover
  cases hs : c.stage <;> grind

theorem initOBDThread_of_onNewSocket {c : ConnectThread} {b : BluetoothSocket} {n : SocketId}
    (h : OnNewSocket c b n) (hinit : c.initOBDThread ≠ none) :
    (c.stage = .joining ∨ c.stage = .ended) ∧ c.mSocket = some n ∧ b.isConnected = true := by
  unfold OnNewSocket at h
  cases hs : c.stage <;> simp_all

theorem onNewSocket_of_joined {c : ConnectThread} {b : BluetoothSocket} {n : SocketId}
    (hs : c.stage = .joining ∨ c.stage = .ended)
    (h : c.initOBDThread ≠ none → c.mSocket = some n ∧ b.isConnected = true) :
    OnNewSocket c b n := by
  unfold OnNewSocket
  obtain hs | hs := hs <;> simpa [hs] using h

/-- Only the attempt of an executing `connect` has initialisation left, and it has
its socket to itself. -/
structure Served (s : Session) : Prop where
  coherent : Coherent s
  oneSampler : ∀ i j, (s.connectedThreads i).stage = .sampling →
    (s.connectedThreads j).stage = .sampling →
    (s.connectedThreads i).mSocket = (s.connectedThreads j).mSocket → i = j
  initOver : ∀ k, ¬ InitOver (s.connectThreads k) →
    s.executing ≠ none ∧ s.mConnectThread = some k
  attempt : s.executing ≠ none → ∃ k n, s.mConnectThread = some k ∧ s.mBTSocket = some n ∧
    (∀ t, s.Runs t → (s.connectedThreads t).mSocket ≠ n) ∧
    OnNewSocket (s.connectThreads k) (s.sockets n) n

theorem initOver_of_idle {s : Session} (h : Served s) (hidle : s.executing = none)
    (k : ThreadId) : InitOver (s.connectThreads k) := by
  by_contra hover
  exact (h.initOver k hover).1 hidle

theorem runs_of_sampling {s : Session} {t : ThreadId}
    (h : (s.connectedThreads t).stage = .sampling) : s.Runs t := by
  simp [Runs, h]

/-! ## Calls -/

theorem served_connect (s : Session) (device : String) (h : Served s)
    (hidle : s.executing = none) : Served (s.connect device) := by
  have hcoh := h.coherent.connect device hidle
  have hstate := h.coherent.notConnecting hidle
  simp only [connect, hstate, if_false, setState, newConnectThread] at hcoh ⊢
  refine ⟨hcoh, h.oneSampler, ?_, ?_⟩
  · intro k hk
    by_cases hnew : k = s.nextConnectThread
    · simp [hnew]
    · simp only [update_of_ne hnew] at hk
      exact absurd (initOver_of_idle h hidle k) hk
  · intro _
    refine ⟨s.nextConnectThread, s.nextSocket, rfl, rfl, ?_, by simp [OnNewSocket]⟩
    intro t ht
    exact Nat.ne_of_lt (h.coherent.created t ht).2

theorem served_connected (s : Session) (n : SocketId) (h : Served s) (hn : n < s.nextSocket)
    (hover : ∀ k, InitOver (s.connectThreads k)) :
    Served { s.connected n with executing := none } := by
  have hcoh := h.coherent.connected n hn
  rw [connected_eq] at hcoh ⊢
  refine ⟨hcoh, ?_, fun k hk => absurd (hover k) hk, fun he => absurd rfl he⟩
  intro i j hi hj
  have hi' : i ≠ s.nextConnectedThread := by
    rintro rfl
    simp at hi
  have hj' : j ≠ s.nextConnectedThread := by
    rintro rfl
    simp at hj
  simp only [update_of_ne hi', update_of_ne hj'] at hi hj ⊢
  exact h.oneSampler i j hi hj

theorem served_clearThreads (s : Session) (h : Served s) (hidle : s.executing = none) :
    Served s.clearThreads := by
  have hcoh := h.coherent.clearThreads
  rw [clearThreads_eq] at hcoh ⊢
  refine ⟨hcoh, h.oneSampler, ?_, fun he => absurd hidle he⟩
  intro k hk
  exact absurd (initOver_of_idle h hidle k) hk

/-! ## Steps of the threads -/

/-- A step of the attempt that has initialisation left. -/
theorem served_attempt {s t : Session} {k : ThreadId} {c : ConnectThread} (h : Served s)
    (hq : Quiet s t) (hover : ¬ InitOver (s.connectThreads k))
    (hc : t.connectThreads = update s.connectThreads k c)
    (hthreads : t.connectedThreads = s.connectedThreads)
    (hphase : ∀ n, s.mBTSocket = some n → OnNewSocket (s.connectThreads k) (s.sockets n) n →
      OnNewSocket c (t.sockets n) n) : Served t := by
  obtain ⟨hexec, hheld⟩ := h.initOver k hover
  refine ⟨h.coherent.quiet hq, ?_, ?_, ?_⟩
  · rw [hthreads]
    exact h.oneSampler
  · intro j hj
    rw [hq.executing, hq.mConnectThread]
    by_cases hjk : j = k
    · subst hjk
      exact ⟨hexec, hheld⟩
    · rw [hc, update_of_ne hjk] at hj
      exact h.initOver j hj
  · intro _
    obtain ⟨k', n, hk', hn, hfree, hnew⟩ := h.attempt hexec
    obtain rfl : k = k' := Option.some.inj (hheld.symm.trans hk')
    refine ⟨k, n, hq.mConnectThread.trans hheld, hq.mBTSocket.trans hn, ?_, ?_⟩
    · intro i hi
      rw [hthreads]
      exact hfree i ((hq.runs i).1 hi)
    · rw [hc, update_self]
      exact hphase n hn hnew

theorem served_initJoinReturns (s : Session) (k : ThreadId) (h : Served s)
    (ha : enabled s (.initJoinReturns k)) : Served (next s (.initJoinReturns k)) := by
  have hq := quiet_next s _ ha rfl
  have hphase : ∀ n, OnNewSocket (s.connectThreads k) (s.sockets n) n →
      OnNewSocket { s.connectThreads k with stage := .ended } (s.sockets n) n := by
    intro n hnew
    simp only [OnNewSocket, show (s.connectThreads k).stage = _ from ha] at hnew
    exact hnew
  by_cases hover : InitOver (s.connectThreads k)
  · refine ⟨h.coherent.quiet hq, h.oneSampler, ?_, ?_⟩
    · intro j hj
      by_cases hjk : j = k
      · subst hjk
        simp [next, setConnectThread, InitOver, hover.1] at hj
      · simp only [next, setConnectThread, update_of_ne hjk] at hj
        exact h.initOver j hj
    · intro hexec
      obtain ⟨j, n, hj, hn, hfree, hnew⟩ := h.attempt hexec
      refine ⟨j, n, hj, hn, hfree, ?_⟩
      by_cases hjk : j = k
      · subst hjk
        simpa [next, setConnectThread] using hphase n hnew
      · simpa [next, setConnectThread, hjk] using hnew
  · exact served_attempt h hq hover rfl rfl fun n _ hnew => hphase n hnew

/-- A dropped link is not noticed by `isConnected`. -/
theorem served_linkLost (s : Session) (n : SocketId) (h : Served s)
    (ha : enabled s (.linkLost n)) : Served (next s (.linkLost n)) := by
  refine ⟨h.coherent.quiet (quiet_next s _ ha rfl), h.oneSampler, h.initOver, ?_⟩
  intro hexec
  obtain ⟨k, m, hk, hm, hfree, hnew⟩ := h.attempt hexec
  refine ⟨k, m, hk, hm, hfree, ?_⟩
  by_cases hmn : m = n
  · subst hmn
    simpa [next, setSocket, OnNewSocket, BluetoothSocket.isConnected] using hnew
  · simpa [next, setSocket, hmn] using hnew

/-- A `ConnectedThread` goes on sampling, or ends. -/
theorem served_setStage (s : Session) (t : ThreadId) (stage : ConnectedStage) (h : Served s)
    (ht : s.Runs t)
    (hcoh : Coherent (s.setConnectedThread t { s.connectedThreads t with stage := stage }))
    (hone : stage = .sampling → ∀ i, (s.connectedThreads i).stage = .sampling →
      (s.connectedThreads i).mSocket = (s.connectedThreads t).mSocket → i = t) :
    Served (s.setConnectedThread t { s.connectedThreads t with stage := stage }) := by
  refine ⟨hcoh, ?_, h.initOver, ?_⟩
  · intro i j hi hj hsocket
    by_cases hit : i = t
    · by_cases hjt : j = t
      · rw [hit, hjt]
      · simp only [setConnectedThread, hit, update_self, update_of_ne hjt] at hi hj hsocket
        exact hit.trans (hone hi j hj hsocket.symm).symm
    · by_cases hjt : j = t
      · simp only [setConnectedThread, hjt, update_self, update_of_ne hit] at hi hj hsocket
        exact (hone hj i hi hsocket).trans hjt.symm
      · simp only [setConnectedThread, update_of_ne hit, update_of_ne hjt] at hi hj hsocket
        exact h.oneSampler i j hi hj hsocket
  · intro hexec
    obtain ⟨k, n, hk, hn, hfree, hnew⟩ := h.attempt hexec
    refine ⟨k, n, hk, hn, ?_, hnew⟩
    intro i hi
    by_cases hit : i = t
    · subst hit
      simpa [setConnectedThread] using hfree i ht
    · simp only [setConnectedThread, Runs, update_of_ne hit] at hi ⊢
      exact hfree i hi

/-- Whoever runs on the open socket of a `ConnectedThread` is that thread. -/
theorem eq_of_open (s : Session) (h : Coherent s) (i t : ThreadId) (hi : s.Runs i) (ht : s.Runs t)
    (hsocket : (s.connectedThreads i).mSocket = (s.connectedThreads t).mSocket)
    (hopen : (s.sockets (s.connectedThreads t).mSocket).isConnected = true) : i = t := by
  simp only [BluetoothSocket.isConnected, Bool.and_eq_true, Bool.not_eq_true'] at hopen
  have hheld : ∀ j, s.Runs j → (s.connectedThreads j).mSocket = (s.connectedThreads t).mSocket →
      s.mConnectedThread = some j := by
    intro j hj hj'
    by_contra hne
    have hclosed := (h.superseded j hj hne).2
    rw [hj', hopen.2] at hclosed
    cases hclosed
  exact Option.some.inj ((hheld i hi hsocket).symm.trans (hheld t ht rfl))

theorem served_next (s : Session) (a : Action) (h : Served s) (hok : WaitsForInit s a)
    (ha : enabled s a) : Served (next s a) := by
  cases a with
  | connect device => exact served_connect s device h ha
  | joinReturns =>
    have hexec : s.executing ≠ none := by simp [show s.executing = _ from ha]
    refine ⟨h.coherent.next _ ha, h.oneSampler, ?_, fun _ => h.attempt hexec⟩
    intro k hk
    exact ⟨by simp [next], (h.initOver k hk).2⟩
  | connectReturns n =>
    refine served_connected s n h (h.coherent.sharedCreated n ha.2) ?_
    intro k
    by_contra hover
    exact hover (hok k (h.initOver k hover).2)
  | connected n =>
    have hn := served_connected s n h ha.2 (initOver_of_idle h ha.1)
    rwa [connected_idle n ha.1] at hn
  | start => exact served_clearThreads s h ha
  | clearThreads => exact served_clearThreads s h ha
  | ioException t =>
    have ht : s.clearThreads.Runs t := by
      rw [clearThreads_eq]
      exact ha.2.1
    exact served_setStage s.clearThreads t .ended (served_clearThreads s h ha.1) ht
      (h.coherent.next _ ha) fun he => by cases he
  | readSocket k n =>
    have hover : ¬ InitOver (s.connectThreads k) := by simp [InitOver, ha.1]
    refine served_attempt h (quiet_next s _ ha rfl) hover rfl rfl ?_
    intro m hm hnew
    obtain rfl : n = m := Option.some.inj (ha.2.symm.trans hm)
    simp only [OnNewSocket, ha.1] at hnew
    exact ⟨rfl, hnew.2⟩
  | socketConnects k n =>
    have hover : ¬ InitOver (s.connectThreads k) := by simp [InitOver, ha.1]
    refine served_attempt h (quiet_next s _ ha rfl) hover rfl rfl ?_
    intro m hm hnew
    obtain rfl := mSocket_of_onNewSocket hnew hover ha.2.1
    simp only [OnNewSocket, ha.1] at hnew
    simp [next, setConnectThread, setSocket, OnNewSocket, BluetoothSocket.isConnected, hnew]
  | socketRefuses k n =>
    have hover : ¬ InitOver (s.connectThreads k) := by simp [InitOver, ha.1]
    refine served_attempt h (quiet_next s _ ha rfl) hover rfl rfl ?_
    intro m hm hnew
    simp only [OnNewSocket, ha.1] at hnew
    exact fun hinit => absurd hnew.2.1 hinit
  | startInit k n =>
    have hover : ¬ InitOver (s.connectThreads k) := by simp [InitOver, ha.1]
    refine served_attempt h (quiet_next s _ ha rfl) hover rfl rfl ?_
    intro m hm hnew
    obtain rfl := mSocket_of_onNewSocket hnew hover ha.2
    simp only [OnNewSocket, ha.1] at hnew
    simp [next, setConnectThread, OnNewSocket, hnew]
  | initSends k n =>
    have hover : ¬ InitOver (s.connectThreads k) := fun hc => ha.1 hc.1
    refine served_attempt h (quiet_next s _ ha rfl) hover rfl rfl ?_
    intro m hm hnew
    obtain ⟨hstage, hsocket⟩ := initOBDThread_of_onNewSocket hnew ha.1
    exact onNewSocket_of_joined hstage fun _ => hsocket
  | initEnds k =>
    have hover : ¬ InitOver (s.connectThreads k) := fun hc => ha hc.1
    refine served_attempt h (quiet_next s _ ha rfl) hover rfl rfl ?_
    intro m hm hnew
    obtain ⟨hstage, -⟩ := initOBDThread_of_onNewSocket hnew ha
    exact onNewSocket_of_joined hstage fun hne => absurd rfl hne
  | initJoinReturns k => exact served_initJoinReturns s k h ha
  | linkLost n => exact served_linkLost s n h ha
  | samples t =>
    exact served_setStage s t .sampling h ha.1 (h.coherent.next _ ha) fun _ i hi hsocket =>
      eq_of_open s h.coherent i t (runs_of_sampling hi) ha.1 hsocket ha.2

/-- No `ConnectedThread` runs on the socket of an attempt with initialisation left. -/
theorem socket_free (s : Session) (h : Served s) (k : ThreadId) (n : SocketId)
    (hover : ¬ InitOver (s.connectThreads k)) (hn : (s.connectThreads k).mSocket = some n)
    (t : ThreadId) (ht : s.Runs t) : (s.connectedThreads t).mSocket ≠ n := by
  obtain ⟨hexec, hheld⟩ := h.initOver k hover
  obtain ⟨k', m, hk', -, hfree, hnew⟩ := h.attempt hexec
  obtain rfl : k = k' := Option.some.inj (hheld.symm.trans hk')
  obtain rfl := mSocket_of_onNewSocket hnew hover hn
  exact hfree t ht

theorem oneUser_of_served (s : Session) (h : Served s) : OneUser s := by
  have hrunning : ∀ k n, SendsOver s (.initOBD k) n → ¬ InitOver (s.connectThreads k) :=
    fun k n hk hover => hk.1 hover.1
  have hmixed : ∀ k t n, SendsOver s (.initOBD k) n → ¬ SendsOver s (.readings t) n := by
    intro k t n hk ht
    exact socket_free s h k n (hrunning k n hk) hk.2 t (runs_of_sampling ht.1) ht.2
  refine ⟨?_, ?_⟩
  · intro a b n ha hb
    cases a with
    | initOBD k =>
      cases b with
      | initOBD j =>
        have hk := (h.initOver k (hrunning k n ha)).2
        have hj := (h.initOver j (hrunning j n hb)).2
        rw [Option.some.inj (hk.symm.trans hj)]
      | readings t => exact absurd hb (hmixed k t n ha)
    | readings t =>
      cases b with
      | initOBD k => exact absurd ha (hmixed k t n hb)
      | readings i => rw [h.oneSampler t i ha.1 hb.1 (ha.2.trans hb.2.symm)]
  · intro t k ht hk
    by_contra hover
    exact socket_free s h k _ hover hk t (runs_of_sampling ht) rfl

/-! ## Going on too early -/

/-- The new `ConnectedThread` samples while the initialisation is still to come or running. -/
theorem overlap_of_open (s : Session) (k i : ThreadId) (n : SocketId) (hi : s.Runs i)
    (hsocket : (s.connectedThreads i).mSocket = n) (hk : (s.connectThreads k).mSocket = some n)
    (hopen : (s.sockets n).isConnected = true) (hover : ¬ InitOver (s.connectThreads k)) :
    ∃ u, app.Steps WaitsForInit s u ∧ ¬ OneUser u := by
  subst hsocket
  have hsamples : enabled s (.samples i) := ⟨hi, hopen⟩
  refine ⟨_, Steps.guarded (Action.samples i) trivial hsamples, ?_⟩
  intro h
  refine hover (h.2 i k ?_ ?_)
  · simp [next, setConnectedThread]
  · simpa [next, setConnectedThread] using hk

theorem overlap_of_connecting (s : Session) (k i : ThreadId) (n : SocketId) (hi : s.Runs i)
    (hsocket : (s.connectedThreads i).mSocket = n)
    (hstage : (s.connectThreads k).stage = .connecting)
    (hnew : OnNewSocket (s.connectThreads k) (s.sockets n) n) :
    ∃ u, app.Steps WaitsForInit s u ∧ ¬ OneUser u := by
  simp only [OnNewSocket, hstage] at hnew
  obtain ⟨hk, hinit, hfresh, hclosed⟩ := hnew
  have hconnects : enabled s (.socketConnects k n) := ⟨hstage, hk, hfresh, hclosed⟩
  obtain ⟨u, hu, hbad⟩ := overlap_of_open (next s (.socketConnects k n)) k i n hi hsocket
    (by simpa [next, setConnectThread, setSocket] using hk)
    (by simp [next, setConnectThread, setSocket, BluetoothSocket.isConnected, hclosed])
    (by simp [next, setConnectThread, setSocket, InitOver])
  exact ⟨u, (Steps.guarded (Action.socketConnects k n) trivial hconnects).trans hu, hbad⟩

/-- However far the attempt has come, it can finish connecting while the
`ConnectedThread` waits for its turn. -/
theorem overlap (s : Session) (k i : ThreadId) (n : SocketId) (hi : s.Runs i)
    (hsocket : (s.connectedThreads i).mSocket = n) (hshared : s.mBTSocket = some n)
    (hnew : OnNewSocket (s.connectThreads k) (s.sockets n) n)
    (hover : ¬ InitOver (s.connectThreads k)) :
    ∃ u, app.Steps WaitsForInit s u ∧ ¬ OneUser u := by
  cases hstage : (s.connectThreads k).stage with
  | begun =>
    have hreads : enabled s (.readSocket k n) := ⟨hstage, hshared⟩
    simp only [OnNewSocket, hstage] at hnew
    obtain ⟨u, hu, hbad⟩ := overlap_of_connecting (next s (.readSocket k n)) k i n hi hsocket
      (by simp [next, setConnectThread])
      (by simp [next, setConnectThread, OnNewSocket, hnew])
    exact ⟨u, (Steps.guarded (Action.readSocket k n) trivial hreads).trans hu, hbad⟩
  | connecting => exact overlap_of_connecting s k i n hi hsocket hstage hnew
  | sleeping =>
    simp only [OnNewSocket, hstage] at hnew
    exact overlap_of_open s k i n hi hsocket hnew.1 hnew.2.2 hover
  | joining | ended =>
    have hinit : (s.connectThreads k).initOBDThread ≠ none := by
      intro hnone
      exact hover ⟨hnone, by simp [hstage]⟩
    obtain ⟨-, hk, hopen⟩ := initOBDThread_of_onNewSocket hnew hinit
    exact overlap_of_open s k i n hi hsocket hk hopen hover

/-- **One user for each socket.** -/
theorem oneUser_exact (s : Session) (h : app.ReachUnder WaitsForInit s) :
    app.ExactAt WaitsForInit OneUser s := by
  refine exact_guarded Served ?_ served_next oneUser_of_served ?_ s h
  · exact ⟨Coherent.init, by simp, by simp [InitOver], by simp⟩
  intro s a h hok ha
  cases a with
  | connectReturns n =>
    obtain ⟨k, hk⟩ := not_forall.1 hok
    obtain ⟨-, hover⟩ := Classical.not_imp.1 hk
    have hexec : s.executing ≠ none := by simp [ha.1]
    obtain ⟨k', m, hk', hm, hfree, hnew⟩ := h.attempt hexec
    obtain rfl : k = k' := Option.some.inj ((h.initOver k hover).2.symm.trans hk')
    obtain rfl : n = m := Option.some.inj (ha.2.symm.trans hm)
    -- the old `ConnectedThread` is on another socket, so that `connected` leaves this one open
    have hold : s.connectedSocket ≠ some n := by
      intro hsocket
      obtain ⟨t, ht, hn⟩ := Option.map_eq_some_iff.1 hsocket
      exact hfree t (h.coherent.threadHeld t ht) hn
    refine overlap _ k s.nextConnectedThread n ?_ ?_ ?_ ?_ ?_
    · exact (runs_connected s n _).2 (Or.inl rfl)
    · simp [next, connected_eq]
    · simp [next, connected_eq, ha.2]
    · simpa [next, connected_eq, hold] using hnew
    · simpa [next, connected_eq] using hover
  | _ => exact absurd trivial hok

/-- A first connection whose initialisation is over in time. -/
theorem oneUser_exact_first :
    ∃ s, (s.connectedThreads 0).stage = .sampling ∧ app.ExactAt WaitsForInit OneUser s := by
  have hattempt : app.ReachUnder WaitsForInit _ :=
    exec_steps (successfulAttempt "A" 0 0 ++ [.joinReturns])
      (by simp [successfulAttempt, initCommands, WaitsForInit]) rfl
  have hreturn := hattempt.trans (Steps.single (.connectReturns 0) ?_ rfl)
  · refine ⟨_, ?_, oneUser_exact _ (hreturn.trans (Steps.single (.samples 0) trivial rfl))⟩
    rfl
  · intro k hk
    obtain rfl := Option.some.inj hk
    exact ⟨rfl, Or.inr rfl⟩

end ProjektMagisterski.Bluetooth
