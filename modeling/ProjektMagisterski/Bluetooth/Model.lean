import Mathlib.Logic.Function.Basic
import ProjektMagisterski.Lib.Machine

/-!
# The Bluetooth link

`BluetoothIO` with the threads it starts, as one machine.  Every
`ConnectThread`, `ConnectedThread` and socket ever created keeps its number;
the synchronized methods are atomic steps, except that `connect` holds the
monitor over two waits, the `join` of the `ConnectThread` and a `sleep`.

* `clearThreads`, `connected`, `connect`: the methods of `BluetoothIO`;
* `Action`, `enabled`, `next`: the steps of its callers and of its threads;
* `app`: the machine of their interleavings.

`AcceptThread` is never constructed.  A socket that cannot be created, or an
exception that a thread does not catch, ends the process and has no step here.
-/

namespace ProjektMagisterski.Bluetooth

open Function (update)

abbrev SocketId := Nat
abbrev ThreadId := Nat

inductive ConnectionState where
  /-- We're doing nothing. -/
  | stateNone
  /-- Now listening for incoming connections. -/
  | stateListen
  /-- Now initiating an outgoing connection. -/
  | stateConnecting
  /-- Now connected to a remote device. -/
  | stateConnected
deriving DecidableEq, Repr

/-- A platform socket.  `lost` is a dropped link, which `isConnected` does not report. -/
structure BluetoothSocket where
  device : String := ""
  connected : Bool := false
  closed : Bool := false
  lost : Bool := false
deriving DecidableEq, Repr

/-- The platform's `isConnected`: `connect` has succeeded and nobody called `close`. -/
def BluetoothSocket.isConnected (b : BluetoothSocket) : Bool := b.connected && !b.closed

/-- Commands over the socket get through; on any other socket they raise an `IOException`. -/
def BluetoothSocket.isLive (b : BluetoothSocket) : Bool := b.isConnected && !b.lost

theorem BluetoothSocket.isLive_of_closed {b : BluetoothSocket} (h : b.closed = true) :
    b.isLive = false := by
  simp [isLive, isConnected, h]

theorem BluetoothSocket.isConnected_of_isLive {b : BluetoothSocket} (h : b.isLive = true) :
    b.isConnected = true := by
  simp only [isLive, Bool.and_eq_true] at h
  exact h.1

/-- The commands of `initOBDThread`. -/
inductive InitCommand where
  | obdReset | echoOff | lineFeedOff | spacesOff | timeout (value : Nat) | selectProtocolAuto
deriving DecidableEq, Repr

def initCommands : List InitCommand :=
  [.obdReset, .echoOff, .lineFeedOff, .spacesOff, .spacesOff, .timeout 125, .selectProtocolAuto,
    .echoOff]

/-- Where the `run` of a `ConnectThread` is: before it reads the shared socket,
in `mSocket.connect()`, in the `sleep` after it, in `initOBDThread.join(10000)`, or done. -/
inductive ConnectStage where
  | begun | connecting | sleeping | joining | ended
deriving DecidableEq, Repr

structure ConnectThread where
  stage : ConnectStage := .ended
  mSocket : Option SocketId := none
  /-- The running `initOBDThread`, with the commands it has yet to send. -/
  initOBDThread : Option (List InitCommand) := none
  /-- `cancel()` has been called. -/
  cancelled : Bool := false
deriving DecidableEq, Repr

/-- Where the `run` of a `ConnectedThread` is: before its first reading command, after
it, or done. -/
inductive ConnectedStage where
  | started | sampling | ended
deriving DecidableEq, Repr

structure ConnectedThread where
  stage : ConnectedStage := .ended
  mSocket : SocketId := 0
  /-- `cancel()` has been called. -/
  cancelled : Bool := false
deriving DecidableEq, Repr

/-- The wait of `connect` that holds the monitor. -/
inductive ConnectWait where
  | join | sleep
deriving DecidableEq, Repr

/-- `BluetoothIO` and all it shares with its threads.  The entries from the
`next` numbers on belong to nothing created yet. -/
structure Session where
  mState : ConnectionState := .stateNone
  mConnectThread : Option ThreadId := none
  mConnectedThread : Option ThreadId := none
  /-- The socket in `BTProperties`. -/
  mBTSocket : Option SocketId := none
  /-- The `connect` that holds the monitor. -/
  executing : Option ConnectWait := none
  sockets : SocketId → BluetoothSocket := fun _ => {}
  connectThreads : ThreadId → ConnectThread := fun _ => {}
  connectedThreads : ThreadId → ConnectedThread := fun _ => {}
  nextSocket : SocketId := 0
  nextConnectThread : ThreadId := 0
  nextConnectedThread : ThreadId := 0

namespace Session

/-! ## Updates of one thread or socket -/

def setSocket (s : Session) (n : SocketId) (b : BluetoothSocket) : Session :=
  { s with sockets := update s.sockets n b }

def setConnectThread (s : Session) (k : ThreadId) (c : ConnectThread) : Session :=
  { s with connectThreads := update s.connectThreads k c }

def setConnectedThread (s : Session) (t : ThreadId) (c : ConnectedThread) : Session :=
  { s with connectedThreads := update s.connectedThreads t c }

/-- `mSocket.close()`. -/
def close (s : Session) (n : SocketId) : Session :=
  s.setSocket n { s.sockets n with closed := true }

/-- `if(mSocket != null) mSocket.close()`. -/
def closeIfSet (s : Session) : Option SocketId → Session
  | some n => s.close n
  | none => s

/-! ## `ConnectThread` and `ConnectedThread` -/

/-- `ConnectThread.cancel`: closes the socket that `run` has stored, if it has. -/
def cancelConnectThread (s : Session) (k : ThreadId) : Session :=
  let c := s.connectThreads k
  (s.setConnectThread k { c with cancelled := true }).closeIfSet c.mSocket

/-- `ConnectedThread.cancel`: closes the streams and the socket. -/
def cancelConnectedThread (s : Session) (t : ThreadId) : Session :=
  let c := s.connectedThreads t
  (s.setConnectedThread t { c with cancelled := true }).close c.mSocket

/-- `new ConnectThread(device, mHandler)` and its `start()`: the new socket goes
to `BTProperties`, and the thread's own `mSocket` is not set yet. -/
def newConnectThread (s : Session) (device : String) : Session :=
  { s with
    sockets := update s.sockets s.nextSocket { device := device }
    nextSocket := s.nextSocket + 1
    mBTSocket := some s.nextSocket
    connectThreads := update s.connectThreads s.nextConnectThread { stage := .begun }
    nextConnectThread := s.nextConnectThread + 1
    mConnectThread := some s.nextConnectThread }

/-- `new ConnectedThread(socket, mHandler)` and its `start()`. -/
def newConnectedThread (s : Session) (n : SocketId) : Session :=
  { s with
    connectedThreads :=
      update s.connectedThreads s.nextConnectedThread { stage := .started, mSocket := n }
    nextConnectedThread := s.nextConnectedThread + 1
    mConnectedThread := some s.nextConnectedThread }

/-! ## `BluetoothIO` -/

def setState (s : Session) (state : ConnectionState) : Session := { s with mState := state }

def getState (s : Session) : ConnectionState := s.mState

/-- The part of `clearThreads` about the attempt to connect. -/
def clearConnectThread (s : Session) : Session :=
  match s.mConnectThread with
  | some k => { s.cancelConnectThread k with mConnectThread := none }
  | none => s

/-- The part of `clearThreads` about the managed connection. -/
def clearConnectedThread (s : Session) : Session :=
  match s.mConnectedThread with
  | some t => { s.cancelConnectedThread t with mConnectedThread := none }
  | none => s

def clearThreads (s : Session) : Session := s.clearConnectThread.clearConnectedThread

/-- `start` only clears the threads: its `setState` and the `AcceptThread` are commented out. -/
def start (s : Session) : Session := s.clearThreads

def connectionLost (s : Session) : Session := s.start

def connected (s : Session) (n : SocketId) : Session :=
  (s.clearConnectedThread.newConnectedThread n).setState .stateConnected

/-- `connect` up to its `join(15000)`. -/
def connect (s : Session) (device : String) : Session :=
  let s := if s.mState = .stateConnecting then s.clearThreads else s
  { (s.setState .stateConnecting).newConnectThread device with executing := some .join }

end Session

/-! ## Steps -/

/-- What the callers of `BluetoothIO` and its threads do.  A label names the
socket it is about where the step reads it from a field. -/
inductive Action where
  /-- `connect(device)` takes the monitor and waits for its `ConnectThread`. -/
  | connect (device : String)
  /-- `join(15000)` returns, whether the thread has ended or not. -/
  | joinReturns
  /-- The `sleep` of `connect` is over: `connected(BTProperties…getBTSocket(), device)`. -/
  | connectReturns (n : SocketId)
  /-- A call of `connected` from elsewhere. -/
  | connected (n : SocketId)
  | start
  | clearThreads
  /-- `ConnectThread.run` reads the socket from `BTProperties`. -/
  | readSocket (k : ThreadId) (n : SocketId)
  | socketConnects (k : ThreadId) (n : SocketId)
  /-- `mSocket.connect()` raises an `IOException`. -/
  | socketRefuses (k : ThreadId) (n : SocketId)
  /-- After the `sleep`: start `initOBDThread` if the socket is connected. -/
  | startInit (k : ThreadId) (n : SocketId)
  | initSends (k : ThreadId) (n : SocketId)
  /-- `initOBDThread` has sent everything, or catches an exception. -/
  | initEnds (k : ThreadId)
  /-- `join(10000)` returns, whether `initOBDThread` has ended or not. -/
  | initJoinReturns (k : ThreadId)
  | linkLost (n : SocketId)
  /-- The `ConnectedThread` sends a reading command; a lost link shows only when the
  answer is read. -/
  | samples (t : ThreadId)
  /-- The `ConnectedThread` catches an `IOException` and runs `connectionLost`. -/
  | ioException (t : ThreadId)
deriving DecidableEq, Repr

/-- When a step is possible.  Steps that enter a synchronized method need the monitor. -/
def enabled (s : Session) : Action → Prop
  | .connect _ => s.executing = none
  | .joinReturns => s.executing = some .join
  | .connectReturns n => s.executing = some .sleep ∧ s.mBTSocket = some n
  | .connected n => s.executing = none ∧ n < s.nextSocket
  | .start => s.executing = none
  | .clearThreads => s.executing = none
  | .readSocket k n => (s.connectThreads k).stage = .begun ∧ s.mBTSocket = some n
  | .socketConnects k n =>
    (s.connectThreads k).stage = .connecting ∧ (s.connectThreads k).mSocket = some n ∧
      (s.sockets n).connected = false ∧ (s.sockets n).closed = false
  | .socketRefuses k n =>
    (s.connectThreads k).stage = .connecting ∧ (s.connectThreads k).mSocket = some n
  | .startInit k n =>
    (s.connectThreads k).stage = .sleeping ∧ (s.connectThreads k).mSocket = some n
  | .initSends k n =>
    (s.connectThreads k).initOBDThread ≠ none ∧ (s.connectThreads k).initOBDThread ≠ some [] ∧
      (s.connectThreads k).mSocket = some n ∧ (s.sockets n).isConnected = true
  | .initEnds k => (s.connectThreads k).initOBDThread ≠ none
  | .initJoinReturns k => (s.connectThreads k).stage = .joining
  | .linkLost n => (s.sockets n).connected = true
  | .samples t =>
    (s.connectedThreads t).stage ≠ .ended ∧
      (s.sockets (s.connectedThreads t).mSocket).isConnected = true
  | .ioException t =>
    s.executing = none ∧ (s.connectedThreads t).stage ≠ .ended ∧
      (s.sockets (s.connectedThreads t).mSocket).isLive = false

instance (s : Session) (a : Action) : Decidable (enabled s a) := by
  cases a <;> dsimp only [enabled] <;> infer_instance

def next (s : Session) : Action → Session
  | .connect device => s.connect device
  | .joinReturns => { s.setState .stateConnected with executing := some .sleep }
  | .connectReturns n => { s.connected n with executing := none }
  | .connected n => s.connected n
  | .start => s.start
  | .clearThreads => s.clearThreads
  | .readSocket k n =>
    s.setConnectThread k { s.connectThreads k with stage := .connecting, mSocket := some n }
  | .socketConnects k n =>
    (s.setSocket n { s.sockets n with connected := true }).setConnectThread k
      { s.connectThreads k with stage := .sleeping }
  | .socketRefuses k n =>
    (s.close n).setConnectThread k { s.connectThreads k with stage := .ended }
  | .startInit k n =>
    s.setConnectThread k
      (if (s.sockets n).isConnected then
        { s.connectThreads k with stage := .joining, initOBDThread := some initCommands }
      else { s.connectThreads k with stage := .ended })
  | .initSends k _ =>
    s.setConnectThread k
      { s.connectThreads k with
        initOBDThread := (s.connectThreads k).initOBDThread.map List.tail }
  | .initEnds k => s.setConnectThread k { s.connectThreads k with initOBDThread := none }
  | .initJoinReturns k => s.setConnectThread k { s.connectThreads k with stage := .ended }
  | .linkLost n => s.setSocket n { s.sockets n with lost := true }
  | .samples t => s.setConnectedThread t { s.connectedThreads t with stage := .sampling }
  | .ioException t =>
    s.connectionLost.setConnectedThread t
      { s.connectionLost.connectedThreads t with stage := .ended }

/-- The steps of an attempt that goes well, up to the end of its `ConnectThread`. -/
def successfulAttempt (device : String) (k : ThreadId) (n : SocketId) : List Action :=
  [.connect device, .readSocket k n, .socketConnects k n, .startInit k n] ++
    List.replicate initCommands.length (.initSends k n) ++ [.initEnds k, .initJoinReturns k]

/-- The steps of a `connect` that goes well, for a new `ConnectThread` and a new socket. -/
def successfulConnect (device : String) (k : ThreadId) (n : SocketId) : List Action :=
  successfulAttempt device k n ++ [.joinReturns, .connectReturns n]

/-- Every interleaving of the calls and the threads. -/
def app : Lib.Machine Session Action := .guarded {} enabled next

theorem app_step (s t : Session) (a : Action) :
    app.step s a = some t ↔ enabled s a ∧ next s a = t :=
  Lib.Machine.guarded_step {} enabled next a

end ProjektMagisterski.Bluetooth
