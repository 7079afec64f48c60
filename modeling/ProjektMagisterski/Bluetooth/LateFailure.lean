import ProjektMagisterski.Bluetooth.Threads

/-!
# Failures of superseded connections

`connected` cancels the old `ConnectedThread` but does not wait for it.  Its
`IOException` comes afterwards, and `connectionLost` then clears whatever
`BluetoothIO` holds at that time.

* `supersededFailure_clears_current`: reconnecting, and then the old thread fails;
* `lateFailure_exact`: such failures are harmless exactly as long as no
  `ConnectedThread` is started while another one still runs.
-/

namespace ProjektMagisterski.Bluetooth

open Session Lib.Machine

/-- When a thread other than the held one handles its failure, the held thread
stays and no socket of the held threads is closed. -/
def LateFailureHarmless (s : Session) : Prop :=
  ∀ t s', s.mConnectedThread ≠ some t → app.step s (.ioException t) = some s' →
    s'.mConnectedThread = s.mConnectedThread ∧
      ∀ n, s.connectedSocket = some n ∨ s.connectSocket = some n →
        (s'.sockets n).closed = (s.sockets n).closed

/-- A `ConnectedThread` is only started when every earlier one has ended. -/
def StartsAlone (s : Session) : Action → Prop
  | .connectReturns _ | .connected _ => ∀ t, ¬ s.Runs t
  | _ => True

/-- Two connections after another; the first thread reads its closed stream at the end. -/
theorem supersededFailure_clears_current :
    ∃ s, app.Reachable s ∧ ¬ LateFailureHarmless s := by
  refine ⟨_, reachable_of_exec
    (successfulConnect "A" 0 0 ++ [.samples 0] ++ successfulConnect "B" 1 1 ++ [.samples 1]) rfl,
    ?_⟩
  intro h
  have hkept := (h 0 _ (by decide) rfl).1
  exact absurd hkept (by decide)

/-! ## The invariant -/

/-- A running thread is the held one, or nothing is held. -/
structure NoneLate (s : Session) : Prop where
  coherent : Coherent s
  alone : ∀ t, s.Runs t → s.mConnectedThread ≠ some t → s.mConnectedThread = none

theorem noneLate_clearThreads (s : Session) (h : NoneLate s) : NoneLate s.clearThreads := by
  refine ⟨h.coherent.clearThreads, ?_⟩
  intro t _ _
  rw [clearThreads_eq]

theorem noneLate_connected (s : Session) (n : SocketId) (h : NoneLate s) (hn : n < s.nextSocket)
    (halone : ∀ t, ¬ s.Runs t) : NoneLate { s.connected n with executing := none } := by
  refine ⟨h.coherent.connected n hn, ?_⟩
  intro t ht hne
  obtain rfl | hold := (runs_connected s n t).1 ht
  · exact absurd (connected_mConnectedThread s n) hne
  · exact absurd hold (halone t)

theorem noneLate_next (s : Session) (a : Action) (h : NoneLate s) (hok : StartsAlone s a)
    (ha : enabled s a) : NoneLate (next s a) := by
  cases a with
  | connect device =>
    refine ⟨h.coherent.next _ ha, ?_⟩
    have hstate := h.coherent.notConnecting ha
    simp only [next, connect, hstate, if_false, setState, newConnectThread]
    exact h.alone
  | joinReturns => exact ⟨h.coherent.next _ ha, h.alone⟩
  | connectReturns n => exact noneLate_connected s n h (h.coherent.sharedCreated n ha.2) hok
  | connected n =>
    have hn := noneLate_connected s n h ha.2 hok
    rwa [connected_idle n ha.1] at hn
  | start => exact noneLate_clearThreads s h
  | clearThreads => exact noneLate_clearThreads s h
  | ioException t =>
    exact ⟨h.coherent.next _ ha, fun _ _ _ => connectionLost_mConnectedThread s⟩
  | _ =>
    have hq := quiet_next s _ ha rfl
    refine ⟨h.coherent.quiet hq, ?_⟩
    rw [hq.mConnectedThread]
    intro t ht
    exact h.alone t ((hq.runs t).1 ht)

theorem harmless_of_noneLate (s : Session) (h : NoneLate s) : LateFailureHarmless s := by
  intro t s' hne hstep
  obtain ⟨⟨hidle, hruns, -⟩, rfl⟩ := (app_step s s' (.ioException t)).1 hstep
  have hnone := h.alone t hruns hne
  have hattempt := h.coherent.cleared hidle hnone
  refine ⟨(connectionLost_mConnectedThread s).trans hnone.symm, ?_⟩
  intro n hn
  simp [connectedSocket, connectSocket, hnone, hattempt] at hn

/-! ## Starting a thread too early -/

/-- A thread that still runs when another one is started has lost its stream: it
fails next, and clears the new one. -/
theorem late_of_connected (s : Session) (n : SocketId) (h : Coherent s) (hn : n < s.nextSocket)
    (hlate : ¬ ∀ t, ¬ s.Runs t) :
    ¬ LateFailureHarmless { s.connected n with executing := none } := by
  obtain ⟨t, ht⟩ := not_forall_not.1 hlate
  have hold : t ≠ s.nextConnectedThread := Nat.ne_of_lt (h.created t ht).1
  have hne : (s.connected n).mConnectedThread ≠ some t := by
    simpa [connected_mConnectedThread] using hold.symm
  have hruns : (s.connected n).Runs t := (runs_connected s n t).2 (Or.inr ht)
  have hclosed : ((s.connected n).sockets ((s.connected n).connectedThreads t).mSocket).closed :=
    ((h.connected n hn).superseded t hruns hne).2
  have hfails : enabled { s.connected n with executing := none } (.ioException t) :=
    ⟨rfl, hruns, BluetoothSocket.isLive_of_closed hclosed⟩
  intro hharmless
  have hkept := (hharmless t _ hne ((app_step _ _ _).2 ⟨hfails, rfl⟩)).1
  have hcleared := connectionLost_mConnectedThread { s.connected n with executing := none }
  cases hcleared.symm.trans (hkept.trans (connected_mConnectedThread s n))

/-- **Late failures.**  They are harmless in every run that starts each
`ConnectedThread` alone, and any other start can be followed by a harmful one. -/
theorem lateFailure_exact (s : Session) (h : app.ReachUnder StartsAlone s) :
    app.ExactAt StartsAlone LateFailureHarmless s := by
  refine exact_guarded NoneLate ⟨Coherent.init, fun t ht => absurd rfl ht⟩ noneLate_next
    harmless_of_noneLate ?_ s h
  intro s a h hok ha
  refine ⟨next s a, Steps.refl _, ?_⟩
  cases a with
  | connectReturns n =>
    exact late_of_connected s n h.coherent (h.coherent.sharedCreated n ha.2) hok
  | connected n =>
    have hlate := late_of_connected s n h.coherent ha.2 hok
    rwa [connected_idle n ha.1] at hlate
  | _ => exact absurd trivial hok

/-- The first connection is started alone. -/
theorem lateFailure_exact_first :
    ∃ s, s.mConnectedThread = some 0 ∧ app.ExactAt StartsAlone LateFailureHarmless s := by
  have hattempt : app.ReachUnder StartsAlone _ :=
    exec_steps (successfulAttempt "A" 0 0 ++ [.joinReturns])
      (by simp [successfulAttempt, initCommands, StartsAlone]) rfl
  refine ⟨_, ?_, lateFailure_exact _ (hattempt.trans (Steps.single (.connectReturns 0) ?_ rfl))⟩
  · rfl
  · intro t ht
    exact ht rfl

end ProjektMagisterski.Bluetooth
