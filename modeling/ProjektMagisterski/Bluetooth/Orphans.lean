import ProjektMagisterski.Bluetooth.Threads

/-!
# Threads that nobody holds

`connect` would cancel the old `ConnectThread` in `STATE_CONNECTING`, but that
state ends inside `connect` itself.  The next `connect` overwrites the field.

* `slowAttempt_orphaned`: a second `connect` while the first attempt still runs;
* `noOrphan_exact`: nobody is left running exactly as long as `connect` is only
  called when the held attempt has ended.
-/

namespace ProjektMagisterski.Bluetooth

open Function (update_self update_of_ne)
open Session Lib.Machine

/-- Between two calls every thread but the held ones has ended or been cancelled,
and at most one `ConnectedThread` runs uncancelled. -/
def NoOrphan (s : Session) : Prop :=
  s.executing = none →
    (∀ k, s.Attempts k → s.mConnectThread ≠ some k → (s.connectThreads k).cancelled = true) ∧
      (∀ t, s.Runs t → s.mConnectedThread ≠ some t → (s.connectedThreads t).cancelled = true) ∧
      ∀ i j, s.Runs i → s.Runs j → (s.connectedThreads i).cancelled = false →
        (s.connectedThreads j).cancelled = false → i = j

/-- `connect` is only called when the held attempt to connect has ended. -/
def ConnectsAfterAttempt (s : Session) : Action → Prop
  | .connect _ => ∀ k, s.mConnectThread = some k → ¬ s.Attempts k
  | _ => True

/-- The first attempt outlives `join(15000)`, and another device is chosen. -/
theorem slowAttempt_orphaned : ∃ s, app.Reachable s ∧ ¬ NoOrphan s := by
  refine ⟨_, reachable_of_exec
    [.connect "A", .readSocket 0 0, .joinReturns, .connectReturns 0,
      .connect "B", .joinReturns, .connectReturns 1] rfl, ?_⟩
  intro h
  have hcancelled := (h rfl).1 0 (by decide) (by decide)
  exact absurd hcancelled (by decide)

/-! ## The invariant -/

/-- An attempt that runs and is not held has been cancelled. -/
structure Tracked (s : Session) : Prop where
  coherent : Coherent s
  attempts : ∀ k, s.Attempts k → s.mConnectThread ≠ some k →
    (s.connectThreads k).cancelled = true

theorem tracked_connect (s : Session) (device : String) (h : Tracked s)
    (hidle : s.executing = none) (hended : ∀ k, s.mConnectThread = some k → ¬ s.Attempts k) :
    Tracked (s.connect device) := by
  refine ⟨h.coherent.connect device hidle, ?_⟩
  have hstate := h.coherent.notConnecting hidle
  simp only [connect, hstate, if_false, setState, newConnectThread]
  intro k hk hne
  have hnew : k ≠ s.nextConnectThread := fun he => hne (by rw [he])
  have hold : s.Attempts k := by simpa [Attempts, hnew] using hk
  have hheld : s.mConnectThread ≠ some k := fun he => hended k he hold
  simpa [hnew] using h.attempts k hold hheld

theorem tracked_connected (s : Session) (n : SocketId) (h : Tracked s) (hn : n < s.nextSocket) :
    Tracked { s.connected n with executing := none } := by
  refine ⟨h.coherent.connected n hn, ?_⟩
  rw [connected_eq]
  exact h.attempts

theorem tracked_clearThreads (s : Session) (h : Tracked s) : Tracked s.clearThreads := by
  refine ⟨h.coherent.clearThreads, ?_⟩
  rw [clearThreads_eq]
  intro k hk _
  by_cases hheld : s.mConnectThread = some k
  · simp [hheld]
  · simp [h.attempts k hk hheld]

theorem tracked_next (s : Session) (a : Action) (h : Tracked s) (hok : ConnectsAfterAttempt s a)
    (ha : enabled s a) : Tracked (next s a) := by
  cases a with
  | connect device => exact tracked_connect s device h ha hok
  | joinReturns => exact ⟨h.coherent.next _ ha, h.attempts⟩
  | connectReturns n => exact tracked_connected s n h (h.coherent.sharedCreated n ha.2)
  | connected n =>
    have hn := tracked_connected s n h ha.2
    rwa [connected_idle n ha.1] at hn
  | start => exact tracked_clearThreads s h
  | clearThreads => exact tracked_clearThreads s h
  | ioException t => exact ⟨h.coherent.next _ ha, (tracked_clearThreads s h).attempts⟩
  | _ =>
    have hq := quiet_next s _ ha rfl
    refine ⟨h.coherent.quiet hq, ?_⟩
    intro k hk hne
    rw [hq.mConnectThread] at hne
    rw [hq.cancelled k]
    exact h.attempts k (hq.attempts k hk) hne

theorem noOrphan_of_tracked (s : Session) (h : Tracked s) : NoOrphan s := by
  intro _
  have hthreads : ∀ t, s.Runs t → s.mConnectedThread ≠ some t →
      (s.connectedThreads t).cancelled = true :=
    fun t ht hne => (h.coherent.superseded t ht hne).1
  refine ⟨h.attempts, hthreads, ?_⟩
  intro i j hi hj hci hcj
  -- an uncancelled thread is the held one
  have hheld : ∀ t, s.Runs t → (s.connectedThreads t).cancelled = false →
      s.mConnectedThread = some t := by
    intro t ht hc
    by_contra hne
    simp [hthreads t ht hne] at hc
  exact Option.some.inj ((hheld i hi hci).symm.trans (hheld j hj hcj))

/-! ## Connecting too early -/

/-- The attempt that `connect` finds running is neither held nor cancelled when it returns. -/
theorem orphan_of_connect (s : Session) (device : String) (k : ThreadId) (h : Tracked s)
    (hidle : s.executing = none) (hk : s.mConnectThread = some k) (hruns : s.Attempts k) :
    ∃ u, app.Steps ConnectsAfterAttempt (s.connect device) u ∧ ¬ NoOrphan u := by
  have hstate := h.coherent.notConnecting hidle
  obtain ⟨hlt, hcancelled⟩ := h.coherent.attemptHeld k hk
  have hne : k ≠ s.nextConnectThread := Nat.ne_of_lt hlt
  have hjoin : enabled (s.connect device) .joinReturns := rfl
  have hreturn : enabled (next (s.connect device) .joinReturns) (.connectReturns s.nextSocket) := by
    refine ⟨rfl, ?_⟩
    simp [next, connect, hstate, setState, newConnectThread]
  refine ⟨_, (Steps.guarded Action.joinReturns trivial hjoin).trans
    (Steps.guarded (Action.connectReturns s.nextSocket) trivial hreturn), ?_⟩
  intro horphan
  have hcancels := (horphan rfl).1 k
    (by simpa [next, connected_eq, connect, hstate, setState, newConnectThread, Attempts, hne]
      using hruns)
    (by simp [next, connected_eq, connect, hstate, setState, newConnectThread, hne.symm])
  simp [next, connected_eq, connect, hstate, setState, newConnectThread, hne, hcancelled]
    at hcancels

/-- **Orphans.** -/
theorem noOrphan_exact (s : Session) (h : app.ReachUnder ConnectsAfterAttempt s) :
    app.ExactAt ConnectsAfterAttempt NoOrphan s := by
  refine exact_guarded Tracked ⟨Coherent.init, fun k hk => absurd rfl hk⟩ tracked_next
    noOrphan_of_tracked ?_ s h
  intro s a h hok ha
  cases a with
  | connect device =>
    obtain ⟨k, hk⟩ := not_forall.1 hok
    obtain ⟨hheld, hruns⟩ := Classical.not_imp.1 hk
    exact orphan_of_connect s device k h ha hheld (not_not.1 hruns)
  | _ => exact absurd trivial hok

/-- The first `connect` finds no attempt; its own may outlive `join(15000)`. -/
theorem noOrphan_exact_first :
    ∃ s, s.mConnectThread = some 0 ∧ app.ExactAt ConnectsAfterAttempt NoOrphan s := by
  have hconnect : app.ReachUnder ConnectsAfterAttempt _ :=
    Steps.single (.connect "A") (fun k hk => by cases hk) rfl
  have hreturn := hconnect.trans
    (exec_steps [.readSocket 0 0, .joinReturns, .connectReturns 0]
      (by simp [ConnectsAfterAttempt]) rfl)
  exact ⟨_, rfl, noOrphan_exact _ hreturn⟩

end ProjektMagisterski.Bluetooth
