import ProjektMagisterski.App.Recordings
import ProjektMagisterski.Bluetooth.LateFailure

/-!
# The threads behind the lines

A new connection leaves the `ConnectedThread` of the old one running for a while, and
both append to the same file.

* `runs_next`: what a step of the link does to the threads that run;
* `thread_by_thread`: where every thread is started alone, the lines of a thread come
  before all those of the next one.
-/

namespace ProjektMagisterski.App

open Bluetooth Camera Obd Lib Lib.Machine Session

/-! ## Threads of the link -/

/-- A thread that is started alone is the only one that runs. -/
theorem runs_connected_alone {s : Session} (n : SocketId) (halone : ∀ t, ¬ s.Runs t)
    (t : ThreadId) : (s.connected n).Runs t ↔ t = s.nextConnectedThread := by
  rw [runs_connected]
  exact ⟨fun h => h.resolve_right (halone t), Or.inl⟩

theorem runs_clearThreads (s : Session) (t : ThreadId) : s.clearThreads.Runs t ↔ s.Runs t := by
  rw [clearThreads_eq]
  exact Iff.rfl

theorem clearThreads_nextConnectedThread (s : Session) :
    s.clearThreads.nextConnectedThread = s.nextConnectedThread := by
  rw [clearThreads_eq]

/-- A thread runs after a step only if it ran before, or was started alone; and one that
ran goes on unless its own failure ends it. -/
theorem runs_next (s : Session) (a : Bluetooth.Action) (hok : StartsAlone s a)
    (ha : Bluetooth.enabled s a) :
    ((∀ t, (Bluetooth.next s a).Runs t → s.Runs t) ∨
        (∀ t, ¬ s.Runs t) ∧ ∀ t, (Bluetooth.next s a).Runs t → t = s.nextConnectedThread) ∧
      (∀ t, s.Runs t → sampler a ≠ some t → (Bluetooth.next s a).Runs t) ∧
      s.nextConnectedThread ≤ (Bluetooth.next s a).nextConnectedThread := by
  cases a with
  | connect device =>
    have hruns : ∀ t, (s.connect device).Runs t ↔ s.Runs t := by
      intro t
      unfold connect
      split
      · exact runs_clearThreads s t
      · exact Iff.rfl
    refine ⟨Or.inl fun t => (hruns t).1, fun t ht _ => (hruns t).2 ht, ?_⟩
    show _ ≤ (s.connect device).nextConnectedThread
    unfold connect
    split
    · exact Nat.le_of_eq (clearThreads_nextConnectedThread s).symm
    · exact Nat.le_refl _
  | joinReturns => exact ⟨Or.inl fun _ h => h, fun _ h _ => h, Nat.le_refl _⟩
  | connectReturns n =>
    refine ⟨Or.inr ⟨hok, fun t => (runs_connected_alone n hok t).1⟩,
      fun t ht => absurd ht (hok t), ?_⟩
    show _ ≤ (s.connected n).nextConnectedThread
    rw [connected_eq]
    exact Nat.le_succ _
  | connected n =>
    refine ⟨Or.inr ⟨hok, fun t => (runs_connected_alone n hok t).1⟩,
      fun t ht => absurd ht (hok t), ?_⟩
    show _ ≤ (s.connected n).nextConnectedThread
    rw [connected_eq]
    exact Nat.le_succ _
  | start =>
    exact ⟨Or.inl fun t => (runs_clearThreads s t).1, fun t ht _ => (runs_clearThreads s t).2 ht,
      Nat.le_of_eq (clearThreads_nextConnectedThread s).symm⟩
  | clearThreads =>
    exact ⟨Or.inl fun t => (runs_clearThreads s t).1, fun t ht _ => (runs_clearThreads s t).2 ht,
      Nat.le_of_eq (clearThreads_nextConnectedThread s).symm⟩
  | ioException i =>
    have hruns : ∀ t, (Bluetooth.next s (.ioException i)).Runs t ↔ s.Runs t ∧ t ≠ i := by
      intro t
      by_cases ht : t = i
      · subst ht
        simp [Bluetooth.next, setConnectedThread, Runs]
      · have hkept : (Bluetooth.next s (.ioException i)).Runs t ↔ s.connectionLost.Runs t := by
          simp [Bluetooth.next, setConnectedThread, Runs, ht]
        rw [hkept]
        exact (runs_clearThreads s t).trans (by simp [ht])
    refine ⟨Or.inl fun t h => ((hruns t).1 h).1, fun t h hne => (hruns t).2 ⟨h, ?_⟩,
      Nat.le_of_eq (clearThreads_nextConnectedThread s).symm⟩
    exact fun he => hne (congrArg some he.symm)
  | _ =>
    have hq := quiet_next s _ ha rfl
    exact ⟨Or.inl fun t ht => (hq.runs t).1 ht, fun t ht _ => (hq.runs t).2 ht,
      Nat.le_of_eq hq.nextConnectedThread.symm⟩

/-! ## Lines in turn -/

/-- The condition that every thread is started alone. -/
abbrev startsAlone (targetDir : String) (files : FileSystem) : AppState → Action → Prop :=
  (linkPart targetDir files).lift StartsAlone

/-- At most one thread runs, and none has appended that was started after it. -/
structure InTurn (s : AppState) : Prop where
  coherent : Coherent s.link
  single : ∀ t u, s.link.Runs t → s.link.Runs u → t = u
  sorted : (s.appends.map fun a => a.round.thread).Pairwise (· ≤ ·)
  past : ∀ a ∈ s.appends, ∀ t, s.link.Runs t → a.round.thread ≤ t
  created : ∀ a ∈ s.appends, a.round.thread < s.link.nextConnectedThread
  waiting : ∀ r ∈ s.checked, s.link.Runs r.thread

theorem pending_ne_none {s : AppState} {r : Round} (hr : r ∈ s.checked) :
    s.pending r.thread ≠ none := by
  intro hnone
  have hall := List.find?_eq_none.1 hnone r hr
  simp at hall

theorem InTurn.link {s : AppState} (h : InTurn s) (a : Bluetooth.Action)
    (hok : StartsAlone s.link a) (ha : Bluetooth.enabled s.link a)
    (hsampler : ∀ t ∈ sampler a, s.pending t = none) :
    InTurn { s with link := Bluetooth.next s.link a } := by
  obtain ⟨hruns, hkept, hcount⟩ := runs_next s.link a hok ha
  refine ⟨h.coherent.next a ha, ?_, h.sorted, ?_, fun q hq => ?_, ?_⟩
  · intro t u ht hu
    rcases hruns with hold | ⟨-, hnew⟩
    · exact h.single t u (hold t ht) (hold u hu)
    · exact (hnew t ht).trans (hnew u hu).symm
  · intro q hq t ht
    rcases hruns with hold | ⟨-, hnew⟩
    · exact h.past q hq t (hold t ht)
    · rw [hnew t ht]
      exact Nat.le_of_lt (h.created q hq)
  · exact Nat.lt_of_lt_of_le (h.created q hq) hcount
  · intro r hr
    exact hkept r.thread (h.waiting r hr) fun he => pending_ne_none hr (hsampler _ he)

theorem InTurn.roundChecks {s : AppState} (h : InTurn s) (r : Round)
    (hr : s.link.Runs r.thread) : InTurn (s.roundChecks r) := by
  unfold AppState.roundChecks
  split
  · exact h
  · refine ⟨h.coherent, h.single, h.sorted, h.past, h.created, ?_⟩
    intro q hq
    rcases List.mem_append.1 hq with hq | hq
    · exact h.waiting q hq
    · rw [List.mem_singleton.1 hq]
      exact hr

theorem InTurn.roundAppends {s : AppState} (h : InTurn s) {r : Round} (hr : r ∈ s.checked) :
    InTurn (s.roundAppends r) := by
  have hruns := h.waiting r hr
  unfold AppState.roundAppends
  split
  · exact ⟨h.coherent, h.single, h.sorted, h.past, h.created, h.waiting⟩
  · refine ⟨h.coherent, h.single, ?_, ?_, ?_, fun q hq => h.waiting q (List.mem_of_mem_filter hq)⟩
    · rw [List.map_append, List.pairwise_append]
      refine ⟨h.sorted, List.pairwise_singleton .., ?_⟩
      intro t ht u hu
      obtain ⟨a, ha, rfl⟩ := List.mem_map.1 ht
      rw [List.mem_singleton.1 hu]
      exact h.past a ha _ hruns
    · intro a ha t ht
      rcases List.mem_append.1 ha with ha | ha
      · exact h.past a ha t ht
      · rw [List.mem_singleton.1 ha]
        exact Nat.le_of_eq (h.single _ _ hruns ht)
    · intro a ha
      rcases List.mem_append.1 ha with ha | ha
      · exact h.created a ha
      · rw [List.mem_singleton.1 ha]
        exact (h.coherent.created _ hruns).1

theorem InTurn.next (targetDir : String) (files : FileSystem) {s : AppState} (h : InTurn s)
    (a : Action) (hok : startsAlone targetDir files s a) (ha : enabled s a) :
    InTurn (next targetDir s a) := by
  cases a with
  | link a => exact h.link a (hok a rfl) ha.1 ha.2.2.2
  | camera a => exact ⟨h.coherent, h.single, h.sorted, h.past, h.created, h.waiting⟩
  | roundChecks t formatted =>
    apply h.roundChecks
    simp [Runs, ha.2.1]
  | roundAppends t =>
    simp only [App.next]
    split
    · exact h
    · rename_i r hr
      exact h.roundAppends (List.mem_of_find?_eq_some hr)

theorem inTurn_reachUnder (targetDir : String) (files : FileSystem) (s : AppState)
    (h : (app targetDir files).ReachUnder (startsAlone targetDir files) s) : InTurn s := by
  apply h.invariant
  · exact ⟨Coherent.init, fun t _ ht => absurd rfl ht, List.Pairwise.nil,
      fun a ha => absurd ha List.not_mem_nil, fun a ha => absurd ha List.not_mem_nil,
      fun r hr => absurd hr List.not_mem_nil⟩
  · intro s a t hs hok hstep
    obtain ⟨ha, rfl⟩ := (app_step targetDir files s t a).1 hstep
    exact hs.next targetDir files a hok ha

/-- **Thread by thread.**  In every run in which each `ConnectedThread` is started when no
other one runs, the appends are ordered by their threads: once a thread has written a line,
no thread of an earlier connection does. -/
theorem thread_by_thread (targetDir : String) (files : FileSystem) (s : AppState)
    (h : (app targetDir files).ReachUnder (startsAlone targetDir files) s) :
    (s.appends.map fun a => a.round.thread).Pairwise (· ≤ ·) ∧
      ∀ t u, s.link.Runs t → s.link.Runs u → t = u := by
  have hturn := inTurn_reachUnder targetDir files s h
  exact ⟨hturn.sorted, hturn.single⟩

/-! ## Two connections -/

theorem startsAlone_of_ended {targetDir : String} {files : FileSystem} {s : AppState}
    (hs : (app targetDir files).ReachUnder (startsAlone targetDir files) s) (n : SocketId)
    (hended : ∀ t < s.link.nextConnectedThread, (s.link.connectedThreads t).stage = .ended) :
    startsAlone targetDir files s (.link (.connectReturns n)) := by
  intro a ha
  obtain rfl := Option.some.inj ha
  intro t ht
  exact ht (hended t ((inTurn_reachUnder targetDir files s hs).coherent.created t ht).1)

/-- The steps of a connection up to the end of `connect`. -/
def connectsTo (device : String) (n : SocketId) : List Action :=
  (successfulAttempt device n n ++ [Bluetooth.Action.joinReturns]).map .link

/-- A recording of one round, on a camera that is opened for it. -/
def recordsRound (d : DeviceId) (t : ThreadId) (timeStamp value : String) : List Action :=
  [.link (.samples t), .camera (.openCamera .requested), .camera (.onOpened d),
    .camera (.onClick true true timeStamp .requested), .camera .onConfigured,
    .camera .recordingConfigured, .roundChecks t fun _ => value, .roundAppends t]

/-- The recording is stopped, the fragment is paused for the list of devices, and the
thread finds its link lost. -/
def leavesLink (n : SocketId) (t : ThreadId) : List Action :=
  [.camera (.onClick true true "" .requested), .camera .onPause, .camera .acquired,
    .camera .closeCamera, .camera .backgroundStopped, .link (.linkLost n), .link (.ioException t)]

/-- A round of a first connection, and one of the next. -/
theorem thread_by_thread_twoConnections :
    ∃ s : AppState,
      (s.appends.map fun a => (a.round.thread, a.path)) =
        [(0, "/Movies/READINGS_20180611_101500.txt"),
          (1, "/Movies/READINGS_20180611_102000.txt")] ∧
      (s.appends.map fun a => a.round.thread).Pairwise (· ≤ ·) ∧
      ∀ t u, s.link.Runs t → s.link.Runs u → t = u := by
  have hattempt : (app "/Movies" ⟨fun _ => none, fun _ => true⟩).ReachUnder
      (startsAlone "/Movies" ⟨fun _ => none, fun _ => true⟩) _ :=
    exec_steps (connectsTo "A" 0)
      (by simp [connectsTo, successfulAttempt, initCommands, Projection.lift, linkPart, linkLabel,
        StartsAlone]) rfl
  have hfirst := hattempt.trans (Steps.single (.link (.connectReturns 0))
    (startsAlone_of_ended hattempt 0 fun t ht => absurd ht (Nat.not_lt_zero t)) rfl)
  have hnext := hfirst.trans (exec_steps
    (recordsRound 0 0 "20180611_101500" "1" ++ leavesLink 0 0 ++ connectsTo "B" 1)
    (by simp [recordsRound, leavesLink, connectsTo, successfulAttempt, initCommands,
      Projection.lift, linkPart, linkLabel, StartsAlone]) rfl)
  have hsecond := hnext.trans (Steps.single (.link (.connectReturns 1))
    (startsAlone_of_ended hnext 1 fun t ht => by
      obtain rfl := Nat.lt_one_iff.1 ht
      rfl) rfl)
  have hround := hsecond.trans (exec_steps (recordsRound 1 1 "20180611_102000" "2")
    (by simp [recordsRound, Projection.lift, linkPart, linkLabel, StartsAlone]) rfl)
  exact ⟨_, rfl, thread_by_thread _ _ _ hround⟩

end ProjektMagisterski.App
