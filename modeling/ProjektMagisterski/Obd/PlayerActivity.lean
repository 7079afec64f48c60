import Mathlib.Logic.Function.Basic
import Mathlib.Tactic.ByContra
import ProjektMagisterski.Obd.ReaderThread

/-!
# The life cycle of the player

`VideoPlayerActivity` starts a `ReaderThread` each time the video is prepared, and
`onPause` interrupts the thread it started last.

* A video is prepared again when the activity comes back to the screen.
* A thread that is interrupted while it replays a line goes on to its `sleep`,
  which then throws.

`threads_exact`: no thread outlives a pause exactly as long as the video is only
prepared while the activity is resumed and no other thread is left to interrupt.
-/

namespace ProjektMagisterski.Obd

open Function (update update_self update_of_ne)
open Lib Lib.Machine

abbrev ReaderId := Nat

/-- Where the `run` of a thread is: on its way to the next line, in `Thread.sleep(100)`,
or done. -/
inductive ReaderStage where
  | awake | sleeping | ended
  deriving DecidableEq, Repr

structure PlayerThread where
  stage : ReaderStage := .ended
  /-- `interrupt()` has been called. -/
  interrupted : Bool := false
  reader : ReaderThread := {}
  /-- The lines shown since it was interrupted. -/
  lateLines : Nat := 0

structure PlayerActivity where
  resumed : Bool := true
  /-- A thread has ended with an uncaught exception, and the process with it. -/
  crashed : Bool := false
  mReaderThread : Option ReaderId := none
  threads : ReaderId → PlayerThread := fun _ => {}
  nextThread : ReaderId := 0

namespace PlayerActivity

/-- The thread has been started and has not ended. -/
def Runs (s : PlayerActivity) (t : ReaderId) : Prop := (s.threads t).stage ≠ .ended

def setThread (s : PlayerActivity) (t : ReaderId) (c : PlayerThread) : PlayerActivity :=
  { s with threads := update s.threads t c }

/-- `mReaderThread = new ReaderThread()` and its `start()`. -/
def onPrepared (s : PlayerActivity) : PlayerActivity :=
  { s.setThread s.nextThread { stage := .awake } with
    mReaderThread := some s.nextThread
    nextThread := s.nextThread + 1 }

def onPause (s : PlayerActivity) : PlayerActivity :=
  match s.mReaderThread with
  | none => { s with resumed := false }
  | some t => { s.setThread t { s.threads t with interrupted := true } with resumed := false }

/-- A turn of the loop up to the `sleep`, which throws at once when the thread has been
interrupted before. -/
def replays (getName : ObdCommand → String) (mReadings : List String) (duration : Nat)
    (s : PlayerActivity) (t : ReaderId) (currentPosition : Nat) : PlayerActivity :=
  let c := s.threads t
  let reader := c.reader.iterate getName mReadings duration ⟨currentPosition, c.interrupted⟩
  let lateLines := if c.interrupted then c.lateLines + 1 else c.lateLines
  match reader.status with
  | .running => s.setThread t { c with stage := .sleeping, reader, lateLines }
  | .interrupted => s.setThread t { c with stage := .ended, reader, lateLines }
  | .uncaught _ =>
    { s.setThread t { c with stage := .ended, reader, lateLines } with crashed := true }

/-- The `sleep` is over, or throws because of an interrupt that came meanwhile. -/
def wakes (s : PlayerActivity) (t : ReaderId) : PlayerActivity :=
  s.setThread t
    { s.threads t with stage := if (s.threads t).interrupted then .ended else .awake }

end PlayerActivity

inductive PlayerAction where
  | onPrepared
  | onPause
  | onResume
  | replays (t : ReaderId) (currentPosition : Nat)
  | wakes (t : ReaderId)
  deriving DecidableEq, Repr

namespace PlayerActivity

def ready (duration : Nat) (s : PlayerActivity) : PlayerAction → Prop
  | .onPrepared => True
  | .onPause => s.resumed = true
  | .onResume => s.resumed = false
  | .replays t currentPosition => (s.threads t).stage = .awake ∧ currentPosition ≤ duration
  | .wakes t => (s.threads t).stage = .sleeping

def enabled (duration : Nat) (s : PlayerActivity) (a : PlayerAction) : Prop :=
  s.crashed = false ∧ ready duration s a

instance (duration : Nat) (s : PlayerActivity) (a : PlayerAction) :
    Decidable (ready duration s a) := by
  cases a <;> dsimp only [ready] <;> infer_instance

instance (duration : Nat) (s : PlayerActivity) (a : PlayerAction) :
    Decidable (enabled duration s a) :=
  inferInstanceAs (Decidable (_ ∧ _))

section Readings

variable (getName : ObdCommand → String) (mReadings : List String) (duration : Nat)

def next (s : PlayerActivity) : PlayerAction → PlayerActivity
  | .onPrepared => s.onPrepared
  | .onPause => s.onPause
  | .onResume => { s with resumed := true }
  | .replays t currentPosition => s.replays getName mReadings duration t currentPosition
  | .wakes t => s.wakes t

/-- The activity with the readings and the duration of its video. -/
def player : Machine PlayerActivity PlayerAction :=
  .guarded {} (enabled duration) (next getName mReadings duration)

end Readings

/-! ## Threads that are left -/

/-- No thread outlives a pause: each has ended or is interrupted, and then it shows at
most the line that it is replaying. -/
def NoneLeft (s : PlayerActivity) : Prop :=
  (s.resumed = false → ∀ t, s.Runs t → (s.threads t).interrupted = true) ∧
    ∀ t, (s.threads t).lateLines ≤ 1

/-- The video is only prepared on screen, and with no other thread left to interrupt. -/
def PreparesAlone (s : PlayerActivity) : PlayerAction → Prop
  | .onPrepared =>
    s.resumed = true ∧ ∀ t, s.Runs t → (s.threads t).interrupted = true
  | _ => True

/-- Only the thread that was started last may be uninterrupted, and none while paused. -/
structure Interruptible (s : PlayerActivity) : Prop where
  held : ∀ t, s.Runs t → (s.threads t).interrupted = false → s.mReaderThread = some t
  paused : s.resumed = false → ∀ t, s.Runs t → (s.threads t).interrupted = true
  created : ∀ t, s.Runs t → t < s.nextThread
  notLate : ∀ t, s.Runs t ∨ (s.threads t).interrupted = false → (s.threads t).lateLines = 0
  late : ∀ t, (s.threads t).lateLines ≤ 1

variable {s : PlayerActivity}

/-- A thread's own step: it was running, it keeps its interrupt, and shows its last line
if it has been interrupted. -/
theorem Interruptible.own (h : Interruptible s) (t : ReaderId) (c : PlayerThread)
    (crashed : Bool) (ht : s.Runs t)
    (hinterrupted : c.interrupted = (s.threads t).interrupted)
    (hended : c.interrupted = true → c.stage = .ended)
    (hlate : c.lateLines ≤ if c.interrupted then 1 else 0) :
    Interruptible { s.setThread t c with crashed := crashed } := by
  have hcase : ∀ i, i = t ∧ (s.setThread t c).threads i = c ∨
      i ≠ t ∧ (s.setThread t c).threads i = s.threads i := by
    intro i
    by_cases hi : i = t
    · subst hi
      exact Or.inl ⟨rfl, update_self ..⟩
    · exact Or.inr ⟨hi, update_of_ne hi ..⟩
  constructor
  · intro i hi hfree
    rcases hcase i with ⟨rfl, hc⟩ | ⟨-, hc⟩
    · simp only [hc] at hfree
      exact h.held i ht (hinterrupted ▸ hfree)
    · simp only [Runs, hc] at hi hfree
      exact h.held i hi hfree
  · intro hpaused i hi
    rcases hcase i with ⟨rfl, hc⟩ | ⟨-, hc⟩
    · simp only [hc, hinterrupted]
      exact h.paused hpaused i ht
    · simp only [Runs, hc] at hi ⊢
      exact h.paused hpaused i hi
  · intro i hi
    rcases hcase i with ⟨rfl, -⟩ | ⟨-, hc⟩
    · exact h.created i ht
    · simp only [Runs, hc] at hi
      exact h.created i hi
  · intro i hi
    rcases hcase i with ⟨rfl, hc⟩ | ⟨-, hc⟩
    · simp only [Runs, hc] at hi ⊢
      cases hint : c.interrupted with
      | false => simpa [hint] using hlate
      | true => simp [hint, hended hint] at hi
    · simp only [Runs, hc] at hi ⊢
      exact h.notLate i hi
  · intro i
    rcases hcase i with ⟨rfl, hc⟩ | ⟨-, hc⟩
    · simp only [hc]
      split at hlate <;> omega
    · simp only [hc]
      exact h.late i

/-- A turn of the loop goes on to sleep only in a thread that is not interrupted. -/
theorem turn_running (getName : ObdCommand → String) (mReadings : List String)
    (reader : ReaderThread) (tick : Tick) (index : Nat)
    (h : (reader.turn getName mReadings tick index).status = .running) :
    tick.interrupted = false := by
  cases hint : tick.interrupted with
  | false => rfl
  | true =>
    simp only [ReaderThread.turn, hint, if_true] at h
    split at h <;> cases h

theorem Interruptible.replays (getName : ObdCommand → String) (mReadings : List String)
    (duration : Nat) (h : Interruptible s) (t : ReaderId) (currentPosition : Nat)
    (ht : (s.threads t).stage = .awake) :
    Interruptible (s.replays getName mReadings duration t currentPosition) := by
  have hruns : s.Runs t := by simp [Runs, ht]
  have hlate : (if (s.threads t).interrupted then (s.threads t).lateLines + 1
      else (s.threads t).lateLines) ≤ if (s.threads t).interrupted then 1 else 0 := by
    rw [h.notLate t (Or.inl hruns)]
  simp only [PlayerActivity.replays]
  split
  · rename_i hrunning
    have hfree := turn_running _ _ _ _ _ hrunning
    refine h.own t _ s.crashed hruns rfl (fun hint => ?_) hlate
    cases hint.symm.trans hfree
  · exact h.own t _ s.crashed hruns rfl (fun _ => rfl) hlate
  · exact h.own t _ true hruns rfl (fun _ => rfl) hlate

theorem Interruptible.wakes (h : Interruptible s) (t : ReaderId)
    (ht : (s.threads t).stage = .sleeping) : Interruptible (s.wakes t) := by
  have hruns : s.Runs t := by simp [Runs, ht]
  refine h.own t _ s.crashed hruns rfl (fun hint => if_pos hint) ?_
  show (s.threads t).lateLines ≤ _
  rw [h.notLate t (Or.inl hruns)]
  exact Nat.zero_le _

theorem Interruptible.onPrepared (h : Interruptible s)
    (halone : ∀ t, s.Runs t → (s.threads t).interrupted = true) (hresumed : s.resumed = true) :
    Interruptible s.onPrepared := by
  have hcase : ∀ i, i = s.nextThread ∧ s.onPrepared.threads i = { stage := .awake } ∨
      i ≠ s.nextThread ∧ s.onPrepared.threads i = s.threads i := by
    intro i
    by_cases hi : i = s.nextThread
    · subst hi
      exact Or.inl ⟨rfl, update_self ..⟩
    · exact Or.inr ⟨hi, update_of_ne hi ..⟩
  constructor
  · intro i hi hfree
    rcases hcase i with ⟨rfl, -⟩ | ⟨-, hc⟩
    · rfl
    · simp only [Runs, hc] at hi hfree
      cases (halone i hi).symm.trans hfree
  · intro hpaused
    cases hresumed.symm.trans hpaused
  · intro i hi
    rcases hcase i with ⟨rfl, -⟩ | ⟨-, hc⟩
    · exact Nat.lt_succ_self _
    · simp only [Runs, hc] at hi
      exact Nat.lt_succ_of_lt (h.created i hi)
  · intro i hi
    rcases hcase i with ⟨-, hc⟩ | ⟨-, hc⟩
    · simp [hc]
    · simp only [Runs, hc] at hi ⊢
      exact h.notLate i hi
  · intro i
    rcases hcase i with ⟨-, hc⟩ | ⟨-, hc⟩
    · simp [hc]
    · simp only [hc]
      exact h.late i

theorem Interruptible.onPause (h : Interruptible s) : Interruptible s.onPause := by
  unfold PlayerActivity.onPause
  split
  · rename_i hnone
    refine ⟨h.held, fun _ t ht => ?_, h.created, h.notLate, h.late⟩
    by_contra hfree
    cases hnone.symm.trans (h.held t ht (Bool.eq_false_iff.mpr hfree))
  · rename_i t hheld
    have hcase : ∀ i, i = t ∧ (s.setThread t { s.threads t with interrupted := true }).threads i =
          { s.threads t with interrupted := true } ∨
        i ≠ t ∧ (s.setThread t { s.threads t with interrupted := true }).threads i =
          s.threads i := by
      intro i
      by_cases hi : i = t
      · subst hi
        exact Or.inl ⟨rfl, update_self ..⟩
      · exact Or.inr ⟨hi, update_of_ne hi ..⟩
    have hinterrupted : ∀ i, s.Runs i →
        ((s.setThread t { s.threads t with interrupted := true }).threads i).interrupted =
          true := by
      intro i hi
      rcases hcase i with ⟨-, hc⟩ | ⟨hne, hc⟩
      · rw [hc]
      · rw [hc]
        by_contra hfree
        have hi' := h.held i hi (Bool.eq_false_iff.mpr hfree)
        exact hne (Option.some.inj (hi'.symm.trans hheld))
    have hruns : ∀ i, (s.setThread t { s.threads t with interrupted := true }).Runs i ↔
        s.Runs i := by
      intro i
      rcases hcase i with ⟨rfl, hc⟩ | ⟨-, hc⟩ <;> simp only [Runs, hc]
    constructor
    · intro i hi hfree
      cases (hinterrupted i ((hruns i).1 hi)).symm.trans hfree
    · intro _ i hi
      exact hinterrupted i ((hruns i).1 hi)
    · intro i hi
      exact h.created i ((hruns i).1 hi)
    · intro i hi
      rcases hcase i with ⟨rfl, hc⟩ | ⟨-, hc⟩
      · simp only [Runs, hc] at hi ⊢
        rcases hi with hi | hi
        · exact h.notLate i (Or.inl hi)
        · cases hi
      · simp only [Runs, hc] at hi ⊢
        exact h.notLate i hi
    · intro i
      rcases hcase i with ⟨rfl, hc⟩ | ⟨-, hc⟩
      · simp only [hc]
        exact h.late i
      · simp only [hc]
        exact h.late i

theorem Interruptible.next (getName : ObdCommand → String) (mReadings : List String)
    (duration : Nat) (a : PlayerAction) (h : Interruptible s) (hok : PreparesAlone s a)
    (ha : enabled duration s a) : Interruptible (next getName mReadings duration s a) := by
  cases a with
  | onPrepared => exact h.onPrepared hok.2 hok.1
  | onPause => exact h.onPause
  | onResume =>
    refine ⟨h.held, fun hpaused => ?_, h.created, h.notLate, h.late⟩
    cases hpaused
  | replays t currentPosition => exact h.replays getName mReadings duration t currentPosition ha.2.1
  | wakes t => exact h.wakes t ha.2

/-- A thread that `onPause` does not reach goes on while the activity is paused. -/
theorem left_of_other {t : ReaderId} (ht : s.Runs t) (hfree : (s.threads t).interrupted = false)
    (hother : s.mReaderThread ≠ some t) : ¬ NoneLeft s.onPause := by
  intro hleft
  have hkept : s.onPause.threads t = s.threads t := by
    unfold PlayerActivity.onPause
    split
    · rfl
    · rename_i u hu
      exact update_of_ne (fun he => hother (hu.trans (congrArg some he.symm))) ..
  have hpaused : s.onPause.resumed = false := by
    unfold PlayerActivity.onPause
    split <;> rfl
  have hint := hleft.1 hpaused t (by rw [Runs, hkept]; exact ht)
  rw [hkept, hfree] at hint
  cases hint

end PlayerActivity

open PlayerActivity

/-- **Threads and pauses.**  No reader thread outlives a pause exactly as long as the video
is only prepared while the activity is resumed and no uninterrupted thread runs. -/
theorem threads_exact (getName : ObdCommand → String) (mReadings : List String)
    (duration : Nat) : (player getName mReadings duration).Exact PreparesAlone NoneLeft := by
  apply exact_guarded Interruptible
  · constructor <;> simp [Runs]
  · intro s a h hok ha
    exact h.next getName mReadings duration a hok ha
  · intro s h
    exact ⟨h.paused, h.late⟩
  · intro s a h hok ha
    cases a with
    | onPrepared =>
      have hnew : s.onPrepared.threads s.nextThread = { stage := .awake } := update_self ..
      by_cases hresumed : s.resumed = true
      · obtain ⟨t, ht⟩ := Classical.not_forall.1 fun halone => hok ⟨hresumed, halone⟩
        obtain ⟨hruns, hfree⟩ := Classical.not_imp.1 ht
        have hne : t ≠ s.nextThread := Nat.ne_of_lt (h.created t hruns)
        have hold : s.onPrepared.threads t = s.threads t := update_of_ne hne ..
        have hpause : enabled duration s.onPrepared .onPause := ⟨ha.1, hresumed⟩
        refine ⟨s.onPrepared.onPause, Steps.guarded PlayerAction.onPause trivial hpause,
          left_of_other (t := t) ?_ ?_ ?_⟩
        · rw [Runs, hold]
          exact hruns
        · rw [hold]
          exact Bool.eq_false_iff.mpr hfree
        · intro he
          exact hne (Option.some.inj he).symm
      · refine ⟨_, Steps.refl _, fun hleft => ?_⟩
        have hint := hleft.1 (Bool.eq_false_iff.mpr hresumed) s.nextThread
          (by simp [PlayerActivity.next, Runs, hnew])
        simp [PlayerActivity.next, hnew] at hint
    | _ => exact absurd trivial hok

end ProjektMagisterski.Obd
