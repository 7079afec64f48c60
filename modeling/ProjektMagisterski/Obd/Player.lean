import Mathlib.Algebra.Order.Floor.Semifield
import Mathlib.Data.Rat.Floor
import ProjektMagisterski.Lib.Machine
import ProjektMagisterski.Obd.Playback

/-!
# The player's reader thread

`VideoPlayerActivity.ReaderThread` shows, ten times a second, the recorded line
that belongs to the position of the video.

* `readingIndex_eq`: the selected index is a quotient of natural numbers;
* `run_showReading`, `ReaderThread.turn_recorded`: a line that exists shows its round;
* `readerThread_exact`: playback keeps time and never faults as long as something
  was recorded and the position stays below the duration, and no longer.

The positions are milliseconds.  `percentage` and the index are the exact quotients here;
the source computes them in `float`, and so does `ReaderThread.run`, for the same iterations.
-/

namespace ProjektMagisterski.Obd

open Lib

/-! ## The thread -/

/-- `currentPosition / duration`. -/
def percentage (currentPosition duration : Nat) : ℚ := currentPosition / duration

/-- `(int)(mReadings.size()*percentage)`. -/
def readingIndex (size currentPosition duration : Nat) : Nat :=
  ⌊size * percentage currentPosition duration⌋₊

/-- What an iteration meets: the position of the view, and whether the sleep is interrupted. -/
structure Tick where
  currentPosition : Nat
  interrupted : Bool

/-- A position and the index that was computed from it. -/
structure Selection where
  currentPosition : Nat
  index : Nat

inductive ReaderStatus
  | running
  | interrupted
  | uncaught (e : JavaException)
  deriving DecidableEq, Repr

/-- The thread, with the selections it made so far. -/
structure ReaderThread where
  status : ReaderStatus := .running
  selected : List Selection := []
  world : World := World.fresh none

section Naming

variable (getName : ObdCommand → String)

/-- `myMultiOBDCommand.parseReadings(mReadings.get(index))`. -/
def showReading (mReadings : List String) (index : Nat) : Java Unit :=
  match mReadings[index]? with
  | none => throw .indexOutOfBoundsException
  | some readingsLine => parseReadings getName prepareCommands readingsLine

/-- An iteration of the loop of `ReaderThread.run` once it has computed the index. -/
def ReaderThread.turn (mReadings : List String) (s : ReaderThread) (tick : Tick) (index : Nat) :
    ReaderThread :=
  let selected := s.selected ++ [⟨tick.currentPosition, index⟩]
  match (showReading getName mReadings index).run s.world with
  | .error e w => { status := .uncaught e, selected := selected, world := w }
  | .ok _ w =>
    { status := if tick.interrupted then .interrupted else .running
      selected := selected
      world := w }

/-- One iteration of the loop of `ReaderThread.run`. -/
def iterate (mReadings : List String) (duration : Nat) (s : ReaderThread) (tick : Tick) :
    ReaderThread :=
  s.turn getName mReadings tick (readingIndex mReadings.length tick.currentPosition duration)

/-- The thread iterates while it runs, at positions up to the duration. -/
def readerThread (mReadings : List String) (duration : Nat) : Machine ReaderThread Tick :=
  Machine.guarded {} (fun s tick => s.status = .running ∧ tick.currentPosition ≤ duration)
    (iterate getName mReadings duration)

end Naming

/-! ## The selected index -/

theorem readingIndex_eq (size currentPosition duration : Nat) :
    readingIndex size currentPosition duration = size * currentPosition / duration := by
  rw [readingIndex, percentage, ← mul_div_assoc, ← Nat.cast_mul, Nat.floor_div_eq_div]

theorem readingIndex_lt_iff (size currentPosition duration : Nat) (hd : 0 < duration) :
    readingIndex size currentPosition duration < size ↔
      0 < size ∧ currentPosition < duration := by
  rw [readingIndex_eq, Nat.div_lt_iff_lt_mul hd]
  constructor
  · intro h
    exact ⟨Nat.pos_of_mul_pos_right (Nat.zero_lt_of_lt h), Nat.lt_of_mul_lt_mul_left h⟩
  · rintro ⟨hn, hlt⟩
    exact Nat.mul_lt_mul_of_pos_left hlt hn

theorem readingIndex_mono (size duration : Nat) {p q : Nat} (h : p ≤ q) :
    readingIndex size p duration ≤ readingIndex size q duration := by
  rw [readingIndex_eq, readingIndex_eq]
  exact Nat.div_le_div_right (Nat.mul_le_mul_left size h)

/-- Line `k` belongs to the positions from `k * duration / size` to the next such bound. -/
theorem readingIndex_eq_iff (size p duration k : Nat) (hn : 0 < size) (hd : 0 < duration) :
    readingIndex size p duration = k ↔
      (k * duration / size : ℚ) ≤ p ∧ (p : ℚ) < (k + 1) * duration / size := by
  have hnq : (0 : ℚ) < size := by exact_mod_cast hn
  have hlower : (k * duration / size : ℚ) ≤ p ↔ k * duration ≤ size * p := by
    rw [div_le_iff₀ hnq, mul_comm (p : ℚ)]
    exact_mod_cast Iff.rfl
  have hupper : (p : ℚ) < (k + 1) * duration / size ↔ size * p < (k + 1) * duration := by
    rw [lt_div_iff₀ hnq, mul_comm (p : ℚ)]
    exact_mod_cast Iff.rfl
  rw [readingIndex_eq, hlower, hupper, ← Nat.le_div_iff_mul_le hd, ← Nat.div_lt_iff_lt_mul hd]
  omega

/-! ## Keeping time -/

section Naming

variable (getName : ObdCommand → String)

/-- The messages of the round with the given index. -/
def sentAt (session : List (ObdCommand → String)) (index : Nat) : List Message :=
  match session[index]? with
  | none => []
  | some formatted => sentLive getName formatted

/-- **Keeping time.**  What a run of the thread over the recording of `session` should be. -/
structure KeepsTime (mReadings : List String) (session : List (ObdCommand → String))
    (duration : Nat) (s : ReaderThread) : Prop where
  /-- The thread ends only by interruption. -/
  ends : s.status = .running ∨ s.status = .interrupted
  /-- Every selected line exists. -/
  exists_line : ∀ x ∈ s.selected, x.index < mReadings.length
  /-- Every iteration shows the messages that the selected round sent, for every command. -/
  shown : s.world.sent = s.selected.flatMap fun x => sentAt getName session x.index
  /-- The line of a round is selected during its share of the video. -/
  timing : ∀ x ∈ s.selected, ∀ k < session.length, x.index = k ↔
    ((k * duration / session.length : ℚ) ≤ x.currentPosition ∧
        (x.currentPosition : ℚ) < (k + 1) * duration / session.length) ∨
      (x.currentPosition = duration ∧ k + 1 = session.length)
  /-- No earlier line after a later one while the video plays on. -/
  ordered : (s.selected.map Selection.currentPosition).Pairwise (· ≤ ·) →
    (s.selected.map Selection.index).Pairwise (· ≤ ·)

/-- What holds as long as the positions stay below the duration. -/
structure Playing (session : List (ObdCommand → String)) (duration : Nat) (s : ReaderThread) :
    Prop where
  ends : s.status = .running ∨ s.status = .interrupted
  recorded : ∀ x ∈ s.selected, 0 < session.length ∧ x.currentPosition < duration
  chosen : ∀ x ∈ s.selected,
    x.index = readingIndex session.length x.currentPosition duration
  shown : s.world.sent = s.selected.flatMap fun x => sentAt getName session x.index

/-- A line that exists shows its round. -/
theorem run_showReading (session : List (ObdCommand → String)) (index : Nat) (w : World)
    (h : ∀ formatted ∈ session, ∀ c ∈ prepareCommands.all, SeparatorFree (formatted c))
    (hindex : index < session.length) :
    (showReading getName (session.map lineOf) index).run w =
      .ok () { w with sent := w.sent ++ sentAt getName session index } := by
  have hget : session[index]? = some session[index] := List.getElem?_eq_getElem hindex
  rw [showReading, List.getElem?_map, hget, sentAt, hget]
  exact run_parseReadings_lineOf getName _ (h _ (List.getElem_mem hindex)) w

/-- **One iteration** over the recording of a session: the selected round is sent, or the
iteration ends the thread because there is none. -/
theorem ReaderThread.turn_recorded (session : List (ObdCommand → String))
    (h : ∀ formatted ∈ session, ∀ c ∈ prepareCommands.all, SeparatorFree (formatted c))
    (s : ReaderThread) (tick : Tick) (index : Nat) :
    s.turn getName (session.map lineOf) tick index =
      { status :=
          if index < session.length then
            if tick.interrupted then .interrupted else .running
          else .uncaught .indexOutOfBoundsException
        selected := s.selected ++ [⟨tick.currentPosition, index⟩]
        world := { s.world with sent := s.world.sent ++ sentAt getName session index } } := by
  by_cases hindex : index < session.length
  · simp only [ReaderThread.turn, run_showReading getName session index s.world h hindex,
      if_pos hindex]
  · simp [ReaderThread.turn, showReading, sentAt, hindex]

/-- Without a line for the position the iteration ends the thread. -/
theorem iterate_of_not_lt (mReadings : List String) (duration : Nat) (hd : 0 < duration)
    (s : ReaderThread) (tick : Tick)
    (h : ¬ (0 < mReadings.length ∧ tick.currentPosition < duration)) :
    (iterate getName mReadings duration s tick).status =
      .uncaught .indexOutOfBoundsException := by
  have hnone : mReadings[readingIndex mReadings.length tick.currentPosition duration]? = none := by
    rw [List.getElem?_eq_none_iff]
    exact Nat.le_of_not_lt (mt (readingIndex_lt_iff _ _ _ hd).mp h)
  simp [iterate, ReaderThread.turn, showReading, hnone]

theorem iterate_not_keepsTime (mReadings : List String) (session : List (ObdCommand → String))
    (duration : Nat) (hd : 0 < duration) (s : ReaderThread) (tick : Tick)
    (h : ¬ (0 < mReadings.length ∧ tick.currentPosition < duration)) :
    ¬ KeepsTime getName mReadings session duration (iterate getName mReadings duration s tick) := by
  intro hkeeps
  have hended := iterate_of_not_lt getName mReadings duration hd s tick h
  rcases hkeeps.ends with hr | hr
  · rw [hended] at hr
    exact absurd hr (by decide)
  · rw [hended] at hr
    exact absurd hr (by decide)

theorem iterate_of_lt (session : List (ObdCommand → String)) (duration : Nat)
    (hd : 0 < duration)
    (h : ∀ formatted ∈ session, ∀ c ∈ prepareCommands.all, SeparatorFree (formatted c))
    (s : ReaderThread) (tick : Tick)
    (hlt : 0 < session.length ∧ tick.currentPosition < duration) :
    iterate getName (session.map lineOf) duration s tick =
      { status := if tick.interrupted then .interrupted else .running
        selected := s.selected ++
          [⟨tick.currentPosition, readingIndex session.length tick.currentPosition duration⟩]
        world := { s.world with
          sent := s.world.sent ++ sentAt getName session
            (readingIndex session.length tick.currentPosition duration) } } := by
  have hindex := (readingIndex_lt_iff session.length tick.currentPosition duration hd).mpr hlt
  rw [iterate, ReaderThread.turn_recorded getName session h, List.length_map, if_pos hindex]

/-- An iteration at a position below the duration. -/
theorem Playing.iterate (session : List (ObdCommand → String)) (duration : Nat)
    (hd : 0 < duration)
    (h : ∀ formatted ∈ session, ∀ c ∈ prepareCommands.all, SeparatorFree (formatted c))
    (s : ReaderThread) (tick : Tick) (hs : Playing getName session duration s)
    (hlt : 0 < session.length ∧ tick.currentPosition < duration) :
    Playing getName session duration (iterate getName (session.map lineOf) duration s tick) := by
  rw [iterate_of_lt getName session duration hd h s tick hlt]
  constructor
  · show (if tick.interrupted then ReaderStatus.interrupted else .running) = .running ∨ _
    cases tick.interrupted
    · exact Or.inl rfl
    · exact Or.inr rfl
  · intro x hx
    rcases List.mem_append.mp hx with hx | hx
    · exact hs.recorded x hx
    · rw [List.mem_singleton.mp hx]
      exact hlt
  · intro x hx
    rcases List.mem_append.mp hx with hx | hx
    · exact hs.chosen x hx
    · rw [List.mem_singleton.mp hx]
  · simp [hs.shown]

/-- Larger positions select later lines. -/
theorem Playing.ordered {session : List (ObdCommand → String)} {duration : Nat}
    {s : ReaderThread} (hs : Playing getName session duration s)
    (h : (s.selected.map Selection.currentPosition).Pairwise (· ≤ ·)) :
    (s.selected.map Selection.index).Pairwise (· ≤ ·) := by
  rw [List.pairwise_map] at h ⊢
  apply h.imp_of_mem
  intro x y hx hy hxy
  rw [hs.chosen x hx, hs.chosen y hy]
  exact readingIndex_mono session.length duration hxy

theorem Playing.keepsTime {session : List (ObdCommand → String)} {duration : Nat}
    (hd : 0 < duration) {s : ReaderThread} (hs : Playing getName session duration s) :
    KeepsTime getName (session.map lineOf) session duration s := by
  constructor
  · exact hs.ends
  · intro x hx
    rw [hs.chosen x hx, List.length_map]
    exact (readingIndex_lt_iff _ _ _ hd).mpr (hs.recorded x hx)
  · exact hs.shown
  · intro x hx k _
    obtain ⟨hn, hlt⟩ := hs.recorded x hx
    rw [hs.chosen x hx, readingIndex_eq_iff _ _ _ _ hn hd]
    constructor
    · exact Or.inl
    · rintro (h | ⟨hend, _⟩)
      · exact h
      · omega
  · exact hs.ordered

/-- **Playback.**  Over the recording of a session without separators, playback keeps
time exactly in the runs all of whose positions stay below the duration, and then only
if something was recorded. -/
theorem readerThread_exact (path : String) (session : List (ObdCommand → String))
    (duration : Nat) (hd : 0 < duration)
    (h : ∀ formatted ∈ session, ∀ c ∈ prepareCommands.all, SeparatorFree (formatted c)) :
    (readerThread getName (readFileToMemory (recorded getName path session) path) duration).Exact
      (fun _ tick => 0 < session.length ∧ tick.currentPosition < duration)
      (KeepsTime getName (readFileToMemory (recorded getName path session) path) session
        duration) := by
  rw [readFileToMemory_eq getName path session h]
  apply Machine.exact_guarded (Playing getName session duration)
  · constructor
    · exact Or.inl rfl
    · simp
    · simp
    · rfl
  · intro s tick hs hlt _
    exact hs.iterate getName session duration hd h s tick hlt
  · intro s hs
    exact hs.keepsTime getName hd
  · intro s tick _ hnlt _
    rw [← List.length_map (f := lineOf)] at hnlt
    exact ⟨_, Machine.Steps.refl _,
      iterate_not_keepsTime getName (session.map lineOf) session duration hd s tick hnlt⟩

end Naming

/-- The playback of two rounds over a video of one second. -/
theorem readerThread_second :
    (readerThread (fun _ => "Vehicle Speed") (readFileToMemory
        (recorded (fun _ => "Vehicle Speed") "READINGS.txt" [fun _ => "1", fun _ => "2"])
        "READINGS.txt") 1000).Exact
      (fun _ tick => 0 < [fun _ : ObdCommand => "1", fun _ => "2"].length ∧
        tick.currentPosition < 1000)
      (KeepsTime (fun _ => "Vehicle Speed") (readFileToMemory
        (recorded (fun _ => "Vehicle Speed") "READINGS.txt" [fun _ => "1", fun _ => "2"])
        "READINGS.txt") [fun _ => "1", fun _ => "2"] 1000) :=
  readerThread_exact _ _ _ 1000 (by decide) (by simp [SeparatorFree])

/-- At the end of the video the index is the number of lines. -/
theorem lastFrame_faults :
    ∃ s, (readerThread (fun _ => "Vehicle Speed") (readFileToMemory
        (recorded (fun _ => "Vehicle Speed") "READINGS.txt" [fun _ => "1"]) "READINGS.txt")
        1000).Reachable s ∧
      ¬ KeepsTime (fun _ => "Vehicle Speed") (readFileToMemory
        (recorded (fun _ => "Vehicle Speed") "READINGS.txt" [fun _ => "1"]) "READINGS.txt")
        [fun _ => "1"] 1000 s :=
  ⟨_, Machine.Steps.guarded ⟨1000, false⟩ trivial ⟨rfl, Nat.le_refl 1000⟩,
    iterate_not_keepsTime _ _ _ 1000 (by decide) _ _ (by simp)⟩

end ProjektMagisterski.Obd
