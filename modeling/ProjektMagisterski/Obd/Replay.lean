import ProjektMagisterski.Obd.ReaderThread
import ProjektMagisterski.Obd.Sampling

/-!
# Replaying any readings file

The player takes whatever text it finds in the readings file.

* `run_parseReadings`: a line replays as many fields as there are commands, and
  faults exactly if it holds fewer;
* `turn_anyFile`: what an iteration does over any file;
* `readerThread_anyFile_exact`: the reader thread shows the fields of the lines it selects,
  and goes on exactly as long as these are long enough.
-/

namespace ProjektMagisterski.Obd

open Lib

section Naming

variable (getName : ObdCommand → String)

/-! ## One line -/

theorem run_parseCommandsFromFile_any (parts : List String) (i : Nat) (cs : List ObdCommand)
    (w : World) :
    (parseCommandsFromFile getName parts i cs).run w =
      if cs.length ≤ (parts.drop i).length then
        .ok () { w with sent := w.sent ++ List.zipWith (liveMessage getName) (parts.drop i) cs }
      else
        .error .indexOutOfBoundsException
          { w with sent := w.sent ++ List.zipWith (liveMessage getName) (parts.drop i) cs } := by
  induction cs generalizing i w with
  | nil => simp [parseCommandsFromFile]
  | cons c cs ih =>
    cases hv : parts[i]? with
    | none =>
      have hdrop : parts.drop i = [] := List.drop_eq_nil_of_le (List.getElem?_eq_none_iff.mp hv)
      simp [parseCommandsFromFile, hv, hdrop]
    | some v =>
      have hdrop : parts.drop i = v :: parts.drop (i + 1) := by
        obtain ⟨hi, rfl⟩ := List.getElem?_eq_some_iff.mp hv
        exact List.drop_eq_getElem_cons hi
      simp only [parseCommandsFromFile, hv, sendMessage, EStateM.run_bind, EStateM.run_modify,
        ih (i + 1), hdrop, List.zipWith_cons_cons, List.length_cons, replayMessage_eq,
        Nat.add_le_add_iff_right, List.append_assoc, List.singleton_append]

/-- **One line.**  The fields of a line are sent for the commands in order, as many as there
are of both; where fields are missing the replay ends in an exception. -/
theorem run_parseReadings (readingsLine : String) (w : World) :
    (parseReadings getName prepareCommands readingsLine).run w =
      if prepareCommands.all.length ≤ (split readingsLine).length then
        .ok () { w with sent := w.sent ++ messagesOf getName (split readingsLine) }
      else
        .error .indexOutOfBoundsException
          { w with sent := w.sent ++ messagesOf getName (split readingsLine) } := by
  rw [parseReadings_eq, run_parseCommandsFromFile_any]
  rfl

/-! ## The reader thread -/

/-- What an iteration sends that selects the given line. -/
def replayedAt (mReadings : List String) (index : Nat) : List Message :=
  match mReadings[index]? with
  | none => []
  | some readingsLine => messagesOf getName (split readingsLine)

/-- The line exists and holds a field for every command. -/
def LongEnough (mReadings : List String) (index : Nat) : Prop :=
  ∃ readingsLine, mReadings[index]? = some readingsLine ∧
    prepareCommands.all.length ≤ (split readingsLine).length

/-- **Showing a file.**  Every iteration shows the fields of the line it selects, and the
thread ends only by interruption. -/
structure ShowsFile (mReadings : List String) (s : ReaderThread) : Prop where
  ends : s.status = .running ∨ s.status = .interrupted
  shown : s.world.sent = s.selected.flatMap fun x => replayedAt getName mReadings x.index

variable (mReadings : List String) (duration : Nat)

theorem run_showReading_longEnough {index : Nat} (w : World) (h : LongEnough mReadings index) :
    (showReading getName mReadings index).run w =
      .ok () { w with sent := w.sent ++ replayedAt getName mReadings index } := by
  obtain ⟨readingsLine, hline, hlength⟩ := h
  rw [showReading, replayedAt, hline]
  show (parseReadings getName prepareCommands readingsLine).run w = _
  rw [run_parseReadings, if_pos hlength]

/-- A line that is missing sends nothing, and one that is too short the fields that it has. -/
theorem run_showReading_short {index : Nat} (w : World) (h : ¬ LongEnough mReadings index) :
    (showReading getName mReadings index).run w =
      .error .indexOutOfBoundsException
        { w with sent := w.sent ++ replayedAt getName mReadings index } := by
  cases hline : mReadings[index]? with
  | none =>
    simp only [showReading, replayedAt, hline, List.append_nil]
    rfl
  | some readingsLine =>
    have hshort : ¬ prepareCommands.all.length ≤ (split readingsLine).length :=
      fun hlength => h ⟨readingsLine, hline, hlength⟩
    rw [showReading, replayedAt, hline]
    show (parseReadings getName prepareCommands readingsLine).run w = _
    rw [run_parseReadings, if_neg hshort]

/-- **One iteration.** -/
theorem turn_anyFile (s : ReaderThread) (tick : Tick) (index : Nat) :
    (ReaderThread.turn getName mReadings s tick index).selected =
        s.selected ++ [⟨tick.currentPosition, index⟩] ∧
      (ReaderThread.turn getName mReadings s tick index).world.sent =
        s.world.sent ++ replayedAt getName mReadings index ∧
      (LongEnough mReadings index → (ReaderThread.turn getName mReadings s tick index).status =
        if tick.interrupted then .interrupted else .running) ∧
      (¬ LongEnough mReadings index → (ReaderThread.turn getName mReadings s tick index).status =
        .uncaught .indexOutOfBoundsException) := by
  by_cases h : LongEnough mReadings index
  · rw [ReaderThread.turn, run_showReading_longEnough getName mReadings s.world h]
    exact ⟨rfl, rfl, fun _ => rfl, fun hshort => absurd h hshort⟩
  · rw [ReaderThread.turn, run_showReading_short getName mReadings s.world h]
    exact ⟨rfl, rfl, fun hlong => absurd hlong h, fun _ => rfl⟩

/-- The line of the position is long enough. -/
def SelectsLongEnough (_ : ReaderThread) (tick : Tick) : Prop :=
  LongEnough mReadings (ReaderThread.readingIndex mReadings.length tick.currentPosition duration)

/-- **Any readings file.**  The thread goes on and shows the file exactly in the runs that
only select lines with a field for every command; an iteration that selects any other line
sends the fields that are there, and ends the thread with an index exception. -/
theorem readerThread_anyFile_exact :
    (ReaderThread.run getName mReadings duration).Exact (SelectsLongEnough mReadings duration)
        (ShowsFile getName mReadings) ∧
      ∀ s tick t, ¬ SelectsLongEnough mReadings duration s tick →
        (ReaderThread.run getName mReadings duration).step s tick = some t →
        t.status = .uncaught .indexOutOfBoundsException ∧
          t.world.sent = s.world.sent ++ replayedAt getName mReadings
            (ReaderThread.readingIndex mReadings.length tick.currentPosition duration) := by
  constructor
  · apply Machine.exact_guarded (ShowsFile getName mReadings)
    · exact ⟨Or.inl rfl, rfl⟩
    · intro s tick hs hlong _
      obtain ⟨hselected, hsent, hstatus, -⟩ := turn_anyFile getName mReadings s tick
        (ReaderThread.readingIndex mReadings.length tick.currentPosition duration)
      refine ⟨?_, ?_⟩
      · rw [ReaderThread.iterate, hstatus hlong]
        cases tick.interrupted
        · exact Or.inl rfl
        · exact Or.inr rfl
      · rw [ReaderThread.iterate, hsent, hselected, hs.shown]
        simp
    · intro s hs
      exact hs
    · intro s tick _ hshort _
      have hended := (turn_anyFile getName mReadings s tick _).2.2.2 hshort
      refine ⟨_, Machine.Steps.refl _, fun hshows => ?_⟩
      rcases hshows.ends with hr | hr <;> cases hended.symm.trans hr
  · intro s tick t hshort hstep
    obtain ⟨-, rfl⟩ := (Machine.guarded_step _ _ _ _).1 hstep
    obtain ⟨-, hsent, -, hstatus⟩ := turn_anyFile getName mReadings s tick
      (ReaderThread.readingIndex mReadings.length tick.currentPosition duration)
    exact ⟨hstatus hshort, hsent⟩

end Naming

end ProjektMagisterski.Obd
