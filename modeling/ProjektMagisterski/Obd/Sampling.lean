import Mathlib.Data.List.Forall2
import ProjektMagisterski.Obd.Recording

/-!
# Sampling rounds with failing commands

`actuallySend` catches `NoDataException` and `MisunderstoodCommandException`;
every other error of a command leaves `sendCommands` and, unless it is an
`IOException` or an `InterruptedException`, the sampling thread as well.

* `actuallySend_tolerated`, `actuallySend_uncaught`: what a list of commands does;
* `roundComplete_iff`: a round is complete exactly when no command raises any
  other error;
* `missingRecorded_iff`: missing readings are recorded as "No Data" exactly when
  the library formats a command without a value as an empty string.
-/

namespace ProjektMagisterski.Obd

/-! ## Sending a list of commands -/

/-- The command succeeds, or its error is one that `actuallySend` catches. -/
def Tolerated (r : Sampling) (c : ObdCommand) : Prop :=
  ∀ e, r.outcome c = .error e → isCaught e = true

theorem exists_uncaught_of_not_tolerated {r : Sampling} {c : ObdCommand} (h : ¬ Tolerated r c) :
    ∃ e, r.outcome c = .error e ∧ isCaught e = false := by
  simpa [Tolerated] using h

theorem run_command (r : Sampling) (c : ObdCommand) (w : World) :
    (run r c).run w =
      match r.outcome c with
      | .ok _ => .ok () { w with ran := w.ran ++ [c] }
      | .error e => .error e { w with ran := w.ran ++ [c] } := by
  cases h : r.outcome c <;> simp [run, h]

/-- One turn of the loop: the command is run, and only an error that is not
caught keeps the loop from going on. -/
theorem run_actuallySend_cons (r : Sampling) (c : ObdCommand) (cs : List ObdCommand) (w : World) :
    (actuallySend r (c :: cs)).run w =
      match r.outcome c with
      | .ok _ => (actuallySend r cs).run { w with ran := w.ran ++ [c] }
      | .error e =>
        if isCaught e then (actuallySend r cs).run { w with ran := w.ran ++ [c] }
        else .error e { w with ran := w.ran ++ [c] } := by
  simp only [actuallySend, EStateM.run_bind, Java.run_tryCatch, run_command]
  cases r.outcome c with
  | ok v => rfl
  | error e => cases he : isCaught e <;> simp [he]

theorem actuallySend_cons_tolerated (r : Sampling) (c : ObdCommand) (cs : List ObdCommand)
    (w : World) (h : Tolerated r c) :
    (actuallySend r (c :: cs)).run w =
      (actuallySend r cs).run { w with ran := w.ran ++ [c] } := by
  rw [run_actuallySend_cons]
  cases ho : r.outcome c with
  | ok v => rfl
  | error e => simp [h e ho]

theorem actuallySend_cons_uncaught (r : Sampling) (c : ObdCommand) (cs : List ObdCommand)
    (w : World) (e : JavaException) (ho : r.outcome c = .error e) (he : isCaught e = false) :
    (actuallySend r (c :: cs)).run w = .error e { w with ran := w.ran ++ [c] } := by
  rw [run_actuallySend_cons]
  simp [ho, he]

theorem actuallySend_tolerated (r : Sampling) (cs : List ObdCommand) (w : World)
    (h : ∀ c ∈ cs, Tolerated r c) :
    (actuallySend r cs).run w = .ok () { w with ran := w.ran ++ cs } := by
  induction cs generalizing w with
  | nil => simp [actuallySend]
  | cons c cs ih =>
    simp only [List.mem_cons, forall_eq_or_imp] at h
    rw [actuallySend_cons_tolerated r c cs w h.1, ih _ h.2]
    simp

/-- The first error that is not caught ends the list there. -/
theorem actuallySend_uncaught (r : Sampling) (cs : List ObdCommand) (w : World)
    (h : ¬ ∀ c ∈ cs, Tolerated r c) :
    ∃ c ∈ cs, ∃ e w', r.outcome c = .error e ∧ isCaught e = false ∧
      (actuallySend r cs).run w = .error e w' := by
  induction cs generalizing w with
  | nil => simp at h
  | cons c cs ih =>
    by_cases hc : Tolerated r c
    · have hcs : ¬ ∀ c ∈ cs, Tolerated r c := fun hcs => h (by simpa [hc] using hcs)
      obtain ⟨d, hd, e, w', ho, he, hs⟩ := ih { w with ran := w.ran ++ [c] } hcs
      refine ⟨d, List.mem_cons_of_mem _ hd, e, w', ho, he, ?_⟩
      rw [actuallySend_cons_tolerated r c cs w hc, hs]
    · obtain ⟨e, ho, he⟩ := exists_uncaught_of_not_tolerated hc
      exact ⟨c, by simp, e, _, ho, he, actuallySend_cons_uncaught r c cs w e ho he⟩

theorem actuallySend_append (r : Sampling) (cs ds : List ObdCommand) :
    actuallySend r (cs ++ ds) = (do actuallySend r cs; actuallySend r ds) := by
  induction cs with
  | nil => simp [actuallySend]
  | cons c cs ih => simp [actuallySend, ih]

/-- `sendCommands` is one pass over all five lists. -/
theorem sendCommands_eq (m : MyMultiOBDCommand) (r : Sampling) :
    sendCommands m r = actuallySend r m.all := by
  simp only [sendCommands, MyMultiOBDCommand.all, actuallySend_append, bind_assoc]

/-! ## Complete rounds -/

section Naming

variable (getName : ObdCommand → String)

/-- One live message for each command, with the given fields. -/
def messagesOf (fs : List String) : List Message :=
  List.zipWith (liveMessage getName) fs prepareCommands.all

theorem messagesOf_fields (formatted : ObdCommand → String) :
    messagesOf getName (fields prepareCommands formatted) =
      liveMessages getName prepareCommands formatted := by
  simp [messagesOf, fields, liveMessages, List.zipWith_map_left, List.zipWith_self]

theorem runRound_tolerated (r : Sampling) (w : World)
    (h : ∀ c ∈ prepareCommands.all, Tolerated r c) :
    runRound getName r w =
      (.nextRound,
        ({ w with
            ran := w.ran ++ prepareCommands.all
            sent := w.sent ++ liveMessages getName prepareCommands r.formatted } : World).written
          (fieldsText (fields prepareCommands r.formatted))) := by
  have hs := actuallySend_tolerated r prepareCommands.all w h
  simp [runRound, getAllOBDreadings, sendCommands_eq, hs, run_getFormattedResult, -bind_pure_comp]

/-- A round on an open link: every command succeeds or raises an error of the library. -/
def onOpenLink (outcome : ObdCommand → Except ResponseError String)
    (initialFormat : ObdCommand → String) : Sampling where
  outcome := fun c => (outcome c).mapError JavaException.response
  initialFormat := initialFormat

/-- Every command is run once and in order, one field a command is sent and
appended as one line to the readings file, and the thread goes on. -/
def RoundComplete (r : Sampling) (w : World) : Prop :=
  (runRound getName r w).1 = .nextRound ∧
  (runRound getName r w).2.ran = w.ran ++ prepareCommands.all ∧
  ∃ fs : List String, fs.length = prepareCommands.all.length ∧
    (runRound getName r w).2.sent = w.sent ++ messagesOf getName fs ∧
    ∀ path, w.mReadingsAbsolutePath = some path → w.files.writable path = true →
      (runRound getName r w).2.files.contents path =
        some ((w.files.contents path).getD "" ++ (fieldsText fs ++ "\n"))

theorem tolerated_onOpenLink_iff (outcome : ObdCommand → Except ResponseError String)
    (initialFormat : ObdCommand → String) (c : ObdCommand) :
    Tolerated (onOpenLink outcome initialFormat) c ↔
      ∀ e, outcome c = .error e →
        e = .noDataException ∨ e = .misunderstoodCommandException := by
  cases h : outcome c with
  | ok v => simp [Tolerated, onOpenLink, h, Except.mapError]
  | error e => cases e <;> simp [Tolerated, onOpenLink, h, Except.mapError, isCaught]

theorem roundComplete_of_tolerated (r : Sampling) (w : World)
    (h : ∀ c ∈ prepareCommands.all, Tolerated r c) : RoundComplete getName r w := by
  unfold RoundComplete
  rw [runRound_tolerated getName r w h]
  refine ⟨rfl, rfl, fields prepareCommands r.formatted, by simp [fields], ?_, ?_⟩
  · rw [messagesOf_fields]
    rfl
  · intro path hp hw
    simp [World.written, hp, FileSystem.write, hw, linesText]

/-- An error of the library that `actuallySend` does not catch ends the thread. -/
theorem runRound_onOpenLink_uncaught (outcome : ObdCommand → Except ResponseError String)
    (initialFormat : ObdCommand → String) (w : World)
    (h : ¬ ∀ c ∈ prepareCommands.all, Tolerated (onOpenLink outcome initialFormat) c) :
    ∃ e, (runRound getName (onOpenLink outcome initialFormat) w).1 = .uncaught (.response e) := by
  obtain ⟨c, _, e, w', ho, he, hs⟩ := actuallySend_uncaught _ _ w h
  cases hc : outcome c with
  | ok v => simp [onOpenLink, hc, Except.mapError] at ho
  | error re =>
    simp only [onOpenLink, hc, Except.mapError, Except.error.injEq] at ho
    subst ho
    refine ⟨re, ?_⟩
    simp only [runRound, getAllOBDreadings, sendCommands_eq, EStateM.run_bind, hs]
    cases re <;> first | rfl | simp [isCaught] at he

/-- **Complete rounds.**  A round is complete exactly when no command raises an
error other than the two that `actuallySend` catches. -/
theorem roundComplete_iff (outcome : ObdCommand → Except ResponseError String)
    (initialFormat : ObdCommand → String) (w : World) :
    RoundComplete getName (onOpenLink outcome initialFormat) w ↔
      ∀ c ∈ prepareCommands.all, ∀ e, outcome c = .error e →
        e = .noDataException ∨ e = .misunderstoodCommandException := by
  simp only [← tolerated_onOpenLink_iff outcome initialFormat]
  constructor
  · intro hround
    by_contra h
    obtain ⟨e, he⟩ := runRound_onOpenLink_uncaught getName outcome initialFormat w h
    rw [hround.1] at he
    cases he
  · exact roundComplete_of_tolerated getName _ w

end Naming

/-- An adapter that answers the speed command with STOPPED ends the thread. -/
theorem stoppedSpeed_not_complete :
    ¬ RoundComplete (fun _ => "Vehicle Speed")
      (onOpenLink (fun c => if c = .speedCommand then .error .stoppedException else .ok "1")
        fun _ => "")
      (World.fresh (some "READINGS.txt")) := by
  intro h
  exact absurd h.1 (by decide)

/-! ## Missing readings -/

section Missing

variable (getName : ObdCommand → String)

/-- The field that a missing or present reading should get. -/
def FieldRight (r : Sampling) (c : ObdCommand) (f : String) : Prop :=
  (∀ e, r.outcome c = .error e → f = "No Data") ∧
  (∀ v, r.outcome c = .ok v → v ≠ "" → f = v)

/-- After `sendCommands`, the line and the messages of `getFormattedResult` hold
the right field for every command. -/
def MissingRecorded (r : Sampling) (w : World) : Prop :=
  ∃ fs w₁ w₂, (sendCommands prepareCommands r).run w = .ok () w₁ ∧
    (getFormattedResult getName prepareCommands r.formatted).run w₁ = .ok (fieldsText fs) w₂ ∧
    w₂.sent = w₁.sent ++ messagesOf getName fs ∧
    List.Forall₂ (FieldRight r) prepareCommands.all fs

/-- The messages tell the fields. -/
theorem eq_map_of_messages (g : ObdCommand → String) (cs : List ObdCommand) (fs : List String)
    (hl : cs.length = fs.length)
    (h : (cs.map fun c => liveMessage getName (g c) c) =
      List.zipWith (liveMessage getName) fs cs) : fs = cs.map g := by
  induction cs generalizing fs with
  | nil => simpa using hl.symm
  | cons c cs ih =>
    cases fs with
    | nil => simp at hl
    | cons f fs =>
      simp only [List.map_cons, List.zipWith_cons_cons, List.cons.injEq] at h
      have hf : f = g c := by simpa [liveMessage] using h.1.symm
      have hfs := ih fs (by simpa using hl) h.2
      rw [List.map_cons, hf, hfs]

theorem fieldRight_of_missingRecorded (r : Sampling) (w : World)
    (h : MissingRecorded getName r w) (c : ObdCommand) (hc : c ∈ prepareCommands.all) :
    FieldRight r c (fieldOf (r.formatted c)) := by
  obtain ⟨fs, w₁, w₂, _, hrun, hsent, hall⟩ := h
  rw [run_getFormattedResult] at hrun
  injection hrun with _ hw₂
  subst hw₂
  have hfs := eq_map_of_messages getName (fun c => fieldOf (r.formatted c)) prepareCommands.all fs
    hall.length_eq (List.append_cancel_left hsent)
  rw [hfs, List.forall₂_map_right_iff, List.forall₂_same] at hall
  exact hall c hc

theorem fieldRight_iff (r : Sampling) (c : ObdCommand) :
    FieldRight r c (fieldOf (r.formatted c)) ↔
      ∀ e, r.outcome c = .error e → r.initialFormat c = "" ∨ r.initialFormat c = "No Data" := by
  cases h : r.outcome c with
  | ok v =>
    simp only [FieldRight, Sampling.formatted, h, reduceCtorEq, false_implies, implies_true,
      Except.ok.injEq, forall_eq', true_and, iff_true]
    intro hv
    simp [fieldOf, hv]
  | error e =>
    simp only [FieldRight, Sampling.formatted, h, Except.error.injEq, forall_eq', reduceCtorEq,
      false_implies, implies_true, and_true]
    unfold fieldOf
    split
    · rename_i hempty
      simp [hempty]
    · rename_i hempty
      simp [hempty]

/-- **Missing readings.**  When every error of the round is caught, all missing
readings are recorded as "No Data" exactly when the library formats each command
that failed as an empty string (or as "No Data" itself). -/
theorem missingRecorded_iff (r : Sampling) (w : World)
    (h : ∀ c ∈ prepareCommands.all, Tolerated r c) :
    MissingRecorded getName r w ↔
      ∀ c ∈ prepareCommands.all, ∀ e, r.outcome c = .error e →
        r.initialFormat c = "" ∨ r.initialFormat c = "No Data" := by
  constructor
  · intro hm c hc
    exact (fieldRight_iff r c).mp (fieldRight_of_missingRecorded getName r w hm c hc)
  · intro hall
    have hs : (sendCommands prepareCommands r).run w =
        .ok () { w with ran := w.ran ++ prepareCommands.all } := by
      rw [sendCommands_eq, actuallySend_tolerated r _ w h]
    refine ⟨fields prepareCommands r.formatted, _, _, hs, run_getFormattedResult .., ?_, ?_⟩
    · rw [messagesOf_fields]
      rfl
    · rw [fields, List.forall₂_map_right_iff, List.forall₂_same]
      intro c hc
      exact (fieldRight_iff r c).mpr (hall c hc)

end Missing

/-- A car that has no data for the speed, with a library that formats the initial
speed of a command without a value. -/
def noSpeed (initialFormat : String) : Sampling where
  outcome := fun c =>
    if c = .speedCommand then .error (.response .noDataException) else .ok "1"
  initialFormat := fun _ => initialFormat

theorem noSpeed_tolerated (initialFormat : String) (c : ObdCommand) :
    Tolerated (noSpeed initialFormat) c := by
  intro e he
  by_cases hc : c = .speedCommand
  · simp only [noSpeed, hc, ↓reduceIte, Except.error.injEq] at he
    subst he
    rfl
  · simp [noSpeed, hc] at he

/-- With "0.00km/h" as initial format, the missing speed is recorded as a zero. -/
theorem missingSpeed_recorded_as_zero :
    ¬ MissingRecorded (fun _ => "Vehicle Speed") (noSpeed "0.00km/h")
      (World.fresh (some "READINGS.txt")) := by
  intro h
  have hf := fieldRight_of_missingRecorded _ _ _ h .speedCommand (by decide)
  exact absurd (hf.1 (.response .noDataException) rfl) (by decide)

/-- With an empty initial format, the missing speed is recorded as "No Data". -/
theorem missingSpeed_recorded :
    MissingRecorded (fun _ => "Vehicle Speed") (noSpeed "") (World.fresh (some "READINGS.txt")) :=
  (missingRecorded_iff _ (noSpeed "") _ fun c _ => noSpeed_tolerated "" c).mpr
    fun _ _ _ _ => Or.inl rfl

end ProjektMagisterski.Obd
