import ProjektMagisterski.Obd.Playback
import ProjektMagisterski.Obd.Sampling

/-!
# The loop of the sampling thread

`ConnectedThread.run` goes from round to round until an exception ends it.

* `run_actuallySend`: the commands up to the first error that is not caught are run;
* `runRound_eq`: a round is complete, or leaves nothing but the commands it has run;
* `runLoop_sampled`: over any rounds, the complete ones are sent and appended, one
  line each and in order, until the first round that ends the thread.
-/

namespace ProjektMagisterski.Obd

/-! ## One round -/

/-- The error with which the command leaves `actuallySend`, if it does. -/
def uncaughtError (r : Sampling) (c : ObdCommand) : Option JavaException :=
  match r.outcome c with
  | .ok _ => none
  | .error e => if isCaught e then none else some e

/-- The commands of a list that are run: up to the first with an error that is not caught. -/
def tried (r : Sampling) : List ObdCommand → List ObdCommand
  | [] => []
  | c :: cs => if uncaughtError r c = none then c :: tried r cs else [c]

theorem run_actuallySend (r : Sampling) (cs : List ObdCommand) (w : World) :
    (actuallySend r cs).run w =
      match cs.findSome? (uncaughtError r) with
      | none => .ok () { w with ran := w.ran ++ tried r cs }
      | some e => .error e { w with ran := w.ran ++ tried r cs } := by
  induction cs generalizing w with
  | nil => simp [actuallySend, tried]
  | cons c cs ih =>
    rw [run_actuallySend_cons, List.findSome?_cons, tried]
    cases ho : r.outcome c with
    | ok v =>
      have hc : uncaughtError r c = none := by simp [uncaughtError, ho]
      simp only [hc, if_pos, ih, List.append_assoc, List.singleton_append]
    | error e =>
      cases he : isCaught e with
      | true =>
        have hc : uncaughtError r c = none := by simp [uncaughtError, ho, he]
        simp only [hc, he, if_pos, ih, List.append_assoc, List.singleton_append]
      | false =>
        have hc : uncaughtError r c = some e := by simp [uncaughtError, ho, he]
        simp [hc, he]

/-- The error that leaves a round. -/
def roundError (r : Sampling) : Option JavaException :=
  prepareCommands.all.findSome? (uncaughtError r)

/-- What the catch clauses of `ConnectedThread.run` make of an error. -/
def afterError : JavaException → AfterRound
  | .ioException => .connectionLost
  | .interruptedException => .nextRound
  | .response .noDataException => .nextRound
  | e => .uncaught e

def roundEnd (r : Sampling) : AfterRound :=
  match roundError r with
  | none => .nextRound
  | some e => afterError e

/-- No error leaves the round. -/
def isComplete (r : Sampling) : Bool := (roundError r).isNone

section Naming

variable (getName : ObdCommand → String)

/-- The world after a round. -/
def World.sampled (w : World) (r : Sampling) : World :=
  if isComplete r then
    ({ w with
        ran := w.ran ++ tried r prepareCommands.all
        sent := w.sent ++ sentLive getName r.formatted } : World).written (lineOf r.formatted)
  else { w with ran := w.ran ++ tried r prepareCommands.all }

/-- **One round** is complete, or leaves nothing but the commands it has run. -/
theorem runRound_eq (r : Sampling) (w : World) :
    runRound getName r w = (roundEnd r, w.sampled getName r) := by
  have hs := run_actuallySend r prepareCommands.all w
  rw [← roundError] at hs
  unfold runRound getAllOBDreadings roundEnd World.sampled isComplete
  cases he : roundError r with
  | none =>
    simp only [he] at hs
    simp [sendCommands_eq, hs, run_getFormattedResult, sentLive_eq, lineOf, -bind_pure_comp]
  | some e =>
    simp only [he] at hs
    simp only [sendCommands_eq, EStateM.run_bind, hs, Option.isNone_some, Bool.false_eq_true,
      if_false]
    cases e with
    | response e => cases e <;> rfl
    | _ => rfl

/-! ## Any number of rounds -/

/-- What the given rounds, one after the other, do to the world. -/
structure SampledRounds (rs : List Sampling) (w w' : World) : Prop where
  /-- Every round runs its commands in order, up to the one whose error leaves it. -/
  ran : w'.ran = w.ran ++ rs.flatMap fun r => tried r prepareCommands.all
  /-- The complete rounds send one message a command, the others none. -/
  sent : w'.sent = w.sent ++ (rs.filter isComplete).flatMap fun r => sentLive getName r.formatted
  path : w'.mReadingsAbsolutePath = w.mReadingsAbsolutePath
  writable : w'.files.writable = w.files.writable
  /-- The complete rounds append one line each to the readings file; no other file changes. -/
  contents : ∀ p, w'.files.contents p =
    if w.mReadingsAbsolutePath = some p ∧ w.files.writable p = true then
      appended (w.files.contents p) ((rs.filter isComplete).map fun r => lineOf r.formatted)
    else w.files.contents p

variable {getName} {w w₁ w₂ : World}

theorem SampledRounds.nil (w : World) : SampledRounds getName [] w w := by
  refine ⟨by simp, by simp, rfl, rfl, fun p => ?_⟩
  simp [appended]

theorem SampledRounds.append {rs rs' : List Sampling} (h : SampledRounds getName rs w w₁)
    (h' : SampledRounds getName rs' w₁ w₂) : SampledRounds getName (rs ++ rs') w w₂ := by
  refine ⟨?_, ?_, h'.path.trans h.path, h'.writable.trans h.writable, fun p => ?_⟩
  · rw [h'.ran, h.ran, List.flatMap_append, List.append_assoc]
  · rw [h'.sent, h.sent, List.filter_append, List.flatMap_append, List.append_assoc]
  · rw [h'.contents, h.path, h.writable, h.contents, List.filter_append, List.map_append,
      ← appended_append]
    split <;> rfl

theorem contents_written (w : World) (res p : String) :
    (w.written res).files.contents p =
      if w.mReadingsAbsolutePath = some p ∧ w.files.writable p = true then
        appended (w.files.contents p) [res]
      else w.files.contents p := by
  cases hpath : w.mReadingsAbsolutePath with
  | none => simp [World.written, hpath]
  | some path =>
    simp only [World.written, hpath, contents_write _ _ _ _ (List.cons_ne_nil res []),
      Option.some.injEq]
    by_cases hp : p = path
    · subst hp
      rfl
    · simp [hp, Ne.symm hp]

theorem writable_written (w : World) (res : String) :
    (w.written res).files.writable = w.files.writable := by
  cases hpath : w.mReadingsAbsolutePath with
  | none => simp [World.written, hpath]
  | some path =>
    simp only [World.written, hpath]
    exact writable_write ..

theorem SampledRounds.single (r : Sampling) (w : World) :
    SampledRounds getName [r] w (w.sampled getName r) := by
  unfold World.sampled
  by_cases hc : isComplete r = true
  · rw [if_pos hc]
    refine ⟨by simp [World.written], by simp [World.written, hc], rfl, writable_written .., ?_⟩
    intro p
    rw [contents_written]
    simp [hc]
  · rw [if_neg hc]
    refine ⟨by simp, by simp [hc], rfl, rfl, fun p => ?_⟩
    simp [hc, appended]

/-- The rounds that the thread gets to: up to the first one that ends it. -/
def roundsRun : List Sampling → List Sampling
  | [] => []
  | r :: rs => if roundEnd r = .nextRound then r :: roundsRun rs else [r]

/-- What ends the thread, if a round does. -/
def loopEnd (rs : List Sampling) : AfterRound :=
  ((rs.map roundEnd).find? fun a => a ≠ .nextRound).getD .nextRound

/-- The rounds that are run are a first part of all rounds, and each but the last goes on. -/
theorem roundsRun_isPrefix (rs : List Sampling) :
    roundsRun rs <+: rs ∧ ∀ r ∈ (roundsRun rs).dropLast, roundEnd r = .nextRound := by
  induction rs with
  | nil => simp [roundsRun]
  | cons r rs ih =>
    rw [roundsRun]
    split
    · rename_i hnext
      refine ⟨List.cons_prefix_cons.mpr ⟨rfl, ih.1⟩, ?_⟩
      intro q hq
      cases hrun : roundsRun rs with
      | nil => simp [hrun] at hq
      | cons q' qs =>
        rw [hrun, List.dropLast_cons_cons, ← hrun] at hq
        rcases List.mem_cons.mp hq with rfl | hq
        · exact hnext
        · exact ih.2 q hq
    · exact ⟨List.cons_prefix_cons.mpr ⟨rfl, List.nil_prefix⟩, by simp⟩

variable (getName)

/-- **The sampling thread.**  It ends with the first round that an `IOException` or an
exception without a handler leaves, and otherwise goes on; up to there the complete rounds,
and only these, are sent and recorded. -/
theorem runLoop_sampled (rs : List Sampling) (w : World) :
    (runLoop getName rs w).1 = loopEnd rs ∧
      SampledRounds getName (roundsRun rs) w (runLoop getName rs w).2 ∧
      roundsRun rs <+: rs ∧ ∀ r ∈ (roundsRun rs).dropLast, roundEnd r = .nextRound := by
  suffices hrun : (runLoop getName rs w).1 = loopEnd rs ∧
      SampledRounds getName (roundsRun rs) w (runLoop getName rs w).2 from
    ⟨hrun.1, hrun.2, roundsRun_isPrefix rs⟩
  induction rs generalizing w with
  | nil => exact ⟨rfl, SampledRounds.nil w⟩
  | cons r rs ih =>
    have hsingle : SampledRounds getName [r] w (w.sampled getName r) := SampledRounds.single r w
    rw [runLoop, runRound_eq, roundsRun, loopEnd, List.map_cons]
    cases hend : roundEnd r with
    | nextRound =>
      obtain ⟨hafter, hrounds⟩ := ih (w.sampled getName r)
      exact ⟨by simpa [loopEnd] using hafter, hsingle.append hrounds⟩
    | connectionLost => exact ⟨by simp, hsingle⟩
    | uncaught e => exact ⟨by simp, hsingle⟩

end Naming

end ProjektMagisterski.Obd
