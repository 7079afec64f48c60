/-!
# `MyMultiOBDCommand` and the sampling thread

The five command lists, one sampling round (`sendCommands` followed by
`getFormattedResult`) and the replay of one recorded line (`parseReadings`).
Methods run in `Java`: they change a `World` and may throw, and what was done
before an exception stays done.

The OBD library is outside the repository.  `getName` is its name of a command;
a `Sampling` is what it does in one round: whether the command's `run` stores a
value or throws, and the string it formats for a command that stored nothing.
-/

namespace ProjektMagisterski.Obd

/-! ## Commands -/

/-- The command classes that `prepareCommands` instantiates. -/
inductive ObdCommand
  | distanceMILOnCommand | distanceSinceCCCommand | dtcNumberCommand
  | equivalentRatioCommand | ignitionMonitorCommand | moduleVoltageCommand
  | pendingTroubleCodesCommand | permanentTroubleCodesCommand | timingAdvanceCommand
  | troubleCodesCommand | vinCommand | speedCommand
  | absoluteLoadCommand | loadCommand | massAirFlowCommand | oilTempCommand
  | rpmCommand | runtimeCommand | throttlePositionCommand
  | airFuelRatioCommand | consumptionRateCommand | findFuelTypeCommand
  | fuelLevelCommand | widebandAirFuelRatioCommand
  | barometricPressureCommand | fuelPressureCommand | fuelRailPressureCommand
  | intakeManifoldPressureCommand
  | airIntakeTemperatureCommand | ambientAirTemperatureCommand
  | engineCoolantTemperatureCommand
  deriving DecidableEq, Repr

/-- The five lists of a `MyMultiOBDCommand`. -/
structure MyMultiOBDCommand where
  commandsControl : List ObdCommand
  commandsEngine : List ObdCommand
  commandsFuel : List ObdCommand
  commandsPreassure : List ObdCommand
  commandsTemparature : List ObdCommand

/-- Both constructors fill the lists with this. -/
def prepareCommands : MyMultiOBDCommand where
  commandsControl := [.distanceMILOnCommand, .distanceSinceCCCommand, .dtcNumberCommand,
    .equivalentRatioCommand, .ignitionMonitorCommand, .moduleVoltageCommand,
    .pendingTroubleCodesCommand, .permanentTroubleCodesCommand, .timingAdvanceCommand,
    .troubleCodesCommand, .vinCommand, .speedCommand]
  commandsEngine := [.absoluteLoadCommand, .loadCommand, .massAirFlowCommand, .oilTempCommand,
    .rpmCommand, .runtimeCommand, .throttlePositionCommand]
  commandsFuel := [.airFuelRatioCommand, .consumptionRateCommand, .findFuelTypeCommand,
    .fuelLevelCommand, .widebandAirFuelRatioCommand]
  commandsPreassure := [.barometricPressureCommand, .fuelPressureCommand,
    .fuelRailPressureCommand, .intakeManifoldPressureCommand]
  commandsTemparature := [.airIntakeTemperatureCommand, .ambientAirTemperatureCommand,
    .engineCoolantTemperatureCommand]

/-- All commands, in the order in which they are sent, written and replayed. -/
def MyMultiOBDCommand.all (m : MyMultiOBDCommand) : List ObdCommand :=
  m.commandsControl ++ m.commandsEngine ++ m.commandsFuel ++ m.commandsPreassure ++
    m.commandsTemparature

/-! ## Exceptions -/

/-- The unchecked errors that `ObdCommand.run` of the OBD library raises. -/
inductive ResponseError
  | noDataException | misunderstoodCommandException | unableToConnectException
  | busInitException | stoppedException | unknownErrorException
  | unsupportedCommandException | nonNumericResponseException
  deriving DecidableEq, Repr

inductive JavaException
  | ioException
  | interruptedException
  | indexOutOfBoundsException
  | response (e : ResponseError)
  deriving DecidableEq, Repr

/-! ## The world of a round -/

/-- A handler message: `what` and the string entries of its bundle. -/
structure Message where
  what : Nat
  data : List (String × String)
  deriving DecidableEq, Repr

namespace MainActivity
def messageRead : Nat := 2
def formattedValue : String := "value_message"
def formattedValueClassName : String := "value_class_name"
end MainActivity

namespace VideoPlayerActivity
def messageRead : Nat := 2
def formattedValue : String := "value_message"
def formattedValueClassName : String := "value_class_name"
end VideoPlayerActivity

/-- Text files, and the paths that can be written. -/
structure FileSystem where
  contents : String → Option String
  writable : String → Bool

/-- What `Files.write` puts into a file: each line followed by the line separator. -/
def linesText : List String → String
  | [] => ""
  | line :: lines => line ++ "\n" ++ linesText lines

/-- `Files.write` with `CREATE` and `APPEND`; `none` for an `IOException`. -/
def FileSystem.write (fs : FileSystem) (path : String) (lines : List String) :
    Option FileSystem :=
  if fs.writable path then
    some { fs with contents := fun p =>
      if p = path then some ((fs.contents path).getD "" ++ linesText lines) else fs.contents p }
  else none

/-- What the code of a round reads and changes: the commands whose `run` was
called, the messages sent, the static path field and the files. -/
structure World where
  ran : List ObdCommand
  sent : List Message
  mReadingsAbsolutePath : Option String
  files : FileSystem

abbrev Java := EStateM JavaException World

/-- A handler runs in the world that the exception left. -/
theorem Java.run_tryCatch {α : Type} (body : Java α) (handler : JavaException → Java α)
    (w : World) :
    (tryCatch body handler).run w =
      match body.run w with
      | .ok a w' => .ok a w'
      | .error e w' => (handler e).run w' := by
  change EStateM.tryCatch body handler w = _
  delta EStateM.tryCatch EStateM.run
  cases body w <;> rfl

def sendMessage (msg : Message) : Java Unit :=
  modify fun w => { w with sent := w.sent ++ [msg] }

/-! ## Sending commands -/

/-- What the library does in one round. -/
structure Sampling where
  /-- `ok v`: `run` stores a value that is formatted as `v`; `error e`: it throws `e`. -/
  outcome : ObdCommand → Except JavaException String
  /-- `getFormattedResult` of a command whose `run` stored no value. -/
  initialFormat : ObdCommand → String

/-- `ObdCommand.getFormattedResult` after the command's `run`. -/
def Sampling.formatted (r : Sampling) (command : ObdCommand) : String :=
  match r.outcome command with
  | .ok v => v
  | .error _ => r.initialFormat command

/-- `ObdCommand.run`. -/
def run (r : Sampling) (command : ObdCommand) : Java Unit := do
  modify fun w => { w with ran := w.ran ++ [command] }
  match r.outcome command with
  | .ok _ => pure ()
  | .error e => throw e

/-- The catch clause of `actuallySend`: `NoDataException | MisunderstoodCommandException`. -/
def isCaught : JavaException → Bool
  | .response .noDataException => true
  | .response .misunderstoodCommandException => true
  | _ => false

def actuallySend (r : Sampling) : List ObdCommand → Java Unit
  | [] => pure ()
  | command :: commands => do
    try run r command
    catch e => if isCaught e then pure () else throw e
    actuallySend r commands

def sendCommands (m : MyMultiOBDCommand) (r : Sampling) : Java Unit := do
  actuallySend r m.commandsControl
  actuallySend r m.commandsEngine
  actuallySend r m.commandsFuel
  actuallySend r m.commandsPreassure
  actuallySend r m.commandsTemparature

/-! ## Formatting and recording -/

section Naming

variable (getName : ObdCommand → String)

/-- The field of a command: its formatted result, or "No Data" when that is empty. -/
def fieldOf (formatted : String) : String :=
  if formatted = "" then "No Data" else formatted

def liveMessage (formattedResult : String) (command : ObdCommand) : Message where
  what := MainActivity.messageRead
  data := [(MainActivity.formattedValue, formattedResult),
    (MainActivity.formattedValueClassName, getName command)]

def getResultFromCommands (formatted : ObdCommand → String) : List ObdCommand → Java String
  | [] => pure ""
  | command :: commands => do
    let formattedResult := fieldOf (formatted command)
    sendMessage (liveMessage getName formattedResult command)
    let res ← getResultFromCommands formatted commands
    pure (formattedResult ++ ";" ++ res)

/-- The write at the end of `getFormattedResult`; an `IOException` is only logged. -/
def writeReadings (res : String) : Java Unit := do
  let w ← get
  match w.mReadingsAbsolutePath with
  | none => pure ()
  | some path =>
    match w.files.write path [res] with
    | some files => set { w with files := files }
    | none => pure ()

def getFormattedResult (m : MyMultiOBDCommand) (formatted : ObdCommand → String) :
    Java String := do
  let control ← getResultFromCommands getName formatted m.commandsControl
  let engine ← getResultFromCommands getName formatted m.commandsEngine
  let fuel ← getResultFromCommands getName formatted m.commandsFuel
  let preassure ← getResultFromCommands getName formatted m.commandsPreassure
  let temparature ← getResultFromCommands getName formatted m.commandsTemparature
  let res := control ++ engine ++ fuel ++ preassure ++ temparature
  writeReadings res
  pure res

/-! ## The sampling thread -/

/-- `ConnectedThread.getAllOBDreadings`, with the fresh command objects it makes. -/
def getAllOBDreadings (r : Sampling) : Java Unit := do
  sendCommands prepareCommands r
  let _ ← getFormattedResult getName prepareCommands r.formatted
  pure ()

/-- How one iteration of the loop of `ConnectedThread.run` ends. -/
inductive AfterRound
  | nextRound
  | connectionLost
  | uncaught (e : JavaException)
  deriving DecidableEq, Repr

/-- One iteration: the catch clauses around `getAllOBDreadings`. -/
def runRound (r : Sampling) (w : World) : AfterRound × World :=
  match (getAllOBDreadings getName r).run w with
  | .ok _ w' => (.nextRound, w')
  | .error .ioException w' => (.connectionLost, w')
  | .error .interruptedException w' => (.nextRound, w')
  | .error (.response .noDataException) w' => (.nextRound, w')
  | .error e w' => (.uncaught e, w')

/-- The loop of `ConnectedThread.run` over the rounds to come. -/
def runLoop : List Sampling → World → AfterRound × World
  | [], w => (.nextRound, w)
  | r :: rs, w =>
    match runRound getName r w with
    | (.nextRound, w') => runLoop rs w'
    | (after, w') => (after, w')

/-! ## Replaying -/

def replayMessage (value : String) (command : ObdCommand) : Message where
  what := VideoPlayerActivity.messageRead
  data := [(VideoPlayerActivity.formattedValue, value),
    (VideoPlayerActivity.formattedValueClassName, getName command)]

def parseCommandsFromFile (singleReadingLine : List String) (readingIndex : Nat) :
    List ObdCommand → Java Unit
  | [] => pure ()
  | command :: commands =>
    match singleReadingLine[readingIndex]? with
    | none => throw .indexOutOfBoundsException
    | some value => do
      sendMessage (replayMessage getName value command)
      parseCommandsFromFile singleReadingLine (readingIndex + 1) commands

end Naming

end ProjektMagisterski.Obd
