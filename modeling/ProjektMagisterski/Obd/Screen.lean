import ProjektMagisterski.Lib.LastWrite
import ProjektMagisterski.Obd.ReaderThread

/-!
# The readings on the screen

`MainActivity` and `VideoPlayerActivity` show a message in the text view whose id
is the name of the command's constant in `AvailableCommandNames`.  Both inflate the
layout `readings`.

* `handleAll_shown`: messages of known commands are writes to the text views;
* `player_screen_is_live`: after any playback the player shows what the main screen
  showed after the round that was selected last, and nothing older.

`AvailableCommandNames` belongs to the OBD library: its constants are a parameter.
-/

namespace ProjektMagisterski.Obd

open Lib

/-! ## Resources -/

/-- The text views for values in the layout `readings`, section by section. -/
def readings : List String :=
  ["DISTANCE_TRAVELED_MIL_ON", "DISTANCE_TRAVELED_AFTER_CODES_CLEARED", "DTC_NUMBER",
    "EQUIV_RATIO", "IGNITION_MONITOR", "CONTROL_MODULE_VOLTAGE", "PENDING_TROUBLE_CODES",
    "PERMANENT_TROUBLE_CODES", "TIMING_ADVANCE", "TROUBLE_CODES", "VIN", "SPEED"] ++
  ["ABS_LOAD", "ENGINE_LOAD", "MAF", "ENGINE_OIL_TEMP", "ENGINE_RPM", "ENGINE_RUNTIME",
    "REL_THROTTLE_POS"] ++
  ["AIR_FUEL_RATIO", "FUEL_CONSUMPTION_RATE", "FUEL_TYPE", "FUEL_LEVEL",
    "WIDEBAND_AIR_FUEL_RATIO"] ++
  ["BAROMETRIC_PRESSURE", "FUEL_PRESSURE", "FUEL_RAIL_PRESSURE", "INTAKE_MANIFOLD_PRESSURE"] ++
  ["AIR_INTAKE_TEMP", "AMBIENT_AIR_TEMP", "ENGINE_COOLANT_TEMP"]

/-- The ids of `values/id.xml` that no view of the layout has. -/
def idsWithoutView : List String :=
  ["ENGINE_FUEL_RATE", "TIME_TRAVELED_MIL_ON", "TIME_SINCE_TC_CLEARED", "PIDS_01_20",
    "PIDS_21_40", "PIDS_41_60", "DESCRIBE_PROTOCOL", "DESCRIBE_PROTOCOL_NUMBER"]

/-! ## The handlers -/

/-- A constant of `AvailableCommandNames`, with its `getValue()` and its `name()`. -/
structure CommandName where
  value : String
  name : String

/-- The text of each view. -/
abbrev Screen := String → Option String

/-- `getCommandClass`: the first constant with that value, or null. -/
def getCommandClass (commandNames : List CommandName) (valueClassName : Option String) :
    Option String :=
  (commandNames.find? fun n => some n.value = valueClassName).map CommandName.name

/-- `updateTV`; `none` for the exception of `getIdentifier` on null, or of `setText` on
a view that the activity does not have. -/
def updateTV (screen : Screen) (val className : Option String) : Option Screen :=
  match className with
  | none => none
  | some className =>
    if className ∈ readings then
      some fun view => if view = className then val else screen view
    else if className ∈ idsWithoutView then none
    else some screen

section Handlers

variable (commandNames : List CommandName)

/-- `handleMessage` of both activities: messages other than readings change nothing. -/
def handleMessage (messageRead : Nat) (formattedValue formattedValueClassName : String)
    (screen : Screen) (msg : Message) : Option Screen :=
  if msg.what = messageRead then
    updateTV screen (msg.data.lookup formattedValue)
      (getCommandClass commandNames (msg.data.lookup formattedValueClassName))
  else some screen

def MainActivity.handleMessage : Screen → Message → Option Screen :=
  Obd.handleMessage commandNames MainActivity.messageRead MainActivity.formattedValue
    MainActivity.formattedValueClassName

def VideoPlayerActivity.handleMessage : Screen → Message → Option Screen :=
  Obd.handleMessage commandNames VideoPlayerActivity.messageRead
    VideoPlayerActivity.formattedValue VideoPlayerActivity.formattedValueClassName

/-- The looper delivers messages in the order in which they were sent. -/
def handleAll (handle : Screen → Message → Option Screen) (screen : Screen)
    (msgs : List Message) : Option Screen :=
  msgs.foldlM handle screen

/-! ## Messages as writes -/

variable (getName : ObdCommand → String)

/-- The view that shows a command, if there is one. -/
def viewOf (c : ObdCommand) : Option String :=
  (getCommandClass commandNames (some (getName c))).filter (· ∈ readings)

/-- The library names every command by a constant, and not by one whose id has no view. -/
def NamesCommands : Prop :=
  ∀ c, ∃ className, getCommandClass commandNames (some (getName c)) = some className ∧
    className ∉ idsWithoutView

/-- The fields of a round with their commands. -/
def shownBy (formatted : ObdCommand → String) : List (String × ObdCommand) :=
  prepareCommands.all.map fun c => (fieldOf (formatted c), c)

/-- What a field writes to the screen. -/
def writeOf (p : String × ObdCommand) : Option (String × String) :=
  (viewOf commandNames getName p.2).map fun view => (view, p.1)

theorem sentLive_eq_map :
    sentLive getName =
      fun formatted => (shownBy formatted).map fun p => liveMessage getName p.1 p.2 := by
  funext formatted
  rw [sentLive_eq, liveMessages, shownBy, List.map_map]
  rfl

theorem handleMessage_liveMessage (hnames : NamesCommands commandNames getName)
    (screen : Screen) (p : String × ObdCommand) :
    MainActivity.handleMessage commandNames screen (liveMessage getName p.1 p.2) =
      some (writeAll screen (writeOf commandNames getName p).toList) := by
  obtain ⟨className, hclass, hview⟩ := hnames p.2
  have hvalue : (liveMessage getName p.1 p.2).data.lookup MainActivity.formattedValue =
      some p.1 := rfl
  have hname : (liveMessage getName p.1 p.2).data.lookup MainActivity.formattedValueClassName =
      some (getName p.2) := rfl
  have hwhat : (liveMessage getName p.1 p.2).what = MainActivity.messageRead := rfl
  rw [MainActivity.handleMessage, Obd.handleMessage, if_pos hwhat, hvalue, hname, hclass,
    writeOf, viewOf, hclass, updateTV]
  by_cases hmem : className ∈ readings
  · simp only [Option.filter_some, decide_true, hmem, if_true, Option.map_some]
    rfl
  · simp only [if_neg hview, Option.filter_some, hmem, decide_false, Bool.false_eq_true,
      if_false, Option.map_none]
    rfl

/-- **Messages as writes.** -/
theorem handleAll_shown (hnames : NamesCommands commandNames getName) (screen : Screen)
    (ps : List (String × ObdCommand)) :
    handleAll (MainActivity.handleMessage commandNames) screen
        (ps.map fun p => liveMessage getName p.1 p.2) =
      some (writeAll screen (ps.filterMap (writeOf commandNames getName))) := by
  induction ps generalizing screen with
  | nil => rfl
  | cons p ps ih =>
    have hrest := ih (writeAll screen (writeOf commandNames getName p).toList)
    rw [handleAll] at hrest ⊢
    rw [List.map_cons, List.foldlM_cons, handleMessage_liveMessage commandNames getName hnames]
    show List.foldlM _ _ _ = _
    rw [hrest, ← writeAll_append, List.filterMap_cons]
    cases writeOf commandNames getName p <;> rfl

/-- Every round writes the view of every command. -/
theorem mem_writes (formatted : ObdCommand → String) {c : ObdCommand}
    (hc : c ∈ prepareCommands.all) {view : String}
    (hview : viewOf commandNames getName c = some view) :
    view ∈ ((shownBy formatted).filterMap (writeOf commandNames getName)).map Prod.fst := by
  apply List.mem_map.mpr
  refine ⟨(view, fieldOf (formatted c)), ?_, rfl⟩
  apply List.mem_filterMap.mpr
  refine ⟨(fieldOf (formatted c), c), List.mem_map.mpr ⟨c, hc, rfl⟩, ?_⟩
  simp [writeOf, hview]

/-- After rounds and a last one, on any screen, the views of the commands show the last. -/
theorem handleAll_last (hnames : NamesCommands commandNames getName) (screen : Screen)
    (rounds : List (ObdCommand → String)) (last : ObdCommand → String) :
    ∃ screen', handleAll (MainActivity.handleMessage commandNames) screen
        ((rounds ++ [last]).flatMap (sentLive getName)) = some screen' ∧
      ∀ c ∈ prepareCommands.all, ∀ view, viewOf commandNames getName c = some view →
        screen' view =
          writeAll (fun _ => none) ((shownBy last).filterMap (writeOf commandNames getName))
            view := by
  have hsent : (rounds ++ [last]).flatMap (sentLive getName) =
      ((rounds.flatMap shownBy) ++ shownBy last).map fun p => liveMessage getName p.1 p.2 := by
    rw [sentLive_eq_map]
    simp [List.flatMap_append, List.map_flatMap]
  rw [hsent, handleAll_shown commandNames getName hnames, List.filterMap_append]
  refine ⟨_, rfl, ?_⟩
  intro c hc view hview
  exact writeAll_covered _ _ _ _ (mem_writes commandNames getName last hc hview)

/-! ## Playback -/

/-- The selections whose line exists. -/
def ReaderThread.found (session : List (ObdCommand → String)) (u : ReaderThread) :
    List Selection :=
  u.selected.filter fun x => x.index < session.length

/-- What a playback sends is what the rounds sent that it found. -/
theorem flatMap_sentAt (session : List (ObdCommand → String)) (u : ReaderThread) :
    (u.selected.flatMap fun x => sentAt getName session x.index) =
      ((u.found session).filterMap fun x => session[x.index]?).flatMap (sentLive getName) := by
  rw [ReaderThread.found]
  induction u.selected with
  | nil => rfl
  | cons x xs ih =>
    rw [List.flatMap_cons, ih, sentAt]
    by_cases hx : x.index < session.length
    · simp [hx]
    · simp [hx]

/-- **The player's screen.**  However the reader thread has played so far, its screen shows
for every command what the main screen showed after the rounds up to the one that was
selected last, and is as it was as long as none was. -/
theorem player_screen_is_live (session : List (ObdCommand → String)) (duration : Nat)
    (hfree : ∀ formatted ∈ session, ∀ c ∈ prepareCommands.all, SeparatorFree (formatted c))
    (hnames : NamesCommands commandNames getName) (path : String) (u : ReaderThread)
    (h : (ReaderThread.run getName (readFileToMemory (recorded getName path session) path)
      duration).Reachable u) (playerScreen mainScreen : Screen) :
    ∃ playerScreen',
      handleAll (VideoPlayerActivity.handleMessage commandNames) playerScreen u.world.sent =
        some playerScreen' ∧
      (u.found session = [] → playerScreen' = playerScreen) ∧
      ∀ x, (u.found session).getLast? = some x →
        x.index = ReaderThread.readingIndex session.length x.currentPosition duration ∧
        ∃ mainScreen',
          handleAll (MainActivity.handleMessage commandNames) mainScreen
              ((session.take (x.index + 1)).flatMap (sentLive getName)) = some mainScreen' ∧
          ∀ c ∈ prepareCommands.all, ∀ view, viewOf commandNames getName c = some view →
            playerScreen' view = mainScreen' view := by
  rw [readFileToMemory_eq getName path session hfree] at h
  have hshows := ReaderThread.shows_reachable getName session duration hfree u h
  have hsent := hshows.shown.trans (flatMap_sentAt getName session u)
  rcases List.eq_nil_or_concat (u.found session) with hnone | ⟨ys, x, hlast⟩
  · refine ⟨playerScreen, ?_, fun _ => rfl, fun x hx => ?_⟩
    · rw [hsent, hnone]
      rfl
    · rw [hnone] at hx
      cases hx
  · have hx : x ∈ u.found session := by simp [hlast]
    obtain ⟨hselected, hindex⟩ := List.mem_filter.mp hx
    have hk : x.index < session.length := of_decide_eq_true hindex
    rw [hlast, List.concat_eq_append, List.filterMap_append] at hsent
    obtain ⟨playerScreen', hplayer, hshown⟩ := handleAll_last commandNames getName hnames
      playerScreen (ys.filterMap fun y => session[y.index]?) session[x.index]
    obtain ⟨mainScreen', hmain, hlive⟩ := handleAll_last commandNames getName hnames
      mainScreen (session.take x.index) session[x.index]
    refine ⟨playerScreen', ?_, fun hnone => ?_, fun y hy => ?_⟩
    · have hround : [x].filterMap (fun y => session[y.index]?) = [session[x.index]] := by
        simp [List.getElem?_eq_getElem hk]
      rw [hsent, hround]
      exact hplayer
    · simp [hlast] at hnone
    · obtain rfl : x = y := by simpa [hlast] using hy
      refine ⟨hshows.chosen x hselected, mainScreen', ?_, fun c hc view hview => ?_⟩
      · rw [List.take_succ_eq_append_getElem hk]
        exact hmain
      · rw [hshown c hc view hview, hlive c hc view hview]

end Handlers

/-! ## The library's names -/

/-- The library's constants for the commands.  No id of the app is `THROTTLE_POS`. -/
def commandName : ObdCommand → CommandName
  | .distanceMILOnCommand => ⟨"Distance traveled with MIL on", "DISTANCE_TRAVELED_MIL_ON"⟩
  | .distanceSinceCCCommand =>
    ⟨"Distance since codes cleared", "DISTANCE_TRAVELED_AFTER_CODES_CLEARED"⟩
  | .dtcNumberCommand => ⟨"Diagnostic Trouble Codes", "DTC_NUMBER"⟩
  | .equivalentRatioCommand => ⟨"Command Equivalence Ratio", "EQUIV_RATIO"⟩
  | .ignitionMonitorCommand => ⟨"Ignition monitor", "IGNITION_MONITOR"⟩
  | .moduleVoltageCommand => ⟨"Control Module Power Supply ", "CONTROL_MODULE_VOLTAGE"⟩
  | .pendingTroubleCodesCommand => ⟨"Pending Trouble Codes", "PENDING_TROUBLE_CODES"⟩
  | .permanentTroubleCodesCommand => ⟨"Permanent Trouble Codes", "PERMANENT_TROUBLE_CODES"⟩
  | .timingAdvanceCommand => ⟨"Timing Advance", "TIMING_ADVANCE"⟩
  | .troubleCodesCommand => ⟨"Trouble Codes", "TROUBLE_CODES"⟩
  | .vinCommand => ⟨"Vehicle Identification Number (VIN)", "VIN"⟩
  | .speedCommand => ⟨"Vehicle Speed", "SPEED"⟩
  | .absoluteLoadCommand => ⟨"Absolute load", "ABS_LOAD"⟩
  | .loadCommand => ⟨"Engine Load", "ENGINE_LOAD"⟩
  | .massAirFlowCommand => ⟨"Mass Air Flow", "MAF"⟩
  | .oilTempCommand => ⟨"Engine oil temperature", "ENGINE_OIL_TEMP"⟩
  | .rpmCommand => ⟨"Engine RPM", "ENGINE_RPM"⟩
  | .runtimeCommand => ⟨"Engine Runtime", "ENGINE_RUNTIME"⟩
  | .throttlePositionCommand => ⟨"Throttle Position", "THROTTLE_POS"⟩
  | .airFuelRatioCommand => ⟨"Air/Fuel Ratio", "AIR_FUEL_RATIO"⟩
  | .consumptionRateCommand => ⟨"Fuel Consumption Rate", "FUEL_CONSUMPTION_RATE"⟩
  | .findFuelTypeCommand => ⟨"Fuel Type", "FUEL_TYPE"⟩
  | .fuelLevelCommand => ⟨"Fuel Level", "FUEL_LEVEL"⟩
  | .widebandAirFuelRatioCommand => ⟨"Wideband Air/Fuel Ratio", "WIDEBAND_AIR_FUEL_RATIO"⟩
  | .barometricPressureCommand => ⟨"Barometric Pressure", "BAROMETRIC_PRESSURE"⟩
  | .fuelPressureCommand => ⟨"Fuel Pressure", "FUEL_PRESSURE"⟩
  | .fuelRailPressureCommand => ⟨"Fuel Rail Pressure", "FUEL_RAIL_PRESSURE"⟩
  | .intakeManifoldPressureCommand => ⟨"Intake Manifold Pressure", "INTAKE_MANIFOLD_PRESSURE"⟩
  | .airIntakeTemperatureCommand => ⟨"Air Intake Temperature", "AIR_INTAKE_TEMP"⟩
  | .ambientAirTemperatureCommand => ⟨"Ambient Air Temperature", "AMBIENT_AIR_TEMP"⟩
  | .engineCoolantTemperatureCommand => ⟨"Engine Coolant Temperature", "ENGINE_COOLANT_TEMP"⟩

theorem namesCommands_commandName :
    NamesCommands (prepareCommands.all.map commandName) fun c => (commandName c).value := by
  intro c
  cases c <;> exact ⟨_, rfl, by decide⟩

/-- The second of two rounds is shown, and then the first. -/
theorem player_screen_jump :
    ∃ (u : ReaderThread) (playerScreen' mainScreen' : Screen),
      u.selected = [⟨900, 1⟩, ⟨100, 0⟩] ∧
      handleAll (VideoPlayerActivity.handleMessage (prepareCommands.all.map commandName))
          (fun _ => none) u.world.sent = some playerScreen' ∧
      handleAll (MainActivity.handleMessage (prepareCommands.all.map commandName))
          (fun _ => some "stale") (([fun _ => "1", fun _ => "2"].take (0 + 1)).flatMap
            (sentLive fun c => (commandName c).value)) = some mainScreen' ∧
      ∀ c ∈ prepareCommands.all, ∀ view,
        viewOf (prepareCommands.all.map commandName) (fun c => (commandName c).value) c =
          some view → playerScreen' view = mainScreen' view := by
  have hfree : ∀ formatted ∈ [fun _ : ObdCommand => "1", fun _ => "2"],
      ∀ c ∈ prepareCommands.all, SeparatorFree (formatted c) := by simp [SeparatorFree]
  obtain ⟨u, hu, -, hselected⟩ := ReaderThread.jump_reachUnder
    (fun c => (commandName c).value) (fun _ => "1") (fun _ => "2") hfree
  rw [← readFileToMemory_eq (fun c => (commandName c).value) "READINGS.txt" _ hfree] at hu
  obtain ⟨playerScreen', hplayer, -, hlast⟩ :=
    player_screen_is_live (prepareCommands.all.map commandName) (fun c => (commandName c).value)
      _ 1000 hfree namesCommands_commandName "READINGS.txt" u hu.reachable (fun _ => none)
      (fun _ => some "stale")
  obtain ⟨-, mainScreen', hmain, hviews⟩ :=
    hlast ⟨100, 0⟩ (by simp [ReaderThread.found, hselected])
  exact ⟨u, playerScreen', mainScreen', hselected, hplayer, hmain, hviews⟩

end ProjektMagisterski.Obd
