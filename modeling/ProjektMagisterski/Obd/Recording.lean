import ProjektMagisterski.Lib.Delimited
import ProjektMagisterski.Obd.Model

/-!
# What a round records

`getFormattedResult` writes one line: the field of every command, each followed
by `;`.  The messages it sends carry the same fields, one message a command.
-/

namespace ProjektMagisterski.Obd

open Lib

/-! ## Texts as lists of characters -/

/-- Each field followed by `;`, as `getResultFromCommands` builds it. -/
def fieldsText : List String → String
  | [] => ""
  | f :: fs => f ++ ";" ++ fieldsText fs

theorem fieldsText_append (fs gs : List String) :
    fieldsText (fs ++ gs) = fieldsText fs ++ fieldsText gs := by
  induction fs with
  | nil => simp [fieldsText]
  | cons f fs ih => simp [fieldsText, ih, String.append_assoc]

theorem toList_fieldsText (fs : List String) :
    (fieldsText fs).toList = terminated ';' (fs.map String.toList) := by
  induction fs with
  | nil => rfl
  | cons f fs ih => simp [fieldsText, terminated, String.toList_append, ih]

theorem toList_linesText (ls : List String) :
    (linesText ls).toList = terminated '\n' (ls.map String.toList) := by
  induction ls with
  | nil => rfl
  | cons l ls ih => simp [linesText, terminated, String.toList_append, ih]

theorem linesText_append (ls ms : List String) :
    linesText (ls ++ ms) = linesText ls ++ linesText ms := by
  induction ls with
  | nil => simp [linesText]
  | cons l ls ih => simp [linesText, ih, String.append_assoc]

/-! ## Files that lines are appended to -/

/-- A file after lines were appended to it; no line leaves it as it was. -/
def appended (before : Option String) (lines : List String) : Option String :=
  if lines = [] then before else some (before.getD "" ++ linesText lines)

theorem appended_append (before : Option String) (ls ms : List String) :
    appended (appended before ls) ms = appended before (ls ++ ms) := by
  unfold appended
  by_cases hls : ls = []
  · simp [hls]
  · by_cases hms : ms = []
    · simp [hms, hls]
    · simp [hls, hms, linesText_append, String.append_assoc]

/-- `Files.write` appends to one file, and leaves all others alone. -/
theorem contents_write (fs : FileSystem) (path p : String) (lines : List String)
    (hne : lines ≠ []) :
    ((fs.write path lines).getD fs).contents p =
      if p = path ∧ fs.writable path = true then appended (fs.contents p) lines
      else fs.contents p := by
  unfold FileSystem.write appended
  by_cases hp : p = path
  · subst hp
    by_cases hw : fs.writable p = true <;> simp [hw, hne]
  · by_cases hw : fs.writable path = true <;> simp [hw, hp]

theorem writable_write (fs : FileSystem) (path : String) (lines : List String) :
    ((fs.write path lines).getD fs).writable = fs.writable := by
  unfold FileSystem.write
  split <;> rfl

/-! ## One round -/

/-- The fields of a round, in the order of the commands. -/
def fields (m : MyMultiOBDCommand) (formatted : ObdCommand → String) : List String :=
  m.all.map fun c => fieldOf (formatted c)

/-- The messages of a round, in the order of the commands. -/
def liveMessages (getName : ObdCommand → String) (m : MyMultiOBDCommand)
    (formatted : ObdCommand → String) : List Message :=
  m.all.map fun c => liveMessage getName (fieldOf (formatted c)) c

/-- The world after `writeReadings`: only the files change. -/
def World.written (w : World) (res : String) : World where
  ran := w.ran
  sent := w.sent
  mReadingsAbsolutePath := w.mReadingsAbsolutePath
  files :=
    match w.mReadingsAbsolutePath with
    | none => w.files
    | some path => (w.files.write path [res]).getD w.files

/-- The world before the first round, with the given readings path. -/
def World.fresh (path : Option String) : World where
  ran := []
  sent := []
  mReadingsAbsolutePath := path
  files := ⟨fun _ => none, fun _ => true⟩

@[simp] theorem run_writeReadings (res : String) (w : World) :
    (writeReadings res).run w = .ok () (w.written res) := by
  cases w with
  | mk ran sent path files =>
    cases path with
    | none => rfl
    | some path =>
      cases hw : files.write path [res] <;> simp [writeReadings, World.written, hw]

section Naming

variable (getName : ObdCommand → String) (formatted : ObdCommand → String)

@[simp] theorem run_getResultFromCommands (cs : List ObdCommand) (w : World) :
    (getResultFromCommands getName formatted cs).run w =
      .ok (fieldsText (cs.map fun c => fieldOf (formatted c)))
        { w with
          sent := w.sent ++ cs.map fun c => liveMessage getName (fieldOf (formatted c)) c } := by
  induction cs generalizing w with
  | nil => simp [getResultFromCommands, fieldsText]
  | cons c cs ih => simp [getResultFromCommands, sendMessage, ih, fieldsText, -bind_pure_comp]

/-- **One round.**  `getFormattedResult` returns and writes the line of the round,
and sends the messages of the round. -/
theorem run_getFormattedResult (m : MyMultiOBDCommand) (w : World) :
    (getFormattedResult getName m formatted).run w =
      .ok (fieldsText (fields m formatted))
        (({ w with sent := w.sent ++ liveMessages getName m formatted } : World).written
          (fieldsText (fields m formatted))) := by
  simp [getFormattedResult, fields, liveMessages, MyMultiOBDCommand.all, fieldsText_append,
    String.append_assoc, -bind_pure_comp]

end Naming

end ProjektMagisterski.Obd
