import ProjektMagisterski.Obd.Recording

/-!
# Playing a recording back

`VideoPlayerActivity.readFileToMemory` reads the readings file line by line and
`MyMultiOBDCommand.parseReadings` replays one line.

* `readAll_eq_linesFrom`: the reading loop returns the lines of the text;
* `run_recordSession`: a session appends one line for each of its rounds;
* `parseReadings_line`: a line of separator-free values replays its round;
* `playback_inverse_iff`: recording and playback are inverse exactly on the
  sessions all of whose values are free of `;`, `\n` and `\r`.
-/

namespace ProjektMagisterski.Obd

open Lib

/-! ## Reading the file -/

/-- What a `BufferedReader` has still to read; `skipLF` after a carriage return. -/
structure BufferedReader where
  rest : List Char
  skipLF : Bool

/-- `BufferedReader.readLine`: the next line and the reader after it, `none` at the end. -/
def readLine (skipLF : Bool) : List Char → Option (List Char × BufferedReader)
  | [] => none
  | c :: rest =>
    if skipLF = true ∧ c = '\n' then readLine false rest
    else if c = '\n' then some ([], ⟨rest, false⟩)
    else if c = '\r' then some ([], ⟨rest, true⟩)
    else
      match readLine false rest with
      | none => some ([c], ⟨[], false⟩)
      | some (line, br) => some (c :: line, br)

theorem readLine_length (skipLF : Bool) (text line : List Char) (br : BufferedReader)
    (h : readLine skipLF text = some (line, br)) : br.rest.length < text.length := by
  induction text generalizing skipLF line br with
  | nil => simp [readLine] at h
  | cons c text ih =>
    simp only [readLine] at h
    split at h
    · have := ih false line br h
      simp only [List.length_cons]
      omega
    · split at h
      · simp only [Option.some.injEq, Prod.mk.injEq] at h
        simp [← h.2]
      · split at h
        · simp only [Option.some.injEq, Prod.mk.injEq] at h
          simp [← h.2]
        · split at h
          · simp only [Option.some.injEq, Prod.mk.injEq] at h
            simp [← h.2]
          · rename_i hrest
            simp only [Option.some.injEq, Prod.mk.injEq] at h
            obtain ⟨_, rfl⟩ := h
            have := ih false _ _ hrest
            simp only [List.length_cons]
            omega

/-- The loop of `readFileToMemory`: call `readLine` until it returns null. -/
def readAll (br : BufferedReader) : List String :=
  match _h : readLine br.skipLF br.rest with
  | none => []
  | some (line, br') => String.ofList line :: readAll br'
termination_by br.rest.length
decreasing_by exact readLine_length _ _ _ _ _h

/-- A missing file raises `FileNotFoundException`, which is only printed. -/
def readFileToMemory (fs : FileSystem) (mReadingsPath : String) : List String :=
  match fs.contents mReadingsPath with
  | none => []
  | some text => readAll ⟨text.toList, false⟩

/-- One call of `readLine` takes the first of the lines. -/
theorem linesFrom_readLine (skipLF : Bool) (text : List Char) :
    linesFrom '\n' '\r' skipLF text =
      match readLine skipLF text with
      | none => []
      | some (line, br) => line :: linesFrom '\n' '\r' br.skipLF br.rest := by
  induction text generalizing skipLF with
  | nil => rfl
  | cons c text ih =>
    simp only [linesFrom, readLine]
    split
    · exact ih false
    · split
      · rfl
      · split
        · rfl
        · rw [ih false]
          cases readLine false text <;> rfl

/-- The reading loop returns the lines of the text. -/
theorem readAll_eq_linesFrom (br : BufferedReader) :
    readAll br = (linesFrom '\n' '\r' br.skipLF br.rest).map String.ofList := by
  induction br using readAll.induct with
  | case1 br h =>
    rw [readAll, linesFrom_readLine]
    split <;> simp_all
  | case2 br line br' h ih =>
    rw [readAll, linesFrom_readLine]
    split <;> simp_all

/-! ## Splitting a line -/

/-- Java's `split(";")`: trailing empty strings are dropped, and a string without
a `;` is returned whole. -/
def split (readingsLine : String) : List String :=
  if ';' ∈ readingsLine.toList then
    ((readingsLine.toList.splitOn ';').rdropWhile List.isEmpty).map String.ofList
  else [readingsLine]

theorem mem_split {line v : String} (h : v ∈ split line) :
    ';' ∉ v.toList ∧ ∀ x ∈ v.toList, x ∈ line.toList := by
  unfold split at h
  split at h
  · obtain ⟨f, hf, rfl⟩ := List.mem_map.mp h
    rw [String.toList_ofList]
    exact mem_splitOn line.toList f ((List.rdropWhile_prefix _ _).subset hf)
  · rename_i hsep
    rw [List.mem_singleton.mp h]
    exact ⟨hsep, fun _ hx => hx⟩

theorem split_fieldsText (fs : List String) (hfs : fs ≠ []) (hne : ∀ f ∈ fs, f ≠ "")
    (hsep : ∀ f ∈ fs, ';' ∉ f.toList) : split (fieldsText fs) = fs := by
  have hmem : ';' ∈ (fieldsText fs).toList := by
    obtain ⟨f, fs, rfl⟩ := List.exists_cons_of_ne_nil hfs
    simp [fieldsText, String.toList_append]
  have hround : ((terminated ';' (fs.map String.toList)).splitOn ';').rdropWhile List.isEmpty =
      fs.map String.toList :=
    rdropWhile_splitOn_terminated _ (by simpa using hsep) (by simpa using hne)
  rw [split, if_pos hmem, toList_fieldsText, hround]
  simp

/-! ## Replaying a line -/

section Naming

variable (getName : ObdCommand → String)

/-- `parseReadings`, with the running offsets of the five lists. -/
def parseReadings (m : MyMultiOBDCommand) (readingsLine : String) : Java Unit := do
  let singleReadingLine := split readingsLine
  parseCommandsFromFile getName singleReadingLine 0 m.commandsControl
  parseCommandsFromFile getName singleReadingLine m.commandsControl.length m.commandsEngine
  parseCommandsFromFile getName singleReadingLine
    (m.commandsControl.length + m.commandsEngine.length) m.commandsFuel
  parseCommandsFromFile getName singleReadingLine
    (m.commandsControl.length + m.commandsEngine.length + m.commandsFuel.length)
    m.commandsPreassure
  parseCommandsFromFile getName singleReadingLine
    (m.commandsControl.length + m.commandsEngine.length + m.commandsFuel.length +
      m.commandsPreassure.length)
    m.commandsTemparature

/-- The player's constants are the recorder's. -/
theorem replayMessage_eq (value : String) (c : ObdCommand) :
    replayMessage getName value c = liveMessage getName value c := rfl

theorem parseCommandsFromFile_append (parts : List String) (i : Nat) (cs ds : List ObdCommand) :
    parseCommandsFromFile getName parts i (cs ++ ds) =
      (do parseCommandsFromFile getName parts i cs
          parseCommandsFromFile getName parts (i + cs.length) ds) := by
  induction cs generalizing i with
  | nil => simp [parseCommandsFromFile]
  | cons c cs ih =>
    cases hv : parts[i]? with
    | none =>
      simp only [List.cons_append, parseCommandsFromFile, hv]
      rfl
    | some v => simp [parseCommandsFromFile, hv, ih, Nat.add_assoc, Nat.add_comm 1]

/-- The five offsets make one pass over all commands. -/
theorem parseReadings_eq (m : MyMultiOBDCommand) (readingsLine : String) :
    parseReadings getName m readingsLine =
      parseCommandsFromFile getName (split readingsLine) 0 m.all := by
  simp only [parseReadings, MyMultiOBDCommand.all, parseCommandsFromFile_append, bind_assoc,
    List.length_append, Nat.zero_add]

/-- Where the line holds a field for every command, each is sent as a message. -/
theorem run_parseCommandsFromFile (g : ObdCommand → String) (parts rest : List String) (i : Nat)
    (cs : List ObdCommand) (w : World) (h : parts.drop i = cs.map g ++ rest) :
    (parseCommandsFromFile getName parts i cs).run w =
      .ok () { w with sent := w.sent ++ cs.map fun c => liveMessage getName (g c) c } := by
  induction cs generalizing i w with
  | nil => simp [parseCommandsFromFile]
  | cons c cs ih =>
    have hi : parts[i]? = some (g c) := by
      have := congrArg List.head? h
      simpa [List.head?_drop] using this
    have hdrop : parts.drop (i + 1) = cs.map g ++ rest := by
      have := congrArg List.tail h
      simpa [List.tail_drop] using this
    simp [parseCommandsFromFile, hi, sendMessage, ih (i + 1) _ hdrop, replayMessage_eq]

/-- Whatever is replayed without an exception was read from the line. -/
theorem sent_parseCommandsFromFile (parts : List String) (i : Nat) (cs : List ObdCommand)
    (w w' : World) (h : (parseCommandsFromFile getName parts i cs).run w = .ok () w') :
    ∃ sent, w'.sent = w.sent ++ sent ∧
      ∀ msg ∈ sent, ∃ v ∈ parts, ∃ c, msg = liveMessage getName v c := by
  induction cs generalizing i w with
  | nil =>
    simp only [parseCommandsFromFile, EStateM.run_pure, EStateM.Result.ok.injEq, true_and] at h
    exact ⟨[], by simp [h], by simp⟩
  | cons c cs ih =>
    cases hv : parts[i]? with
    | none => simp [parseCommandsFromFile, hv] at h
    | some v =>
      simp only [parseCommandsFromFile, hv, sendMessage, EStateM.run_bind, EStateM.run_modify] at h
      obtain ⟨sent, hsent, hall⟩ := ih _ _ h
      refine ⟨liveMessage getName v c :: sent, by simp [hsent, replayMessage_eq], ?_⟩
      intro msg hmsg
      rcases List.mem_cons.mp hmsg with rfl | hmsg
      · exact ⟨v, List.mem_of_getElem? hv, c, rfl⟩
      · exact hall msg hmsg

/-! ## A session -/

/-- The rounds of a session, each given by what the commands return. -/
def recordSession : List (ObdCommand → String) → Java Unit
  | [] => pure ()
  | formatted :: session => do
    let _ ← getFormattedResult getName prepareCommands formatted
    recordSession session

/-- The line that a round writes. -/
def lineOf (formatted : ObdCommand → String) : String :=
  fieldsText (fields prepareCommands formatted)

/-- A session appends one line for each of its rounds, in order. -/
theorem run_recordSession (session : List (ObdCommand → String)) (path : String) (w : World)
    (hpath : w.mReadingsAbsolutePath = some path) (hw : w.files.writable path = true) :
    ∃ w', (recordSession getName session).run w = .ok () w' ∧
      (w'.files.contents path).getD "" =
        (w.files.contents path).getD "" ++ linesText (session.map lineOf) := by
  induction session generalizing w with
  | nil => exact ⟨w, by simp [recordSession], by simp [linesText]⟩
  | cons formatted session ih =>
    have hrun := run_getFormattedResult getName formatted prepareCommands w
    generalize hw₁ : World.written _ _ = w₁ at hrun
    have hpath₁ : w₁.mReadingsAbsolutePath = some path := by rw [← hw₁, ← hpath]; rfl
    have hfiles₁ : w.files.write path [lineOf formatted] = some w₁.files := by
      rw [← hw₁]
      simp [World.written, hpath, FileSystem.write, hw, lineOf]
    simp only [FileSystem.write, hw, ↓reduceIte, Option.some.injEq] at hfiles₁
    obtain ⟨w', hrun', hcontents⟩ := ih w₁ hpath₁ (by rw [← hfiles₁]; exact hw)
    refine ⟨w', by simp [recordSession, hrun, hrun'], ?_⟩
    rw [hcontents, ← hfiles₁]
    simp [linesText, String.append_assoc]

/-- The files after a session recorded to `path`. -/
def recorded (path : String) (session : List (ObdCommand → String)) : FileSystem :=
  match (recordSession getName session).run (World.fresh (some path)) with
  | .ok _ w => w.files
  | .error _ w => w.files

/-- The messages that a round sends live. -/
def sentLive (formatted : ObdCommand → String) : List Message :=
  match (getFormattedResult getName prepareCommands formatted).run (World.fresh none) with
  | .ok _ w => w.sent
  | .error _ w => w.sent

/-- The messages that replaying a line sends; `none` if it throws. -/
def sentReplaying (readingsLine : String) : Option (List Message) :=
  match (parseReadings getName prepareCommands readingsLine).run (World.fresh none) with
  | .ok _ w => some w.sent
  | .error _ _ => none

theorem sentLive_eq (formatted : ObdCommand → String) :
    sentLive getName formatted = liveMessages getName prepareCommands formatted := by
  simp [sentLive, run_getFormattedResult, World.written, World.fresh]

theorem readFileToMemory_recorded (path : String) (session : List (ObdCommand → String)) :
    readFileToMemory (recorded getName path session) path =
      (linesFrom '\n' '\r' false (terminated '\n' ((session.map lineOf).map String.toList))).map
        String.ofList := by
  obtain ⟨w', hrun, hcontents⟩ :=
    run_recordSession getName session path (World.fresh (some path)) rfl rfl
  have htext : (w'.files.contents path).getD "" = linesText (session.map lineOf) := by
    simpa [World.fresh] using hcontents
  rw [← toList_linesText, ← htext, readFileToMemory, recorded, hrun]
  cases hc : w'.files.contents path with
  | none => simp [linesFrom]
  | some text => simp [readAll_eq_linesFrom]

/-! ## Inverse exactly on separator-free values -/

/-- None of the separators of the readings file occurs in `v`. -/
def SeparatorFree (v : String) : Prop :=
  ';' ∉ v.toList ∧ '\n' ∉ v.toList ∧ '\r' ∉ v.toList

theorem fieldOf_ne_empty (v : String) : fieldOf v ≠ "" := by
  unfold fieldOf
  split
  · decide
  · assumption

theorem separatorFree_fieldOf (v : String) : SeparatorFree (fieldOf v) ↔ SeparatorFree v := by
  unfold fieldOf
  split
  · rename_i h
    subst h
    exact ⟨fun _ => by simp [SeparatorFree], fun _ => by unfold SeparatorFree; decide⟩
  · rfl

/-- A line of separator-free values replays its round, in any world. -/
theorem run_parseReadings_lineOf (formatted : ObdCommand → String)
    (h : ∀ c ∈ prepareCommands.all, SeparatorFree (formatted c)) (w : World) :
    (parseReadings getName prepareCommands (lineOf formatted)).run w =
      .ok () { w with sent := w.sent ++ sentLive getName formatted } := by
  have hsplit : split (lineOf formatted) = fields prepareCommands formatted := by
    apply split_fieldsText
    · simp [fields, MyMultiOBDCommand.all, prepareCommands]
    · intro f hf
      obtain ⟨c, _, rfl⟩ := List.mem_map.mp hf
      exact fieldOf_ne_empty _
    · intro f hf
      obtain ⟨c, hc, rfl⟩ := List.mem_map.mp hf
      exact ((separatorFree_fieldOf _).mpr (h c hc)).1
  have hrun := run_parseCommandsFromFile getName (fun c => fieldOf (formatted c))
    (split (lineOf formatted)) [] 0 prepareCommands.all w
    (by rw [hsplit, fields]; simp)
  rw [parseReadings_eq, hrun, sentLive_eq, liveMessages]

/-- A line of separator-free values replays the messages of its round. -/
theorem sentReplaying_lineOf (formatted : ObdCommand → String)
    (h : ∀ c ∈ prepareCommands.all, SeparatorFree (formatted c)) :
    sentReplaying getName (lineOf formatted) = some (sentLive getName formatted) := by
  rw [sentReplaying, run_parseReadings_lineOf getName formatted h]
  simp [World.fresh]

/-- A line of separator-free values holds no line end. -/
theorem not_mem_lineOf (formatted : ObdCommand → String)
    (h : ∀ c ∈ prepareCommands.all, SeparatorFree (formatted c)) :
    '\n' ∉ (lineOf formatted).toList ∧ '\r' ∉ (lineOf formatted).toList := by
  have hmem : ∀ x, x ∈ (lineOf formatted).toList →
      x = ';' ∨ ∃ c ∈ prepareCommands.all, x ∈ (fieldOf (formatted c)).toList := by
    intro x hx
    rw [lineOf, toList_fieldsText] at hx
    rcases mem_terminated _ hx with hx | ⟨f, hf, hxf⟩
    · exact Or.inl hx
    · simp only [fields, List.map_map, List.mem_map] at hf
      obtain ⟨c, hc, rfl⟩ := hf
      exact Or.inr ⟨c, hc, hxf⟩
  constructor
  · intro hx
    rcases hmem _ hx with hx | ⟨c, hc, hx⟩
    · exact absurd hx (by decide)
    · exact ((separatorFree_fieldOf _).mpr (h c hc)).2.1 hx
  · intro hx
    rcases hmem _ hx with hx | ⟨c, hc, hx⟩
    · exact absurd hx (by decide)
    · exact ((separatorFree_fieldOf _).mpr (h c hc)).2.2 hx

/-- The file of separator-free values is read back line by line. -/
theorem readFileToMemory_eq (path : String) (session : List (ObdCommand → String))
    (h : ∀ formatted ∈ session, ∀ c ∈ prepareCommands.all, SeparatorFree (formatted c)) :
    readFileToMemory (recorded getName path session) path = session.map lineOf := by
  have hends : ∀ l ∈ (session.map lineOf).map String.toList, '\n' ∉ l ∧ '\r' ∉ l := by
    simp only [List.mem_map]
    rintro _ ⟨_, ⟨formatted, hf, rfl⟩, rfl⟩
    exact not_mem_lineOf formatted (h formatted hf)
  rw [readFileToMemory_recorded, linesFrom_terminated _ (fun l hl => (hends l hl).1)
    (fun l hl => (hends l hl).2)]
  simp

/-- What a replayed line sends is free of all separators. -/
theorem separatorFree_of_replayed (path : String) (session : List (ObdCommand → String))
    (line : String) (hline : line ∈ readFileToMemory (recorded getName path session) path)
    (formatted : ObdCommand → String)
    (hsent : sentReplaying getName line = some (sentLive getName formatted))
    (c : ObdCommand) (hc : c ∈ prepareCommands.all) : SeparatorFree (formatted c) := by
  rw [readFileToMemory_recorded] at hline
  obtain ⟨l, hl, rfl⟩ := List.mem_map.mp hline
  obtain ⟨hlf, hcr⟩ := mem_linesFrom _ _ l hl
  rw [sentReplaying, parseReadings_eq, sentLive_eq] at hsent
  split at hsent
  · rename_i w' hrun
    obtain ⟨sent, hw', hall⟩ := sent_parseCommandsFromFile getName _ _ _ _ _ hrun
    have hmsg : liveMessage getName (fieldOf (formatted c)) c ∈ sent := by
      have hsent' : sent = liveMessages getName prepareCommands formatted := by
        simpa [hw', World.fresh] using hsent
      rw [hsent']
      exact List.mem_map.mpr ⟨c, hc, rfl⟩
    obtain ⟨v, hv, d, heq⟩ := hall _ hmsg
    have hfv : fieldOf (formatted c) = v := by
      have := congrArg Message.data heq
      simp only [liveMessage, List.cons.injEq, Prod.mk.injEq, true_and] at this
      exact this.1
    obtain ⟨hsep, hsub⟩ := mem_split hv
    rw [String.toList_ofList] at hsub
    rw [← separatorFree_fieldOf, hfv]
    exact ⟨hsep, fun hx => hlf (hsub _ hx), fun hx => hcr (hsub _ hx)⟩
  · simp at hsent

/-- **Recording and playback.**  The file of a session is read back as exactly
one line a round, each of which replays without an exception the messages that
its round sent, if and only if no value of the session holds a separator. -/
theorem playback_inverse_iff (path : String) (session : List (ObdCommand → String)) :
    (readFileToMemory (recorded getName path session) path).map (sentReplaying getName) =
        session.map (fun formatted => some (sentLive getName formatted)) ↔
      ∀ formatted ∈ session, ∀ c ∈ prepareCommands.all, SeparatorFree (formatted c) := by
  constructor
  · intro h formatted hf
    have hmem : some (sentLive getName formatted) ∈
        (readFileToMemory (recorded getName path session) path).map (sentReplaying getName) := by
      rw [h]
      exact List.mem_map.mpr ⟨formatted, hf, rfl⟩
    obtain ⟨line, hline, hsent⟩ := List.mem_map.mp hmem
    exact separatorFree_of_replayed getName path session line hline formatted hsent
  · intro h
    rw [readFileToMemory_eq getName path session h, List.map_map]
    apply List.map_congr_left
    intro formatted hf
    exact sentReplaying_lineOf getName formatted (h formatted hf)

end Naming

end ProjektMagisterski.Obd
