import ProjektMagisterski.App.Recordings
import ProjektMagisterski.Gallery.ReadingsPath
import ProjektMagisterski.Obd.ReaderThread

/-!
# From a recording to its playback

A run of the app records a video and the readings of the rounds that were
sampled meanwhile; the player opens the video and derives the readings path
from the path of the video.

* `recordings_bound`: a readings file holds the rounds sampled during its video;
* `readFileToMemory_recording`: the player reads one line for each of these rounds;
* `replays_iff`: replaying these lines sends what the rounds sent live, exactly if their
  values hold no separator;
* `playback_recording_iff`: the same for the path that the player derives;
* `player_shows_recording`: the reader thread shows each of the rounds in its
  share of the video.
-/

namespace ProjektMagisterski.App

open Bluetooth Camera Obd Gallery Lib Lib.Machine

/-- The rounds that were appended while the video was recorded, in order. -/
def AppState.roundsDuring (s : AppState) (video : String) : List (ObdCommand → String) :=
  (s.appends.filter fun a => a.video = some video).map fun a => a.round.formatted

/-! ## Names of the recorded files -/

theorem videoFile_inj (targetDir : String) {timeStamp timeStamp' : String}
    (h : videoFile targetDir timeStamp = videoFile targetDir timeStamp') :
    timeStamp = timeStamp' := by
  rw [← String.toList_inj] at h ⊢
  simpa [videoFile, String.toList_append] using h

theorem readingsFile_inj (targetDir : String) {timeStamp timeStamp' : String}
    (h : readingsFile targetDir timeStamp = readingsFile targetDir timeStamp') :
    timeStamp = timeStamp' := by
  rw [← String.toList_inj] at h ⊢
  simpa [readingsFile, String.toList_append] using h

/-! ## The readings of a video -/

section Reading

variable {targetDir : String} {files : FileSystem} {s : AppState}

/-- Where appends are bound, the lines in a readings file are those of its video. -/
theorem linesAt_readingsFile (h : AppendsBound targetDir s) (timeStamp : String) :
    s.linesAt (readingsFile targetDir timeStamp) =
      (s.roundsDuring (videoFile targetDir timeStamp)).map lineOf := by
  have hfilter : (s.appends.filter fun a => a.path = readingsFile targetDir timeStamp) =
      s.appends.filter fun a => a.video = some (videoFile targetDir timeStamp) := by
    apply List.filter_congr
    intro a ha
    obtain ⟨timeStamp', hvideo, hpath⟩ := h a ha
    rw [hvideo, hpath, decide_eq_decide, Option.some.injEq]
    constructor
    · intro heq
      rw [readingsFile_inj targetDir heq]
    · intro heq
      rw [videoFile_inj targetDir heq]
  rw [AppState.linesAt, hfilter, AppState.roundsDuring, List.map_map]
  rfl

/-- A file that did not exist holds the lines appended to it. -/
theorem readFileToMemory_appended (fs : FileSystem) (path : String) (lines : List String)
    (h : fs.contents path = appended none lines) :
    readFileToMemory fs path =
      (linesFrom '\n' '\r' false (terminated '\n' (lines.map String.toList))).map
        String.ofList := by
  rw [readFileToMemory, h, appended]
  by_cases hlines : lines = []
  · simp [hlines, terminated, linesFrom]
  · simp [hlines, readAll_eq_linesFrom, toList_linesText]

theorem contents_readingsFile (timeStamp : String)
    (h : (app targetDir files).ReachUnder (bindsReadings targetDir files) s) :
    s.files.contents (readingsFile targetDir timeStamp) =
      if files.writable (readingsFile targetDir timeStamp) then
        appended (files.contents (readingsFile targetDir timeStamp))
          ((s.roundsDuring (videoFile targetDir timeStamp)).map lineOf)
      else files.contents (readingsFile targetDir timeStamp) := by
  rw [(accounted_reachable targetDir files s h.reachable).contents,
    linesAt_readingsFile (appendsBound_reachUnder targetDir files s h)]

/-- **Recordings and their readings.**  In the runs that bind the readings file to the
recording, every line was appended while the video of its file was recorded, and a readings
file has gained the lines of exactly the rounds sampled during its video, in order. -/
theorem recordings_bound (targetDir : String) (files : FileSystem) (s : AppState)
    (h : (app targetDir files).ReachUnder (bindsReadings targetDir files) s) :
    AppendsBound targetDir s ∧
      ∀ timeStamp, s.files.contents (readingsFile targetDir timeStamp) =
        if files.writable (readingsFile targetDir timeStamp) then
          appended (files.contents (readingsFile targetDir timeStamp))
            ((s.roundsDuring (videoFile targetDir timeStamp)).map lineOf)
        else files.contents (readingsFile targetDir timeStamp) :=
  ⟨appendsBound_reachUnder targetDir files s h, fun timeStamp => contents_readingsFile timeStamp h⟩

theorem recordings_bound_oneRound :
    ∃ s : AppState, s.appends.length = 1 ∧ AppendsBound "/Movies" s :=
  ⟨_, rfl, (recordings_bound "/Movies" ⟨fun _ => none, fun _ => true⟩ _
    (reachUnder_of_execUnder (oneRound "20180611_101500" "1") rfl)).1⟩

/-- **What the player reads** is what a session of the same rounds would have recorded. -/
theorem readFileToMemory_recording (getName : ObdCommand → String) (timeStamp : String)
    (h : (app targetDir files).ReachUnder (bindsReadings targetDir files) s)
    (hnew : files.contents (readingsFile targetDir timeStamp) = none)
    (hwritable : files.writable (readingsFile targetDir timeStamp) = true) :
    readFileToMemory s.files (readingsFile targetDir timeStamp) =
      readFileToMemory
        (recorded getName "READINGS.txt" (s.roundsDuring (videoFile targetDir timeStamp)))
        "READINGS.txt" := by
  have hcontents := contents_readingsFile timeStamp h
  rw [hwritable, if_pos rfl, hnew] at hcontents
  rw [readFileToMemory_appended _ _ _ hcontents, readFileToMemory_recorded]

end Reading

/-! ## Playback -/

/-- A timestamp or a directory that the player's replacements leave alone. -/
def Plain (s : String) : Prop := ¬ Contains s "VIDEO" ∧ ¬ Contains s "mp4"

instance (s : String) : Decidable (Plain s) := inferInstanceAs (Decidable (_ ∧ _))

/-- The player opens the readings file of the video. -/
theorem mReadingsPath_videoFile {targetDir timeStamp : String} (hdir : Plain targetDir)
    (hplain : Plain timeStamp) :
    mReadingsPath (videoFile targetDir timeStamp) = readingsFile targetDir timeStamp :=
  (mReadingsPath_eq_iff targetDir timeStamp hplain.1 hplain.2).mpr hdir

section Player

variable (getName : ObdCommand → String) (targetDir : String) (files : FileSystem)

/-- The lines of a readings file are replayed as its rounds were sent. -/
theorem replays_iff (s : AppState) (timeStamp : String)
    (h : (app targetDir files).ReachUnder (bindsReadings targetDir files) s)
    (hnew : files.contents (readingsFile targetDir timeStamp) = none)
    (hwritable : files.writable (readingsFile targetDir timeStamp) = true) :
    (readFileToMemory s.files (readingsFile targetDir timeStamp)).map (sentReplaying getName) =
        (s.roundsDuring (videoFile targetDir timeStamp)).map
          (fun formatted => some (sentLive getName formatted)) ↔
      ∀ formatted ∈ s.roundsDuring (videoFile targetDir timeStamp),
        ∀ c ∈ prepareCommands.all, SeparatorFree (formatted c) := by
  rw [readFileToMemory_recording getName timeStamp h hnew hwritable]
  constructor
  · intro hsent formatted hf
    have hmem : some (sentLive getName formatted) ∈
        (s.roundsDuring (videoFile targetDir timeStamp)).map
          fun formatted => some (sentLive getName formatted) :=
      List.mem_map.mpr ⟨formatted, hf, rfl⟩
    rw [← hsent] at hmem
    obtain ⟨line, hline, hreplayed⟩ := List.mem_map.mp hmem
    exact separatorFree_of_replayed getName _ _ line hline formatted hreplayed
  · intro hfree
    rw [readFileToMemory_eq getName _ _ hfree, List.map_map]
    apply List.map_congr_left
    intro formatted hf
    exact sentReplaying_lineOf getName formatted (hfree formatted hf)

/-- **From sampling to replaying.**  The player opened on a video replays the rounds that
were sampled while it was recorded, exactly if no value of them holds a separator. -/
theorem playback_recording_iff (s : AppState) (timeStamp : String)
    (h : (app targetDir files).ReachUnder (bindsReadings targetDir files) s)
    (hvideo : ¬ Contains targetDir "VIDEO" ∧ ¬ Contains timeStamp "VIDEO")
    (hmp4 : ¬ Contains targetDir "mp4" ∧ ¬ Contains timeStamp "mp4")
    (hnew : files.contents (readingsFile targetDir timeStamp) = none)
    (hwritable : files.writable (readingsFile targetDir timeStamp) = true) :
    (readFileToMemory s.files (mReadingsPath (videoFile targetDir timeStamp))).map
          (sentReplaying getName) =
        (s.roundsDuring (videoFile targetDir timeStamp)).map
          (fun formatted => some (sentLive getName formatted)) ↔
      ∀ formatted ∈ s.roundsDuring (videoFile targetDir timeStamp),
        ∀ c ∈ prepareCommands.all, SeparatorFree (formatted c) := by
  rw [mReadingsPath_videoFile ⟨hvideo.1, hmp4.1⟩ ⟨hvideo.2, hmp4.2⟩]
  exact replays_iff getName targetDir files s timeStamp h hnew hwritable

/-- **From sampling to the screen.**  Over the video of a recording, the reader thread shows
the rounds that were sampled during the recording, each in its share of the video. -/
theorem player_shows_recording (s : AppState) (timeStamp : String) (duration : Nat)
    (u : ReaderThread)
    (h : (app targetDir files).ReachUnder (bindsReadings targetDir files) s)
    (hdir : Plain targetDir) (hplain : Plain timeStamp)
    (hnew : files.contents (readingsFile targetDir timeStamp) = none)
    (hwritable : files.writable (readingsFile targetDir timeStamp) = true)
    (hfree : ∀ formatted ∈ s.roundsDuring (videoFile targetDir timeStamp),
      ∀ c ∈ prepareCommands.all, SeparatorFree (formatted c))
    (hrounds : 0 < (s.roundsDuring (videoFile targetDir timeStamp)).length)
    (hsize : (s.roundsDuring (videoFile targetDir timeStamp)).length ≤ 2 ^ 24)
    (hd : duration ≤ 2 ^ 24)
    (hu : (ReaderThread.run getName
        (readFileToMemory s.files (mReadingsPath (videoFile targetDir timeStamp)))
        duration).ReachUnder (fun _ tick => tick.currentPosition < duration) u) :
    ReaderThread.ShowsRounds getName (s.roundsDuring (videoFile targetDir timeStamp))
      duration u := by
  rw [mReadingsPath_videoFile hdir hplain,
    readFileToMemory_recording getName timeStamp h hnew hwritable,
    readFileToMemory_eq getName _ _ hfree] at hu
  exact ReaderThread.showsRounds_reachUnder getName _ duration hfree hrounds hsize hd u hu

end Player

/-! ## Two rounds -/

theorem roundsDuring_twoRounds (first second : String) :
    ∃ s, (app "/Movies" ⟨fun _ => none, fun _ => true⟩).ReachUnder
        (bindsReadings "/Movies" ⟨fun _ => none, fun _ => true⟩) s ∧
      s.roundsDuring (videoFile "/Movies" "20180611_101500") =
        [fun _ => first, fun _ => second] := by
  refine ⟨_, reachUnder_of_execUnder (twoRounds "20180611_101500" first second) rfl, ?_⟩
  rw [AppState.roundsDuring, List.filter_eq_self.mpr]
  · rfl
  · intro a ha
    rcases List.mem_pair.mp ha with rfl | rfl
    · exact decide_eq_true rfl
    · exact decide_eq_true rfl

theorem playback_twoRounds :
    ∃ s : AppState,
      ((readFileToMemory s.files (mReadingsPath (videoFile "/Movies" "20180611_101500"))).map
          (sentReplaying fun _ => "Vehicle Speed") =
        (s.roundsDuring (videoFile "/Movies" "20180611_101500")).map
          (fun formatted => some (sentLive (fun _ => "Vehicle Speed") formatted)) ↔
      ∀ formatted ∈ s.roundsDuring (videoFile "/Movies" "20180611_101500"),
        ∀ c ∈ prepareCommands.all, SeparatorFree (formatted c)) ∧
      s.roundsDuring (videoFile "/Movies" "20180611_101500") = [fun _ => "1", fun _ => "2"] := by
  obtain ⟨s, hs, hrounds⟩ := roundsDuring_twoRounds "1" "2"
  exact ⟨s, playback_recording_iff _ _ _ s _ hs (by decide) (by decide) rfl rfl, hrounds⟩

/-- The second round is shown before the first, at positions in their halves of a second. -/
theorem player_shows_twoRounds :
    ∃ (s : AppState) (u : ReaderThread), u.selected = [⟨900, 1⟩, ⟨100, 0⟩] ∧
      ReaderThread.ShowsRounds (fun _ => "Vehicle Speed")
        (s.roundsDuring (videoFile "/Movies" "20180611_101500")) 1000 u := by
  obtain ⟨s, hs, hrounds⟩ := roundsDuring_twoRounds "1" "2"
  have hfree : ∀ formatted ∈ s.roundsDuring (videoFile "/Movies" "20180611_101500"),
      ∀ c ∈ prepareCommands.all, SeparatorFree (formatted c) := by
    simp [hrounds, SeparatorFree]
  obtain ⟨u, hu, -, hselected⟩ := ReaderThread.jump_reachUnder (fun _ => "Vehicle Speed")
    (fun _ => "1") (fun _ => "2") (hrounds ▸ hfree)
  have hlines : readFileToMemory s.files (mReadingsPath (videoFile "/Movies" "20180611_101500")) =
      [fun _ => "1", fun _ => "2"].map lineOf := by
    rw [mReadingsPath_videoFile (by decide) (by decide),
      readFileToMemory_recording (fun _ => "Vehicle Speed") _ hs rfl rfl,
      readFileToMemory_eq _ _ _ hfree, hrounds]
  rw [← hlines] at hu
  exact ⟨s, u, hselected, player_shows_recording _ "/Movies" _ s _ 1000 u hs (by decide)
    (by decide) rfl rfl hfree (by simp [hrounds]) (by simp [hrounds]) (by decide) hu⟩

end ProjektMagisterski.App
