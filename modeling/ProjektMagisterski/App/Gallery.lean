import ProjektMagisterski.App.Playback
import ProjektMagisterski.Gallery.Listing

/-!
# From the gallery to the readings

The gallery opened after a run of the app, on a directory that holds anything else too.

* `gallery_replays`: its positions are the videos, and the player that a click opens
  replays the rounds that were sampled during the video.
-/

namespace ProjektMagisterski.App

open Camera Obd Gallery Lib Lib.Machine

/-- **The gallery.**  After every run that binds the readings to the recording, the gallery
lists the videos of the directory and nothing else, and a click on any of them opens the
player on its readings: what is replayed are the rounds sampled during that video, exactly
if no value of them holds a separator. -/
theorem gallery_replays (getName : ObdCommand → String) (targetDir : String)
    (files : FileSystem) (s : AppState)
    (h : (app targetDir files).ReachUnder (bindsReadings targetDir files) s)
    (hdir : Plain targetDir) (names : List String) (hnames : ∀ name ∈ names, FileName name) :
    ∃ mVideoList, getVideosFromStorage targetDir (some names) = some mVideoList ∧
      (∀ timeStamp, videoName timeStamp ∈ names →
        ∃ position, onItemClick mVideoList position = some (videoFile targetDir timeStamp)) ∧
      ∀ position mVideoPath, onItemClick mVideoList position = some mVideoPath →
        ∃ timeStamp, videoName timeStamp ∈ names ∧ mVideoPath = videoFile targetDir timeStamp ∧
          (Plain timeStamp → files.contents (readingsFile targetDir timeStamp) = none →
            files.writable (readingsFile targetDir timeStamp) = true →
            ((readFileToMemory s.files (mReadingsPath mVideoPath)).map (sentReplaying getName) =
                (s.roundsDuring mVideoPath).map
                  (fun formatted => some (sentLive getName formatted)) ↔
              ∀ formatted ∈ s.roundsDuring mVideoPath,
                ∀ c ∈ prepareCommands.all, SeparatorFree (formatted c))) := by
  have hlist := getVideosFromStorage_eq targetDir names hnames
  refine ⟨_, hlist, ?_, ?_⟩
  · intro timeStamp hname
    exact (onItemClick_iff hnames hlist _).2 ⟨timeStamp, hname, rfl⟩
  · intro position mVideoPath hclick
    obtain ⟨timeStamp, hname, rfl⟩ := (onItemClick_iff hnames hlist _).1 ⟨position, hclick⟩
    refine ⟨timeStamp, hname, rfl, fun hplain hnew hwritable => ?_⟩
    rw [mReadingsPath_videoFile hdir hplain]
    exact replays_iff getName targetDir files s timeStamp h hnew hwritable

/-- A directory with the video of two rounds, its readings, and a picture. -/
theorem gallery_replays_twoRounds :
    ∃ (s : AppState) (mVideoList : List String),
      getVideosFromStorage "/Movies" (some ["READINGS_20180611_101500.txt",
        "VIDEO_20180611_101500.mp4", "VIDEO_.jpg"]) = some mVideoList ∧
      s.roundsDuring (videoFile "/Movies" "20180611_101500") = [fun _ => "1", fun _ => "2"] ∧
      ∀ position mVideoPath, onItemClick mVideoList position = some mVideoPath →
        ∃ timeStamp, mVideoPath = videoFile "/Movies" timeStamp := by
  obtain ⟨s, hs, hrounds⟩ := roundsDuring_twoRounds "1" "2"
  obtain ⟨mVideoList, hlist, -, hclicks⟩ :=
    gallery_replays (fun _ => "Vehicle Speed") "/Movies" _ s hs (by decide)
      ["READINGS_20180611_101500.txt", "VIDEO_20180611_101500.mp4", "VIDEO_.jpg"] (by decide)
  refine ⟨s, mVideoList, hlist, hrounds, fun position mVideoPath hclick => ?_⟩
  obtain ⟨timeStamp, -, hpath, -⟩ := hclicks position mVideoPath hclick
  exact ⟨timeStamp, hpath⟩

end ProjektMagisterski.App
