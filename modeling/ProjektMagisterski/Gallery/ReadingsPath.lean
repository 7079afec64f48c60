import Mathlib.Data.List.DropRight
import ProjektMagisterski.Camera.Model
import ProjektMagisterski.Lib.Replace

/-!
# From a video to its readings

The gallery lists the videos of a directory by a filter on their names, and the
player makes the path of the readings file out of the path of the video.

* `isVideo_getName`: the recorder's video passes the filter;
* `toList_mReadingsPath`: the player's path, with the directory rewritten as well;
* `player_opens_readings_iff`: it is the recorder's path exactly where the
  directory holds neither of the two words.
-/

namespace ProjektMagisterski.Gallery

open Lib Camera

/-! ## Java strings -/

/-- `String.replace` of a non-empty target. -/
def replace (s target replacement : String) : String :=
  String.ofList (replaceAll target.toList replacement.toList s.toList)

/-- `String.contains`. -/
def Contains (s target : String) : Prop := target.toList <:+: s.toList

instance (s target : String) : Decidable (Contains s target) :=
  inferInstanceAs (Decidable (target.toList <:+: s.toList))

/-- `split("/")`: trailing empty strings are dropped, and a string without a `/` is
returned whole. -/
def split (name : String) : List String :=
  if '/' ∈ name.toList then
    ((name.toList.splitOn '/').rdropWhile List.isEmpty).map String.ofList
  else [name]

/-- `File.getName`: what follows the last `/`. -/
def getName (path : String) : String := String.ofList (path.toList.rtakeWhile (· != '/'))

/-! ## The gallery and the player -/

/-- The filter of `getVideosFromStorage`; `none` where `absPath` is empty. -/
def isVideo (name : String) : Option Bool :=
  match (split name).getLast? with
  | none => none
  | some actualName =>
    some ("VIDEO_".toList.isPrefixOf actualName.toList &&
      ".mp4".toList.isSuffixOf actualName.toList)

/-- The readings path that `VideoPlayerActivity.onCreate` derives. -/
def mReadingsPath (mVideoPath : String) : String :=
  replace (replace mVideoPath "VIDEO" "READINGS") "mp4" "txt"

/-! ## The video in the gallery -/

theorem rtakeWhile_append_sep (c : Char) (xs ys : List Char) (h : c ∉ ys) :
    (xs ++ c :: ys).rtakeWhile (· != c) = ys := by
  have hys : ∀ a ∈ ys.reverse, (a != c) = true := by
    intro a ha
    have hne : a ≠ c := fun hac => h (hac ▸ List.mem_reverse.mp ha)
    simpa using hne
  rw [List.rtakeWhile, List.reverse_append, List.reverse_cons, List.append_assoc,
    List.takeWhile_append_of_pos hys]
  simp

/-- The recorder's video is `VIDEO_<timestamp>.mp4` in its directory. -/
theorem getName_videoFile (D T : String) (hT : '/' ∉ T.toList) :
    getName (videoFile D T) = "VIDEO_" ++ T ++ ".mp4" := by
  have hpath : (videoFile D T).toList = D.toList ++ '/' :: ("VIDEO_" ++ T ++ ".mp4").toList := by
    simp [videoFile, String.toList_append]
  have hname : '/' ∉ ("VIDEO_" ++ T ++ ".mp4").toList := by
    simp [String.toList_append, hT]
  rw [getName, hpath, rtakeWhile_append_sep _ _ _ hname, String.ofList_toList]

theorem isVideo_getName (D T : String) (hT : '/' ∉ T.toList) :
    isVideo (getName (videoFile D T)) = some true := by
  have hname : '/' ∉ ("VIDEO_" ++ T ++ ".mp4").toList := by
    simp [String.toList_append, hT]
  have hprefix : "VIDEO_".toList <+: ("VIDEO_" ++ T ++ ".mp4").toList := by
    rw [String.toList_append, String.toList_append, List.append_assoc]
    exact List.prefix_append _ _
  have hsuffix : ".mp4".toList <:+ ("VIDEO_" ++ T ++ ".mp4").toList := by
    rw [String.toList_append]
    exact List.suffix_append _ _
  rw [getName_videoFile D T hT, isVideo, split, if_neg hname]
  simp only [List.getLast?_singleton, List.isPrefixOf_iff_prefix.mpr hprefix,
    List.isSuffixOf_iff_suffix.mpr hsuffix, Bool.and_self]

/-! ## The derived path -/

theorem toList_replace (s target replacement : String) :
    (replace s target replacement).toList =
      replaceAll target.toList replacement.toList s.toList := by
  rw [replace, String.toList_ofList]

/-- A word without `/`, `_` and `.` cannot occur across these joints, so directory,
prefix, timestamp and extension are rewritten one by one. -/
theorem replaceAll_joints (p r d a t e : List Char) (hp : p ≠ []) (hslash : '/' ∉ p)
    (hlow : '_' ∉ p) (hdot : '.' ∉ p) :
    replaceAll p r (d ++ '/' :: (a ++ '_' :: (t ++ '.' :: e))) =
      replaceAll p r d ++
        '/' :: (replaceAll p r a ++ '_' :: (replaceAll p r t ++ '.' :: replaceAll p r e)) := by
  rw [replaceAll_append_sep p r hp hslash, replaceAll_append_sep p r hp hlow,
    replaceAll_append_sep p r hp hdot]

/-- The derived path is the recorder's, but for the directory. -/
theorem toList_mReadingsPath (D T : String) (hvideo : ¬ Contains T "VIDEO")
    (hmp4 : ¬ Contains T "mp4") :
    (mReadingsPath (videoFile D T)).toList =
      (replace (replace D "VIDEO" "READINGS") "mp4" "txt").toList ++
        ("/" ++ ("READINGS_" ++ T) ++ ".txt").toList := by
  have hpath : (videoFile D T).toList =
      D.toList ++ '/' :: ("VIDEO".toList ++ '_' :: (T.toList ++ '.' :: "mp4".toList)) := by
    simp [videoFile, String.toList_append]
  have hprefix : replaceAll "VIDEO".toList "READINGS".toList "VIDEO".toList =
      "READINGS".toList := by decide
  have hkept : replaceAll "VIDEO".toList "READINGS".toList "mp4".toList = "mp4".toList := by
    decide
  have hfirst : (replace (videoFile D T) "VIDEO" "READINGS").toList =
      (replace D "VIDEO" "READINGS").toList ++
        '/' :: ("READINGS".toList ++ '_' :: (T.toList ++ '.' :: "mp4".toList)) := by
    rw [toList_replace, toList_replace, hpath,
      replaceAll_joints _ _ _ _ _ _ (by decide) (by decide) (by decide) (by decide),
      replaceAll_eq_self _ _ _ hvideo, hprefix, hkept]
  have hprefix' : replaceAll "mp4".toList "txt".toList "READINGS".toList =
      "READINGS".toList := by decide
  have hextension : replaceAll "mp4".toList "txt".toList "mp4".toList = "txt".toList := by
    decide
  rw [mReadingsPath, toList_replace, hfirst, toList_replace (replace D _ _),
    replaceAll_joints _ _ _ _ _ _ (by decide) (by decide) (by decide) (by decide),
    replaceAll_eq_self _ _ _ hmp4, hprefix', hextension]
  simp [String.toList_append]

/-- Both replacements leave a directory alone exactly if neither word occurs in it:
the first one makes it longer, and the second one never makes up for that. -/
theorem replace_eq_self_iff (D : String) :
    replace (replace D "VIDEO" "READINGS") "mp4" "txt" = D ↔
      ¬ Contains D "VIDEO" ∧ ¬ Contains D "mp4" := by
  rw [← String.toList_inj, toList_replace, toList_replace]
  constructor
  · intro h
    have hvideo : ¬ Contains D "VIDEO" := by
      intro hocc
      have hlonger := lt_length_replaceAll "VIDEO".toList "READINGS".toList (by decide)
        (by decide) D.toList hocc
      have hsame := length_replaceAll_of_eq "mp4".toList "txt".toList (by decide) (by decide)
        (replaceAll "VIDEO".toList "READINGS".toList D.toList)
      rw [h] at hsame
      omega
    rw [replaceAll_eq_self _ _ _ hvideo] at h
    exact ⟨hvideo,
      (replaceAll_eq_self_iff _ _ (by decide) (by decide) (by decide) D.toList).mp h⟩
  · rintro ⟨hvideo, hmp4⟩
    rw [replaceAll_eq_self _ _ _ hvideo, replaceAll_eq_self _ _ _ hmp4]

theorem mReadingsPath_eq_iff (D T : String) (hvideo : ¬ Contains T "VIDEO")
    (hmp4 : ¬ Contains T "mp4") :
    mReadingsPath (videoFile D T) = readingsFile D T ↔
      ¬ Contains D "VIDEO" ∧ ¬ Contains D "mp4" := by
  have hfile : (readingsFile D T).toList =
      D.toList ++ ("/" ++ ("READINGS_" ++ T) ++ ".txt").toList := by
    simp [readingsFile, String.toList_append]
  rw [← replace_eq_self_iff, ← String.toList_inj, toList_mReadingsPath D T hvideo hmp4, hfile,
    List.append_left_inj, String.toList_inj]

/-- **The readings of a video.**  For a timestamp without the two words and without `/`,
the video that `getVideoFilePath` names is listed, and the path that the player derives
from it is the path that `createReadingsFileName` set, if and only if the directory
holds neither `VIDEO` nor `mp4`. -/
theorem player_opens_readings_iff (s : CameraFragment) (targetDir timeStamp : String)
    (hvideo : ¬ Contains timeStamp "VIDEO") (hmp4 : ¬ Contains timeStamp "mp4")
    (hslash : ¬ Contains timeStamp "/") :
    ((s.getVideoFilePath targetDir timeStamp).mVideoFilePath.map fun path =>
        isVideo (getName path)) = some (some true) ∧
      ((s.getVideoFilePath targetDir timeStamp).mVideoFilePath.map mReadingsPath =
          (s.getVideoFilePath targetDir timeStamp).mReadingsAbsolutePath ↔
        ¬ Contains targetDir "VIDEO" ∧ ¬ Contains targetDir "mp4") := by
  have hT : '/' ∉ timeStamp.toList := by
    intro h
    obtain ⟨xs, ys, hsplit⟩ := List.append_of_mem h
    exact hslash ⟨xs, ys, by simp [hsplit]⟩
  constructor
  · simp only [CameraFragment.getVideoFilePath, Option.map_some,
      isVideo_getName targetDir timeStamp hT]
  · rw [← mReadingsPath_eq_iff targetDir timeStamp hvideo hmp4]
    simp only [CameraFragment.getVideoFilePath, CameraFragment.createReadingsFileName,
      Option.map_some, Option.some.injEq]

theorem player_opens_readings_movies :
    ((({} : CameraFragment).getVideoFilePath "/Movies/ProjektMagisterski"
          "20180611_101500").mVideoFilePath.map fun path => isVideo (getName path)) =
        some (some true) ∧
      ((({} : CameraFragment).getVideoFilePath "/Movies/ProjektMagisterski"
            "20180611_101500").mVideoFilePath.map mReadingsPath =
          (({} : CameraFragment).getVideoFilePath "/Movies/ProjektMagisterski"
            "20180611_101500").mReadingsAbsolutePath ↔
        ¬ Contains "/Movies/ProjektMagisterski" "VIDEO" ∧
          ¬ Contains "/Movies/ProjektMagisterski" "mp4") :=
  player_opens_readings_iff {} "/Movies/ProjektMagisterski" "20180611_101500" (by decide)
    (by decide) (by decide)

end ProjektMagisterski.Gallery
