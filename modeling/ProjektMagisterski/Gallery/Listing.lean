import ProjektMagisterski.Gallery.ReadingsPath

/-!
# The gallery

`VideoGalleryActivity` lists the files of the video directory that its filter accepts,
and hands the path of the one that is clicked to the player.

* `isVideo_iff`: the filter accepts the names of the recorder and no others;
* `getVideosFromStorage_eq`: the list, for any directory;
* `onItemClick_iff`: the videos that a click hands to the player.
-/

namespace ProjektMagisterski.Gallery

open Camera

/-! ## The code -/

/-- `listFiles` with the filter, for the names in the directory; `none` where the filter
throws. -/
def listFiles : List String → Option (List String)
  | [] => some []
  | name :: names =>
    match isVideo name with
    | none => none
    | some accepted => (listFiles names).map fun files => if accepted then name :: files else files

/-- The absolute paths of the files.  `listFiles` returns null where there is no directory,
which `Arrays.asList` does not accept. -/
def getVideosFromStorage (path : String) (names : Option (List String)) : Option (List String) :=
  (names.bind listFiles).map fun files => files.map fun name => path ++ "/" ++ name

/-- The `path` of the intent for the player; `none` past the end of the list. -/
def onItemClick (mVideoList : List String) (position : Nat) : Option String := mVideoList[position]?

/-! ## The filter -/

/-- A name without a separator is one file name, as the directory gives it. -/
def FileName (name : String) : Prop := '/' ∉ name.toList

instance (name : String) : Decidable (FileName name) := inferInstanceAs (Decidable (_ ∉ _))

/-- The recorder's name for a video. -/
def videoName (timeStamp : String) : String := "VIDEO_" ++ timeStamp ++ ".mp4"

/-- A prefix and a suffix that cannot overlap leave something between them. -/
theorem between_iff {α : Type} {p q l : List α} (c : α) (hc : c ∉ q) :
    p ++ [c] <+: l ∧ q <:+ l ↔ ∃ m, l = p ++ [c] ++ m ++ q := by
  constructor
  · rintro ⟨⟨t, ht⟩, ⟨u, hu⟩⟩
    rcases List.append_eq_append_iff.1 (ht.trans hu.symm) with ⟨m, hm, -⟩ | ⟨x, hx, hq⟩
    · exact ⟨m, by rw [← hu, hm]⟩
    · rcases List.eq_nil_or_concat x with rfl | ⟨y, d, rfl⟩
      · exact ⟨[], by rw [← hu, hx]; simp⟩
      · rw [List.concat_eq_append, ← List.append_assoc] at hx
        obtain ⟨-, hd⟩ := List.append_inj' hx rfl
        cases hd
        exact absurd (hq ▸ by simp) hc
  · rintro ⟨m, rfl⟩
    exact ⟨⟨m ++ q, by simp⟩, ⟨p ++ [c] ++ m, rfl⟩⟩

/-- **The filter.**  It never throws on the names of a directory, and accepts the names
that the recorder gives. -/
theorem isVideo_iff (name : String) (hname : FileName name) :
    ∃ accepted, isVideo name = some accepted ∧
      (accepted = true ↔ ∃ timeStamp, name = videoName timeStamp) := by
  refine ⟨_, by rw [isVideo, split, if_neg hname]; rfl, ?_⟩
  have hsplit := between_iff (p := "VIDEO".toList) (q := ".mp4".toList)
    (l := name.toList) '_' (by decide)
  rw [Bool.and_eq_true, List.isPrefixOf_iff_prefix, List.isSuffixOf_iff_suffix]
  refine hsplit.trans ?_
  constructor
  · rintro ⟨m, hm⟩
    refine ⟨String.ofList m, ?_⟩
    rw [← String.toList_inj, hm]
    simp [videoName, String.toList_append]
  · rintro ⟨timeStamp, rfl⟩
    exact ⟨timeStamp.toList, by simp [videoName, String.toList_append]⟩

theorem isVideo_eq_some_true (name : String) (hname : FileName name) :
    isVideo name = some true ↔ ∃ timeStamp, name = videoName timeStamp := by
  obtain ⟨accepted, hvideo, haccepted⟩ := isVideo_iff name hname
  rw [hvideo, Option.some.injEq]
  exact haccepted

/-! ## The list -/

theorem listFiles_eq (names : List String) (hnames : ∀ name ∈ names, FileName name) :
    listFiles names = some (names.filter fun name => isVideo name = some true) := by
  induction names with
  | nil => rfl
  | cons name names ih =>
    obtain ⟨accepted, hvideo, -⟩ := isVideo_iff name (hnames name List.mem_cons_self)
    have ih := ih fun name hn => hnames name (List.mem_cons_of_mem _ hn)
    simp only [listFiles, hvideo, ih, Option.map_some]
    cases accepted with
    | true => simp [hvideo]
    | false => simp [hvideo]

theorem getVideosFromStorage_eq (path : String) (names : List String)
    (hnames : ∀ name ∈ names, FileName name) :
    getVideosFromStorage path (some names) =
      some ((names.filter fun name => isVideo name = some true).map fun name =>
        path ++ "/" ++ name) := by
  rw [getVideosFromStorage, Option.bind_some, listFiles_eq names hnames]
  rfl

theorem videoFile_eq (path timeStamp : String) :
    path ++ "/" ++ videoName timeStamp = videoFile path timeStamp := by
  rw [← String.toList_inj]
  simp [videoName, videoFile, String.toList_append]

/-- A click leads to the player with a video of the directory, and to each of them. -/
theorem onItemClick_iff {path : String} {names mVideoList : List String}
    (hnames : ∀ name ∈ names, FileName name)
    (hlist : getVideosFromStorage path (some names) = some mVideoList) (file : String) :
    (∃ position, onItemClick mVideoList position = some file) ↔
      ∃ timeStamp, videoName timeStamp ∈ names ∧ file = videoFile path timeStamp := by
  rw [getVideosFromStorage_eq path names hnames, Option.some.injEq] at hlist
  simp only [onItemClick, ← List.mem_iff_getElem?, ← hlist, List.mem_map, List.mem_filter,
    decide_eq_true_eq]
  constructor
  · rintro ⟨name, ⟨hname, hvideo⟩, rfl⟩
    obtain ⟨timeStamp, rfl⟩ := (isVideo_eq_some_true name (hnames name hname)).1 hvideo
    exact ⟨timeStamp, hname, videoFile_eq path timeStamp⟩
  · rintro ⟨timeStamp, hname, rfl⟩
    exact ⟨_, ⟨hname, (isVideo_eq_some_true _ (hnames _ hname)).2 ⟨timeStamp, rfl⟩⟩,
      videoFile_eq path timeStamp⟩

end ProjektMagisterski.Gallery
