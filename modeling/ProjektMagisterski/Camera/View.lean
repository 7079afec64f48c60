import ProjektMagisterski.Camera.PreviewSize

/-!
# The preview on the screen

`openCamera` chooses the size of the video and of its preview, and hands the ratio of
the preview to the `AutoFitTextureView`, which measures itself by it.

* `chooseVideoSize_eq_some`: the video has the first narrow 4:3 size, or else the last;
* `chooseOptimalSize_eq_some`: the preview has the optimal size, or else the first;
* `onMeasure_inscribed`: the view is the largest rectangle of the ratio in the space;
* `preview_inscribed`: the three together.
-/

namespace ProjektMagisterski.Camera

/-! ## The code -/

/-- `none` for the exception of `choices[choices.length - 1]`. -/
def chooseVideoSize (choices : List Size) : Option Size :=
  match choices.find? fun size => size.width = size.height * 4 / 3 ∧ size.width ≤ 1080 with
  | some size => some size
  | none => choices.getLast?

structure AutoFitTextureView where
  mRatioWidth : Int32 := 0
  mRatioHeight : Int32 := 0
  deriving DecidableEq, Repr

namespace AutoFitTextureView

/-- `none` for the `IllegalArgumentException`. -/
def setAspectRatio (width height : Int32) : Option AutoFitTextureView :=
  if width < 0 ∨ height < 0 then none else some ⟨width, height⟩

/-- The dimension that `onMeasure` sets, for the sizes of its two specs. -/
def onMeasure (view : AutoFitTextureView) (width height : Int32) : Size :=
  if 0 = view.mRatioWidth ∨ 0 = view.mRatioHeight then ⟨width, height⟩
  else if width < height * view.mRatioWidth / view.mRatioHeight then
    ⟨width, width * view.mRatioHeight / view.mRatioWidth⟩
  else ⟨height * view.mRatioWidth / view.mRatioHeight, height⟩

end AutoFitTextureView

/-- `Configuration.orientation`. -/
inductive Orientation where
  | undefined | portrait | landscape | square
  deriving DecidableEq, Repr

/-- What `openCamera` sets before it opens the camera. -/
structure Preview where
  mVideoSize : Size
  mPreviewSize : Size
  mTextureView : AutoFitTextureView
  deriving DecidableEq, Repr

/-- The sizes of `openCamera`, from the output sizes of `MediaRecorder` and of
`SurfaceTexture`; `none` where it throws. -/
def preparePreview (recorderSizes textureSizes : List Size) (width height : Int32)
    (orientation : Orientation) : Option Preview := do
  let mVideoSize ← chooseVideoSize recorderSizes
  let mPreviewSize ← chooseOptimalSize textureSizes width height mVideoSize
  let mTextureView ←
    if orientation = .landscape then
      AutoFitTextureView.setAspectRatio mPreviewSize.width mPreviewSize.height
    else AutoFitTextureView.setAspectRatio mPreviewSize.height mPreviewSize.width
  return { mVideoSize, mPreviewSize, mTextureView }

/-! ## Exact quotients -/

/-- `int` arithmetic is exact in a quotient of a product that fits. -/
theorem toInt_mul_div {a b c : Int32} (ha : 0 ≤ a.toInt) (hb : 0 ≤ b.toInt) (hc : 0 < c.toInt)
    (hfits : a.toInt * b.toInt < 2 ^ 31) :
    (a * b / c).toInt = a.toInt * b.toInt / c.toInt := by
  have hpos : 0 ≤ a.toInt * b.toInt := Int.mul_nonneg ha hb
  have hprod : (a * b).toInt = a.toInt * b.toInt := by
    rw [Int32.toInt_mul]
    exact Int.bmod_eq_of_le (by omega) (by omega)
  have hne : c ≠ -1 := by
    intro h
    rw [h] at hc
    exact absurd hc (by decide)
  rw [Int32.toInt_div_of_ne_right _ _ hne, hprod, Int.tdiv_eq_ediv_of_nonneg hpos]

/-! ## The size of the video -/

/-- 4:3 with the floor of the quotient, and not wide. -/
def NarrowFourByThree (size : Size) : Prop :=
  size.width.toInt = size.height.toInt * 4 / 3 ∧ size.width.toInt ≤ 1080

instance (size : Size) : Decidable (NarrowFourByThree size) :=
  inferInstanceAs (Decidable (_ ∧ _))

/-- The first narrow 4:3 size, or the last size where there is none. -/
def VideoSize (choices : List Size) (video : Size) : Prop :=
  (∃ before after, choices = before ++ video :: after ∧ NarrowFourByThree video ∧
      ∀ size ∈ before, ¬ NarrowFourByThree size) ∨
    (∃ before, choices = before ++ [video]) ∧ ∀ size ∈ choices, ¬ NarrowFourByThree size

/-- What `chooseVideoSize` may expect. -/
def Recordable (choices : List Size) : Prop :=
  ∀ size ∈ choices, 0 < size.height ∧ size.height.toInt * 4 < 2 ^ 31

instance (choices : List Size) : Decidable (Recordable choices) :=
  inferInstanceAs (Decidable (∀ size ∈ choices, _))

theorem narrow_iff (size : Size) (hpos : 0 < size.height)
    (hfits : size.height.toInt * 4 < 2 ^ 31) :
    (size.width = size.height * 4 / 3 ∧ size.width ≤ 1080) ↔ NarrowFourByThree size := by
  have hh : 0 < size.height.toInt := Int32.lt_iff_toInt_lt.mp hpos
  have hquot : (size.height * 4 / 3).toInt = size.height.toInt * 4 / 3 :=
    toInt_mul_div (Int.le_of_lt hh) (by decide) (by decide) hfits
  rw [← Int32.toInt_inj, hquot, Int32.le_iff_toInt_le]
  exact Iff.rfl

theorem chooseVideoSize_eq_some {choices : List Size} (hrec : Recordable choices) (video : Size) :
    chooseVideoSize choices = some video ↔ VideoSize choices video := by
  have hnarrow : ∀ size ∈ choices,
      decide (size.width = size.height * 4 / 3 ∧ size.width ≤ 1080) = true ↔
        NarrowFourByThree size :=
    fun size hs => decide_eq_true_iff.trans (narrow_iff size (hrec size hs).1 (hrec size hs).2)
  have hfirst : ∀ size, choices.find?
        (fun size => size.width = size.height * 4 / 3 ∧ size.width ≤ 1080) = some size ↔
      ∃ before after, choices = before ++ size :: after ∧ NarrowFourByThree size ∧
        ∀ other ∈ before, ¬ NarrowFourByThree other := by
    intro size
    rw [List.find?_eq_some_iff_append]
    constructor
    · rintro ⟨hsize, before, after, rfl, hbefore⟩
      refine ⟨before, after, rfl, (hnarrow _ (by simp)).1 hsize, fun other ho hother => ?_⟩
      have hfalse := hbefore other ho
      rw [(hnarrow other (by simp [ho])).2 hother] at hfalse
      cases hfalse
    · rintro ⟨before, after, rfl, hsize, hbefore⟩
      refine ⟨(hnarrow _ (by simp)).2 hsize, before, after, rfl, fun other ho => ?_⟩
      rw [Bool.not_eq_true', Bool.eq_false_iff]
      exact fun htrue => hbefore other ho ((hnarrow other (by simp [ho])).1 htrue)
  have hnone : choices.find?
        (fun size => size.width = size.height * 4 / 3 ∧ size.width ≤ 1080) = none ↔
      ∀ size ∈ choices, ¬ NarrowFourByThree size := by
    rw [List.find?_eq_none]
    exact forall₂_congr fun size hs => not_congr (hnarrow size hs)
  unfold chooseVideoSize
  constructor
  · intro h
    split at h
    · rename_i size hsize
      cases h
      exact Or.inl ((hfirst _).1 hsize)
    · rename_i hsize
      exact Or.inr ⟨List.getLast?_eq_some_iff.mp h, hnone.1 hsize⟩
  · rintro (h | ⟨hlast, h⟩)
    · rw [(hfirst video).2 h]
    · rw [hnone.2 h]
      exact List.getLast?_eq_some_iff.mpr hlast

theorem chooseVideoSize_eq_none_iff (choices : List Size) :
    chooseVideoSize choices = none ↔ choices = [] := by
  unfold chooseVideoSize
  split
  · rename_i size hsize
    have hmem := List.mem_of_find?_eq_some hsize
    simp [List.ne_nil_of_mem hmem]
  · exact List.getLast?_eq_none_iff

/-! ## The size of the preview -/

/-- `Suitable`, with or without an option of the aspect. -/
structure Sized (choices : List Size) (aspectRatio : Size) : Prop where
  positive : ∀ option ∈ choices, 0 < option.width ∧ 0 < option.height
  aspect : 0 < aspectRatio.width ∧ 0 < aspectRatio.height
  fits : ∀ option ∈ choices, option.width.toInt * aspectRatio.height.toInt < 2 ^ 31

/-- The optimal size, or the first size where none has the aspect. -/
structure PreviewSize (choices : List Size) (vw vh : Int32) (aspectRatio s : Size) : Prop where
  optimal : (∃ option ∈ choices, Matching aspectRatio option) →
    Optimal choices vw vh aspectRatio s
  first : (¬ ∃ option ∈ choices, Matching aspectRatio option) → choices.head? = some s

theorem Sized.suitable {choices : List Size} {aspectRatio : Size} (h : Sized choices aspectRatio)
    (hmatch : ∃ option ∈ choices, Matching aspectRatio option) : Suitable choices aspectRatio :=
  ⟨h.positive, h.aspect, h.fits, hmatch⟩

theorem chooseOptimalSize_first {choices : List Size} {aspectRatio : Size}
    (h : Sized choices aspectRatio) (vw vh : Int32)
    (hnone : ¬ ∃ option ∈ choices, Matching aspectRatio option) :
    chooseOptimalSize choices vw vh aspectRatio = choices.head? := by
  have hnomatch : ∀ option ∈ choices, ¬ Matching aspectRatio option :=
    fun option ho hom => hnone ⟨option, ho, hom⟩
  have hbig : choices.filter (fun o => Matching aspectRatio o ∧ Covers vw vh o) = [] := by
    rw [List.filter_eq_nil_iff]
    intro option ho
    simp [hnomatch option ho]
  have hnot : choices.filter (fun o => Matching aspectRatio o ∧ ¬ Covers vw vh o) = [] := by
    rw [List.filter_eq_nil_iff]
    intro option ho
    simp [hnomatch option ho]
  have hloop := collect_eq vw vh aspectRatio h.aspect choices [] []
    (fun option ho => (h.positive option ho).1) h.fits
  rw [hbig, hnot] at hloop
  rw [chooseOptimalSize, hloop]
  rfl

theorem chooseOptimalSize_eq_some {choices : List Size} {aspectRatio : Size}
    (h : Sized choices aspectRatio) (vw vh : Int32) (s : Size) :
    chooseOptimalSize choices vw vh aspectRatio = some s ↔
      PreviewSize choices vw vh aspectRatio s := by
  by_cases hmatch : ∃ option ∈ choices, Matching aspectRatio option
  · obtain ⟨best, hbest, hoptimal⟩ :=
      chooseOptimalSize_spec choices vw vh aspectRatio (h.suitable hmatch)
    rw [hbest, Option.some.injEq]
    constructor
    · rintro rfl
      exact ⟨fun _ => hoptimal, fun hnone => absurd hmatch hnone⟩
    · intro hs
      exact hoptimal.unique (fun _ => Iff.rfl) (hs.optimal hmatch)
  · rw [chooseOptimalSize_first h vw vh hmatch]
    exact ⟨fun hs => ⟨fun hsome => absurd hsome hmatch, fun _ => hs⟩, fun hs => hs.first hmatch⟩

theorem chooseOptimalSize_eq_none_iff {choices : List Size} {aspectRatio : Size}
    (h : Sized choices aspectRatio) (vw vh : Int32) :
    chooseOptimalSize choices vw vh aspectRatio = none ↔ choices = [] := by
  by_cases hmatch : ∃ option ∈ choices, Matching aspectRatio option
  · obtain ⟨best, hbest, -⟩ :=
      chooseOptimalSize_spec choices vw vh aspectRatio (h.suitable hmatch)
    obtain ⟨option, ho, -⟩ := hmatch
    simp [hbest, List.ne_nil_of_mem ho]
  · rw [chooseOptimalSize_first h vw vh hmatch, List.head?_eq_none_iff]

theorem PreviewSize.mem {choices : List Size} {vw vh : Int32} {aspectRatio s : Size}
    (hs : PreviewSize choices vw vh aspectRatio s) : s ∈ choices := by
  by_cases hmatch : ∃ option ∈ choices, Matching aspectRatio option
  · exact (hs.optimal hmatch).mem
  · exact List.mem_of_head? (hs.first hmatch)

/-! ## The size of the view -/

/-- **What `onMeasure` is for.**  The largest rectangle of a ratio in the available space:
it touches both sides of one direction, and misses the ratio by less than a pixel. -/
structure Inscribed (ratioWidth ratioHeight availableWidth availableHeight w h : Int) : Prop where
  fits : w ≤ availableWidth ∧ h ≤ availableHeight
  touches : w = availableWidth ∨ h = availableHeight
  undistorted : w * ratioHeight < (h + 1) * ratioWidth ∧ h * ratioWidth < (w + 1) * ratioHeight
  largest : ∀ w' h', w' * ratioHeight = h' * ratioWidth → w' ≤ availableWidth →
    h' ≤ availableHeight → w' ≤ w ∧ h' ≤ h

/-- The rectangle of the full width, where its height fits. -/
theorem inscribed_fullWidth {rw rh W H : Int} (hrw : 0 < rw) (hrh : 0 < rh)
    (h : W * rh / rw ≤ H) : Inscribed rw rh W H W (W * rh / rw) where
  fits := ⟨Int.le_refl W, h⟩
  touches := Or.inl rfl
  undistorted := by
    refine ⟨Int.lt_ediv_add_one_mul_self _ hrw, ?_⟩
    calc W * rh / rw * rw ≤ W * rh := Int.ediv_mul_le _ hrw.ne'
      _ < (W + 1) * rh := by linarith
  largest := by
    intro w' h' hratio hw _
    refine ⟨hw, (Int.le_ediv_iff_mul_le hrw).2 ?_⟩
    rw [← hratio]
    exact Int.mul_le_mul_of_nonneg_right hw (Int.le_of_lt hrh)

/-- Turning a rectangle turns its ratio. -/
theorem Inscribed.turn {rw rh W H w h : Int} (hi : Inscribed rw rh W H w h) :
    Inscribed rh rw H W h w where
  fits := hi.fits.symm
  touches := hi.touches.symm
  undistorted := hi.undistorted.symm
  largest w' h' hratio hw hh := (hi.largest h' w' hratio.symm hh hw).symm

/-- What `onMeasure` may expect: a ratio, and products that fit into an `int`. -/
structure Measurable (ratioWidth ratioHeight availableWidth availableHeight : Int32) : Prop where
  ratio : 0 < ratioWidth ∧ 0 < ratioHeight
  available : 0 ≤ availableWidth ∧ 0 ≤ availableHeight
  fits : availableWidth.toInt * ratioHeight.toInt < 2 ^ 31 ∧
    availableHeight.toInt * ratioWidth.toInt < 2 ^ 31

theorem onMeasure_inscribed (view : AutoFitTextureView) (width height : Int32)
    (h : Measurable view.mRatioWidth view.mRatioHeight width height) :
    Inscribed view.mRatioWidth.toInt view.mRatioHeight.toInt width.toInt height.toInt
      (view.onMeasure width height).width.toInt (view.onMeasure width height).height.toInt := by
  have hrw : 0 < view.mRatioWidth.toInt := Int32.lt_iff_toInt_lt.mp h.ratio.1
  have hrh : 0 < view.mRatioHeight.toInt := Int32.lt_iff_toInt_lt.mp h.ratio.2
  have hW : 0 ≤ width.toInt := Int32.le_iff_toInt_le.mp h.available.1
  have hH : 0 ≤ height.toInt := Int32.le_iff_toInt_le.mp h.available.2
  have hwidth := toInt_mul_div hH (Int.le_of_lt hrw) hrh h.fits.2
  have hheight := toInt_mul_div hW (Int.le_of_lt hrh) hrw h.fits.1
  have hnonzero : ¬ (0 = view.mRatioWidth ∨ 0 = view.mRatioHeight) := by
    rintro (h0 | h0)
    · rw [← h0] at hrw
      exact absurd hrw (by decide)
    · rw [← h0] at hrh
      exact absurd hrh (by decide)
  rw [AutoFitTextureView.onMeasure, if_neg hnonzero]
  split
  · rename_i hlt
    rw [Int32.lt_iff_toInt_lt, hwidth] at hlt
    have hle : width.toInt * view.mRatioHeight.toInt / view.mRatioWidth.toInt ≤
        height.toInt := by
      have hmul := (Int.le_ediv_iff_mul_le hrh).1 (Int.le_of_lt hlt)
      rw [← Int.mul_ediv_cancel height.toInt hrw.ne']
      exact Int.ediv_le_ediv hrw hmul
    show Inscribed _ _ _ _ width.toInt (width * view.mRatioHeight / view.mRatioWidth).toInt
    rw [hheight]
    exact inscribed_fullWidth hrw hrh hle
  · rename_i hge
    rw [Int32.lt_iff_toInt_lt, hwidth, Int.not_lt] at hge
    show Inscribed _ _ _ _ (height * view.mRatioWidth / view.mRatioHeight).toInt height.toInt
    rw [hwidth]
    exact (inscribed_fullWidth hrh hrw hge).turn

/-! ## The preview -/

/-- The ratio that `openCamera` hands to the view. -/
def ratioOf (orientation : Orientation) (preview : Size) : AutoFitTextureView :=
  if orientation = .landscape then ⟨preview.width, preview.height⟩
  else ⟨preview.height, preview.width⟩

theorem setAspectRatio_ratioOf (orientation : Orientation) {preview : Size}
    (hpos : 0 < preview.width ∧ 0 < preview.height) :
    (if orientation = .landscape then
        AutoFitTextureView.setAspectRatio preview.width preview.height
      else AutoFitTextureView.setAspectRatio preview.height preview.width) =
      some (ratioOf orientation preview) := by
  have hnonneg : ¬ (preview.width < 0 ∨ preview.height < 0) := by
    rintro (h | h)
    · exact Int32.lt_asymm hpos.1 h
    · exact Int32.lt_asymm hpos.2 h
  unfold ratioOf AutoFitTextureView.setAspectRatio
  by_cases horientation : orientation = .landscape
  · simp [horientation, hnonneg]
  · simp [horientation, or_comm, hnonneg]

/-- **The sizes of `openCamera`**, with the size of the video chosen. -/
theorem preparePreview_of_video {recorderSizes textureSizes : List Size} {video : Size}
    (width height : Int32) (orientation : Orientation)
    (hchoose : chooseVideoSize recorderSizes = some video) (hsized : Sized textureSizes video) :
    preparePreview recorderSizes textureSizes width height orientation =
      (chooseOptimalSize textureSizes width height video).map fun preview =>
        ⟨video, preview, ratioOf orientation preview⟩ := by
  rw [preparePreview, hchoose]
  show (chooseOptimalSize textureSizes width height video).bind _ = _
  cases h : chooseOptimalSize textureSizes width height video with
  | none => rfl
  | some preview =>
    have hmem := ((chooseOptimalSize_eq_some hsized width height preview).1 h).mem
    have hratio := setAspectRatio_ratioOf orientation (hsized.positive preview hmem)
    split at hratio
    · rename_i horientation
      simp [horientation, hratio]
    · rename_i horientation
      simp [horientation, hratio]

/-- **The preview on the screen.**  `openCamera` finds its sizes unless a list of sizes is
empty.  The video has the first narrow 4:3 size, or else the last one; the preview has the
optimal size of the ratio of the video, or else the first one; and the view is the largest
rectangle in its space of the ratio of the preview, turned unless in landscape. -/
theorem preview_inscribed (recorderSizes textureSizes : List Size) (width height : Int32)
    (orientation : Orientation) (hrec : Recordable recorderSizes)
    (hsized : ∀ video, VideoSize recorderSizes video → Sized textureSizes video) :
    (preparePreview recorderSizes textureSizes width height orientation = none ↔
        recorderSizes = [] ∨ textureSizes = []) ∧
      ∀ p, preparePreview recorderSizes textureSizes width height orientation = some p →
        VideoSize recorderSizes p.mVideoSize ∧
        PreviewSize textureSizes width height p.mVideoSize p.mPreviewSize ∧
        p.mTextureView = ratioOf orientation p.mPreviewSize ∧
        ∀ availableWidth availableHeight,
          Measurable p.mTextureView.mRatioWidth p.mTextureView.mRatioHeight availableWidth
            availableHeight →
          Inscribed p.mTextureView.mRatioWidth.toInt p.mTextureView.mRatioHeight.toInt
            availableWidth.toInt availableHeight.toInt
            (p.mTextureView.onMeasure availableWidth availableHeight).width.toInt
            (p.mTextureView.onMeasure availableWidth availableHeight).height.toInt := by
  cases hchoose : chooseVideoSize recorderSizes with
  | none =>
    have hempty := (chooseVideoSize_eq_none_iff recorderSizes).1 hchoose
    have hnone : preparePreview recorderSizes textureSizes width height orientation = none := by
      rw [preparePreview, hchoose]
      rfl
    rw [hnone]
    exact ⟨by simp [hempty], fun p hp => absurd hp.symm (Option.some_ne_none p)⟩
  | some video =>
    have hvideo := (chooseVideoSize_eq_some hrec video).1 hchoose
    have hne : recorderSizes ≠ [] := by
      intro hempty
      rw [(chooseVideoSize_eq_none_iff recorderSizes).2 hempty] at hchoose
      cases hchoose
    rw [preparePreview_of_video width height orientation hchoose (hsized video hvideo)]
    constructor
    · rw [Option.map_eq_none_iff, chooseOptimalSize_eq_none_iff (hsized video hvideo)]
      simp [hne]
    · intro p hp
      obtain ⟨preview, hpreview, rfl⟩ := Option.map_eq_some_iff.1 hp
      exact ⟨hvideo, (chooseOptimalSize_eq_some (hsized video hvideo) width height preview).1
        hpreview, rfl, fun _ _ hmeasurable => onMeasure_inscribed _ _ _ hmeasurable⟩

/-- A portrait phone whose camera offers a wide size first. -/
theorem preview_phone :
    ∃ p, preparePreview [⟨1920, 1080⟩, ⟨960, 720⟩, ⟨640, 480⟩]
        [⟨1920, 1080⟩, ⟨1440, 1080⟩, ⟨800, 600⟩] 1080 900 .portrait = some p ∧
      p.mVideoSize = ⟨960, 720⟩ ∧ p.mPreviewSize = ⟨1440, 1080⟩ ∧
      PreviewSize [⟨1920, 1080⟩, ⟨1440, 1080⟩, ⟨800, 600⟩] 1080 900 p.mVideoSize
        p.mPreviewSize ∧
      Inscribed p.mTextureView.mRatioWidth.toInt p.mTextureView.mRatioHeight.toInt
        (1080 : Int32).toInt (1920 : Int32).toInt
        (p.mTextureView.onMeasure 1080 1920).width.toInt
        (p.mTextureView.onMeasure 1080 1920).height.toInt := by
  have hspec := preview_inscribed [⟨1920, 1080⟩, ⟨960, 720⟩, ⟨640, 480⟩]
    [⟨1920, 1080⟩, ⟨1440, 1080⟩, ⟨800, 600⟩] 1080 900 .portrait (by decide) (by
      intro video hvideo
      have hchosen := (chooseVideoSize_eq_some (by decide) video).2 hvideo
      have h960 : some (⟨960, 720⟩ : Size) = some video := hchosen
      cases h960
      exact ⟨by decide, by decide, by decide⟩)
  obtain ⟨-, hpreview, -, hinscribed⟩ :=
    hspec.2 ⟨⟨960, 720⟩, ⟨1440, 1080⟩, ⟨1080, 1440⟩⟩ (by decide)
  exact ⟨_, by decide, rfl, rfl, hpreview,
    hinscribed 1080 1920 ⟨by decide, by decide, by decide⟩⟩

/-- A camera whose previews all miss the ratio of its only video. -/
example : preparePreview [⟨640, 480⟩] [⟨1920, 1080⟩, ⟨1280, 720⟩] 1080 900 .landscape =
    some ⟨⟨640, 480⟩, ⟨1920, 1080⟩, ⟨1920, 1080⟩⟩ := by decide

end ProjektMagisterski.Camera
