import Mathlib.Data.List.Perm.Basic
import Mathlib.Tactic.Linarith
import ProjektMagisterski.Lib.Selection

/-!
# The preview size

`CameraFragment.chooseOptimalSize` sorts the choices of the requested aspect into
those that cover the view and those that do not, and takes the smallest of the
former or the largest of the latter by area.

* `compare_neg_iff`, `compare_pos_iff`: the comparator compares exact areas;
* `collect_eq`: the loop computes two filters;
* `Optimal`: what the method is for, in both dimensions and without any order;
* `chooseOptimalSize_optimal`: it returns the optimal size, the same one for every
  order of the choices, and no smaller one for a larger view.
-/

namespace ProjektMagisterski.Camera

open Lib

/-! ## The code -/

/-- `android.util.Size`. -/
structure Size where
  width : Int32
  height : Int32
deriving DecidableEq, Repr

/-- `Long.signum`. -/
def signum (i : Int64) : Int32 := if i < 0 then -1 else if 0 < i then 1 else 0

/-- `CompareSizesByArea.compare`. -/
def compare (size t1 : Size) : Int32 :=
  signum (size.width.toInt64 * size.height.toInt64 - t1.width.toInt64 * t1.height.toInt64)

/-- `Collections.min` with `CompareSizesByArea`, of a list that is not empty. -/
def minByArea (candidate : Size) (sizes : List Size) : Size :=
  select (fun next candidate => compare next candidate < 0) candidate sizes

/-- `Collections.max` with `CompareSizesByArea`, of a list that is not empty. -/
def maxByArea (candidate : Size) (sizes : List Size) : Size :=
  select (fun next candidate => compare next candidate > 0) candidate sizes

/-- The loop of `chooseOptimalSize` over its two lists; `none` where it divides by zero. -/
def collect (textureViewWidth textureViewHeight w h : Int32) :
    List Size → List Size → List Size → Option (List Size × List Size)
  | [], bigEnough, notBigEnough => some (bigEnough, notBigEnough)
  | option :: choices, bigEnough, notBigEnough =>
    if w = 0 then none
    else if option.height = option.width * h / w then
      if option.width ≥ textureViewWidth ∧ option.height ≥ textureViewHeight then
        collect textureViewWidth textureViewHeight w h choices (bigEnough ++ [option]) notBigEnough
      else
        collect textureViewWidth textureViewHeight w h choices bigEnough (notBigEnough ++ [option])
    else collect textureViewWidth textureViewHeight w h choices bigEnough notBigEnough

/-- `none` for the exceptions of the loop and of `choices[0]`. -/
def chooseOptimalSize (choices : List Size) (textureViewWidth textureViewHeight : Int32)
    (aspectRatio : Size) : Option Size :=
  match collect textureViewWidth textureViewHeight aspectRatio.width aspectRatio.height
      choices [] [] with
  | none => none
  | some (size :: bigEnough, _) => some (minByArea size bigEnough)
  | some ([], size :: notBigEnough) => some (maxByArea size notBigEnough)
  | some ([], []) => choices.head?

/-! ## Areas -/

/-- The exact area. -/
def Size.area (s : Size) : Int := s.width.toInt * s.height.toInt

/-- The product of two 32-bit integers. -/
theorem mul_bounds {a b : Int} (ha : -2 ^ 31 ≤ a) (ha' : a < 2 ^ 31) (hb : -2 ^ 31 ≤ b)
    (hb' : b < 2 ^ 31) : -(2 ^ 31 * (2 ^ 31 - 1)) ≤ a * b ∧ a * b ≤ 2 ^ 62 := by
  have h₁ : 0 ≤ (a + 2 ^ 31) * (b + 2 ^ 31) := Int.mul_nonneg (by omega) (by omega)
  have h₂ : 0 ≤ (2 ^ 31 - 1 - a) * (2 ^ 31 - 1 - b) := Int.mul_nonneg (by omega) (by omega)
  have h₃ : 0 ≤ (a + 2 ^ 31) * (2 ^ 31 - 1 - b) := Int.mul_nonneg (by omega) (by omega)
  have h₄ : 0 ≤ (2 ^ 31 - 1 - a) * (b + 2 ^ 31) := Int.mul_nonneg (by omega) (by omega)
  constructor
  · linarith
  · linarith

theorem area_bounds (s : Size) : -(2 ^ 31 * (2 ^ 31 - 1)) ≤ s.area ∧ s.area ≤ 2 ^ 62 :=
  mul_bounds s.width.le_toInt s.width.toInt_lt s.height.le_toInt s.height.toInt_lt

theorem toInt_area (s : Size) : (s.width.toInt64 * s.height.toInt64).toInt = s.area := by
  obtain ⟨hlower, hupper⟩ := area_bounds s
  unfold Size.area at *
  rw [Int64.toInt_mul, Int32.toInt_toInt64, Int32.toInt_toInt64]
  exact Int.bmod_eq_of_le (by omega) (by omega)

/-- No overflow: the `long` that `compare` takes the sign of is the difference of the areas. -/
theorem toInt_area_sub (size t1 : Size) :
    (size.width.toInt64 * size.height.toInt64 - t1.width.toInt64 * t1.height.toInt64).toInt =
      size.area - t1.area := by
  have hsize := area_bounds size
  have ht1 := area_bounds t1
  rw [Int64.toInt_sub, toInt_area, toInt_area]
  exact Int.bmod_eq_of_le (by omega) (by omega)

theorem toInt_signum (i : Int64) : (signum i).toInt = i.toInt.sign := by
  have hneg : i < 0 ↔ i.toInt < 0 := Int64.lt_iff_toInt_lt
  have hpos : 0 < i ↔ 0 < i.toInt := Int64.lt_iff_toInt_lt
  unfold signum
  split
  · rename_i h
    exact (Int.sign_eq_neg_one_of_neg (hneg.mp h)).symm
  · rename_i hnneg
    split
    · rename_i h
      exact (Int.sign_eq_one_of_pos (hpos.mp h)).symm
    · rename_i hnpos
      rw [hneg] at hnneg
      rw [hpos] at hnpos
      have hzero : i.toInt = 0 := by omega
      rw [hzero]
      rfl

theorem toInt_compare (size t1 : Size) :
    (compare size t1).toInt = (size.area - t1.area).sign := by
  rw [compare, toInt_signum, toInt_area_sub]

theorem compare_neg_iff (size t1 : Size) : compare size t1 < 0 ↔ size.area < t1.area := by
  have h : compare size t1 < 0 ↔ (compare size t1).toInt < 0 := Int32.lt_iff_toInt_lt
  rw [h, toInt_compare, Int.sign_neg_iff]
  omega

theorem compare_pos_iff (size t1 : Size) : compare size t1 > 0 ↔ t1.area < size.area := by
  have h : compare size t1 > 0 ↔ 0 < (compare size t1).toInt := Int32.lt_iff_toInt_lt
  rw [h, toInt_compare, Int.sign_pos_iff]
  omega

/-! ## The loop -/

/-- The test of the loop, with exact integers and the floor of the quotient. -/
def Matching (aspectRatio option : Size) : Prop :=
  option.height.toInt = option.width.toInt * aspectRatio.height.toInt / aspectRatio.width.toInt

instance (aspectRatio option : Size) : Decidable (Matching aspectRatio option) :=
  inferInstanceAs (Decidable (_ = _))

/-- The option is at least as big as the view. -/
def Covers (textureViewWidth textureViewHeight : Int32) (option : Size) : Prop :=
  textureViewWidth ≤ option.width ∧ textureViewHeight ≤ option.height

instance (textureViewWidth textureViewHeight : Int32) (option : Size) :
    Decidable (Covers textureViewWidth textureViewHeight option) :=
  inferInstanceAs (Decidable (_ ∧ _))

/-- What `chooseOptimalSize` may expect: positive sizes, products that fit into an
`int`, and an option of the aspect. -/
structure Suitable (choices : List Size) (aspectRatio : Size) : Prop where
  positive : ∀ option ∈ choices, 0 < option.width ∧ 0 < option.height
  aspect : 0 < aspectRatio.width ∧ 0 < aspectRatio.height
  fits : ∀ option ∈ choices, option.width.toInt * aspectRatio.height.toInt < 2 ^ 31
  some_matching : ∃ option ∈ choices, Matching aspectRatio option

/-- Where the product fits, the `int` arithmetic of the test is exact. -/
theorem height_eq_iff_matching (aspectRatio option : Size) (hw : 0 < option.width)
    (haspect : 0 < aspectRatio.width ∧ 0 < aspectRatio.height)
    (hfits : option.width.toInt * aspectRatio.height.toInt < 2 ^ 31) :
    option.height = option.width * aspectRatio.height / aspectRatio.width ↔
      Matching aspectRatio option := by
  have hw : 0 < option.width.toInt := Int32.lt_iff_toInt_lt.mp hw
  have haw : 0 < aspectRatio.width.toInt := Int32.lt_iff_toInt_lt.mp haspect.1
  have hah : 0 < aspectRatio.height.toInt := Int32.lt_iff_toInt_lt.mp haspect.2
  have hpos : 0 < option.width.toInt * aspectRatio.height.toInt := Int.mul_pos hw hah
  have hprod : (option.width * aspectRatio.height).toInt =
      option.width.toInt * aspectRatio.height.toInt := by
    rw [Int32.toInt_mul]
    exact Int.bmod_eq_of_le (by omega) (by omega)
  have hne : aspectRatio.width ≠ -1 := by
    intro h
    rw [h] at haw
    exact absurd haw (by decide)
  rw [← Int32.toInt_inj, Int32.toInt_div_of_ne_right _ _ hne, hprod,
    Int.tdiv_eq_ediv_of_nonneg (Int.le_of_lt hpos)]
  rfl

/-- The loop appends the matching options to one list or the other. -/
theorem collect_eq (vw vh : Int32) (aspectRatio : Size)
    (haspect : 0 < aspectRatio.width ∧ 0 < aspectRatio.height)
    (choices bigEnough notBigEnough : List Size)
    (hpositive : ∀ option ∈ choices, 0 < option.width)
    (hfits : ∀ option ∈ choices, option.width.toInt * aspectRatio.height.toInt < 2 ^ 31) :
    collect vw vh aspectRatio.width aspectRatio.height choices bigEnough notBigEnough =
      some (bigEnough ++ choices.filter fun o => Matching aspectRatio o ∧ Covers vw vh o,
        notBigEnough ++ choices.filter fun o => Matching aspectRatio o ∧ ¬ Covers vw vh o) := by
  induction choices generalizing bigEnough notBigEnough with
  | nil => simp [collect]
  | cons option choices ih =>
    have hw : aspectRatio.width ≠ 0 := by
      intro h
      rw [h] at haspect
      exact absurd haspect.1 (by decide)
    have hiff := height_eq_iff_matching aspectRatio option (hpositive option List.mem_cons_self)
      haspect (hfits option List.mem_cons_self)
    have ih := fun big notBig => ih big notBig
      (fun o ho => hpositive o (List.mem_cons_of_mem _ ho))
      (fun o ho => hfits o (List.mem_cons_of_mem _ ho))
    have hcovers : (option.width ≥ vw ∧ option.height ≥ vh) ↔ Covers vw vh option := Iff.rfl
    rw [collect, if_neg hw]
    by_cases hm : Matching aspectRatio option
    · rw [if_pos (hiff.mpr hm)]
      by_cases hc : Covers vw vh option
      · rw [if_pos (hcovers.mpr hc), ih]
        simp [hm, hc]
      · rw [if_neg (mt hcovers.mp hc), ih]
        simp [hm, hc]
    · rw [if_neg (mt hiff.mp hm), ih]
      simp [hm]

/-! ## Optimal sizes -/

/-- **What the method is for.**  The least of the matching options that cover the view,
in both dimensions, or the greatest of all matching options where none covers it. -/
structure Optimal (choices : List Size) (vw vh : Int32) (aspectRatio s : Size) : Prop where
  mem : s ∈ choices
  matching : Matching aspectRatio s
  least : (∃ o ∈ choices, Matching aspectRatio o ∧ Covers vw vh o) → Covers vw vh s ∧
    ∀ o ∈ choices, Matching aspectRatio o → Covers vw vh o → s.width ≤ o.width ∧ s.height ≤ o.height
  greatest : (¬ ∃ o ∈ choices, Matching aspectRatio o ∧ Covers vw vh o) →
    ∀ o ∈ choices, Matching aspectRatio o → o.width ≤ s.width ∧ o.height ≤ s.height

/-- Along the matching options the height does not fall when the width grows. -/
theorem height_le_of_width_le {aspectRatio s o : Size}
    (haspect : 0 < aspectRatio.width ∧ 0 < aspectRatio.height)
    (hs : Matching aspectRatio s) (ho : Matching aspectRatio o) (h : s.width ≤ o.width) :
    s.height ≤ o.height := by
  have haw : 0 < aspectRatio.width.toInt := Int32.lt_iff_toInt_lt.mp haspect.1
  have hah : 0 < aspectRatio.height.toInt := Int32.lt_iff_toInt_lt.mp haspect.2
  have hw : s.width.toInt ≤ o.width.toInt := Int32.le_iff_toInt_le.mp h
  have hmul : s.width.toInt * aspectRatio.height.toInt ≤
      o.width.toInt * aspectRatio.height.toInt :=
    Int.mul_le_mul_of_nonneg_right hw (Int.le_of_lt hah)
  apply Int32.le_iff_toInt_le.mpr
  rw [hs, ho]
  exact Int.ediv_le_ediv haw hmul

/-- The area of a positive size grows with both dimensions. -/
theorem area_le_area {s o : Size} (hs : 0 < s.width ∧ 0 < s.height)
    (h : s.width ≤ o.width ∧ s.height ≤ o.height) : s.area ≤ o.area := by
  have hsw : 0 < s.width.toInt := Int32.lt_iff_toInt_lt.mp hs.1
  have hsh : 0 < s.height.toInt := Int32.lt_iff_toInt_lt.mp hs.2
  have hw : s.width.toInt ≤ o.width.toInt := Int32.le_iff_toInt_le.mp h.1
  have hh : s.height.toInt ≤ o.height.toInt := Int32.le_iff_toInt_le.mp h.2
  exact Int.mul_le_mul hw hh (by omega) (by omega)

/-- Along the matching options a smaller area means smaller dimensions: a greater width
comes with at least the same height, and so with a greater area. -/
theorem dims_le_of_area_le {aspectRatio s o : Size}
    (haspect : 0 < aspectRatio.width ∧ 0 < aspectRatio.height)
    (hs : Matching aspectRatio s) (ho : Matching aspectRatio o)
    (hopos : 0 < o.width ∧ 0 < o.height) (h : s.area ≤ o.area) :
    s.width ≤ o.width ∧ s.height ≤ o.height := by
  have hwidth : s.width ≤ o.width := by
    apply Int32.le_iff_toInt_le.mpr
    by_contra hlt
    have hlt : o.width.toInt < s.width.toInt := by omega
    have how : 0 < o.width.toInt := Int32.lt_iff_toInt_lt.mp hopos.1
    have hoh : 0 < o.height.toInt := Int32.lt_iff_toInt_lt.mp hopos.2
    have hheight : o.height.toInt ≤ s.height.toInt :=
      Int32.le_iff_toInt_le.mp
        (height_le_of_width_le haspect ho hs (Int32.le_iff_toInt_le.mpr (Int.le_of_lt hlt)))
    have harea : o.area < s.area :=
      calc o.width.toInt * o.height.toInt
          < s.width.toInt * o.height.toInt := Int.mul_lt_mul_of_pos_right hlt hoh
        _ ≤ s.width.toInt * s.height.toInt :=
          Int.mul_le_mul_of_nonneg_left hheight (by omega)
    omega
  exact ⟨hwidth, height_le_of_width_le haspect hs ho hwidth⟩

/-! ## The method returns the optimal size -/

theorem minByArea_mem (size : Size) (sizes : List Size) : minByArea size sizes ∈ size :: sizes :=
  select_mem _ size sizes

theorem area_minByArea_le (size : Size) (sizes : List Size) :
    ∀ o ∈ size :: sizes, (minByArea size sizes).area ≤ o.area :=
  select_le Size.area (fun x y => by simpa using compare_neg_iff x y) size sizes

theorem maxByArea_mem (size : Size) (sizes : List Size) : maxByArea size sizes ∈ size :: sizes :=
  select_mem _ size sizes

theorem le_area_maxByArea (size : Size) (sizes : List Size) :
    ∀ o ∈ size :: sizes, o.area ≤ (maxByArea size sizes).area :=
  select_le (fun s => OrderDual.toDual s.area)
    (fun x y => by simpa using compare_pos_iff x y) size sizes

theorem chooseOptimalSize_spec (choices : List Size) (vw vh : Int32) (aspectRatio : Size)
    (h : Suitable choices aspectRatio) :
    ∃ s, chooseOptimalSize choices vw vh aspectRatio = some s ∧
      Optimal choices vw vh aspectRatio s := by
  have hloop := collect_eq vw vh aspectRatio h.aspect choices [] []
    (fun o ho => (h.positive o ho).1) h.fits
  simp only [List.nil_append] at hloop
  rw [chooseOptimalSize, hloop]
  generalize hbig : choices.filter (fun o => Matching aspectRatio o ∧ Covers vw vh o) = bigEnough
  generalize hnot : choices.filter (fun o => Matching aspectRatio o ∧ ¬ Covers vw vh o) =
    notBigEnough
  have hmemBig : ∀ o, o ∈ bigEnough ↔
      o ∈ choices ∧ Matching aspectRatio o ∧ Covers vw vh o := by
    intro o
    rw [← hbig]
    simp
  have hmemNot : ∀ o, o ∈ notBigEnough ↔
      o ∈ choices ∧ Matching aspectRatio o ∧ ¬ Covers vw vh o := by
    intro o
    rw [← hnot]
    simp
  cases bigEnough with
  | cons size bigEnough =>
    obtain ⟨hmem, hmatch, hcovers⟩ := (hmemBig _).mp (minByArea_mem size bigEnough)
    refine ⟨minByArea size bigEnough, rfl, hmem, hmatch, ?_, ?_⟩
    · intro _
      refine ⟨hcovers, fun o ho hom hoc => ?_⟩
      exact dims_le_of_area_le h.aspect hmatch hom (h.positive o ho)
        (area_minByArea_le size bigEnough o ((hmemBig o).mpr ⟨ho, hom, hoc⟩))
    · intro hnone
      exact absurd ⟨_, hmem, hmatch, hcovers⟩ hnone
  | nil =>
    have hnone : ¬ ∃ o ∈ choices, Matching aspectRatio o ∧ Covers vw vh o := by
      rintro ⟨o, ho, hoc⟩
      exact absurd ((hmemBig o).mpr ⟨ho, hoc⟩) List.not_mem_nil
    have hall : ∀ o ∈ choices, Matching aspectRatio o → o ∈ notBigEnough := by
      intro o ho hom
      exact (hmemNot o).mpr ⟨ho, hom, fun hoc => hnone ⟨o, ho, hom, hoc⟩⟩
    cases notBigEnough with
    | nil =>
      obtain ⟨o, ho, hom⟩ := h.some_matching
      exact absurd (hall o ho hom) List.not_mem_nil
    | cons size notBigEnough =>
      obtain ⟨hmem, hmatch, _⟩ := (hmemNot _).mp (maxByArea_mem size notBigEnough)
      refine ⟨maxByArea size notBigEnough, rfl, hmem, hmatch, fun hsome => absurd hsome hnone, ?_⟩
      intro _ o ho hom
      exact dims_le_of_area_le h.aspect hom hmatch (h.positive _ hmem)
        (le_area_maxByArea size notBigEnough o (hall o ho hom))

/-- There is at most one optimal size, for any order of the choices. -/
theorem Optimal.unique {choices choices' : List Size} {vw vh : Int32} {aspectRatio s s' : Size}
    (hmem : ∀ o, o ∈ choices ↔ o ∈ choices') (h : Optimal choices vw vh aspectRatio s)
    (h' : Optimal choices' vw vh aspectRatio s') : s = s' := by
  have hantisymm : (s.width ≤ s'.width ∧ s.height ≤ s'.height) →
      (s'.width ≤ s.width ∧ s'.height ≤ s.height) → s = s' := by
    intro hle hge
    have hwidth := Int32.le_antisymm hle.1 hge.1
    have hheight := Int32.le_antisymm hle.2 hge.2
    cases s
    cases s'
    simp_all
  have hs' : s' ∈ choices := (hmem s').mpr h'.mem
  have hs : s ∈ choices' := (hmem s).mp h.mem
  by_cases hsome : ∃ o ∈ choices, Matching aspectRatio o ∧ Covers vw vh o
  · have hsome' : ∃ o ∈ choices', Matching aspectRatio o ∧ Covers vw vh o := by
      obtain ⟨o, ho, hoc⟩ := hsome
      exact ⟨o, (hmem o).mp ho, hoc⟩
    obtain ⟨hc, hleast⟩ := h.least hsome
    obtain ⟨hc', hleast'⟩ := h'.least hsome'
    exact hantisymm (hleast s' hs' h'.matching hc') (hleast' s hs h.matching hc)
  · have hnone' : ¬ ∃ o ∈ choices', Matching aspectRatio o ∧ Covers vw vh o := by
      rintro ⟨o, ho, hoc⟩
      exact hsome ⟨o, (hmem o).mpr ho, hoc⟩
    exact hantisymm (h'.greatest hnone' s hs h.matching) (h.greatest hsome s' hs' h'.matching)

/-- The optimal size for a larger view is at least as large in both dimensions. -/
theorem Optimal.mono {choices : List Size} {vw vh vw' vh' : Int32} {aspectRatio s s' : Size}
    (hw : vw ≤ vw') (hh : vh ≤ vh') (h : Optimal choices vw vh aspectRatio s)
    (h' : Optimal choices vw' vh' aspectRatio s') :
    s.width ≤ s'.width ∧ s.height ≤ s'.height := by
  by_cases hsome' : ∃ o ∈ choices, Matching aspectRatio o ∧ Covers vw' vh' o
  · have hc' := (h'.least hsome').1
    have hc : Covers vw vh s' := ⟨Int32.le_trans hw hc'.1, Int32.le_trans hh hc'.2⟩
    exact (h.least ⟨s', h'.mem, h'.matching, hc⟩).2 s' h'.mem h'.matching hc
  · exact h'.greatest hsome' s h.mem h.matching

/-- **The preview size.**  The method returns the optimal size, the same one for every
order of the choices, and none of a smaller area when the view is enlarged. -/
theorem chooseOptimalSize_optimal (choices : List Size)
    (textureViewWidth textureViewHeight : Int32) (aspectRatio : Size)
    (h : Suitable choices aspectRatio) :
    ∃ s, chooseOptimalSize choices textureViewWidth textureViewHeight aspectRatio = some s ∧
      Optimal choices textureViewWidth textureViewHeight aspectRatio s ∧
      (∀ choices', choices'.Perm choices →
        chooseOptimalSize choices' textureViewWidth textureViewHeight aspectRatio = some s) ∧
      ∀ vw' vh', textureViewWidth ≤ vw' → textureViewHeight ≤ vh' →
        ∃ s', chooseOptimalSize choices vw' vh' aspectRatio = some s' ∧ s.area ≤ s'.area := by
  obtain ⟨s, hs, hopt⟩ :=
    chooseOptimalSize_spec choices textureViewWidth textureViewHeight aspectRatio h
  refine ⟨s, hs, hopt, ?_, ?_⟩
  · intro choices' hperm
    have hmem : ∀ o, o ∈ choices' ↔ o ∈ choices := fun o => hperm.mem_iff
    have h' : Suitable choices' aspectRatio := by
      obtain ⟨o, ho, hom⟩ := h.some_matching
      exact ⟨fun o ho => h.positive o ((hmem o).mp ho), h.aspect,
        fun o ho => h.fits o ((hmem o).mp ho), o, (hmem o).mpr ho, hom⟩
    obtain ⟨s', hs', hopt'⟩ :=
      chooseOptimalSize_spec choices' textureViewWidth textureViewHeight aspectRatio h'
    rw [hs', hopt'.unique hmem hopt]
  · intro vw' vh' hw hh
    obtain ⟨s', hs', hopt'⟩ := chooseOptimalSize_spec choices vw' vh' aspectRatio h
    exact ⟨s', hs', area_le_area (h.positive s hopt.mem) (hopt.mono hw hh hopt')⟩

/-- Sizes of a phone, for a 16:9 video in a portrait view that only one of them covers. -/
theorem chooseOptimalSize_phone :
    ∃ s, chooseOptimalSize [⟨1920, 1080⟩, ⟨1440, 1080⟩, ⟨640, 360⟩, ⟨1280, 720⟩] 720 900
        ⟨1280, 720⟩ = some s ∧
      Optimal [⟨1920, 1080⟩, ⟨1440, 1080⟩, ⟨640, 360⟩, ⟨1280, 720⟩] 720 900 ⟨1280, 720⟩ s ∧
      (∀ choices', choices'.Perm [⟨1920, 1080⟩, ⟨1440, 1080⟩, ⟨640, 360⟩, ⟨1280, 720⟩] →
        chooseOptimalSize choices' 720 900 ⟨1280, 720⟩ = some s) ∧
      ∀ vw' vh', 720 ≤ vw' → 900 ≤ vh' →
        ∃ s', chooseOptimalSize [⟨1920, 1080⟩, ⟨1440, 1080⟩, ⟨640, 360⟩, ⟨1280, 720⟩] vw' vh'
          ⟨1280, 720⟩ = some s' ∧ s.area ≤ s'.area :=
  chooseOptimalSize_optimal _ 720 900 ⟨1280, 720⟩
    ⟨by decide, by decide, by decide, ⟨1280, 720⟩, by decide, by decide⟩

end ProjektMagisterski.Camera
