import Mathlib.Algebra.Order.Floor.Ring
import Mathlib.Data.Int.Log
import Mathlib.Tactic.Linarith
import Mathlib.Tactic.Ring

/-!
# Rounding to a floating point format

A binary format without bounds on its exponent: the numbers around `x` are the multiples of
`ulp digits x`, and `roundTo digits x` is the nearest of them, the even one of two.

* `roundTo_mul_zpow`, `roundTo_natCast`: numbers with few enough digits stay as they are;
* `roundTo_mono`: rounding is monotone;
* `abs_roundTo_sub_le`: it is off by half an `ulp` at most, and `ulp_le` bounds that.
-/

namespace ProjektMagisterski.Lib

/-! ## To the nearest integer -/

section Nearest

variable {K : Type} [Field K] [LinearOrder K] [FloorRing K]

/-- The nearest integer, the even one of two. -/
def nearestEven (x : K) : ℤ :=
  if Int.fract x < 1 / 2 then ⌊x⌋
  else if 1 / 2 < Int.fract x then ⌊x⌋ + 1
  else if Even ⌊x⌋ then ⌊x⌋ else ⌊x⌋ + 1

theorem floor_le_nearestEven (x : K) : ⌊x⌋ ≤ nearestEven x := by
  unfold nearestEven
  split_ifs <;> omega

theorem nearestEven_le_floor_add_one (x : K) : nearestEven x ≤ ⌊x⌋ + 1 := by
  unfold nearestEven
  split_ifs <;> omega

variable [IsStrictOrderedRing K]

@[simp] theorem nearestEven_intCast (n : ℤ) : nearestEven (n : K) = n := by
  simp [nearestEven]

/-- Between two integers it is the fraction that decides. -/
theorem nearestEven_mono {x y : K} (h : x ≤ y) : nearestEven x ≤ nearestEven y := by
  rcases (Int.floor_mono h).lt_or_eq with hlt | heq
  · calc nearestEven x ≤ ⌊x⌋ + 1 := nearestEven_le_floor_add_one x
      _ ≤ ⌊y⌋ := hlt
      _ ≤ nearestEven y := floor_le_nearestEven y
  · have hfract : Int.fract x ≤ Int.fract y := by
      unfold Int.fract
      rw [heq]
      linarith
    unfold nearestEven
    rw [heq]
    split_ifs <;> first | omega | (exfalso; linarith)

theorem abs_nearestEven_sub_le (x : K) : |(nearestEven x : K) - x| ≤ 1 / 2 := by
  have hx := Int.floor_add_fract x
  have hnonneg := Int.fract_nonneg x
  have hlt := Int.fract_lt_one x
  rw [abs_le]
  unfold nearestEven
  split_ifs <;> push_cast <;> constructor <;> linarith

end Nearest

/-! ## To a format -/

variable {K : Type} [Field K] [LinearOrder K] [IsStrictOrderedRing K] [FloorRing K]

/-- The distance of the numbers with `digits` binary digits after the first one, around `x`. -/
def ulp (digits : ℕ) (x : K) : K := 2 ^ (Int.log 2 x - digits)

/-- The nearest of these numbers. -/
def roundTo (digits : ℕ) (x : K) : K := nearestEven (x / ulp digits x) * ulp digits x

/-- The power of two below `x` is `2 ^ digits` distances away from zero. -/
theorem two_zpow_log_eq (digits : ℕ) (x : K) :
    (2 : K) ^ Int.log 2 x = 2 ^ digits * ulp digits x := by
  have hne : (2 : K) ≠ 0 := two_pos.ne'
  rw [ulp, ← zpow_natCast, ← zpow_add₀ hne]
  ring_nf

theorem ulp_pos (digits : ℕ) (x : K) : 0 < ulp digits x := zpow_pos two_pos _

theorem two_zpow_log_le {x : K} (hx : 0 < x) : (2 : K) ^ Int.log 2 x ≤ x := by
  simpa using Int.zpow_log_le_self Nat.one_lt_two hx

theorem lt_two_zpow_log (x : K) : x < (2 : K) ^ (Int.log 2 x + 1) := by
  simpa using Int.lt_zpow_succ_log_self Nat.one_lt_two x

theorem two_zpow_log_add_one_eq (digits : ℕ) (x : K) :
    (2 : K) ^ (Int.log 2 x + 1) = 2 ^ (digits + 1) * ulp digits x := by
  rw [zpow_add_one₀ two_ne_zero, two_zpow_log_eq digits x, pow_succ]
  ring

/-- The distance is small beside the number. -/
theorem ulp_le (digits : ℕ) {x : K} (hx : 0 < x) : 2 ^ digits * ulp digits x ≤ x := by
  rw [← two_zpow_log_eq]
  exact two_zpow_log_le hx

/-- **The error.** -/
theorem abs_roundTo_sub_le (digits : ℕ) (x : K) :
    |roundTo digits x - x| ≤ ulp digits x / 2 := by
  have hpos := ulp_pos digits x
  have hx : x / ulp digits x * ulp digits x = x := div_mul_cancel₀ x hpos.ne'
  calc |roundTo digits x - x|
      = |(nearestEven (x / ulp digits x) : K) - x / ulp digits x| * ulp digits x := by
        rw [← abs_of_pos hpos, ← abs_mul, abs_of_pos hpos, sub_mul, hx, roundTo]
    _ ≤ 1 / 2 * ulp digits x :=
        mul_le_mul_of_nonneg_right (abs_nearestEven_sub_le _) hpos.le
    _ = ulp digits x / 2 := by ring

/-! ## Numbers of the format -/

/-- A multiple of the distance around it stays as it is. -/
theorem roundTo_of_eq_mul {digits : ℕ} {x : K} (n : ℤ) (h : x = n * ulp digits x) :
    roundTo digits x = x := by
  have hdiv : x / ulp digits x = n := by
    rw [div_eq_iff (ulp_pos digits x).ne']
    exact h
  rw [roundTo, hdiv, nearestEven_intCast, ← h]

@[simp] theorem roundTo_zero (digits : ℕ) : roundTo digits (0 : K) = 0 :=
  roundTo_of_eq_mul 0 (by simp)

/-- A number of no more than `digits` digits after the first one. -/
theorem roundTo_mul_zpow {digits n : ℕ} (e : ℤ) (h : n < 2 ^ (digits + 1)) :
    roundTo digits ((n : K) * 2 ^ e) = n * 2 ^ e := by
  rcases Nat.eq_zero_or_pos n with rfl | hn
  · simp
  · have hpos : (0 : K) < n * 2 ^ e := mul_pos (Nat.cast_pos.mpr hn) (zpow_pos two_pos e)
    have hlt : (n : K) * 2 ^ e < 2 ^ (((digits + 1 : ℕ) : ℤ) + e) := by
      rw [zpow_add₀ two_ne_zero, zpow_natCast]
      apply mul_lt_mul_of_pos_right _ (zpow_pos two_pos e)
      exact_mod_cast h
    have hlog : Int.log 2 ((n : K) * 2 ^ e) < (digits + 1 : ℕ) + e :=
      (Int.lt_zpow_iff_log_lt Nat.one_lt_two hpos).mp (by simpa using hlt)
    obtain ⟨k, hk⟩ := Int.eq_ofNat_of_zero_le
      (show 0 ≤ e - (Int.log 2 ((n : K) * 2 ^ e) - digits) by push_cast at hlog; omega)
    have he : e = k + (Int.log 2 ((n : K) * 2 ^ e) - digits) := by omega
    apply roundTo_of_eq_mul (n * 2 ^ k)
    calc (n : K) * 2 ^ e = n * 2 ^ ((k : ℤ) + (Int.log 2 ((n : K) * 2 ^ e) - digits)) := by
          rw [← he]
      _ = ((n * 2 ^ k : ℤ) : K) * ulp digits ((n : K) * 2 ^ e) := by
          rw [zpow_add₀ two_ne_zero, zpow_natCast, ulp]
          push_cast
          ring

theorem roundTo_natCast {digits n : ℕ} (h : n ≤ 2 ^ (digits + 1)) :
    roundTo digits (n : K) = n := by
  rcases h.lt_or_eq with hlt | rfl
  · simpa using roundTo_mul_zpow (K := K) 0 hlt
  · have hone := roundTo_mul_zpow (K := K) ((digits + 1 : ℕ) : ℤ)
      (Nat.one_lt_two_pow (Nat.succ_ne_zero digits))
    rw [Nat.cast_one, one_mul, zpow_natCast] at hone
    exact_mod_cast hone

/-! ## Monotonicity -/

/-- Rounding stays between the powers of two around `x`. -/
theorem two_zpow_le_roundTo (digits : ℕ) {x : K} (hx : 0 < x) :
    2 ^ Int.log 2 x ≤ roundTo digits x := by
  have hle : ((2 ^ digits : ℤ) : K) ≤ x / ulp digits x := by
    rw [le_div_iff₀ (ulp_pos digits x)]
    push_cast
    exact ulp_le digits hx
  have hnearest := nearestEven_mono hle
  rw [nearestEven_intCast] at hnearest
  rw [two_zpow_log_eq digits, roundTo]
  apply mul_le_mul_of_nonneg_right _ (ulp_pos digits x).le
  exact_mod_cast hnearest

theorem roundTo_le_two_zpow (digits : ℕ) (x : K) :
    roundTo digits x ≤ 2 ^ (Int.log 2 x + 1) := by
  have hle : x / ulp digits x ≤ ((2 ^ (digits + 1) : ℤ) : K) := by
    rw [div_le_iff₀ (ulp_pos digits x)]
    push_cast
    rw [← two_zpow_log_add_one_eq]
    exact (lt_two_zpow_log x).le
  have hnearest := nearestEven_mono hle
  rw [nearestEven_intCast] at hnearest
  rw [two_zpow_log_add_one_eq digits, roundTo]
  apply mul_le_mul_of_nonneg_right _ (ulp_pos digits x).le
  exact_mod_cast hnearest

theorem roundTo_nonneg (digits : ℕ) {x : K} (hx : 0 ≤ x) : 0 ≤ roundTo digits x := by
  rcases hx.eq_or_lt with rfl | hx
  · simp
  · exact (zpow_pos two_pos _).le.trans (two_zpow_le_roundTo digits hx)

/-- **Monotonicity.**  Between two powers of two there is one distance, and rounding does
not lead past a power of two. -/
theorem roundTo_mono (digits : ℕ) {x y : K} (hx : 0 ≤ x) (h : x ≤ y) :
    roundTo digits x ≤ roundTo digits y := by
  rcases hx.eq_or_lt with rfl | hx
  · rw [roundTo_zero]
    exact roundTo_nonneg digits h
  · rcases (Int.log_mono_right (b := 2) hx h).lt_or_eq with hlt | heq
    · calc roundTo digits x ≤ 2 ^ (Int.log 2 x + 1) := roundTo_le_two_zpow digits x
        _ ≤ 2 ^ Int.log 2 y := zpow_le_zpow_right₀ one_le_two hlt
        _ ≤ roundTo digits y := two_zpow_le_roundTo digits (hx.trans_le h)
    · have hulp : ulp digits x = ulp digits y := by rw [ulp, ulp, heq]
      have hpos := ulp_pos digits y
      have hnearest : nearestEven (x / ulp digits y) ≤ nearestEven (y / ulp digits y) :=
        nearestEven_mono (div_le_div_of_nonneg_right h hpos.le)
      rw [roundTo, roundTo, hulp]
      apply mul_le_mul_of_nonneg_right _ hpos.le
      exact_mod_cast hnearest

end ProjektMagisterski.Lib
