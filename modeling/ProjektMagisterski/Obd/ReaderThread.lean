import Mathlib.Tactic.NormNum.NatLog
import ProjektMagisterski.Lib.Rounding
import ProjektMagisterski.Obd.Player

/-!
# The reader thread in `float`

`VideoPlayerActivity.ReaderThread` as its code computes: `Player` has the exact index, and
here every operation of the index is rounded to a `float`.

* `readingIndex_lt`: there is a line for every position below the duration, up to a duration
  of `2 ^ 24` milliseconds;
* `readingIndex_share`: it is that of the round to whose share of the video the position
  belongs, but for less than two milliseconds;
* `turn_recorded`, `shows_reachable`: what an iteration does over a recording, and a run;
* `showsRounds_reachUnder`: what a run at positions below the duration shows.
-/

namespace ProjektMagisterski.Obd

open Lib

/-! ## The thread -/

/-- An `int`, or the result of an operation, as a `float`.  The bounds of its exponent are far
from all the values here. -/
def toFloat (x : ℚ) : ℚ := roundTo 23 x

/-- `(int)` of a `float` that is not negative. -/
def toInt (x : ℚ) : Nat := min ⌊x⌋₊ 2147483647

namespace ReaderThread

/-- `currentPosition / duration`, both in `float`. -/
def percentage (currentPosition duration : Nat) : ℚ :=
  toFloat (toFloat currentPosition / toFloat duration)

/-- `(int)(mReadings.size()*percentage)`. -/
def readingIndex (size currentPosition duration : Nat) : Nat :=
  toInt (toFloat (toFloat size * percentage currentPosition duration))

section Naming

variable (getName : ObdCommand → String)

/-- One iteration of the loop of `run`. -/
def iterate (mReadings : List String) (duration : Nat) (s : ReaderThread) (tick : Tick) :
    ReaderThread :=
  s.turn getName mReadings tick (readingIndex mReadings.length tick.currentPosition duration)

/-- The thread iterates while it runs, at positions up to the duration. -/
def run (mReadings : List String) (duration : Nat) : Machine ReaderThread Tick :=
  Machine.guarded {} (fun s tick => s.status = .running ∧ tick.currentPosition ≤ duration)
    (iterate getName mReadings duration)

end Naming

end ReaderThread

/-! ## Rounding -/

theorem toFloat_nonneg {x : ℚ} (hx : 0 ≤ x) : 0 ≤ toFloat x := roundTo_nonneg 23 hx

theorem toFloat_mono {x y : ℚ} (hx : 0 ≤ x) (h : x ≤ y) : toFloat x ≤ toFloat y :=
  roundTo_mono 23 hx h

/-- Numbers of lines and of milliseconds up to here are `float`s. -/
theorem toFloat_natCast {n : ℕ} (h : n ≤ 2 ^ 24) : toFloat n = n := roundTo_natCast h

theorem abs_toFloat_sub_le {x : ℚ} (hx : 0 ≤ x) : |toFloat x - x| ≤ x / 2 ^ 24 := by
  rcases hx.eq_or_lt with rfl | hx
  · simp [toFloat]
  · have hulp := ulp_le 23 hx
    have herror := abs_roundTo_sub_le 23 x
    have hhalf : ulp 23 x / 2 ≤ x / 2 ^ 24 := by
      rw [div_le_div_iff₀ two_pos (by positivity)]
      linarith
    exact herror.trans hhalf

theorem toInt_mono {x y : ℚ} (h : x ≤ y) : toInt x ≤ toInt y :=
  min_le_min_right _ (Nat.floor_mono h)

/-! ## The selected index -/

namespace ReaderThread

theorem percentage_nonneg (p d : ℕ) : 0 ≤ percentage p d :=
  toFloat_nonneg (div_nonneg (toFloat_nonneg p.cast_nonneg) (toFloat_nonneg d.cast_nonneg))

/-- Later positions select later lines. -/
theorem readingIndex_mono (size duration : Nat) {p q : Nat} (h : p ≤ q) :
    readingIndex size p duration ≤ readingIndex size q duration := by
  have hposition : toFloat p ≤ toFloat q := toFloat_mono p.cast_nonneg (Nat.cast_le.mpr h)
  have hpercentage : percentage p duration ≤ percentage q duration :=
    toFloat_mono (div_nonneg (toFloat_nonneg p.cast_nonneg) (toFloat_nonneg duration.cast_nonneg))
      (div_le_div_of_nonneg_right hposition (toFloat_nonneg duration.cast_nonneg))
  have hsize := toFloat_nonneg (x := size) size.cast_nonneg
  exact toInt_mono (toFloat_mono (mul_nonneg hsize (percentage_nonneg p duration))
    (mul_le_mul_of_nonneg_left hpercentage hsize))

variable {size p duration : ℕ}

/-- A position below the duration is below it by a `float`. -/
theorem percentage_le (hd : duration ≤ 2 ^ 24) (hp : p < duration) :
    percentage p duration ≤ 1 - 1 / 2 ^ 24 := by
  have hpos : (0 : ℚ) < duration := by exact_mod_cast Nat.zero_lt_of_lt hp
  have hposition : (p : ℚ) ≤ duration - 1 := by
    rw [le_sub_iff_add_le]
    exact_mod_cast hp
  have hduration : (duration : ℚ) ≤ 2 ^ 24 := by exact_mod_cast hd
  have hexact : (p : ℚ) / duration ≤ ((2 ^ 24 - 1 : ℕ) : ℚ) * 2 ^ (-24 : ℤ) := by
    rw [div_le_iff₀ hpos]
    norm_num
    linarith
  have hfloat := toFloat_mono (div_nonneg p.cast_nonneg hpos.le) hexact
  have hlast : toFloat (((2 ^ 24 - 1 : ℕ) : ℚ) * 2 ^ (-24 : ℤ)) =
      ((2 ^ 24 - 1 : ℕ) : ℚ) * 2 ^ (-24 : ℤ) := roundTo_mul_zpow (-24) (by norm_num)
  rw [percentage, toFloat_natCast (hp.le.trans hd), toFloat_natCast hd]
  refine hfloat.trans (hlast.le.trans ?_)
  norm_num

/-- **A line for every position** below the duration. -/
theorem readingIndex_lt (hn : 0 < size) (hsize : size ≤ 2 ^ 24) (hd : duration ≤ 2 ^ 24)
    (hp : p < duration) : readingIndex size p duration < size := by
  have hpos : (0 : ℚ) < size := by exact_mod_cast hn
  have hnonneg := mul_nonneg hpos.le (percentage_nonneg p duration)
  have hle : size * percentage p duration ≤ size * (1 - 1 / 2 ^ 24) :=
    mul_le_mul_of_nonneg_left (percentage_le hd hp) hpos.le
  have herror := (abs_le.mp (abs_toFloat_sub_le hnonneg)).2
  have hlt : toFloat (size * percentage p duration) < size := by linarith
  rw [readingIndex, toFloat_natCast hsize]
  exact (min_le_left _ _).trans_lt ((Nat.floor_lt (toFloat_nonneg hnonneg)).mpr hlt)

/-- The rounded index, before it is cut to an integer. -/
theorem abs_index_sub_lt (hn : 0 < size) (hd : duration ≤ 2 ^ 24) (hp : p < duration) :
    |toFloat (size * percentage p duration) - size * p / duration| < 2 * size / duration := by
  have hpos : (0 : ℚ) < size := by exact_mod_cast hn
  have hdpos : (0 : ℚ) < duration := by exact_mod_cast Nat.zero_lt_of_lt hp
  have hduration : (duration : ℚ) ≤ 2 ^ 24 := by exact_mod_cast hd
  have hbelow := percentage_le hd hp
  have hfraction : (p : ℚ) / duration < 1 := by
    rw [div_lt_one hdpos]
    exact_mod_cast hp
  have hpercentage : |percentage p duration - p / duration| ≤ 1 / 2 ^ 24 := by
    have herror := abs_toFloat_sub_le (div_nonneg p.cast_nonneg hdpos.le : (0 : ℚ) ≤ p / duration)
    rw [percentage, toFloat_natCast (hp.le.trans hd), toFloat_natCast hd]
    linarith
  have hquotient : |size * percentage p duration - size * p / duration| ≤ size / 2 ^ 24 := by
    calc |size * percentage p duration - size * p / duration|
        = size * |percentage p duration - p / duration| := by
          rw [← abs_of_pos hpos, ← abs_mul, abs_of_pos hpos, mul_sub, mul_div_assoc]
      _ ≤ size * (1 / 2 ^ 24) := mul_le_mul_of_nonneg_left hpercentage hpos.le
      _ = size / 2 ^ 24 := by ring
  have hproduct : |toFloat (size * percentage p duration) - size * percentage p duration| <
      size / 2 ^ 24 := by
    have herror := abs_toFloat_sub_le (mul_nonneg hpos.le (percentage_nonneg p duration))
    have hless : size * percentage p duration < size := by
      have hle := mul_le_mul_of_nonneg_left hbelow hpos.le
      linarith
    exact herror.trans_lt (div_lt_div_of_pos_right hless (by positivity))
  calc |toFloat (size * percentage p duration) - size * p / duration|
      ≤ |toFloat (size * percentage p duration) - size * percentage p duration| +
          |size * percentage p duration - size * p / duration| := abs_sub_le _ _ _
    _ < size / 2 ^ 24 + size / 2 ^ 24 := add_lt_add_of_lt_of_le hproduct hquotient
    _ = 2 * size / 2 ^ 24 := by ring
    _ ≤ 2 * size / duration := div_le_div_of_nonneg_left (by positivity) hdpos hduration

/-- **Shares.**  The line of a round is selected in its share of the video, but for less than
two milliseconds. -/
theorem readingIndex_share (hn : 0 < size) (hsize : size ≤ 2 ^ 24) (hd : duration ≤ 2 ^ 24)
    (hp : p < duration) :
    (readingIndex size p duration * duration / size : ℚ) < p + 2 ∧
      (p : ℚ) < (readingIndex size p duration + 1) * duration / size + 2 := by
  have hpos : (0 : ℚ) < size := by exact_mod_cast hn
  have hdpos : (0 : ℚ) < duration := by exact_mod_cast Nat.zero_lt_of_lt hp
  have hnonneg := mul_nonneg hpos.le (percentage_nonneg p duration)
  have hcut : readingIndex size p duration = ⌊toFloat (size * percentage p duration)⌋₊ := by
    have hlt := readingIndex_lt hn hsize hd hp
    rw [readingIndex, toFloat_natCast hsize, toInt] at hlt ⊢
    omega
  have hfloor := Nat.floor_le (toFloat_nonneg hnonneg)
  have hnext := Nat.lt_floor_add_one (toFloat (size * percentage p duration))
  obtain ⟨hbelow, habove⟩ := abs_lt.mp (abs_index_sub_lt hn hd hp)
  rw [← hcut] at hfloor hnext
  constructor
  · rw [div_lt_iff₀ hpos]
    have hindex : (readingIndex size p duration : ℚ) < (size * p + 2 * size) / duration := by
      rw [add_div]
      linarith
    rw [lt_div_iff₀ hdpos] at hindex
    linarith
  · have hindex : (size * p - 2 * size : ℚ) / duration < readingIndex size p duration + 1 := by
      rw [sub_div]
      linarith
    rw [div_lt_iff₀ hdpos] at hindex
    rw [← sub_lt_iff_lt_add, lt_div_iff₀ hpos]
    linarith

/-- So it is the line of a round all through its share, but for two milliseconds at each end. -/
theorem eq_of_share {k index : ℕ} (hn : 0 < size)
    (hshare : (index * duration / size : ℚ) < p + 2 ∧
      (p : ℚ) < (index + 1) * duration / size + 2)
    (hbegun : (k * duration / size : ℚ) + 2 ≤ p)
    (hends : (p : ℚ) + 2 ≤ (k + 1) * duration / size) : index = k := by
  have hpos : (0 : ℚ) < size := by exact_mod_cast hn
  have hlower : (k * duration / size : ℚ) < (index + 1) * duration / size := by linarith
  have hupper : (index * duration / size : ℚ) < (k + 1) * duration / size := by linarith
  rw [div_lt_div_iff_of_pos_right hpos] at hlower hupper
  have hk : (k : ℚ) < index + 1 := lt_of_mul_lt_mul_right hlower duration.cast_nonneg
  have hindex : (index : ℚ) < k + 1 := lt_of_mul_lt_mul_right hupper duration.cast_nonneg
  norm_cast at hk hindex
  omega

theorem readingIndex_eq_of_share {k : ℕ} (hn : 0 < size) (hsize : size ≤ 2 ^ 24)
    (hd : duration ≤ 2 ^ 24) (hp : p < duration)
    (hbegun : (k * duration / size : ℚ) + 2 ≤ p)
    (hends : (p : ℚ) + 2 ≤ (k + 1) * duration / size) : readingIndex size p duration = k :=
  eq_of_share hn (readingIndex_share hn hsize hd hp) hbegun hends

/-! ## Playing a recording -/

section Naming

variable (getName : ObdCommand → String)

/-- What holds along every run: the index of each position has been computed, and its round
sent, and it is a missing line that ends the thread, if not an interruption. -/
structure Shows (session : List (ObdCommand → String)) (duration : Nat) (s : ReaderThread) :
    Prop where
  ends : (∀ x ∈ s.selected, x.index < session.length) →
    s.status = .running ∨ s.status = .interrupted
  chosen : ∀ x ∈ s.selected, x.index = readingIndex session.length x.currentPosition duration
  shown : s.world.sent = s.selected.flatMap fun x => sentAt getName session x.index

theorem shows_reachable (session : List (ObdCommand → String)) (duration : Nat)
    (h : ∀ formatted ∈ session, ∀ c ∈ prepareCommands.all, SeparatorFree (formatted c))
    (s : ReaderThread) (hs : (run getName (session.map lineOf) duration).Reachable s) :
    Shows getName session duration s := by
  apply hs.invariant
  · exact ⟨fun _ => Or.inl rfl, by simp [run, Machine.guarded], rfl⟩
  · intro s tick t hs _ hstep
    obtain ⟨-, rfl⟩ := (Machine.guarded_step _ _ _ _).1 hstep
    rw [iterate, turn_recorded getName session h, List.length_map]
    refine ⟨fun hlines => ?_, fun x hx => ?_, ?_⟩
    · have hindex := hlines ⟨tick.currentPosition, _⟩ (List.mem_append_right _ List.mem_cons_self)
      show (if _ then _ else _) = _ ∨ _
      rw [if_pos hindex]
      cases tick.interrupted
      · exact Or.inl rfl
      · exact Or.inr rfl
    · rcases List.mem_append.mp hx with hx | hx
      · exact hs.chosen x hx
      · rw [List.mem_singleton.mp hx]
    · simp [hs.shown]

/-- **Showing the rounds.**  What a run of the thread over the recording of `session` is. -/
structure ShowsRounds (session : List (ObdCommand → String)) (duration : Nat)
    (s : ReaderThread) : Prop where
  /-- The thread ends only by interruption. -/
  ends : s.status = .running ∨ s.status = .interrupted
  /-- Every iteration selects a round, and shows what it sent, for every command. -/
  recorded : ∀ x ∈ s.selected, x.index < session.length
  shown : s.world.sent = s.selected.flatMap fun x => sentAt getName session x.index
  /-- A round is only selected in its share of the video, give or take two milliseconds. -/
  share : ∀ x ∈ s.selected,
    (x.index * duration / session.length : ℚ) < x.currentPosition + 2 ∧
      (x.currentPosition : ℚ) < (x.index + 1) * duration / session.length + 2
  /-- And all through it but for two milliseconds at each end. -/
  all : ∀ x ∈ s.selected, ∀ k : ℕ,
    (k * duration / session.length : ℚ) + 2 ≤ x.currentPosition →
      (x.currentPosition : ℚ) + 2 ≤ (k + 1) * duration / session.length → x.index = k
  /-- No earlier round after a later one while the video plays on. -/
  ordered : (s.selected.map Selection.currentPosition).Pairwise (· ≤ ·) →
    (s.selected.map Selection.index).Pairwise (· ≤ ·)

theorem showsRounds_reachUnder (session : List (ObdCommand → String)) (duration : Nat)
    (h : ∀ formatted ∈ session, ∀ c ∈ prepareCommands.all, SeparatorFree (formatted c))
    (hn : 0 < session.length) (hsize : session.length ≤ 2 ^ 24) (hd : duration ≤ 2 ^ 24)
    (s : ReaderThread)
    (hs : (run getName (session.map lineOf) duration).ReachUnder
      (fun _ tick => tick.currentPosition < duration) s) :
    ShowsRounds getName session duration s := by
  have hshows := shows_reachable getName session duration h s hs.reachable
  have hbelow : ∀ x ∈ s.selected, x.currentPosition < duration := by
    apply hs.invariant
    · simp [run, Machine.guarded]
    · intro s tick t hs hlt hstep x hx
      obtain ⟨-, rfl⟩ := (Machine.guarded_step _ _ _ _).1 hstep
      rw [iterate, turn_recorded getName session h] at hx
      rcases List.mem_append.mp hx with hx | hx
      · exact hs x hx
      · rw [List.mem_singleton.mp hx]
        exact hlt
  have hrecorded : ∀ x ∈ s.selected, x.index < session.length := by
    intro x hx
    rw [hshows.chosen x hx]
    exact readingIndex_lt hn hsize hd (hbelow x hx)
  have hshare : ∀ x ∈ s.selected,
      (x.index * duration / session.length : ℚ) < x.currentPosition + 2 ∧
        (x.currentPosition : ℚ) < (x.index + 1) * duration / session.length + 2 := by
    intro x hx
    rw [hshows.chosen x hx]
    exact readingIndex_share hn hsize hd (hbelow x hx)
  refine ⟨hshows.ends hrecorded, hrecorded, hshows.shown, hshare, ?_, ?_⟩
  · intro x hx k hbegun hends
    exact eq_of_share hn (hshare x hx) hbegun hends
  · intro hpositions
    rw [List.pairwise_map] at hpositions ⊢
    apply hpositions.imp_of_mem
    intro x y hx hy hxy
    rw [hshows.chosen x hx, hshows.chosen y hy]
    exact readingIndex_mono session.length duration hxy

/-- Two rounds, of which the second is shown before the first. -/
theorem jump_reachUnder (first second : ObdCommand → String)
    (h : ∀ formatted ∈ [first, second], ∀ c ∈ prepareCommands.all, SeparatorFree (formatted c)) :
    ∃ s, (run getName ([first, second].map lineOf) 1000).ReachUnder
        (fun _ tick => tick.currentPosition < 1000) s ∧
      s.status = .running ∧ s.selected = [⟨900, 1⟩, ⟨100, 0⟩] := by
  have hlate : readingIndex 2 900 1000 = 1 :=
    readingIndex_eq_of_share two_pos (by norm_num) (by norm_num) (by norm_num) (by norm_num)
      (by norm_num)
  have hearly : readingIndex 2 100 1000 = 0 :=
    readingIndex_eq_of_share two_pos (by norm_num) (by norm_num) (by norm_num) (by norm_num)
      (by norm_num)
  have hiterate : ∀ (s : ReaderThread) (tick : Tick), s.status = .running →
      tick.currentPosition < 1000 →
      (run getName ([first, second].map lineOf) 1000).Steps
        (fun _ tick => tick.currentPosition < 1000) s
        (turn getName ([first, second].map lineOf) s tick
          (readingIndex 2 tick.currentPosition 1000)) :=
    fun s tick hrunning hlt => Machine.Steps.guarded tick hlt ⟨hrunning, hlt.le⟩
  have hfirst := hiterate {} ⟨900, false⟩ rfl (by norm_num)
  rw [hlate, turn_recorded getName _ h] at hfirst
  have hsecond := hfirst.trans (hiterate _ ⟨100, false⟩ rfl (by norm_num))
  rw [hearly, turn_recorded getName _ h] at hsecond
  exact ⟨_, hsecond, rfl, rfl⟩

end Naming

/-- In the middle of a minute the rounding shows where the exact index is `53`. -/
example : readingIndex 100 31800 60000 = 52 := by
  have hfraction : toFloat (53 / 100) = 8891924 / 2 ^ 24 := by
    have hceil : ⌈(53 / 100 : ℚ)⁻¹⌉₊ = 2 := by
      rw [Nat.ceil_eq_iff two_ne_zero]
      norm_num
    have hlog : Int.log 2 (53 / 100 : ℚ) = -1 := by
      rw [Int.log_of_right_le_one _ (by norm_num), hceil]
      norm_num
    rw [toFloat, roundTo, ulp, hlog, nearestEven]
    norm_num [Int.fract]
  have hindex : toFloat (55574525 / 2 ^ 20) = 13893631 / 2 ^ 18 := by
    have hlog : Int.log 2 (55574525 / 2 ^ 20 : ℚ) = 5 := by
      rw [Int.log_of_one_le_right _ (by norm_num)]
      norm_num
    rw [toFloat, roundTo, ulp, hlog, nearestEven]
    norm_num [Int.fract]
  rw [readingIndex, percentage, toFloat_natCast (by norm_num), toFloat_natCast (by norm_num),
    toFloat_natCast (by norm_num), toInt]
  norm_num [hfraction] at hindex ⊢
  rw [hindex]
  norm_num

end ReaderThread

end ProjektMagisterski.Obd
