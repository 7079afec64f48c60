import Mathlib.Algebra.Ring.Nat

/-!
# Numerals of a fixed width

* `length_numeral`, `mem_numeral`: what a numeral consists of;
* `numeral_inj`: numbers that fit into the width have numerals of their own.
-/

namespace ProjektMagisterski.Lib

variable {α : Type} {base : Nat} [NeZero base] (digit : Fin base → α)

/-- The last `width` digits of `n`, the highest one first. -/
def numeral : Nat → Nat → List α
  | 0, _ => []
  | width + 1, n => numeral width (n / base) ++ [digit (Fin.ofNat base n)]

@[simp] theorem length_numeral (width n : Nat) : (numeral digit width n).length = width := by
  induction width generalizing n with
  | zero => rfl
  | succ width ih => simp [numeral, ih]

theorem mem_numeral {c : α} {width n : Nat} (h : c ∈ numeral digit width n) :
    ∃ i, c = digit i := by
  induction width generalizing n with
  | zero => cases h
  | succ width ih =>
    rcases List.mem_append.1 h with h | h
    · exact ih h
    · exact ⟨_, List.mem_singleton.1 h⟩

/-- **Numerals.**  With a digit of its own for each value, the numeral gives the number. -/
theorem numeral_inj (hdigit : Function.Injective digit) {width m n : Nat} (hm : m < base ^ width)
    (hn : n < base ^ width) (h : numeral digit width m = numeral digit width n) : m = n := by
  induction width generalizing m n with
  | zero =>
    rw [Nat.pow_zero] at hm hn
    omega
  | succ width ih =>
    obtain ⟨hhigh, hlast⟩ := List.append_inj' h rfl
    have hdiv : m / base = n / base :=
      ih (Nat.div_lt_of_lt_mul (by rwa [Nat.pow_succ'] at hm))
        (Nat.div_lt_of_lt_mul (by rwa [Nat.pow_succ'] at hn)) hhigh
    have hmod : m % base = n % base := congrArg Fin.val (hdigit (List.singleton_inj.1 hlast))
    rw [← Nat.div_add_mod m base, ← Nat.div_add_mod n base, hdiv, hmod]

end ProjektMagisterski.Lib
