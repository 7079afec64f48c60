import Mathlib.Data.List.Infix
import Mathlib.Tactic.ByContra

/-!
# Replacing every occurrence of a word

`replaceAll p r xs` replaces the occurrences of `p` in `xs` by `r`, from the left
and without overlap.

* `replaceAll_cons`: what happens at the first letter;
* `replaceAll_append_sep`: the two sides of a letter that `p` does not hold are
  replaced on their own, so no occurrence straddles it;
* `length_replaceAll`: what the replacements do to the length;
* `replaceAll_eq_self_iff`: where `r` is another word that is not shorter than
  `p`, exactly the lists without an occurrence of `p` stay as they are.
-/

namespace ProjektMagisterski.Lib

variable {α : Type} [DecidableEq α]

/-- Drop `skip` letters, and replace from there on. -/
def replaceFrom (p r : List α) : Nat → List α → List α
  | _, [] => []
  | skip + 1, _ :: xs => replaceFrom p r skip xs
  | 0, x :: xs =>
    if p <+: x :: xs then r ++ replaceFrom p r (p.length - 1) xs
    else x :: replaceFrom p r 0 xs

/-- Replace every occurrence of the non-empty word `p` by `r`. -/
def replaceAll (p r xs : List α) : List α := replaceFrom p r 0 xs

theorem replaceFrom_eq_drop (p r : List α) (skip : Nat) (xs : List α) :
    replaceFrom p r skip xs = replaceAll p r (xs.drop skip) := by
  induction xs generalizing skip with
  | nil => simp [replaceAll, replaceFrom]
  | cons x xs ih =>
    cases skip with
    | zero => rfl
    | succ skip => simp [replaceFrom, ih]

@[simp] theorem replaceAll_nil (p r : List α) : replaceAll p r [] = [] := rfl

theorem replaceAll_cons (p r : List α) (x : α) (xs : List α) :
    replaceAll p r (x :: xs) =
      if p <+: x :: xs then r ++ replaceAll p r (xs.drop (p.length - 1))
      else x :: replaceAll p r xs := by
  rw [replaceAll, replaceFrom, replaceFrom_eq_drop]
  rfl

/-! ## Separators -/

omit [DecidableEq α] in
/-- A prefix of `xs ++ c :: ys` without `c` is a prefix of `xs`. -/
theorem prefix_append_sep {p : List α} {c : α} (hc : c ∉ p) (xs ys : List α) :
    p <+: xs ++ c :: ys ↔ p <+: xs := by
  constructor
  · intro h
    rcases List.prefix_or_prefix_of_prefix h (List.prefix_append xs (c :: ys)) with h' | h'
    · exact h'
    · obtain ⟨zs, rfl⟩ := h'
      rw [List.prefix_append_right_inj] at h
      cases zs with
      | nil => simp
      | cons z zs =>
        have hz : z = c := (List.cons_prefix_cons.mp h).1
        exact absurd (by simp [hz]) hc
  · intro h
    exact h.trans (List.prefix_append xs (c :: ys))

theorem replaceFrom_append_sep (p r : List α) (hp : p ≠ []) {c : α} (hc : c ∉ p)
    (skip : Nat) (xs ys : List α) (hskip : skip ≤ xs.length) :
    replaceFrom p r skip (xs ++ c :: ys) =
      replaceFrom p r skip xs ++ c :: replaceAll p r ys := by
  induction xs generalizing skip with
  | nil =>
    have hskip : skip = 0 := by simpa using hskip
    have hpre : ¬ p <+: c :: ys := by
      intro h
      exact hp (List.prefix_nil.mp ((prefix_append_sep hc [] ys).mp h))
    subst hskip
    simp only [List.nil_append, replaceFrom, if_neg hpre]
    rfl
  | cons x xs ih =>
    cases skip with
    | succ skip =>
      have hskip : skip ≤ xs.length := by simpa using hskip
      exact ih skip hskip
    | zero =>
      have hiff : p <+: x :: (xs ++ c :: ys) ↔ p <+: x :: xs := prefix_append_sep hc (x :: xs) ys
      by_cases hpre : p <+: x :: xs
      · have hlen : p.length - 1 ≤ xs.length := by
          have := hpre.length_le
          simp only [List.length_cons] at this
          omega
        simp only [List.cons_append, replaceFrom, if_pos hpre, if_pos (hiff.mpr hpre), ih _ hlen,
          List.append_assoc]
      · simp only [List.cons_append, replaceFrom, if_neg hpre, if_neg (mt hiff.mp hpre),
          ih 0 (Nat.zero_le _)]

/-- **Separators.**  What stands before and after a letter that does not occur in `p`
is replaced on its own. -/
theorem replaceAll_append_sep (p r : List α) (hp : p ≠ []) {c : α} (hc : c ∉ p)
    (xs ys : List α) :
    replaceAll p r (xs ++ c :: ys) = replaceAll p r xs ++ c :: replaceAll p r ys :=
  replaceFrom_append_sep p r hp hc 0 xs ys (Nat.zero_le _)

/-! ## Words that do not occur -/

theorem replaceAll_eq_self (p r xs : List α) (h : ¬ p <:+: xs) :
    replaceAll p r xs = xs := by
  induction xs with
  | nil => rfl
  | cons x xs ih =>
    rw [List.infix_cons_iff, not_or] at h
    rw [replaceAll_cons, if_neg h.1, ih h.2]

/-! ## Lengths -/

omit [DecidableEq α] in
theorem length_drop_of_prefix {p : List α} (hp : p ≠ []) {x : α} {xs : List α}
    (h : p <+: x :: xs) : p.length + (xs.drop (p.length - 1)).length = (x :: xs).length := by
  have hpos := List.length_pos_of_ne_nil hp
  have hle := h.length_le
  simp only [List.length_cons, List.length_drop] at *
  omega

/-- **Lengths.**  Each of the `k` replacements exchanges the length of `p` for that of
`r`, and there is one as soon as `p` occurs. -/
theorem length_replaceAll (p r : List α) (hp : p ≠ []) (xs : List α) :
    ∃ k, (replaceAll p r xs).length + k * p.length = xs.length + k * r.length ∧
      (0 < k ↔ p <:+: xs) := by
  induction hn : xs.length using Nat.strong_induction_on generalizing xs with
  | _ n ih =>
    cases xs with
    | nil => exact ⟨0, by simp [← hn], by simpa using hp⟩
    | cons x xs =>
      rw [replaceAll_cons]
      split
      · rename_i hpre
        have hdrop := length_drop_of_prefix hp hpre
        have hpos := List.length_pos_of_ne_nil hp
        obtain ⟨k, hk, _⟩ := ih (xs.drop (p.length - 1)).length (by omega) _ rfl
        refine ⟨k + 1, ?_, by simp [hpre.isInfix]⟩
        simp only [List.length_append, Nat.add_mul, Nat.one_mul]
        omega
      · rename_i hpre
        obtain ⟨k, hk, hocc⟩ := ih xs.length (by simp [← hn]) xs rfl
        refine ⟨k, ?_, by simp [hocc, List.infix_cons_iff, hpre]⟩
        simp only [List.length_cons] at hn ⊢
        omega

theorem le_length_replaceAll (p r : List α) (hp : p ≠ []) (hlen : p.length ≤ r.length)
    (xs : List α) : xs.length ≤ (replaceAll p r xs).length := by
  obtain ⟨k, hk, _⟩ := length_replaceAll p r hp xs
  have := Nat.mul_le_mul_left k hlen
  omega

/-- Replacing by a word of the same length keeps the length. -/
theorem length_replaceAll_of_eq (p r : List α) (hp : p ≠ []) (hlen : p.length = r.length)
    (xs : List α) : (replaceAll p r xs).length = xs.length := by
  obtain ⟨k, hk, _⟩ := length_replaceAll p r hp xs
  rw [hlen] at hk
  omega

/-- Replacing an occurrence by a longer word makes the list longer. -/
theorem lt_length_replaceAll (p r : List α) (hp : p ≠ []) (hlen : p.length < r.length)
    (xs : List α) (h : p <:+: xs) : xs.length < (replaceAll p r xs).length := by
  obtain ⟨k, hk, hocc⟩ := length_replaceAll p r hp xs
  have := Nat.mul_lt_mul_of_pos_left hlen (hocc.mpr h)
  omega

/-- **Fixed points.**  Replacing changes exactly the lists that hold an occurrence. -/
theorem replaceAll_eq_self_iff (p r : List α) (hp : p ≠ []) (hlen : p.length ≤ r.length)
    (hne : p ≠ r) (xs : List α) : replaceAll p r xs = xs ↔ ¬ p <:+: xs := by
  constructor
  · intro h
    induction xs with
    | nil => simpa using hp
    | cons x xs ih =>
      rw [replaceAll_cons] at h
      split at h
      · rename_i hpre
        obtain ⟨t, ht⟩ := hpre
        have hr : r <+: p ++ t := ⟨_, h.trans ht.symm⟩
        have hdrop := length_drop_of_prefix hp ⟨t, ht⟩
        have hle := le_length_replaceAll p r hp hlen (xs.drop (p.length - 1))
        have hsum := congrArg List.length h
        simp only [List.length_append] at hsum
        have heq : p.length = r.length := by omega
        have hpr : p <+: r := List.prefix_of_prefix_length_le (List.prefix_append p t) hr hlen
        exact absurd (hpr.eq_of_length heq) hne
      · rename_i hpre
        rw [List.infix_cons_iff, not_or]
        exact ⟨hpre, ih (List.cons.inj h).2⟩
  · exact replaceAll_eq_self p r xs

end ProjektMagisterski.Lib
