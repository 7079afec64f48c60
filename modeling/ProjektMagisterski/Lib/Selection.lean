import Mathlib.Order.Lattice

/-!
# Selecting a best element

`select better candidate xs` scans `xs` and keeps an element until one that is
better comes along.  Where `better` compares keys of a linear order, the element
kept has the least key (`select_le`).
-/

namespace ProjektMagisterski.Lib

variable {α β : Type} (better : α → α → Bool)

/-- Scan a list, starting from a candidate. -/
def select (candidate : α) : List α → α
  | [] => candidate
  | next :: xs => if better next candidate then select next xs else select candidate xs

theorem select_mem (candidate : α) (xs : List α) :
    select better candidate xs ∈ candidate :: xs := by
  induction xs generalizing candidate with
  | nil => simp [select]
  | cons next xs ih =>
    simp only [select]
    split
    · exact List.mem_cons_of_mem _ (ih next)
    · rcases List.mem_cons.mp (ih candidate) with h | h
      · rw [h]
        exact List.mem_cons_self
      · exact List.mem_cons_of_mem _ (List.mem_cons_of_mem _ h)

variable {better} [LinearOrder β] (key : α → β)

/-- **Selection rule.** -/
theorem select_le (hbetter : ∀ x y, better x y = true ↔ key x < key y) (candidate : α)
    (xs : List α) : ∀ x ∈ candidate :: xs, key (select better candidate xs) ≤ key x := by
  induction xs generalizing candidate with
  | nil => simp [select]
  | cons next xs ih =>
    intro x hx
    simp only [select]
    split
    · rename_i hlt
      have hlt := (hbetter next candidate).mp hlt
      rcases List.mem_cons.mp hx with rfl | hx
      · exact (ih next next List.mem_cons_self).trans hlt.le
      · exact ih next x hx
    · rename_i hnlt
      have hle := not_lt.mp (mt (hbetter next candidate).mpr hnlt)
      rcases List.mem_cons.mp hx with rfl | hx
      · exact ih x x List.mem_cons_self
      · rcases List.mem_cons.mp hx with rfl | hx
        · exact (ih candidate candidate List.mem_cons_self).trans hle
        · exact ih candidate x (List.mem_cons_of_mem _ hx)

end ProjektMagisterski.Lib
