import Mathlib.Data.List.DropRight

/-!
# Terminated fields and lines

Text is a list of symbols.  `terminated sep` writes a list of fields, each
followed by `sep`; `linesFrom lf cr` reads lines that end at `lf`, at `cr` or at
`cr` followed by `lf`, the last line also at the end of the text.

* `splitOn_terminated`, `rdropWhile_splitOn_terminated`: fields without the
  separator are read back;
* `linesFrom_terminated`: so are lines without either line end;
* `mem_splitOn`, `mem_linesFrom`: what is read holds no separator, and only
  symbols of the text.
-/

namespace ProjektMagisterski.Lib

variable {α : Type} {sep lf cr : α}

/-! ## Fields -/

/-- Write fields one after the other, each followed by `sep`. -/
def terminated (sep : α) : List (List α) → List α
  | [] => []
  | f :: fs => f ++ sep :: terminated sep fs

theorem mem_terminated {x : α} (fs : List (List α)) (hx : x ∈ terminated sep fs) :
    x = sep ∨ ∃ f ∈ fs, x ∈ f := by
  induction fs with
  | nil => simp [terminated] at hx
  | cons f fs ih =>
    simp only [terminated, List.mem_append, List.mem_cons] at hx
    rcases hx with hx | rfl | hx
    · exact Or.inr ⟨f, by simp, hx⟩
    · exact Or.inl rfl
    · rcases ih hx with h | ⟨g, hg, hxg⟩
      · exact Or.inl h
      · exact Or.inr ⟨g, by simp [hg], hxg⟩

/-- Put `c` in front of the first line; a new line where there is none. -/
def consLine (c : α) : List (List α) → List (List α)
  | [] => [[c]]
  | l :: ls => (c :: l) :: ls

theorem mem_consLine {c : α} {l : List α} {ls : List (List α)} (h : l ∈ consLine c ls) :
    l = [c] ∨ (∃ l' ∈ ls, l = c :: l') ∨ l ∈ ls := by
  cases ls with
  | nil => simpa [consLine] using h
  | cons l' ls =>
    rcases List.mem_cons.mp h with rfl | h
    · exact Or.inr (Or.inl ⟨l', by simp, rfl⟩)
    · exact Or.inr (Or.inr (List.mem_cons_of_mem _ h))

section Read

variable [DecidableEq α]

theorem splitOn_terminated (fs : List (List α)) (h : ∀ f ∈ fs, sep ∉ f) :
    (terminated sep fs).splitOn sep = fs ++ [[]] := by
  induction fs with
  | nil => simp [terminated]
  | cons f fs ih =>
    simp only [List.mem_cons, forall_eq_or_imp] at h
    rw [terminated, List.splitOn_append_cons_self_of_not_mem h.1, ih h.2]
    rfl

/-- **Fields round trip.**  Dropping the trailing empty pieces of the split gives
the fields back when none of them is empty. -/
theorem rdropWhile_splitOn_terminated (fs : List (List α)) (h : ∀ f ∈ fs, sep ∉ f)
    (hne : ∀ f ∈ fs, f ≠ []) :
    ((terminated sep fs).splitOn sep).rdropWhile List.isEmpty = fs := by
  rw [splitOn_terminated fs h, List.rdropWhile_concat_pos _ _ _ rfl]
  apply List.rdropWhile_eq_self_iff.mpr
  intro hl
  simpa using hne _ (List.getLast_mem hl)

/-- A piece of a split holds no separator, and only symbols of the text. -/
theorem mem_splitOn (text f : List α) (hf : f ∈ text.splitOn sep) :
    sep ∉ f ∧ ∀ x ∈ f, x ∈ text := by
  induction text generalizing f with
  | nil =>
    simp only [List.splitOn_nil, List.mem_singleton] at hf
    simp [hf]
  | cons c text ih =>
    rw [List.splitOn_cons_eq_if_modifyHead] at hf
    split at hf
    · rcases List.mem_cons.mp hf with rfl | hf
      · simp
      · exact ⟨(ih f hf).1, fun x hx => List.mem_cons_of_mem _ ((ih f hf).2 x hx)⟩
    · rename_i hc
      obtain ⟨g, gs, hg⟩ := List.exists_cons_of_ne_nil (List.splitOn_ne_nil sep text)
      rw [hg, List.modifyHead_cons, List.mem_cons] at hf
      rcases hf with rfl | hf
      · obtain ⟨hs, hm⟩ := ih g (by simp [hg])
        have hc' : sep ≠ c := fun e => hc (by simp [e])
        exact ⟨by simp [hc', hs], fun x hx => by
          rcases List.mem_cons.mp hx with rfl | hx
          · simp
          · exact List.mem_cons_of_mem _ (hm x hx)⟩
      · obtain ⟨hs, hm⟩ := ih f (by simp [hg, hf])
        exact ⟨hs, fun x hx => List.mem_cons_of_mem _ (hm x hx)⟩

/-! ## Lines -/

/-- The lines of a text.  `skipLF` tells that the last symbol read was a `cr`, so
that an `lf` here belongs to the same line end. -/
def linesFrom (lf cr : α) (skipLF : Bool) : List α → List (List α)
  | [] => []
  | c :: rest =>
    if skipLF = true ∧ c = lf then linesFrom lf cr false rest
    else if c = lf then [] :: linesFrom lf cr false rest
    else if c = cr then [] :: linesFrom lf cr true rest
    else consLine c (linesFrom lf cr false rest)

theorem linesFrom_append_lf (l rest : List α) (hlf : lf ∉ l) (hcr : cr ∉ l) :
    linesFrom lf cr false (l ++ lf :: rest) = l :: linesFrom lf cr false rest := by
  induction l with
  | nil => simp [linesFrom]
  | cons c l ih =>
    simp only [List.mem_cons, not_or] at hlf hcr
    have h₁ : c ≠ lf := fun e => hlf.1 e.symm
    have h₂ : c ≠ cr := fun e => hcr.1 e.symm
    simp [linesFrom, h₁, h₂, ih hlf.2 hcr.2, consLine]

/-- **Lines round trip.** -/
theorem linesFrom_terminated (ls : List (List α)) (hlf : ∀ l ∈ ls, lf ∉ l)
    (hcr : ∀ l ∈ ls, cr ∉ l) : linesFrom lf cr false (terminated lf ls) = ls := by
  induction ls with
  | nil => rfl
  | cons l ls ih =>
    simp only [List.mem_cons, forall_eq_or_imp] at hlf hcr
    rw [terminated, linesFrom_append_lf l _ hlf.1 hcr.1, ih hlf.2 hcr.2]

/-- No line that is read holds a line end. -/
theorem mem_linesFrom (skipLF : Bool) (text l : List α)
    (h : l ∈ linesFrom lf cr skipLF text) : lf ∉ l ∧ cr ∉ l := by
  induction text generalizing skipLF l with
  | nil => simp [linesFrom] at h
  | cons c text ih =>
    simp only [linesFrom] at h
    split at h
    · exact ih false l h
    · split at h
      · rcases List.mem_cons.mp h with rfl | h
        · simp
        · exact ih false l h
      · rename_i hlf
        split at h
        · rcases List.mem_cons.mp h with rfl | h
          · simp
          · exact ih true l h
        · rename_i hcr
          have h₁ : lf ≠ c := fun e => hlf e.symm
          have h₂ : cr ≠ c := fun e => hcr e.symm
          rcases mem_consLine h with rfl | ⟨l', hl', rfl⟩ | h
          · simp [h₁, h₂]
          · simpa [h₁, h₂] using ih false l' hl'
          · exact ih false l h

end Read

end ProjektMagisterski.Lib
