import Mathlib.Logic.Basic

/-!
# Stores where the last write wins

A store holds at most one value under each key.

* `writeAll_apply`: after a list of writes, a key holds its last write, or what it
  held before;
* `writeAll_covered`: what was written before does not matter for the keys that a
  later list of writes covers.
-/

namespace ProjektMagisterski.Lib

variable {κ β : Type} [DecidableEq κ]

/-- A store after one write. -/
def write (store : κ → Option β) (w : κ × β) : κ → Option β :=
  fun k => if k = w.1 then some w.2 else store k

/-- A store after writes in order. -/
def writeAll (store : κ → Option β) (ws : List (κ × β)) : κ → Option β := ws.foldl write store

/-- The last value written to a key. -/
def lastWrite (k : κ) : List (κ × β) → Option β
  | [] => none
  | w :: ws => (lastWrite k ws).or (if k = w.1 then some w.2 else none)

theorem writeAll_append (store : κ → Option β) (ws vs : List (κ × β)) :
    writeAll store (ws ++ vs) = writeAll (writeAll store ws) vs :=
  List.foldl_append

theorem lastWrite_append (k : κ) (ws vs : List (κ × β)) :
    lastWrite k (ws ++ vs) = (lastWrite k vs).or (lastWrite k ws) := by
  induction ws with
  | nil => simp [lastWrite]
  | cons w ws ih => simp [lastWrite, ih, Option.or_assoc]

/-- **Last write.** -/
theorem writeAll_apply (store : κ → Option β) (ws : List (κ × β)) (k : κ) :
    writeAll store ws k = (lastWrite k ws).or (store k) := by
  induction ws generalizing store with
  | nil => simp [writeAll, lastWrite]
  | cons w ws ih =>
    have hrest : writeAll store (w :: ws) k = writeAll (write store w) ws k := rfl
    rw [hrest, ih, lastWrite, Option.or_assoc, write]
    by_cases hk : k = w.1 <;> simp [hk]

/-- A key that is written has a last write. -/
theorem lastWrite_ne_none {k : κ} {ws : List (κ × β)} (h : k ∈ ws.map Prod.fst) :
    lastWrite k ws ≠ none := by
  induction ws with
  | nil => simp at h
  | cons w ws ih =>
    rw [lastWrite]
    rcases List.mem_cons.mp h with rfl | h
    · simp
    · simp [ih h]

/-- **Covered keys.**  The last writes alone decide what a key holds that they write. -/
theorem writeAll_covered (store store' : κ → Option β) (ws vs : List (κ × β)) {k : κ}
    (h : k ∈ vs.map Prod.fst) :
    writeAll store (ws ++ vs) k = writeAll store' vs k := by
  rw [writeAll_apply, writeAll_apply, lastWrite_append]
  cases hlast : lastWrite k vs with
  | none => exact absurd hlast (lastWrite_ne_none h)
  | some v => simp

end ProjektMagisterski.Lib
