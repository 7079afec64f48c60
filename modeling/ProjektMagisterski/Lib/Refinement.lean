import ProjektMagisterski.Lib.Projection

/-!
# Refinement mappings

A machine refines a more abstract one under a step condition, when its states map to
abstract states such that every allowed step is at most one abstract step.  What the
mapping needs to know about the states is an invariant of its own, and what is known of
the abstract states that are reached.

* `Refinement.steps`: allowed runs are abstract runs;
* `Refinement.reachable`: so are the runs from the start.
-/

namespace ProjektMagisterski.Lib.Machine

variable {σ ι σ' ι' : Type}

/-- `abstract` maps the states of `M'` to those of `M`, and `event` says which abstract step
a step is, if it is one. -/
structure Refinement (M' : Machine σ' ι') (M : Machine σ ι) (ok : σ' → ι' → Prop) where
  abstract : σ' → σ
  event : σ' → ι' → Option ι
  Inv : σ' → Prop
  inv_init : Inv M'.init
  init : abstract M'.init = M.init
  inv_step : ∀ s a t, Inv s → M.Reachable (abstract s) → ok s a → M'.step s a = some t → Inv t
  moves : ∀ s a t e, Inv s → M.Reachable (abstract s) → ok s a → M'.step s a = some t →
    event s a = some e → M.step (abstract s) e = some (abstract t)
  rests : ∀ s a t, Inv s → ok s a → M'.step s a = some t → event s a = none →
    abstract t = abstract s

namespace Refinement

variable {M' : Machine σ' ι'} {M : Machine σ ι} {ok : σ' → ι' → Prop}
  (ρ : Refinement M' M ok)

/-- One allowed step is at most one abstract step. -/
theorem step {s t : σ'} {a : ι'} (hs : ρ.Inv s) (hreached : M.Reachable (ρ.abstract s))
    (hok : ok s a) (hstep : M'.step s a = some t) :
    M.Steps anyStep (ρ.abstract s) (ρ.abstract t) := by
  cases he : ρ.event s a with
  | none =>
    rw [ρ.rests s a t hs hok hstep he]
    exact Steps.refl _
  | some e => exact Steps.single e trivial (ρ.moves s a t e hs hreached hok hstep he)

/-- **Runs are abstract runs.** -/
theorem steps {s t : σ'} (hs : ρ.Inv s) (hreached : M.Reachable (ρ.abstract s))
    (h : M'.Steps ok s t) : ρ.Inv t ∧ M.Steps anyStep (ρ.abstract s) (ρ.abstract t) := by
  induction h with
  | refl => exact ⟨hs, Steps.refl _⟩
  | tail _ hst ih =>
    obtain ⟨a, hok, hstep⟩ := hst
    obtain ⟨ht, hsteps⟩ := ih
    have hreached := hreached.trans hsteps
    exact ⟨ρ.inv_step _ a _ ht hreached hok hstep, hsteps.trans (ρ.step ht hreached hok hstep)⟩

theorem reachable {s : σ'} (h : M'.ReachUnder ok s) :
    ρ.Inv s ∧ M.Reachable (ρ.abstract s) := by
  have hinit : M.Reachable (ρ.abstract M'.init) := by
    rw [ρ.init]
    exact Steps.refl _
  obtain ⟨hs, hsteps⟩ := ρ.steps ρ.inv_init hinit h
  exact ⟨hs, hinit.trans hsteps⟩

end Refinement

end ProjektMagisterski.Lib.Machine
