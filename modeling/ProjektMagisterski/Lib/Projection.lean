import ProjektMagisterski.Lib.Machine

/-!
# Projections of machines

A machine that is put together from parts projects to each part: a step is a
step of the part, or leaves the part alone.

* `execUnder_steps`: a list of labels that executes under a condition is an allowed run;
* `Projection.reachUnder`: runs project to runs, and step conditions lift;
* `Projection.invariant`: what a part keeps along its runs holds in the whole;
* `ReachUnder.invariant_of`: the invariant rule with facts that are known along runs.
-/

namespace ProjektMagisterski.Lib.Machine

variable {σ ι σ' ι' : Type} {M : Machine σ ι} {M' : Machine σ' ι'} {ok : σ → ι → Prop}

/-! ## Step conditions -/

/-- One more allowed step. -/
theorem ReachUnder.next {s t : σ} (h : M.ReachUnder ok s) (a : ι) (ha : ok s a)
    (hstep : M.step s a = some t) : M.ReachUnder ok t :=
  Steps.trans h (Steps.single a ha hstep)

/-- Execute a list of labels, if all of them are enabled in turn and meet `ok`. -/
def execUnder (M : Machine σ ι) (ok : σ → ι → Prop) [∀ s a, Decidable (ok s a)] (s : σ) :
    List ι → Option σ
  | [] => some s
  | a :: as =>
    if ok s a then
      match M.step s a with
      | none => none
      | some t => execUnder M ok t as
    else none

/-- A list of labels that executes under `ok` is an allowed run. -/
theorem execUnder_steps [∀ s a, Decidable (ok s a)] (as : List ι) {s t : σ}
    (h : M.execUnder ok s as = some t) : M.Steps ok s t := by
  induction as generalizing s with
  | nil =>
    simp only [execUnder, Option.some.injEq] at h
    subst h
    exact Steps.refl s
  | cons a as ih =>
    simp only [execUnder] at h
    split at h
    · rename_i ha
      cases hs : M.step s a with
      | none => simp [hs] at h
      | some r =>
        rw [hs] at h
        exact (Steps.single a ha hs).trans (ih h)
    · cases h

theorem reachUnder_of_execUnder [∀ s a, Decidable (ok s a)] (as : List ι) {s : σ}
    (h : M.execUnder ok M.init as = some s) : M.ReachUnder ok s :=
  execUnder_steps as h

/-- **Invariant rule** with a fact `J` that is known of every state reached. -/
theorem ReachUnder.invariant_of {J I : σ → Prop} (hJ : ∀ s, M.ReachUnder ok s → J s)
    (hinit : I M.init) (hstep : ∀ s a t, J s → I s → ok s a → M.step s a = some t → I t)
    {s : σ} (h : M.ReachUnder ok s) : I s := by
  have hboth : M.ReachUnder ok s ∧ I s := by
    apply ReachUnder.invariant _ _ h
    · exact ⟨Steps.refl _, hinit⟩
    · rintro s a t ⟨hs, hI⟩ ha ht
      exact ⟨hs.next a ha ht, hstep s a t (hJ s hs) hI ha ht⟩
  exact hboth.2

/-! ## Projections -/

/-- `state` reads the part off the whole, and `label` what a step of the whole does to it. -/
structure Projection (M' : Machine σ' ι') (M : Machine σ ι) where
  state : σ' → σ
  label : σ' → ι' → Option ι
  init : state M'.init = M.init
  moves : ∀ s a t b, M'.step s a = some t → label s a = some b →
    M.step (state s) b = some (state t)
  rests : ∀ s a t, M'.step s a = some t → label s a = none → state t = state s

namespace Projection

variable (π : Projection M' M)

/-- A condition on the steps of the part, as one on the steps of the whole. -/
def lift (ok : σ → ι → Prop) : σ' → ι' → Prop :=
  fun s a => ∀ b, π.label s a = some b → ok (π.state s) b

instance [∀ s a, Decidable (ok s a)] (s : σ') (a : ι') : Decidable (π.lift ok s a) :=
  match h : π.label s a with
  | none => isTrue (by simp [lift, h])
  | some b => decidable_of_iff (ok (π.state s) b) (by simp [lift, h])

theorem steps {s t : σ'} (h : M'.Steps (π.lift ok) s t) : M.Steps ok (π.state s) (π.state t) := by
  induction h with
  | refl => exact Steps.refl _
  | tail _ hst ih =>
    obtain ⟨a, ha, hstep⟩ := hst
    rename_i u v _
    cases hb : π.label u a with
    | none =>
      rw [π.rests u a v hstep hb]
      exact ih
    | some b => exact ih.trans (Steps.single b (ha b hb) (π.moves u a v b hstep hb))

/-- **Runs project to runs.** -/
theorem reachUnder {s : σ'} (h : M'.ReachUnder (π.lift ok) s) : M.ReachUnder ok (π.state s) := by
  have hsteps := π.steps h
  rwa [π.init] at hsteps

theorem reachable {s : σ'} (h : M'.Reachable s) : M.Reachable (π.state s) :=
  π.reachUnder (h.mono fun _ _ _ _ _ => trivial)

/-- What holds along the allowed runs of the part holds along the whole's. -/
theorem invariant {P : σ → Prop} (hP : ∀ s, M.ReachUnder ok s → P s) {s : σ'}
    (h : M'.ReachUnder (π.lift ok) s) : P (π.state s) :=
  hP _ (π.reachUnder h)

end Projection

end ProjektMagisterski.Lib.Machine
