import Mathlib.Logic.Relation

/-!
# Labelled machines and step conditions

A machine has one start and, for each label, at most one next state.  Runs are
the reflexive-transitive closure of its steps (`Steps`), possibly only of the
steps that meet a condition `ok` on the state before the step and on the label.

* `ReachUnder.invariant`: what the start has and every allowed step preserves
  holds of every state reached by allowed steps;
* `exec_steps`: a list of labels that executes is a run;
* `Exact`: `P` holds along the runs whose steps meet `ok`, and can fail after any other
  step; `exact_of_invariant` and `exact_guarded` reduce this to facts about single steps.
-/

namespace ProjektMagisterski.Lib

/-- A machine over states `σ` and labels `ι`; `none` where a label is not enabled. -/
structure Machine (σ ι : Type) where
  init : σ
  step : σ → ι → Option σ

namespace Machine

variable {σ ι : Type} {M : Machine σ ι} {ok : σ → ι → Prop} {s t u : σ}

/-- The condition that every step meets. -/
def anyStep : σ → ι → Prop := fun _ _ => True

/-- Some step that meets `ok` leads from `s` to `t`. -/
def StepUnder (M : Machine σ ι) (ok : σ → ι → Prop) (s t : σ) : Prop :=
  ∃ a, ok s a ∧ M.step s a = some t

/-- A run from `s` to `t` whose steps all meet `ok`. -/
def Steps (M : Machine σ ι) (ok : σ → ι → Prop) : σ → σ → Prop :=
  Relation.ReflTransGen (M.StepUnder ok)

/-- `s` is reached from the start by steps that all meet `ok`. -/
def ReachUnder (M : Machine σ ι) (ok : σ → ι → Prop) (s : σ) : Prop :=
  M.Steps ok M.init s

/-- `s` is reached from the start. -/
def Reachable (M : Machine σ ι) (s : σ) : Prop := M.ReachUnder anyStep s

/-- The machine that takes the step `next` wherever the guard holds. -/
def guarded (init : σ) (enabled : σ → ι → Prop) [∀ s a, Decidable (enabled s a)]
    (next : σ → ι → σ) : Machine σ ι where
  init := init
  step := fun s a => if enabled s a then some (next s a) else none

theorem guarded_step (init : σ) (enabled : σ → ι → Prop) [∀ s a, Decidable (enabled s a)]
    (next : σ → ι → σ) (a : ι) :
    (guarded init enabled next).step s a = some t ↔ enabled s a ∧ next s a = t := by
  simp [guarded]

/-! ## Runs -/

theorem Steps.refl (s : σ) : M.Steps ok s s := Relation.ReflTransGen.refl

theorem Steps.trans (h : M.Steps ok s t) (h' : M.Steps ok t u) : M.Steps ok s u :=
  Relation.ReflTransGen.trans h h'

theorem Steps.single (a : ι) (hok : ok s a) (h : M.step s a = some t) : M.Steps ok s t :=
  Relation.ReflTransGen.single ⟨a, hok, h⟩

/-- A run whose steps meet more than is asked for. -/
theorem Steps.mono {ok' : σ → ι → Prop} (hok : ∀ s a, ok s a → ok' s a)
    (h : M.Steps ok s t) : M.Steps ok' s t := by
  refine Relation.ReflTransGen.mono ?_ s t h
  rintro u v ⟨a, ha, hstep⟩
  exact ⟨a, hok u a ha, hstep⟩

theorem ReachUnder.mono {ok' : σ → ι → Prop} (hok : ∀ s a, ok s a → ok' s a)
    (h : M.ReachUnder ok s) : M.ReachUnder ok' s :=
  Steps.mono hok h

theorem ReachUnder.reachable (h : M.ReachUnder ok s) : M.Reachable s :=
  h.mono fun _ _ _ => trivial

theorem Steps.guarded {init : σ} {enabled : σ → ι → Prop} [∀ s a, Decidable (enabled s a)]
    {next : σ → ι → σ} (a : ι) (hok : ok s a) (h : enabled s a) :
    (guarded init enabled next).Steps ok s (next s a) :=
  Steps.single a hok ((guarded_step init enabled next a).2 ⟨h, rfl⟩)

/-- Execute a list of labels, if all of them are enabled in turn. -/
def exec (M : Machine σ ι) (s : σ) : List ι → Option σ
  | [] => some s
  | a :: as =>
    match M.step s a with
    | none => none
    | some t => exec M t as

/-- A list of labels that executes is a run, and it is allowed where its labels always are. -/
theorem exec_steps (as : List ι) (hok : ∀ s, ∀ a ∈ as, ok s a) (h : M.exec s as = some t) :
    M.Steps ok s t := by
  induction as generalizing s with
  | nil =>
    simp only [exec, Option.some.injEq] at h
    subst h
    exact Steps.refl s
  | cons a as ih =>
    simp only [exec] at h
    cases hs : M.step s a with
    | none => simp [hs] at h
    | some r =>
      rw [hs] at h
      have hrest := ih (fun s b hb => hok s b (List.mem_cons_of_mem a hb)) h
      exact (Steps.single a (hok s a List.mem_cons_self) hs).trans hrest

theorem reachable_of_exec (as : List ι) (h : M.exec M.init as = some s) : M.Reachable s :=
  exec_steps as (fun _ _ _ => trivial) h

/-! ## Invariants -/

/-- What holds of `s` and is preserved by every allowed step holds after a run from `s`. -/
theorem Steps.preserves {Inv : σ → Prop}
    (hstep : ∀ s a t, Inv s → ok s a → M.step s a = some t → Inv t)
    (h : M.Steps ok s t) (hs : Inv s) : Inv t := by
  induction h with
  | refl => exact hs
  | tail _ hst ih =>
    obtain ⟨a, hok, he⟩ := hst
    exact hstep _ a _ ih hok he

/-- **Invariant rule.** -/
theorem ReachUnder.invariant {Inv : σ → Prop} (hinit : Inv M.init)
    (hstep : ∀ s a t, Inv s → ok s a → M.step s a = some t → Inv t)
    (h : M.ReachUnder ok s) : Inv s :=
  Steps.preserves hstep h hinit

/-! ## Exact step conditions -/

/-- `P` holds at `s`, and any step from `s` that does not meet `ok` can be
continued, by steps that meet `after`, to a state where `P` fails. -/
structure ExactVia (M : Machine σ ι) (ok after : σ → ι → Prop) (P : σ → Prop) (s : σ) :
    Prop where
  holds : P s
  breaks : ∀ a t, ¬ ok s a → M.step s a = some t → ∃ u, M.Steps after t u ∧ ¬ P u

/-- The continuation is made of allowed steps: one step that is not allowed is enough. -/
def ExactAt (M : Machine σ ι) (ok : σ → ι → Prop) (P : σ → Prop) (s : σ) : Prop :=
  M.ExactVia ok ok P s

/-- `P` holds in every state reached by allowed steps, and any other step from there can be
continued by allowed steps to a state where `P` fails. -/
def Exact (M : Machine σ ι) (ok : σ → ι → Prop) (P : σ → Prop) : Prop :=
  ∀ s, M.ReachUnder ok s → M.ExactAt ok P s

/-- An invariant of the allowed steps that gives `P`, and from which every
other step leads to a failure of `P`, makes the condition exact. -/
theorem exactVia_of_invariant {after : σ → ι → Prop} (Inv : σ → Prop) {P : σ → Prop}
    (hinit : Inv M.init)
    (hstep : ∀ s a t, Inv s → ok s a → M.step s a = some t → Inv t)
    (hP : ∀ s, Inv s → P s)
    (hbreak : ∀ s a t, Inv s → ¬ ok s a → M.step s a = some t →
      ∃ u, M.Steps after t u ∧ ¬ P u)
    (h : M.ReachUnder ok s) : M.ExactVia ok after P s := by
  have hs := h.invariant hinit hstep
  exact ⟨hP s hs, fun a t => hbreak s a t hs⟩

theorem exact_of_invariant (Inv : σ → Prop) {P : σ → Prop} (hinit : Inv M.init)
    (hstep : ∀ s a t, Inv s → ok s a → M.step s a = some t → Inv t)
    (hP : ∀ s, Inv s → P s)
    (hbreak : ∀ s a t, Inv s → ¬ ok s a → M.step s a = some t →
      ∃ u, M.Steps ok t u ∧ ¬ P u) :
    M.Exact ok P :=
  fun _ h => exactVia_of_invariant Inv hinit hstep hP hbreak h

section Guarded

variable {init : σ} {enabled : σ → ι → Prop} [∀ s a, Decidable (enabled s a)] {next : σ → ι → σ}

/-- The same for a machine given by guards and updates. -/
theorem exactVia_guarded {after : σ → ι → Prop} (Inv : σ → Prop) {P : σ → Prop}
    (hinit : Inv init)
    (hnext : ∀ s a, Inv s → ok s a → enabled s a → Inv (next s a))
    (hP : ∀ s, Inv s → P s)
    (hbreak : ∀ s a, Inv s → ¬ ok s a → enabled s a →
      ∃ u, (guarded init enabled next).Steps after (next s a) u ∧ ¬ P u)
    (h : (guarded init enabled next).ReachUnder ok s) :
    (guarded init enabled next).ExactVia ok after P s := by
  refine exactVia_of_invariant Inv hinit ?_ hP ?_ h
  · intro s a t h hok hstep
    obtain ⟨ha, rfl⟩ := (guarded_step init enabled next a).1 hstep
    exact hnext s a h hok ha
  · intro s a t h hok hstep
    obtain ⟨ha, rfl⟩ := (guarded_step init enabled next a).1 hstep
    exact hbreak s a h hok ha

theorem exact_guarded (Inv : σ → Prop) {P : σ → Prop} (hinit : Inv init)
    (hnext : ∀ s a, Inv s → ok s a → enabled s a → Inv (next s a))
    (hP : ∀ s, Inv s → P s)
    (hbreak : ∀ s a, Inv s → ¬ ok s a → enabled s a →
      ∃ u, (guarded init enabled next).Steps ok (next s a) u ∧ ¬ P u) :
    (guarded init enabled next).Exact ok P :=
  fun _ h => exactVia_guarded Inv hinit hnext hP hbreak h

end Guarded

end Machine

end ProjektMagisterski.Lib
