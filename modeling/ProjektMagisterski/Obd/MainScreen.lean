import ProjektMagisterski.Lib.Machine
import ProjektMagisterski.Obd.Screen

/-!
# The main screen

The sampling threads send their messages through the handler that the static
`mBluetoothIO` was constructed with, and the UI thread handles them one by one.  The
handler holds its `MainActivity` by a `WeakReference`, and only the first activity of a
process constructs `mBluetoothIO`.

* `shows_next`: with its first activity, the process shows the last value of each command;
* `Destroyed.next`: once that is destroyed, no later one shows anything that is handled;
* `mainScreen_exact`: both, and the exception that the process can end with from then on.

Messages other than readings change no view, and are left out.
-/

namespace ProjektMagisterski.Obd

open Function (update update_self update_of_ne)
open Lib Lib.Machine

abbrev ActivityId := Nat

/-- What a message says: a field, and the command it belongs to. -/
abbrev Shown := String × ObdCommand

/-- The process with the activities it has created. -/
structure MainProcess where
  /-- The activity of the handler that `mBluetoothIO` holds; none where that is null. -/
  mHandler : Option ActivityId := none
  /-- The activity on the screen. -/
  current : Option ActivityId := none
  nextActivity : ActivityId := 0
  screens : ActivityId → Screen
  collected : ActivityId → Bool := fun _ => false
  /-- A message was handled with an uncaught exception. -/
  crashed : Bool := false
  queue : List Shown := []
  /-- The messages handled so far. -/
  handled : List Shown := []

inductive MainAction where
  | onCreate
  | onDestroy
  /-- A sampling thread sends one message of its round. -/
  | send (formatted : String) (command : ObdCommand)
  /-- The UI thread handles the next message. -/
  | handleMessage
  /-- The garbage collector clears the reference to a destroyed activity. -/
  | collect (activity : ActivityId)
deriving DecidableEq

section Machine

variable (commandNames : List CommandName) (getName : ObdCommand → String) (layout : Screen)

namespace MainProcess

/-- `onCreate` inflates the layout, and constructs `mBluetoothIO` if there is none. -/
def onCreate (s : MainProcess) : MainProcess :=
  { s with
    mHandler := s.mHandler.or (some s.nextActivity)
    current := some s.nextActivity
    screens := update s.screens s.nextActivity layout
    nextActivity := s.nextActivity + 1 }

/-- `target` is null once the activity is collected. -/
def handleMessage (s : MainProcess) : MainProcess :=
  match s.queue, s.mHandler with
  | m :: queue, some target =>
    let s := { s with queue := queue, handled := s.handled ++ [m] }
    if s.collected target then { s with crashed := true }
    else
      match MainActivity.handleMessage commandNames (s.screens target)
          (liveMessage getName m.1 m.2) with
      | none => { s with crashed := true }
      | some screen => { s with screens := update s.screens target screen }
  | _, _ => s

def enabled (s : MainProcess) (a : MainAction) : Prop :=
  s.crashed = false ∧
    match a with
    | .onCreate => s.current = none
    | .onDestroy => s.current ≠ none
    | .send _ _ => s.mHandler ≠ none
    | .handleMessage => s.queue ≠ []
    | .collect activity => activity < s.nextActivity ∧ s.current ≠ some activity

instance (s : MainProcess) (a : MainAction) : Decidable (s.enabled a) := by
  cases a <;> dsimp only [enabled] <;> infer_instance

def next (s : MainProcess) : MainAction → MainProcess
  | .onCreate => s.onCreate layout
  | .onDestroy => { s with current := none }
  | .send formatted command => { s with queue := s.queue ++ [(fieldOf formatted, command)] }
  | .handleMessage => s.handleMessage commandNames getName
  | .collect activity => { s with collected := update s.collected activity true }

end MainProcess

def mainProcess : Machine MainProcess MainAction :=
  .guarded { screens := fun _ => layout } MainProcess.enabled
    (MainProcess.next commandNames getName layout)

/-- The screen shows for each command what the last message about it said. -/
def ShowsLive (s : MainProcess) : Prop :=
  s.crashed = false ∧ ∀ activity, s.current = some activity → ∀ view,
    s.screens activity view =
      (lastWrite view (s.handled.filterMap (writeOf commandNames getName))).or (layout view)

/-- The activity is not destroyed. -/
def KeepsActivity (_ : MainProcess) (a : MainAction) : Prop := a ≠ .onDestroy

/-! ## The invariant -/

/-- The one activity on the screen is the handler's, and shows what was handled. -/
structure Shows (s : MainProcess) : Prop where
  noCrash : s.crashed = false
  target : s.mHandler = s.current
  only : s.nextActivity = 0 ∧ s.current = none ∨ s.nextActivity = 1 ∧ s.current = some 0
  uncollected : ∀ activity, s.collected activity = false
  started : s.current = none → s.queue = [] ∧ s.handled = []
  shown : ∀ activity, s.current = some activity →
    s.screens activity = writeAll layout (s.handled.filterMap (writeOf commandNames getName))

variable {commandNames getName layout}

theorem handleMessage_shows (hnames : NamesCommands commandNames getName) {s : MainProcess}
    {m : Shown} {queue : List Shown} {target : ActivityId} (hqueue : s.queue = m :: queue)
    (htarget : s.mHandler = some target) (hthere : s.collected target = false) :
    s.handleMessage commandNames getName =
      { s with
        queue := queue
        handled := s.handled ++ [m]
        screens := update s.screens target
          (writeAll (s.screens target) (writeOf commandNames getName m).toList) } := by
  have hhandled := handleMessage_liveMessage commandNames getName hnames (s.screens target) m
  simp [MainProcess.handleMessage, hqueue, htarget, hthere, hhandled]

/-- The reference is null. -/
theorem handleMessage_collected {s : MainProcess} {m : Shown} {queue : List Shown}
    {target : ActivityId} (hqueue : s.queue = m :: queue) (htarget : s.mHandler = some target)
    (hgone : s.collected target = true) :
    (s.handleMessage commandNames getName).crashed = true := by
  simp [MainProcess.handleMessage, hqueue, htarget, hgone]

/-- **One step.** -/
theorem shows_next (hnames : NamesCommands commandNames getName) (s : MainProcess)
    (a : MainAction) (h : Shows commandNames getName layout s) (hok : KeepsActivity s a)
    (ha : s.enabled a) :
    Shows commandNames getName layout (s.next commandNames getName layout a) := by
  obtain ⟨hcrash, ha⟩ := ha
  cases a with
  | onCreate =>
    have hnone : s.current = none := ha
    obtain ⟨hqueue, hhandled⟩ := h.started hnone
    have hzero : s.nextActivity = 0 := by
      rcases h.only with ⟨hzero, -⟩ | ⟨-, hcurrent⟩
      · exact hzero
      · cases hnone.symm.trans hcurrent
    refine ⟨hcrash, ?_, ?_, h.uncollected, nofun, ?_⟩
    · simp [MainProcess.next, MainProcess.onCreate, h.target, hnone]
    · exact Or.inr (by simp [MainProcess.next, MainProcess.onCreate, hzero])
    · intro activity hactivity
      obtain rfl := Option.some.inj hactivity
      simp [MainProcess.next, MainProcess.onCreate, hhandled, writeAll]
  | onDestroy => exact absurd rfl hok
  | send formatted command =>
    have hthere : s.mHandler ≠ none := ha
    refine ⟨hcrash, h.target, h.only, h.uncollected, fun hnone => ?_, h.shown⟩
    exact absurd (h.target.trans hnone) hthere
  | handleMessage =>
    have hwaits : s.queue ≠ [] := ha
    have hcurrent : s.current = some 0 := by
      rcases h.only with ⟨-, hnone⟩ | ⟨-, hcurrent⟩
      · exact absurd (h.started hnone).1 hwaits
      · exact hcurrent
    obtain ⟨m, queue, hqueue⟩ := List.exists_cons_of_ne_nil hwaits
    have htarget := h.target.trans hcurrent
    rw [MainProcess.next, handleMessage_shows hnames hqueue htarget (h.uncollected 0)]
    refine ⟨hcrash, h.target, h.only, h.uncollected, fun hnone => ?_, ?_⟩
    · cases hnone.symm.trans hcurrent
    · intro activity hactivity
      obtain rfl := Option.some.inj (hcurrent.symm.trans hactivity)
      have hbefore := h.shown 0 hcurrent
      simp only [update_self, hbefore, List.filterMap_append, ← writeAll_append]
      cases hw : writeOf commandNames getName m <;> simp [hw]
  | collect activity =>
    obtain ⟨hlt, hne⟩ := ha
    rcases h.only with ⟨hzero, -⟩ | ⟨hone, hcurrent⟩
    · rw [hzero] at hlt
      exact absurd hlt (Nat.not_lt_zero activity)
    · rw [hone] at hlt
      obtain rfl := Nat.lt_one_iff.1 hlt
      exact absurd hcurrent hne

theorem mainProcess_steps (commandNames : List CommandName) (getName : ObdCommand → String)
    (layout : Screen) (s : MainProcess) (a : MainAction) (hok : a ≠ .onDestroy)
    (ha : s.enabled a) :
    (mainProcess commandNames getName layout).Steps KeepsActivity s
      (s.next commandNames getName layout a) :=
  Steps.guarded a hok ha

/-! ## After the activity is destroyed -/

/-- The handler's activity is gone for good; another one on the screen shows the layout. -/
structure Destroyed (layout : Screen) (s : MainProcess) : Prop where
  target : s.mHandler = some 0
  created : 0 < s.nextActivity
  gone : s.current ≠ some 0
  blank : ∀ activity, s.current = some activity → s.screens activity = layout

theorem destroyed_onDestroy {s : MainProcess} (h : Shows commandNames getName layout s)
    (hthere : s.current ≠ none) : Destroyed layout { s with current := none } := by
  obtain ⟨hone, hcurrent⟩ : s.nextActivity = 1 ∧ s.current = some 0 :=
    h.only.resolve_left fun hnone => hthere hnone.2
  exact ⟨h.target.trans hcurrent, by simp [hone], by simp, by simp⟩

/-- A message writes to the activity that is gone, if at all. -/
theorem Destroyed.handleMessage {s : MainProcess} (h : Destroyed layout s) :
    Destroyed layout (s.handleMessage commandNames getName) := by
  have hblank : ∀ screen activity, s.current = some activity →
      update s.screens 0 screen activity = layout := by
    intro screen activity hactivity
    have hne : activity ≠ 0 := fun he => h.gone (he ▸ hactivity)
    rw [update_of_ne hne]
    exact h.blank activity hactivity
  unfold MainProcess.handleMessage
  cases hqueue : s.queue with
  | nil => exact h
  | cons m queue =>
    simp only [h.target]
    split
    · exact ⟨rfl, h.created, h.gone, h.blank⟩
    · split
      · exact ⟨rfl, h.created, h.gone, h.blank⟩
      · exact ⟨rfl, h.created, h.gone, hblank _⟩

theorem Destroyed.next {s : MainProcess} (h : Destroyed layout s) (a : MainAction) :
    Destroyed layout (s.next commandNames getName layout a) := by
  cases a with
  | onCreate =>
    refine ⟨by simp [MainProcess.next, MainProcess.onCreate, h.target], Nat.succ_pos _, ?_, ?_⟩
    · intro hcurrent
      exact Nat.ne_of_gt h.created (Option.some.inj hcurrent)
    · intro activity hactivity
      obtain rfl := Option.some.inj hactivity
      exact update_self ..
  | onDestroy => exact ⟨h.target, h.created, by simp [MainProcess.next], by simp [MainProcess.next]⟩
  | handleMessage => exact h.handleMessage
  | send formatted command => exact ⟨h.target, h.created, h.gone, h.blank⟩
  | collect activity => exact ⟨h.target, h.created, h.gone, h.blank⟩

theorem Destroyed.steps {s t : MainProcess} (h : Destroyed layout s)
    (hsteps : (mainProcess commandNames getName layout).Steps anyStep s t) :
    Destroyed layout t := by
  refine hsteps.preserves ?_ h
  intro s a t hs _ hstep
  obtain ⟨-, rfl⟩ := (guarded_step _ _ _ _).1 hstep
  exact hs.next a

/-- The activity is collected, and the next message finds it gone. -/
theorem Destroyed.crash {s : MainProcess} (h : Destroyed layout s) :
    ∃ u, (mainProcess commandNames getName layout).Steps KeepsActivity s u ∧ u.crashed = true := by
  cases hcrashed : s.crashed with
  | true => exact ⟨s, Steps.refl s, hcrashed⟩
  | false =>
    have hcollect := mainProcess_steps commandNames getName layout s (.collect 0) (by simp)
      ⟨hcrashed, h.created, h.gone⟩
    have hsend := hcollect.trans (mainProcess_steps commandNames getName layout _
      (.send "" .speedCommand) (by simp) ⟨hcrashed, by simp [MainProcess.next, h.target]⟩)
    have hhandle := hsend.trans (mainProcess_steps commandNames getName layout _ .handleMessage
      (by simp) ⟨hcrashed, by simp [MainProcess.next]⟩)
    refine ⟨_, hhandle, ?_⟩
    obtain ⟨m, queue, hqueue⟩ := List.exists_cons_of_ne_nil
      (List.append_ne_nil_of_right_ne_nil s.queue (List.cons_ne_nil (fieldOf "", .speedCommand) []))
    exact handleMessage_collected hqueue h.target (by simp [MainProcess.next])

/-- **The main screen.**  Provided that the library names the commands as the layout does:
however the threads send their messages, the activity on the screen shows for each command
what the last message handled about it said, and no message is handled with an exception,
as long as the activity is not destroyed.  Once it is, as when the phone is turned, whatever
activity is on the screen shows nothing but the layout's texts, and at any time some
continuation ends the process. -/
theorem mainScreen_exact (commandNames : List CommandName) (getName : ObdCommand → String)
    (layout : Screen) (hnames : NamesCommands commandNames getName) :
    (mainProcess commandNames getName layout).Exact KeepsActivity
        (ShowsLive commandNames getName layout) ∧
      ∀ s t, (mainProcess commandNames getName layout).ReachUnder KeepsActivity s →
        (mainProcess commandNames getName layout).step s .onDestroy = some t →
        ∀ u, (mainProcess commandNames getName layout).Steps anyStep t u →
          (∀ activity, u.current = some activity → u.screens activity = layout) ∧
            ∃ v, (mainProcess commandNames getName layout).Steps KeepsActivity u v ∧
              v.crashed = true := by
  have hinit : Shows commandNames getName layout { screens := fun _ => layout } :=
    ⟨rfl, rfl, Or.inl ⟨rfl, rfl⟩, fun _ => rfl, fun _ => ⟨rfl, rfl⟩, nofun⟩
  have hnext : ∀ s a, Shows commandNames getName layout s → KeepsActivity s a → s.enabled a →
      Shows commandNames getName layout (s.next commandNames getName layout a) :=
    shows_next hnames
  constructor
  · refine exact_guarded (Shows commandNames getName layout) hinit hnext ?_ ?_
    · intro s hs
      refine ⟨hs.noCrash, fun activity hactivity view => ?_⟩
      rw [hs.shown activity hactivity, writeAll_apply]
    · intro s a hs hok ha
      obtain rfl := not_not.1 hok
      obtain ⟨u, hsteps, hcrashed⟩ := (destroyed_onDestroy hs ha.2).crash
      exact ⟨u, hsteps, fun hlive => by simp [hlive.1] at hcrashed⟩
  · intro s t hs hstep u hsteps
    have hshows : Shows commandNames getName layout s := by
      refine hs.invariant hinit ?_
      intro s a t hs hok hstep
      obtain ⟨ha, rfl⟩ := (guarded_step _ _ _ _).1 hstep
      exact hnext s a hs hok ha
    obtain ⟨ha, rfl⟩ := (guarded_step _ _ _ _).1 hstep
    have hu := (destroyed_onDestroy hshows ha.2).steps hsteps
    exact ⟨hu.blank, hu.crash⟩

end Machine

/-- The constants that the layout is made for. -/
theorem mainScreen_exact_names :
    (mainProcess (prepareCommands.all.map commandName) (fun c => (commandName c).value)
      fun _ => none).Exact KeepsActivity
      (ShowsLive (prepareCommands.all.map commandName) (fun c => (commandName c).value)
        fun _ => none) :=
  (mainScreen_exact _ _ _ namesCommands_commandName).1

end ProjektMagisterski.Obd
