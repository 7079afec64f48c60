import Mathlib.Data.List.Induction
import ProjektMagisterski.Devices.Offers

/-!
# The rows of the lists

`ListsDevices` and `OffersDevices` only hold along some runs.  This is what the rows are
after any broadcasts.

* `Row`: a device, or the placeholder;
* `unPairedDevicesList_eq`: the second list, in closed form;
* `click_rows`: what a click on each row of both lists does.
-/

namespace ProjektMagisterski.Devices

open Lib

section Activity

variable {checkBluetoothAddress : String → Bool}
  (pairedDevices : List (BluetoothDevice checkBluetoothAddress))

/-- The activity after the broadcasts, in this order. -/
def receiveAll (broadcasts : List (Broadcast checkBluetoothAddress)) :
    DeviceListActivity checkBluetoothAddress :=
  broadcasts.foldl (onReceive pairedDevices) (onCreate pairedDevices)

theorem receiveAll_concat (broadcasts : List (Broadcast checkBluetoothAddress))
    (broadcast : Broadcast checkBluetoothAddress) :
    receiveAll pairedDevices (broadcasts ++ [broadcast]) =
      onReceive pairedDevices (receiveAll pairedDevices broadcasts) broadcast :=
  List.foldl_append

/-! ## Rows -/

/-- What a row shows: a device, or no device. -/
abbrev Row (checkBluetoothAddress : String → Bool) :=
  Option (BluetoothDevice checkBluetoothAddress)

/-- The unbonded devices that the broadcasts report, once for each report. -/
def found (broadcasts : List (Broadcast checkBluetoothAddress)) :
    List (BluetoothDevice checkBluetoothAddress) :=
  broadcasts.filterMap fun
    | .actionFound device => if isBonded pairedDevices device then none else some device
    | .actionDiscoveryFinished => none

/-- A scan finishes before the first unbonded device is reported. -/
def FinishesEarly : List (Broadcast checkBluetoothAddress) → Prop
  | [] => False
  | .actionFound device :: broadcasts =>
    isBonded pairedDevices device = true ∧ FinishesEarly broadcasts
  | .actionDiscoveryFinished :: _ => True

instance decidableFinishesEarly :
    (broadcasts : List (Broadcast checkBluetoothAddress)) →
      Decidable (FinishesEarly pairedDevices broadcasts)
  | [] => instDecidableFalse
  | .actionFound _ :: broadcasts =>
    have := decidableFinishesEarly broadcasts
    inferInstanceAs (Decidable (_ ∧ _))
  | .actionDiscoveryFinished :: _ => instDecidableTrue

def pairedRows : List (Row checkBluetoothAddress) :=
  if pairedDevices = [] then [none] else pairedDevices.map some

/-- The placeholder stays on top of the devices that are found later. -/
def foundRows (broadcasts : List (Broadcast checkBluetoothAddress)) :
    List (Row checkBluetoothAddress) :=
  (if FinishesEarly pairedDevices broadcasts then [none] else []) ++
    (found pairedDevices broadcasts).map some

def clickRow : Row checkBluetoothAddress → ActivityResult
  | none => .illegalArgumentException
  | some device => .connect device.address

/-! ## The second list -/

theorem found_append (broadcasts rest : List (Broadcast checkBluetoothAddress)) :
    found pairedDevices (broadcasts ++ rest) =
      found pairedDevices broadcasts ++ found pairedDevices rest :=
  List.filterMap_append

theorem found_cons (broadcast : Broadcast checkBluetoothAddress)
    (broadcasts : List (Broadcast checkBluetoothAddress)) :
    found pairedDevices (broadcast :: broadcasts) =
      found pairedDevices [broadcast] ++ found pairedDevices broadcasts :=
  found_append pairedDevices [broadcast] broadcasts

theorem found_bonded {device : BluetoothDevice checkBluetoothAddress}
    (h : isBonded pairedDevices device = true) :
    found pairedDevices [.actionFound device] = [] := by
  simp [found, h]

theorem found_unbonded {device : BluetoothDevice checkBluetoothAddress}
    (h : isBonded pairedDevices device = false) :
    found pairedDevices [.actionFound device] = [device] := by
  simp [found, h]

/-- A later broadcast makes a scan finish early only where nothing has been found. -/
theorem finishesEarly_append (broadcasts rest : List (Broadcast checkBluetoothAddress)) :
    FinishesEarly pairedDevices (broadcasts ++ rest) ↔
      FinishesEarly pairedDevices broadcasts ∨
        found pairedDevices broadcasts = [] ∧ FinishesEarly pairedDevices rest := by
  induction broadcasts with
  | nil => simp [FinishesEarly, found]
  | cons broadcast broadcasts ih =>
    rw [found_cons, List.cons_append]
    cases broadcast with
    | actionDiscoveryFinished => simp [FinishesEarly]
    | actionFound device =>
      simp only [FinishesEarly, ih]
      cases hb : isBonded pairedDevices device with
      | true => simp [found_bonded pairedDevices hb]
      | false => simp [found_unbonded pairedDevices hb]

/-- What a row shows. -/
def showRow : Row checkBluetoothAddress → BTDevice
  | none => noneFound
  | some device => entryOf device

theorem foundRows_eq_nil_iff (broadcasts : List (Broadcast checkBluetoothAddress)) :
    foundRows pairedDevices broadcasts = [] ↔
      ¬ FinishesEarly pairedDevices broadcasts ∧ found pairedDevices broadcasts = [] := by
  by_cases h : FinishesEarly pairedDevices broadcasts <;> simp [foundRows, h]

/-- **One broadcast.**  A found device goes to the end, and a placeholder comes first. -/
theorem foundRows_concat (broadcasts : List (Broadcast checkBluetoothAddress))
    (broadcast : Broadcast checkBluetoothAddress) :
    foundRows pairedDevices (broadcasts ++ [broadcast]) =
      foundRows pairedDevices broadcasts ++
        match broadcast with
        | .actionFound device => if isBonded pairedDevices device then [] else [some device]
        | .actionDiscoveryFinished =>
          if foundRows pairedDevices broadcasts = [] then [none] else [] := by
  have hearly := finishesEarly_append pairedDevices broadcasts [broadcast]
  have hfound := found_append pairedDevices broadcasts [broadcast]
  cases broadcast with
  | actionFound device =>
    have hsame : FinishesEarly pairedDevices (broadcasts ++ [.actionFound device]) ↔
        FinishesEarly pairedDevices broadcasts := by
      rw [hearly]
      simp [FinishesEarly]
    cases hb : isBonded pairedDevices device with
    | true =>
      rw [found_bonded pairedDevices hb, List.append_nil] at hfound
      simp [foundRows, hsame, hfound, hb]
    | false =>
      rw [found_unbonded pairedDevices hb] at hfound
      simp [foundRows, hsame, hfound, hb]
  | actionDiscoveryFinished =>
    have hnone : found pairedDevices [.actionDiscoveryFinished] = [] := rfl
    rw [hnone, List.append_nil] at hfound
    simp only [foundRows_eq_nil_iff]
    by_cases he : FinishesEarly pairedDevices broadcasts
    · simp [foundRows, hearly, hfound, he]
    · by_cases hf : found pairedDevices broadcasts = []
      · simp [foundRows, hearly, hfound, he, hf, FinishesEarly]
      · simp [foundRows, hearly, hfound, he, hf, FinishesEarly]

theorem unPairedDevicesList_eq (broadcasts : List (Broadcast checkBluetoothAddress)) :
    (receiveAll pairedDevices broadcasts).unPairedDevicesList =
      (foundRows pairedDevices broadcasts).map showRow := by
  induction broadcasts using List.reverseRecOn with
  | nil => rfl
  | append_singleton broadcasts broadcast ih =>
    rw [receiveAll_concat, foundRows_concat, List.map_append, ← ih]
    cases broadcast with
    | actionFound device =>
      cases hb : isBonded pairedDevices device with
      | true => simp [list_bonded pairedDevices _ hb, hb]
      | false => simp [list_unbonded pairedDevices _ hb, hb, showRow]
    | actionDiscoveryFinished =>
      simp only [onReceive, ih, List.length_map, List.length_eq_zero_iff]
      split
      · rfl
      · exact (List.append_nil _).symm

/-! ## Clicks -/

theorem pairedDevicesList_receiveAll (broadcasts : List (Broadcast checkBluetoothAddress)) :
    (receiveAll pairedDevices broadcasts).pairedDevicesList =
      (onCreate pairedDevices).pairedDevicesList := by
  induction broadcasts using List.reverseRecOn with
  | nil => rfl
  | append_singleton broadcasts broadcast ih =>
    rw [receiveAll_concat, ← ih]
    cases broadcast <;> rfl

theorem click_showRow (hempty : checkBluetoothAddress "" = false)
    (row : Row checkBluetoothAddress) :
    click checkBluetoothAddress (showRow row) = clickRow row := by
  cases row with
  | none => exact click_empty hempty _ rfl
  | some device => exact click_entryOf device

/-- **The rows.**  After any broadcasts, over any number of scans, the rows of the second
list are a placeholder, if a scan finished before a device was found, and the found
devices, once for each report; and a click on a row of either list connects to its device,
or throws on a placeholder. -/
theorem click_rows (hempty : checkBluetoothAddress "" = false)
    (broadcasts : List (Broadcast checkBluetoothAddress)) :
    (receiveAll pairedDevices broadcasts).unPairedDevicesList =
        (foundRows pairedDevices broadcasts).map showRow ∧
      (receiveAll pairedDevices broadcasts).unPairedDevicesList.map
          (click checkBluetoothAddress) = (foundRows pairedDevices broadcasts).map clickRow ∧
      (receiveAll pairedDevices broadcasts).pairedDevicesList.map (click checkBluetoothAddress) =
        (pairedRows pairedDevices).map clickRow := by
  have hrows : ∀ rows : List (Row checkBluetoothAddress),
      (rows.map showRow).map (click checkBluetoothAddress) = rows.map clickRow := by
    intro rows
    rw [List.map_map]
    exact List.map_congr_left fun row _ => click_showRow hempty row
  refine ⟨unPairedDevicesList_eq pairedDevices broadcasts, ?_, ?_⟩
  · rw [unPairedDevicesList_eq, hrows]
  · rw [pairedDevicesList_receiveAll, onCreate, pairedRows]
    by_cases hpaired : pairedDevices = []
    · rw [if_pos hpaired, hpaired]
      exact congrArg (fun result => [result]) (click_empty hempty nonePaired rfl)
    · rw [if_neg hpaired, if_pos (List.length_pos_iff.mpr hpaired), List.map_map, List.map_map]
      exact List.map_congr_left fun device _ => click_entryOf device

end Activity

/-- A scan without a device, and one that reports the adapter twice. -/
theorem click_rows_adapter :
    (receiveAll [headset] [.actionFound headset, .actionDiscoveryFinished, .actionFound adapter,
          .actionFound adapter]).unPairedDevicesList =
        (foundRows [headset] [.actionFound headset, .actionDiscoveryFinished,
          .actionFound adapter, .actionFound adapter]).map showRow ∧
      (receiveAll [headset] [.actionFound headset, .actionDiscoveryFinished, .actionFound adapter,
          .actionFound adapter]).unPairedDevicesList.map (click isMacAddress) =
        (foundRows [headset] [.actionFound headset, .actionDiscoveryFinished,
          .actionFound adapter, .actionFound adapter]).map clickRow ∧
      (receiveAll [headset] [.actionFound headset, .actionDiscoveryFinished, .actionFound adapter,
          .actionFound adapter]).pairedDevicesList.map (click isMacAddress) =
        (pairedRows [headset]).map clickRow :=
  click_rows [headset] (by decide) _

example : (foundRows [headset] [.actionFound headset, .actionDiscoveryFinished,
    .actionFound adapter, .actionFound adapter]).map clickRow =
      [.illegalArgumentException, .connect "00:1D:A5:68:98:8B", .connect "00:1D:A5:68:98:8B"] := by
  decide

end ProjektMagisterski.Devices
