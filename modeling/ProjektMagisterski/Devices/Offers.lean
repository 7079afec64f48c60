import Mathlib.Tactic.ByContra
import ProjektMagisterski.Devices.Model

/-!
# What the lists offer

* `Listed`: what the lists hold along runs in which no device is added twice or
  beside the placeholder;
* `listsDevices_exact`: exactly in these runs the second list holds the unbonded
  devices, once each and in order, or the placeholder;
* `offersDevices_exact`: exactly in those of them without any placeholder does every
  click connect to a device.
-/

namespace ProjektMagisterski.Devices

open Lib

section Activity

variable {checkBluetoothAddress : String → Bool}
  (pairedDevices : List (BluetoothDevice checkBluetoothAddress))

/-! ## The property -/

/-- The unbonded devices among the reported ones, in the order of the reports. -/
def unbonded (s : DeviceListActivity checkBluetoothAddress) :
    List (BluetoothDevice checkBluetoothAddress) :=
  s.reported.filter fun device => !isBonded pairedDevices device

/-- Their addresses, one for each report. -/
def addresses (s : DeviceListActivity checkBluetoothAddress) : List String :=
  (unbonded pairedDevices s).map BluetoothDevice.address

/-- The second list holds every unbonded device once, in the order of the first reports,
and the placeholder exactly if a scan has finished and there is none. -/
structure ListsDevices (s : DeviceListActivity checkBluetoothAddress) : Prop where
  devices : (s.unPairedDevicesList.filter (· ≠ noneFound)).map BTDevice.mAddress =
    (addresses pairedDevices s).eraseDups
  placeholder : noneFound ∈ s.unPairedDevicesList ↔
    s.scanFinished = true ∧ unbonded pairedDevices s = []

/-- **The lists offer the devices there are.** -/
structure OffersDevices (s : DeviceListActivity checkBluetoothAddress) : Prop where
  lists : ListsDevices pairedDevices s
  clicks : ∀ entry ∈ s.pairedDevicesList ++ s.unPairedDevicesList,
    ∃ device ∈ pairedDevices ++ s.reported,
      click checkBluetoothAddress entry = .connect device.address

/-! ## Entries -/

theorem click_entryOf (device : BluetoothDevice checkBluetoothAddress) :
    click checkBluetoothAddress (entryOf device) = .connect device.address := by
  simp [click, onItemClick, onActivityResult, entryOf, newBTDevice, device.valid]

theorem click_empty (hempty : checkBluetoothAddress "" = false) (entry : BTDevice)
    (h : entry.mAddress = "") :
    click checkBluetoothAddress entry = .illegalArgumentException := by
  simp [click, onItemClick, onActivityResult, h, hempty]

theorem entryOf_ne_noneFound (hempty : checkBluetoothAddress "" = false)
    (device : BluetoothDevice checkBluetoothAddress) : entryOf device ≠ noneFound := by
  intro h
  have haddress : device.address = "" := congrArg BTDevice.mAddress h
  have hvalid := device.valid
  rw [haddress, hempty] at hvalid
  exact absurd hvalid (by decide)

/-- The entries of devices pass the filter, and carry the addresses. -/
theorem filter_entryOf (hempty : checkBluetoothAddress "" = false)
    (devices : List (BluetoothDevice checkBluetoothAddress)) :
    ((devices.map entryOf).filter (· ≠ noneFound)).map BTDevice.mAddress =
      devices.map BluetoothDevice.address := by
  have hall : ∀ entry ∈ devices.map entryOf, decide (entry ≠ noneFound) = true := by
    intro entry h
    obtain ⟨device, _, rfl⟩ := List.mem_map.mp h
    exact decide_eq_true (entryOf_ne_noneFound hempty device)
  rw [List.filter_eq_self.mpr hall, List.map_map]
  rfl

theorem noneFound_not_mem (hempty : checkBluetoothAddress "" = false)
    (devices : List (BluetoothDevice checkBluetoothAddress)) :
    noneFound ∉ devices.map entryOf := by
  intro h
  obtain ⟨device, _, heq⟩ := List.mem_map.mp h
  exact entryOf_ne_noneFound hempty device heq

/-! ## Reports -/

theorem eraseDups_concat (l : List String) (a : String) :
    (l ++ [a]).eraseDups = if a ∈ l then l.eraseDups else l.eraseDups ++ [a] := by
  rw [List.eraseDups_append]
  split <;> simp_all [List.removeAll, List.eraseDups_cons]

/-- A bonded device does not change the list. -/
theorem list_bonded (s : DeviceListActivity checkBluetoothAddress)
    {device : BluetoothDevice checkBluetoothAddress} (h : isBonded pairedDevices device = true) :
    (onReceive pairedDevices s (.actionFound device)).unPairedDevicesList =
      s.unPairedDevicesList := by
  simp [onReceive, h]

theorem list_unbonded (s : DeviceListActivity checkBluetoothAddress)
    {device : BluetoothDevice checkBluetoothAddress} (h : isBonded pairedDevices device = false) :
    (onReceive pairedDevices s (.actionFound device)).unPairedDevicesList =
      s.unPairedDevicesList ++ [entryOf device] := by
  simp [onReceive, h]

theorem unbonded_bonded (s : DeviceListActivity checkBluetoothAddress)
    {device : BluetoothDevice checkBluetoothAddress} (h : isBonded pairedDevices device = true) :
    unbonded pairedDevices (onReceive pairedDevices s (.actionFound device)) =
      unbonded pairedDevices s := by
  simp [onReceive, unbonded, h]

theorem unbonded_unbonded (s : DeviceListActivity checkBluetoothAddress)
    {device : BluetoothDevice checkBluetoothAddress} (h : isBonded pairedDevices device = false) :
    unbonded pairedDevices (onReceive pairedDevices s (.actionFound device)) =
      unbonded pairedDevices s ++ [device] := by
  simp [onReceive, unbonded, h]

theorem addresses_unbonded (s : DeviceListActivity checkBluetoothAddress)
    {device : BluetoothDevice checkBluetoothAddress} (h : isBonded pairedDevices device = false) :
    addresses pairedDevices (onReceive pairedDevices s (.actionFound device)) =
      addresses pairedDevices s ++ [device.address] := by
  rw [addresses, unbonded_unbonded pairedDevices s h, List.map_append]
  rfl

theorem isBonded_congr {d e : BluetoothDevice checkBluetoothAddress}
    (h : d.address = e.address) : isBonded pairedDevices d = isBonded pairedDevices e := by
  rw [isBonded, isBonded, h]

/-- An unbonded device was reported before if and only if its address is listed. -/
theorem mem_addresses_iff (s : DeviceListActivity checkBluetoothAddress)
    (device : BluetoothDevice checkBluetoothAddress)
    (h : isBonded pairedDevices device = false) :
    device.address ∈ addresses pairedDevices s ↔
      ∃ r ∈ s.reported, r.address = device.address := by
  constructor
  · intro hmem
    obtain ⟨r, hr, haddress⟩ := List.mem_map.mp hmem
    exact ⟨r, (List.mem_filter.mp hr).1, haddress⟩
  · rintro ⟨r, hr, haddress⟩
    have hbond : isBonded pairedDevices r = false :=
      (isBonded_congr pairedDevices haddress).trans h
    exact List.mem_map.mpr ⟨r, List.mem_filter.mpr ⟨hr, by simp [hbond]⟩, haddress⟩

/-! ## The second list -/

/-- The list is the placeholder's. -/
def ShowsPlaceholder (s : DeviceListActivity checkBluetoothAddress) : Prop :=
  s.scanFinished = true ∧ unbonded pairedDevices s = []

/-- A device is added only on its first report, and not beside the placeholder. -/
def AddsOnce (s : DeviceListActivity checkBluetoothAddress) :
    Broadcast checkBluetoothAddress → Prop
  | .actionFound device =>
    isBonded pairedDevices device = true ∨
      (∀ r ∈ s.reported, r.address ≠ device.address) ∧ ¬ ShowsPlaceholder pairedDevices s
  | .actionDiscoveryFinished => True

/-- What the lists hold as long as every device is added once. -/
structure Listed (s : DeviceListActivity checkBluetoothAddress) : Prop where
  paired : s.pairedDevicesList = (onCreate pairedDevices).pairedDevicesList
  distinct : (addresses pairedDevices s).eraseDups = addresses pairedDevices s
  placeholder : ShowsPlaceholder pairedDevices s → s.unPairedDevicesList = [noneFound]
  entries : ¬ ShowsPlaceholder pairedDevices s →
    s.unPairedDevicesList = (unbonded pairedDevices s).map entryOf

theorem listed_onCreate : Listed pairedDevices (onCreate pairedDevices) := by
  constructor
  · rfl
  · rfl
  · intro h
    exact absurd h.1 Bool.false_ne_true
  · intro _
    rfl

theorem Listed.actionFound_bonded {s : DeviceListActivity checkBluetoothAddress}
    {device : BluetoothDevice checkBluetoothAddress} (hs : Listed pairedDevices s)
    (hb : isBonded pairedDevices device = true) :
    Listed pairedDevices (onReceive pairedDevices s (.actionFound device)) := by
  have hsame := unbonded_bonded pairedDevices s hb
  have hlist := list_bonded pairedDevices s hb
  have hshows : ShowsPlaceholder pairedDevices (onReceive pairedDevices s (.actionFound device)) ↔
      ShowsPlaceholder pairedDevices s := by
    rw [ShowsPlaceholder, hsame]
    rfl
  constructor
  · exact hs.paired
  · rw [addresses, hsame]
    exact hs.distinct
  · rw [hshows, hlist]
    exact hs.placeholder
  · rw [hshows, hlist, hsame]
    exact hs.entries

theorem Listed.actionFound_unbonded {s : DeviceListActivity checkBluetoothAddress}
    {device : BluetoothDevice checkBluetoothAddress} (hs : Listed pairedDevices s)
    (hb : isBonded pairedDevices device = false)
    (hfirst : ∀ r ∈ s.reported, r.address ≠ device.address)
    (hno : ¬ ShowsPlaceholder pairedDevices s) :
    Listed pairedDevices (onReceive pairedDevices s (.actionFound device)) := by
  have hnew : device.address ∉ addresses pairedDevices s := by
    rw [mem_addresses_iff pairedDevices s device hb]
    rintro ⟨r, hr, haddress⟩
    exact hfirst r hr haddress
  constructor
  · exact hs.paired
  · rw [addresses_unbonded pairedDevices s hb, eraseDups_concat, if_neg hnew, hs.distinct]
  · intro h
    rw [ShowsPlaceholder, unbonded_unbonded pairedDevices s hb] at h
    exact absurd h.2 (by simp)
  · intro _
    rw [unbonded_unbonded pairedDevices s hb, list_unbonded pairedDevices s hb, List.map_append,
      ← hs.entries hno]
    rfl

theorem Listed.discoveryFinished {s : DeviceListActivity checkBluetoothAddress}
    (hs : Listed pairedDevices s) :
    Listed pairedDevices (onReceive pairedDevices s .actionDiscoveryFinished) := by
  constructor
  · exact hs.paired
  · exact hs.distinct
  · rintro ⟨_, hnone⟩
    by_cases hshows : ShowsPlaceholder pairedDevices s
    · simp [onReceive, hs.placeholder hshows]
    · have hnone : unbonded pairedDevices s = [] := hnone
      have hlist : s.unPairedDevicesList = [] := by rw [hs.entries hshows, hnone, List.map_nil]
      simp [onReceive, hlist]
  · intro h
    have hsome : unbonded pairedDevices s ≠ [] := fun hnone => h ⟨rfl, hnone⟩
    have hlist := hs.entries fun hempty => hsome hempty.2
    have hlen : s.unPairedDevicesList.length ≠ 0 := by
      rw [hlist, List.length_map]
      exact mt List.length_eq_zero_iff.mp hsome
    simp only [onReceive, if_neg hlen]
    exact hlist

/-- **One broadcast.** -/
theorem Listed.step {s : DeviceListActivity checkBluetoothAddress}
    {broadcast : Broadcast checkBluetoothAddress} (hs : Listed pairedDevices s)
    (hok : AddsOnce pairedDevices s broadcast) :
    Listed pairedDevices (onReceive pairedDevices s broadcast) := by
  cases broadcast with
  | actionFound device =>
    cases hb : isBonded pairedDevices device with
    | true => exact hs.actionFound_bonded pairedDevices hb
    | false =>
      obtain ⟨hfirst, hno⟩ := hok.resolve_left (by simp [hb])
      exact hs.actionFound_unbonded pairedDevices hb hfirst hno
  | actionDiscoveryFinished => exact hs.discoveryFinished pairedDevices

theorem Listed.listsDevices (hempty : checkBluetoothAddress "" = false)
    {s : DeviceListActivity checkBluetoothAddress} (hs : Listed pairedDevices s) :
    ListsDevices pairedDevices s := by
  by_cases hshows : ShowsPlaceholder pairedDevices s
  · constructor
    · rw [hs.placeholder hshows, addresses, hshows.2]
      rfl
    · rw [hs.placeholder hshows]
      exact ⟨fun _ => hshows, fun _ => List.mem_singleton_self _⟩
  · constructor
    · rw [hs.entries hshows, filter_entryOf hempty, hs.distinct]
      rfl
    · rw [hs.entries hshows]
      exact ⟨fun h => absurd h (noneFound_not_mem hempty _), fun h => absurd h hshows⟩

/-- A device that is added a second time is listed twice. -/
theorem not_listsDevices_of_repeated (hempty : checkBluetoothAddress "" = false)
    {s : DeviceListActivity checkBluetoothAddress} (hs : Listed pairedDevices s)
    {device : BluetoothDevice checkBluetoothAddress}
    (hb : isBonded pairedDevices device = false)
    (h : ¬ ∀ r ∈ s.reported, r.address ≠ device.address) :
    ¬ ListsDevices pairedDevices (onReceive pairedDevices s (.actionFound device)) := by
  intro hlists
  have hmem : device.address ∈ addresses pairedDevices s := by
    rw [mem_addresses_iff pairedDevices s device hb]
    by_contra hnone
    exact h fun r hr haddress => hnone ⟨r, hr, haddress⟩
  have hno : ¬ ShowsPlaceholder pairedDevices s := by
    intro hempty
    rw [addresses, hempty.2] at hmem
    exact absurd hmem List.not_mem_nil
  have hdevices := hlists.devices
  rw [addresses_unbonded pairedDevices s hb, eraseDups_concat, if_pos hmem, hs.distinct,
    list_unbonded pairedDevices s hb, hs.entries hno, ← List.map_singleton, ← List.map_append,
    filter_entryOf hempty, List.map_append] at hdevices
  have hlen := congrArg List.length hdevices
  simp [addresses] at hlen

/-- A device that is added beside the placeholder leaves it in the list. -/
theorem not_listsDevices_of_placeholder
    {s : DeviceListActivity checkBluetoothAddress} (hs : Listed pairedDevices s)
    {device : BluetoothDevice checkBluetoothAddress}
    (hb : isBonded pairedDevices device = false) (h : ShowsPlaceholder pairedDevices s) :
    ¬ ListsDevices pairedDevices (onReceive pairedDevices s (.actionFound device)) := by
  intro hlists
  have hplaceholder := hlists.placeholder
  rw [list_unbonded pairedDevices s hb, hs.placeholder h, unbonded_unbonded pairedDevices s hb]
    at hplaceholder
  have hnone := (hplaceholder.mp (by simp)).2
  simp at hnone

/-- **The second list** is right exactly in the runs that add every device once and
never beside the placeholder. -/
theorem listsDevices_exact (hempty : checkBluetoothAddress "" = false) :
    (deviceList pairedDevices).Exact (AddsOnce pairedDevices) (ListsDevices pairedDevices) := by
  apply Machine.exact_of_invariant (Listed pairedDevices)
  · exact listed_onCreate pairedDevices
  · rintro s broadcast t hs hok ⟨⟩
    exact hs.step pairedDevices hok
  · intro s hs
    exact hs.listsDevices pairedDevices hempty
  · rintro s broadcast t hs hnot ⟨⟩
    refine ⟨_, Machine.Steps.refl _, ?_⟩
    cases broadcast with
    | actionDiscoveryFinished => exact absurd trivial hnot
    | actionFound device =>
      obtain ⟨hb, hadds⟩ := not_or.mp hnot
      have hb := Bool.eq_false_iff.mpr hb
      by_cases hfirst : ∀ r ∈ s.reported, r.address ≠ device.address
      · apply not_listsDevices_of_placeholder pairedDevices hs hb
        by_contra hno
        exact hadds ⟨hfirst, hno⟩
      · exact not_listsDevices_of_repeated pairedDevices hempty hs hb hfirst

/-! ## Both lists and the clicks -/

/-- A device is added only on its first report, and no scan finishes before an
unbonded device is reported. -/
def OnlyDevices (s : DeviceListActivity checkBluetoothAddress) :
    Broadcast checkBluetoothAddress → Prop
  | .actionFound device =>
    isBonded pairedDevices device = true ∨ ∀ r ∈ s.reported, r.address ≠ device.address
  | .actionDiscoveryFinished => ∃ r ∈ s.reported, isBonded pairedDevices r = false

theorem unbonded_eq_nil_iff (s : DeviceListActivity checkBluetoothAddress) :
    unbonded pairedDevices s = [] ↔ ¬ ∃ r ∈ s.reported, isBonded pairedDevices r = false := by
  simp [unbonded]

theorem noPlaceholder_step {s : DeviceListActivity checkBluetoothAddress}
    {broadcast : Broadcast checkBluetoothAddress} (hno : ¬ ShowsPlaceholder pairedDevices s)
    (hok : OnlyDevices pairedDevices s broadcast) :
    ¬ ShowsPlaceholder pairedDevices (onReceive pairedDevices s broadcast) := by
  rintro ⟨hfinished, hnone⟩
  cases broadcast with
  | actionFound device =>
    cases hb : isBonded pairedDevices device with
    | true =>
      rw [unbonded_bonded pairedDevices s hb] at hnone
      exact hno ⟨hfinished, hnone⟩
    | false =>
      rw [unbonded_unbonded pairedDevices s hb] at hnone
      simp at hnone
  | actionDiscoveryFinished => exact (unbonded_eq_nil_iff pairedDevices s).mp hnone hok

/-- Without a placeholder every entry is that of a device. -/
theorem Listed.offersDevices (hempty : checkBluetoothAddress "" = false)
    (hpaired : pairedDevices ≠ []) {s : DeviceListActivity checkBluetoothAddress}
    (hs : Listed pairedDevices s) (hno : ¬ ShowsPlaceholder pairedDevices s) :
    OffersDevices pairedDevices s := by
  refine ⟨hs.listsDevices pairedDevices hempty, ?_⟩
  intro entry hentry
  rw [hs.paired, hs.entries hno, onCreate, if_pos (List.length_pos_iff.mpr hpaired),
    ← List.map_append] at hentry
  obtain ⟨device, hdevice, rfl⟩ := List.mem_map.mp hentry
  refine ⟨device, ?_, click_entryOf device⟩
  rcases List.mem_append.mp hdevice with h | h
  · exact List.mem_append_left _ h
  · exact List.mem_append_right _ (List.mem_filter.mp h).1

/-- A click on a placeholder does not connect. -/
theorem not_offersDevices_of_empty (hempty : checkBluetoothAddress "" = false)
    {s : DeviceListActivity checkBluetoothAddress} (entry : BTDevice)
    (hentry : entry ∈ s.pairedDevicesList ++ s.unPairedDevicesList) (h : entry.mAddress = "") :
    ¬ OffersDevices pairedDevices s := by
  intro hoffers
  obtain ⟨device, _, hclick⟩ := hoffers.clicks entry hentry
  rw [click_empty hempty entry h] at hclick
  exact absurd hclick (by simp)

theorem pairedDevicesList_eq {s : DeviceListActivity checkBluetoothAddress}
    (h : (deviceList pairedDevices).Reachable s) :
    s.pairedDevicesList = (onCreate pairedDevices).pairedDevicesList := by
  show (fun s : DeviceListActivity checkBluetoothAddress =>
    s.pairedDevicesList = (onCreate pairedDevices).pairedDevicesList) s
  apply h.invariant
  · rfl
  · rintro s broadcast t hs _ ⟨⟩
    cases broadcast with
    | actionFound device => exact hs
    | actionDiscoveryFinished => exact hs

/-- **The device lists.**  With a bonded device, the lists are right and every click
connects exactly in the runs that add every device once and never the placeholder;
with none, the placeholder of the first list is wrong from the start. -/
theorem offersDevices_exact (hempty : checkBluetoothAddress "" = false) :
    (pairedDevices ≠ [] →
      (deviceList pairedDevices).Exact (OnlyDevices pairedDevices) (OffersDevices pairedDevices)) ∧
    (pairedDevices = [] →
      ∀ s, (deviceList pairedDevices).Reachable s → ¬ OffersDevices pairedDevices s) := by
  constructor
  · intro hpaired
    apply Machine.exact_of_invariant
      (fun s => Listed pairedDevices s ∧ ¬ ShowsPlaceholder pairedDevices s)
    · exact ⟨listed_onCreate pairedDevices, fun h => Bool.false_ne_true h.1⟩
    · rintro s broadcast t ⟨hs, hno⟩ hok ⟨⟩
      refine ⟨hs.step pairedDevices ?_, noPlaceholder_step pairedDevices hno hok⟩
      cases broadcast with
      | actionFound device => exact hok.imp_right fun hfirst => ⟨hfirst, hno⟩
      | actionDiscoveryFinished => trivial
    · rintro s ⟨hs, hno⟩
      exact hs.offersDevices pairedDevices hempty hpaired hno
    · rintro s broadcast t ⟨hs, hno⟩ hnot ⟨⟩
      refine ⟨_, Machine.Steps.refl _, ?_⟩
      cases broadcast with
      | actionFound device =>
        obtain ⟨hb, hfirst⟩ := not_or.mp hnot
        intro hoffers
        exact not_listsDevices_of_repeated pairedDevices hempty hs (Bool.eq_false_iff.mpr hb)
          hfirst hoffers.lists
      | actionDiscoveryFinished =>
        have hnone := (unbonded_eq_nil_iff pairedDevices s).mpr hnot
        have hlist : s.unPairedDevicesList = [] := by rw [hs.entries hno, hnone, List.map_nil]
        apply not_offersDevices_of_empty pairedDevices hempty noneFound
        · simp [onReceive, hlist]
        · rfl
  · intro hpaired s h
    apply not_offersDevices_of_empty pairedDevices hempty nonePaired
    · rw [pairedDevicesList_eq pairedDevices h, onCreate, hpaired]
      simp
    · rfl

end Activity

/-! ## Runs -/

/-- The documented format of an address: six pairs of upper-case hexadecimal digits
between colons. -/
def isMacAddress (address : String) : Bool :=
  address.toList.length == 17 &&
    address.toList.zipIdx.all fun (c, i) =>
      if i % 3 = 2 then c == ':' else "0123456789ABCDEF".toList.contains c

def headset : BluetoothDevice isMacAddress := ⟨some "Headset", "00:11:22:33:AA:BB", by decide⟩

def adapter : BluetoothDevice isMacAddress := ⟨some "OBDII", "00:1D:A5:68:98:8B", by decide⟩

/-- A headset is bonded. -/
theorem offersDevices_headset :
    ([headset] ≠ [] →
      (deviceList [headset]).Exact (OnlyDevices [headset]) (OffersDevices [headset])) ∧
    ([headset] = [] →
      ∀ s, (deviceList [headset]).Reachable s → ¬ OffersDevices [headset] s) :=
  offersDevices_exact [headset] (by decide)

/-- The adapter is reported by two scans. -/
theorem repeatedReport_listed_twice :
    ∃ s, (deviceList [headset]).Reachable s ∧ ¬ OffersDevices [headset] s := by
  refine ⟨_, Machine.reachable_of_exec [.actionFound adapter, .actionDiscoveryFinished,
    .actionFound adapter] rfl, ?_⟩
  intro h
  exact absurd h.lists.devices (by decide)

end ProjektMagisterski.Devices
