import ProjektMagisterski.Lib.Machine

/-!
# Choosing a device

`DeviceListActivity` with its two lists, fed by the broadcasts of the platform in
any order, and what `MainActivity.onActivityResult` does after a click on an entry.

The platform is outside the repository: `checkBluetoothAddress` is its test of an
address, which `getRemoteDevice` makes and every device of the platform passes.
-/

namespace ProjektMagisterski.Devices

open Lib

/-! ## Devices -/

/-- A device of the platform.  Devices are the same if their addresses are. -/
structure BluetoothDevice (checkBluetoothAddress : String → Bool) where
  name : Option String
  address : String
  valid : checkBluetoothAddress address = true

/-- An entry of the lists. -/
structure BTDevice where
  mName : String
  mAddress : String
deriving DecidableEq, Repr

/-- The constructor of `BTDevice`. -/
def newBTDevice (name : Option String) (address : String) : BTDevice where
  mName := name.getD "Not defined"
  mAddress := address

/-- `R.string.none_paired` as an entry. -/
def nonePaired : BTDevice := newBTDevice (some "No previously paired devices") ""

/-- `R.string.none_found` as an entry. -/
def noneFound : BTDevice := newBTDevice (some "No device found") ""

/-! ## Clicks -/

/-- What the click handler leaves in `BTProperties`. -/
structure BTProperties where
  mBTName : String
  mBTAddress : String

inductive ResultCode
  | ok
  | canceled

/-- How `onActivityResult` ends for `REQUEST_CONNECT_DEVICE`. -/
inductive ActivityResult
  | connect (address : String)
  /-- `getRemoteDevice` rejects the address. -/
  | illegalArgumentException
  /-- "Something went wrong, try to choose device again". -/
  | tryAgain
deriving DecidableEq, Repr

/-- `mDeviceClickListener`, for the entry that the row shows. -/
def onItemClick (entry : BTDevice) : ResultCode × BTProperties :=
  (.ok, { mBTName := entry.mName, mBTAddress := entry.mAddress })

section Platform

variable (checkBluetoothAddress : String → Bool)

def onActivityResult (resultCode : ResultCode) (properties : BTProperties) : ActivityResult :=
  match resultCode with
  | .canceled => .tryAgain
  | .ok =>
    if checkBluetoothAddress properties.mBTAddress then .connect properties.mBTAddress
    else .illegalArgumentException

/-- What comes of a click on an entry. -/
def click (entry : BTDevice) : ActivityResult :=
  let (resultCode, properties) := onItemClick entry
  onActivityResult checkBluetoothAddress resultCode properties

end Platform

/-! ## The activity -/

section Activity

variable {checkBluetoothAddress : String → Bool}

/-- The lists, with the devices reported so far and whether a scan has finished. -/
structure DeviceListActivity (checkBluetoothAddress : String → Bool) where
  pairedDevicesList : List BTDevice
  unPairedDevicesList : List BTDevice := []
  reported : List (BluetoothDevice checkBluetoothAddress) := []
  scanFinished : Bool := false

inductive Broadcast (checkBluetoothAddress : String → Bool)
  | actionFound (device : BluetoothDevice checkBluetoothAddress)
  | actionDiscoveryFinished

/-- The entry of a device. -/
def entryOf (device : BluetoothDevice checkBluetoothAddress) : BTDevice :=
  newBTDevice device.name device.address

variable (pairedDevices : List (BluetoothDevice checkBluetoothAddress))

/-- `getBondState() == BOND_BONDED`. -/
def isBonded (device : BluetoothDevice checkBluetoothAddress) : Bool :=
  pairedDevices.any fun paired => paired.address == device.address

/-- `onCreate`, for the bonded devices of the adapter. -/
def onCreate : DeviceListActivity checkBluetoothAddress where
  pairedDevicesList :=
    if pairedDevices.length > 0 then pairedDevices.map entryOf else [nonePaired]

/-- `mReceiver.onReceive`. -/
def onReceive (s : DeviceListActivity checkBluetoothAddress) :
    Broadcast checkBluetoothAddress → DeviceListActivity checkBluetoothAddress
  | .actionFound device =>
    { s with
      unPairedDevicesList :=
        if isBonded pairedDevices device = false then s.unPairedDevicesList ++ [entryOf device]
        else s.unPairedDevicesList
      reported := s.reported ++ [device] }
  | .actionDiscoveryFinished =>
    { s with
      unPairedDevicesList :=
        if s.unPairedDevicesList.length = 0 then s.unPairedDevicesList ++ [noneFound]
        else s.unPairedDevicesList
      scanFinished := true }

/-- The activity over any number of scans. -/
def deviceList :
    Machine (DeviceListActivity checkBluetoothAddress) (Broadcast checkBluetoothAddress) where
  init := onCreate pairedDevices
  step := fun s broadcast => some (onReceive pairedDevices s broadcast)

end Activity

end ProjektMagisterski.Devices
