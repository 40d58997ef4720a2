import StratoVirt.Format
import StratoVirt.Qmp.Command

/-!
# Replaceable devices

`LightMachine`'s `device_add`, `device_del` and `blockdev_add` (`micro_vm/mod.rs`) hand the
bus a device for a replaceable slot, its removal, and a block backend config.

`device_add` takes its slot from `addr` when the command gives one, read as hexadecimal
after every leading `0x`, and from `lun + 1` only when there is no `addr`.  An address of
hexadecimal digits gives the slot of their value, `format!("{:#x}", n)` gives `n` back,
and an address whose value does not fit in 64 bits gives slot 0, with no error
(`device_add_slot`).

## What is transcribed and what is ours

* `device_add`, `device_del` and `blockdev_add` are transcribed.
* The bus (`crate::mmio::Bus`) is not in the source: its `add_replaceable_device`,
  `del_replaceable_device` and `add_replaceable_config` are parameters, each with the
  outcome the code reads from it (`is_ok()`, or the path in `Ok`).
* `DriveConfig` (`machine_manager::config`) is not in the source either; it has the fields
  `blockdev_add` fills in.  The data of the `DEVICE_DELETED` event is the value `device_del`
  builds; the event's text is not modelled.
* `str::trim_start_matches` is modelled after its documentation, for the pattern `"0x"`.
* `lun + 1` wraps at 2^64, as in a release build.
-/

namespace StratoVirt

open Format Qmp

/-! ## `device_add` -/

/-- `str::trim_start_matches("0x")`: the string without every leading `"0x"`. -/
def trimStartMatches0x : List Char → List Char
  | '0' :: 'x' :: r => trimStartMatches0x r
  | s => s

/-- The slot `device_add` computes: from `addr` if it is given, else from `lun`, else 0. -/
def deviceAddSlot (addr : Option String) (lun : Option Nat) : UInt64 :=
  match addr with
  | some addr =>
    let slotStr := trimStartMatches0x addr.data
    match fromStrRadix slotStr 16 with
    | some n => n
    | none => 0
  | none =>
    match lun with
    | some lun => UInt64.ofNat lun + 1
    | none => 0

/-- `LightMachine::device_add`: `self.bus.add_replaceable_device(&id, &driver, slot).is_ok()`. -/
def deviceAdd (addReplaceableDevice : String → String → UInt64 → Bool) (id driver : String)
    (addr : Option String) (lun : Option Nat) : Bool :=
  addReplaceableDevice id driver (deviceAddSlot addr lun)

/-! ## `device_del` and `blockdev_add` -/

/-- `schema::DEVICE_DELETED`, the data of the event `device_del` sends. -/
structure DeviceDeleted where
  device : Option String
  path : String
deriving DecidableEq, Repr

/-- `LightMachine::device_del`: what it returns, and the event it sends. -/
def deviceDel (delReplaceableDevice : String → Option String) (deviceId : String) :
    Bool × Option DeviceDeleted :=
  match delReplaceableDevice deviceId with
  | some path => (true, some { device := some deviceId, path })
  | none => (false, none)

/-- `DriveConfig`, with the fields `blockdev_add` fills in. -/
structure DriveConfig where
  driveId : String
  pathOnHost : String
  readOnly : Bool
  direct : Bool
  serialNum : Option String
deriving DecidableEq, Repr

/-- `LightMachine::blockdev_add`: the config, read-write and direct unless the command
says otherwise, goes to `self.bus.add_replaceable_config`. -/
def blockdevAdd (addReplaceableConfig : String → DriveConfig → Bool) (nodeName : String)
    (file : FileOptions) (cache : Option CacheOptions) (readOnly : Option Bool) : Bool :=
  let readOnly := match readOnly with
    | some ro => ro
    | none => false
  let direct := match cache with
    | some cache =>
      match cache.direct with
      | some direct => direct
      | none => true
    | none => true
  let config : DriveConfig :=
    { driveId := nodeName, pathOnHost := file.filename, readOnly, direct, serialNum := none }
  addReplaceableConfig nodeName config

/-! ## The slot `device_add` reads -/

theorem trimStartMatches0x_of_ne {s : List Char} (h : ∀ r, s ≠ '0' :: 'x' :: r) :
    trimStartMatches0x s = s := by
  unfold trimStartMatches0x
  split
  · exact absurd rfl (h _)
  · rfl

/-- Hexadecimal digits start with no `"0x"`, since `x` is no digit. -/
theorem trimStartMatches0x_digits {ds : List Char} (hds : ∀ c ∈ ds, (toDigit c 16).isSome) :
    trimStartMatches0x ('0' :: 'x' :: ds) = ds := by
  rw [trimStartMatches0x, trimStartMatches0x_of_ne]
  rintro r rfl
  exact absurd (hds 'x' (List.mem_cons_of_mem _ (List.mem_cons_self _ _))) (by decide)

/-- For every `lun`, an address `0x` and hexadecimal digits makes `device_add` ask the bus
for the slot of their value, or for slot 0 where the value does not fit in 64 bits, and
`format!("{:#x}", n)` asks for slot `n`; without an address, `lun` asks for `lun + 1`. -/
theorem device_add_slot (addReplaceableDevice : String → String → UInt64 → Bool)
    (id driver : String) (lun : Option Nat) :
    (∀ ds : List Char, ds ≠ [] → (∀ c ∈ ds, (toDigit c 16).isSome) →
      deviceAdd addReplaceableDevice id driver (some (String.mk ('0' :: 'x' :: ds))) lun =
        addReplaceableDevice id driver
          (if digitsValue 16 ds < UInt64.size then UInt64.ofNat (digitsValue 16 ds) else 0)) ∧
      (∀ n : UInt64,
        deviceAdd addReplaceableDevice id driver
          (some (String.mk ('0' :: 'x' :: lowerHex n.toNat))) lun =
        addReplaceableDevice id driver n) ∧
      ∀ l : Nat, deviceAdd addReplaceableDevice id driver none (some l) =
        addReplaceableDevice id driver (UInt64.ofNat l + 1) := by
  refine ⟨fun ds hne hds => ?_, fun n => ?_, fun _ => rfl⟩
  · have h := fromStrRadix_digits (by decide) hne hds false
    rw [if_neg Bool.false_ne_true, List.nil_append] at h
    by_cases hv : digitsValue 16 ds < UInt64.size
    · simp only [deviceAdd, deviceAddSlot, trimStartMatches0x_digits hds, h, checked, if_pos hv,
        Option.map_some']
    · simp only [deviceAdd, deviceAddSlot, trimStartMatches0x_digits hds, h, checked, if_neg hv,
        Option.map_none']
  · simp only [deviceAdd, deviceAddSlot, trimStartMatches0x_digits toDigit_lowerHex,
      fromStrRadix_lowerHex]

/-- `device_add_slot` on the address `0x1F`: the bus is asked for slot 31. -/
theorem device_add_slot_1F :
    deviceAdd (fun _ _ slot => slot == 31) "disk0" "virtio-blk-device" (some "0x1F") none = true :=
  ((device_add_slot _ _ _ none).1 ['1', 'F'] (by decide) (by decide)).trans (by decide)

end StratoVirt
