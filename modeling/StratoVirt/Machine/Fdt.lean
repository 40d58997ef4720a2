import StratoVirt.Machine.State

/-!
# The initrd in the device tree (aarch64)

`realize` (`micro_vm/mod.rs`, aarch64) hands the boot loader a `BootLoaderConfig` whose
`initrd_size` is the boot source's `u64` size cast `as u32`, and stores the address the
loader put the initrd at in the boot source's `initrd_addr`.  `generate_chosen_node` then
writes `linux,initrd-start = initrd_addr` and `linux,initrd-end = initrd_addr + initrd_size`
into the device tree, with the `u64` size.

Below 4 GiB the loader and the device tree get the same size.  From 4 GiB on, the loader
gets the size modulo 2^32 while the device tree tells the guest the whole size
(`initrd_size_narrowed`).

## What is transcribed and what is ours

* The part of `realize` from the boot source to the loader and back, and
  `generate_chosen_node`, are transcribed.  The device tree is the list of the nodes and
  properties written to it; the other nodes are in `StratoVirt.Machine.DeviceTree`, and
  the device realization, the vCPU loop (see `StratoVirt.Machine.Operations`) and the
  write of the tree to guest memory are not modelled.
* `BootSource` and `InitrdConfig` (`machine_manager::config`), `BootLoaderConfig` and
  `load_kernel` (`boot_loader`, aarch64) are not in the source.  The types have the fields
  `realize` and `generate_chosen_node` use, with the widths the code gives them
  (`initrd_size as u32`, `set_property_u64`); `load_kernel` is a parameter, so the results
  hold for every loader.  `specLoadKernel` is the loader of the spec, for the examples.
* `u64` addition wraps, as in a release build; a debug build panics instead where
  `initrd_addr + initrd_size` overflows.
-/

namespace StratoVirt

/-- Modelled from the spec: the initrd of a `BootSource` (§3, "optional initrd path +
size"), with the cell `initrd_addr` that `realize` writes and `generate_chosen_node`
reads. -/
structure InitrdConfig where
  initrdFile : String
  initrdSize : UInt64
  initrdAddr : UInt64
deriving DecidableEq, Repr

/-- Modelled from the spec: `BootSource` (§3, "kernel path, optional initrd path + size,
kernel command line"). -/
structure BootSource where
  kernelFile : String
  kernelCmdline : String
  initrd : Option InitrdConfig
deriving DecidableEq, Repr

/-- `BootLoaderConfig` (aarch64), with the fields `realize` fills in. -/
structure BootLoaderConfig where
  kernel : String
  initrd : Option String
  initrdSize : UInt32
deriving DecidableEq, Repr

/-- The layout `load_kernel` returns (aarch64), with the fields `realize` reads. -/
structure BootLayout where
  kernelStart : UInt64
  initrdStart : UInt64
  dtbStart : UInt64
deriving DecidableEq, Repr

/-- The error `load_kernel` returns. -/
abbrev BootError := String

/-- A write into the device tree: `add_sub_node`, `set_property_string` or
`set_property_u64`. -/
inductive FdtWrite where
  | addSubNode (node : String)
  | setPropertyString (node prop val : String)
  | setPropertyU64 (node prop : String) (val : UInt64)
deriving DecidableEq, Repr

/-! ## The code -/

/-- The `BootLoaderConfig` that `realize` builds from the boot source. -/
def bootLoaderConfig (bootSource : BootSource) : BootLoaderConfig :=
  let (initrd, initrdSize) : Option String × UInt64 :=
    match bootSource.initrd with
    | some rd => (some rd.initrdFile, rd.initrdSize)
    | none => (none, 0)
  { kernel := bootSource.kernelFile, initrd, initrdSize := initrdSize.toUInt32 }

/-- `realize`'s call of `load_kernel`, and its write of `layout.initrd_start` into the boot
source's `initrd_addr`. -/
def loadBoot (loadKernel : BootLoaderConfig → Except BootError BootLayout)
    (bootSource : BootSource) : Except BootError (BootLayout × BootSource) := do
  let layout ← loadKernel (bootLoaderConfig bootSource)
  let bootSource :=
    match bootSource.initrd with
    | some rd => { bootSource with initrd := some { rd with initrdAddr := layout.initrdStart } }
    | none => bootSource
  pure (layout, bootSource)

/-- `generate_chosen_node`: the `/chosen` node with the command line and, with an initrd,
its range. -/
def generateChosenNode (bootSource : BootSource) : List FdtWrite :=
  let node := "/chosen"
  [.addSubNode node, .setPropertyString node "bootargs" bootSource.kernelCmdline] ++
    match bootSource.initrd with
    | some initrd =>
      [.setPropertyU64 node "linux,initrd-start" initrd.initrdAddr,
        .setPropertyU64 node "linux,initrd-end" (initrd.initrdAddr + initrd.initrdSize)]
    | none => []

/-- `realize` (aarch64) as far as the initrd goes: the layout the loader returns, and the
`/chosen` node of the device tree that `generate_fdt_node` writes after it. -/
def realizeChosen (loadKernel : BootLoaderConfig → Except BootError BootLayout)
    (bootSource : BootSource) : Except BootError (BootLayout × List FdtWrite) := do
  let (layout, bootSource) ← loadBoot loadKernel bootSource
  pure (layout, generateChosenNode bootSource)

/-! ## The loader's size and the device tree's -/

/-- `as u32` keeps the size modulo 2^32, `UInt32.size`. -/
theorem toUInt32_toNat (s : UInt64) : s.toUInt32.toNat = s.toNat % UInt32.size := rfl

/-- For every loader and every boot source with an initrd of `u64` size `s`, `realize`
hands the loader the size `s` modulo 2^32, which is `s` exactly when `s < 2^32`; whatever
layout the loader returns, the `/chosen` node tells the guest the range from its
`initrd_start` to `initrd_start + s`, of the whole size `s`. -/
theorem initrd_size_narrowed (loadKernel : BootLoaderConfig → Except BootError BootLayout)
    {bootSource : BootSource} {rd : InitrdConfig} (hrd : bootSource.initrd = some rd) :
    (bootLoaderConfig bootSource).initrdSize.toNat = rd.initrdSize.toNat % UInt32.size ∧
      ((bootLoaderConfig bootSource).initrdSize.toNat = rd.initrdSize.toNat ↔
        rd.initrdSize.toNat < UInt32.size) ∧
      realizeChosen loadKernel bootSource =
        (fun layout => (layout,
          [.addSubNode "/chosen", .setPropertyString "/chosen" "bootargs" bootSource.kernelCmdline,
            .setPropertyU64 "/chosen" "linux,initrd-start" layout.initrdStart,
            .setPropertyU64 "/chosen" "linux,initrd-end" (layout.initrdStart + rd.initrdSize)])) <$>
          loadKernel (bootLoaderConfig bootSource) := by
  have hsize : (bootLoaderConfig bootSource).initrdSize.toNat = rd.initrdSize.toNat % UInt32.size := by
    simp only [bootLoaderConfig, hrd, toUInt32_toNat]
  refine ⟨hsize, by rw [hsize]; exact Nat.mod_eq_iff_lt (by decide), ?_⟩
  simp only [realizeChosen, loadBoot, hrd]
  cases loadKernel (bootLoaderConfig bootSource) <;> rfl

/-! ## The loader of the spec -/

/-- `DRAM_BASE` (aarch64). -/
def dramBase : UInt64 := (1 : UInt64) <<< 31

/-- Modelled from the spec: the ARM64 contract of the boot layout builder (§4.2), for a
guest of `memSize` bytes and a kernel of `kernelSize` bytes: the kernel at
`DRAM_BASE + 0x80000`, the device tree right after it, and the initrd at
`DRAM_BASE + mem_size − initrd_size`, page-aligned down. -/
def specLoadKernel (memSize kernelSize : UInt64) (config : BootLoaderConfig) :
    Except BootError BootLayout :=
  let kernelStart := dramBase + 0x80000
  .ok { kernelStart,
        initrdStart := (dramBase + memSize - config.initrdSize.toUInt64) / 0x1000 * 0x1000,
        dtbStart := kernelStart + kernelSize }

/-- `initrd_size_narrowed` at an initrd of 4 GiB + 4 KiB in a guest of 8 GiB: the loader is
told 4 KiB and puts the initrd in the last page of RAM, at `0x2_7fff_f000`, and the device
tree says it ends at `0x3_8000_0000`, 4 GiB past the end of RAM at `0x2_8000_0000`. -/
theorem initrd_size_narrowed_fourGiB :
    let rd : InitrdConfig := { initrdFile := "initrd.img", initrdSize := 0x100001000, initrdAddr := 0 }
    let bootSource : BootSource :=
      { kernelFile := "vmlinux", kernelCmdline := "console=ttyAMA0", initrd := some rd }
    bootSource.initrd = some rd ∧ (bootLoaderConfig bootSource).initrdSize.toNat = 0x1000 ∧
      realizeChosen (specLoadKernel 0x200000000 0x1000000) bootSource =
        .ok (⟨0x80080000, 0x27ffff000, 0x81080000⟩,
          [.addSubNode "/chosen", .setPropertyString "/chosen" "bootargs" "console=ttyAMA0",
            .setPropertyU64 "/chosen" "linux,initrd-start" 0x27ffff000,
            .setPropertyU64 "/chosen" "linux,initrd-end" 0x380000000]) := by
  intro rd bootSource
  have h := @initrd_size_narrowed (specLoadKernel 0x200000000 0x1000000) bootSource rd rfl
  simp only [rd, bootSource] at h
  exact ⟨rfl, h.1.trans rfl, h.2.2.trans rfl⟩

end StratoVirt
