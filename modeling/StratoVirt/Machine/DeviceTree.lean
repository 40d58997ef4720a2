import StratoVirt.Machine.Fdt
import StratoVirt.Machine.Operations
import StratoVirt.Format

/-!
# The device tree (aarch64)

`generate_fdt_node` (`micro_vm/mod.rs`) writes the guest's device tree with the calls of
`util::device_tree`: the root's properties, then `generate_cpu_nodes`,
`generate_memory_node`, `generate_devices_node` and `generate_chosen_node`, and last the
interrupt controller's nodes.

This module transcribes the code as the calls it makes, and gives the calls their meaning
on a tree of nodes.  A run of calls finds what it needs on the tree when each call finds
its parent or its node and no node is added twice (`foldlM_applyOp_of_grows`); such a run
fails only for lack of room, exactly when its calls need more than `FDT_MAX_SIZE` bytes
(`build_createDeviceTree`).  `Machine.DeviceTreeBuild` shows that the run of
`generate_fdt_node` is such a run.

## What is transcribed and what is ours

* `generate_fdt_node` up to the interrupt controller, `generate_cpu_nodes`,
  `generate_memory_node`, `generate_devices_node` and the three device nodes are
  transcribed, each as the list of the calls it makes, in order.  What a call returns
  never steers them, so running one is applying its calls in turn up to the first that
  fails (`build`).
* `util::device_tree` is not in the source.  Its calls are modelled after the contract of
  `libfdt`, which it wraps: a path names a node by its non-empty names; `add_sub_node`
  fails when the path names the root, when the parent is missing, or when the node is
  already there; a `set_property` call fails when its node is missing; and a call that
  finds its node but has no room left in the blob fails with `noSpace`.  The tree is the
  set of the paths of its nodes; the values of the properties are not kept.  What each
  call takes of the blob is libfdt's accounting, a parameter (`FdtSpace`) with
  `FDT_MAX_SIZE`.  Every path the code writes starts with `/`, so aliases are not
  modelled.
* The constants of `util::device_tree` are parameters (`FdtConsts`), so are a vCPU's
  MPIDR (`get_mpidr` reads it from KVM), the devices of the bus
  (`bus.get_devices_info()`, from `crate::mmio`) and the end of guest memory
  (`sys_mem.memory_end_address()`).  `irq_chip.generate_fdt_node` lives in
  `interrupt_controller`, which is not in the source, and is left out.
* `u32` and `u64` arithmetic wraps, as in a release build.
-/

namespace StratoVirt

open Format Json

/-! ## The calls of `util::device_tree` -/

/-- The constants of `util::device_tree` that the code writes into the tree. -/
structure FdtConsts where
  clkPhandle : UInt32
  gicPhandle : UInt32
  cpuPhandleStart : UInt32
  gicFdtIrqTypeSpi : UInt32
  gicFdtIrqTypePpi : UInt32
  irqTypeEdgeRising : UInt32
  irqTypeLevelHigh : UInt32
deriving DecidableEq, Repr

/-- A call of `util::device_tree` on the blob: `add_sub_node`, or one of the
`set_property` calls, by the node's path. -/
inductive DeviceTreeCall where
  | addSubNode (node : String)
  | setProperty (node prop : String) (val : Option (List UInt8))
  | setPropertyString (node prop val : String)
  | setPropertyU32 (node prop : String) (val : UInt32)
  | setPropertyU64 (node prop : String) (val : UInt64)
  | setPropertyArrayU32 (node prop : String) (val : List UInt32)
  | setPropertyArrayU64 (node prop : String) (val : List UInt64)
deriving DecidableEq, Repr

namespace DeviceTreeCall

/-- The path a call names. -/
def node : DeviceTreeCall → String
  | .addSubNode node | .setProperty node _ _ | .setPropertyString node _ _
  | .setPropertyU32 node _ _ | .setPropertyU64 node _ _ | .setPropertyArrayU32 node _ _
  | .setPropertyArrayU64 node _ _ => node

/-- Whether a call adds a node. -/
def isAdd : DeviceTreeCall → Bool
  | .addSubNode _ => true
  | _ => false

end DeviceTreeCall

/-- The writes of `generate_chosen_node`, as calls. -/
def FdtWrite.toCall : FdtWrite → DeviceTreeCall
  | .addSubNode node => .addSubNode node
  | .setPropertyString node prop val => .setPropertyString node prop val
  | .setPropertyU64 node prop val => .setPropertyU64 node prop val

/-! ## The tree -/

/-- A node, by the names on the path from the root to it; the root is `[]`. -/
abbrev FdtPath := List (List Char)

/-- The tree a blob holds, as the paths of its nodes. -/
abbrev FdtTree := List FdtPath

/-- Why a call of `util::device_tree` fails. -/
inductive FdtError where
  | invalidPath
  | nodeNotFound
  | nodeExists
  /-- The blob has no room left in the `FDT_MAX_SIZE` bytes it was given. -/
  | noSpace
deriving DecidableEq, Repr

/-- The node a path names: its non-empty names between the `/`s. -/
def parsePath (path : String) : FdtPath :=
  (path.data.splitOn '/').filter fun name => !name.isEmpty

/-- A call on the tree, by whether it adds a node and the node it names. -/
def applyOp (tree : FdtTree) : Bool × FdtPath → Except FdtError FdtTree
  | (true, node) =>
    if node = [] then .error .invalidPath
    else if node.dropLast ∉ tree then .error .nodeNotFound
    else if node ∈ tree then .error .nodeExists
    else .ok (node :: tree)
  | (false, node) => if node ∈ tree then .ok tree else .error .nodeNotFound

/-- What a call does on the tree. -/
def DeviceTreeCall.toOp (c : DeviceTreeCall) : Bool × FdtPath := (c.isAdd, parsePath c.node)

/-- The room the blob has: `FDT_MAX_SIZE`, the length of the buffer `realize` hands
`generate_fdt_node`, and libfdt's accounting of it.  `emptySize` is what the empty tree
takes, and `cost done c` is what call `c` adds to the blob that the calls `done` wrote; it
depends on them, since libfdt keeps each property name once. -/
structure FdtSpace where
  fdtMaxSize : Nat
  emptySize : Nat
  cost : List DeviceTreeCall → DeviceTreeCall → Nat

/-- The blob: the calls that wrote it, the tree they built and the bytes they take. -/
structure FdtBlob where
  calls : List DeviceTreeCall
  tree : FdtTree
  used : Nat
deriving DecidableEq, Repr

/-- `create_device_tree`: the root alone, if the buffer has room for it. -/
def createDeviceTree (space : FdtSpace) : Except FdtError FdtBlob :=
  if space.fdtMaxSize < space.emptySize then .error .noSpace else .ok ⟨[], [[]], space.emptySize⟩

/-- A call on the blob: libfdt looks the node up first, and only then makes room for what
the call writes. -/
def FdtBlob.apply (space : FdtSpace) (blob : FdtBlob) (c : DeviceTreeCall) :
    Except FdtError FdtBlob := do
  let tree ← applyOp blob.tree c.toOp
  let used := blob.used + space.cost blob.calls c
  if space.fdtMaxSize < used then .error .noSpace else .ok ⟨blob.calls ++ [c], tree, used⟩

/-- The calls one after the other, up to the first that fails. -/
def build (space : FdtSpace) (blob : FdtBlob) (calls : List DeviceTreeCall) :
    Except FdtError FdtBlob :=
  calls.foldlM (FdtBlob.apply space) blob

/-- The bytes the calls `calls` add to the blob that the calls `done` wrote. -/
def FdtSpace.usedBy (space : FdtSpace) : List DeviceTreeCall → List DeviceTreeCall → Nat
  | _, [] => 0
  | done, c :: calls => space.cost done c + space.usedBy (done ++ [c]) calls

/-! ## The code -/

section Code

variable (consts : FdtConsts)

/-- `format!("{}", n)`. -/
def displayNat (n : Nat) : String := String.mk (decimal n)

/-- The calls of `generate_cpu_nodes` for cluster `cluster` of the cpu-map: two
sub-clusters of two cores of two threads, each thread naming its vCPU. -/
def clusterNodes (cluster : UInt32) : List DeviceTreeCall :=
  let clster := "/cpus/cpu-map/cluster" ++ displayNat cluster.toNat
  .addSubNode clster :: (List.range 2).flatMap fun i =>
    let i : UInt32 := UInt32.ofNat i
    let subCluster := clster ++ "/cluster" ++ displayNat i.toNat
    let core0 := subCluster ++ "/core0"
    let thread0 := core0 ++ "/thread0"
    let thread1 := core0 ++ "/thread1"
    let core1 := subCluster ++ "/core1"
    [.addSubNode subCluster, .addSubNode core0,
      .addSubNode thread0, .setPropertyU32 thread0 "cpu" (cluster * 8 + i * 4 + 10),
      .addSubNode thread1, .setPropertyU32 thread1 "cpu" (cluster * 8 + i * 4 + 10 + 1)] ++
    let thread0 := core1 ++ "/thread0"
    let thread1 := core1 ++ "/thread1"
    [.addSubNode core1,
      .addSubNode thread0, .setPropertyU32 thread0 "cpu" (cluster * 8 + i * 4 + 10 + 2),
      .addSubNode thread1, .setPropertyU32 thread1 "cpu" (cluster * 8 + i * 4 + 10 + 3)]

/-- The calls of `generate_cpu_nodes` for the vCPU at `cpuIndex`, whose MPIDR is `mpidr`. -/
def cpuNode (maxCpus cpuIndex : UInt8) (mpidr : UInt64) : List DeviceTreeCall :=
  let node := "/cpus/cpu@" ++ String.mk (lowerHex mpidr.toNat)
  [.addSubNode node,
    .setPropertyU32 node "phandle" (cpuIndex.toUInt32 + consts.cpuPhandleStart),
    .setPropertyString node "device_type" "cpu",
    .setPropertyString node "compatible" "arm,arm-v8"] ++
  (if maxCpus > 1 then [.setPropertyString node "enable-method" "psci"] else []) ++
  [.setPropertyU64 node "reg" (mpidr &&& 0x007FFFFF)]

/-- `generate_cpu_nodes`: the `/cpus` node, the cpu-map when `max_cpus` is a positive
multiple of 8, and one node per vCPU, found at `cpu_list[cpu_index]`. -/
def generateCpuNodes {C : Type} (getMpidr : C → UInt64) (m : LightMachine C) :
    Except Panic (List DeviceTreeCall) := do
  let node := "/cpus"
  let maxCpus := m.cpuTopo.maxCpus
  let topology : List DeviceTreeCall :=
    if maxCpus > 0 ∧ maxCpus % 8 = 0 then
      let sockets := maxCpus / 8
      .addSubNode "/cpus/cpu-map" ::
        (List.range sockets.toNat).flatMap fun cluster => clusterNodes (UInt32.ofNat cluster)
    else []
  let cpuNodes ← (List.range maxCpus.toNat).mapM fun cpuIndex => do
    let cpu ← index m.cpus cpuIndex
    pure (cpuNode consts maxCpus (UInt8.ofNat cpuIndex) (getMpidr cpu))
  pure ([.addSubNode node, .setPropertyU32 node "#address-cells" 0x02,
    .setPropertyU32 node "#size-cells" 0x0] ++ topology ++ cpuNodes.flatten)

/-- `generate_memory_node`: guest RAM as one range from `0x8000_0000` to the end of
memory. -/
def generateMemoryNode (memoryEnd : UInt64) : List DeviceTreeCall :=
  let memSize := memoryEnd - 0x80000000
  let node := "/memory"
  [.addSubNode node, .setPropertyString node "device_type" "memory",
    .setPropertyArrayU64 node "reg" [0x80000000, memSize]]

/-- `crate::mmio::DeviceType`: the variants this file names, and the others. -/
inductive DeviceType where
  | serial
  | rtc
  | blk
  | net
  | other (name : String)
deriving DecidableEq, Repr

/-- `crate::mmio::DeviceResource`, with the fields `generate_devices_node` reads. -/
structure DeviceResource where
  addr : UInt64
  size : UInt64
  irq : UInt32
  devType : DeviceType
deriving DecidableEq, Repr

/-- The node of an MMIO device clocked by `apb_pclk`: `generate_serial_device_node` and
`generate_rtc_device_node` differ only in the node's name, `compatible` and the trigger
of the interrupt. -/
def clockedDeviceNode (nodePrefix compatible : String) (trigger : UInt32)
    (devInfo : DeviceResource) : List DeviceTreeCall :=
  let node := nodePrefix ++ String.mk (lowerHex devInfo.addr.toNat)
  [.addSubNode node, .setPropertyString node "compatible" compatible,
    .setPropertyString node "clock-names" "apb_pclk",
    .setPropertyU32 node "clocks" consts.clkPhandle,
    .setPropertyArrayU64 node "reg" [devInfo.addr, devInfo.size],
    .setPropertyArrayU32 node "interrupts" [consts.gicFdtIrqTypeSpi, devInfo.irq, trigger]]

/-- `generate_serial_device_node`. -/
def generateSerialDeviceNode (devInfo : DeviceResource) : List DeviceTreeCall :=
  clockedDeviceNode consts "/uart@" "ns16550a" consts.irqTypeEdgeRising devInfo

/-- `generate_rtc_device_node`. -/
def generateRtcDeviceNode (devInfo : DeviceResource) : List DeviceTreeCall :=
  clockedDeviceNode consts "/pl031@" "arm,pl031\x00arm,primecell\x00" consts.irqTypeLevelHigh
    devInfo

/-- `generate_virtio_devices_node`: no clock, the interrupt controller as its parent. -/
def generateVirtioDevicesNode (devInfo : DeviceResource) : List DeviceTreeCall :=
  let node := "/virtio_mmio@" ++ String.mk (lowerHex devInfo.addr.toNat)
  [.addSubNode node, .setPropertyString node "compatible" "virtio,mmio",
    .setPropertyU32 node "interrupt-parent" consts.gicPhandle,
    .setPropertyArrayU64 node "reg" [devInfo.addr, devInfo.size],
    .setPropertyArrayU32 node "interrupts"
      [consts.gicFdtIrqTypeSpi, devInfo.irq, consts.irqTypeEdgeRising]]

/-- The node `generate_devices_node` writes for one device, by its type. -/
def deviceNode (devInfo : DeviceResource) : List DeviceTreeCall :=
  match devInfo.devType with
  | .serial => generateSerialDeviceNode consts devInfo
  | .rtc => generateRtcDeviceNode consts devInfo
  | _ => generateVirtioDevicesNode consts devInfo

/-- `generate_devices_node`: the timer, the clock, PSCI, then the bus's devices from the
last to the first. -/
def generateDevicesNode (devicesInfo : List DeviceResource) : List DeviceTreeCall :=
  let cells : List UInt32 := [13, 14, 11, 10].flatMap fun irq =>
    [consts.gicFdtIrqTypePpi, irq, consts.irqTypeLevelHigh]
  let timer := "/timer"
  let clock := "/apb-pclk"
  let psci := "/psci"
  [.addSubNode timer, .setPropertyString timer "compatible" "arm,armv8-timer",
    .setProperty timer "always-on" none, .setPropertyArrayU32 timer "interrupts" cells,
    .addSubNode clock, .setPropertyString clock "compatible" "fixed-clock",
    .setPropertyString clock "clock-output-names" "clk24mhz",
    .setPropertyU32 clock "#clock-cells" 0x0, .setPropertyU32 clock "clock-frequency" 24000000,
    .setPropertyU32 clock "phandle" consts.clkPhandle,
    .addSubNode psci, .setPropertyString psci "compatible" "arm,psci-0.2",
    .setPropertyString psci "method" "hvc"] ++
  devicesInfo.reverse.flatMap (deviceNode consts)

/-- `generate_fdt_node`, after `create_device_tree` and up to the interrupt controller. -/
def generateFdtNode {C : Type} (getMpidr : C → UInt64) (m : LightMachine C)
    (devicesInfo : List DeviceResource) (memoryEnd : UInt64) (bootSource : BootSource) :
    Except Panic (List DeviceTreeCall) := do
  let cpuNodes ← generateCpuNodes consts getMpidr m
  pure ([.setPropertyString "/" "compatible" "linux,dummy-virt",
      .setPropertyU32 "/" "#address-cells" 0x2, .setPropertyU32 "/" "#size-cells" 0x2,
      .setPropertyU32 "/" "interrupt-parent" consts.gicPhandle] ++
    cpuNodes ++ generateMemoryNode memoryEnd ++ generateDevicesNode consts devicesInfo ++
    (generateChosenNode bootSource).map FdtWrite.toCall)

end Code

/-! ## Paths -/

theorem splitOn_append_cons (xs ys : List Char) (sep : Char) :
    (xs ++ sep :: ys).splitOn sep = xs.splitOn sep ++ ys.splitOn sep := by
  induction xs with
  | nil => simp [List.splitOn, List.splitOnP_cons, List.splitOnP_nil]
  | cons x xs ih =>
    simp only [List.splitOn] at ih ⊢
    rw [List.cons_append, List.splitOnP_cons, List.splitOnP_cons, ih]
    split
    · rfl
    · obtain ⟨hd, tl, h⟩ := List.exists_cons_of_ne_nil (List.splitOnP_ne_nil (· == sep) xs)
      rw [h]
      rfl

/-- A path that goes on with `/` names a node below the one its first part names. -/
theorem parsePath_append {a b : String} (hb : b.data.head? = some '/') :
    parsePath (a ++ b) = parsePath a ++ parsePath b := by
  obtain ⟨ys, hys⟩ : ∃ ys, b.data = '/' :: ys := by
    cases h : b.data with
    | nil => rw [h] at hb; cases hb
    | cons c ys => rw [h] at hb; cases hb; exact ⟨ys, rfl⟩
  show List.filter _ ((a.data ++ b.data).splitOn '/') = List.filter _ (a.data.splitOn '/') ++
    List.filter _ (b.data.splitOn '/')
  rw [hys, splitOn_append_cons, List.filter_append]
  simp [List.splitOn, List.splitOnP_cons]

/-- `/name` names the node `name` below the root. -/
theorem parsePath_slash {name : List Char} (hslash : '/' ∉ name) (hne : name ≠ []) :
    parsePath (String.mk ('/' :: name)) = [name] := by
  have : name.splitOn '/' = [name] :=
    List.splitOnP_eq_single _ _ fun x hx h => hslash (by rw [beq_iff_eq] at h; exact h ▸ hx)
  simp [parsePath, List.splitOn, List.splitOnP_cons] at this ⊢
  simp [this, List.isEmpty_iff, hne]

/-- A path that goes on with `/name` names the node `name` below the one its first part
names. -/
theorem parsePath_child (a : String) {name : List Char} (hslash : '/' ∉ name) (hne : name ≠ []) :
    parsePath (a ++ String.mk ('/' :: name)) = parsePath a ++ [name] := by
  rw [@parsePath_append a (String.mk ('/' :: name)) rfl, parsePath_slash hslash hne]

theorem slash_not_mem_decimal (n : Nat) : '/' ∉ decimal n := fun h =>
  absurd (decimalAux_digits _ _ _ h) (by decide)

theorem slash_not_mem_lowerHex (n : Nat) : '/' ∉ lowerHex n := fun h => by
  obtain ⟨d, hd, he⟩ := hexAux_digits _ _ _ h
  have : ∀ d < 16, hexDigit d ≠ '/' := by decide
  exact this d hd he.symm

/-- A name made of a text and a number has no `/` when the text has none. -/
theorem slash_not_mem_append {pre digits : List Char} (hpre : '/' ∉ pre) (hdigits : '/' ∉ digits) :
    '/' ∉ pre ++ digits := fun h => (List.mem_append.mp h).elim hpre hdigits

/-! ## A run of calls -/

/-- The nodes a run of calls adds, in order. -/
def addsOf (ops : List (Bool × FdtPath)) : FdtTree :=
  ops.filterMap fun o => if o.1 then some o.2 else none

@[simp] theorem addsOf_nil : addsOf [] = [] := rfl

@[simp] theorem addsOf_add (p : FdtPath) (ops : List (Bool × FdtPath)) :
    addsOf ((true, p) :: ops) = p :: addsOf ops := rfl

@[simp] theorem addsOf_set (p : FdtPath) (ops : List (Bool × FdtPath)) :
    addsOf ((false, p) :: ops) = addsOf ops := rfl

@[simp] theorem addsOf_append (ops ops' : List (Bool × FdtPath)) :
    addsOf (ops ++ ops') = addsOf ops ++ addsOf ops' := List.filterMap_append _ _ _

theorem addsOf_flatMap {α : Type} (f : α → List (Bool × FdtPath)) :
    ∀ l : List α, addsOf (l.flatMap f) = l.flatMap fun x => addsOf (f x)
  | [] => rfl
  | x :: l => by rw [List.flatMap_cons, List.flatMap_cons, addsOf_append, addsOf_flatMap f l]

/-- Each call of a run finds what it needs: an added node has its parent in the tree, and
a property goes to a node in the tree. -/
def Grows : FdtTree → List (Bool × FdtPath) → Prop
  | _, [] => True
  | tree, (true, node) :: ops => node ≠ [] ∧ node.dropLast ∈ tree ∧ Grows (node :: tree) ops
  | tree, (false, node) :: ops => node ∈ tree ∧ Grows tree ops

instance Grows.decidable :
    ∀ (tree : FdtTree) (ops : List (Bool × FdtPath)), Decidable (Grows tree ops)
  | _, [] => isTrue trivial
  | tree, (true, node) :: ops =>
    have := Grows.decidable (node :: tree) ops
    inferInstanceAs (Decidable (_ ∧ _ ∧ _))
  | tree, (false, _) :: ops =>
    have := Grows.decidable tree ops
    inferInstanceAs (Decidable (_ ∧ _))

/-- A run whose calls find what they need, and that adds no node twice nor a node already
there, succeeds. -/
theorem foldlM_applyOp_of_grows : ∀ {tree : FdtTree} {ops : List (Bool × FdtPath)},
    Grows tree ops → (addsOf ops).Nodup → (∀ p ∈ addsOf ops, p ∉ tree) →
      ops.foldlM applyOp tree = .ok ((addsOf ops).reverse ++ tree)
  | _, [], _, _, _ => rfl
  | tree, (true, p) :: ops, ⟨hp, hparent, hg⟩, hnd, hfresh => by
    rw [addsOf_add, List.nodup_cons] at hnd
    have hnew : p ∉ tree := hfresh p (List.mem_cons_self p _)
    have hstep : applyOp tree (true, p) = .ok (p :: tree) := by
      simp only [applyOp, if_neg hp, hparent, not_true, if_false, if_neg hnew]
    rw [List.foldlM_cons, hstep, except_ok_bind, foldlM_applyOp_of_grows hg hnd.2, addsOf_add,
      List.reverse_cons, List.append_assoc, List.singleton_append]
    intro q hq hmem
    rcases List.mem_cons.mp hmem with rfl | h
    · exact hnd.1 hq
    · exact hfresh q (List.mem_cons_of_mem p hq) h
  | tree, (false, p) :: ops, ⟨hp, hg⟩, hnd, hfresh => by
    have hstep : applyOp tree (false, p) = .ok tree := if_pos hp
    rw [List.foldlM_cons, hstep, except_ok_bind, foldlM_applyOp_of_grows hg hnd hfresh]
    rfl

/-- A run whose calls all find what they need on the tree, from a blob that fits in its
buffer, fails only for lack of room: exactly when its calls need more bytes than are left. -/
theorem build_of_foldlM {space : FdtSpace} : ∀ {blob : FdtBlob} {calls : List DeviceTreeCall}
    {tree : FdtTree}, blob.used ≤ space.fdtMaxSize →
    (calls.map DeviceTreeCall.toOp).foldlM applyOp blob.tree = .ok tree →
    build space blob calls =
      if blob.used + space.usedBy blob.calls calls ≤ space.fdtMaxSize then
        .ok ⟨blob.calls ++ calls, tree, blob.used + space.usedBy blob.calls calls⟩
      else .error .noSpace
  | ⟨done, t, used⟩, [], tree, hfit, h => by
    cases h
    simp [build, FdtSpace.usedBy, hfit]
  | ⟨done, t, used⟩, c :: calls, tree, hfit, h => by
    rw [List.map_cons, List.foldlM_cons] at h
    rcases ht : applyOp t c.toOp with _ | t'
    · rw [ht] at h; cases h
    rw [ht, except_ok_bind] at h
    have hstep : FdtBlob.apply space ⟨done, t, used⟩ c =
        if space.fdtMaxSize < used + space.cost done c then .error .noSpace
        else .ok ⟨done ++ [c], t', used + space.cost done c⟩ := by
      simp only [FdtBlob.apply, ht, except_ok_bind]
    simp only [build, List.foldlM_cons, FdtSpace.usedBy] at hstep ⊢
    by_cases hroom : space.fdtMaxSize < used + space.cost done c
    · rw [hstep, if_pos hroom, except_error_bind, if_neg (by omega)]
    · rw [hstep, if_neg hroom, except_ok_bind]
      have ih := @build_of_foldlM space ⟨done ++ [c], t', used + space.cost done c⟩ calls tree
        (by dsimp only; omega) h
      simp only [build] at ih
      rw [ih, List.append_assoc, List.singleton_append, Nat.add_assoc]

/-- A run never adds the root. -/
theorem Grows.adds_ne_nil : ∀ {tree : FdtTree} {ops : List (Bool × FdtPath)},
    Grows tree ops → ∀ p ∈ addsOf ops, p ≠ []
  | _, [], _ => fun _ h => absurd h (List.not_mem_nil _)
  | _, (true, _) :: _, ⟨hp, _, hg⟩ => fun q hq => (List.mem_cons.mp hq).elim
      (fun h => h ▸ hp) (hg.adds_ne_nil q)
  | _, (false, _) :: _, ⟨_, hg⟩ => hg.adds_ne_nil

/-- From the blob `create_device_tree` makes, calls that find what they need and add no
node twice fail only for lack of room, exactly when the empty tree and their writes need
more than `FDT_MAX_SIZE` bytes; otherwise they all succeed, and add their nodes. -/
theorem build_createDeviceTree (space : FdtSpace) {calls : List DeviceTreeCall}
    (hg : Grows [[]] (calls.map DeviceTreeCall.toOp))
    (hnd : (addsOf (calls.map DeviceTreeCall.toOp)).Nodup) :
    (createDeviceTree space >>= fun blob => build space blob calls) =
      if space.emptySize + space.usedBy [] calls ≤ space.fdtMaxSize then
        .ok ⟨calls, (addsOf (calls.map DeviceTreeCall.toOp)).reverse ++ [[]],
          space.emptySize + space.usedBy [] calls⟩
      else .error .noSpace := by
  unfold createDeviceTree
  split
  · rw [except_error_bind, if_neg (by omega)]
  · exact build_of_foldlM (by dsimp only; omega) (foldlM_applyOp_of_grows hg hnd fun p hp hp' =>
      hg.adds_ne_nil p hp (List.mem_singleton.mp hp'))

/-- A run keeps finding what it needs in a larger tree. -/
theorem Grows.mono : ∀ {tree tree' : FdtTree} {ops : List (Bool × FdtPath)},
    Grows tree ops → (∀ p ∈ tree, p ∈ tree') → Grows tree' ops
  | _, _, [], _, _ => trivial
  | _, _, (true, _) :: _, ⟨hp, hparent, hg⟩, hsub =>
    ⟨hp, hsub _ hparent, hg.mono fun q hq => (List.mem_cons.mp hq).elim
      (fun h => h ▸ List.mem_cons_self _ _) fun h => List.mem_cons_of_mem _ (hsub q h)⟩
  | _, _, (false, _) :: _, ⟨hp, hg⟩, hsub => ⟨hsub _ hp, hg.mono hsub⟩

theorem Grows.append : ∀ {tree : FdtTree} {ops ops' : List (Bool × FdtPath)},
    Grows tree ops → Grows ((addsOf ops).reverse ++ tree) ops' → Grows tree (ops ++ ops')
  | _, [], _, _, h => h
  | _, (true, _) :: _, _, ⟨hp, hparent, hg⟩, h' => by
    refine ⟨hp, hparent, hg.append ?_⟩
    simpa [List.append_assoc] using h'
  | _, (false, _) :: _, _, ⟨hp, hg⟩, h' => ⟨hp, hg.append h'⟩

/-- Two runs that each find what they need in `tree`, one after the other. -/
theorem Grows.append_same {tree : FdtTree} {ops ops' : List (Bool × FdtPath)} (h : Grows tree ops)
    (h' : Grows tree ops') : Grows tree (ops ++ ops') :=
  h.append (h'.mono fun _ hp => List.mem_append_right _ hp)

/-- Runs that each find what they need in `tree`, one after the other. -/
theorem Grows.flatMap {α : Type} {tree : FdtTree} {f : α → List (Bool × FdtPath)} :
    ∀ {xs : List α}, (∀ x ∈ xs, Grows tree (f x)) → Grows tree (xs.flatMap f)
  | [], _ => trivial
  | x :: xs, h => (h x (List.mem_cons_self x xs)).append_same
      (Grows.flatMap fun y hy => h y (List.mem_cons_of_mem x hy))

/-- A run, moved below the node `pfx`. -/
def relocate (pfx : FdtPath) (ops : List (Bool × FdtPath)) : List (Bool × FdtPath) :=
  ops.map fun o => (o.1, pfx ++ o.2)

theorem addsOf_relocate (pfx : FdtPath) :
    ∀ ops, addsOf (relocate pfx ops) = (addsOf ops).map (pfx ++ ·)
  | [] => rfl
  | (true, _) :: ops => congrArg _ (addsOf_relocate pfx ops)
  | (false, _) :: ops => addsOf_relocate pfx ops

/-- A run that grows the tree below its root grows it below any node that is there. -/
theorem Grows.relocate {pfx : FdtPath} : ∀ {sub tree : FdtTree} {ops : List (Bool × FdtPath)},
    Grows sub ops → (∀ q ∈ sub, pfx ++ q ∈ tree) → Grows tree (relocate pfx ops)
  | _, _, [], _, _ => trivial
  | _, _, (true, q) :: _, ⟨hq, hparent, hg⟩, hsub => by
    refine ⟨by simp [hq], ?_, hg.relocate fun r hr => ?_⟩
    · show (pfx ++ q).dropLast ∈ _
      rw [List.dropLast_append_of_ne_nil _ hq]
      exact hsub _ hparent
    · rcases List.mem_cons.mp hr with rfl | h
      · exact List.mem_cons_self _ _
      · exact List.mem_cons_of_mem _ (hsub r h)
  | _, _, (false, _) :: _, ⟨hq, hg⟩, hsub => ⟨hsub _ hq, hg.relocate hsub⟩

/-- A node and `k` properties of it. -/
def nodeOps (p : FdtPath) (k : Nat) : List (Bool × FdtPath) :=
  (true, p) :: List.replicate k (false, p)

@[simp] theorem addsOf_nodeOps (p : FdtPath) (k : Nat) : addsOf (nodeOps p k) = [p] := by
  induction k with
  | zero => rfl
  | succ k ih => simpa [nodeOps, List.replicate_succ] using ih

theorem grows_nodeOps {tree : FdtTree} {p : FdtPath} (hp : p ≠ []) (hparent : p.dropLast ∈ tree)
    (k : Nat) : Grows tree (nodeOps p k) := by
  refine ⟨hp, hparent, ?_⟩
  induction k with
  | zero => trivial
  | succ k ih => exact ⟨List.mem_cons_self p tree, ih⟩

/-- A node below the root and properties of it. -/
theorem grows_topNode {tree : FdtTree} (hroot : [] ∈ tree) (name : List Char) (k : Nat) :
    Grows tree (nodeOps [name] k) :=
  grows_nodeOps (List.cons_ne_nil name []) hroot k


end StratoVirt
