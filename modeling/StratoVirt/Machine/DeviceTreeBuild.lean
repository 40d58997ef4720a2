import StratoVirt.Machine.DeviceTree

/-!
# The device tree `generate_fdt_node` writes

For every machine that `LightMachine::new` builds whose vCPUs have distinct MPIDRs, and
every set of devices at distinct addresses, none of the calls of `generate_fdt_node`
fails on the tree: each node is added once, under a parent that is already there, and
each property goes to a node that is there; the tree ends up with a node for every vCPU
and every device (`generate_fdt_node_builds`).

The proof follows the calls part by part: each part is a node and properties of it, or a
run below a node (`nodeOps`, `relocate`), and the nodes of the parts are kept apart by
their names (`cpus_adds`, `root_adds`).
-/

namespace StratoVirt

open Format Json

/-! ## The vCPU loop -/

theorem filterMap_range_getElem? {α β : Type} (l : List α) (h : α → β) :
    ∀ n, (List.range n).filterMap (fun i => l[i]?.map h) = (l.take n).map h
  | 0 => rfl
  | n + 1 => by
    rw [List.range_succ, List.filterMap_append, filterMap_range_getElem? l h n, List.take_succ,
      List.map_append, List.filterMap_cons, List.filterMap_nil]
    cases l[n]? <;> rfl

/-- A loop over the slots that indexes a list no shorter than the loop does not panic. -/
theorem mapM_range_index {α β : Type} (l : List α) (f : Nat → α → β) :
    ∀ n, n ≤ l.length → (List.range n).mapM (fun i => do let a ← index l i; pure (f i a)) =
      .ok ((List.range n).filterMap fun i => l[i]?.map (f i))
  | 0, _ => rfl
  | n + 1, hn => by
    rw [List.range_succ, List.mapM_append, mapM_range_index l f n (by omega), List.filterMap_append,
      List.mapM_cons, List.mapM_nil, index_of_lt (by omega : n < l.length)]
    simp [List.getElem?_eq_getElem (by omega : n < l.length)]

/-! ## The calls of each part, on the tree -/

section Ops

variable (consts : FdtConsts)

/-- The path of cluster `c` of the cpu-map. -/
def clusterPath (c : Nat) : FdtPath := ["cpus".data, "cpu-map".data, "cluster".data ++ decimal c]

theorem parsePath_cluster (c : Nat) :
    parsePath ("/cpus/cpu-map/cluster" ++ displayNat c) = clusterPath c := by
  have h : "/cpus/cpu-map/cluster" ++ displayNat c =
      "/cpus/cpu-map" ++ String.mk ('/' :: ("cluster".data ++ decimal c)) := rfl
  rw [h, parsePath_child _ (slash_not_mem_append (by decide) (slash_not_mem_decimal c)) (by simp)]
  rfl

theorem parsePath_cluster_append (c : Nat) {s : String} (hs : s.data.head? = some '/') :
    parsePath ("/cpus/cpu-map/cluster" ++ (displayNat c ++ s)) = clusterPath c ++ parsePath s := by
  rw [← String.append_assoc, parsePath_append hs, parsePath_cluster]

/-- The calls of a cluster below its node, by path. -/
def clusterSubOps : List (Bool × FdtPath) :=
  [0, 1].flatMap fun i =>
    let sub := ["cluster".data ++ decimal i]
    [(true, sub), (true, sub ++ ["core0".data]), (true, sub ++ ["core0".data, "thread0".data]),
      (false, sub ++ ["core0".data, "thread0".data]), (true, sub ++ ["core0".data, "thread1".data]),
      (false, sub ++ ["core0".data, "thread1".data]), (true, sub ++ ["core1".data]),
      (true, sub ++ ["core1".data, "thread0".data]), (false, sub ++ ["core1".data, "thread0".data]),
      (true, sub ++ ["core1".data, "thread1".data]), (false, sub ++ ["core1".data, "thread1".data])]

theorem clusterNodes_ops (c : UInt32) :
    (clusterNodes c).map DeviceTreeCall.toOp =
      (true, clusterPath c.toNat) :: relocate (clusterPath c.toNat) clusterSubOps := by
  simp only [clusterNodes, show List.range 2 = [0, 1] from rfl, List.flatMap_cons, List.flatMap_nil,
    List.append_nil, List.map_cons, List.map_append, List.map_nil, List.cons_append, List.nil_append,
    DeviceTreeCall.toOp, DeviceTreeCall.isAdd, DeviceTreeCall.node, String.append_assoc]
  simp (disch := decide) only [parsePath_cluster, parsePath_cluster_append]
  rfl

/-- The path of the node of the vCPU whose MPIDR is `mpidr`. -/
def cpuPath (mpidr : UInt64) : FdtPath := ["cpus".data, "cpu@".data ++ lowerHex mpidr.toNat]

theorem cpuNode_ops (maxCpus cpuIndex : UInt8) (mpidr : UInt64) :
    (cpuNode consts maxCpus cpuIndex mpidr).map DeviceTreeCall.toOp =
      nodeOps (cpuPath mpidr) (if maxCpus > 1 then 5 else 4) := by
  have h : "/cpus/cpu@" ++ String.mk (lowerHex mpidr.toNat) =
      "/cpus" ++ String.mk ('/' :: ("cpu@".data ++ lowerHex mpidr.toNat)) := rfl
  have hp : parsePath ("/cpus/cpu@" ++ String.mk (lowerHex mpidr.toNat)) = cpuPath mpidr := by
    rw [h, parsePath_child _ (slash_not_mem_append (by decide) (slash_not_mem_lowerHex _)) (by simp)]
    rfl
  unfold cpuNode
  split <;> simp only [List.map_cons, List.map_append, List.map_nil, List.cons_append, List.nil_append,
    List.singleton_append, DeviceTreeCall.toOp, DeviceTreeCall.isAdd, DeviceTreeCall.node, hp] <;> rfl

/-- The name of the node of a device. -/
def deviceName (devInfo : DeviceResource) : List Char :=
  (match devInfo.devType with
    | .serial => "uart@"
    | .rtc => "pl031@"
    | _ => "virtio_mmio@").data ++ lowerHex devInfo.addr.toNat

/-- A node and properties of it, as calls. -/
theorem node_ops {node : String} :
    ∀ {calls : List DeviceTreeCall}, (∀ c ∈ calls, c.node = node ∧ c.isAdd = false) →
      (DeviceTreeCall.addSubNode node :: calls).map DeviceTreeCall.toOp =
        nodeOps (parsePath node) calls.length
  | [], _ => rfl
  | c :: calls, h => by
    have hc := h c (List.mem_cons_self c calls)
    have ih := @node_ops node calls fun c' hc' => h c' (List.mem_cons_of_mem c hc')
    have hct : c.toOp = (false, parsePath node) := by rw [DeviceTreeCall.toOp, hc.1, hc.2]
    rw [List.map_cons] at ih
    simp only [List.map_cons, hct, nodeOps, List.length_cons, List.replicate_succ] at ih ⊢
    rw [List.cons.injEq] at ih
    rw [ih.1, ih.2]

theorem parsePath_named (pre : String) (hpre : '/' ∉ pre.data) (n : Nat) :
    parsePath ("/" ++ pre ++ String.mk (lowerHex n)) = [pre.data ++ lowerHex n] :=
  parsePath_slash (slash_not_mem_append hpre (slash_not_mem_lowerHex n)) (by simp [lowerHex_ne_nil])

theorem deviceNode_ops (devInfo : DeviceResource) :
    ∃ k, (deviceNode consts devInfo).map DeviceTreeCall.toOp = nodeOps [deviceName devInfo] k := by
  have hv : parsePath ("/virtio_mmio@" ++ String.mk (lowerHex devInfo.addr.toNat)) =
      ["virtio_mmio@".data ++ lowerHex devInfo.addr.toNat] := parsePath_named _ (by decide) _
  unfold deviceNode
  cases h : devInfo.devType
  all_goals dsimp only [generateSerialDeviceNode, generateRtcDeviceNode, generateVirtioDevicesNode,
    clockedDeviceNode]
  all_goals simp only [deviceName, h]
  · exact ⟨_, (node_ops (by simp [DeviceTreeCall.node, DeviceTreeCall.isAdd])).trans
      (congrArg (nodeOps · _) (parsePath_named "uart@" (by decide) _))⟩
  · exact ⟨_, (node_ops (by simp [DeviceTreeCall.node, DeviceTreeCall.isAdd])).trans
      (congrArg (nodeOps · _) (parsePath_named "pl031@" (by decide) _))⟩
  all_goals exact ⟨_, (node_ops (by simp [DeviceTreeCall.node, DeviceTreeCall.isAdd])).trans
      (congrArg (nodeOps · _) hv)⟩

/-- The path of the cpu-map. -/
def cpuMapPath : FdtPath := ["cpus".data, "cpu-map".data]

/-- The calls of the cpu-map on the tree, for `maxCpus` vCPUs. -/
def cpuMapOps (maxCpus : Nat) : List (Bool × FdtPath) :=
  if 0 < maxCpus ∧ maxCpus % 8 = 0 then
    (true, cpuMapPath) :: (List.range (maxCpus / 8)).flatMap fun c =>
      (true, clusterPath c) :: relocate (clusterPath c) clusterSubOps
  else []

/-- The test of `generate_cpu_nodes` on `u8`, on the number of slots. -/
theorem maxCpus_cond {maxCpus : UInt8} :
    (maxCpus > 0 ∧ maxCpus % 8 = 0) ↔ (0 < maxCpus.toNat ∧ maxCpus.toNat % 8 = 0) :=
  ⟨fun ⟨h0, h8⟩ => ⟨h0, (UInt8.toNat_mod maxCpus 8).symm.trans (congrArg UInt8.toNat h8)⟩,
    fun ⟨h0, h8⟩ => ⟨h0, UInt8.toNat.inj ((UInt8.toNat_mod maxCpus 8).trans h8)⟩⟩

variable {C : Type} (getMpidr : C → UInt64) (m : LightMachine C)

/-- `generate_cpu_nodes` on a machine with a vCPU in every slot, call by call. -/
theorem generateCpuNodes_eq (hm : m.Slotted) :
    generateCpuNodes consts getMpidr m = .ok ([.addSubNode "/cpus",
      .setPropertyU32 "/cpus" "#address-cells" 0x02, .setPropertyU32 "/cpus" "#size-cells" 0x0] ++
      (if m.cpuTopo.maxCpus > 0 ∧ m.cpuTopo.maxCpus % 8 = 0 then
        .addSubNode "/cpus/cpu-map" :: (List.range (m.cpuTopo.maxCpus / 8).toNat).flatMap
          fun cluster => clusterNodes (UInt32.ofNat cluster)
      else []) ++
      ((List.range m.maxCpus).filterMap fun i => m.cpus[i]?.map fun cpu =>
        cpuNode consts m.cpuTopo.maxCpus (UInt8.ofNat i) (getMpidr cpu)).flatten) := by
  have hloop := mapM_range_index m.cpus
    (fun i cpu => cpuNode consts m.cpuTopo.maxCpus (UInt8.ofNat i) (getMpidr cpu))
    m.cpuTopo.maxCpus.toNat (by rw [hm.cpus_length]; rfl)
  beta_reduce at hloop
  simp only [generateCpuNodes]
  rw [hloop]
  rfl

theorem generateCpuNodes_ops (hm : m.Slotted) :
    ∃ calls, generateCpuNodes consts getMpidr m = .ok calls ∧
      calls.map DeviceTreeCall.toOp = nodeOps ["cpus".data] 2 ++ cpuMapOps m.maxCpus ++
        m.cpus.flatMap fun cpu =>
          nodeOps (cpuPath (getMpidr cpu)) (if m.cpuTopo.maxCpus > 1 then 5 else 4) := by
  refine ⟨_, generateCpuNodes_eq consts getMpidr m hm, ?_⟩
  rw [List.map_append, List.map_append, List.map_flatten, List.map_filterMap]
  have hcpus : ((List.range m.maxCpus).filterMap fun i =>
      (m.cpus[i]?.map fun cpu => cpuNode consts m.cpuTopo.maxCpus (UInt8.ofNat i) (getMpidr cpu)).map
        (List.map DeviceTreeCall.toOp)).flatten = m.cpus.flatMap fun cpu =>
          nodeOps (cpuPath (getMpidr cpu)) (if m.cpuTopo.maxCpus > 1 then 5 else 4) := by
    simp only [Option.map_map, Function.comp_def, cpuNode_ops]
    rw [filterMap_range_getElem?, ← hm.cpus_length, List.take_length, List.flatMap_def]
  rw [hcpus]
  congr 2
  simp only [cpuMapOps, LightMachine.maxCpus, ← maxCpus_cond]
  split
  · rw [List.map_cons, List.map_flatMap, UInt8.toNat_div]
    refine congrArg _ (List.flatMap_congr fun c hc => ?_)
    have hc' : c < UInt32.size :=
      calc c < m.cpuTopo.maxCpus.toNat / (8 : UInt8).toNat := List.mem_range.mp hc
        _ ≤ m.cpuTopo.maxCpus.toNat := Nat.div_le_self _ _
        _ < UInt32.size := Nat.lt_trans m.cpuTopo.maxCpus.toNat_lt_size (by decide)
    rw [clusterNodes_ops, UInt32.toNat_ofNat_of_lt hc']
  · rfl

theorem generateMemoryNode_ops (memoryEnd : UInt64) :
    (generateMemoryNode memoryEnd).map DeviceTreeCall.toOp = nodeOps ["memory".data] 2 := rfl

theorem generateDevicesNode_ops (devicesInfo : List DeviceResource) :
    (generateDevicesNode consts devicesInfo).map DeviceTreeCall.toOp =
      nodeOps ["timer".data] 3 ++ nodeOps ["apb-pclk".data] 5 ++ nodeOps ["psci".data] 2 ++
        devicesInfo.reverse.flatMap fun devInfo =>
          (deviceNode consts devInfo).map DeviceTreeCall.toOp := by
  rw [generateDevicesNode, List.map_append, List.map_flatMap]
  rfl

theorem generateChosenNode_ops (bootSource : BootSource) :
    ∃ k, ((generateChosenNode bootSource).map FdtWrite.toCall).map DeviceTreeCall.toOp =
      nodeOps ["chosen".data] k := by
  unfold generateChosenNode
  split
  · exact ⟨3, rfl⟩
  · exact ⟨1, rfl⟩

theorem generateFdtNode_ops (hm : m.Slotted) (devicesInfo : List DeviceResource)
    (memoryEnd : UInt64) (bootSource : BootSource) :
    ∃ calls k, generateFdtNode consts getMpidr m devicesInfo memoryEnd bootSource = .ok calls ∧
      calls.map DeviceTreeCall.toOp = List.replicate 4 (false, []) ++
        (nodeOps ["cpus".data] 2 ++ cpuMapOps m.maxCpus ++ m.cpus.flatMap fun cpu =>
          nodeOps (cpuPath (getMpidr cpu)) (if m.cpuTopo.maxCpus > 1 then 5 else 4)) ++
        nodeOps ["memory".data] 2 ++
        (nodeOps ["timer".data] 3 ++ nodeOps ["apb-pclk".data] 5 ++ nodeOps ["psci".data] 2 ++
          devicesInfo.reverse.flatMap fun devInfo =>
            (deviceNode consts devInfo).map DeviceTreeCall.toOp) ++
        nodeOps ["chosen".data] k := by
  obtain ⟨cpuCalls, hcpu, hcpuOps⟩ := generateCpuNodes_ops consts getMpidr m hm
  obtain ⟨k, hk⟩ := generateChosenNode_ops bootSource
  refine ⟨_, k, by rw [generateFdtNode, hcpu]; rfl, ?_⟩
  simp only [generateFdtNode, List.map_append, hcpuOps, generateMemoryNode_ops,
    generateDevicesNode_ops, hk]
  rfl

end Ops

/-! ## Each part finds what it needs -/

theorem grows_clusterSubOps : Grows [[]] clusterSubOps := by decide

theorem grows_cpuMapOps {tree : FdtTree} (h : ["cpus".data] ∈ tree) (n : Nat) :
    Grows tree (cpuMapOps n) := by
  unfold cpuMapOps
  split
  · refine ⟨by simp [cpuMapPath], h, Grows.flatMap fun c _ =>
      ⟨by simp [clusterPath], by simp [clusterPath, cpuMapPath], grows_clusterSubOps.relocate ?_⟩⟩
    intro q hq
    rw [List.mem_singleton.mp hq, List.append_nil]
    exact List.mem_cons_self _ _
  · trivial

/-! ## No node twice -/

theorem nodup_clusterSubOps : ([] :: addsOf clusterSubOps).Nodup := by decide

theorem clusterPath_injective {a b : Nat} (h : clusterPath a = clusterPath b) : a = b := by
  simp only [clusterPath, List.cons.injEq, List.append_cancel_left_eq, and_true, true_and] at h
  exact decimal_injective h

theorem addsOf_cpuMapOps (n : Nat) : addsOf (cpuMapOps n) =
    if 0 < n ∧ n % 8 = 0 then cpuMapPath :: (List.range (n / 8)).flatMap fun c =>
      ([] :: addsOf clusterSubOps).map (clusterPath c ++ ·) else [] := by
  unfold cpuMapOps
  split
  · simp only [addsOf_add, addsOf_flatMap, addsOf_relocate, List.map_cons, List.append_nil]
  · rfl

/-- The nodes of the cpu-map all lie below it, and none comes twice. -/
theorem cpuMapOps_adds (n : Nat) :
    (∀ p ∈ addsOf (cpuMapOps n), ∃ r, p = cpuMapPath ++ r) ∧ (addsOf (cpuMapOps n)).Nodup := by
  rw [addsOf_cpuMapOps]
  split
  · have hcl : ∀ p ∈ (List.range (n / 8)).flatMap (fun c =>
        ([] :: addsOf clusterSubOps).map (clusterPath c ++ ·)), ∃ c q, p = clusterPath c ++ q := by
      intro p hp
      obtain ⟨c, -, hp⟩ := List.mem_flatMap.mp hp
      obtain ⟨q, -, rfl⟩ := List.mem_map.mp hp
      exact ⟨c, q, rfl⟩
    refine ⟨fun p hp => ?_, List.nodup_cons.mpr ⟨fun hp => ?_, List.nodup_flatMap.mpr ⟨fun c _ =>
      nodup_clusterSubOps.map fun _ _ h => List.append_cancel_left h, ?_⟩⟩⟩
    · rcases List.mem_cons.mp hp with rfl | hp
      · exact ⟨[], (List.append_nil _).symm⟩
      · obtain ⟨c, q, rfl⟩ := hcl p hp
        exact ⟨["cluster".data ++ decimal c] ++ q, rfl⟩
    · obtain ⟨c, q, hq⟩ := hcl _ hp
      have := congrArg List.length hq
      simp [cpuMapPath, clusterPath] at this
    · refine (List.nodup_range _).imp fun {a b} hab p ha hb => hab ?_
      obtain ⟨q, -, rfl⟩ := List.mem_map.mp ha
      obtain ⟨q', -, hq'⟩ := List.mem_map.mp hb
      exact clusterPath_injective (List.append_inj hq' rfl).1.symm
  · exact ⟨fun _ h => absurd h (List.not_mem_nil _), List.nodup_nil⟩

theorem cpuPath_injective {a b : UInt64} (h : cpuPath a = cpuPath b) : a = b := by
  simp only [cpuPath, List.cons.injEq, List.append_cancel_left_eq, and_true, true_and] at h
  exact UInt64.toNat.inj (lowerHex_injective h)

/-- `cpu-map` and `cpu@…` differ in their fourth character. -/
theorem cpuMapPath_ne_cpuPath (r : FdtPath) (mpidr : UInt64) : cpuMapPath ++ r ≠ cpuPath mpidr := by
  intro h
  have := congrArg (fun p => (p.get? 1).bind fun name => name.get? 3) h
  simp [cpuMapPath, cpuPath] at this

/-- The nodes `generate_fdt_node` adds below `/cpus`, with `/cpus` itself: none twice. -/
theorem cpus_adds {C : Type} (getMpidr : C → UInt64) (cpus : List C) (n : Nat)
    (hmpidr : (cpus.map getMpidr).Nodup) :
    (["cpus".data] :: (addsOf (cpuMapOps n) ++ cpus.map fun cpu => cpuPath (getMpidr cpu))).Nodup ∧
      ∀ p ∈ ["cpus".data] :: (addsOf (cpuMapOps n) ++ cpus.map fun cpu => cpuPath (getMpidr cpu)),
        p.head? = some "cpus".data := by
  obtain ⟨hmap, hmapNodup⟩ := cpuMapOps_adds n
  have hcpus : ∀ p ∈ cpus.map fun cpu => cpuPath (getMpidr cpu), ∃ x, p = cpuPath x := by
    intro p hp
    obtain ⟨cpu, -, rfl⟩ := List.mem_map.mp hp
    exact ⟨_, rfl⟩
  have hcpusNodup : (cpus.map fun cpu => cpuPath (getMpidr cpu)).Nodup := by
    have := hmpidr.map (f := cpuPath) fun _ _ => cpuPath_injective
    rwa [List.map_map] at this
  refine ⟨List.nodup_cons.mpr ⟨fun hp => ?_, List.nodup_append.mpr ⟨hmapNodup, hcpusNodup, ?_⟩⟩, ?_⟩
  · rcases List.mem_append.mp hp with hp | hp
    · obtain ⟨r, hr⟩ := hmap _ hp
      have := congrArg List.length hr
      simp [cpuMapPath] at this
    · obtain ⟨x, hx⟩ := hcpus _ hp
      have := congrArg List.length hx
      simp [cpuPath] at this
  · intro p hp hp'
    obtain ⟨r, rfl⟩ := hmap _ hp
    obtain ⟨x, hx⟩ := hcpus _ hp'
    exact cpuMapPath_ne_cpuPath r x hx
  · intro p hp
    rcases List.mem_cons.mp hp with rfl | hp
    · rfl
    rcases List.mem_append.mp hp with hp | hp
    · obtain ⟨r, rfl⟩ := hmap _ hp
      rfl
    · obtain ⟨x, rfl⟩ := hcpus _ hp
      rfl

theorem at_mem_deviceName (devInfo : DeviceResource) : '@' ∈ deviceName devInfo :=
  List.mem_append_left _ (by split <;> decide)

/-- Two devices whose nodes have one name sit at one address. -/
theorem deviceName_addr {a b : DeviceResource} (h : deviceName a = deviceName b) :
    a.addr = b.addr := by
  unfold deviceName at h
  cases ha : a.devType <;> cases hb : b.devType <;> simp only [ha, hb] at h <;>
    first
    | exact UInt64.toNat.inj (lowerHex_injective (List.append_cancel_left h))
    | simp at h

/-- The nodes `generate_fdt_node` adds below the root besides `/cpus`: none twice. -/
theorem root_adds (devicesInfo : List DeviceResource)
    (hdev : (devicesInfo.map DeviceResource.addr).Nodup) :
    ([["memory".data], ["timer".data], ["apb-pclk".data], ["psci".data], ["chosen".data]] ++
      devicesInfo.reverse.map fun d => [deviceName d]).Nodup ∧
    ∀ p ∈ [["memory".data], ["timer".data], ["apb-pclk".data], ["psci".data], ["chosen".data]] ++
      devicesInfo.reverse.map (fun d => [deviceName d]), p.head? ≠ some "cpus".data := by
  have hfixed : ∀ p ∈ ([["memory".data], ["timer".data], ["apb-pclk".data], ["psci".data],
      ["chosen".data]] : FdtTree), ∀ x ∈ p, '@' ∉ x := by decide
  have hdevs : ∀ p ∈ devicesInfo.reverse.map (fun d => [deviceName d]), ∃ x, p = [x] ∧ '@' ∈ x := by
    intro p hp
    obtain ⟨d, -, rfl⟩ := List.mem_map.mp hp
    exact ⟨_, rfl, at_mem_deviceName d⟩
  refine ⟨List.nodup_append.mpr ⟨by decide, ?_, fun p hp hp' => ?_⟩, fun p hp => ?_⟩
  · refine (List.nodup_reverse.mpr (hdev.of_map _)).map_on fun x hx y hy hxy => ?_
    exact List.inj_on_of_nodup_map hdev (List.mem_reverse.mp hx) (List.mem_reverse.mp hy)
      (deviceName_addr (List.singleton_inj.mp hxy))
  · obtain ⟨x, rfl, hx⟩ := hdevs p hp'
    exact hfixed _ hp x (List.mem_singleton_self x) hx
  · rcases List.mem_append.mp hp with hp | hp
    · exact (show ∀ p ∈ ([["memory".data], ["timer".data], ["apb-pclk".data], ["psci".data],
        ["chosen".data]] : FdtTree), p.head? ≠ some "cpus".data by decide) p hp
    · obtain ⟨x, rfl, hx⟩ := hdevs p hp
      intro h
      rw [List.head?_cons, Option.some_inj] at h
      exact absurd (h ▸ hx) (by decide)

theorem addsOf_deviceNode (consts : FdtConsts) (devInfo : DeviceResource) :
    addsOf ((deviceNode consts devInfo).map DeviceTreeCall.toOp) = [[deviceName devInfo]] := by
  obtain ⟨k, hk⟩ := deviceNode_ops consts devInfo
  rw [hk, addsOf_nodeOps]

/-! ## `generate_fdt_node` builds its tree -/

section Build

variable (consts : FdtConsts) {C : Type} (getMpidr : C → UInt64) (m : LightMachine C)

/-- For every machine that `new` builds whose vCPUs have distinct MPIDRs, every list of
devices at distinct addresses and every `FDT_MAX_SIZE` and accounting of the blob,
`generate_fdt_node` does not panic, and none of its calls fails for a missing parent, a
node already there or a missing node: the run fails only with `noSpace`, exactly when its
calls need more than `FDT_MAX_SIZE` bytes, and otherwise builds a tree with a node for
every vCPU and every device. -/
theorem generate_fdt_node_builds (space : FdtSpace) (hm : m.Slotted)
    (hmpidr : (m.cpus.map getMpidr).Nodup) (devicesInfo : List DeviceResource)
    (hdev : (devicesInfo.map DeviceResource.addr).Nodup) (memoryEnd : UInt64)
    (bootSource : BootSource) :
    ∃ calls tree, generateFdtNode consts getMpidr m devicesInfo memoryEnd bootSource = .ok calls ∧
      (createDeviceTree space >>= fun blob => build space blob calls) =
        (if space.emptySize + space.usedBy [] calls ≤ space.fdtMaxSize then
          .ok ⟨calls, tree, space.emptySize + space.usedBy [] calls⟩
        else .error .noSpace) ∧
      (∀ cpu ∈ m.cpus, cpuPath (getMpidr cpu) ∈ tree) ∧
      ∀ devInfo ∈ devicesInfo, [deviceName devInfo] ∈ tree := by
  obtain ⟨calls, k, hcalls, hops⟩ :=
    generateFdtNode_ops consts getMpidr m hm devicesInfo memoryEnd bootSource
  have hroot : ([] : FdtPath) ∈ [[]] := List.mem_singleton_self _
  have hgrows : Grows [[]] (calls.map DeviceTreeCall.toOp) := by
    rw [hops]
    refine ((((show Grows [[]] (List.replicate 4 (false, [])) by decide).append_same
      ?_).append_same (grows_topNode hroot _ 2)).append_same ?_).append_same
      (grows_topNode hroot _ k)
    · exact (grows_topNode hroot _ 2).append ((grows_cpuMapOps (by simp [nodeOps]) _).append_same
        (Grows.flatMap fun cpu _ => grows_nodeOps (by simp [cpuPath]) (by simp [cpuPath, nodeOps]) _))
    · refine (((grows_topNode hroot _ 3).append_same (grows_topNode hroot _ 5)).append_same
        (grows_topNode hroot _ 2)).append_same (Grows.flatMap fun devInfo _ => ?_)
      obtain ⟨k, hk⟩ := deviceNode_ops consts devInfo
      exact hk ▸ grows_topNode hroot _ k
  have hadds : addsOf (calls.map DeviceTreeCall.toOp) =
      (["cpus".data] :: (addsOf (cpuMapOps m.maxCpus) ++
        m.cpus.map fun cpu => cpuPath (getMpidr cpu))) ++
      ["memory".data] :: ["timer".data] :: ["apb-pclk".data] :: ["psci".data] ::
        ((devicesInfo.reverse.map fun d => [deviceName d]) ++ [["chosen".data]]) := by
    simp only [hops, addsOf_append, addsOf_nodeOps, addsOf_flatMap, addsOf_deviceNode,
      ← List.map_eq_flatMap, List.replicate_succ, List.replicate_zero, addsOf_set, addsOf_nil,
      List.nil_append, List.append_assoc, List.singleton_append, List.cons_append]
  obtain ⟨hA, hAcpus⟩ := cpus_adds getMpidr m.cpus m.maxCpus hmpidr
  obtain ⟨hB, hBcpus⟩ := root_adds devicesInfo hdev
  have hperm : List.Perm (["memory".data] :: ["timer".data] :: ["apb-pclk".data] ::
      ["psci".data] :: ((devicesInfo.reverse.map fun d => [deviceName d]) ++ [["chosen".data]]))
      ([["memory".data], ["timer".data], ["apb-pclk".data], ["psci".data], ["chosen".data]] ++
        devicesInfo.reverse.map fun d => [deviceName d]) :=
    (((List.perm_append_singleton _ _).cons _).cons _).cons _ |>.cons _
  have hnodup : (addsOf (calls.map DeviceTreeCall.toOp)).Nodup := by
    rw [hadds, (hperm.append_left _).nodup_iff]
    exact List.nodup_append.mpr ⟨hA, hB, fun p hp hp' => hBcpus p hp' (hAcpus p hp)⟩
  refine ⟨calls, _, hcalls, build_createDeviceTree space hgrows hnodup, fun cpu hcpu => ?_,
    fun devInfo hdevInfo => ?_⟩
  all_goals refine List.mem_append_left _ (List.mem_reverse.mpr ?_)
  all_goals rw [hadds]
  · exact List.mem_append_left _
      (List.mem_cons_of_mem _ (List.mem_append_right _ (List.mem_map_of_mem _ hcpu)))
  · refine List.mem_append_right _ (hperm.mem_iff.mpr (List.mem_append_right _ ?_))
    exact List.mem_map_of_mem _ (List.mem_reverse.mpr hdevInfo)

end Build

/-- `generate_fdt_node_builds` on `runningPair`, with a serial port and a block device, in a
buffer of 64 KiB where every write takes 16 bytes. -/
theorem generate_fdt_node_builds_runningPair :
    ∃ calls tree, generateFdtNode ⟨1, 2, 10, 0, 1, 1, 4⟩ (fun cpu : CPU => UInt64.ofNat cpu.id)
        runningPair [⟨0x09000000, 0x1000, 33, .serial⟩, ⟨0x0a000000, 0x200, 34, .blk⟩] 0x88000000
        ⟨"vmlinux", "console=ttyS0", none⟩ = .ok calls ∧
      (createDeviceTree ⟨0x10000, 0x48, fun _ _ => 16⟩ >>= fun blob =>
          build ⟨0x10000, 0x48, fun _ _ => 16⟩ blob calls) =
        (if 0x48 + FdtSpace.usedBy ⟨0x10000, 0x48, fun _ _ => 16⟩ [] calls ≤ 0x10000 then
          .ok ⟨calls, tree, 0x48 + FdtSpace.usedBy ⟨0x10000, 0x48, fun _ _ => 16⟩ [] calls⟩
        else .error .noSpace) ∧
      (∀ cpu ∈ runningPair.cpus, cpuPath (UInt64.ofNat cpu.id) ∈ tree) ∧
      ∀ devInfo ∈ [(⟨0x09000000, 0x1000, 33, .serial⟩ : DeviceResource), ⟨0x0a000000, 0x200, 34, .blk⟩],
        [deviceName devInfo] ∈ tree :=
  generate_fdt_node_builds _ (fun cpu : CPU => UInt64.ofNat cpu.id) runningPair
    ⟨0x10000, 0x48, fun _ _ => 16⟩ ⟨rfl, rfl⟩ (by decide) _ (by decide) _ _

end StratoVirt
