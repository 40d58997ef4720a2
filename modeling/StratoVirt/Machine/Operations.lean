import StratoVirt.Machine.Lifecycle
import StratoVirt.Machine.Query

/-!
# Sequences of machine operations

Every public operation of `LightMachine` that indexes the vCPU list, run one after the
other on the machine `LightMachine::new` built: `realize`, `vm_start`, the lifecycle
requests and the two queries.

`LightMachine::new` builds one vCPU and one presence bit per slot (`Slotted`), and every
loop over the vCPUs runs over the slots `0..max_cpus`.  Every operation but `destroy`
keeps the machine `Slotted`, so none of them panics (`runOps_ok_of_slotted`).  `vm_destroy`
clears the vCPU list and leaves `max_cpus` and the online mask as they were, so after it
the next indexing of the vCPU list panics (`query_after_destroy_panics`).

## Honest boundary

`realize` is its vCPU loop: the device realization, the kernel load and the power-event
registration around it do not touch the vCPU list and are not modelled.
-/

namespace StratoVirt

/-- One vCPU and one presence bit per slot, as `LightMachine::new` builds the machine. -/
structure LightMachine.Slotted {C : Type} (m : LightMachine C) : Prop where
  cpus_length : m.cpus.length = m.maxCpus
  mask_length : m.cpuTopo.onlineMask.length = m.maxCpus

/-- The operations of `LightMachine` that index the vCPU list. -/
inductive MachineOp where
  | realize
  | vmStart (paused : Bool)
  | pause
  | resume
  | destroy
  | queryCpus
  | queryHotpluggableCpus
deriving DecidableEq, Repr

namespace LightMachine

variable {C : Type} (ops : CpuOps C) (getTopo : GetTopo)

/-- The vCPU loop of `realize`. -/
def realize (m : LightMachine C) : Except Panic (Except CpuError Unit × LightMachine C) := do
  let (cpus, r) ← cpuLoop ops.realize (List.range m.maxCpus) m.cpus
  pure (r, { m with cpus })

/-- One operation; the queries leave the machine as it was. -/
def runOp : MachineOp → LightMachine C → Except Panic (LightMachine C)
  | .realize, m => Prod.snd <$> realize ops m
  | .vmStart paused, m => Prod.snd <$> vmStart ops paused m
  | .pause, m => Prod.snd <$> pause ops m
  | .resume, m => Prod.snd <$> resume ops m
  | .destroy, m => Prod.snd <$> destroy ops m
  | .queryCpus, m => (fun _ => m) <$> queryCpus ops getTopo m
  | .queryHotpluggableCpus, m => (fun _ => m) <$> queryHotpluggableCpus getTopo m

/-- Operations one after the other, stopping at the first panic. -/
def runOps : List MachineOp → LightMachine C → Except Panic (LightMachine C)
  | [], m => .ok m
  | o :: os, m => runOp ops getTopo o m >>= runOps os

/-- The machine `new` builds is `Slotted`. -/
theorem new_slotted {nrCpus : UInt8} {createCpu : Nat → Except CpuError C} {m : LightMachine C}
    (h : new nrCpus createCpu = .ok m) : m.Slotted :=
  ⟨(new_wf h).1, (new_wf h).2.1⟩

/-! ## No panic while every slot has its vCPU -/

section Slotted

variable {m : LightMachine C} (hm : m.Slotted)
include hm

theorem Slotted.mem_range {i : Nat} (hi : i ∈ List.range m.maxCpus) :
    i < m.cpuTopo.onlineMask.length ∧ i < m.cpus.length := by
  rw [hm.mask_length, hm.cpus_length]
  have := List.mem_range.mp hi
  exact ⟨this, this⟩

/-- A machine whose vCPU list and topology are those of a `Slotted` one is `Slotted`. -/
theorem Slotted.of_cpus {m' : LightMachine C} (htopo : m'.cpuTopo = m.cpuTopo)
    (hcpus : m'.cpus.length = m.cpus.length) : m'.Slotted := by
  have hmax : m'.maxCpus = m.maxCpus := by simp only [maxCpus, htopo]
  exact ⟨by rw [hcpus, hmax, hm.cpus_length], by rw [htopo, hmax, hm.mask_length]⟩

/-- The loop of `vm_start`, `vm_pause` or `vm_resume` does not panic, and keeps the machine
`Slotted`. -/
theorem Slotted.cpuTransit_ok (op : C → CpuResult C) (target : KvmVmState) :
    ∃ r m', cpuTransit op target m = .ok (r, m') ∧ m'.Slotted := by
  obtain ⟨cpus, r, h₁, h₂⟩ := cpuLoop_ok op fun i hi => (hm.mem_range hi).2
  simp only [cpuTransit, h₁, except_ok_bind]
  rcases r with e | _
  · exact ⟨_, _, rfl, hm.of_cpus rfl h₂⟩
  · exact ⟨_, _, rfl, hm.of_cpus rfl h₂⟩

/-- `realize` does not panic, and keeps the machine `Slotted`. -/
theorem Slotted.realize_ok : ∃ r m', realize ops m = .ok (r, m') ∧ m'.Slotted := by
  obtain ⟨cpus, r, h₁, h₂⟩ := cpuLoop_ok ops.realize fun i hi => (hm.mem_range hi).2
  exact ⟨r, { m with cpus }, by simp only [realize, h₁, except_ok_bind]; rfl, hm.of_cpus rfl h₂⟩

/-- A lifecycle request to a state other than `Shutdown` does not panic, and keeps the
machine `Slotted`. -/
theorem Slotted.notifyLifecycle_ok (old new : KvmVmState) (hnew : new ≠ .shutdown) :
    ∃ b m', notifyLifecycle ops old new m = .ok (b, m') ∧ m'.Slotted := by
  unfold notifyLifecycle
  split
  · exact ⟨_, _, rfl, hm⟩
  rcases harm : lifecycleArm old new with _ | a
  · exact ⟨_, _, rfl, hm⟩
  have hrun : ∃ m', runArm ops a m = .ok m' ∧ m'.Slotted := by
    cases a with
    | destroy => cases old <;> cases new <;> simp_all [lifecycleArm]
    | _ =>
      simp only [runArm, vmStart, vmPause, vmResume]
      obtain ⟨r, m', h, h'⟩ := hm.cpuTransit_ok _ _
      exact ⟨m', by rw [h]; rfl, h'⟩
  obtain ⟨m', h, h'⟩ := hrun
  exact ⟨decide (m'.vmState = new), m', by simp only [h, except_map_ok], h'⟩

/-- Every operation but `destroy` does not panic, and keeps the machine `Slotted`. -/
theorem Slotted.runOp_ok {o : MachineOp} (ho : o ≠ .destroy) :
    ∃ m', runOp ops getTopo o m = .ok m' ∧ m'.Slotted := by
  cases o with
  | realize =>
    obtain ⟨r, m', h, h'⟩ := hm.realize_ok ops
    exact ⟨m', by simp only [runOp, h, except_map_ok], h'⟩
  | vmStart paused =>
    obtain ⟨r, m', h, h'⟩ := hm.cpuTransit_ok (ops.start paused) (if paused then .paused else .running)
    exact ⟨m', by simp only [runOp, vmStart, h, except_map_ok], h'⟩
  | pause =>
    obtain ⟨b, m', h, h'⟩ := hm.notifyLifecycle_ok ops .running .paused (by decide)
    exact ⟨m', by simp only [runOp, LightMachine.pause, h, except_map_ok], h'⟩
  | resume =>
    obtain ⟨b, m', h, h'⟩ := hm.notifyLifecycle_ok ops .paused .running (by decide)
    exact ⟨m', by simp only [runOp, LightMachine.resume, h, except_map_ok], h'⟩
  | destroy => exact absurd rfl ho
  | queryCpus =>
    obtain ⟨l, h⟩ := queryCpusLoop_ok ops getTopo fun i hi => hm.mem_range hi
    exact ⟨m, by simp only [runOp, queryCpus, h, except_map_ok], hm⟩
  | queryHotpluggableCpus =>
    obtain ⟨l, h⟩ := queryHotpluggableLoop_ok getTopo fun i hi => (hm.mem_range hi).1
    exact ⟨m, by simp only [runOp, queryHotpluggableCpus, h, except_map_ok], hm⟩

end Slotted

/-- Until the first `destroy`, no sequence of operations on a `Slotted` machine panics,
and the machine stays `Slotted`. -/
theorem runOps_ok_of_slotted : ∀ {os : List MachineOp} {m : LightMachine C},
    MachineOp.destroy ∉ os → m.Slotted → ∃ m', runOps ops getTopo os m = .ok m' ∧ m'.Slotted
  | [], m, _, hm => ⟨m, rfl, hm⟩
  | o :: os, _, hos, hm => by
    obtain ⟨m₁, h₁, hm₁⟩ := hm.runOp_ok ops getTopo (o := o) fun h => hos (h ▸ List.mem_cons_self o os)
    obtain ⟨m₂, h₂, hm₂⟩ := runOps_ok_of_slotted (fun h => hos (List.mem_cons_of_mem o h)) hm₁
    exact ⟨m₂, by simp only [runOps, h₁, except_ok_bind, h₂], hm₂⟩

end LightMachine

/-- `runOps_ok_of_slotted` on `runningPair`: a query, a pause and a resume. -/
theorem runOps_ok_of_slotted_runningPair :
    ∃ m', LightMachine.runOps (CPU.ops fun _ => false) (fun _ _ => (0, 0, 0))
      [.queryCpus, .pause, .resume] runningPair = .ok m' ∧ m'.Slotted :=
  LightMachine.runOps_ok_of_slotted _ _ (by decide) ⟨rfl, rfl⟩

open LightMachine in
/-- On a one-vCPU machine, `destroy` then `query_cpus` panics: `vm_destroy` cleared the
vCPU list, and `query_cpus` still walks slot 0, whose presence bit is 1. -/
theorem query_after_destroy_panics (getTopo : GetTopo) :
    (new 1 CPU.create).map (runOps (CPU.ops fun _ => false) getTopo [.destroy, .queryCpus]) =
      .ok (.error (.indexOutOfBounds 0 0)) := rfl

end StratoVirt
