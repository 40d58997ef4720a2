import Mathlib.Data.List.Forall2

/-!
# The state of a micro VM

`LightMachine` (`device_model/src/micro_vm/mod.rs`) as its lifecycle and query code
reads it: the `vm_state` cell, the vCPU list behind its mutex, the vCPU topology with its
online mask, and the power-button event file.

## What is transcribed and what is ours

* `LightMachine::new`'s construction of the online mask, the topology and the vCPU list is
  transcribed, with the fallible creation of one vCPU (`create_vcpu` and `CPU::new`) as a
  parameter.
* `KvmVmState`, `CpuTopology`'s accessors and `CPU` live in crates that are not in the
  source.  The machine code only ever calls six operations of a vCPU, so those are the
  parameters `CpuOps`; every result about the machine holds for every vCPU implementation.
  `CPU` below is the vCPU the spec describes (§3, §4.3), used where a concrete machine is
  needed.
* A Rust panic (an index out of bounds, an `unwrap` of `None`) is the `Panic` outcome.
-/

namespace StratoVirt

/-- Modelled from the spec: the values of the `vm_state` cell that the micro VM uses (§4.4,
`Created → Running ↔ Paused → Shutdown`); `KvmVmState` itself is declared in
`machine_manager`, which is not in the source. -/
inductive KvmVmState where
  | created
  | running
  | paused
  | shutdown
deriving DecidableEq, Repr

/-- Why a thread panicked. -/
inductive Panic where
  /-- `v[index]` on a vector of length `length ≤ index`. -/
  | indexOutOfBounds (index length : Nat)
  /-- `Option::unwrap` on `None`. -/
  | unwrapNone
  /-- `s[start..stop]` with `stop < start` or `length < stop`. -/
  | sliceOutOfRange (start stop length : Nat)
deriving DecidableEq, Repr

/-- The error a fallible vCPU operation returns (`crate::errors::Error`). -/
abbrev CpuError := String

/-- What a fallible call on a vCPU of type `C` returns.  The vCPU sits behind an `Arc` in
the machine's list and its calls take `&self`, so a call that fails can still have changed
it: the error comes with the vCPU as the call left it. -/
abbrev CpuResult (C : Type) := Except (CpuError × C) C

/-- The vCPU topology (`crate::cpu::CpuTopology`), with the fields `LightMachine::new`
fills in; all of them are `u8`. -/
structure CpuTopology where
  sockets : UInt8
  cores : UInt8
  threads : UInt8
  nrcpus : UInt8
  maxCpus : UInt8
  /-- One presence bit per vCPU slot. -/
  onlineMask : List UInt8
deriving DecidableEq, Repr

/-- The operations of one vCPU that the machine code calls.  Each of the first five may
fail, after changing the vCPU or not; `tid` is the host thread id `query_cpus` reports. -/
structure CpuOps (C : Type) where
  realize : C → CpuResult C
  /-- `CPU::start(cpu, barrier, paused, use_seccomp)`, by its `paused` flag. -/
  start : Bool → C → CpuResult C
  pause : C → CpuResult C
  resume : C → CpuResult C
  destroy : C → CpuResult C
  tid : C → Nat

/-- The parts of `LightMachine` that the lifecycle and query code reads and writes.
`powerButton` counts the writes to the power-button event file. -/
structure LightMachine (C : Type) where
  cpuTopo : CpuTopology
  cpus : List C
  vmState : KvmVmState
  powerButton : Nat
deriving DecidableEq, Repr

/-- `pure` in `Except` is `ok`. -/
@[simp] theorem except_pure {ε α : Type} (a : α) : (pure a : Except ε α) = .ok a := rfl

/-- Binding a success runs the continuation. -/
@[simp] theorem except_ok_bind {ε α β : Type} (a : α) (f : α → Except ε β) :
    (Except.ok a >>= f) = f a := rfl

/-- Binding a failure keeps it. -/
@[simp] theorem except_error_bind {ε α β : Type} (e : ε) (f : α → Except ε β) :
    (Except.error e >>= f) = Except.error e := rfl

/-- Mapping over a success maps its value. -/
@[simp] theorem except_map_ok {ε α β : Type} (f : α → β) (a : α) :
    (f <$> (Except.ok a : Except ε α)) = .ok (f a) := rfl

/-- Mapping over a failure keeps it. -/
@[simp] theorem except_map_error {ε α β : Type} (f : α → β) (e : ε) :
    (f <$> (Except.error e : Except ε α)) = .error e := rfl

/-- `v[i]` on a Rust vector: the element, or a panic out of bounds. -/
def index {α : Type} (v : List α) (i : Nat) : Except Panic α :=
  match v.get? i with
  | some a => .ok a
  | none => .error (.indexOutOfBounds i v.length)

theorem index_of_lt {α : Type} {v : List α} {i : Nat} (h : i < v.length) :
    index v i = .ok v[i] := by
  simp [index, List.get?_eq_getElem? v i, h]

theorem index_of_le {α : Type} {v : List α} {i : Nat} (h : v.length ≤ i) :
    index v i = .error (.indexOutOfBounds i v.length) := by
  simp [index, List.get?_eq_getElem? v i, List.getElem?_eq_none h]

@[simp] theorem index_append_length {α : Type} (pre rest : List α) (a : α) :
    index (pre ++ a :: rest) pre.length = .ok a := by
  rw [index_of_lt (by simp), List.getElem_append_right (Nat.le_refl _)]
  simp

namespace LightMachine

variable {C : Type}

/-- The number of vCPU slots the loops of the machine code run over. -/
def maxCpus (m : LightMachine C) : Nat := m.cpuTopo.maxCpus.toNat

/-- Writing `vm_state` under its lock. -/
def setVmState (m : LightMachine C) (s : KvmVmState) : LightMachine C := { m with vmState := s }

/-- `self.power_button.write(1)`. -/
def pressPowerButton (m : LightMachine C) : LightMachine C :=
  { m with powerButton := m.powerButton + 1 }

@[simp] theorem setVmState_vmState (m : LightMachine C) (s : KvmVmState) :
    (m.setVmState s).vmState = s := rfl
@[simp] theorem setVmState_cpus (m : LightMachine C) (s : KvmVmState) :
    (m.setVmState s).cpus = m.cpus := rfl
@[simp] theorem setVmState_cpuTopo (m : LightMachine C) (s : KvmVmState) :
    (m.setVmState s).cpuTopo = m.cpuTopo := rfl
@[simp] theorem setVmState_powerButton (m : LightMachine C) (s : KvmVmState) :
    (m.setVmState s).powerButton = m.powerButton := rfl
@[simp] theorem pressPowerButton_vmState (m : LightMachine C) :
    m.pressPowerButton.vmState = m.vmState := rfl
@[simp] theorem pressPowerButton_cpus (m : LightMachine C) :
    m.pressPowerButton.cpus = m.cpus := rfl
@[simp] theorem pressPowerButton_cpuTopo (m : LightMachine C) :
    m.pressPowerButton.cpuTopo = m.cpuTopo := rfl
@[simp] theorem maxCpus_setVmState (m : LightMachine C) (s : KvmVmState) :
    (m.setVmState s).maxCpus = m.maxCpus := rfl
@[simp] theorem maxCpus_pressPowerButton (m : LightMachine C) :
    m.pressPowerButton.maxCpus = m.maxCpus := rfl

/-- `LightMachine::new`, from the configured vCPU count: the online mask has one set bit
per vCPU, the topology puts every vCPU in a socket of its own, the vCPUs are created in
order of id, and the machine starts `Created`. -/
def new (nrCpus : UInt8) (createCpu : Nat → Except CpuError C) :
    Except CpuError (LightMachine C) := do
  let cpus ← (List.range nrCpus.toNat).mapM createCpu
  pure
    { cpuTopo :=
        { sockets := nrCpus, cores := 1, threads := 1, nrcpus := nrCpus, maxCpus := nrCpus
          onlineMask := List.replicate nrCpus.toNat 1 }
      cpus
      vmState := .created
      powerButton := 0 }

/-- Creating `n` vCPUs one by one gives `n` vCPUs. -/
theorem length_of_mapM_eq_ok {f : Nat → Except CpuError C} :
    ∀ {l : List Nat} {cs : List C}, l.mapM f = .ok cs → cs.length = l.length
  | [], cs, h => by simp only [List.mapM_nil] at h; cases h; rfl
  | a :: l, cs, h => by
    simp only [List.mapM_cons, bind, Except.bind] at h
    split at h
    · cases h
    · split at h
      · cases h
      · cases h; simpa using length_of_mapM_eq_ok ‹_›

/-- A machine fresh from `new` has one vCPU per slot and one mask bit per slot. -/
theorem new_wf {nrCpus : UInt8} {createCpu : Nat → Except CpuError C} {m : LightMachine C}
    (h : new nrCpus createCpu = .ok m) :
    m.cpus.length = m.maxCpus ∧ m.cpuTopo.onlineMask.length = m.maxCpus ∧
      m.vmState = .created := by
  simp only [new, bind, Except.bind] at h
  split at h
  · cases h
  · rename_i cs hcs
    cases h
    exact ⟨(length_of_mapM_eq_ok hcs).trans (List.length_range _), by simp [maxCpus], rfl⟩

end LightMachine

/-! ## The vCPU of the spec -/

/-- Modelled from the spec: the run state of a vCPU (§3, "a state field in {Created,
Running, Paused, Destroyed}"). -/
inductive CpuLifecycleState where
  | created
  | running
  | paused
  | destroyed
deriving DecidableEq, Repr

/-- Modelled from the spec: a vCPU by its id, the id of its host thread and its run state
(§3). -/
structure CPU where
  id : Nat
  tid : Nat
  state : CpuLifecycleState
deriving DecidableEq, Repr

namespace CPU

/-- Modelled from the spec: raising the signal that interrupts the run loop of vCPU `c`
(§4.3).  It fails on the vCPUs `faulty` picks, leaving `c` as it is. -/
def kick (faulty : Nat → Bool) (c : CPU) : CpuResult CPU :=
  if faulty c.id then .error ("failed to kick vcpu", c) else .ok c

/-- Modelled from the spec: an operation that signals the vCPU and, once the signal is
through, moves it to `s` (`start`, `pause`, `resume`). -/
def transit (faulty : Nat → Bool) (s : CpuLifecycleState) (c : CPU) : CpuResult CPU :=
  (kick faulty c).map fun c => { c with state := s }

/-- Modelled from the spec: the vCPU operations of §4.3, failing on the vCPUs `faulty`
picks.  `destroy` "marks the vCPU Destroyed, raises the same signal": it marks first, so a
destroy whose signal fails leaves the vCPU `Destroyed`. -/
def ops (faulty : Nat → Bool) : CpuOps CPU where
  realize c := if faulty c.id then .error ("failed to realize vcpu", c) else .ok c
  start paused := transit faulty (if paused then .paused else .running)
  pause := transit faulty .paused
  resume := transit faulty .running
  destroy c := kick faulty { c with state := .destroyed }
  tid c := c.tid

/-- Modelled from the spec: vCPU `i` as `LightMachine::new` creates it, in state
`Created`, on host thread `i`. -/
def create (i : Nat) : Except CpuError CPU := .ok ⟨i, i, .created⟩

end CPU

end StratoVirt
