import StratoVirt.Machine.State

/-!
# The lifecycle requests, one at a time

`vm_start`, `vm_pause`, `vm_resume`, `vm_destroy`, `notify_lifecycle` and the
`MachineLifecycle` requests `pause`, `resume` and `destroy` (`micro_vm/mod.rs`), as one
thread runs them with nothing running beside it.

`vm_start`, `vm_pause` and `vm_resume` are one loop over the vCPUs followed by a write of
`vm_state`; they are `cpuTransit` at their own operation and target.  `vm_destroy` writes
`Shutdown` first and clears the vCPU list last, so it keeps a body of its own.

## Honest boundary

* The `STOP` and `RESUME` events `pause` and `resume` send on success, and aarch64's
  `irq_chip.stop()` in `vm_pause`, are not modelled.
* `vm_start` waits on a barrier that its vCPU threads also wait on; one thread alone never
  gets past it.  Here `vm_start` is its loop and its write; the barrier is the subject of
  `StratoVirt/Machine/StartBarrier.lean`.
-/

namespace StratoVirt

namespace LightMachine

variable {C : Type} (ops : CpuOps C)

/-- The loop `for cpu_index in 0..max_cpus { self.cpus.lock().unwrap()[cpu_index].op()?; }`
over the indices `is`.  It stops at the first error, leaving the vCPUs it already moved
moved and the failing one as its call left it, and panics on an index past the end of the
vCPU list. -/
def cpuLoop (op : C → CpuResult C) :
    List Nat → List C → Except Panic (List C × Except CpuError Unit)
  | [], cpus => .ok (cpus, .ok ())
  | i :: is, cpus => do
    let c ← index cpus i
    match op c with
    | .error (e, c') => pure (cpus.set i c', .error e)
    | .ok c' => cpuLoop op is (cpus.set i c')

/-- What `vm_start`, `vm_pause` and `vm_resume` share: run `op` on every vCPU and, only if
every call succeeds, write `target` into `vm_state`. -/
def cpuTransit (op : C → CpuResult C) (target : KvmVmState) (m : LightMachine C) :
    Except Panic (Except CpuError Unit × LightMachine C) := do
  let (cpus, r) ← cpuLoop op (List.range m.maxCpus) m.cpus
  match r with
  | .error e => pure (.error e, { m with cpus })
  | .ok () => pure (.ok (), { m with cpus }.setVmState target)

/-- `vm_start(paused, _)`: start every vCPU, then write `Paused` or `Running`. -/
def vmStart (paused : Bool) : LightMachine C → Except Panic (Except CpuError Unit × LightMachine C) :=
  cpuTransit (ops.start paused) (if paused then .paused else .running)

/-- `vm_pause`: pause every vCPU, then write `Paused`. -/
def vmPause : LightMachine C → Except Panic (Except CpuError Unit × LightMachine C) :=
  cpuTransit ops.pause .paused

/-- `vm_resume`: resume every vCPU, then write `Running`. -/
def vmResume : LightMachine C → Except Panic (Except CpuError Unit × LightMachine C) :=
  cpuTransit ops.resume .running

/-- `vm_destroy`: write `Shutdown`, destroy every vCPU, and clear the vCPU list only if
every destroy succeeded. -/
def vmDestroy (m : LightMachine C) : Except Panic (Except CpuError Unit × LightMachine C) := do
  let m := m.setVmState .shutdown
  let (cpus, r) ← cpuLoop ops.destroy (List.range m.maxCpus) m.cpus
  match r with
  | .error e => pure (.error e, { m with cpus })
  | .ok () => pure (.ok (), { m with cpus := [] })

end LightMachine

/-- The arms of `notify_lifecycle`'s `match (old, new)` that run an action. -/
inductive Arm where
  | start
  | pause
  | resume
  | destroy
deriving DecidableEq, Repr

/-- The arm of `match (old, new)` in `notify_lifecycle`; `none` is the illegal arm
`(_, _)`.  Note the arm `(_, Shutdown)`, which takes every `old`, `Shutdown` included. -/
def lifecycleArm : KvmVmState → KvmVmState → Option Arm
  | .created, .running => some .start
  | .running, .paused => some .pause
  | .paused, .running => some .resume
  | _, .shutdown => some .destroy
  | _, _ => none

/-- The three lifecycle requests of `MachineLifecycle`. -/
inductive Request where
  | pause
  | resume
  | destroy
deriving DecidableEq, Repr

namespace Request

/-- The state a request asks `notify_lifecycle` to move to. -/
def target : Request → KvmVmState
  | .pause => .paused
  | .resume => .running
  | .destroy => .shutdown

/-- The state a request asks `notify_lifecycle` to move from; `destroy` passes the
`vm_state` it has just read. -/
def source : Request → KvmVmState → KvmVmState
  | .pause, _ => .running
  | .resume, _ => .paused
  | .destroy, s => s

end Request

namespace LightMachine

variable {C : Type} (ops : CpuOps C)

/-- An arm's action.  Its `Err` is logged and dropped (`if let Err(e) = ... { error!(..) }`);
the arm `(_, Shutdown)` also writes the power button. -/
def runArm : Arm → LightMachine C → Except Panic (LightMachine C)
  | .start, m => Prod.snd <$> vmStart ops false m
  | .pause, m => Prod.snd <$> vmPause ops m
  | .resume, m => Prod.snd <$> vmResume ops m
  | .destroy, m => (fun r => r.2.pressPowerButton) <$> vmDestroy ops m

/-- `notify_lifecycle(old, new)`: check `vm_state = old`, run the arm's action, and report
whether `vm_state = new` afterwards. -/
def notifyLifecycle (old new : KvmVmState) (m : LightMachine C) :
    Except Panic (Bool × LightMachine C) :=
  if m.vmState ≠ old then .ok (false, m)
  else
    match lifecycleArm old new with
    | none => .ok (false, m)
    | some a => (fun m' => (decide (m'.vmState = new), m')) <$> runArm ops a m

/-- `MachineLifecycle::pause`. -/
def pause (m : LightMachine C) : Except Panic (Bool × LightMachine C) :=
  notifyLifecycle ops .running .paused m

/-- `MachineLifecycle::resume`. -/
def resume (m : LightMachine C) : Except Panic (Bool × LightMachine C) :=
  notifyLifecycle ops .paused .running m

/-- `MachineLifecycle::destroy`: read `vm_state`, then ask to move from it to `Shutdown`. -/
def destroy (m : LightMachine C) : Except Panic (Bool × LightMachine C) :=
  notifyLifecycle ops m.vmState .shutdown m

/-- One lifecycle request. -/
def request : Request → LightMachine C → Except Panic (Bool × LightMachine C)
  | .pause => pause ops
  | .resume => resume ops
  | .destroy => destroy ops

/-- Every request is `notify_lifecycle` from its source to its target. -/
theorem request_eq (r : Request) (m : LightMachine C) :
    request ops r m = notifyLifecycle ops (r.source m.vmState) r.target m := by
  cases r <;> rfl

/-- Requests issued one at a time, with their return values. -/
def runRequests : List Request → LightMachine C → Except Panic (List Bool × LightMachine C)
  | [], m => .ok ([], m)
  | r :: rs, m => do
    let (b, m) ← request ops r m
    let (bs, m) ← runRequests rs m
    pure (b :: bs, m)

end LightMachine

/-! ## The vCPU loop -/

namespace LightMachine

section Loop

variable {C : Type} (op : C → CpuResult C)

/-- The loop over the indices `pre.length, …` of `pre ++ rest` when every vCPU it reaches
succeeds, becoming `done`. -/
theorem cpuLoop_of_ok : ∀ {n : Nat} {pre rest done : List C}, n ≤ rest.length →
    List.Forall₂ (fun c c' => op c = .ok c') (rest.take n) done →
    cpuLoop op (List.range' pre.length n) (pre ++ rest) = .ok (pre ++ done ++ rest.drop n, .ok ())
  | 0, pre, rest, done, _, hd => by
    obtain rfl : done = [] := by simpa using hd
    simp [cpuLoop]
  | n + 1, pre, c :: rest, done, hn, hd => by
    obtain ⟨d, done, hc, hd', rfl⟩ := List.forall₂_cons_left_iff.mp (by simpa using hd)
    have ih := @cpuLoop_of_ok n (pre ++ [d]) _ _ (Nat.le_of_succ_le_succ hn) hd'
    simp only [List.length_append, List.length_singleton, List.append_assoc,
      List.singleton_append] at ih
    simp [List.range'_succ, cpuLoop, hc, ih]

/-- The loop when the first `k` vCPUs it reaches succeed, becoming `done`, and the next one
fails, leaving its vCPU `c`: it stops there, with the first `k` moved, the failing one
`c`, and the rest untouched. -/
theorem cpuLoop_of_fail {e : CpuError} {c : C} : ∀ {k n : Nat} {pre rest done : List C}
    (hk : k < rest.length), k < n →
    List.Forall₂ (fun c c' => op c = .ok c') (rest.take k) done → op rest[k] = .error (e, c) →
    cpuLoop op (List.range' pre.length n) (pre ++ rest) =
      .ok (pre ++ done ++ c :: rest.drop (k + 1), .error e)
  | 0, n + 1, pre, c₀ :: rest, done, _, _, hd, hf => by
    obtain rfl : done = [] := by simpa using hd
    simp_all [List.range'_succ, cpuLoop]
  | k + 1, n + 1, pre, c₀ :: rest, done, hk, hkn, hd, hf => by
    obtain ⟨d, done, hc, hd', rfl⟩ := List.forall₂_cons_left_iff.mp (by simpa using hd)
    have ih := @cpuLoop_of_fail e c k n (pre ++ [d]) _ _ (Nat.lt_of_succ_lt_succ hk)
      (Nat.lt_of_succ_lt_succ hkn) hd' hf
    simp only [List.length_append, List.length_singleton, List.append_assoc,
      List.singleton_append] at ih
    simp [List.range'_succ, cpuLoop, hc, ih]

/-- The loop never panics on indices inside the vCPU list, and keeps its length. -/
theorem cpuLoop_ok : ∀ {is : List Nat} {cpus : List C}, (∀ i ∈ is, i < cpus.length) →
    ∃ cpus' r, cpuLoop op is cpus = .ok (cpus', r) ∧ cpus'.length = cpus.length
  | [], cpus, _ => ⟨cpus, .ok (), rfl, rfl⟩
  | i :: is, cpus, h => by
    have hi := h i (List.mem_cons_self i is)
    simp only [cpuLoop, index_of_lt hi, except_ok_bind]
    rcases op cpus[i] with ⟨e, c'⟩ | c'
    · exact ⟨cpus.set i c', .error e, rfl, by simp⟩
    · have hrest : ∀ k ∈ is, k < (cpus.set i c').length := fun k hk => by
        simpa using h k (List.mem_cons_of_mem i hk)
      obtain ⟨cpus', r, h₁, h₂⟩ := cpuLoop_ok hrest
      exact ⟨cpus', r, h₁, by simpa using h₂⟩

end Loop

variable {C : Type} (ops : CpuOps C)

/-- A vCPU loop of `vm_start`, `vm_pause` or `vm_resume` whose calls all succeed writes the
target state. -/
theorem cpuTransit_of_ok {op : C → CpuResult C} {target : KvmVmState}
    {m : LightMachine C} {done : List C} (hlen : m.cpus.length = m.maxCpus)
    (hd : List.Forall₂ (fun c c' => op c = .ok c') m.cpus done) :
    cpuTransit op target m = .ok (.ok (), { m with cpus := done }.setVmState target) := by
  have h := @cpuLoop_of_ok _ op m.maxCpus [] _ _ hlen.ge (by simpa [← hlen] using hd)
  simp only [List.length_nil, List.nil_append, ← hlen, List.drop_length, List.append_nil] at h
  simp only [cpuTransit, List.range_eq_range', ← hlen, h]
  rfl

/-- A vCPU loop of `vm_start`, `vm_pause` or `vm_resume` that fails at vCPU `k` writes
nothing, and undoes nothing. -/
theorem cpuTransit_of_fail {op : C → CpuResult C} {target : KvmVmState}
    {m : LightMachine C} {k : Nat} {done : List C} {e : CpuError} {c : C}
    (hlen : m.cpus.length = m.maxCpus) (hk : k < m.cpus.length)
    (hd : List.Forall₂ (fun c c' => op c = .ok c') (m.cpus.take k) done)
    (hf : op m.cpus[k] = .error (e, c)) :
    cpuTransit op target m =
      .ok (.error e, { m with cpus := done ++ c :: m.cpus.drop (k + 1) }) := by
  have h := @cpuLoop_of_fail _ op e c k m.maxCpus [] _ _ hk (hlen ▸ hk) hd hf
  simp only [List.length_nil, List.nil_append] at h
  simp only [cpuTransit, List.range_eq_range', h]
  rfl

/-- `vm_destroy` always leaves `vm_state = Shutdown`, and the topology as it was. -/
theorem vmDestroy_ok {m : LightMachine C} {r : Except CpuError Unit × LightMachine C}
    (h : vmDestroy ops m = .ok r) : r.2.vmState = .shutdown ∧ r.2.cpuTopo = m.cpuTopo := by
  simp only [vmDestroy, bind, Except.bind, pure, Except.pure] at h
  split at h
  · cases h
  · split at h <;> cases h <;> exact ⟨rfl, rfl⟩

/-- A `vm_destroy` whose destroys all succeed clears the vCPU list. -/
theorem vmDestroy_of_ok {m : LightMachine C} {done : List C} (hlen : m.cpus.length = m.maxCpus)
    (hd : List.Forall₂ (fun c c' => ops.destroy c = .ok c') m.cpus done) :
    vmDestroy ops m = .ok (.ok (), { m with vmState := .shutdown, cpus := [] }) := by
  have h := @cpuLoop_of_ok _ ops.destroy m.maxCpus [] _ _ hlen.ge (by simpa [← hlen] using hd)
  simp only [List.length_nil, List.nil_append] at h
  simp only [vmDestroy, List.range_eq_range', maxCpus_setVmState, setVmState_cpus, h]
  rfl

/-- A `vm_destroy` that fails at vCPU `k` has already written `Shutdown`, and leaves the
vCPU list uncleared. -/
theorem vmDestroy_of_fail {m : LightMachine C} {k : Nat} {done : List C} {e : CpuError} {c : C}
    (hlen : m.cpus.length = m.maxCpus) (hk : k < m.cpus.length)
    (hd : List.Forall₂ (fun c c' => ops.destroy c = .ok c') (m.cpus.take k) done)
    (hf : ops.destroy m.cpus[k] = .error (e, c)) :
    vmDestroy ops m = .ok (.error e,
      { m with vmState := .shutdown, cpus := done ++ c :: m.cpus.drop (k + 1) }) := by
  have h := @cpuLoop_of_fail _ ops.destroy e c k m.maxCpus [] _ _ hk (hlen ▸ hk) hd hf
  simp only [List.length_nil, List.nil_append] at h
  simp only [vmDestroy, List.range_eq_range', maxCpus_setVmState, setVmState_cpus, h]
  rfl


/-! ## The requests

A request whose check fails changes nothing.  `destroy` never fails its check: it reads
`vm_state` and checks it against what it read, and its arm `(_, Shutdown)` takes every
state. -/

/-- The arm `(_, Shutdown)` takes every state. -/
@[simp] theorem lifecycleArm_shutdown (s : KvmVmState) : lifecycleArm s .shutdown = some .destroy := by
  cases s <;> rfl

/-- A request whose check fails returns `false` and changes nothing. -/
theorem notifyLifecycle_of_ne {old new : KvmVmState} {m : LightMachine C} (h : m.vmState ≠ old) :
    notifyLifecycle ops old new m = .ok (false, m) := by
  simp [notifyLifecycle, h]

/-- `destroy` runs `vm_destroy` and writes the power button from every state, `Shutdown`
included, and returns `true` unless `vm_destroy` panics. -/
theorem destroy_eq (m : LightMachine C) :
    destroy ops m = (fun r => (true, r.2.pressPowerButton)) <$> vmDestroy ops m := by
  simp only [destroy, notifyLifecycle, ne_eq, not_true_eq_false, if_false, lifecycleArm_shutdown,
    runArm]
  cases h : vmDestroy ops m with
  | error p => rfl
  | ok r => simp [(vmDestroy_ok ops h).1]

/-- Destroying a one-vCPU machine twice panics.  The second `destroy` passes the check
`Shutdown = Shutdown`, takes the arm `(_, Shutdown)`, and `vm_destroy` indexes the vCPU list
the first one cleared. -/
theorem destroy_twice_panics :
    (new 1 CPU.create).map (runRequests (CPU.ops fun _ => false) [.destroy, .destroy]) =
      .ok (.error (.indexOutOfBounds 0 0)) := rfl

section Failure

variable {m : LightMachine C} {k : Nat} {done : List C} {e : CpuError} {c : C}

theorem pause_of_fail (hlen : m.cpus.length = m.maxCpus) (hk : k < m.cpus.length)
    (hrun : m.vmState = .running)
    (hd : List.Forall₂ (fun c c' => ops.pause c = .ok c') (m.cpus.take k) done)
    (hf : ops.pause m.cpus[k] = .error (e, c)) :
    pause ops m = .ok (false, { m with cpus := done ++ c :: m.cpus.drop (k + 1) }) := by
  simp [pause, notifyLifecycle, hrun, lifecycleArm, runArm, vmPause,
    cpuTransit_of_fail hlen hk hd hf]

theorem resume_of_fail (hlen : m.cpus.length = m.maxCpus) (hk : k < m.cpus.length)
    (hpaused : m.vmState = .paused)
    (hd : List.Forall₂ (fun c c' => ops.resume c = .ok c') (m.cpus.take k) done)
    (hf : ops.resume m.cpus[k] = .error (e, c)) :
    resume ops m = .ok (false, { m with cpus := done ++ c :: m.cpus.drop (k + 1) }) := by
  simp [resume, notifyLifecycle, hpaused, lifecycleArm, runArm, vmResume,
    cpuTransit_of_fail hlen hk hd hf]

theorem destroy_of_fail (hlen : m.cpus.length = m.maxCpus) (hk : k < m.cpus.length)
    (hd : List.Forall₂ (fun c c' => ops.destroy c = .ok c') (m.cpus.take k) done)
    (hf : ops.destroy m.cpus[k] = .error (e, c)) :
    destroy ops m = .ok (true, { m with
      vmState := .shutdown, cpus := done ++ c :: m.cpus.drop (k + 1),
      powerButton := m.powerButton + 1 }) := by
  rw [destroy_eq, vmDestroy_of_fail ops hlen hk hd hf]
  rfl

/-- When vCPU `k` is the first whose operation fails, leaving it `c`, no request undoes
anything.  `pause` on a `Running` machine and `resume` on a `Paused` one return `false`
with `vm_state` unchanged, vCPUs `0..k` moved, vCPU `k` as its call left it and the rest
untouched; `destroy` returns `true`, with `vm_state = Shutdown`, the power button written,
vCPUs `0..k` destroyed, vCPU `k` as its call left it, the rest untouched and the list not
cleared. -/
theorem request_of_vcpu_failure (hlen : m.cpus.length = m.maxCpus) (hk : k < m.cpus.length) :
    (m.vmState = .running →
      List.Forall₂ (fun c c' => ops.pause c = .ok c') (m.cpus.take k) done →
      ops.pause m.cpus[k] = .error (e, c) →
      pause ops m = .ok (false, { m with cpus := done ++ c :: m.cpus.drop (k + 1) })) ∧
    (m.vmState = .paused →
      List.Forall₂ (fun c c' => ops.resume c = .ok c') (m.cpus.take k) done →
      ops.resume m.cpus[k] = .error (e, c) →
      resume ops m = .ok (false, { m with cpus := done ++ c :: m.cpus.drop (k + 1) })) ∧
    (List.Forall₂ (fun c c' => ops.destroy c = .ok c') (m.cpus.take k) done →
      ops.destroy m.cpus[k] = .error (e, c) →
      destroy ops m = .ok (true, { m with
        vmState := .shutdown, cpus := done ++ c :: m.cpus.drop (k + 1),
        powerButton := m.powerButton + 1 })) :=
  ⟨pause_of_fail ops hlen hk, resume_of_fail ops hlen hk, destroy_of_fail ops hlen hk⟩

end Failure

end LightMachine

/-- Two running vCPUs, as `vm_start` leaves a two-vCPU machine. -/
def runningPair : LightMachine CPU :=
  { cpuTopo :=
      { sockets := 2, cores := 1, threads := 1, nrcpus := 2, maxCpus := 2, onlineMask := [1, 1] }
    cpus := [⟨0, 0, .running⟩, ⟨1, 1, .running⟩]
    vmState := .running
    powerButton := 0 }

open LightMachine in
/-- On `runningPair`, as `vm_start` leaves a fresh two-vCPU machine, with the signal to
vCPU 1 failing: `pause` returns `false` but leaves vCPU 0 paused under a `Running` machine,
and `destroy` returns `true` with both vCPUs marked `Destroyed` (vCPU 1 before its signal
failed) and the vCPU list not cleared. -/
theorem vcpu_failure_not_undone :
    (new 2 CPU.create).map (vmStart (CPU.ops fun _ => false) false) =
      .ok (.ok (.ok (), runningPair)) ∧
    pause (CPU.ops (· == 1)) runningPair =
      .ok (false, { runningPair with cpus := [⟨0, 0, .paused⟩, ⟨1, 1, .running⟩] }) ∧
    destroy (CPU.ops (· == 1)) runningPair =
      .ok (true, { runningPair with
        vmState := .shutdown, cpus := [⟨0, 0, .destroyed⟩, ⟨1, 1, .destroyed⟩], powerButton := 1 }) :=
  ⟨rfl, rfl, rfl⟩

open LightMachine in
/-- `request_of_vcpu_failure` at `runningPair`, with the signal to vCPU 1 failing its
destroy after the mark. -/
theorem request_of_vcpu_failure_runningPair :
    runningPair.cpus.length = runningPair.maxCpus ∧ 1 < runningPair.cpus.length ∧
      destroy (CPU.ops (· == 1)) runningPair =
        .ok (true, { runningPair with
          vmState := .shutdown, cpus := [⟨0, 0, .destroyed⟩, ⟨1, 1, .destroyed⟩],
          powerButton := 1 }) :=
  ⟨rfl, by decide,
    (@request_of_vcpu_failure _ (CPU.ops (· == 1)) runningPair 1 _ _ _ rfl (by decide)).2.2
      (.cons rfl .nil) rfl⟩

end StratoVirt
