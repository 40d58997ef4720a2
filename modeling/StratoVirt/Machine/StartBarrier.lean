import StratoVirt.Machine.State

/-!
# The start barrier of `vm_start`

`vm_start` creates a barrier for `max_cpus + 1` parties, starts every vCPU (each vCPU
thread waits once on its clone of the barrier before it enters its run loop), writes
`Running` or `Paused` into `vm_state`, and waits on the barrier itself.  The barrier is
there so that no vCPU runs before `vm_state` is written.

The party count is computed in `u8`: `(self.cpu_topo.max_cpus + 1) as usize`.  For
`max_cpus = 255` the addition wraps to 0 (a debug build panics there instead), and a
barrier of 0 parties lets every thread through at once, so vCPU 0 runs before `vm_state`
is written (`vcpu_runs_before_write`).  For every other `max_cpus` the barrier holds every
vCPU until the controller has written `vm_state` (`running_imp_written`).

## What is transcribed and what is ours

* `vm_start`'s steps are transcribed: spawning vCPU `k` for `k` in `0..max_cpus`, the
  write of `vm_state`, the wait.  `CPU::start` is not in the source; its thread is modelled
  from the spec (§4.3): it waits once on the barrier and then enters its run loop.
* `std::sync::Barrier` is modelled after its documentation: `wait` blocks the first
  `n - 1` callers of a generation and releases all of them when the `n`-th arrives, which
  itself passes at once; a barrier of 0 or 1 party never blocks.
-/

namespace StratoVirt

/-- `std::sync::Barrier`: the party count, the threads waiting in the current generation,
and the generation. -/
structure Barrier where
  numThreads : Nat
  count : Nat
  generationId : Nat
deriving DecidableEq, Repr

/-- The locked part of `Barrier::wait`: count the caller in; the caller that completes the
generation passes (`true`) and starts the next one, any other blocks (`false`). -/
def Barrier.arrive (b : Barrier) : Barrier × Bool :=
  if b.count + 1 < b.numThreads then ({ b with count := b.count + 1 }, false)
  else ({ b with count := 0, generationId := b.generationId + 1 }, true)

/-- `(self.cpu_topo.max_cpus + 1) as usize`, with the `u8` addition wrapping. -/
def startPartyCount (maxCpus : UInt8) : Nat := (maxCpus + 1).toNat

/-- The party count is `max_cpus + 1` exactly when the addition does not wrap. -/
theorem startPartyCount_eq_iff (maxCpus : UInt8) :
    startPartyCount maxCpus = maxCpus.toNat + 1 ↔ maxCpus.toNat < 255 := by
  have h := maxCpus.toNat_lt_size
  show (maxCpus.toNat + 1) % 256 = _ ↔ _
  simp only [UInt8.size] at h
  omega

/-- Where the controller running `vm_start` is. -/
inductive CtlPhase where
  /-- In the loop, about to start vCPU `k`. -/
  | spawn (k : Nat)
  /-- About to write `vm_state`. -/
  | write
  /-- About to wait on the barrier. -/
  | wait
  /-- Blocked in the barrier's generation `gen`. -/
  | blocked (gen : Nat)
  | done
deriving DecidableEq, Repr

/-- Where a vCPU thread is. -/
inductive VcpuPhase where
  | unspawned
  /-- About to wait on the barrier. -/
  | wait
  /-- Blocked in the barrier's generation `gen`. -/
  | blocked (gen : Nat)
  /-- Past the barrier, in its run loop. -/
  | running
deriving DecidableEq, Repr

/-- Whether a vCPU thread is blocked in the barrier. -/
def VcpuPhase.isBlocked : VcpuPhase → Bool
  | .blocked _ => true
  | _ => false

/-- The threads of `vm_start`, the barrier, and whether `vm_state` has been written. -/
structure StartState where
  barrier : Barrier
  written : Bool
  ctl : CtlPhase
  vcpus : List VcpuPhase
deriving DecidableEq, Repr

/-- The thread that takes a step. -/
inductive StartActor where
  | controller
  | vcpu (i : Nat)
deriving DecidableEq, Repr

namespace StartState

/-- The state when `vm_start` begins on a machine with `max_cpus` vCPU slots. -/
def init (maxCpus : UInt8) : StartState :=
  { barrier := { numThreads := startPartyCount maxCpus, count := 0, generationId := 0 }
    written := false
    ctl := .spawn 0
    vcpus := List.replicate maxCpus.toNat .unspawned }

/-- One step of a thread, on a machine with `n` vCPU slots; a thread that cannot move
leaves the state as it is. -/
def step (n : Nat) (s : StartState) : StartActor → StartState
  | .controller =>
    match s.ctl with
    | .spawn k =>
      if k < n then { s with vcpus := s.vcpus.set k .wait, ctl := .spawn (k + 1) }
      else { s with ctl := .write }
    | .write => { s with written := true, ctl := .wait }
    | .wait =>
      { s with barrier := s.barrier.arrive.1
               ctl := if s.barrier.arrive.2 then .done else .blocked s.barrier.generationId }
    | .blocked g => if s.barrier.generationId ≠ g then { s with ctl := .done } else s
    | .done => s
  | .vcpu i =>
    match s.vcpus[i]? with
    | some .wait =>
      { s with barrier := s.barrier.arrive.1
               vcpus := s.vcpus.set i
                 (if s.barrier.arrive.2 then .running else .blocked s.barrier.generationId) }
    | some (.blocked g) =>
      if s.barrier.generationId ≠ g then { s with vcpus := s.vcpus.set i .running } else s
    | _ => s

/-- A run of the schedule `sched`. -/
def run (n : Nat) (s : StartState) (sched : List StartActor) : StartState :=
  sched.foldl (step n) s

@[simp] theorem arrive_numThreads (b : Barrier) : b.arrive.1.numThreads = b.numThreads := by
  unfold Barrier.arrive; split <;> rfl

/-- A step keeps the vCPU threads' number and the barrier's party count, and never
unwrites `vm_state`. -/
theorem step_frame (n : Nat) (s : StartState) (a : StartActor) :
    (step n s a).vcpus.length = s.vcpus.length ∧
    (step n s a).barrier.numThreads = s.barrier.numThreads ∧
    (s.written = true → (step n s a).written = true) := by
  cases a <;> simp only [step] <;> split <;> (try split) <;> simp

/-! ## No vCPU runs before `vm_state` is written

While `vm_state` is unwritten, the controller has not reached the barrier, so the vCPUs
blocked in it are its whole count; at each arrival one vCPU is missing from the `n + 1`
parties, so no arrival completes the generation. -/

/-- What holds before `vm_state` is written, on `n` slots. -/
structure Pre (n : Nat) (s : StartState) : Prop where
  generation : s.barrier.generationId = 0
  count : s.barrier.count = s.vcpus.countP VcpuPhase.isBlocked
  vcpus : ∀ v ∈ s.vcpus, v = .unspawned ∨ v = .wait ∨ v = .blocked 0
  ctl : s.ctl = .write ∨ ∃ k, s.ctl = .spawn k ∧ ∀ i, k ≤ i → i < n → s.vcpus[i]? = some .unspawned

/-- What holds of every state `vm_start` reaches on `n` slots with a barrier of `n + 1`
parties. -/
structure Inv (n : Nat) (s : StartState) : Prop where
  length : s.vcpus.length = n
  numThreads : s.barrier.numThreads = n + 1
  pre : s.written = false → Pre n s

theorem init_inv (maxCpus : UInt8) (h : maxCpus.toNat < 255) :
    Inv maxCpus.toNat (init maxCpus) where
  length := List.length_replicate _ _
  numThreads := (startPartyCount_eq_iff maxCpus).mpr h
  pre _ :=
    { generation := rfl
      count := (List.countP_eq_zero.mpr fun v hv => by
        simp [List.eq_of_mem_replicate hv, VcpuPhase.isBlocked]).symm
      vcpus := fun _ hv => .inl (List.eq_of_mem_replicate hv)
      ctl := .inr ⟨0, rfl, fun i _ hi => by simp [init, hi]⟩ }

theorem Pre.mem_set {n : Nat} {s : StartState} (hs : Pre n s) {i : Nat} {v : VcpuPhase}
    (hv : v = .unspawned ∨ v = .wait ∨ v = .blocked 0) :
    ∀ u ∈ s.vcpus.set i v, u = .unspawned ∨ u = .wait ∨ u = .blocked 0 := fun u hu => by
  rcases List.mem_or_eq_of_mem_set hu with hu | rfl
  · exact hs.vcpus u hu
  · exact hv

/-- The controller's spawn of vCPU `k` keeps `Pre`. -/
theorem Pre.spawn {n k : Nat} {s : StartState} (hs : Pre n s)
    (hun : ∀ i, k ≤ i → i < n → s.vcpus[i]? = some .unspawned) (hk : k < n) :
    Pre n { s with vcpus := s.vcpus.set k .wait, ctl := .spawn (k + 1) } := by
  obtain ⟨hlt, hget⟩ := List.getElem?_eq_some_iff.mp (hun k (Nat.le_refl k) hk)
  refine ⟨hs.generation, ?_, hs.mem_set (.inr (.inl rfl)), .inr ⟨k + 1, rfl, fun i hi hin => ?_⟩⟩
  · simp [List.countP_set _ _ _ _ hlt, hget, hs.count, VcpuPhase.isBlocked]
  · simp [List.getElem?_set_ne (show k ≠ i by omega), hun i (by omega) hin]

/-- The arrival of a vCPU at the barrier keeps `Pre`: it blocks. -/
theorem Pre.arrive {n i : Nat} {s : StartState} (hs : Pre n s) (hlen : s.vcpus.length = n)
    (hnum : s.barrier.numThreads = n + 1) (hi : s.vcpus[i]? = some .wait) :
    Pre n (step n s (.vcpu i)) := by
  obtain ⟨hlt, hget⟩ := List.getElem?_eq_some_iff.mp hi
  have hset : (s.vcpus.set i (.blocked 0)).countP VcpuPhase.isBlocked =
      s.vcpus.countP VcpuPhase.isBlocked + 1 := by
    simp [List.countP_set _ _ _ _ hlt, hget, VcpuPhase.isBlocked]
  have hbound := (List.countP_le_length (p := VcpuPhase.isBlocked)).trans_eq
    (List.length_set s.vcpus i (.blocked 0))
  have hcount := hs.count
  have harr : s.barrier.arrive = ({ s.barrier with count := s.barrier.count + 1 }, false) :=
    if_pos (by omega)
  simp only [step, hi, harr, Bool.false_eq_true, if_false, hs.generation]
  refine ⟨rfl, by simp [hset, hs.count], hs.mem_set (.inr (.inr rfl)), ?_⟩
  rcases hs.ctl with hc | ⟨k, hc, hun⟩
  · exact .inl hc
  · refine .inr ⟨k, hc, fun j hj hjn => ?_⟩
    have hij : i ≠ j := by
      rintro rfl
      rw [hun i hj hjn] at hi
      cases hi
    simp [List.getElem?_set_ne hij, hun j hj hjn]

/-- Every step keeps the invariant. -/
theorem step_inv {n : Nat} {s : StartState} (hs : Inv n s) (a : StartActor) :
    Inv n (step n s a) := by
  obtain ⟨hlen, hnum, hwr⟩ := step_frame n s a
  refine ⟨hlen.trans hs.length, hnum.trans hs.numThreads, fun hw' => ?_⟩
  have hw : s.written = false := by
    cases h : s.written
    · rfl
    · rw [hwr h] at hw'; cases hw'
  have hpre := hs.pre hw
  cases a with
  | controller =>
    rcases hpre.ctl with hc | ⟨k, hc, hun⟩
    · simp [step, hc] at hw'
    · by_cases hk : k < n
      · simp only [step, hc, if_pos hk]
        exact hpre.spawn hun hk
      · simp only [step, hc, if_neg hk]
        exact ⟨hpre.generation, hpre.count, hpre.vcpus, .inl rfl⟩
  | vcpu i =>
    rcases hv : s.vcpus[i]? with _ | v
    · simpa [step, hv] using hpre
    rcases hpre.vcpus v (List.getElem?_mem hv) with rfl | rfl | rfl
    · simpa [step, hv] using hpre
    · exact hpre.arrive hs.length hs.numThreads hv
    · simpa [step, hv, hpre.generation] using hpre

/-- Every run keeps the invariant. -/
theorem run_inv {n : Nat} : ∀ {s : StartState} (sched : List StartActor), Inv n s →
    Inv n (s.run n sched)
  | _, [], hs => hs
  | s, a :: sched, hs => run_inv (s := step n s a) sched (step_inv hs a)

end StartState

/-- `vm_start` on a machine with `max_cpus` slots, run by the schedule `sched`. -/
def vmStartRun (maxCpus : UInt8) (sched : List StartActor) : StartState :=
  (StartState.init maxCpus).run maxCpus.toNat sched

/-- When `max_cpus + 1` does not wrap, over every interleaving of `vm_start` with its vCPU
threads, no vCPU is past the barrier before `vm_state` is written. -/
theorem running_imp_written {maxCpus : UInt8} (h : maxCpus.toNat < 255) (sched : List StartActor)
    {i : Nat} (hi : (vmStartRun maxCpus sched).vcpus[i]? = some .running) :
    (vmStartRun maxCpus sched).written = true := by
  have hinv := StartState.run_inv sched (StartState.init_inv maxCpus h)
  cases hw : (vmStartRun maxCpus sched).written
  · rcases (hinv.pre hw).vcpus _ (List.getElem?_mem hi) with h' | h' | h' <;> cases h'
  · rfl

/-- `running_imp_written` on a four-slot machine: the controller starts the vCPUs and
writes `vm_state`, the vCPUs block in the barrier, the controller's wait releases them. -/
theorem running_imp_written_four :
    let s := vmStartRun 4 (List.replicate 6 .controller ++
      [.vcpu 0, .vcpu 1, .vcpu 2, .vcpu 3, .controller, .vcpu 0, .vcpu 1, .vcpu 2, .vcpu 3])
    s.vcpus[0]? = some .running ∧ s.written = true :=
  ⟨by decide, running_imp_written (by decide) _ (i := 0) (by decide)⟩

set_option maxRecDepth 2000 in
/-- With `max_cpus = 255` the party count wraps to 0: the controller starts vCPU 0, which
passes the barrier at once and runs while `vm_state` is still unwritten. -/
theorem vcpu_runs_before_write :
    startPartyCount 255 = 0 ∧
    (vmStartRun 255 [.controller, .vcpu 0]).vcpus[0]? = some .running ∧
    (vmStartRun 255 [.controller, .vcpu 0]).written = false :=
  ⟨rfl, by decide, by decide⟩

end StratoVirt
