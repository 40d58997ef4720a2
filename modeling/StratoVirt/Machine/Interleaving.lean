import StratoVirt.Machine.Lifecycle

/-!
# Lifecycle requests on concurrent threads

`pause`, `resume` and `destroy` each run on a thread of their own, and the threads'
atomic steps interleave.  An atomic step is a section of the code that holds a mutex:

* `destroy`'s read of `vm_state`;
* `notify_lifecycle`'s check `vm_state == old` and its recheck `vm_state == new`, each
  under the state lock, which is dropped between them;
* each call of the vCPU loop of `vm_start`, `vm_pause` and `vm_resume`, under the vCPU
  lock, and their final write of `vm_state`, under the state lock;
* the whole of `vm_destroy`, which holds the state lock from its write of `Shutdown` to its
  return and the vCPU lock over its whole loop, so no other step can fall inside it.  The
  power-button write after it touches nothing another step reads, and is folded into it.

A run is a schedule: the list of threads that take the successive steps.  It records the
values `vm_state` takes and the history of invocations and responses.

`Thread.rest` is what is left of a request at each of its steps, as a function of the
machine: `rest_of_step` says that a step does part of it and leaves the rest, and
`run_solo` that a thread run alone does the whole of it.  At its first step what is left is
the request itself (`rest_entry`).
-/

namespace StratoVirt

/-- The next atomic step of a request's thread. -/
inductive Pc where
  /-- `destroy` reads `vm_state`. -/
  | read
  /-- `notify_lifecycle` checks `vm_state == old`. -/
  | check (old : KvmVmState)
  /-- The arm's action.  For the loop of `vm_start`, `vm_pause` and `vm_resume`, the call
  on vCPU `i` if `i < max_cpus` and the write of `vm_state` otherwise; for the arm
  `(_, Shutdown)`, the whole of `vm_destroy`. -/
  | act (a : Arm) (i : Nat)
  /-- `notify_lifecycle` rechecks `vm_state == new`. -/
  | recheck
  /-- The request has returned `ret`. -/
  | done (ret : Bool)
deriving DecidableEq, Repr

/-- The step a request's thread starts with. -/
def Request.entry : Request → Pc
  | .pause => .check .running
  | .resume => .check .paused
  | .destroy => .read

/-- A bound on the steps left to a thread at `p`, on a machine with `n` vCPU slots. -/
def Pc.fuel (n : Nat) : Pc → Nat
  | .read => n + 4
  | .check _ => n + 3
  | .act a i => if a = .destroy then 2 else n - i + 2
  | .recheck => 1
  | .done _ => 0

theorem Pc.fuel_pos {p : Pc} {n : Nat} (hp : ∀ b, p ≠ .done b) : 0 < p.fuel n := by
  cases p with
  | act a i => simp only [fuel]; split <;> omega
  | done b => exact absurd rfl (hp b)
  | _ => simp [fuel]

/-- A thread running one request. -/
structure Thread where
  request : Request
  pc : Pc
deriving DecidableEq, Repr

namespace Arm

variable {C : Type}

/-- The vCPU operation of a looping arm: `vm_start(false, _)`, `vm_pause`, `vm_resume`. -/
def op (ops : CpuOps C) : Arm → C → CpuResult C
  | .start => ops.start false
  | .pause => ops.pause
  | .resume => ops.resume
  | .destroy => ops.destroy

/-- The state a looping arm writes after its loop. -/
def target : Arm → KvmVmState
  | .start => .running
  | .pause => .paused
  | .resume => .running
  | .destroy => .shutdown

end Arm

/-- An event of a run's history. -/
inductive Event where
  /-- Thread `j` takes its first step. -/
  | invoke (j : Nat)
  /-- Thread `j` returns. -/
  | respond (j : Nat)
deriving DecidableEq, Repr

/-- Append `v` to a record of the values `vm_state` takes, unless it is the last one. -/
def recordState (trace : List KvmVmState) (v : KvmVmState) : List KvmVmState :=
  if trace.getLast? = some v then trace else trace ++ [v]

@[simp] theorem recordState_getLast? (trace : List KvmVmState) (v : KvmVmState) :
    (recordState trace v).getLast? = some v := by
  unfold recordState
  split <;> simp [*]

theorem recordState_of_getLast? {trace : List KvmVmState} {v : KvmVmState}
    (h : trace.getLast? = some v) : recordState trace v = trace := if_pos h

@[simp] theorem recordState_recordState (trace : List KvmVmState) (v : KvmVmState) :
    recordState (recordState trace v) v = recordState trace v :=
  recordState_of_getLast? (recordState_getLast? trace v)

namespace Thread

variable {C : Type} (ops : CpuOps C)

/-- One atomic step of a thread on machine `m`: the machine after it, and the thread's
next step. -/
def step (m : LightMachine C) (t : Thread) : Except Panic (LightMachine C × Pc) :=
  match t.pc with
  | .read => .ok (m, .check m.vmState)
  | .check old =>
    if m.vmState ≠ old then .ok (m, .done false)
    else
      match lifecycleArm old t.request.target with
      | none => .ok (m, .done false)
      | some a => .ok (m, .act a 0)
  | .act .destroy _ => (fun r => (r.2.pressPowerButton, .recheck)) <$> m.vmDestroy ops
  | .act a i =>
    if i < m.maxCpus then do
      let c ← index m.cpus i
      match a.op ops c with
      | .error (_, c') => pure ({ m with cpus := m.cpus.set i c' }, .recheck)
      | .ok c' => pure ({ m with cpus := m.cpus.set i c' }, .act a (i + 1))
    else .ok (m.setVmState a.target, .recheck)
  | .recheck => .ok (m, .done (decide (m.vmState = t.request.target)))
  | .done b => .ok (m, .done b)

/-- Every step but a loop arm's call on vCPU `i < max_cpus` is the same for all loop
arms; this is the step of a loop arm. -/
theorem step_act {a : Arm} (ha : a ≠ .destroy) (m : LightMachine C) (r : Request) (i : Nat) :
    step ops m ⟨r, .act a i⟩ =
      if i < m.maxCpus then do
        let c ← index m.cpus i
        match a.op ops c with
        | .error (_, c') => pure ({ m with cpus := m.cpus.set i c' }, .recheck)
        | .ok c' => pure ({ m with cpus := m.cpus.set i c' }, .act a (i + 1))
      else .ok (m.setVmState a.target, .recheck) := by
  cases a <;> first | exact absurd rfl ha | rfl

end Thread

/-! ## What one step can do

`Thread.Steps` lists the steps a thread can take, each with its guard, and
`steps_of_step` says that `Thread.step` takes only those.  Every invariant of runs below is
read off this list. -/

namespace Thread

variable {C : Type} (ops : CpuOps C)

/-- The steps of a thread running `r`, from machine `m` at `p` to machine `m'` at `p'`. -/
inductive Steps (r : Request) : LightMachine C → Pc → LightMachine C → Pc → Prop
  /-- `destroy` reads `vm_state`. -/
  | read (m : LightMachine C) : Steps r m .read m (.check m.vmState)
  /-- The check fails, or takes the illegal arm. -/
  | reject (m : LightMachine C) (old : KvmVmState) : Steps r m (.check old) m (.done false)
  /-- The check passes into arm `a`. -/
  | accept (m : LightMachine C) (old : KvmVmState) (a : Arm) :
      m.vmState = old → lifecycleArm old r.target = some a → Steps r m (.check old) m (.act a 0)
  /-- A loop arm's call on vCPU `i` succeeds. -/
  | call (m : LightMachine C) (a : Arm) (i : Nat) (c : C) : a ≠ .destroy → i < m.maxCpus →
      Steps r m (.act a i) { m with cpus := m.cpus.set i c } (.act a (i + 1))
  /-- A loop arm's call on vCPU `i` fails, leaving the vCPU `c`, and the arm ends without
  writing. -/
  | fail (m : LightMachine C) (a : Arm) (i : Nat) (c : C) : a ≠ .destroy → i < m.maxCpus →
      Steps r m (.act a i) { m with cpus := m.cpus.set i c } .recheck
  /-- A loop arm writes its target after its loop. -/
  | write (m : LightMachine C) (a : Arm) (i : Nat) : a ≠ .destroy → m.maxCpus ≤ i →
      Steps r m (.act a i) (m.setVmState a.target) .recheck
  /-- The arm `(_, Shutdown)`: `vm_destroy` and the power button. -/
  | destroy (m : LightMachine C) (i : Nat) (x : Except CpuError Unit × LightMachine C) :
      m.vmDestroy ops = .ok x → Steps r m (.act .destroy i) x.2.pressPowerButton .recheck
  /-- The recheck returns. -/
  | recheck (m : LightMachine C) : Steps r m .recheck m (.done (decide (m.vmState = r.target)))
  /-- A returned thread stays returned. -/
  | stay (m : LightMachine C) (b : Bool) : Steps r m (.done b) m (.done b)

/-- `Thread.step` takes only the steps `Steps` lists. -/
theorem steps_of_step {t : Thread} {m m' : LightMachine C} {p' : Pc}
    (h : step ops m t = .ok (m', p')) : Steps ops t.request m t.pc m' p' := by
  obtain ⟨r, p⟩ := t
  cases p with
  | read => cases h; exact .read m
  | check old =>
    simp only [step] at h
    split at h
    · cases h; exact .reject m old
    · split at h
      · cases h; exact .reject m old
      · cases h; exact .accept m old _ (of_not_not ‹_›) ‹_›
  | act a i =>
    by_cases ha : a = .destroy
    · subst ha
      simp only [step] at h
      rcases hx : m.vmDestroy ops with _ | x <;> rw [hx] at h <;> cases h
      exact .destroy m i x hx
    · rw [step_act ops ha] at h
      split at h
      · rcases hc : index m.cpus i with _ | c <;> simp only [hc, except_ok_bind] at h
        · cases h
        · split at h <;> cases h
          · exact .fail m a i _ ha ‹_›
          · exact .call m a i _ ha ‹_›
      · cases h; exact .write m a i ha (Nat.le_of_not_lt ‹_›)
  | recheck => cases h; exact .recheck m
  | done b => cases h; exact .stay m b

namespace Steps

variable {ops} {r : Request} {m m' : LightMachine C} {p p' : Pc}

/-- No step changes the vCPU topology. -/
theorem cpuTopo (h : Steps ops r m p m' p') : m'.cpuTopo = m.cpuTopo := by
  cases h with
  | destroy _ x hx => exact (LightMachine.vmDestroy_ok ops hx).2
  | _ => rfl

/-- Only the steps into the recheck write `vm_state`. -/
theorem vmState_or_recheck (h : Steps ops r m p m' p') :
    m'.vmState = m.vmState ∨ p' = .recheck := by
  cases h <;> first | exact .inr rfl | exact .inl rfl

/-- Every step of a thread that has not returned uses up fuel. -/
theorem fuel_lt (h : Steps ops r m p m' p') (hp : ∀ b, p ≠ .done b) :
    p'.fuel m'.maxCpus < p.fuel m.maxCpus := by
  rw [show m'.maxCpus = m.maxCpus by simp only [LightMachine.maxCpus, h.cpuTopo]]
  cases h with
  | read | reject | recheck | destroy => simp [Pc.fuel]
  | accept | fail | write => simp only [Pc.fuel]; split <;> omega
  | call _ _ _ ha => simp only [Pc.fuel, if_neg ha]; omega
  | stay => exact absurd rfl (hp _)

end Steps

end Thread

/-! ## What is left of a request

`Thread.rest ops r p m` runs request `r` from step `p` to its end on machine `m`, with no
other thread beside it.  A step followed by the rest from where it leads is the rest from
where it started (`rest_eq_step_bind`), and from its first step the rest of a request is
the request (`rest_entry`). -/

namespace Arm

variable {C : Type} (ops : CpuOps C)

/-- What is left of an arm's action from its call on vCPU `i`: the rest of the loop and
the write, or for `(_, Shutdown)` the whole of `vm_destroy` and the power button. -/
def rest : Arm → Nat → LightMachine C → Except Panic (LightMachine C)
  | .destroy, _, m => (fun r => r.2.pressPowerButton) <$> m.vmDestroy ops
  | a, i, m => do
    let (cpus, r) ← LightMachine.cpuLoop (a.op ops) (List.range' i (m.maxCpus - i)) m.cpus
    match r with
    | .error _ => pure { m with cpus }
    | .ok () => pure ({ m with cpus }.setVmState a.target)

/-- From vCPU 0 the rest of an arm is the arm's whole action. -/
theorem rest_zero (a : Arm) (m : LightMachine C) : a.rest ops 0 m = LightMachine.runArm ops a m := by
  cases a
  case destroy => rfl
  all_goals
    simp only [rest, LightMachine.runArm, LightMachine.vmStart, LightMachine.vmPause,
      LightMachine.vmResume, LightMachine.cpuTransit, List.range_eq_range', Nat.sub_zero, op]
    rcases LightMachine.cpuLoop _ _ _ with _ | ⟨_, _ | _⟩ <;> rfl

variable {a : Arm} (ha : a ≠ .destroy) {m : LightMachine C} {i : Nat}
include ha

/-- A loop arm's rest from a vCPU `i < max_cpus`: the call on vCPU `i`, then the rest
from `i + 1` if it succeeds. -/
theorem rest_of_lt (hi : i < m.maxCpus) :
    a.rest ops i m = index m.cpus i >>= fun c =>
      match a.op ops c with
      | .error (_, c') => .ok { m with cpus := m.cpus.set i c' }
      | .ok c' => a.rest ops (i + 1) { m with cpus := m.cpus.set i c' } := by
  have hk : m.maxCpus - i = (m.maxCpus - (i + 1)) + 1 := by omega
  cases a <;> first | exact absurd rfl ha |
    simp only [rest, hk, List.range'_succ, LightMachine.cpuLoop]
    rcases index m.cpus i with _ | c
    · rfl
    · simp only [except_ok_bind]
      rcases op _ _ c with ⟨_, c'⟩ | c' <;> rfl

/-- A loop arm's rest past the last vCPU is its write. -/
theorem rest_of_ge (hi : m.maxCpus ≤ i) : a.rest ops i m = .ok (m.setVmState a.target) := by
  cases a <;> first | exact absurd rfl ha |
    simp [rest, Nat.sub_eq_zero_of_le hi, LightMachine.cpuLoop]

end Arm

namespace Thread

variable {C : Type} (ops : CpuOps C)

/-- What is left of request `r` from step `p`, run to its end with nothing beside it. -/
def rest (r : Request) : Pc → LightMachine C → Except Panic (Bool × LightMachine C)
  | .read, m => LightMachine.notifyLifecycle ops m.vmState r.target m
  | .check old, m => LightMachine.notifyLifecycle ops old r.target m
  | .act a i, m => (fun m' => (decide (m'.vmState = r.target), m')) <$> a.rest ops i m
  | .recheck, m => .ok (decide (m.vmState = r.target), m)
  | .done b, m => .ok (b, m)

/-- From its first step, the rest of a request is the request. -/
theorem rest_entry (r : Request) (m : LightMachine C) :
    rest ops r r.entry m = LightMachine.request ops r m := by
  cases r <;> rfl

/-- One step, then the rest from where it leads, is the rest from where it started. -/
theorem rest_eq_step_bind (r : Request) (p : Pc) (m : LightMachine C) :
    rest ops r p m = step ops m ⟨r, p⟩ >>= fun x => rest ops r x.2 x.1 := by
  cases p with
  | read => rfl
  | check old =>
    simp only [rest, step, LightMachine.notifyLifecycle]
    split
    · rfl
    · cases lifecycleArm old r.target <;> simp [rest, Arm.rest_zero]
  | act a i =>
    by_cases ha : a = .destroy
    · subst ha
      simp only [rest, step, Arm.rest]
      rcases LightMachine.vmDestroy ops m with _ | _ <;> rfl
    by_cases hi : i < m.maxCpus
    · simp only [rest, step_act ops ha, hi, if_true, Arm.rest_of_lt ops ha hi]
      rcases index m.cpus i with _ | c
      · rfl
      · simp only [except_ok_bind]
        rcases a.op ops c with _ | c' <;> rfl
    · simp only [rest, step_act ops ha, hi, if_false, Arm.rest_of_ge ops ha (Nat.le_of_not_lt hi)]
      rfl
  | recheck => rfl
  | done b => rfl

end Thread

/-- The machine, the threads, and what a run has recorded so far. -/
structure System (C : Type) where
  machine : LightMachine C
  threads : List Thread
  /-- The values `vm_state` has taken, a value repeated in a row kept once; its last entry
  is the current value. -/
  trace : List KvmVmState
  history : List Event

namespace System

variable {C : Type} (ops : CpuOps C)

/-- Threads for `reqs` on machine `m`, none of them started. -/
def init (m : LightMachine C) (reqs : List Request) : System C :=
  { machine := m, threads := reqs.map fun r => ⟨r, r.entry⟩, trace := [m.vmState], history := [] }

@[simp] theorem init_machine (m : LightMachine C) (reqs : List Request) :
    (init m reqs).machine = m := rfl
@[simp] theorem init_threads (m : LightMachine C) (reqs : List Request) :
    (init m reqs).threads = reqs.map fun r => ⟨r, r.entry⟩ := rfl
@[simp] theorem init_trace (m : LightMachine C) (reqs : List Request) :
    (init m reqs).trace = [m.vmState] := rfl
@[simp] theorem init_history (m : LightMachine C) (reqs : List Request) :
    (init m reqs).history = [] := rfl

/-- The system after thread `j`, running `t`, has stepped to machine `m` with next step
`pc'`: its first step is its invocation, a step to `done` its response. -/
def stepped (s : System C) (j : Nat) (t : Thread) (m : LightMachine C) (pc' : Pc) : System C :=
  { machine := m
    threads := s.threads.set j { t with pc := pc' }
    trace := recordState s.trace m.vmState
    history := s.history ++ (if Event.invoke j ∈ s.history then [] else [.invoke j]) ++
      (match pc' with | .done _ => [.respond j] | _ => []) }

@[simp] theorem stepped_machine (s : System C) (j : Nat) (t : Thread) (m : LightMachine C) (pc' : Pc) :
    (s.stepped j t m pc').machine = m := rfl

@[simp] theorem stepped_trace (s : System C) (j : Nat) (t : Thread) (m : LightMachine C) (pc' : Pc) :
    (s.stepped j t m pc').trace = recordState s.trace m.vmState := rfl

/-- Thread `j` takes a step; a thread that has returned, or that does not exist, does
nothing. -/
def step (s : System C) (j : Nat) : Except Panic (System C) :=
  match s.threads[j]? with
  | none => .ok s
  | some t =>
    match t.pc with
    | .done _ => .ok s
    | _ => (fun r => s.stepped j t r.1 r.2) <$> t.step ops s.machine

/-- A run of the schedule `sched`. -/
def run (sched : List Nat) (s : System C) : Except Panic (System C) :=
  sched.foldlM (step ops) s

/-- The return value of each thread, `none` while it has not returned. -/
def returns (s : System C) : List (Option Bool) :=
  s.threads.map fun t => match t.pc with | .done b => some b | _ => none

end System

/-! ## Runs

`run_invariant` carries a property that every step keeps over a whole run.  `run_solo`
runs one thread alone to its end: the run does the whole of what is left of its request,
and records the thread's invocation, its response and the final `vm_state`. -/

namespace System

variable {C : Type} (ops : CpuOps C)

theorem run_cons (s : System C) (j : Nat) (sched : List Nat) :
    s.run ops (j :: sched) = s.step ops j >>= run ops sched := rfl

theorem run_append (s : System C) (l l' : List Nat) :
    s.run ops (l ++ l') = s.run ops l >>= run ops l' := List.foldlM_append ..

/-- A step of the system leaves it as it was, or is a step that `Thread.Steps` lists of a
thread that has not returned. -/
theorem step_cases {s s' : System C} {j : Nat} (h : s.step ops j = .ok s') :
    s' = s ∨ ∃ t m p, s.threads[j]? = some t ∧ Thread.Steps ops t.request s.machine t.pc m p ∧
      s' = s.stepped j t m p := by
  simp only [step] at h
  split at h
  · exact .inl (by cases h; rfl)
  · rename_i t ht
    split at h
    · exact .inl (by cases h; rfl)
    · rcases hx : t.step ops s.machine with _ | ⟨m, p⟩ <;>
        simp only [hx, except_map_ok, except_map_error] at h <;> cases h
      exact .inr ⟨t, m, p, ht, Thread.steps_of_step ops hx, rfl⟩

/-- A property of systems that every step keeps holds after every run. -/
theorem run_invariant {P : System C → Prop} (hstep : ∀ s j s', P s → s.step ops j = .ok s' → P s') :
    ∀ {sched : List Nat} {s s' : System C}, P s → s.run ops sched = .ok s' → P s'
  | [], _, _, hs, h => by cases h; exact hs
  | j :: sched, s, _, hs, h => by
    rw [run_cons] at h
    rcases hj : s.step ops j with _ | s₁ <;> rw [hj] at h
    · cases h
    · exact run_invariant hstep (hstep s j s₁ hs hj) h

/-- No run changes the vCPU topology. -/
theorem run_cpuTopo {sched : List Nat} {s s' : System C} (h : s.run ops sched = .ok s') :
    s'.machine.cpuTopo = s.machine.cpuTopo := by
  refine run_invariant ops (P := fun s' => s'.machine.cpuTopo = s.machine.cpuTopo) ?_ rfl h
  intro s₁ j s₂ h₁ h₂
  rcases step_cases ops h₂ with rfl | ⟨t, m, p, -, ht, rfl⟩
  · exact h₁
  · exact ht.cpuTopo.trans h₁

section Solo

variable {s : System C} {j : Nat} {t : Thread}

theorem step_of_getElem? (hj : s.threads[j]? = some t) (ht : ∀ b, t.pc ≠ .done b) :
    s.step ops j = (fun x => s.stepped j t x.1 x.2) <$> t.step ops s.machine := by
  simp only [step, hj]

/-- A thread that has returned takes no more steps. -/
theorem run_replicate_of_done {b : Bool} (hj : s.threads[j]? = some t) (ht : t.pc = .done b) :
    ∀ k, s.run ops (List.replicate k j) = .ok s
  | 0 => rfl
  | k + 1 => by
    rw [List.replicate_succ, run_cons]
    simp only [step, hj, ht, except_ok_bind]
    exact run_replicate_of_done hj ht k

theorem stepped_getElem? (hj : s.threads[j]? = some t) (m : LightMachine C) (p : Pc) :
    (s.stepped j t m p).threads[j]? = some { t with pc := p } :=
  List.getElem?_set_self (List.getElem?_eq_some_iff.mp hj).1

/-- What thread `j`, running `r`, leaves when it returns `res.1` on machine `res.2`. -/
def finish (s : System C) (j : Nat) (r : Request) (res : Bool × LightMachine C) : System C :=
  { machine := res.2
    threads := s.threads.set j ⟨r, .done res.1⟩
    trace := recordState s.trace res.2.vmState
    history := s.history ++ (if Event.invoke j ∈ s.history then [] else [.invoke j]) ++
      [.respond j] }

/-- A step that does not return changes nothing a thread's return leaves, as long as
`vm_state` at the return is recorded as it would have been. -/
theorem finish_stepped {r : Request} {m : LightMachine C} {p : Pc} {res : Bool × LightMachine C}
    (hp : ∀ b, p ≠ .done b)
    (htr : recordState (recordState s.trace m.vmState) res.2.vmState =
      recordState s.trace res.2.vmState) :
    (s.stepped j t m p).finish j r res = s.finish j r res := by
  have hresp : (match p with | .done _ => [Event.respond j] | _ => []) = [] := by
    cases p <;> first | rfl | exact absurd rfl (hp _)
  simp only [finish, stepped, hresp, List.set_set, htr, List.append_nil]
  by_cases hi : Event.invoke j ∈ s.history <;> simp [hi]

/-- A thread run alone for as many steps as its fuel does the whole of what is left of its
request. -/
theorem run_solo {r : Request} : ∀ {k : Nat} {s : System C} {p : Pc},
    s.threads[j]? = some ⟨r, p⟩ → (∀ b, p ≠ .done b) →
    s.trace.getLast? = some s.machine.vmState → p.fuel s.machine.maxCpus ≤ k →
    s.run ops (List.replicate k j) = s.finish j r <$> Thread.rest ops r p s.machine
  | 0, _, _, _, hp, _, hk => absurd hk (Nat.not_le_of_lt (Pc.fuel_pos hp))
  | k + 1, s, p, hj, hp, htr, hk => by
    rw [List.replicate_succ, run_cons, step_of_getElem? ops hj hp, Thread.rest_eq_step_bind]
    rcases hx : Thread.step ops s.machine ⟨r, p⟩ with e | ⟨m, p'⟩
    · rfl
    have hs : Thread.Steps ops r s.machine p m p' := Thread.steps_of_step ops hx
    simp only [except_map_ok, except_ok_bind]
    by_cases hp' : ∃ b, p' = .done b
    · obtain ⟨b, rfl⟩ := hp'
      rw [run_replicate_of_done ops (stepped_getElem? hj m _) rfl]
      rfl
    push_neg at hp'
    rw [run_solo (stepped_getElem? hj m p') hp' (recordState_getLast? _ _)
      (by have := hs.fuel_lt hp; simp only [stepped_machine]; omega)]
    rcases hs.vmState_or_recheck with hm | rfl
    · congr 1
      funext res
      exact finish_stepped hp' (by rw [hm, recordState_of_getLast? htr])
    · simp only [Thread.rest, except_map_ok, stepped_machine]
      rw [finish_stepped hp' (by simp)]

end Solo

end System

end StratoVirt
