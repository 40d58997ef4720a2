import StratoVirt.Machine.Interleaving

/-!
# Which runs of concurrent lifecycle requests are linearizable

A run of concurrent requests is *linearizable* when some order of the requests that keeps
their real-time order, executed one at a time by `LightMachine.request`, gives every
request the same return value and `vm_state` the same succession of values.

* Runs whose requests do not overlap are linearizable, to the order they ran in
  (`serial_linearizable`): a thread run alone does its whole request
  (`System.run_solo`).
* Overlapping requests need not be.  `notify_lifecycle` drops the state lock between its
  check and the arm's action, so two `pause` on a `Running` machine can both pass the
  check and both return `true`, and a `pause` whose check came before a `destroy` writes
  `Paused` after `Shutdown` (`concurrent_requests_not_linearizable`).
* Whatever the interleaving, once `vm_state` is `Shutdown` and no thread is inside a loop
  arm, between its check and its write, `vm_state` keeps `Shutdown` (`run_shutdown`).
-/

namespace StratoVirt

namespace LightMachine

variable {C : Type} (ops : CpuOps C)

/-- The requests `reqs` executed one at a time in `order`: the machine, each request's
return value, and the values `vm_state` takes. -/
def sequential (reqs : List Request) :
    List Nat → LightMachine C × List (Option Bool) × List KvmVmState →
      Except Panic (LightMachine C × List (Option Bool) × List KvmVmState)
  | [], acc => .ok acc
  | j :: order, (m, rets, trace) =>
    match reqs[j]? with
    | none => sequential reqs order (m, rets, trace)
    | some r => do
      let (b, m') ← request ops r m
      sequential reqs order (m', rets.set j (some b), recordState trace m'.vmState)

end LightMachine

/-- Thread `a` returned before thread `b` was invoked. -/
def Precedes (history : List Event) (a b : Nat) : Prop :=
  [Event.respond a, Event.invoke b].Sublist history

/-- The run of the schedule `sched` on threads for `reqs` is linearizable: some order of
the requests that keeps the run's real-time order, executed one at a time, gives every
request the return value it has in the run and `vm_state` the values it takes in the run,
or panics as the run does. -/
def Linearizable {C : Type} (ops : CpuOps C) (m : LightMachine C) (reqs : List Request)
    (sched : List Nat) : Prop :=
  ∃ order, order.Perm (List.range reqs.length) ∧
    let seq := (fun r => r.2) <$>
      LightMachine.sequential ops reqs order (m, reqs.map fun _ => none, [m.vmState])
    match (System.init m reqs).run ops sched with
    | .ok s => (∀ a b, Precedes s.history a b → [a, b].Sublist order) ∧ seq = .ok (s.returns, s.trace)
    | .error p => seq = .error p

/-! ## Runs without overlap

`serialSchedule n order` runs the threads one after the other, each for `n + 4` steps,
which is all a request needs on a machine with `n` vCPU slots. -/

/-- The schedule that runs the threads of `order` one after the other, each for `n + 4`
steps. -/
def serialSchedule (n : Nat) (order : List Nat) : List Nat :=
  order.flatMap fun j => List.replicate (n + 4) j

theorem Request.entry_fuel (r : Request) (n : Nat) : r.entry.fuel n ≤ n + 4 := by
  cases r <;> simp [Request.entry, Pc.fuel]

theorem Request.entry_ne_done (r : Request) (b : Bool) : r.entry ≠ .done b := by
  cases r <;> simp [Request.entry]

namespace System

variable {C : Type} (ops : CpuOps C)

theorem finish_returns (s : System C) (j : Nat) (r : Request) (res : Bool × LightMachine C) :
    (s.finish j r res).returns = s.returns.set j (some res.1) := by
  simp [finish, returns, List.map_set]

/-- The threads of `order` run one after the other do what `sequential` does, and the
history is each thread's invocation followed by its response. -/
theorem run_serial {reqs : List Request} {n : Nat} : ∀ {order : List Nat} {s : System C},
    order.Nodup →
    (∀ j ∈ order, ∃ r, reqs[j]? = some r ∧ s.threads[j]? = some ⟨r, r.entry⟩ ∧
      Event.invoke j ∉ s.history) →
    s.machine.maxCpus = n → s.trace.getLast? = some s.machine.vmState →
    (fun s' => (s'.returns, s'.trace, s'.history)) <$> s.run ops (serialSchedule n order) =
      (fun r => (r.2.1, r.2.2, s.history ++ order.flatMap fun j => [.invoke j, .respond j])) <$>
        LightMachine.sequential ops reqs order (s.machine, s.returns, s.trace)
  | [], s, _, _, _, _ => by simp [serialSchedule, LightMachine.sequential]; rfl
  | j :: order, s, hnd, hfresh, hn, htr => by
    obtain ⟨r, hr, hj, hinv⟩ := hfresh j (List.mem_cons_self j order)
    have hsolo := run_solo ops (k := n + 4) hj (Request.entry_ne_done r) htr
      (hn ▸ Request.entry_fuel r _)
    rw [Thread.rest_entry] at hsolo
    simp only [serialSchedule, List.flatMap_cons] at hsolo ⊢
    rw [run_append, hsolo]
    simp only [LightMachine.sequential, hr]
    rcases hreq : LightMachine.request ops r s.machine with p | ⟨b, m'⟩
    · rfl
    simp only [hreq, except_map_ok, except_ok_bind] at hsolo ⊢
    have hnd' := (List.nodup_cons.mp hnd)
    have ih := run_serial (n := n) (s := s.finish j r (b, m')) hnd'.2
      (fun j' hj' => by
        obtain ⟨r', hr', hj'', hinv'⟩ := hfresh j' (List.mem_cons_of_mem j hj')
        have hne : j ≠ j' := fun h => hnd'.1 (h ▸ hj')
        exact ⟨r', hr', by simp [finish, hne, hj''], by simp [finish, hinv, hinv', hne.symm]⟩)
      (by rw [← hn]; exact congrArg (fun c => c.maxCpus.toNat) (run_cpuTopo ops hsolo))
      (recordState_getLast? _ _)
    simp only [serialSchedule] at ih
    rw [ih, finish_returns]
    simp [finish, hinv]

end System

/-- In the history of a serial run, a thread that returned before another was invoked
comes before it in the order. -/
theorem sublist_of_precedes_serial : ∀ {order : List Nat} {a b : Nat},
    Precedes (order.flatMap fun j => [.invoke j, .respond j]) a b → [a, b].Sublist order
  | [], _, _, h => by simp [Precedes] at h
  | j :: order, a, b, h => by
    simp only [Precedes, List.flatMap_cons, List.cons_append, List.nil_append] at h
    rcases List.sublist_cons_iff.mp h with h | ⟨_, h', _⟩
    · rcases List.sublist_cons_iff.mp h with h | ⟨_, h', h''⟩
      · exact (sublist_of_precedes_serial h).cons j
      · simp only [List.cons.injEq, Event.respond.injEq] at h'
        obtain ⟨rfl, rfl⟩ := h'
        simpa using h''
    · simp at h'

variable {C : Type} (ops : CpuOps C)

@[simp] theorem System.init_returns (m : LightMachine C) (reqs : List Request) :
    (System.init m reqs).returns = reqs.map fun _ => none := by
  simp only [System.init, System.returns, List.map_map]
  congr 1
  funext r
  cases r <;> rfl

/-- A run whose requests do not overlap, in any order, is linearizable to that order. -/
theorem serial_linearizable (m : LightMachine C) (reqs : List Request) {order : List Nat}
    (ho : order.Perm (List.range reqs.length)) :
    Linearizable ops m reqs (serialSchedule m.maxCpus order) := by
  have key := @System.run_serial C ops reqs m.maxCpus order (System.init m reqs)
    (ho.nodup_iff.mpr (List.nodup_range _))
    (fun j hj => by
      have hlt : j < reqs.length := by simpa using ho.mem_iff.mp hj
      exact ⟨reqs[j], by simp [hlt], by simp [hlt], by simp⟩)
    rfl rfl
  refine ⟨order, ho, ?_⟩
  simp only [System.init_returns, System.init_machine, System.init_trace, System.init_history,
    List.nil_append] at key ⊢
  rcases hseq : LightMachine.sequential ops reqs order (m, reqs.map fun _ => none, [m.vmState])
    with p | ⟨m', rets, trace⟩ <;>
    rcases hrun : (System.init m reqs).run ops (serialSchedule m.maxCpus order) with p' | s <;>
    simp only [hseq, hrun, except_map_ok, except_map_error, Except.ok.injEq, Except.error.injEq,
      Prod.mk.injEq, reduceCtorEq] at key
  · subst key; rfl
  · obtain ⟨rfl, rfl, hh⟩ := key
    exact ⟨fun a b hab => sublist_of_precedes_serial (hh ▸ hab), rfl⟩

/-! ## `Shutdown` is final

`vm_destroy` writes `Shutdown` under the state lock, and from `Shutdown` every check
either fails or takes the arm `(_, Shutdown)` again.  Only a loop arm that passed its
check before `Shutdown` was written can write another state. -/

/-- The thread at `p` is inside a loop arm, between its check and its write. -/
def Pc.inLoop : Pc → Bool
  | .act .destroy _ => false
  | .act _ _ => true
  | _ => false

theorem Pc.inLoop_act {a : Arm} (ha : a ≠ .destroy) (i : Nat) : (Pc.act a i).inLoop = true := by
  cases a <;> first | exact absurd rfl ha | rfl

/-- From `Shutdown` the only arm a check can take is `(_, Shutdown)`. -/
theorem lifecycleArm_of_shutdown {new : KvmVmState} {a : Arm}
    (h : lifecycleArm .shutdown new = some a) : a = .destroy := by
  cases new <;> cases h
  rfl

/-- A step from `Shutdown` of a thread outside the loop arms keeps `Shutdown`, and leads
outside them. -/
theorem Thread.Steps.shutdown {r : Request} {m m' : LightMachine C} {p p' : Pc}
    (h : Thread.Steps ops r m p m' p') (hm : m.vmState = .shutdown) (hp : p.inLoop = false) :
    m'.vmState = .shutdown ∧ p'.inLoop = false := by
  cases h with
  | accept _ a hold harm =>
    rw [← hold, hm] at harm
    rw [lifecycleArm_of_shutdown harm]
    exact ⟨hm, rfl⟩
  | call _ _ _ ha | fail _ _ _ ha | write _ _ ha => simp [Pc.inLoop_act ha] at hp
  | destroy _ _ hx => exact ⟨(LightMachine.vmDestroy_ok ops hx).1, rfl⟩
  | _ => exact ⟨hm, rfl⟩

/-- Over every schedule: from a `Shutdown` machine with no thread inside a loop arm,
`vm_state` keeps `Shutdown` and the run records no other value. -/
theorem run_shutdown {sched : List Nat} {s s' : System C} (hm : s.machine.vmState = .shutdown)
    (htr : s.trace.getLast? = some .shutdown) (hloop : ∀ t ∈ s.threads, t.pc.inLoop = false)
    (h : s.run ops sched = .ok s') : s'.machine.vmState = .shutdown ∧ s'.trace = s.trace := by
  refine (System.run_invariant ops (P := fun s₁ => s₁.machine.vmState = .shutdown ∧
    s₁.trace = s.trace ∧ ∀ t ∈ s₁.threads, t.pc.inLoop = false) ?_ ⟨hm, rfl, hloop⟩ h).imp_right
    And.left
  rintro s₁ j s₂ ⟨hm₁, htr₁, hloop₁⟩ hstep
  rcases System.step_cases ops hstep with rfl | ⟨t, m, p, hj, hs, rfl⟩
  · exact ⟨hm₁, htr₁, hloop₁⟩
  obtain ⟨hm₂, hp⟩ := hs.shutdown ops hm₁ (hloop₁ t (List.getElem?_mem hj))
  refine ⟨hm₂, ?_, fun t' ht' => ?_⟩
  · simp [hm₂, htr₁, recordState_of_getLast? htr]
  · rcases List.mem_or_eq_of_mem_set ht' with ht' | rfl
    · exact hloop₁ t' ht'
    · exact hp

/-! ## Overlapping requests

Two requests on a machine: the only orders of them are `[0, 1]` and `[1, 0]`. -/

theorem perm_range_two {l : List Nat} (h : l.Perm (List.range 2)) : l = [0, 1] ∨ l = [1, 0] := by
  have hn : l.Nodup := h.nodup_iff.mpr (List.nodup_range 2)
  match l, h.length_eq with
  | [a, b], _ =>
    have ha : a < 2 := by simpa using h.mem_iff.mp (List.mem_cons_self a _)
    have hb : b < 2 := by simpa using h.mem_iff.mp (by simp)
    have hab : a ≠ b := by simpa using hn
    simp only [List.cons.injEq, and_true]
    omega

/-- A run that returns, and that no order of the requests reproduces, is not
linearizable. -/
theorem not_linearizable_of_run {m : LightMachine C} {reqs : List Request} {sched : List Nat}
    {s : System C} (hs : (System.init m reqs).run ops sched = .ok s)
    (hne : ∀ order, order.Perm (List.range reqs.length) →
      (fun r => r.2) <$> LightMachine.sequential ops reqs order (m, reqs.map fun _ => none, [m.vmState]) ≠
        .ok (s.returns, s.trace)) :
    ¬ Linearizable ops m reqs sched := by
  rintro ⟨order, hp, h⟩
  simp only [hs] at h
  exact hne order hp h.2

/-- On `runningPair` with every vCPU operation succeeding, two overlapping runs that are
not linearizable.  Two `pause` that both pass the check before either writes both return
`true`, where one after the other the second returns `false`.  A `pause` that has paused
both vCPUs when a `destroy` runs writes `Paused` after `Shutdown`: `vm_state` takes the
values `Running, Shutdown, Paused`, which no order of the two requests gives. -/
theorem concurrent_requests_not_linearizable :
    ¬ Linearizable (CPU.ops fun _ => false) runningPair [.pause, .pause] [0, 1, 0, 1, 0, 1, 0, 1, 0, 1] ∧
    ¬ Linearizable (CPU.ops fun _ => false) runningPair [.pause, .destroy] [0, 0, 0, 1, 1, 1, 1, 0, 0] := by
  constructor <;>
  · refine not_linearizable_of_run _ rfl fun order hp h => ?_
    rcases perm_range_two hp with rfl | rfl <;> injection h with h <;> exact absurd h (by decide)

/-! ## The lifecycle requests on concurrent threads -/

/-- Lifecycle requests on concurrent threads, for every vCPU implementation: a run whose
requests do not overlap is linearizable to the order they ran in; and over every schedule,
from `Shutdown` with no thread inside a loop arm, `vm_state` keeps `Shutdown` and the run
records no other value. -/
theorem lifecycle_requests_concurrent :
    (∀ (m : LightMachine C) (reqs : List Request) (order : List Nat),
      order.Perm (List.range reqs.length) →
        Linearizable ops m reqs (serialSchedule m.maxCpus order)) ∧
    (∀ (sched : List Nat) (s s' : System C), s.machine.vmState = .shutdown →
      s.trace.getLast? = some .shutdown → (∀ t ∈ s.threads, t.pc.inLoop = false) →
      s.run ops sched = .ok s' → s'.machine.vmState = .shutdown ∧ s'.trace = s.trace) :=
  ⟨fun m reqs _ ho => serial_linearizable ops m reqs ho, fun _ _ _ => run_shutdown ops⟩

/-- `lifecycle_requests_concurrent` on `runningPair`: `destroy` then `pause`, one after the
other, is linearizable; and a `pause` and a `destroy` on a machine already `Shutdown`
leave it `Shutdown`. -/
theorem lifecycle_requests_concurrent_runningPair :
    Linearizable (CPU.ops fun _ => false) runningPair [.pause, .destroy]
      (serialSchedule runningPair.maxCpus [1, 0]) ∧
    ∃ s', (System.init { runningPair with vmState := .shutdown } [.pause, .destroy]).run
        (CPU.ops fun _ => false) [0, 1, 1, 1, 1] = .ok s' ∧
      s'.machine.vmState = .shutdown ∧ s'.trace = [.shutdown] :=
  ⟨(lifecycle_requests_concurrent (CPU.ops fun _ => false)).1 runningPair _ [1, 0] (by decide),
    ⟨_, rfl, (lifecycle_requests_concurrent (CPU.ops fun _ => false)).2 [0, 1, 1, 1, 1]
      (System.init { runningPair with vmState := .shutdown } [.pause, .destroy]) _ rfl rfl
      (by decide) rfl⟩⟩

end StratoVirt
