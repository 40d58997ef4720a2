import StratoVirt.Machine.State

/-!
# The event channel

`QmpChannel` (`machine_manager/src/qmp/mod.rs`) keeps the writer that events go to in an
`RwLock<Option<SocketRWHandler>>`.  `bind_writer` and `unbind` set it under the write lock.
`send_event` checks `is_connected` under the read lock and releases it, and only then
takes the write lock to write the event's text and a newline to
`writer_unlocked.as_mut().unwrap()`.

Between the check and the write another thread can `unbind`: the write then unwraps `None`
and panics (`unbind_between_check_and_write_panics`).  In every interleaving without an
`unbind`, no send panics, and each one writes its whole line to the writer bound at its
write, or nothing when no writer was bound at its check (`send_events_ok_without_unbind`).
The timestamp of an event is the whole seconds since the epoch and the microseconds
beyond them (`createTimestamp_spec`).

## What is transcribed and what is ours

* `bind_writer`, `unbind` and `send_event` are transcribed, each section that holds the
  lock one step: `send_event` is two steps, its check and its write.
* The event is its text: `QmpEvent` lives in `qmp_schema`, which is not in the source, and
  `serde_json::to_string` of it does not fail.  A writer is a name, and what is written to
  it is the channel's log, one entry per write.  The `unwrap`s of a poisoned lock and of
  the writer's I/O errors are not modelled.
* `create_timestamp` is transcribed from the time since the epoch on; `Duration` is
  modelled after its documentation, and the panic of a clock before the epoch is left
  out.
-/

namespace StratoVirt

namespace Qmp

/-- Where a `send_event` call is. -/
inductive SendPhase where
  /-- About to call `is_connected`. -/
  | start
  /-- `is_connected` returned `true`; about to take the write lock. -/
  | checked
  /-- Returned. -/
  | done
deriving DecidableEq, Repr

/-- A `send_event` call: the text of its event, and where it is. -/
structure Sender where
  event : String
  phase : SendPhase
deriving DecidableEq, Repr

/-- The channel's writer cell, what was written to the writers, and the `send_event`
calls. -/
structure ChannelState (W : Type) where
  eventWriter : Option W
  log : List (W × String)
  senders : List Sender

/-- A thread taking one step: a `send_event` call, `bind_writer` or `unbind`. -/
inductive ChannelActor (W : Type) where
  | send (i : Nat)
  | bindWriter (w : W)
  | unbind
deriving DecidableEq, Repr

namespace ChannelActor

variable {W : Type}

/-- Whether a step is one of call `i`'s. -/
def isSend (i : Nat) : ChannelActor W → Bool
  | .send j => j == i
  | _ => false

/-- The writer cell after a step. -/
def nextWriter (w : Option W) : ChannelActor W → Option W
  | .bindWriter w' => some w'
  | .unbind => none
  | .send _ => w

end ChannelActor

namespace ChannelState

variable {W : Type}

/-- The channel before any step, with the calls of `events` about to start. -/
def init (writer : Option W) (events : List String) : ChannelState W :=
  ⟨writer, [], events.map fun e => ⟨e, .start⟩⟩

/-- One step of `send_event` call `i`: the check under the read lock, then the write under
the write lock. -/
def sendStep (s : ChannelState W) (i : Nat) : Except Panic (ChannelState W) :=
  match s.senders[i]? with
  | some ⟨e, .start⟩ =>
    .ok { s with senders := s.senders.set i ⟨e, if s.eventWriter.isSome then .checked else .done⟩ }
  | some ⟨e, .checked⟩ =>
    match s.eventWriter with
    | some w => .ok { s with log := s.log ++ [(w, e ++ "\n")], senders := s.senders.set i ⟨e, .done⟩ }
    | none => .error .unwrapNone
  | _ => .ok s

/-- One step of one thread. -/
def step (s : ChannelState W) : ChannelActor W → Except Panic (ChannelState W)
  | .send i => s.sendStep i
  | .bindWriter w => .ok { s with eventWriter := some w }
  | .unbind => .ok { s with eventWriter := none }

/-- The threads' steps in the order of `sched`, stopping at a panic. -/
def run (s : ChannelState W) (sched : List (ChannelActor W)) : Except Panic (ChannelState W) :=
  sched.foldlM step s

/-! ## A writer unbound between the check and the write -/

/-- A send that passed its check while a writer was bound panics at its write if an
`unbind` comes in between. -/
theorem unbind_between_check_and_write_panics (w : W) (events : List String) {i : Nat}
    (hi : i < events.length) :
    run (init (some w) events) [.send i, .unbind, .send i] = .error .unwrapNone := by
  simp [run, step, sendStep, init, hi]

/-- `unbind_between_check_and_write_panics` on the `STOP` event of the tests, with writer 0
bound. -/
theorem unbind_between_check_and_write_panics_stop :
    0 < ["\x7b\"event\":\"STOP\",\"data\":\x7b\x7d\x7d"].length ∧
      run (init (some 0) ["\x7b\"event\":\"STOP\",\"data\":\x7b\x7d\x7d"])
        [.send 0, .unbind, .send 0] = .error .unwrapNone :=
  ⟨by decide, unbind_between_check_and_write_panics 0 _ (by decide)⟩

/-! ## No `unbind`, no panic

Without an `unbind`, every run goes through, and its log is what `send_event` is for
(`eventLog`): each call writes its event's line once, whole, at its write, to the writer
bound then, if a writer was bound at its check; no other step writes.  Where a call is
after some steps is read off them: how many of its steps they hold, and whether a writer
was bound at the first (`phaseAfter`). -/

/-- The writer cell after the steps `pre`, from `writer`. -/
def writerAfter (writer : Option W) (pre : List (ChannelActor W)) : Option W :=
  pre.foldl ChannelActor.nextWriter writer

/-- Whether call `i` found a writer at its check, the first of its steps in `pre`. -/
def checkedBound (writer : Option W) (pre : List (ChannelActor W)) (i : Nat) : Bool :=
  (writerAfter writer (pre.takeWhile fun a => !a.isSend i)).isSome

/-- Where call `i` is after the steps `pre`. -/
def phaseAfter (writer : Option W) (pre : List (ChannelActor W)) (i : Nat) : SendPhase :=
  match pre.countP (·.isSend i) with
  | 0 => .start
  | 1 => if checkedBound writer pre i then .checked else .done
  | _ => .done

/-- What step `a` is to write after the steps `pre`: the second step of call `i` writes its
event and a newline, whole, to the writer bound then, if a writer was bound at its first,
its `is_connected` check; no other step writes. -/
def written (writer : Option W) (events : List String) (pre : List (ChannelActor W)) :
    ChannelActor W → List (W × String)
  | .send i =>
    if pre.countP (·.isSend i) = 1 ∧ checkedBound writer pre i = true then
      match writerAfter writer pre, events[i]? with
      | some w, some e => [(w, e ++ "\n")]
      | _, _ => []
    else []
  | _ => []

/-- What the steps `sched` are to write after the steps `pre`, in order. -/
def eventLogFrom (writer : Option W) (events : List String) :
    List (ChannelActor W) → List (ChannelActor W) → List (W × String)
  | _, [] => []
  | pre, a :: sched => written writer events pre a ++ eventLogFrom writer events (pre ++ [a]) sched

/-- What a run from `init writer events` is to write. -/
def eventLog (writer : Option W) (events : List String) (sched : List (ChannelActor W)) :
    List (W × String) :=
  eventLogFrom writer events [] sched

@[simp] theorem writerAfter_append_singleton (writer : Option W) (pre : List (ChannelActor W))
    (a : ChannelActor W) :
    writerAfter writer (pre ++ [a]) = ChannelActor.nextWriter (writerAfter writer pre) a := by
  simp [writerAfter]

/-- Without an `unbind`, a bound writer stays bound. -/
theorem writerAfter_isSome_append {writer : Option W} {pre : List (ChannelActor W)} :
    ∀ {post : List (ChannelActor W)}, ChannelActor.unbind ∉ post →
      (writerAfter writer pre).isSome → (writerAfter writer (pre ++ post)).isSome
  | [], _, h => by simpa using h
  | a :: post, hpost, h => by
    rw [← List.singleton_append, ← List.append_assoc]
    refine writerAfter_isSome_append (fun h' => hpost (List.mem_cons_of_mem a h')) ?_
    rw [writerAfter_append_singleton]
    cases a with
    | send => exact h
    | bindWriter => rfl
    | unbind => exact absurd (List.mem_cons_self _ _) hpost

/-- Once call `i` has taken a step, later steps leave its check where it was. -/
theorem takeWhile_append_of_isSend {pre : List (ChannelActor W)} {i : Nat}
    (h : 0 < pre.countP (·.isSend i)) (post : List (ChannelActor W)) :
    (pre ++ post).takeWhile (fun a => !a.isSend i) = pre.takeWhile fun a => !a.isSend i := by
  rw [List.takeWhile_append, if_neg]
  intro hlen
  obtain ⟨a, ha, hai⟩ := List.countP_pos_iff.mp h
  have := List.mem_takeWhile_imp (((List.takeWhile_prefix _).eq_of_length hlen).symm ▸ ha)
  simp [hai] at this

/-- A step of another call, or no call's, leaves call `i` where it was. -/
theorem phaseAfter_append_of_not_isSend {writer : Option W} {pre : List (ChannelActor W)}
    {a : ChannelActor W} {i : Nat} (ha : a.isSend i = false) :
    phaseAfter writer (pre ++ [a]) i = phaseAfter writer pre i := by
  unfold phaseAfter checkedBound
  rw [List.countP_append, List.countP_singleton, ha, if_neg Bool.false_ne_true, Nat.add_zero]
  rcases Nat.eq_zero_or_pos (pre.countP (·.isSend i)) with h | h
  · rw [h]
  · rw [takeWhile_append_of_isSend h]

/-- The channel after the steps `pre` from `init writer events`: the writer cell as the
steps left it, and every call where they put it. -/
structure After (writer : Option W) (events : List String) (pre : List (ChannelActor W))
    (s : ChannelState W) : Prop where
  eventWriter_eq : s.eventWriter = writerAfter writer pre
  senders_eq : ∀ i, s.senders[i]? = events[i]?.map fun e => Sender.mk e (phaseAfter writer pre i)

theorem after_init (writer : Option W) (events : List String) :
    After writer events [] (init writer events) :=
  ⟨rfl, fun i => by simp [init, phaseAfter]⟩

section Steps

variable {writer : Option W} {events : List String} {pre : List (ChannelActor W)}
  {s : ChannelState W}

/-- A `bind_writer` writes nothing and moves no call. -/
theorem After.bindWriter (hs : After writer events pre s) (w : W) :
    After writer events (pre ++ [.bindWriter w]) { s with eventWriter := some w } :=
  ⟨by simp [ChannelActor.nextWriter],
    fun i => by rw [hs.senders_eq i, phaseAfter_append_of_not_isSend (a := ChannelActor.bindWriter w) rfl]⟩

/-- A step of call `j` moves no other call. -/
theorem phaseAfter_send_of_ne {j i : Nat} (h : i ≠ j) :
    phaseAfter writer (pre ++ [.send j]) i = phaseAfter writer pre i :=
  phaseAfter_append_of_not_isSend (by simp [ChannelActor.isSend, Ne.symm h])

/-- A step of call `j` that changes nothing, where it leaves call `j` where it was. -/
theorem After.keep (hs : After writer events pre s) {j : Nat}
    (hj : ∀ e, events[j]? = some e → phaseAfter writer (pre ++ [.send j]) j = phaseAfter writer pre j) :
    After writer events (pre ++ [.send j]) s := by
  refine ⟨by simp [hs.eventWriter_eq, ChannelActor.nextWriter], fun i => ?_⟩
  rw [hs.senders_eq]
  by_cases hi : i = j
  · subst hi
    rcases he : events[i]? with _ | e
    · rfl
    · simp [hj e he]
  · rw [phaseAfter_send_of_ne hi]

/-- A step of call `j` that moves it where the steps put it, and leaves the log `l`. -/
theorem After.set (hs : After writer events pre s) {j : Nat} {e : String}
    (he : events[j]? = some e) (l : List (W × String)) :
    After writer events (pre ++ [.send j])
      { s with log := l, senders := s.senders.set j ⟨e, phaseAfter writer (pre ++ [.send j]) j⟩ } := by
  have hlen : j < s.senders.length := by
    by_contra h
    have := hs.senders_eq j
    rw [List.getElem?_eq_none (by omega), he] at this
    cases this
  refine ⟨by simp [hs.eventWriter_eq, ChannelActor.nextWriter], fun i => ?_⟩
  by_cases hi : i = j
  · subst hi; simp [List.getElem?_set, hlen, he]
  · simp only [List.getElem?_set_ne (Ne.symm hi), hs.senders_eq, phaseAfter_send_of_ne hi]

/-- One step of call `j`, without an `unbind` so far: no panic, and the log grows by what
the step is to write. -/
theorem After.send (hs : After writer events pre s) (hpre : ChannelActor.unbind ∉ pre) (j : Nat) :
    ∃ s', s.sendStep j = .ok s' ∧ After writer events (pre ++ [.send j]) s' ∧
      s'.log = s.log ++ written writer events pre (.send j) := by
  have hcount : List.countP (fun a : ChannelActor W => a.isSend j) (pre ++ [ChannelActor.send j]) =
      pre.countP (·.isSend j) + 1 := by
    simp [List.countP_append, ChannelActor.isSend]
  rcases he : events[j]? with _ | e
  · -- no such call: nothing happens
    have hj : s.senders[j]? = none := by rw [hs.senders_eq, he]; rfl
    refine ⟨s, by simp [sendStep, hj], hs.keep fun _ h => (by rw [he] at h; cases h), ?_⟩
    simp only [written, he]; split <;> simp
  have hj : s.senders[j]? = some ⟨e, phaseAfter writer pre j⟩ := by rw [hs.senders_eq, he]; rfl
  rcases hc : pre.countP (·.isSend j) with _ | _ | c
  · -- the check
    have htw : (pre ++ [ChannelActor.send j]).takeWhile (fun a => !a.isSend j) = pre := by
      rw [List.takeWhile_append_of_pos fun a ha => by simpa using List.countP_eq_zero.mp hc a ha]
      simp [ChannelActor.isSend]
    refine ⟨_, ?_, hs.set he s.log, by simp [written, hc]⟩
    simp [sendStep, hj, phaseAfter, hcount, hc, checkedBound, htw, hs.eventWriter_eq]
  · by_cases hb : checkedBound writer pre j = true
    · -- the write, to the writer bound since the check
      have hsome := @writerAfter_isSome_append W writer (pre.takeWhile fun a => !a.isSend j)
        (pre.dropWhile fun a => !a.isSend j) (fun h => hpre ((List.dropWhile_suffix _).subset h)) hb
      rw [List.takeWhile_append_dropWhile] at hsome
      obtain ⟨w, hw⟩ := Option.isSome_iff_exists.mp hsome
      refine ⟨_, ?_, hs.set he (s.log ++ [(w, e ++ "\n")]), by simp [written, hc, hb, hw, he]⟩
      simp [sendStep, hj, phaseAfter, hcount, hc, hb, hs.eventWriter_eq, hw]
    · -- the check found no writer
      exact ⟨s, by simp [sendStep, hj, phaseAfter, hc, hb],
        hs.keep fun _ _ => by simp [phaseAfter, hcount, hc, hb], by simp [written, hc, hb]⟩
  · -- a call that has returned
    exact ⟨s, by simp [sendStep, hj, phaseAfter, hc],
      hs.keep fun _ _ => by simp [phaseAfter, hcount, hc], by simp [written, hc]⟩

end Steps

/-- Without an `unbind`, every run goes on from where the steps `pre` left the channel, and
writes what its steps are to write. -/
theorem After.run {writer : Option W} {events : List String} :
    ∀ {pre sched : List (ChannelActor W)} {s : ChannelState W}, After writer events pre s →
      ChannelActor.unbind ∉ pre → ChannelActor.unbind ∉ sched →
      ∃ s', s.run sched = .ok s' ∧ s'.log = s.log ++ eventLogFrom writer events pre sched
  | _, [], s, _, _, _ => ⟨s, rfl, by simp [eventLogFrom]⟩
  | pre, a :: sched, s, hs, hpre, hsched => by
    have hpre' : ChannelActor.unbind ∉ pre ++ [a] := by
      simpa [not_or, eq_comm] using ⟨hpre, fun h => hsched (h ▸ List.mem_cons_self _ _)⟩
    obtain ⟨s₁, h₁, hs₁, hlog₁⟩ : ∃ s₁, s.step a = .ok s₁ ∧ After writer events (pre ++ [a]) s₁ ∧
        s₁.log = s.log ++ written writer events pre a := by
      cases a with
      | send j => exact hs.send hpre j
      | bindWriter w => exact ⟨_, rfl, hs.bindWriter w, by simp [written]⟩
      | unbind => exact absurd (List.mem_cons_self _ _) hsched
    obtain ⟨s₂, h₂, hlog₂⟩ := hs₁.run hpre' fun h => hsched (List.mem_cons_of_mem a h)
    refine ⟨s₂, ?_, by rw [hlog₂, hlog₁, eventLogFrom, List.append_assoc]⟩
    simp only [ChannelState.run, List.foldlM_cons, h₁, except_ok_bind] at h₂ ⊢
    exact h₂

/-- In every interleaving of sends and `bind_writer`s without an `unbind`, no send panics,
and the log is what the sends are to write: each call writes its event and a newline,
whole and once, at its second step, to the writer bound then, if a writer was bound at its
check; a call whose check found no writer writes nothing. -/
theorem send_events_ok_without_unbind (writer : Option W) (events : List String)
    (sched : List (ChannelActor W)) (h : ChannelActor.unbind ∉ sched) :
    ∃ s', (init writer events).run sched = .ok s' ∧ s'.log = eventLog writer events sched :=
  let ⟨s', hrun, hlog⟩ := (after_init writer events).run (List.not_mem_nil _) h
  ⟨s', hrun, hlog⟩

/-- `send_events_ok_without_unbind` on two sends: writer 0 is bound at the first check and
writer 1 is bound before either writes. -/
theorem send_events_ok_without_unbind_rebind :
    ChannelActor.unbind ∉ [.send 0, .bindWriter 1, .send 1, .send 0, .send 1] ∧
      ∃ s', (init (some 0) ["a", "b"]).run [.send 0, .bindWriter 1, .send 1, .send 0, .send 1] = .ok s' ∧
        s'.log = eventLog (some 0) ["a", "b"] [.send 0, .bindWriter 1, .send 1, .send 0, .send 1] :=
  ⟨by decide, send_events_ok_without_unbind _ _ _ (by decide)⟩

/-- Both lines go to writer 1, the writer bound at their writes. -/
example : eventLog (some 0) ["a", "b"] [.send 0, .bindWriter 1, .send 1, .send 0, .send 1] =
    [(1, "a\n"), (1, "b\n")] := by decide

end ChannelState

/-! ## Timestamps

Each event carries a `TimeStamp` that `create_timestamp` computes from
`SystemTime::now().duration_since(UNIX_EPOCH)`: its seconds, and the nanoseconds beyond
them divided down to microseconds, both through `u128`. -/

/-- `std::time::Duration`: whole seconds, and nanoseconds below one second. -/
structure Duration where
  secs : UInt64
  nanos : Nat
  nanos_lt : nanos < 1000000000

/-- `Duration::as_nanos`. -/
def Duration.asNanos (d : Duration) : Nat := d.secs.toNat * 1000000000 + d.nanos

/-- `TimeStamp`. -/
structure TimeStamp where
  seconds : UInt64
  microseconds : UInt64
deriving DecidableEq, Repr

/-- `create_timestamp`, from the time since the epoch. -/
def createTimestamp (sinceTheEpoch : Duration) : TimeStamp :=
  let seconds : Nat := sinceTheEpoch.secs.toNat
  let microseconds : Nat := (sinceTheEpoch.asNanos - seconds * 1000000000) / 1000
  { seconds := seconds.toUInt64, microseconds := microseconds.toUInt64 }

/-- The timestamp of every instant after the epoch is its whole seconds and the
microseconds beyond them, fewer than a million: the `u128` subtraction leaves exactly the
nanoseconds below a second, and neither `as u64` cuts anything. -/
theorem createTimestamp_spec (d : Duration) :
    (createTimestamp d).seconds = d.secs ∧
      (createTimestamp d).microseconds.toNat = d.nanos / 1000 ∧
      (createTimestamp d).microseconds.toNat < 1000000 := by
  have hsub : d.asNanos - d.secs.toNat * 1000000000 = d.nanos := by
    simp only [Duration.asNanos]; omega
  have hmicro : (createTimestamp d).microseconds.toNat = d.nanos / 1000 := by
    show (Nat.toUInt64 ((d.asNanos - d.secs.toNat * 1000000000) / 1000)).toNat = _
    rw [hsub]
    exact UInt64.toNat_ofNat_of_lt (by have := d.nanos_lt; simp only [UInt64.size]; omega)
  exact ⟨UInt64.toNat.inj (UInt64.toNat_ofNat_of_lt d.secs.toNat_lt_size), hmicro,
    by have := d.nanos_lt; omega⟩

end Qmp

end StratoVirt
