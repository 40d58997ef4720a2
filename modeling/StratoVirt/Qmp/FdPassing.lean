import StratoVirt.Qmp.Response

/-!
# Passing file descriptors to `netdev_add`

`getfd` (`micro_vm/mod.rs`) stores the descriptor that came with the command under the
client's name, with `QmpChannel::set_fd` (`machine_manager/src/qmp/mod.rs`).  `netdev_add`
reads its `fds` argument as names separated by `:`, keeps the last one, looks it up with
`QmpChannel::get_fd`, and failing that parses it as a descriptor number.

A name without `:` is found again: after `getfd(n, Some(f))` and any `set_fd` of other
names, `netdev_add` with `fds = n` builds a config whose `tap_fd` is `f`.  A name with `:`
is never looked up, since the piece `netdev_add` looks up holds no `:`: the descriptor
stored under it changes nothing (`netdev_add_after_getfd`), and `"tap:0"` gives
descriptor 0.

## What is transcribed and what is ours

* `set_fd`, `get_fd`, `getfd` and `netdev_add` are transcribed.  The table is the map a
  `BTreeMap<String, RawFd>` is: the last `set_fd` of a name wins.  A `RawFd` is an `i32`,
  here an integer.
* `str::parse::<i32>` is modelled after its documentation: an optional `+` or `-`, at
  least one decimal digit, and a value in range.
* `NetworkInterfaceConfig` lives in `machine_manager::config`, which is not in the source.
  It has the fields `netdev_add` sets; `mac`, `vhost_type` and `vhost_fd`, which it leaves
  `None`, are left out.  The bus's `add_replaceable_config` is not in the source either:
  it is a parameter of `netdevAdd`.
-/

namespace StratoVirt

namespace Qmp

/-! ## The table of named descriptors -/

/-- `QmpChannel`'s table `fds`, from a name to the descriptor stored under it. -/
abbrev Fds := String → Option Int

/-- The empty table `QmpChannel::object_init` creates. -/
def Fds.empty : Fds := fun _ => none

/-- `QmpChannel::set_fd`: insert, replacing what the name held. -/
def setFd (table : Fds) (name : String) (fd : Int) : Fds :=
  fun k => if k = name then some fd else table k

/-- `QmpChannel::get_fd`. -/
def getFd (table : Fds) (name : String) : Option Int := table name

/-- `set_fd` calls one after the other. -/
def setFds (table : Fds) (calls : List (String × Int)) : Fds :=
  calls.foldl (fun t c => setFd t c.1 c.2) table

@[simp] theorem setFds_nil (table : Fds) : setFds table [] = table := rfl

@[simp] theorem setFds_cons (table : Fds) (c : String × Int) (calls : List (String × Int)) :
    setFds table (c :: calls) = setFds (setFd table c.1 c.2) calls := rfl

@[simp] theorem getFd_setFd_self (table : Fds) (name : String) (fd : Int) :
    getFd (setFd table name fd) name = some fd := if_pos rfl

theorem getFd_setFd_ne {table : Fds} {name k : String} (fd : Int) (h : k ≠ name) :
    getFd (setFd table name fd) k = getFd table k := if_neg h

/-- `set_fd` calls that all name other names leave `k` as it was. -/
theorem getFd_setFds_of_ne {k : String} :
    ∀ {calls : List (String × Int)} (table : Fds), (∀ c ∈ calls, c.1 ≠ k) →
      getFd (setFds table calls) k = getFd table k
  | [], _, _ => rfl
  | c :: calls, table, h => by
    rw [setFds_cons, getFd_setFds_of_ne _ fun c' hc' => h c' (List.mem_cons_of_mem c hc'),
      getFd_setFd_ne _ (h c (List.mem_cons_self c calls)).symm]

/-- What the same `set_fd` calls make of `k` depends only on what `k` held before. -/
theorem getFd_setFds_congr {k : String} :
    ∀ {calls : List (String × Int)} {table table' : Fds}, getFd table k = getFd table' k →
      getFd (setFds table calls) k = getFd (setFds table' calls) k
  | [], _, _, h => h
  | c :: _, table, table', h => by
    rw [setFds_cons, setFds_cons]
    refine getFd_setFds_congr ?_
    by_cases hk : k = c.1
    · subst hk; simp only [getFd_setFd_self]
    · rw [getFd_setFd_ne _ hk, getFd_setFd_ne _ hk, h]

/-! ## `getfd` -/

/-- `LightMachine::getfd`: store the descriptor that came with the command under its name,
or answer an error when none came. -/
def getfd (fdName : String) (ifFd : Option Int) : StateT Fds (Except Panic) Response :=
  match ifFd with
  | some fd => do
    modify fun table => setFd table fdName fd
    pure Response.createEmptyResponse
  | none =>
    StateT.lift (Response.createErrorResponse (.genericError "Invalid SCM message") none)

/-! ## `netdev_add` -/

/-- `NetworkInterfaceConfig`, with the fields `netdev_add` sets. -/
structure NetworkInterfaceConfig where
  ifaceId : String
  hostDevName : String
  tapFd : Option Int
deriving DecidableEq, Repr

/-- `s.parse::<i32>()`: an optional sign, then one decimal digit or more, in range. -/
def parseI32 (s : String) : Option Int :=
  let (neg, digits) : Bool × List Char :=
    match s.data with
    | c :: r => if c = '+' then (false, r) else if c = '-' then (true, r) else (false, c :: r)
    | [] => (false, [])
  if digits ≠ [] ∧ digits.all Json.isDigitChar = true then
    let n : Int := (digits.foldl Json.digitStep 0 : Nat)
    let v := if neg then -n else n
    if -2 ^ 31 ≤ v ∧ v < 2 ^ 31 then some v else none
  else none

/-- The name `netdev_add` looks up: the last of the pieces `fds.split(':')` cuts, at
`col[col.len() - 1]`, which exists since `split` gives one piece at least. -/
def netdevFd (fds : String) : String :=
  if ':' ∈ fds.data then
    let col := fds.data.splitOn ':'
    String.mk (col.getLast (List.splitOnP_ne_nil _ _))
  else fds

/-- The config `netdev_add` builds and hands to the bus, or `none` where it returns `false`
before: the name is in no `set_fd` and is no number. -/
def netdevConfig (table : Fds) (id : String) (ifName fds : Option String) :
    Option NetworkInterfaceConfig :=
  let config : NetworkInterfaceConfig := { ifaceId := id, hostDevName := "", tapFd := none }
  match fds with
  | some fds =>
    match getFd table (netdevFd fds) with
    | some fdNum => some { config with tapFd := some fdNum }
    | none => (parseI32 (netdevFd fds)).map fun fdNum => { config with tapFd := some fdNum }
  | none =>
    match ifName with
    | some ifName => some { config with hostDevName := ifName }
    | none => some config

/-- `LightMachine::netdev_add`: the config goes to `self.bus.add_replaceable_config`. -/
def netdevAdd (addReplaceableConfig : String → NetworkInterfaceConfig → Bool) (table : Fds)
    (id : String) (ifName fds : Option String) : Bool :=
  match netdevConfig table id ifName fds with
  | some config => addReplaceableConfig id config
  | none => false

/-! ## The name looked up -/

/-- No piece that `split(':')` cuts holds a `:`. -/
theorem colon_not_mem_of_mem_splitOn :
    ∀ {l piece : List Char}, piece ∈ l.splitOn ':' → ':' ∉ piece
  | [], piece, h => by
    rw [List.splitOn, List.splitOnP_nil, List.mem_singleton] at h
    exact h ▸ List.not_mem_nil _
  | x :: l, piece, h => by
    rw [List.splitOn, List.splitOnP_cons] at h
    have ih : ∀ p ∈ l.splitOnP (· == ':'), ':' ∉ p := fun p hp => colon_not_mem_of_mem_splitOn hp
    split at h
    · rcases List.mem_cons.mp h with rfl | h
      · exact List.not_mem_nil _
      · exact ih _ h
    · rename_i hx
      obtain ⟨hd, tl, hsplit⟩ := List.exists_cons_of_ne_nil (List.splitOnP_ne_nil (· == ':') l)
      rw [hsplit, List.modifyHead_cons] at h
      rcases List.mem_cons.mp h with rfl | h
      · have hhd := ih hd (hsplit ▸ List.mem_cons_self hd tl)
        rintro (_ | ⟨_, h'⟩)
        · exact hx (by simp)
        · exact hhd h'
      · exact ih _ (hsplit ▸ List.mem_cons_of_mem hd h)

/-- The name `netdev_add` looks up holds no `:`. -/
theorem colon_not_mem_netdevFd (fds : String) : ':' ∉ (netdevFd fds).data := by
  unfold netdevFd
  split
  · exact colon_not_mem_of_mem_splitOn (List.getLast_mem _)
  · assumption

theorem netdevFd_of_colon_not_mem {fds : String} (h : ':' ∉ fds.data) : netdevFd fds = fds :=
  if_neg h

/-- `netdev_add` reads the table only at the name it looks up. -/
theorem netdevConfig_congr {table table' : Fds} {fds : String}
    (h : getFd table (netdevFd fds) = getFd table' (netdevFd fds)) (id : String)
    (ifName : Option String) :
    netdevConfig table id ifName (some fds) = netdevConfig table' id ifName (some fds) := by
  simp only [netdevConfig, h]

theorem netdevConfig_of_getFd {table : Fds} {fds : String} {fd : Int}
    (h : getFd table (netdevFd fds) = some fd) (id : String) (ifName : Option String) :
    netdevConfig table id ifName (some fds) = some { ifaceId := id, hostDevName := "", tapFd := some fd } := by
  simp only [netdevConfig, h]

/-! ## A stored descriptor, consumed -/

/-- `getfd(n, Some(f))` stores `f` under `n`.  After it and any `set_fd` of other names,
`netdev_add` with `fds = n` builds a config whose `tap_fd` is `f` when `n` holds no `:`;
when `n` holds a `:`, the descriptor stored under `n` changes nothing `netdev_add` does. -/
theorem netdev_add_after_getfd (table : Fds) (n : String) (f : Int)
    (later : List (String × Int)) (hlater : ∀ c ∈ later, c.1 ≠ n) (id : String)
    (ifName : Option String) :
    (getfd n (some f)).run table = .ok (Response.createEmptyResponse, setFd table n f) ∧
      (':' ∉ n.data →
        (netdevConfig (setFds (setFd table n f) later) id ifName (some n)).map
          NetworkInterfaceConfig.tapFd = some (some f)) ∧
      (':' ∈ n.data →
        netdevConfig (setFds (setFd table n f) later) id ifName (some n) =
          netdevConfig (setFds table later) id ifName (some n)) := by
  refine ⟨rfl, fun hn => ?_, fun hn => netdevConfig_congr (getFd_setFds_congr ?_) id ifName⟩
  · have hget : getFd (setFds (setFd table n f) later) (netdevFd n) = some f := by
      rw [netdevFd_of_colon_not_mem hn, getFd_setFds_of_ne _ hlater, getFd_setFd_self]
    rw [netdevConfig_of_getFd hget]
    rfl
  · -- the name looked up holds no `:`, so it is not `n`
    refine getFd_setFd_ne _ fun heq => colon_not_mem_netdevFd n ?_
    rw [heq]
    exact hn

/-- `netdev_add_after_getfd` at the name `"tap0"` with descriptor 5, stored in an empty
table: `netdev_add` builds a config with `tap_fd = Some(5)`. -/
theorem netdev_add_after_getfd_tap :
    (∀ c ∈ ([] : List (String × Int)), c.1 ≠ "tap0") ∧ ':' ∉ "tap0".data ∧
      (netdevConfig (setFds (setFd Fds.empty "tap0" 5) []) "net0" none (some "tap0")).map
        NetworkInterfaceConfig.tapFd = some (some 5) :=
  ⟨fun _ h => absurd h (List.not_mem_nil _), by decide,
    (netdev_add_after_getfd Fds.empty "tap0" 5 [] (fun _ h => absurd h (List.not_mem_nil _))
      "net0" none).2.1 (by decide)⟩

/-- The descriptor `getfd` stores under `"tap:0"` is not the one `netdev_add` with
`fds = "tap:0"` passes on: it looks up `"0"`, finds nothing, and parses it as descriptor
0. -/
theorem netdev_add_after_getfd_tap0 :
    (getfd "tap:0" (some 5)).run Fds.empty =
        .ok (Response.createEmptyResponse, setFd Fds.empty "tap:0" 5) ∧
      netdevConfig (setFd Fds.empty "tap:0" 5) "net0" none (some "tap:0") =
        some { ifaceId := "net0", hostDevName := "", tapFd := some 0 } :=
  ⟨rfl, by decide⟩

end Qmp

end StratoVirt
