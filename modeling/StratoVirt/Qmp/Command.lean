import StratoVirt.Machine.Lifecycle
import StratoVirt.Qmp.Response

/-!
# Executing a QMP command

`qmp_command_exec` (`machine_manager/src/qmp/mod.rs`) hands a command to the machine
through `MachineExternalInterface`, in two matches: the one `create_command_matches!`
builds for the commands of its table, and a second one for `quit` and `getfd`, which runs
when the first gives no id.  The response is the empty one unless the operation returns a
response of its own, and it takes the command's id.

Every command of the table runs one operation, the one `QmpCommand.run` names for it,
once, whatever its id (`qmpCommandExec_eq_run`): a command of the table without an id goes
on to the second match, which does nothing for it.  The `bool` that `pause`, `resume`,
`device_add`, `device_del`, `blockdev_add` and `netdev_add` return is thrown away, so a
failed operation is answered `{"return":{}}` (`failed_operation_reports_success`).

## What is transcribed and what is ours

* `qmp_command_exec` is transcribed as the code the two macros expand to
  (`commandMatches`, `fallbackMatches`).
* `QmpCommand` lives in `qmp_schema`, which is not in the source.  It is modelled from the
  command table of the spec (§4.5), with the arguments the macros pass on and the types
  of the `LightMachine` methods that take them; the commands of the schema that the table
  does not list are one constructor, `other`.
* The operations of `MachineExternalInterface` are the fields of `Controller`: each is a
  step of an arbitrary machine state that may panic.  `QmpCommand.run` gathers, command by
  command, the operation the two matches call and the response it returns.
* `handle_qmp`, which serves one line of the stream, is transcribed with what
  `SocketHandler::decode_line` hands it (`DecodedLine`) and whether the stream takes what
  `send_str` writes as parameters; `SocketHandler` is not in the source.  The `SHUTDOWN`
  event goes to `QmpChannel::send_event` (`Qmp.Channel`); here it is the data
  `handle_qmp` hands it.  Setting the terminal back to canonical mode is not modelled.
-/

namespace StratoVirt

namespace Qmp

open Json

/-- `device_add`'s arguments, as `LightMachine::device_add` takes them. -/
structure DeviceAddArgument where
  id : String
  driver : String
  addr : Option String
  lun : Option Nat
deriving DecidableEq, Repr

/-- `device_del`'s arguments. -/
structure DeviceDelArgument where
  id : String
deriving DecidableEq, Repr

/-- `schema::FileOptions`, the field `blockdev_add` reads. -/
structure FileOptions where
  filename : String
deriving DecidableEq, Repr

/-- `schema::CacheOptions`, the field `blockdev_add` reads. -/
structure CacheOptions where
  direct : Option Bool
deriving DecidableEq, Repr

/-- `blockdev_add`'s arguments. -/
structure BlockDevAddArgument where
  nodeName : String
  file : FileOptions
  cache : Option CacheOptions
  readOnly : Option Bool
deriving DecidableEq, Repr

/-- `netdev_add`'s arguments. -/
structure NetDevAddArgument where
  id : String
  ifName : Option String
  fds : Option String
deriving DecidableEq, Repr

/-- `getfd`'s arguments. -/
structure GetfdArgument where
  fdName : String
deriving DecidableEq, Repr

/-- Modelled from the spec: `schema::QmpCommand`, the commands of the table of §4.5, each
with its optional id, and `other` for a command of the schema the table does not list. -/
inductive QmpCommand where
  | stop (id : Option UInt32)
  | cont (id : Option UInt32)
  | quit (id : Option UInt32)
  | queryStatus (id : Option UInt32)
  | queryCpus (id : Option UInt32)
  | queryHotpluggableCpus (id : Option UInt32)
  | deviceAdd (arguments : DeviceAddArgument) (id : Option UInt32)
  | deviceDel (arguments : DeviceDelArgument) (id : Option UInt32)
  | blockdevAdd (arguments : BlockDevAddArgument) (id : Option UInt32)
  | netdevAdd (arguments : NetDevAddArgument) (id : Option UInt32)
  | getfd (arguments : GetfdArgument) (id : Option UInt32)
  | other (name : String) (id : Option UInt32)
deriving DecidableEq, Repr

namespace QmpCommand

/-- The id a command carries. -/
def id : QmpCommand → Option UInt32
  | .stop id | .cont id | .quit id | .queryStatus id | .queryCpus id
  | .queryHotpluggableCpus id | .deviceAdd _ id | .deviceDel _ id | .blockdevAdd _ id
  | .netdevAdd _ id | .getfd _ id | .other _ id => id

/-- Whether a command is `quit`. -/
def isQuit : QmpCommand → Bool
  | .quit _ => true
  | _ => false

end QmpCommand

/-- The operations of `MachineExternalInterface` that `qmp_command_exec` calls, each a
step of the machine state `σ` that may panic. -/
structure Controller (σ : Type) where
  pause : StateT σ (Except Panic) Bool
  resume : StateT σ (Except Panic) Bool
  destroy : StateT σ (Except Panic) Bool
  queryStatus : StateT σ (Except Panic) Response
  queryCpus : StateT σ (Except Panic) Response
  queryHotpluggableCpus : StateT σ (Except Panic) Response
  deviceAdd : String → String → Option String → Option Nat → StateT σ (Except Panic) Bool
  deviceDel : String → StateT σ (Except Panic) Bool
  blockdevAdd : String → FileOptions → Option CacheOptions → Option Bool →
    StateT σ (Except Panic) Bool
  netdevAdd : String → Option String → Option String → StateT σ (Except Panic) Bool
  getfd : String → Option Int → StateT σ (Except Panic) Response

variable {σ : Type} (controller : Controller σ)

/-! ## The code -/

/-- The match `create_command_matches!` builds: each command of its table runs its handler
and gives its id, where `qmp_command_match!` stores a returned response; every other
command gives `None`. -/
def commandMatches (qmpResponse : Response) :
    QmpCommand → StateT σ (Except Panic) (Option UInt32 × Response)
  | .stop id => do let _ ← controller.pause; pure (id, qmpResponse)
  | .cont id => do let _ ← controller.resume; pure (id, qmpResponse)
  | .queryStatus id => do let r ← controller.queryStatus; pure (id, r)
  | .queryCpus id => do let r ← controller.queryCpus; pure (id, r)
  | .queryHotpluggableCpus id => do let r ← controller.queryHotpluggableCpus; pure (id, r)
  | .deviceAdd a id => do
    let _ ← controller.deviceAdd a.id a.driver a.addr a.lun
    pure (id, qmpResponse)
  | .deviceDel a id => do let _ ← controller.deviceDel a.id; pure (id, qmpResponse)
  | .blockdevAdd a id => do
    let _ ← controller.blockdevAdd a.nodeName a.file a.cache a.readOnly
    pure (id, qmpResponse)
  | .netdevAdd a id => do let _ ← controller.netdevAdd a.id a.ifName a.fds; pure (id, qmpResponse)
  | _ => pure (none, qmpResponse)

/-- The second match of `qmp_command_exec`, for the commands the macro does not cover: the
id, the response and the shutdown flag. -/
def fallbackMatches (ifFd : Option Int) (qmpResponse : Response) :
    QmpCommand → StateT σ (Except Panic) (Option UInt32 × Response × Bool)
  | .quit id => do let _ ← controller.destroy; pure (id, qmpResponse, true)
  | .getfd a id => do let r ← controller.getfd a.fdName ifFd; pure (id, r, false)
  | _ => pure (none, qmpResponse, false)

/-- `qmp_command_exec`: the response's text and the shutdown flag. -/
def qmpCommandExec (qmpCommand : QmpCommand) (ifFd : Option Int) :
    StateT σ (Except Panic) (String × Bool) := do
  let (id, qmpResponse) ← commandMatches controller Response.createEmptyResponse qmpCommand
  let (id, qmpResponse, shutdownFlag) ←
    if id.isNone then fallbackMatches controller ifFd qmpResponse qmpCommand
    else pure (id, qmpResponse, false)
  pure ((qmpResponse.changeId id).toStr, shutdownFlag)

/-! ## The command table -/

/-- The operation the arms of `create_command_matches!` and of the second match call for each
command, and the response it returns if it returns one; `other` calls none.  These are the
operations of the command table of §4.5. -/
def QmpCommand.run (ifFd : Option Int) : QmpCommand → StateT σ (Except Panic) (Option Response)
  | .stop _ => do let _ ← controller.pause; pure none
  | .cont _ => do let _ ← controller.resume; pure none
  | .quit _ => do let _ ← controller.destroy; pure none
  | .queryStatus _ => some <$> controller.queryStatus
  | .queryCpus _ => some <$> controller.queryCpus
  | .queryHotpluggableCpus _ => some <$> controller.queryHotpluggableCpus
  | .deviceAdd a _ => do let _ ← controller.deviceAdd a.id a.driver a.addr a.lun; pure none
  | .deviceDel a _ => do let _ ← controller.deviceDel a.id; pure none
  | .blockdevAdd a _ => do
    let _ ← controller.blockdevAdd a.nodeName a.file a.cache a.readOnly
    pure none
  | .netdevAdd a _ => do let _ ← controller.netdevAdd a.id a.ifName a.fds; pure none
  | .getfd a _ => some <$> controller.getfd a.fdName ifFd
  | .other _ _ => pure none

/-- Whether the command table lists a command. -/
def QmpCommand.inTable : QmpCommand → Bool
  | .other _ _ => false
  | _ => true

/-- The answer to a command whose operation returned `r`: its response, or the empty one,
with the command's id. -/
def answer (c : QmpCommand) (r : Option Response) : String :=
  ((r.getD Response.createEmptyResponse).changeId c.id).toStr

/-- What `qmp_command_exec` does with any command: the operation the table assigns to it,
and its answer, under no id when the table does not list the command. -/
theorem qmpCommandExec_eq (c : QmpCommand) (ifFd : Option Int) :
    qmpCommandExec controller c ifFd = (fun r => (if c.inTable then answer c r
      else Response.createEmptyResponse.toStr, c.isQuit)) <$> c.run controller ifFd := by
  cases c <;> rename_i i <;> cases i <;>
    simp only [qmpCommandExec, commandMatches, fallbackMatches, QmpCommand.run, answer, QmpCommand.id,
      QmpCommand.isQuit, QmpCommand.inTable, bind_pure_comp, bind_map_left, Functor.map_map, pure_bind,
      map_pure, Option.isNone_none, Option.isNone_some, if_true, if_false, Bool.false_eq_true,
      Option.getD_none, Option.getD_some, Function.comp_def] <;> rfl

/-- For every command of the table, `qmp_command_exec` runs the operation the table assigns
to it, once, and nothing else; it answers with that operation's response, or the empty
one, under the command's id, and sets the shutdown flag exactly for `quit`. -/
theorem qmpCommandExec_eq_run {c : QmpCommand} (hc : c.inTable = true) (ifFd : Option Int) :
    qmpCommandExec controller c ifFd = (fun r => (answer c r, c.isQuit)) <$> c.run controller ifFd := by
  rw [qmpCommandExec_eq]
  simp only [hc, ↓reduceIte]

/-- A command the table does not list runs no operation and is answered with the empty
response under no id, whatever id it carried. -/
theorem unlisted_command_answered_without_id (name : String) (id : Option UInt32)
    (ifFd : Option Int) :
    qmpCommandExec controller (.other name id) ifFd = pure (Response.createEmptyResponse.toStr, false) := by
  cases id <;> rfl

/-! ## Serving one line -/

/-- What `SocketHandler::decode_line` hands `handle_qmp`: no line, a command with the file
descriptor that came with it, or the text of a parse error. -/
inductive DecodedLine where
  | none
  | command (qmpCommand : QmpCommand) (ifFd : Option Int)
  | error (msg : String)
deriving DecidableEq, Repr

/-- `schema::SHUTDOWN`, the data of the event `handle_qmp` sends before it exits. -/
structure Shutdown where
  guest : Bool
  reason : String
deriving DecidableEq, Repr

/-- How `handle_qmp` ends: `Ok(())`, `std::process::exit(1)`, or the error of a failed
`send_str`. -/
inductive HandleEnd where
  | ok
  | exit
  | sendFailed
deriving DecidableEq, Repr

/-- What `handle_qmp` does outside the machine: the texts it sends on the stream, the
event it sends, and how it ends. -/
structure Handled where
  sent : List String
  event : Option Shutdown
  ending : HandleEnd
deriving DecidableEq, Repr

/-- The `SHUTDOWN` event of `quit`. -/
def hostQmpQuit : Shutdown := { guest := false, reason := "host-qmp-quit" }

/-- `handle_qmp`, where `sendOk` says whether the stream takes what `send_str` writes. -/
def handleQmp (sendOk : Bool) : DecodedLine → StateT σ (Except Panic) Handled
  | .none => pure ⟨[], none, .ok⟩
  | .command qmpCommand ifFd => do
    let (returnMsg, shutdownFlag) ← qmpCommandExec controller qmpCommand ifFd
    if !sendOk then return ⟨[], none, .sendFailed⟩
    if shutdownFlag then return ⟨[returnMsg], some hostQmpQuit, .exit⟩
    return ⟨[returnMsg], none, .ok⟩
  | .error msg => do
    let errResp := QmpErrorClass.genericError msg
    let resp ← (Response.createErrorResponse errResp none : Except Panic Response)
    if !sendOk then return ⟨[], none, .sendFailed⟩
    return ⟨[resp.toStr], none, .ok⟩

/-- `handle_qmp` on a command: the command's operation, then its answer, sent or not; the
`SHUTDOWN` event and the exit come only with a sent answer to `quit`. -/
theorem handleQmp_command (sendOk : Bool) (c : QmpCommand) (ifFd : Option Int) :
    handleQmp controller sendOk (.command c ifFd) = c.run controller ifFd >>= fun r =>
      let text := if c.inTable then answer c r else Response.createEmptyResponse.toStr
      pure (if !sendOk then (⟨[], none, .sendFailed⟩ : Handled)
        else if c.isQuit then ⟨[text], some hostQmpQuit, .exit⟩ else ⟨[text], none, .ok⟩) := by
  simp only [handleQmp, qmpCommandExec_eq, bind_map_left]
  refine congrArg (_ >>= ·) (funext fun r => ?_)
  cases sendOk <;> cases c.isQuit <;> rfl

/-! ## Failures -/

/-- The operation of a command that reports its failure by returning `false`. -/
def QmpCommand.reportingOp : QmpCommand → Option (StateT σ (Except Panic) Bool)
  | .stop _ => some controller.pause
  | .cont _ => some controller.resume
  | .deviceAdd a _ => some (controller.deviceAdd a.id a.driver a.addr a.lun)
  | .deviceDel a _ => some (controller.deviceDel a.id)
  | .blockdevAdd a _ => some (controller.blockdevAdd a.nodeName a.file a.cache a.readOnly)
  | .netdevAdd a _ => some (controller.netdevAdd a.id a.ifName a.fds)
  | _ => none

/-- A command whose operation reports failure is answered with the empty response under
its id, whatever the operation returns. -/
theorem qmpCommandExec_of_reportingOp {c : QmpCommand} {op : StateT σ (Except Panic) Bool}
    (hop : c.reportingOp controller = some op) (ifFd : Option Int) :
    qmpCommandExec controller c ifFd =
      (fun _ => ((Response.createEmptyResponse.changeId c.id).toStr, false)) <$> op := by
  cases c <;> simp only [QmpCommand.reportingOp, reduceCtorEq, Option.some.injEq] at hop <;>
    subst hop <;> rename_i i <;> cases i <;>
    simp only [qmpCommandExec, commandMatches, fallbackMatches, QmpCommand.id, bind_pure_comp,
      bind_map_left, map_pure, Option.isNone_none, Option.isNone_some, if_true, if_false,
      Bool.false_eq_true]

/-- When the operation of `stop`, `cont`, `device_add`, `device_del`, `blockdev_add` or
`netdev_add` fails, `qmp_command_exec` still answers with the empty success response
`{"return":{}}` under the command's id, and the shutdown flag is not set. -/
theorem failed_operation_reports_success {c : QmpCommand} {op : StateT σ (Except Panic) Bool}
    (hop : c.reportingOp controller = some op) (ifFd : Option Int) {s s' : σ}
    (hfail : op s = .ok (false, s')) :
    qmpCommandExec controller c ifFd s =
      .ok (((Response.createEmptyResponse.changeId c.id).toStr, false), s') := by
  rw [qmpCommandExec_of_reportingOp controller hop]
  show StateT.run _ s = _
  rw [StateT.run_map, StateT.run, hfail]
  rfl

example : (Response.createEmptyResponse.changeId none).toStr = "\x7b\"return\":\x7b\x7d\x7d" := by
  decide

/-- A controller whose lifecycle operations are `LightMachine`'s, over vCPUs that never
fail; its other operations succeed and change nothing. -/
def lifecycleController : Controller (LightMachine CPU) where
  pause := LightMachine.pause (CPU.ops fun _ => false)
  resume := LightMachine.resume (CPU.ops fun _ => false)
  destroy := LightMachine.destroy (CPU.ops fun _ => false)
  queryStatus := pure Response.createEmptyResponse
  queryCpus := pure Response.createEmptyResponse
  queryHotpluggableCpus := pure Response.createEmptyResponse
  deviceAdd := fun _ _ _ _ => pure true
  deviceDel := fun _ => pure true
  blockdevAdd := fun _ _ _ _ => pure true
  netdevAdd := fun _ _ _ => pure true
  getfd := fun _ _ => pure Response.createEmptyResponse

/-- `failed_operation_reports_success` at `stop` on a machine still in `Created`:
`LightMachine::pause` rejects the transition and returns `false`, and the answer is the
empty success response. -/
theorem stop_on_created_reports_success :
    (QmpCommand.stop none).reportingOp lifecycleController = some lifecycleController.pause ∧
      lifecycleController.pause { runningPair with vmState := .created } =
        .ok (false, { runningPair with vmState := .created }) ∧
      qmpCommandExec lifecycleController (.stop none) none { runningPair with vmState := .created } =
        .ok (((Response.createEmptyResponse.changeId none).toStr, false),
          { runningPair with vmState := .created }) :=
  ⟨rfl, rfl, failed_operation_reports_success lifecycleController (c := .stop none) rfl none rfl⟩

/-- `qmpCommandExec_eq_run` at `stop` with id 0, for `LightMachine`'s lifecycle. -/
theorem qmpCommandExec_eq_run_stop :
    (QmpCommand.stop (some 0)).inTable = true ∧
      qmpCommandExec lifecycleController (.stop (some 0)) none =
        (fun r => (answer (.stop (some 0)) r, false)) <$>
          (QmpCommand.stop (some 0)).run lifecycleController none :=
  ⟨rfl, qmpCommandExec_eq_run lifecycleController (c := .stop (some 0)) rfl none⟩

end Qmp

end StratoVirt
