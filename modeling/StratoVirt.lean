import StratoVirt.Machine.State
import StratoVirt.Machine.Lifecycle
import StratoVirt.Machine.Interleaving
import StratoVirt.Machine.Linearizability
import StratoVirt.Machine.Query
import StratoVirt.Machine.Operations
import StratoVirt.Machine.StartBarrier
import StratoVirt.Machine.Fdt
import StratoVirt.Layout
import StratoVirt.Boot.BootParam
import StratoVirt.Qmp.Json
import StratoVirt.Qmp.Response
import StratoVirt.Qmp.Command
import StratoVirt.Qmp.Channel
import StratoVirt.Qmp.FdPassing
import StratoVirt.Format
import StratoVirt.Machine.Devices
import StratoVirt.Machine.DeviceTree
import StratoVirt.Machine.DeviceTreeBuild
