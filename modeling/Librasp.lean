import Librasp.Common
import Librasp.Foundation.Chain
import Librasp.Foundation.Crc
import Librasp.Foundation.Elems
import Librasp.Foundation.Fields
import Librasp.Foundation.LittleEndian
import Librasp.Foundation.Loop
import Librasp.Foundation.Memory
import Librasp.Foundation.Prog
import Librasp.Foundation.Run
import Librasp.Foundation.Wrapping
import Librasp.Foundation.Attempts
import Librasp.Foundation.Sampling
import Librasp.Foundation.Zoom
import Librasp.Platform
import Librasp.Sched
import Librasp.Clock
import Librasp.Ticks
import Librasp.Spi
import Librasp.Gpio.Driver
import Librasp.Gpio.Pins
import Librasp.Gpio.OpenDrain
import Librasp.Gpio.Events
import Librasp.Gpio.EventStat
import Librasp.Gpio.Pull
import Librasp.Gpio.Poll
import Librasp.Gpio.Export
import Librasp.Gpio.Handle
import Librasp.W1.Netlink
import Librasp.W1.Recv
import Librasp.W1.Reference
import Librasp.W1.Datagram
import Librasp.W1.Message
import Librasp.W1.Builders
import Librasp.W1.Send
import Librasp.W1.Encode
import Librasp.W1.Exec
import Librasp.W1.ExecFrame
import Librasp.W1.Decode
import Librasp.W1.ExecSuccess
import Librasp.W1.Attribution
import Librasp.W1.Replies
import Librasp.W1.ListSearch
import Librasp.W1.Pending
import Librasp.W1.MsgSize
import Librasp.W1.Handles
import Librasp.W1.CmdLoops
import Librasp.W1.Termination
import Librasp.W1.Bounds
import Librasp.W1.Answered
import Librasp.Devices.DsTherm
import Librasp.Devices.Crc8
import Librasp.Devices.Temperature
import Librasp.Devices.Therm
import Librasp.Devices.Scratchpad
import Librasp.Devices.Resolution
import Librasp.Devices.Thermometer
import Librasp.Devices.ThermProbe
import Librasp.Devices.ThermHistory
import Librasp.Devices.ThermNet
import Librasp.Devices.ThermList
import Librasp.Devices.NrfHal
import Librasp.Devices.NrfErrors
import Librasp.Devices.NrfRegs
import Librasp.Devices.NrfPipes
import Librasp.Devices.NrfBuffers
import Librasp.Devices.NrfKeeps
import Librasp.Devices.NrfRadio
import Librasp.Devices.NrfReceive
import Librasp.Devices.NrfIrq
import Librasp.Devices.NrfTransmit
import Librasp.Devices.NrfSteps
import Librasp.Devices.NrfInit
import Librasp.Devices.Probe
import Librasp.Devices.Granted
import Librasp.Devices.Dht
import Librasp.Devices.DhtLoop
import Librasp.Devices.DhtFrame
import Librasp.Devices.DhtProbe
import Librasp.Devices.DhtValues
import Librasp.Devices.DhtTiming
import Librasp.Devices.DhtRetry
import Librasp.Devices.Hcsr04
import Librasp.Devices.ShrPiso
import Librasp.Devices.ShrShift
import Librasp.Devices.Probes
import Librasp.Devices.HcsrLoop
import Librasp.Devices.HcsrAccuracy
import Librasp.Devices.DhtAccuracy
