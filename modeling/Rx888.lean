import Rx888.Device.ClockGuard
import Rx888.Device.Standby
import Rx888.Device.StartGate
import Rx888.Device.Typestate
import Rx888.Watchdog.Ep0Clock
import Rx888.Watchdog.Ep0Remedy
import Rx888.Watchdog.Escalation
import Rx888.Watchdog.StopRace
import Rx888.Watchdog.Ep0Race
import Rx888.Watchdog.Progress
import Rx888.CallProgram.Budget
import Rx888.Calls.Kind
import Rx888.Ep0.Stats
import Rx888.Ep0.Discipline
import Rx888.Console.Poll
import Rx888.Ep0.Reply
import Rx888.CallProgram.Couple
import Rx888.Ep0.Stale
import Rx888.Device.BootCount
import Rx888.Device.FailedStart
import Rx888.Device.Lifecycle
import Rx888.Watchdog.Teardown
import Rx888.Console.Fifo
import Rx888.Console.EventDelivery
import Rx888.Console.Dispatch
import Rx888.Watchdog.Windowed
import Rx888.Watchdog.Petting
import Rx888.Clock.FailedRetune
import Rx888.Console.Line
import Rx888.Console.Expansion
import Rx888.SerialBus.Chip
import Rx888.FrontEnd.Waveform
import Rx888.FrontEnd.Steps
import Rx888.FrontEnd.SerialLines
import Rx888.FrontEnd.Readback
import Rx888.LineMap.Blocks
import Rx888.BufferHeap.Placement
import Rx888.BufferHeap.Bytes
import Rx888.Device.SampleClock
import Rx888.BootImage.Meaning
import Rx888.Device.HostBus
import Rx888.Device.Faults
import Rx888.Gpif.SampleStream
import Rx888.Gpif.SoftStop
