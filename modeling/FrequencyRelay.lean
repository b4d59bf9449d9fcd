import FrequencyRelay.Core.Runs
import FrequencyRelay.Core.BitMasks
import FrequencyRelay.Core.PriorityShedding
import FrequencyRelay.Core.OneShotTimer
import FrequencyRelay.Core.LockPrograms
import FrequencyRelay.Relay.LoadScan
import FrequencyRelay.Relay.PushButton
import FrequencyRelay.A1m.Model
import FrequencyRelay.A1m.PriorityOrder
import FrequencyRelay.A1m.WakeUp
import FrequencyRelay.A1m.RateLimit
import FrequencyRelay.HelloWorld.Locks
import FrequencyRelay.HelloWorld.Model
import FrequencyRelay.HelloWorld.Maintenance
import FrequencyRelay.HelloWorld.TimerService
import FrequencyRelay.HelloWorld.Recovery
import FrequencyRelay.HelloWorld.UnstableGrid
import FrequencyRelay.HelloWorld.Episodes
import FrequencyRelay.Relay.PriorityCounter
import FrequencyRelay.HelloWorld.PriorityCounter
import FrequencyRelay.HelloWorld.Reconnection
import FrequencyRelay.HelloWorld.Switches
import FrequencyRelay.A1m.Presses
import FrequencyRelay.Core.RingBuffers
import FrequencyRelay.Relay.FrequencyHistory
import FrequencyRelay.Core.Truncation
import FrequencyRelay.Draw.Model
import FrequencyRelay.Draw.HistorySlots
import FrequencyRelay.Draw.PlotArea
import FrequencyRelay.HelloWorld.Divisors
import FrequencyRelay.HelloWorld.Verdict
import FrequencyRelay.Core.Doubles
import FrequencyRelay.HelloWorld.Transport
import FrequencyRelay.Core.Delivery
import FrequencyRelay.HelloWorld.Outputs
import FrequencyRelay.HelloWorld.Display
import FrequencyRelay.Core.SortedInsertion
import FrequencyRelay.Core.WrappedTime
import FrequencyRelay.Kernel.Ticks
import FrequencyRelay.Kernel.Timers
import FrequencyRelay.Kernel.TrueTimes
import FrequencyRelay.Kernel.TimerSteps
import FrequencyRelay.Kernel.TimerLinks
import FrequencyRelay.Kernel.Punctuality
import FrequencyRelay.Kernel.TimerSchedule
import FrequencyRelay.Kernel.OneShotService
import FrequencyRelay.Kernel.CatchUp
import FrequencyRelay.Core.ByteMemory
import FrequencyRelay.Core.BoundedQueue
import FrequencyRelay.Kernel.QueueStorage
import FrequencyRelay.Kernel.Tasks
import FrequencyRelay.Kernel.Queues
import FrequencyRelay.Kernel.TaskSteps
import FrequencyRelay.Kernel.QueueSteps
import FrequencyRelay.Kernel.QueueLocks
import FrequencyRelay.Kernel.QueueContents
import FrequencyRelay.Kernel.EventLists
import FrequencyRelay.Kernel.WakeUps
import FrequencyRelay.Kernel.WakeUpOrder
import FrequencyRelay.Kernel.Delays
import FrequencyRelay.Kernel.TimeOuts
import FrequencyRelay.Kernel.TrueTicks
