import SiDaqApi.Lib.MachineInt
import SiDaqApi.Lib.Segment
import SiDaqApi.Lib.Machine
import SiDaqApi.Lib.Refinement
import SiDaqApi.Lib.Progress
import SiDaqApi.Lib.Atomic
import SiDaqApi.Lib.Linked
import SiDaqApi.Lib.ByteMemory
import SiDaqApi.Lib.BigEndian
import SiDaqApi.Framer.Basic
import SiDaqApi.Framer.Phases
import SiDaqApi.Framer.Effects
import SiDaqApi.Framer.Overwrites
import SiDaqApi.Framer.Walk
import SiDaqApi.Framer.Limits
import SiDaqApi.Framer.Interleaved
import SiDaqApi.Framer.Steady
import SiDaqApi.Framer.Conserve
import SiDaqApi.Framer.Stream
import SiDaqApi.Framer.Reads
import SiDaqApi.Framer.Loss
import SiDaqApi.Framer.Bounds
import SiDaqApi.Framer.Greedy
import SiDaqApi.Framer.Valid
import SiDaqApi.Framer.Raw
import SiDaqApi.Framer.Fixed
import SiDaqApi.Framer.Progress
import SiDaqApi.Framer.AtLimit
import SiDaqApi.Framer.Fallback
import SiDaqApi.Rbcp.Client
import SiDaqApi.Rbcp.Network
import SiDaqApi.Rbcp.Memory
import SiDaqApi.Rbcp.Lifetime
import SiDaqApi.Rbcp.Atomic
import SiDaqApi.Samples.LengthFuncs
import SiDaqApi.Squeue.Basic
import SiDaqApi.Squeue.Fifo
import SiDaqApi.Squeue.Drain
import SiDaqApi.Squeue.Atomic
import SiDaqApi.Squeue.Progress
import SiDaqApi.Manager.State
import SiDaqApi.Manager.Step
import SiDaqApi.Manager.Threads
import SiDaqApi.Manager.Terminate
import SiDaqApi.Manager.Handles
import SiDaqApi.Manager.Sockets
import SiDaqApi.Manager.Starts
import SiDaqApi.Manager.Limits
import SiDaqApi.Manager.Moves
import SiDaqApi.Manager.Measure
import SiDaqApi.Manager.Flow
import SiDaqApi.Manager.Drain
import SiDaqApi.Manager.Reset
import SiDaqApi.Manager.Initialize
import SiDaqApi.Manager.Winsock
import SiDaqApi.Manager.FirstError
import SiDaqApi.Manager.Frames
import SiDaqApi.Manager.Measurements
import SiDaqApi.Manager.Lifetime
import SiDaqApi.Samples.EndToEnd
import SiDaqApi.Samples.DataFile
import SiDaqApi.Samples.Receiver
import SiDaqApi.Manager.Shutdown
import SiDaqApi.Manager.Pause
import SiDaqApi.Samples.Pausing
