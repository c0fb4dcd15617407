import Wiznet.CloseRequest
import Wiznet.Scripted
import Wiznet.Calls
import Wiznet.UdpFrames
import Wiznet.Lib.Cyclic
import Wiznet.OneFrame
import Wiznet.RingQueue
import Wiznet.Lib.Threads
import Wiznet.RingFifo
import Wiznet.RingThreads
import Wiznet.Standing
import Wiznet.SlotOwners
import Wiznet.Quiescence
import Wiznet.TerminalSlots
import Wiznet.ConfigRuns
import Wiznet.Batching
import Wiznet.TransferSizes
import Wiznet.UdpProgress
import Wiznet.EchoLoop
import Wiznet.FlushSync
import Wiznet.UdpRuns
import Wiznet.GracefulClose
import Wiznet.TcpEcho
import Wiznet.DatagramRuns
import Wiznet.MessageRuns
import Wiznet.FaultyRuns
import Wiznet.Reconnect
import Wiznet.Preemption
