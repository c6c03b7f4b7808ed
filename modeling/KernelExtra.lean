import KernelExtra.Sched.Boost
import KernelExtra.Sched.Walt.DemandSums
import KernelExtra.Sched.Walt.WindowSplit
import KernelExtra.Sched.Walt.Conservation
import KernelExtra.Sched.Walt.TopIndex
import KernelExtra.Sched.Walt.Rollover
import KernelExtra.Slimbus.UsedSlots
import KernelExtra.Slimbus.Collision
import KernelExtra.Slimbus.Rates
import KernelExtra.Kgsl.GpuaddrRuns
import KernelExtra.Kgsl.DispatchOrder
import KernelExtra.Kgsl.Events
import KernelExtra.Kgsl.TimelineFences
import KernelExtra.Kgsl.TimelineRefs
import KernelExtra.Kgsl.Hfi
import KernelExtra.Kgsl.Ringbuffer
import KernelExtra.Mhi.Rsc
import KernelExtra.Qrtr.Books
import KernelExtra.Qrtr.Woken
import KernelExtra.Qrtr.HavenPeer
import KernelExtra.Qrtr.HavenStream
import KernelExtra.Qrtr.NsIsolation
import KernelExtra.Qrtr.NsObservers
import KernelExtra.Haven.RmMemory
import KernelExtra.Haven.RmNotif
import KernelExtra.Hab.Stream
import KernelExtra.Hab.RecvMemory
import KernelExtra.Hab.Export
import KernelExtra.Hab.Warehouse
import KernelExtra.Hab.Handshake
import KernelExtra.Hab.Accounts
import KernelExtra.Glink.IntentReq
import KernelExtra.Sps.Pipe
import KernelExtra.Fastrpc.Contexts
import KernelExtra.Fastrpc.Overlap
import KernelExtra.Synx.Bind
import KernelExtra.Cvp.Persist
import KernelExtra.Cvp.Queue
import KernelExtra.Spcom.Rx
import KernelExtra.Usb.ExtMsg
import KernelExtra.Qseecom.Modfd
