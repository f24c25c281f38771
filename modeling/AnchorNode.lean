import AnchorNode.Lib.Bytes
import AnchorNode.Lib.Run
import AnchorNode.Lib.Ledger
import AnchorNode.Lib.Observer
import AnchorNode.Lib.Chronicle
import AnchorNode.Lib.Fifo
import AnchorNode.Lib.Ring
import AnchorNode.Lib.Cut
import AnchorNode.Lib.Rounds
import AnchorNode.CanTp.Types
import AnchorNode.CanTp.Frame
import AnchorNode.CanTp.StateFunctions
import AnchorNode.CanTp.Api
import AnchorNode.CanTp.ChannelStep
import AnchorNode.CanTp.Moves
import AnchorNode.CanTp.StatePaths
import AnchorNode.CanTp.CallPaths
import AnchorNode.CanTp.FramePaths
import AnchorNode.CanTp.Locality
import AnchorNode.CanTp.Ownership
import AnchorNode.CanTp.Confirmation
import AnchorNode.CanTp.PendingTable
import AnchorNode.CanTp.Indication
import AnchorNode.CanTp.Observation
import AnchorNode.CanTp.Carried
import AnchorNode.CanTp.Reception
import AnchorNode.CanTp.Sender
import AnchorNode.CanTp.CurrentFrame
import AnchorNode.CanTp.InFlight
import AnchorNode.CanTp.Isolation
import AnchorNode.CanTp.Grants
import AnchorNode.CanTp.FirstFrames
import AnchorNode.CanTp.TableAccess
import AnchorNode.CanTp.Layout
import AnchorNode.CanTp.Pieces
import AnchorNode.CanTp.Pairing
import AnchorNode.CanTp.Elsewhere
import AnchorNode.CanTp.Exchange
import AnchorNode.CanTp.Sending
import AnchorNode.CanTp.Clearing
import AnchorNode.CanTp.Receiving
import AnchorNode.CanTp.Arrivals
import AnchorNode.CanTp.Link
import AnchorNode.CanTp.EndToEnd
import AnchorNode.CanTp.Determinacy
import AnchorNode.CanTp.Revalidation
import AnchorNode.CanTp.BurstQueue
import AnchorNode.AnchorCom.Types
import AnchorNode.AnchorCom.Tx
import AnchorNode.AnchorCom.TxMoves
import AnchorNode.AnchorCom.TxPaths
import AnchorNode.AnchorCom.TxRuns
import AnchorNode.AnchorCom.Occupancy
import AnchorNode.AnchorCom.Bounds
import AnchorNode.AnchorCom.Progress
import AnchorNode.AnchorCom.Rx
import AnchorNode.AnchorCom.RxMoves
import AnchorNode.AnchorCom.RxRuns
import AnchorNode.AnchorCom.RxBuffers
import AnchorNode.Imc.Tp
import AnchorNode.Imc.Session
import AnchorNode.Imc.Reception
import AnchorNode.Imc.Confirmation
import AnchorNode.Imc.RoundTrip
import AnchorNode.AnchorCom.RxTexts
import AnchorNode.AnchorCom.Delivery
import AnchorNode.AnchorCom.Secured
import AnchorNode.AnchorCom.Broadcast
import AnchorNode.AnchorCom.Handover
import AnchorNode.AnchorCom.Acceptance
import AnchorNode.AnchorCom.RoundTrip
import AnchorNode.AnchorCom.Windows
import AnchorNode.AnchorCom.Composition
import AnchorNode.AnchorCom.Encryptions
import AnchorNode.AnchorCom.Transmission
import AnchorNode.AnchorCom.BufferChanges
import AnchorNode.AnchorCom.Slices
import AnchorNode.AnchorCom.Preservation
import AnchorNode.AnchorCom.Genuine
import AnchorNode.AnchorCom.Crediting
import AnchorNode.AnchorCom.Retirement
import AnchorNode.AnchorCom.Refusal
import AnchorNode.AnchorCom.Admission
import AnchorNode.AnchorCom.Lengths
import AnchorNode.Lib.Timer
import AnchorNode.CanNm.Nm
import AnchorNode.CanNm.Invariant
import AnchorNode.CanNm.WakeUp
import AnchorNode.CanNm.Immediate
import AnchorNode.Qemu.Spi
import AnchorNode.Qemu.Assembly
import AnchorNode.Qemu.Overrun
import AnchorNode.Qemu.Migration
import AnchorNode.Lib.Segments
import AnchorNode.XlDriver.ListenUart
import AnchorNode.XlDriver.Messages
import AnchorNode.XlDriver.Segments
import AnchorNode.XlDriver.Agreement
import AnchorNode.Uds.Core
import AnchorNode.Uds.Control
import AnchorNode.Uds.Interference
import AnchorNode.Uds.Responses
import AnchorNode.Uds.Checked
import AnchorNode.Uds.Delayed
import AnchorNode.CanIf.Interface
import AnchorNode.CanIf.Accounts
import AnchorNode.CanIf.Sent
import AnchorNode.CanIf.Lossless
import AnchorNode.Lib.Protothread
import AnchorNode.CanSpi.Cyclic
import AnchorNode.CanSpi.Quiet
import AnchorNode.CanSpi.Ready
import AnchorNode.CanSpi.Sleep
import AnchorNode.CanSpi.Requests
import AnchorNode.Lib.Dialogue
import AnchorNode.Lib.Fields
import AnchorNode.Lib.Inbox
import AnchorNode.Lib.Window
import AnchorNode.CanDrv.Types
import AnchorNode.CanDrv.Frame
import AnchorNode.CanDrv.Driver
import AnchorNode.CanDrv.Msb
import AnchorNode.CanDrv.Handlers
import AnchorNode.CanDrv.Controller
import AnchorNode.CanDrv.System
import AnchorNode.CanDrv.Layout
import AnchorNode.CanDrv.Elements
import AnchorNode.CanDrv.Terms
import AnchorNode.CanDrv.Access
import AnchorNode.CanDrv.Writing
import AnchorNode.CanDrv.Draining
import AnchorNode.CanDrv.Confirming
import AnchorNode.CanDrv.Indicating
import AnchorNode.CanDrv.Buffers
import AnchorNode.CanDrv.Service
import AnchorNode.CanDrv.Moves
import AnchorNode.CanDrv.Ram
import AnchorNode.CanDrv.RamContract
import AnchorNode.CanDrv.Delivery
import AnchorNode.CanDrv.RoundTrip
import AnchorNode.Lib.Typestate
import AnchorNode.CanDrv.Course
import AnchorNode.CanDrv.Contexts
import AnchorNode.CanDrv.Mutex
