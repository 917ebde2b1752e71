import SdHost.Bench.Session
import SdHost.Register.Catalogue
import SdHost.Register.Mapped
import SdHost.Proofs.Host.Task
import SdHost.Proofs.Dma.Engine
import SdHost.Proofs.Dma.Table
import SdHost.Proofs.Transfer.DataPort
import SdHost.Proofs.Transfer.Steps
import SdHost.Proofs.Transfer.Pio
import SdHost.Proofs.Host.Invariant
import SdHost.Proofs.Dma.Bounce
import SdHost.Proofs.Transfer.Bounce
import SdHost.Proofs.Transfer.Invariant
import SdHost.Proofs.Host.Storage
import SdHost.Proofs.Regulator.Channel
import SdHost.Proofs.Slot.Invariant
import SdHost.Proofs.Slot.BringUp
import SdHost.Proofs.Slot.Reachable
import SdHost.Proofs.Transfer.DataPhase
import SdHost.Proofs.Transfer.Bounced
import SdHost.Proofs.Request.Completion
import SdHost.Proofs.Slot.InUse
import SdHost.Proofs.Bus.Reset
import SdHost.Proofs.Request.Batching
import SdHost.Proofs.Slot.Enables
import SdHost.Proofs.Slot.DmaFormat
import SdHost.Proofs.Transfer.Length
import SdHost.Proofs.Transfer.Wire
import SdHost.Proofs.Host.Footprint
import SdHost.Proofs.Bus.Footprint
import SdHost.Proofs.Bus.Switch
import SdHost.Proofs.Regulator.Firmware
import SdHost.Proofs.Slot.Step
import SdHost.Proofs.Regulator.Note
import SdHost.Proofs.Regulator.BringUp
import SdHost.Proofs.Host.Keeps
import SdHost.Proofs.Bus.Signaling
import SdHost.Proofs.Dma.Prepare
import SdHost.Proofs.Request.Made
import SdHost.Proofs.Transfer.Refused
import SdHost.Proofs.Transfer.Pages
import SdHost.Proofs.Slot.Bookkeeping
import SdHost.Proofs.Slot.Interrupts
import SdHost.Proofs.Host.Along
import SdHost.Proofs.Host.Block
import SdHost.Proofs.Slot.Signalling
import SdHost.Proofs.Slot.FailedBringUp
import SdHost.Proofs.Slot.ErrorInterrupts
import SdHost.Proofs.Bus.Settings
import SdHost.Proofs.Request.Failure
import SdHost.Proofs.Dma.Reach
import SdHost.Proofs.Transfer.TablePointer
import SdHost.Proofs.Slot.Advertised
import SdHost.Proofs.Bus.Clock
import SdHost.Proofs.Transfer.StopCommand
import SdHost.Proofs.Host.Order
import SdHost.Proofs.Regulator.Call
import SdHost.Proofs.Bus.Sequence
import SdHost.Proofs.Host.Polling
import SdHost.Proofs.Host.Values
import SdHost.Proofs.Regulator.Span
import SdHost.Proofs.Bus.ClockArithmetic
import SdHost.Proofs.Bus.ClockSequence
import SdHost.Proofs.Bus.Supply
import SdHost.Proofs.Bus.Bounded
import SdHost.Proofs.Slot.CurrentLimits
import SdHost.Proofs.Dma.Writing
import SdHost.Proofs.Dma.Refusal
import SdHost.Proofs.Dma.Arithmetic
import SdHost.Proofs.Regulator.Stream
import SdHost.Proofs.Register.Layout
import SdHost.Proofs.Dma.Codec
import SdHost.Proofs.Regulator.Codec
import SdHost.Proofs.Regulator.Wrapper
