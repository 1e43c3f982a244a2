import DiceHost.Library.Edit
import DiceHost.Main
import DiceHost.Proofs.AdvertisedName
import DiceHost.Proofs.Color
import DiceHost.Proofs.DataSet.Distinction
import DiceHost.Proofs.DataSet.HostActions
import DiceHost.Proofs.DataSet.Invalidation
import DiceHost.Proofs.DataSet.Order
import DiceHost.Proofs.DataSet.Quantization
import DiceHost.Proofs.DataSet.Renaming
import DiceHost.Proofs.DataSet.Reserved
import DiceHost.Proofs.Faces
import DiceHost.Proofs.Library.Handles
import DiceHost.Proofs.Library.Persistence
import DiceHost.Proofs.Link.Bench
import DiceHost.Proofs.Link.Codec
import DiceHost.Proofs.Link.Conversation
import DiceHost.Proofs.Link.Delivery
import DiceHost.Proofs.Link.Fifo
import DiceHost.Proofs.Link.Progress
import DiceHost.Proofs.PairingStore.History
import DiceHost.Proofs.Scheduler.Cancellation
import DiceHost.Proofs.Scheduler.Confirmation
import DiceHost.Proofs.Scheduler.Delay
import DiceHost.Proofs.Scheduler.GivingUp
import DiceHost.Proofs.Scheduler.Interruption
import DiceHost.Proofs.Scheduler.Reservation
import DiceHost.Proofs.Scheduler.Slots
import DiceHost.Proofs.Scheduler.Truthful
import DiceHost.Proofs.Scheduler.Wakeups
import DiceHost.Proofs.Service.Manifest
import DiceHost.Proofs.Service.Stream
