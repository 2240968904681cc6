import ParkingStation.Main
import ParkingStation.Proofs.Antenna.Confirmation
import ParkingStation.Proofs.Antenna.Resync
import ParkingStation.Proofs.Calendar
import ParkingStation.Proofs.CardReader.Grammar
import ParkingStation.Proofs.CardReader.RoundTrip
import ParkingStation.Proofs.CardReader.SpoiltReplies
import ParkingStation.Proofs.Checksum
import ParkingStation.Proofs.Exchange.DeadLine
import ParkingStation.Proofs.Exchange.Errands
import ParkingStation.Proofs.Exchange.Expiry
import ParkingStation.Proofs.Exchange.ForeignReplies
import ParkingStation.Proofs.Exchange.LineLoss
import ParkingStation.Proofs.Exchange.NextRequest
import ParkingStation.Proofs.Exchange.NoisyAnswers
import ParkingStation.Proofs.Exchange.Order
import ParkingStation.Proofs.Exchange.PollCeiling
import ParkingStation.Proofs.Exchange.QuietLine
import ParkingStation.Proofs.Exchange.RetryBudget
import ParkingStation.Proofs.Exchange.SilentDrops
import ParkingStation.Proofs.Exchange.Spacing
import ParkingStation.Proofs.Exchange.StrandedScan
import ParkingStation.Proofs.Exchange.Unawaited
import ParkingStation.Proofs.Framing.Cursor
import ParkingStation.Proofs.Framing.Protocols
import ParkingStation.Proofs.Framing.Retention
import ParkingStation.Proofs.Packing
import ParkingStation.Proofs.PaymentReader.Atomicity
import ParkingStation.Proofs.PaymentReader.Bursts
import ParkingStation.Proofs.PaymentReader.FollowUps
import ParkingStation.Proofs.PaymentReader.Records
import ParkingStation.Proofs.PaymentReader.Requeue
import ParkingStation.Proofs.PaymentReader.Resync
import ParkingStation.Proofs.PaymentReader.RoundTrip
import ParkingStation.Proofs.PaymentReader.Splitting
import ParkingStation.Proofs.PaymentReader.Uploads
import ParkingStation.Proofs.Station.Readiness
import ParkingStation.Station.Basic
