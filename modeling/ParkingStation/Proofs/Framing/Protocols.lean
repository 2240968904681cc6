import ParkingStation.Proofs.Antenna.Wire
import ParkingStation.Proofs.CardReader.Wire
import ParkingStation.Proofs.PaymentReader.Wire

namespace ParkingStation.Framing

inductive Protocol
  | antenna (algorithm : Checksum.Algorithm)
  | cardReader
  | paymentReader (algorithm : Checksum.Algorithm)

namespace Protocol

def Scan : Protocol → Type
  | antenna _ => Antenna.Scan
  | cardReader => CardReader.Scan
  | paymentReader _ => PaymentReader.Scan

def Frame : Protocol → Type
  | antenna _ => Antenna.Frame
  | cardReader => CardReader.Frame
  | paymentReader _ => PaymentReader.Frame

def scanner : (p : Protocol) → Scanner p.Scan p.Frame
  | antenna algorithm => Antenna.scanner algorithm
  | cardReader => CardReader.scanner
  | paymentReader algorithm => PaymentReader.scanner algorithm

lemma scanner_lawful (p : Protocol) : Lawful p.scanner := by
  cases p with
  | antenna algorithm => exact Antenna.scanner_lawful algorithm
  | cardReader => exact CardReader.scanner_lawful
  | paymentReader algorithm => exact PaymentReader.scanner_lawful algorithm

lemma scanner_exact (p : Protocol) : Exact p.scanner := by
  cases p with
  | antenna algorithm => exact Antenna.scanner_exact algorithm
  | cardReader => exact CardReader.scanner_exact
  | paymentReader algorithm => exact PaymentReader.scanner_exact algorithm

end Protocol

namespace Receiver

/-- However a stream is cut, the receiver takes the items of its plain reading and keeps what that leaves. -/
theorem readPieces_eq_rescan (p : Protocol) (pieces : List Bytes) :
    (((fresh p.scanner).readPieces p.scanner pieces).1, ((fresh p.scanner).readPieces p.scanner pieces).2.buffer) =
      rescan p.scanner pieces.flatten :=
  (readPieces_spec p.scanner_lawful _ (settled_fresh p.scanner) pieces).2.symm

/-- Whatever is done with a receiver, the frames it delivers stand one after another, as they are written, in the part
of the stream that it has dropped. -/
theorem delivered_are_written (p : Protocol) (acts : List Act) :
    ∃ dropped, acts.flatMap Act.bytes = dropped ++ ((fresh p.scanner).perform p.scanner acts).2.buffer ∧
      Spells p.scanner.encode (delivered ((fresh p.scanner).perform p.scanner acts).1) dropped :=
  drops_perform p.scanner_lawful p.scanner_exact (fresh p.scanner) .start acts

end Receiver

end ParkingStation.Framing
