import ParkingStation.Antenna.Request
import ParkingStation.CardReader.Request
import ParkingStation.PaymentReader.Request
import ParkingStation.Settings.Validity
import ParkingStation.Station.Worker

/-! One worker for every peripheral, a clock, and what may be asked of the station. All workers share the room
for events that nobody has asked for yet. -/

namespace ParkingStation

def version : String := "0.1.0"

open Exchange Station

structure Station where
  settings : Settings
  key : PaymentReader.LoginBlock
  now : Nat
  antenna : Option (Worker (Antenna.peripheral settings.antenna))
  cardReader : Option (Worker CardReader.peripheral)
  paymentReader : Option (Worker (PaymentReader.peripheral key))
  turns : List Device := Device.all

namespace Station

inductive Call
  | antenna (request : Antenna.Request)
  | cardReader (request : CardReader.Request)
  | paymentReader (request : PaymentReader.Request)
  deriving DecidableEq

def Call.device : Call → Device
  | .antenna _ => .antenna
  | .cardReader _ => .cardReader
  | .paymentReader _ => .paymentReader

def bare (settings : Settings) (key : PaymentReader.LoginBlock) : Station where
  settings := settings
  key := key
  now := 0
  antenna := none
  cardReader := none
  paymentReader := none

def attach (device : Device) (line : Line) (st : Station) : Station :=
  match device with
  | .antenna => { st with antenna := some (.start (.fresh _ ({} : Antenna.Session) st.settings.antenna.timing) line) }
  | .cardReader =>
    { st with cardReader := some (.start (.fresh _ ({} : CardReader.Session) st.settings.cardReader.timing) line) }
  | .paymentReader =>
    { st with
      paymentReader := some (.start (.fresh _ ({} : PaymentReader.Session) st.settings.paymentReader.timing) line) }

def requireLine (device : Device) (enabled hasLine : Bool) : Except Error Unit :=
  if enabled && !hasLine then .error (.config (.noLine device)) else .ok ()

def noKey : PaymentReader.LoginBlock := ⟨List.replicate 8 0, rfl⟩

def attachIf (enabled : Bool) (device : Device) (line : Line) (st : Station) : Station :=
  if enabled then st.attach device line else st

def start (settings : Settings) (hasLine : Device → Bool) (line : Line) : Except Error Station := do
  requireLine .antenna settings.antenna.enabled (hasLine .antenna)
  requireLine .cardReader settings.cardReader.enabled (hasLine .cardReader)
  requireLine .paymentReader settings.paymentReader.enabled (hasLine .paymentReader)
  let key ← if settings.paymentReader.enabled then settings.paymentReader.key else .ok noKey
  return (bare settings key |>.attachIf settings.antenna.enabled .antenna line
    |>.attachIf settings.cardReader.enabled .cardReader line
    |>.attachIf settings.paymentReader.enabled .paymentReader line)

def modify (device : Device) (change : (p : Peripheral) → Worker p → Worker p) (st : Station) : Station :=
  match device with
  | .antenna => { st with antenna := st.antenna.map (change _) }
  | .cardReader => { st with cardReader := st.cardReader.map (change _) }
  | .paymentReader => { st with paymentReader := st.paymentReader.map (change _) }

def inspect {α : Type} (device : Device) (view : (p : Peripheral) → Worker p → α) (st : Station) : Option α :=
  match device with
  | .antenna => st.antenna.map (view _)
  | .cardReader => st.cardReader.map (view _)
  | .paymentReader => st.paymentReader.map (view _)

def eventCapacity : Nat := 100

def eventCount (device : Device) (st : Station) : Nat :=
  (st.inspect device fun _ w => w.events.length + w.granted.toNat).getD 0

def eventLimit (device : Device) (st : Station) : Nat :=
  eventCapacity - (Device.all.filter (· ≠ device)).foldl (fun n other => n + st.eventCount other) 0

def canAct (device : Device) (st : Station) : Bool :=
  (st.inspect device fun _ w => (w.act st.now (st.eventLimit device)).isSome).getD false

def toBack (device : Device) (st : Station) : Station := { st with turns := st.turns.erase device ++ [device] }

def run (st : Station) (device : Device) : Station :=
  if st.canAct device then toBack device (st.modify device fun _ => .run st.now (st.eventLimit device)) else st

def runAll (st : Station) : Station := st.turns.foldl run st

def modifyAll (change : (p : Peripheral) → Worker p → Worker p) (st : Station) : Station :=
  Device.all.foldl (fun st device => st.modify device change) st

def turnAll (st : Station) : Station := st.modifyAll fun _ w => w.onLine fun line => line.turn?.getD line

def isBusy (st : Station) : Bool :=
  Device.all.any fun device => st.canAct device || (st.inspect device fun _ w => w.line.turn?.isSome).getD false

def effort (st : Station) : Nat :=
  Device.all.foldl (fun n device => n + (st.inspect device fun _ w => w.effort).getD 0) 0

def settleFor : Nat → Station → Station
  | 0, st => st
  | n + 1, st => if st.isBusy then settleFor n st.runAll.turnAll else st

def settle (st : Station) : Station := settleFor st.effort st

def wake? (st : Station) : Option Nat :=
  (Device.all.filterMap fun device => (st.inspect device fun _ w => w.wake?).join).min?

def sleepFor (last : Nat) : Nat → Station → Station
  | 0, st => st
  | n + 1, st =>
    match st.wake? with
    | some t => if t ≤ last then sleepFor last n (settle { st with now := t }) else st
    | none => st

def sleep (duration : Nat) (st : Station) : Station :=
  { sleepFor (st.now + duration) st.effort st.settle with now := st.now + duration }

def rouse (device : Device) (st : Station) : Station :=
  if st.inspect device (fun _ w => w.granted || w.controller.queue.notice) = some true then st else st.toBack device

def changeLine (device : Device) (change : Line → Line) (st : Station) : Station :=
  settle ((st.rouse device).modify device fun _ w => w.onLine change)

def close (device : Device) (st : Station) : Station :=
  let held := (st.inspect device fun _ w => w.line.held).getD false
  (if held then st else st.runAll).changeLine device .close

def call (c : Call) (st : Station) : Option (Except Error Nat) × Station :=
  let st := st.rouse c.device
  match c with
  | .antenna r => (none, { st with antenna := st.antenna.map (.update r.submit) })
  | .cardReader r => (none, { st with cardReader := st.cardReader.map (.update r.submit) })
  | .paymentReader (.uploadFile kind data) =>
    match st.paymentReader with
    | some w =>
      let size := st.settings.paymentReader.chunkSize
      let (result, controller) := PaymentReader.Request.upload kind data size w.controller
      (some result, { st with paymentReader := some (w.update fun _ => controller) })
    | none => (none, st)
  | .paymentReader r => (none, { st with paymentReader := st.paymentReader.map (.update r.submit) })

def send (device : Device) (bs : Bytes) (st : Station) : Bool × Station :=
  ((st.inspect device fun _ w => !w.line.closed).getD false, st.changeLine device (.send bs))

structure Report where
  received : Bytes
  events : List Event
  deriving DecidableEq

def report (device : Device) (st : Station) : Option Report :=
  st.inspect device fun _ w => ⟨w.line.received, w.events⟩

def reported (st : Station) : Station := st.modifyAll fun _ => .reported

def ended (device : Device) (st : Station) : Option Error := (st.inspect device fun _ w => w.ended).join

def isOver (st : Station) : Bool :=
  Device.all.all fun device => (st.inspect device fun _ w => w.over?.isSome).getD true

end Station

end ParkingStation
