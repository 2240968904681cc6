import ParkingStation.Exchange.Controller.Replies

namespace ParkingStation.Exchange

inductive WriteResult
  | completed
  | failed (detail : String)
  | timedOut
  deriving DecidableEq

inductive Input
  | woken
  | bytes (data : Bytes)
  | wrote (result : WriteResult)
  | tick
  | disconnected (detail : String)
  deriving DecidableEq

namespace Controller

variable {p : Peripheral}

def completeWrite (now : Nat) (c : Controller p) : Controller p :=
  if c.accepts .writeCompleted then
    let c := c.advance .writeCompleted
    match c.phase with
    | .waitingAck => c.startTimer .ack now
    | .waitingResponse | .waitingChunkResponse => c.startTimer .response now
    | _ => c
  else c

def endWrite (now : Nat) (c : Controller p) : WriteResult → Controller p
  | .completed => c.completeWrite now
  | .failed detail => c.breakCycle .writeFailed .sendFailed detail
  | .timedOut =>
    c.breakCycle .writeTimeout .writeTimeout ("write took over " ++ toString c.timing.writeTimeout ++ "ms")

def endGap (now : Nat) (c : Controller p) : Controller p :=
  let (item, receiver) := c.receiver.giveUp p.scanner
  let c := { c with receiver := receiver }
  (item.elim c (c.takeItem now)).drain now

def releaseHeld (c : Controller p) : Controller p :=
  match c.held with
  | some bytes => { c with held := none }.transmit bytes
  | none => c

def missAck (c : Controller p) : Controller p :=
  c.breakCycle .ackTimeout .ackTimeout ("no ACK within " ++ toString c.timing.ackTimeout ++ "ms")

def missResponse (now : Nat) (c : Controller p) : Controller p :=
  let detail := "no response within " ++ toString c.timing.responseTimeout ++ "ms"
  if c.phase = .waitingChunkResponse then c.repeatPiece now .responseTimeout .noResponse detail
  else c.breakCycle .responseTimeout .noResponse detail

def fire (timer : Timer) (now : Nat) (c : Controller p) : Controller p :=
  let (fires, timers) := c.timers.fire timer now
  let c := { c with timers := timers }
  if fires then
    match timer with
    | .frameGap => c.endGap now
    | .writeSpacing => c.releaseHeld
    | .ack => c.missAck
    | .response => c.missResponse now
  else c

def fireAll (now : Nat) (c : Controller p) : Controller p :=
  [.frameGap, .writeSpacing, .ack, .response].foldl (fun c timer => c.fire timer now) c

def loseLine (detail : String) (c : Controller p) : Controller p :=
  let c := c.closeCycle
  let c := if c.chunk.isSome then c.abortUpload .disconnected detail else c
  let name := c.command.elim "link" fun o => p.name o.item
  { c with command := none }.report (.fault p.device name .disconnected)

def flush (c : Controller p) : List Effect × Controller p := (c.outbox, { c with outbox := [] })

def step (now : Nat) (c : Controller p) : Input → List Effect × Controller p
  | .woken => (c.takeUpWork now).flush
  | .bytes data => ((c.hear now data).takeUpWork now).flush
  | .wrote result => ((c.endWrite now result).takeUpWork now).flush
  | .tick => ((c.fireAll now).takeUpWork now).flush
  | .disconnected detail => (c.loseLine detail).flush

def wake? (c : Controller p) : Option Nat := c.timers.next?

end Controller

end ParkingStation.Exchange
