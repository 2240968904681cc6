import ParkingStation.Exchange.Controller.Sending

namespace ParkingStation.Exchange.Controller

open Framing

variable {p : Peripheral}

def takeAck (now : Nat) (c : Controller p) : Controller p :=
  if c.accepts .ackReceived then
    let c := (c.advance .ackReceived).markAnswered.stopTimer .ack
    match p.enquiry with
    | some bytes => c.transmitSpaced now bytes
    | none => c.startTimer .response now
  else c

def takeNak (c : Controller p) : Controller p :=
  if c.accepts .nakReceived then
    (c.advance .nakReceived).markAnswered.closeCycle.repeatOrAbandon .nak "link NAK"
  else c

def takeReply (frame : p.Frame) (c : Controller p) : Controller p :=
  match c.command with
  | none => c
  | some o =>
    let (verdict, session) := p.judge c.session o.item frame
    let c := { c with session := session }
    let closed := { c with command := none }.advance .responseReceived |>.markAnswered.closeCycle
    match verdict with
    | .unrelated _ => c
    | .answered events followUps =>
      followUps.reverse.foldl (fun c command => c.pushFront command) ({ closed with polls := 0 }.reportAll events)
    | .unready events => (closed.reportAll events).askAgain o.item
    | .refused reason detail events =>
      ({ closed with polls := 0 }.report (.failed p.device (p.name o.item) reason detail)).reportAll events
    | .again reason detail => { closed with command := some o }.repeatOrAbandon reason detail

def nextPiece (now : Nat) (c : Controller p) : Controller p :=
  match c.queue.nextChunk? with
  | some (item, queue) =>
    ({ c with queue := queue, chunk := some ⟨item, 0⟩ }.advance .sendNextChunk).sendPiece now
  | none =>
    let c := c.advance .allChunksDone
    { c with queue := c.queue.endUpload, chunksDone := 0 }.report (.uploaded p.device c.chunksDone)

def takeChunkReply (now : Nat) (frame : p.Frame) (c : Controller p) : Controller p :=
  match c.chunk with
  | none => c
  | some o =>
    match p.judgeChunk o.item frame with
    | .unrelated _ => c
    | .accepted => { c.markAnswered.closeCycle with chunk := none, chunksDone := c.chunksDone + 1 }.nextPiece now
    | .again reason detail =>
      let c := c.markAnswered.closeCycle
      if o.sends ≤ c.timing.maxRetries then (c.advance .sendNextChunk).sendPiece now
      else (c.advance .chunkError).abortUpload reason detail
    | .refused reason detail => (c.markAnswered.closeCycle.advance .chunkError).abortUpload reason detail

def takeItem (now : Nat) (c : Controller p) : Item p.Frame → Controller p
  | .corrupt fault =>
    if c.phase = .waitingResponse ∨ c.phase = .waitingChunkResponse then { c with spoilt := some fault } else c
  | .ack => c.takeAck now
  | .nak => c.takeNak
  | .frame frame =>
    if c.phase = .waitingResponse then c.takeReply frame
    else if c.phase = .waitingChunkResponse then c.takeChunkReply now frame
    else c.advance .responseReceived

def rejectReply (now : Nat) (fault : Fault) (c : Controller p) : Controller p :=
  let reason := (fault.toError p.scanner.limit).reason
  if c.phase = .waitingResponse then c.breakCycle .frameRejected reason fault.message
  else if c.phase = .waitingChunkResponse then c.repeatPiece now .frameRejected reason fault.message
  else c

def settleSpoilt (now : Nat) (c : Controller p) : Controller p :=
  match c.spoilt with
  | some fault =>
    -- a candidate still in progress may yet answer the command
    if p.scanner.idle c.receiver.scan then { c with spoilt := none }.rejectReply now fault else c
  | none => c

def watchGap (now : Nat) (c : Controller p) : Controller p :=
  if (p.scanner.stalled c.receiver.scan).isSome then c.startTimer .frameGap now else c.stopTimer .frameGap

def drain (now : Nat) (c : Controller p) : Controller p :=
  let (items, receiver) := c.receiver.readAll p.scanner
  ((items.foldl (takeItem now) { c with receiver := receiver }).settleSpoilt now).watchGap now

def hear (now : Nat) (data : Bytes) (c : Controller p) : Controller p :=
  { c with timers := c.timers.heard now, receiver := c.receiver.append data }.drain now

end ParkingStation.Exchange.Controller
