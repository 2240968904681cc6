import ParkingStation.Exchange.Peripheral
import ParkingStation.Exchange.Phase
import ParkingStation.Exchange.Timers
import ParkingStation.Exchange.WorkQueue
import ParkingStation.Framing.Receiver

/-! The work in flight, the phase of the exchange, and the effects of the call in progress, which are data until
somebody carries them out. -/

namespace ParkingStation.Exchange

open Framing

structure Ongoing (α : Type) where
  item : α
  sends : Nat
  deriving DecidableEq

inductive Effect
  | transmit (bytes : Bytes)
  | report (event : Event)
  deriving DecidableEq

structure Controller (p : Peripheral) where
  session : p.Session
  receiver : Receiver p.Scan
  queue : WorkQueue p.Command p.Chunk
  machine : Machine
  timers : Timers
  seq : UInt8
  command : Option (Ongoing p.Command)
  chunk : Option (Ongoing p.Chunk)
  chunksDone : Nat
  /-- Bytes that wait for the line to be quiet long enough. -/
  held : Option Bytes
  /-- A reply that was not intact, acted on when nothing better follows. -/
  spoilt : Option Fault
  polls : Nat
  outbox : List Effect

namespace Controller

variable {p : Peripheral}

def fresh (p : Peripheral) (session : p.Session) (timing : Settings.Timing) : Controller p where
  session := session
  receiver := .fresh p.scanner
  queue := {}
  machine := {}
  timers := { timing := timing }
  seq := 0
  command := none
  chunk := none
  chunksDone := 0
  held := none
  spoilt := none
  polls := 0
  outbox := []

def phase (c : Controller p) : Phase := c.machine.phase

def timing (c : Controller p) : Settings.Timing := c.timers.timing

def sends (c : Controller p) : Option Nat :=
  match c.chunk with
  | some k => some k.sends
  | none => c.command.map (·.sends)

def submit (command : p.Command) (c : Controller p) : Controller p := { c with queue := c.queue.push command }

def submitUpload (chunks : List p.Chunk) (c : Controller p) : Except Error Nat × Controller p :=
  match c.queue.startUpload chunks with
  | .ok (count, queue) => (.ok count, { c with queue := queue })
  | .error err => (.error err, c)

def pushFront (command : p.Command) (c : Controller p) : Controller p :=
  { c with queue := (c.queue.pushFront command).2 }

def advance (trigger : Trigger) (c : Controller p) : Controller p :=
  { c with machine := c.machine.advance p.acknowledged trigger }

def accepts (trigger : Trigger) (c : Controller p) : Bool := (c.phase.next? p.acknowledged trigger).isSome

def report (event : Event) (c : Controller p) : Controller p := { c with outbox := c.outbox ++ [.report event] }

def reportAll (events : List Event) (c : Controller p) : Controller p :=
  { c with outbox := c.outbox ++ events.map .report }

def transmit (bytes : Bytes) (c : Controller p) : Controller p := { c with outbox := c.outbox ++ [.transmit bytes] }

def transmitSpaced (now : Nat) (bytes : Bytes) (c : Controller p) : Controller p :=
  match c.timers.writeWait now with
  | none => c.transmit bytes
  | some wait => { c with timers := c.timers.holdWrite (now + wait), held := some bytes }

def startTimer (timer : Timer) (now : Nat) (c : Controller p) : Controller p :=
  { c with timers := c.timers.start timer now }

def stopTimer (timer : Timer) (c : Controller p) : Controller p := { c with timers := c.timers.stop timer }

def markAnswered (c : Controller p) : Controller p := { c with timers := c.timers.markAnswered }

def closeCycle (c : Controller p) : Controller p :=
  { c with timers := c.timers.stopAll, held := none, spoilt := none }

def resetReceiver (c : Controller p) : Controller p := { c with receiver := .fresh p.scanner }

def abortUpload (reason : Reason) (detail : String) (c : Controller p) : Controller p :=
  { c with chunk := none, chunksDone := 0, queue := c.queue.endUpload }.report
    (.uploadFailed p.device c.chunksDone reason detail)

def abandon (command : p.Command) (reason : Reason) (c : Controller p) : Controller p :=
  let c := { c with polls := 0 }.report (.fault p.device (p.name command) reason)
  let (events, session) := p.giveUp c.session command reason
  { c with session := session }.reportAll events

@[simp] theorem phase_transmitSpaced (now : Nat) (bytes : Bytes) (c : Controller p) :
    (c.transmitSpaced now bytes).phase = c.phase := by
  unfold transmitSpaced
  split <;> rfl

end Controller

end ParkingStation.Exchange
