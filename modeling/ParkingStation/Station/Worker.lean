import ParkingStation.Exchange.Controller.Step
import ParkingStation.Station.Line

/-! A worker carries out the effects of its controller one by one, and when there are none it looks for new
work, bytes, the end of the line, and timers that are due, in this order. -/

namespace ParkingStation.Station

open Exchange

structure Write where
  rest : Bytes
  deadline : Nat
  deriving DecidableEq

structure Worker (p : Peripheral) where
  controller : Controller p
  line : Line
  todo : List Effect
  writing : Option Write
  events : List Event
  ended : Option Error
  granted : Bool

namespace Worker

variable {p : Peripheral}

def start (controller : Controller p) (line : Line) : Worker p := ⟨controller, line, [], none, [], none, false⟩

def update (change : Controller p → Controller p) (w : Worker p) : Worker p :=
  { w with controller := change w.controller }

def onLine (change : Line → Line) (w : Worker p) : Worker p := { w with line := change w.line }

def tell (now : Nat) (input : Input) (w : Worker p) : Worker p :=
  let (effects, controller) := w.controller.step now input
  { w with controller := controller, todo := w.todo ++ effects }

def isReport : Effect → Bool
  | .report _ => true
  | .transmit _ => false

def lose (now : Nat) (w : Worker p) : Worker p :=
  let (effects, controller) := w.controller.step now (.disconnected "end of stream")
  { w with
    controller := controller
    todo := effects.filter isReport
    ended := some (.disconnected (p.device.title ++ ": end of stream")) }

def goOnWriting (now : Nat) (write : Write) (w : Worker p) : Option (Nat × Worker p) :=
  if w.line.closed then some (1, { w with writing := none }.tell now (.wrote (.failed "broken pipe")))
  else
    let (rest, line) := w.line.put write.rest
    let moves := if rest.length < write.rest.length then 1 else 0
    if rest.isEmpty then some (1, { w with line := line, writing := none }.tell now (.wrote .completed))
    else if write.deadline ≤ now then
      some (moves + 1, { w with line := line, writing := none }.tell now (.wrote .timedOut))
    else if moves = 0 then none
    else some (moves, { w with line := line, writing := some { write with rest := rest } })

def lookAround (now : Nat) (w : Worker p) : Option (Nat × Worker p) :=
  let (noticed, queue) := w.controller.queue.takeNotice
  if noticed then some (0, { w with controller := { w.controller with queue := queue } }.tell now .woken)
  else if !w.line.inbound.isEmpty then
    let (bytes, line) := w.line.read
    some (1, { w with line := line }.tell now (.bytes bytes))
  else if w.line.closed then some (1, w.lose now)
  else
    match w.controller.wake? with
    | some deadline => if deadline ≤ now then some (1, w.tell now .tick) else none
    | none => none

def act (now limit : Nat) (w : Worker p) : Option (Nat × Worker p) :=
  match w.writing, w.todo with
  | some write, _ => w.goOnWriting now write
  | none, .report event :: todo =>
    if w.events.length < limit then
      some (1, { w with todo := todo, events := w.events ++ [event], granted := false })
    else none
  | none, .transmit bytes :: todo =>
    some (0, { w with todo := todo, writing := some ⟨bytes, now + w.controller.timing.writeTimeout⟩ })
  | none, [] => if w.ended.isSome then none else w.lookAround now

def shift : Nat := 128

def actFor (now limit : Nat) : Nat → Nat → Worker p → Worker p
  | 0, _, w => w
  | n + 1, moves, w =>
    if moves = 0 then w
    else
      match w.act now limit with
      | some (taken, next) => actFor now limit n (moves - taken) next
      | none => w

def run (now limit : Nat) (w : Worker p) : Worker p := actFor now limit (4 * shift) shift w

def effort (w : Worker p) : Nat :=
  let timing := w.controller.timing
  4096 * (w.controller.queue.size + w.todo.length + w.line.inbound.length + w.line.unsent.length + 4) *
    (timing.maxRetries + 2) * (timing.maxPollAttempts + 2)

def wake? (w : Worker p) : Option Nat :=
  match w.writing, w.todo with
  | some write, _ => some write.deadline
  | none, [] => if w.ended.isSome then none else w.controller.wake?
  | none, _ :: _ => none

def over? (w : Worker p) : Option Error := if w.todo.isEmpty then w.ended else none

def reported (w : Worker p) : Worker p :=
  { w with
    events := []
    line := { w.line with received := [] }
    granted := w.writing.isNone && !w.todo.isEmpty }

end Worker

end ParkingStation.Station
