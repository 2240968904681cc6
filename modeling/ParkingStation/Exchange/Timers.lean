import ParkingStation.Settings.Basic

/-! Acknowledgement and response timers guard a reply. Each of them opens a count, and a reply that arrives
closes it, so that a deadline passed meanwhile no longer fires. -/

namespace ParkingStation.Exchange

inductive Timer
  | writeSpacing
  | ack
  | response
  | frameGap
  deriving DecidableEq

def Timer.guardsReply : Timer → Bool
  | ack | response => true
  | writeSpacing | frameGap => false

structure Timers where
  timing : Settings.Timing
  writeSpacing : Option Nat := none
  ack : Option Nat := none
  response : Option Nat := none
  frameGap : Option Nat := none
  opened : Nat := 0
  answered : Nat := 0
  lastHeard : Option Nat := none
  deriving DecidableEq

namespace Timers

def deadline (timer : Timer) (ts : Timers) : Option Nat :=
  match timer with
  | .writeSpacing => ts.writeSpacing
  | .ack => ts.ack
  | .response => ts.response
  | .frameGap => ts.frameGap

def setDeadline (timer : Timer) (at? : Option Nat) (ts : Timers) : Timers :=
  match timer with
  | .writeSpacing => { ts with writeSpacing := at? }
  | .ack => { ts with ack := at? }
  | .response => { ts with response := at? }
  | .frameGap => { ts with frameGap := at? }

@[simp] theorem deadline_setDeadline (timer other : Timer) (at? : Option Nat) (ts : Timers) :
    (ts.setDeadline timer at?).deadline other = if other = timer then at? else ts.deadline other := by
  cases timer <;> cases other <;> rfl

def duration (timer : Timer) (ts : Timers) : Nat :=
  match timer with
  | .writeSpacing => ts.timing.interFrameDelay
  | .ack => ts.timing.ackTimeout
  | .response => ts.timing.responseTimeout
  | .frameGap => ts.timing.frameGap

def start (timer : Timer) (now : Nat) (ts : Timers) : Timers :=
  let ts := if timer.guardsReply then { ts with opened := ts.opened + 1 } else ts
  ts.setDeadline timer (some (now + ts.duration timer))

def holdWrite (deadline : Nat) (ts : Timers) : Timers := ts.setDeadline .writeSpacing (some deadline)

def stop (timer : Timer) (ts : Timers) : Timers := ts.setDeadline timer none

def stopAll (ts : Timers) : Timers :=
  { ts with writeSpacing := none, ack := none, response := none, frameGap := none }

def isRunning (timer : Timer) (ts : Timers) : Bool := (ts.deadline timer).isSome

def markAnswered (ts : Timers) : Timers := { ts with answered := ts.opened }

def isAnswered (ts : Timers) : Bool := ts.answered == ts.opened

def fire (timer : Timer) (now : Nat) (ts : Timers) : Bool × Timers :=
  match ts.deadline timer with
  | none => (false, ts)
  | some deadline =>
    if deadline ≤ now then (!timer.guardsReply || !ts.isAnswered, ts.stop timer) else (false, ts)

def earliest : List (Option Nat) → Option Nat
  | [] => none
  | none :: rest => earliest rest
  | some t :: rest => some ((earliest rest).elim t (min t))

def next? (ts : Timers) : Option Nat := earliest [ts.writeSpacing, ts.ack, ts.response, ts.frameGap]

def heard (now : Nat) (ts : Timers) : Timers := { ts with lastHeard := some now }

def writeWait (now : Nat) (ts : Timers) : Option Nat :=
  match ts.lastHeard with
  | none => none
  | some read =>
    let free := read + ts.timing.interFrameDelay
    if now < free then some (free - now) else none

end Timers

end ParkingStation.Exchange
