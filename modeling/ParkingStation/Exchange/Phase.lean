namespace ParkingStation.Exchange

inductive Phase
  | idle
  | sendingRequest
  | waitingAck
  | waitingResponse
  | sendingChunk
  | waitingChunkResponse
  deriving DecidableEq

inductive Trigger
  | commandEnqueued
  | writeCompleted
  | writeFailed
  | writeTimeout
  | ackReceived
  | nakReceived
  | ackTimeout
  | responseReceived
  | responseTimeout
  | frameRejected
  | sendNextChunk
  | allChunksDone
  | chunkError
  deriving DecidableEq

namespace Phase

def all : List Phase := [idle, sendingRequest, waitingAck, waitingResponse, sendingChunk, waitingChunkResponse]

def name : Phase → String
  | idle => "Idle"
  | sendingRequest => "SendingRequest"
  | waitingAck => "WaitingAck"
  | waitingResponse => "WaitingResponse"
  | sendingChunk => "SendingChunk"
  | waitingChunkResponse => "WaitingChunkResponse"

end Phase

namespace Trigger

def all : List Trigger :=
  [commandEnqueued, writeCompleted, writeFailed, writeTimeout, ackReceived, nakReceived, ackTimeout, responseReceived,
    responseTimeout, frameRejected, sendNextChunk, allChunksDone, chunkError]

def name : Trigger → String
  | commandEnqueued => "CommandEnqueued"
  | writeCompleted => "WriteCompleted"
  | writeFailed => "WriteFailed"
  | writeTimeout => "WriteTimeout"
  | ackReceived => "AckReceived"
  | nakReceived => "NakReceived"
  | ackTimeout => "AckTimeout"
  | responseReceived => "ResponseReceived"
  | responseTimeout => "ResponseTimeout"
  | frameRejected => "FrameRejected"
  | sendNextChunk => "SendNextChunk"
  | allChunksDone => "AllChunksDone"
  | chunkError => "ChunkError"

end Trigger

def Phase.next? (acknowledged : Bool) : Phase → Trigger → Option Phase
  | .idle, .commandEnqueued => some .sendingRequest
  | .idle, .sendNextChunk => some .sendingChunk
  | .sendingRequest, .writeCompleted => some (if acknowledged then .waitingAck else .waitingResponse)
  | .sendingRequest, .writeFailed | .sendingRequest, .writeTimeout => some .idle
  | .waitingAck, .ackReceived => some .waitingResponse
  | .waitingAck, .nakReceived | .waitingAck, .ackTimeout => some .idle
  | .waitingResponse, .writeCompleted => some .waitingResponse
  | .waitingResponse, .writeFailed | .waitingResponse, .writeTimeout | .waitingResponse, .nakReceived
  | .waitingResponse, .responseReceived | .waitingResponse, .responseTimeout
  | .waitingResponse, .frameRejected => some .idle
  | .sendingChunk, .writeCompleted => some .waitingChunkResponse
  | .sendingChunk, .writeFailed | .sendingChunk, .writeTimeout => some .idle
  | .waitingChunkResponse, .sendNextChunk | .waitingChunkResponse, .responseTimeout
  | .waitingChunkResponse, .frameRejected => some .sendingChunk
  | .waitingChunkResponse, .allChunksDone | .waitingChunkResponse, .chunkError => some .idle
  | _, _ => none

structure Transition where
  source : Phase
  trigger : Trigger
  target : Phase
  deriving DecidableEq

structure Machine where
  phase : Phase := .idle
  history : List Transition := []
  deriving DecidableEq

namespace Machine

def maxHistory : Nat := 100

def remember (history : List Transition) (t : Transition) : List Transition :=
  (history ++ [t]).drop (history.length + 1 - maxHistory)

def transition? (acknowledged : Bool) (trigger : Trigger) (m : Machine) : Option Transition :=
  (m.phase.next? acknowledged trigger).map fun target => ⟨m.phase, trigger, target⟩

def advance (acknowledged : Bool) (trigger : Trigger) (m : Machine) : Machine :=
  match m.transition? acknowledged trigger with
  | none => m
  | some t => ⟨t.target, remember m.history t⟩

def last (m : Machine) (count : Nat) : List Transition := m.history.drop (m.history.length - count)

theorem phase_advance (acknowledged : Bool) (trigger : Trigger) (m : Machine) :
    (m.advance acknowledged trigger).phase = (m.phase.next? acknowledged trigger).getD m.phase := by
  unfold advance transition?
  cases m.phase.next? acknowledged trigger <;> rfl

theorem length_remember_le (history : List Transition) (t : Transition) :
    (remember history t).length ≤ maxHistory := by
  simp [remember]
  omega

end Machine

end ParkingStation.Exchange
