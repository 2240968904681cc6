import ParkingStation.Exchange.Controller.Basic

namespace ParkingStation.Exchange.Controller

variable {p : Peripheral}

def requestBytes (command : p.Command) (seq : UInt8) : Except Error Bytes :=
  p.request command seq >>= p.scanner.encode

def chunkBytes (chunk : p.Chunk) (seq : UInt8) : Except Error Bytes :=
  p.chunkRequest chunk seq >>= p.scanner.encode

def sendRequest (now : Nat) (c : Controller p) : Controller p :=
  match c.command with
  | none => c
  | some o =>
    let seq := nextSequence c.seq
    match requestBytes o.item seq with
    | .ok bytes => { c with command := some ⟨o.item, o.sends + 1⟩, seq := seq }.transmitSpaced now bytes
    | .error err =>
      ({ c with command := none, seq := seq }.advance .writeFailed).report
        (.failed p.device (p.name o.item) err.reason err.message)

def sendPiece (now : Nat) (c : Controller p) : Controller p :=
  match c.chunk with
  | none => c
  | some o =>
    let seq := nextSequence c.seq
    let sent := { c with chunk := some ⟨o.item, o.sends + 1⟩, seq := seq }
    match chunkBytes o.item seq with
    | .ok bytes => sent.transmitSpaced now bytes
    | .error err => (sent.advance .writeFailed).abortUpload err.reason err.message

/-- Puts a poll without a result back in front, up to the ceiling; a stopped scan ends it in silence. -/
def askAgain (command : p.Command) (c : Controller p) : Controller p :=
  if p.asksAgain c.session command then
    let c := { c with polls := c.polls + 1 }
    if c.timing.maxPollAttempts ≤ c.polls then c.abandon command .pollExhausted else c.pushFront command
  else { c with polls := 0 }

/-- After a failed cycle: the item stays in flight to be sent again, or its budget is spent. -/
def repeatOrAbandon (reason : Reason) (detail : String) (c : Controller p) : Controller p :=
  match c.command with
  | some o =>
    if o.sends ≤ c.timing.maxRetries then c
    else
      let c := { c with command := none }
      if p.asksAgain c.session o.item then c.askAgain o.item else c.abandon o.item reason
  | none =>
    match c.chunk with
    | some o => if o.sends ≤ c.timing.maxRetries then c else c.abortUpload reason detail
    | none => c

def breakCycle (trigger : Trigger) (reason : Reason) (detail : String) (c : Controller p) : Controller p :=
  if c.accepts trigger then (c.advance trigger).closeCycle.resetReceiver.repeatOrAbandon reason detail else c

def repeatPiece (now : Nat) (trigger : Trigger) (reason : Reason) (detail : String) (c : Controller p) :
    Controller p :=
  let c := c.closeCycle.resetReceiver
  if c.chunk.elim 0 (·.sends) ≤ c.timing.maxRetries then (c.advance trigger).sendPiece now
  else (c.advance .chunkError).abortUpload reason detail

def backlog (c : Controller p) : Nat :=
  2 * c.queue.size + c.command.toList.length + c.chunk.toList.length

theorem backlog_sendRequest_lt {now : Nat} {c : Controller p} {o : Ongoing p.Command} (h : c.command = some o)
    (hp : c.phase ≠ .idle) (hi : (c.sendRequest now).phase = .idle) : (c.sendRequest now).backlog < c.backlog := by
  unfold sendRequest at hi ⊢
  simp only [h] at hi ⊢
  split at hi
  · exact absurd ((phase_transmitSpaced ..).symm.trans hi) hp
  · simp_all [backlog, advance, report]

theorem backlog_sendPiece_lt {now : Nat} {c : Controller p} {o : Ongoing p.Chunk} (h : c.chunk = some o)
    (hp : c.phase ≠ .idle) (hi : (c.sendPiece now).phase = .idle) : (c.sendPiece now).backlog < c.backlog := by
  unfold sendPiece at hi ⊢
  simp only [h] at hi ⊢
  cases hb : chunkBytes o.item (nextSequence c.seq) with
  | ok bytes =>
    simp only [hb] at hi
    exact absurd ((phase_transmitSpaced ..).symm.trans hi) hp
  | error err =>
    have := c.queue.size_endUpload_le
    simp only [backlog, h, abortUpload, advance, report, Option.toList_none, Option.toList_some, List.length_nil,
      List.length_cons]
    omega

def takeUpWork (now : Nat) (c : Controller p) : Controller p :=
  if _hi : c.phase = .idle then
    match _hc : c.command, _hk : c.chunk, _hq : c.queue.next? with
    | some _, _, _ =>
      let next := (c.advance .commandEnqueued).sendRequest now
      if _h : next.phase = .idle then takeUpWork now next else next
    | none, some _, _ =>
      let next := (c.advance .sendNextChunk).sendPiece now
      if _h : next.phase = .idle then takeUpWork now next else next
    | none, none, some (.command item, queue) =>
      takeUpWork now { c with queue := queue, command := some ⟨item, 0⟩ }
    | none, none, some (.chunk item, queue) => takeUpWork now { c with queue := queue, chunk := some ⟨item, 0⟩ }
    | none, none, none => c
  else c
termination_by c.backlog
decreasing_by
  · have hp : (c.advance .commandEnqueued).phase ≠ .idle := by
      simp only [advance, phase, Machine.phase_advance] at _hi ⊢
      simp [_hi, Phase.next?]
    exact backlog_sendRequest_lt (c := c.advance .commandEnqueued) _hc hp _h
  · have hp : (c.advance .sendNextChunk).phase ≠ .idle := by
      simp only [advance, phase, Machine.phase_advance] at _hi ⊢
      simp [_hi, Phase.next?]
    exact backlog_sendPiece_lt (c := c.advance .sendNextChunk) _hk hp _h
  · have := WorkQueue.size_next? _hq
    simp [backlog, _hc, _hk]
    omega
  · have := WorkQueue.size_next? _hq
    simp [backlog, _hc, _hk]
    omega

end ParkingStation.Exchange.Controller
