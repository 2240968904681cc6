import ParkingStation.PaymentReader.Command
import ParkingStation.Exchange.Peripheral

/-! A login takes two steps, and so does a deduction: the record of the first step is kept until it is made
final or fails. -/

namespace ParkingStation.PaymentReader

open Exchange

structure Session where
  loggedIn : Bool := false
  pendingDeduct : Option Record := none
  lastBalance : Option Card := none
  readerTime : Option DateTime := none
  fileVersions : Fields := []
  scanning : Bool := false
  deriving DecidableEq

namespace Session

def startScanning (s : Session) : Session := { s with scanning := true }

def stopScanning (s : Session) : Session := { s with scanning := false }

def accept (key : LoginBlock) (s : Session) (command : Command) (data : Bytes) :
    Except Error (Verdict Command × Session) :=
  match command with
  | .getStatus =>
    match data with
    | [] => .error (.truncated 1 0)
    | state :: _ => .ok (.done [succeeded [("state", toString state.toNat)]], s)
  | .login1 => do
    let response ← foldKey data key
    return (.answered [] [.login2 response], s)
  | .login2 _ => .ok (.done [succeeded []], { s with loggedIn := true })
  | .logout => .ok (.done [succeeded []], { s with loggedIn := false })
  | .getCardId => do
    let id ← readCardId data
    return (.done [succeeded [("card_id", id)]], s.stopScanning)
  | .getCardBalance => do
    let card ← Card.parse data
    return (.done [succeeded card.fields], { s.stopScanning with lastBalance := some card })
  | .deduct _ => do
    let record ← Record.parse data
    return (.answered [] [.flush], { s.stopScanning with pendingDeduct := some record })
  | .flush =>
    match s.pendingDeduct with
    | some record =>
      .ok (.done [.succeeded .paymentReader "CardDeduct" record.fields], { s with pendingDeduct := none })
    | none => .ok (.done [succeeded []], s)
  | .getTime => do
    let time ← readTime data
    return (.done [succeeded [("time", time.text)]], { s with readerTime := some time })
  | .setTime _ => .ok (.done [succeeded []], s)
  | .getFileVersions => do
    let versions ← readFileVersions data
    return (.done [succeeded versions], { s with fileVersions := versions })
  | .uploadFile .. => .ok (.unrelated "file uploads complete per chunk", s)
where
  succeeded (fields : Fields) : Event := .succeeded .paymentReader command.name fields

def dropPending (reason : Reason) (detail : String) (s : Session) : List Event × Session :=
  match s.pendingDeduct with
  | some _ =>
    ([.failed .paymentReader "CardDeduct" reason ("flush failed: " ++ detail)], { s with pendingDeduct := none })
  | none => ([], s)

def answer (key : LoginBlock) (s : Session) (command : Command) (reply : Reply) : Verdict Command × Session :=
  match reply.status with
  | .ok =>
    match s.accept key command reply.data with
    | .ok result => result
    | .error e => (.ofError e, s)
  | .busy => (.again .busy "reader busy", s)
  | .noCard => (if command.needsCard then .unready [] else .refused .nak "no card" [], s)
  | .chunkError => (.refused .nak "chunk error" [], s)
  | .rejected code => (.refused .nak ("status " ++ Text.hexByte code) [], s)

def settle (command : Command) : Verdict Command × Session → Verdict Command × Session
  | (.refused reason detail events, s) =>
    match command with
    | .flush | .deduct _ =>
      let (more, s) := s.dropPending reason detail
      (.refused reason detail (events ++ more), s)
    | _ => (.refused reason detail events, s)
  | other => other

def judge (key : LoginBlock) (s : Session) (command : Command) (frame : Frame) : Verdict Command × Session :=
  match Reply.parse frame with
  | .error e => (.ofError e, s)
  | .ok reply =>
    if reply.kind = command.kind then settle command (s.answer key command reply)
    else (.unrelated ("type " ++ Text.hexByte reply.kind ++ " while waiting for " ++ command.name), s)

def asksAgain (s : Session) (command : Command) : Bool := command.needsCard && s.scanning

def giveUp (s : Session) (command : Command) (reason : Reason) : List Event × Session :=
  let s := if command.needsCard then s.stopScanning else s
  match command with
  | .flush => s.dropPending reason reason.code
  | _ => ([], s)

end Session

def judgeChunk (chunk : Chunk) (frame : Frame) : ChunkVerdict :=
  match Reply.parse frame with
  | .error e => .unrelated e.message
  | .ok reply =>
    if reply.kind = chunkType then
      match reply.status with
      | .ok => .accepted
      | .busy => .again .busy "reader busy"
      | status => .refused .nak ("chunk " ++ toString chunk.index ++ " rejected: " ++ status.name)
    else .unrelated ("type " ++ Text.hexByte reply.kind ++ " during upload")

def peripheral (key : LoginBlock) : Peripheral where
  Command := Command
  Chunk := Chunk
  Session := Session
  Scan := Scan
  Frame := Frame
  commandEq := inferInstance
  device := .paymentReader
  scanner := scanner .forward
  acknowledged := false
  enquiry := none
  name := Command.name
  request command seq := command.toFrame seq
  chunkRequest chunk seq := .ok (chunk.toFrame seq)
  judge := Session.judge key
  judgeChunk := judgeChunk
  asksAgain := Session.asksAgain
  giveUp := Session.giveUp

end ParkingStation.PaymentReader
