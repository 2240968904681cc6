import ParkingStation.Proofs.Exchange.Ledger
import ParkingStation.PaymentReader.Request

/-! The reply to a deduction opens it, the reply to the flush makes it final or fails it, and no other reply
touches it. -/

namespace ParkingStation.PaymentReader

open Exchange

variable {key : LoginBlock} {s : Session} {command : Command} {frame : Frame}

def receipt (record : Record) : Event := .succeeded .paymentReader "CardDeduct" record.fields

def isReceipt : Event → Bool
  | .succeeded _ command _ => command == "CardDeduct"
  | _ => false

def blamesFlush (detail : String) : Bool := "flush failed".toList.isPrefixOf detail.toList

def isLoss : Event → Bool
  | .failed _ command _ detail => command == "CardDeduct" && blamesFlush detail
  | _ => false

def loss (reason : Reason) (detail : String) : Event :=
  .failed .paymentReader "CardDeduct" reason ("flush failed: " ++ detail)

def Plain (events : List Event) : Prop := ∀ event ∈ events, isReceipt event = false ∧ isLoss event = false

lemma plain_nil : Plain [] := by simp [Plain]

def opensElse (s : String) : Bool := s.toList.head?.any (· != 'f')

lemma opensElse_append {s : String} (h : opensElse s = true) (t : String) : opensElse (s ++ t) = true := by
  unfold opensElse at *
  cases hs : s.toList <;> simp_all [String.toList_append]

lemma not_blamesFlush {s : String} (h : opensElse s = true) : blamesFlush s = false := by
  unfold opensElse at h
  unfold blamesFlush
  cases hs : s.toList with
  | nil => rfl
  | cons a as =>
    have ha : a ≠ 'f' := by simpa [hs] using h
    simp [List.isPrefixOf, ha.symm]

lemma not_blamesFlush_message (e : Error) : blamesFlush e.message = false := by
  cases e
  all_goals
    apply not_blamesFlush
    repeat apply opensElse_append
    rfl

def record? (frame : Frame) : Option Record :=
  match Reply.parse frame with
  | .ok reply => if reply.kind = 0x12 ∧ reply.status = .ok then (Record.parse reply.data).toOption else none
  | .error _ => none

def confirms (frame : Frame) : Bool :=
  match Reply.parse frame with
  | .ok reply => reply.kind = 0x13 ∧ reply.status = .ok
  | .error _ => false

def CutShort (frame : Frame) : Prop := frame.response = true ∧ frame.payload.length < 2

instance : DecidablePred CutShort := fun _ => inferInstanceAs (Decidable (_ ∧ _))

lemma parse_error {e : Error} (h : Reply.parse frame = .error e) :
    CutShort frame ∨ e = .unexpectedResponse (.request frame.kind) := by
  unfold Reply.parse at h
  split at h
  · rename_i hr
    refine .inl ⟨hr, ?_⟩
    rcases hp : frame.payload with _ | ⟨a, _ | ⟨b, data⟩⟩ <;> rw [hp] at h <;> simp at h ⊢
  · cases h
    exact .inr rfl

def Waits : Verdict Command → Prop
  | .again .. | .unrelated _ => True
  | _ => False

structure Neutral (s : Session) (command : Command) (result : Verdict Command × Session) : Prop where
  pending : result.2.pendingDeduct = s.pendingDeduct
  plain : Plain result.1.events
  followUps : ∀ events followUps, result.1 = .answered events followUps → .flush ∉ followUps
  refused : ∀ reason detail events, result.1 = .refused reason detail events →
    isLoss (.failed .paymentReader command.name reason detail) = false

lemma not_loss {reason : Reason} {detail : String} (h : blamesFlush detail = false) :
    isLoss (.failed .paymentReader command.name reason detail) = false := by
  simp [isLoss, h]

lemma neutral_ofError (s : Session) (command : Command) (e : Error) : Neutral s command (.ofError e, s) := by
  unfold Verdict.ofError
  split
  · exact ⟨rfl, plain_nil, by simp, by simp⟩
  · refine ⟨rfl, plain_nil, by simp, ?_⟩
    intro reason detail events h
    cases h
    exact not_loss (not_blamesFlush_message e)

lemma neutral_refused {reason : Reason} {detail : String} (h : blamesFlush detail = false) :
    Neutral s command (.refused reason detail [], s) := by
  refine ⟨rfl, plain_nil, by simp, ?_⟩
  intro reason detail events hv
  cases hv
  exact not_loss h

lemma neutral_accept {data : Bytes} {result : Verdict Command × Session} (hd : ∀ amount, command ≠ .deduct amount)
    (hf : command ≠ .flush) (h : s.accept key command data = .ok result) : Neutral s command result := by
  have done {events : List Event} {s' : Session} (hp : s'.pendingDeduct = s.pendingDeduct) (he : Plain events) :
      Neutral s command (.done events, s') := ⟨hp, he, by simp [Verdict.done], by simp [Verdict.done]⟩
  have named {fields : Fields} {name : String} (hn : name ≠ "CardDeduct") :
      Plain [.succeeded .paymentReader name fields] := by simp [Plain, isReceipt, isLoss, hn]
  cases command with
  | deduct amount => exact absurd rfl (hd amount)
  | flush => exact absurd rfl hf
  | getStatus =>
    cases data <;> cases h
    exact done rfl (named (by simp [Command.name]))
  | login1 =>
    obtain ⟨response, -, h⟩ := of_bind_ok h
    cases h
    exact ⟨rfl, plain_nil, by simp, by simp⟩
  | login2 | logout | setTime =>
    cases h
    exact done rfl (named (by simp [Command.name]))
  | uploadFile =>
    cases h
    exact ⟨rfl, plain_nil, by simp, by simp⟩
  | getCardId | getCardBalance | getTime | getFileVersions =>
    obtain ⟨_, -, h⟩ := of_bind_ok h
    cases h
    exact done rfl (named (by simp [Command.name]))

lemma neutral_answer (reply : Reply)
    (h : ∀ result, reply.status = .ok → s.accept key command reply.data = .ok result → Neutral s command result) :
    Neutral s command (s.answer key command reply) := by
  unfold Session.answer
  split
  · rename_i hst
    split
    · exact h _ hst ‹_›
    · exact neutral_ofError s _ _
  · exact ⟨rfl, plain_nil, by simp, by simp⟩
  · split
    · exact ⟨rfl, plain_nil, by simp, by simp⟩
    · exact neutral_refused (by decide)
  · exact neutral_refused (by decide)
  · exact neutral_refused (not_blamesFlush (opensElse_append (s := "status ") rfl _))

lemma dropPending_none (reason : Reason) (detail : String) (hs : s.pendingDeduct = none) :
    s.dropPending reason detail = ([], s) := by
  simp [Session.dropPending, hs]

lemma dropPending_some {record : Record} (reason : Reason) (detail : String) (hs : s.pendingDeduct = some record) :
    s.dropPending reason detail = ([loss reason detail], { s with pendingDeduct := none }) := by
  simp [Session.dropPending, hs, loss]

lemma settle_other {result : Verdict Command × Session} (hd : ∀ amount, command ≠ .deduct amount)
    (hf : command ≠ .flush) : Session.settle command result = result := by
  unfold Session.settle
  split
  · split
    · exact absurd rfl hf
    · exact absurd rfl (hd _)
    · rfl
  · rfl

lemma settle_none {result : Verdict Command × Session} (h : result.2.pendingDeduct = none) :
    Session.settle command result = result := by
  obtain ⟨verdict, session⟩ := result
  unfold Session.settle
  split
  · rename_i he
    cases he
    split <;> simp [dropPending_none _ _ h]
  · rfl

theorem neutral_judge (frame : Frame) (hd : ∀ amount, command ≠ .deduct amount) (hf : command ≠ .flush) :
    Neutral s command (s.judge key command frame) := by
  unfold Session.judge
  split
  · exact neutral_ofError s _ _
  · split
    · rw [settle_other hd hf]
      exact neutral_answer _ fun _ _ h => neutral_accept hd hf h
    · exact ⟨rfl, plain_nil, by simp, by simp⟩

inductive DeductReply (s : Session) (command : Command) (frame : Frame) (result : Verdict Command × Session) : Prop
  | opened (record : Record) (hr : record? frame = some record) (hv : result.1 = .answered [] [.flush])
      (hs : result.2.pendingDeduct = some record)
  | neutral (hr : record? frame = none) (hn : Neutral s command result)

theorem deductReply_judge (key : LoginBlock) (amount : UInt32) (frame : Frame) (hs : s.pendingDeduct = none) :
    DeductReply s (.deduct amount) frame (s.judge key (.deduct amount) frame) := by
  unfold Session.judge
  split
  · rename_i e he
    exact .neutral (by simp [record?, he]) (neutral_ofError s _ e)
  · rename_i reply he
    split
    · rename_i hk
      have hk : reply.kind = 0x12 := hk
      cases hr : record? frame with
      | some record =>
        have hst : reply.status = .ok := by
          simp only [record?, he, hk, true_and] at hr
          split at hr
          · assumption
          · cases hr
        have hp : Record.parse reply.data = .ok record := by
          simp only [record?, he, hk, hst, true_and, if_true] at hr
          cases hp : Record.parse reply.data <;> simp_all [Except.toOption]
        have ha : s.answer key (.deduct amount) reply =
            (.answered [] [.flush], { s.stopScanning with pendingDeduct := some record }) := by
          simp [Session.answer, hst, Session.accept, hp, bind, Except.bind, pure, Except.pure]
        rw [ha]
        exact .opened record hr rfl rfl
      | none =>
        have hn : Neutral s (.deduct amount) (s.answer key (.deduct amount) reply) := by
          refine neutral_answer reply fun result hst h => ?_
          obtain ⟨record, hp, -⟩ := of_bind_ok h
          simp [record?, he, hk, hst, hp, Except.toOption] at hr
        rw [settle_none (hn.pending.trans hs)]
        exact .neutral hr hn
    · rename_i hk
      have hk : ¬ reply.kind = 0x12 := hk
      exact .neutral (by simp [record?, he, hk]) ⟨rfl, plain_nil, by simp, by simp⟩

lemma cutShort_judge (key : LoginBlock) (s : Session) (command : Command) (h : CutShort frame) :
    s.judge key command frame = (.refused .noResponse (Error.truncated 2 frame.payload.length).message [], s) := by
  obtain ⟨hr, hl⟩ := h
  have hp : Reply.parse frame = .error (.truncated 2 frame.payload.length) := by
    unfold Reply.parse
    rw [if_pos hr]
    rcases hp : frame.payload with _ | ⟨a, _ | ⟨b, data⟩⟩
    · rfl
    · rfl
    · simp only [hp, List.length_cons] at hl
      omega
  unfold Session.judge
  rw [hp]
  rfl

inductive FlushReply (s : Session) (record : Record) (frame : Frame) (result : Verdict Command × Session) : Prop
  | final (hc : confirms frame = true) (hv : result.1 = .answered [receipt record] [])
      (hs : result.2.pendingDeduct = none)
  | lost (reason : Reason) (detail : String) (hc : confirms frame = false)
      (hv : result.1 = .refused reason detail [loss reason detail]) (hs : result.2.pendingDeduct = none)
  | waits (hc : confirms frame = false) (hw : Waits result.1) (hn : Neutral s .flush result)

theorem flushReply_judge {record : Record} (key : LoginBlock) (frame : Frame) (hs : s.pendingDeduct = some record)
    (hf : ¬ CutShort frame) : FlushReply s record frame (s.judge key .flush frame) := by
  have lost {reason : Reason} {detail : String} (hc : confirms frame = false) :
      FlushReply s record frame (Session.settle .flush (.refused reason detail [], s)) := by
    refine .lost reason detail hc ?_ ?_ <;> simp [Session.settle, dropPending_some _ _ hs]
  unfold Session.judge
  split
  · rename_i e he
    have hc : confirms frame = false := by simp [confirms, he]
    rcases parse_error he with hcut | rfl
    · exact absurd hcut hf
    · exact .waits hc trivial (neutral_ofError s _ _)
  · rename_i reply he
    split
    · rename_i hk
      have hk : reply.kind = 0x13 := hk
      have not_confirmed {status : Status} (hst : reply.status = status) (hne : status ≠ .ok) :
          confirms frame = false := by
        simp [confirms, he, hst, hne]
      unfold Session.answer
      split
      · rename_i hst
        have hc : confirms frame = true := by simp [confirms, he, hk, hst]
        simp only [Session.accept, hs]
        exact .final hc rfl rfl
      · rename_i hst
        refine .waits (not_confirmed hst (by simp)) trivial ⟨rfl, plain_nil, ?_, ?_⟩
        · simp [Session.settle]
        · simp [Session.settle]
      · rename_i hst
        exact lost (not_confirmed hst (by simp))
      · rename_i hst
        exact lost (not_confirmed hst (by simp))
      · rename_i code hst
        exact lost (not_confirmed hst (by simp))
    · rename_i hk
      have hk : ¬ reply.kind = 0x13 := hk
      exact .waits (by simp [confirms, he, hk]) trivial ⟨rfl, plain_nil, by simp, by simp⟩

lemma giveUp_flush {record : Record} (reason : Reason) (hs : s.pendingDeduct = some record) :
    s.giveUp .flush reason = ([loss reason reason.code], { s with pendingDeduct := none }) := by
  simp only [Session.giveUp, Command.needsCard]
  exact dropPending_some _ _ hs

lemma giveUp_other (s : Session) (reason : Reason) (hf : command ≠ .flush) :
    (s.giveUp command reason).1 = [] ∧ (s.giveUp command reason).2.pendingDeduct = s.pendingDeduct := by
  cases command <;> first | exact absurd rfl hf | exact ⟨rfl, rfl⟩

lemma request_flush (key : LoginBlock) (seq : UInt8) :
    ∃ bytes, Controller.requestBytes (p := peripheral key) Command.flush seq = .ok bytes :=
  ⟨_, rfl⟩

end ParkingStation.PaymentReader
