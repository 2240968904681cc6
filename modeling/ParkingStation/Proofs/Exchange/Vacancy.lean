import ParkingStation.Proofs.Exchange.Bookkeeping
import ParkingStation.Proofs.Exchange.Vigilance

namespace ParkingStation.Exchange

open Framing

variable {p : Peripheral} {now limit : Nat}

def IsPiece (p : Peripheral) (bytes : Bytes) : Prop :=
  ∃ chunk seq, Controller.chunkBytes (p := p) chunk seq = .ok bytes

namespace Controller

variable {a b c d : Controller p}

def attend (now : Nat) (c : Controller p) : Call → Controller p
  | .woken => c
  | .bytes data => c.hear now data
  | .wrote result => c.endWrite now result
  | .tick => c.fireAll now

lemma during_eq (now : Nat) (c : Controller p) (call : Call) :
    c.during now call.input = (c.attend now call).takeUpWork now := by
  cases call <;> rfl

def OnlyPieces (c d : Controller p) : Prop :=
  ∃ more, transmissions d.outbox = transmissions c.outbox ++ more ∧ ∀ bytes ∈ more, IsPiece p bytes

lemma onlyPieces_of_line (h : d.line = c.line) : c.OnlyPieces d :=
  ⟨[], by simpa using! congrArg (·.2.2.2) h, by simp⟩

lemma OnlyPieces.congr (h : c.OnlyPieces d) (hc : transmissions c.outbox = transmissions b.outbox) :
    b.OnlyPieces d := by
  rwa [OnlyPieces, ← hc]

lemma sendPiece_cases {k : Ongoing p.Chunk} (now : Nat) (hk : c.chunk = some k) :
    (c.sendPiece now).command = c.command ∧
      ((c.sendPiece now).phase = c.phase ∧ (∃ news, (c.sendPiece now).outbox = c.outbox ++ news ∧ reports news = [] ∧
          ∀ bytes ∈ transmissions news, IsPiece p bytes) ∨
        ∃ event : Event, event.isFault = false ∧ (c.sendPiece now).outbox = c.outbox ++ [.report event]) := by
  cases hb : chunkBytes k.item (nextSequence c.seq) with
  | ok bytes =>
    have hp : ∀ b ∈ [bytes], IsPiece p b := fun b hm => ⟨k.item, _, List.mem_singleton.mp hm ▸ hb⟩
    rw [sendPiece_ok hk hb]
    rcases transmitSpaced_cases now bytes { c with chunk := some ⟨k.item, k.sends + 1⟩, seq := nextSequence c.seq } with
      ⟨-, he⟩ | ⟨wait, -, he⟩ <;> rw [he]
    · exact ⟨rfl, .inl ⟨rfl, [.transmit bytes], rfl, rfl, hp⟩⟩
    · exact ⟨rfl, .inl ⟨rfl, [], (List.append_nil _).symm, rfl, by simp⟩⟩
  | error err =>
    rw [sendPiece_error hk hb]
    exact ⟨rfl, .inr ⟨_, rfl, rfl⟩⟩

lemma onlyPieces_sendPiece (now : Nat) (c : Controller p) : c.OnlyPieces (c.sendPiece now) := by
  cases hk : c.chunk with
  | none =>
    have he : c.sendPiece now = c := by simp only [sendPiece, hk]
    rw [he]
    exact onlyPieces_of_line rfl
  | some k =>
    obtain ⟨-, ⟨-, news, ho, -, hp⟩ | ⟨event, -, ho⟩⟩ := sendPiece_cases now hk
    · exact ⟨transmissions news, by rw [ho, transmissions_append], hp⟩
    · exact ⟨[], by simp [ho], by simp⟩

lemma onlyPieces_takeChunkReply {k : Ongoing p.Chunk} (now : Nat) (frame : p.Frame) (hk : c.chunk = some k) :
    c.OnlyPieces (c.takeChunkReply now frame) := by
  simp only [takeChunkReply, hk]
  split
  · exact onlyPieces_of_line rfl
  · unfold nextPiece
    split
    · exact (onlyPieces_sendPiece now _).congr rfl
    · exact ⟨[], by simp [report, advance, closeCycle, markAnswered], by simp⟩
  · split
    · exact (onlyPieces_sendPiece now _).congr rfl
    · exact (onlyPieces_of_line (line_abortUpload _ _ _)).congr rfl
  · exact (onlyPieces_of_line (line_abortUpload _ _ _)).congr rfl

lemma onlyPieces_repeatPiece (now : Nat) (trigger : Trigger) (reason : Reason) (detail : String) (c : Controller p) :
    c.OnlyPieces (c.repeatPiece now trigger reason detail) := by
  simp only [repeatPiece]
  split
  · exact (onlyPieces_sendPiece now _).congr rfl
  · exact (onlyPieces_of_line (line_abortUpload _ _ _)).congr rfl

lemma onlyPieces_breakCycle (trigger : Trigger) (reason : Reason) (detail : String) (c : Controller p) :
    c.OnlyPieces (c.breakCycle trigger reason detail) := by
  cases ha : c.accepts trigger with
  | false =>
    simp only [breakCycle, ha, Bool.false_eq_true, if_false]
    exact onlyPieces_of_line rfl
  | true => exact (onlyPieces_of_line (line_breakCycle ha)).congr rfl

lemma aloof_repeatOrAbandon (reason : Reason) (detail : String) (hc : c.command = none) :
    c.Aloof (c.repeatOrAbandon reason detail) := by
  rcases repeatOrAbandon_cases reason detail c with ⟨he, -⟩ | ⟨o, ho, -⟩ | ⟨-, he⟩
  · rw [he]
    exact .inl rfl
  · simp [hc] at ho
  · rw [he]
    exact aloof_abortUpload _ _ _

structure Vacant (a c : Controller p) : Prop where
  command : c.command = none
  session : c.session = a.session
  waiting : c.queue.commands = a.queue.commands
  polls : c.polls = a.polls
  faultless : (reports c.outbox).filter (·.isFault) = []
  pieces : ∀ bytes ∈ transmissions c.outbox, IsPiece p bytes

lemma Vacant.aloof (h : a.Vacant c) (ha : c.Aloof d) (hp : c.OnlyPieces d) : a.Vacant d := by
  have hq : ∀ bytes ∈ transmissions d.outbox, IsPiece p bytes := by
    obtain ⟨more, hd, hm⟩ := hp
    rw [hd]
    exact fun bytes hb => (List.mem_append.mp hb).elim (h.pieces bytes) (hm bytes)
  rcases ha with ha | ⟨event, he, ha⟩ <;> simp only [desk, report, Prod.mk.injEq] at ha
  · obtain ⟨hs, hc, hw, hn, hr⟩ := ha
    exact ⟨by simpa [h.command] using hc, hs.trans h.session, hw.trans h.waiting, hn.trans h.polls, hr ▸ h.faultless, hq⟩
  · obtain ⟨hs, hc, hw, hn, hr⟩ := ha
    refine ⟨by simpa [h.command] using hc, hs.trans h.session, hw.trans h.waiting, hn.trans h.polls, ?_, hq⟩
    rw [hr, reports_append, List.filter_append, h.faultless]
    simp [Event.isFault_of_isUpload he]

lemma Vacant.congr (h : a.Vacant c) (hd : d.desk = c.desk) (ho : d.outbox = c.outbox) : a.Vacant d :=
  h.aloof (.inl hd) ⟨[], by simp [ho], by simp⟩

lemma Vacant.breakCycle (h : a.Vacant c) (trigger : Trigger) (reason : Reason) (detail : String) :
    a.Vacant (c.breakCycle trigger reason detail) := by
  refine h.aloof ?_ (onlyPieces_breakCycle trigger reason detail c)
  simp only [Controller.breakCycle]
  split
  · exact (aloof_repeatOrAbandon (c := (c.advance trigger).closeCycle.resetReceiver) _ _ h.command).congr rfl
  · exact .inl rfl

lemma Vacant.repeatPiece (h : a.Vacant c) (now : Nat) (trigger : Trigger) (reason : Reason) (detail : String) :
    a.Vacant (c.repeatPiece now trigger reason detail) :=
  h.aloof (aloof_repeatPiece now trigger reason detail c) (onlyPieces_repeatPiece now trigger reason detail c)

lemma Vacant.takeItem (h : a.Vacant c) (now : Nat) (hp : c.phase ≠ .waitingAck) (item : Item p.Frame) :
    a.Vacant (c.takeItem now item) := by
  cases item with
  | corrupt fault => simp only [Controller.takeItem]; split <;> exact h.congr rfl rfl
  | ack =>
    simp only [Controller.takeItem, takeAck_refused hp]
    exact h
  | nak =>
    simp only [Controller.takeItem, takeNak]
    split
    · exact h.aloof
        ((aloof_repeatOrAbandon (c := (c.advance .nakReceived).markAnswered.closeCycle) _ _ h.command).congr rfl)
        ((onlyPieces_of_line (line_repeatOrAbandon _ _ _)).congr rfl)
    · exact h
  | frame frame =>
    simp only [Controller.takeItem]
    split
    · simp only [takeReply, h.command]
      exact h.congr rfl rfl
    · split
      · cases hk : c.chunk with
        | none =>
          simp only [takeChunkReply, hk]
          exact h
        | some k => exact h.aloof (aloof_takeChunkReply frame hk) (onlyPieces_takeChunkReply now frame hk)
      · exact h.congr rfl rfl

lemma Vacant.not_waitingAck (h : a.Vacant c) (hm : c.Matched limit) : c.phase ≠ .waitingAck := by
  intro hp
  obtain ⟨-, o, hc, -⟩ : Fits limit c.command c.chunk .waitingAck := hp ▸ hm.fits
  simp [h.command] at hc

lemma Vacant.takeItems (now : Nat) (items : List (Item p.Frame)) {c : Controller p} (h : a.Vacant c)
    (hm : c.Matched limit) : a.Vacant (items.foldl (Controller.takeItem now) c) := by
  induction items generalizing c with
  | nil => exact h
  | cons item items ih =>
    exact ih (h.takeItem now (h.not_waitingAck hm) item) ((moves_takeItem now c item).keep Move.matched hm)

lemma Vacant.settleSpoilt (h : a.Vacant c) (now : Nat) : a.Vacant (c.settleSpoilt now) := by
  unfold Controller.settleSpoilt
  split
  · split
    · have hv : a.Vacant { c with spoilt := none } := h.congr rfl rfl
      simp only [rejectReply]
      split
      · exact hv.breakCycle _ _ _
      · split
        · exact hv.repeatPiece now _ _ _
        · exact hv
    · exact h
  · exact h

lemma Vacant.drain (h : a.Vacant c) (now : Nat) (hm : c.Matched limit) : a.Vacant (c.drain now) := by
  have hr : a.Vacant { c with receiver := (c.receiver.readAll p.scanner).2 } := h.congr rfl rfl
  have hw := (hr.takeItems now (c.receiver.readAll p.scanner).1 (hm.congr rfl rfl rfl rfl id)).settleSpoilt now
  change a.Vacant (Controller.watchGap now _)
  unfold Controller.watchGap
  split <;> exact hw.congr rfl rfl

lemma Vacant.dropCandidate (h : a.Vacant c) (now : Nat) (hm : c.Matched limit) : a.Vacant (c.dropCandidate now) := by
  simp only [Controller.dropCandidate, Receiver.giveUp]
  split
  · exact h.congr rfl rfl
  · rename_i fault _
    have hr : a.Vacant { c with receiver := .skip p.scanner c.receiver.seen c.receiver.ahead } := h.congr rfl rfl
    exact hr.takeItem now (h.not_waitingAck hm) (.corrupt fault)

lemma timing_fire (timer : Timer) (now : Nat) (timers : Timers) : (timers.fire timer now).2.timing = timers.timing := by
  unfold Timers.fire
  split
  · rfl
  · split
    · cases timer <;> rfl
    · rfl

lemma Vacant.endGap (h : a.Vacant c) (now : Nat) (hm : c.Matched limit) : a.Vacant (c.fire .frameGap now) := by
  have hv : a.Vacant { c with timers := (c.timers.fire .frameGap now).2 } := h.congr rfl rfl
  have hn : Matched limit { c with timers := (c.timers.fire .frameGap now).2 } :=
    hm.congr (timing_fire .frameGap now c.timers) rfl rfl rfl id
  simp only [Controller.fire]
  split
  · exact (hv.dropCandidate now hn).drain now ((moves_dropCandidate now _).keep Move.matched hn)
  · exact hv

lemma Vacant.missReply (h : a.Vacant c) (now : Nat) {timer : Timer} (ht : timer = .ack ∨ timer = .response) :
    a.Vacant (c.fire timer now) := by
  have hv : a.Vacant { c with timers := (c.timers.fire timer now).2 } := h.congr rfl rfl
  simp only [Controller.fire]
  split
  · rcases ht with rfl | rfl
    · exact hv.breakCycle _ _ _
    · simp only [missResponse]
      split
      · exact hv.repeatPiece now _ _ _
      · exact hv.breakCycle _ _ _
  · exact hv

lemma Vacant.held {n : Nat} {bytes : Bytes} (h : a.Vacant c) (hg : c.Guarded n) (hm : c.Matched limit)
    (hh : c.held = some bytes) : IsPiece p bytes := by
  have hw := hg.awaits
  have hf := hm.fits
  cases hp : c.phase <;> simp only [Awaits, Fits, hp, hh, h.command, reduceCtorEq, false_and, and_false, or_false,
    exists_false] at hw hf
  obtain ⟨-, -, k, b, -, hb, he⟩ := hw
  cases hh.symm.trans he
  exact ⟨k.item, _, hb⟩

lemma Vacant.release {n : Nat} (h : a.Vacant c) (now : Nat) (hg : c.Guarded n) (hm : c.Matched limit) :
    a.Vacant (c.fire .writeSpacing now) := by
  rcases fire_writeSpacing now c with hf | ⟨-, hf⟩ <;> rw [hf]
  · exact h
  · cases hh : c.held with
    | none =>
      have hr : (c.stopTimer .writeSpacing).releaseHeld = c.stopTimer .writeSpacing := by
        simp [releaseHeld, stopTimer, hh]
      rw [hr]
      exact h.congr rfl rfl
    | some bytes =>
      have hp : ∀ b ∈ [bytes], IsPiece p b := fun b hb => List.mem_singleton.mp hb ▸ h.held hg hm hh
      refine h.aloof (.inl (by simp [desk, releaseHeld, stopTimer, hh, transmit])) ⟨[bytes], ?_, hp⟩
      simp [releaseHeld, stopTimer, hh, transmit]

theorem Vacant.attend {waiting : List Bytes} {call : Call} (h : a.Vacant c)
    (hr : c.Rested limit now waiting.length) (hi : call.InTurn waiting) : a.Vacant (c.attend now call) := by
  cases call with
  | woken => exact h
  | bytes data =>
    have hv : a.Vacant { c with timers := c.timers.heard now, receiver := c.receiver.append data } := h.congr rfl rfl
    exact hv.drain now (hr.matched.congr rfl rfl rfl rfl id)
  | wrote result =>
    cases result with
    | failed | timedOut => exact h.breakCycle _ _ _
    | completed =>
      simp only [Controller.attend, endWrite, completeWrite]
      split
      · split <;> exact h.congr rfl rfl
      · exact h
  | tick =>
    obtain rfl : waiting = [] := hi
    obtain ⟨hm, hp⟩ := (moves_fire .frameGap (by simp) now c).poised hr.matched hr.poised
    have hv := (h.endGap now hr.matched).release now hp.guarded hm
    exact (hv.missReply now (.inl rfl)).missReply now (.inr rfl)

end Controller

end ParkingStation.Exchange
