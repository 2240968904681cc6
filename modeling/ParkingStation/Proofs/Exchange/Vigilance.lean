import ParkingStation.Proofs.Exchange.Coherence

/-! As soon as the line has taken every write, one timer runs that will end the wait, or there is no work. Until
then the writes that the line has yet to take stand in for a timer. -/

namespace ParkingStation.Exchange

variable {p : Peripheral} {now limit n w : Nat}

namespace Controller

variable {c d : Controller p}

def armed (c : Controller p) : List Timer :=
  [.writeSpacing, .ack, .response].filter fun timer => c.timers.isRunning timer

def RequestHeld (c : Controller p) : Prop :=
  ∃ o bytes, c.command = some o ∧ requestBytes o.item c.seq = .ok bytes ∧ c.held = some bytes

def PieceHeld (c : Controller p) : Prop :=
  ∃ o bytes, c.chunk = some o ∧ chunkBytes o.item c.seq = .ok bytes ∧ c.held = some bytes

def EnquiryHeld (c : Controller p) : Prop := ∃ bytes, p.enquiry = some bytes ∧ c.held = some bytes

/-- One timer runs while the controller is at work, and none while it is idle. -/
def Attended (c : Controller p) : Prop :=
  match c.phase with
  | .idle => c.armed = [] ∧ c.held = none
  | .sendingRequest => c.armed = [.writeSpacing] ∧ c.RequestHeld
  | .sendingChunk => c.armed = [.writeSpacing] ∧ c.PieceHeld
  | .waitingAck => c.armed = [.ack] ∧ c.held = none
  | .waitingResponse => c.armed = [.response] ∧ c.held = none ∨ c.armed = [.writeSpacing] ∧ c.EnquiryHeld
  | .waitingChunkResponse => c.armed = [.response] ∧ c.held = none

def Awaits (n : Nat) (c : Controller p) : Prop :=
  match c.phase with
  | .idle => c.timers.ack = none ∧ c.timers.response = none ∧ c.held = none
  | .sendingRequest => c.timers.ack = none ∧ c.timers.response = none ∧ (c.RequestHeld ∨ c.held = none ∧ 1 ≤ n)
  | .sendingChunk => c.timers.ack = none ∧ c.timers.response = none ∧ (c.PieceHeld ∨ c.held = none ∧ 1 ≤ n)
  | .waitingAck => c.timers.ack.isSome ∧ c.timers.response = none ∧ c.held = none
  | .waitingResponse =>
    c.timers.ack = none ∧
      (c.timers.response.isSome ∧ c.held = none ∨
        c.timers.response = none ∧ (c.EnquiryHeld ∨ c.held = none ∧ 1 ≤ n))
  | .waitingChunkResponse => c.timers.ack = none ∧ c.timers.response.isSome ∧ c.held = none

structure Guarded (n : Nat) (c : Controller p) : Prop where
  spacing : c.held.isSome = c.timers.writeSpacing.isSome
  apart : c.held.isSome → n = 0
  count : c.timers.answered ≤ c.timers.opened
  opened : c.timers.ack.isSome ∨ c.timers.response.isSome → c.timers.answered < c.timers.opened
  awaits : c.Awaits n

structure Silent (c : Controller p) : Prop where
  held : c.held = none
  spacing : c.timers.writeSpacing = none
  ack : c.timers.ack = none
  response : c.timers.response = none
  count : c.timers.answered ≤ c.timers.opened

lemma Silent.closeCycle (h : c.timers.answered ≤ c.timers.opened) : c.closeCycle.Silent :=
  ⟨rfl, rfl, rfl, rfl, h⟩

lemma Silent.congr (h : c.Silent) (hh : d.held = c.held) (ht : d.timers = c.timers) : d.Silent :=
  ⟨hh ▸ h.held, ht ▸ h.spacing, ht ▸ h.ack, ht ▸ h.response, ht ▸ h.count⟩

lemma Guarded.silent (h : c.Guarded n) (hp : c.phase = .idle) : c.Silent := by
  obtain ⟨ha, hr, hh⟩ : c.timers.ack = none ∧ c.timers.response = none ∧ c.held = none := by
    simpa only [Awaits, hp] using h.awaits
  refine ⟨hh, ?_, ha, hr, h.count⟩
  simpa [hh] using h.spacing

def load (w : Nat) (c : Controller p) : Nat := w + (transmissions c.outbox).length

def Quiet (now w : Nat) (c : Controller p) : Prop := 1 ≤ c.load w → c.timers.writeWait now = none

structure Poised (now w : Nat) (c : Controller p) : Prop where
  guarded : c.Guarded (c.load w)
  quiet : c.Quiet now w

def line (c : Controller p) : Machine × Timers × Option Bytes × List Bytes :=
  (c.machine, c.timers, c.held, transmissions c.outbox)

lemma line_sameLine (hd : c.SameLine d) : d.line = c.line := by
  obtain ⟨session, queue, polls, events, rfl⟩ := hd
  simp [line]

lemma line_abortUpload (reason : Reason) (detail : String) (c : Controller p) :
    (c.abortUpload reason detail).line = c.line := by
  simp [line, abortUpload, report]

lemma line_repeatOrAbandon (reason : Reason) (detail : String) (c : Controller p) :
    (c.repeatOrAbandon reason detail).line = c.line := by
  rcases repeatOrAbandon_cases reason detail c with ⟨he, -⟩ | ⟨o, -, hd⟩ | ⟨-, he⟩
  · rw [he]
  · exact (line_sameLine hd).trans rfl
  · rw [he]
    exact line_abortUpload reason detail c

lemma line_breakCycle {trigger : Trigger} {reason : Reason} {detail : String} (ha : c.accepts trigger = true) :
    (c.breakCycle trigger reason detail).line = (c.advance trigger).closeCycle.line := by
  simp only [breakCycle, ha, if_true]
  exact line_repeatOrAbandon reason detail _

lemma quiet_of_line (hl : d.line = c.line) (h : c.Quiet now w) : d.Quiet now w := by
  simp only [line, Prod.mk.injEq] at hl
  obtain ⟨-, ht, -, ho⟩ := hl
  simpa only [Quiet, load, ht, ho] using! h

lemma Silent.guarded_of_line (hp : c.phase = .idle) (h : c.Silent) (hl : d.line = c.line) (n : Nat) :
    d.Guarded n := by
  simp only [line, Prod.mk.injEq] at hl
  obtain ⟨hm, ht, hh, -⟩ := hl
  have hi : d.phase = .idle := (congrArg Machine.phase hm).trans hp
  refine ⟨by simp [hh, ht, h.held, h.spacing], by simp [hh, h.held], ht ▸ h.count, by simp [ht, h.ack, h.response], ?_⟩
  simp only [Awaits, hi, hh, ht]
  exact ⟨h.ack, h.response, h.held⟩

lemma Silent.poised (hp : c.phase = .idle) (h : c.Silent) (hq : c.Quiet now w) (hl : d.line = c.line) :
    d.Poised now w :=
  ⟨Silent.guarded_of_line hp h hl _, quiet_of_line hl hq⟩

lemma transmitSpaced_quiet (bytes : Bytes) (hq : c.Quiet now w) :
    c.timers.writeWait now = none ∧ c.transmitSpaced now bytes = c.transmit bytes ∧
        (c.transmit bytes).load w = c.load w + 1 ∨
      c.load w = 0 ∧ ∃ deadline, c.transmitSpaced now bytes =
        { c with timers := { c.timers with writeSpacing := some deadline }, held := some bytes } := by
  rcases transmitSpaced_cases now bytes c with ⟨hn, he⟩ | ⟨wait, hs, he⟩
  · exact .inl ⟨hn, he, by simp [load, transmit, Nat.add_assoc]⟩
  · refine .inr ⟨?_, _, he⟩
    by_cases hl : 1 ≤ c.load w
    · simp [hq hl] at hs
    · omega

lemma Silent.poised_transmitSpaced (bytes : Bytes) (h : c.Silent) (hq : c.Quiet now w)
    (ht : (c.transmit bytes).Awaits (c.load w + 1))
    (hd : ∀ deadline, Awaits 0
      { c with timers := { c.timers with writeSpacing := some deadline }, held := some bytes }) :
    (c.transmitSpaced now bytes).Poised now w := by
  rcases transmitSpaced_quiet bytes hq with ⟨hn, he, hl⟩ | ⟨hl, deadline, he⟩
  · rw [he]
    refine ⟨⟨?_, ?_, h.count, ?_, hl ▸ ht⟩, fun _ => hn⟩
    · simp [transmit, h.held, h.spacing]
    · simp [transmit, h.held]
    · simp [transmit, h.ack, h.response]
  · rw [he]
    have hz : load w { c with timers := { c.timers with writeSpacing := some deadline }, held := some bytes } = 0 := hl
    refine ⟨⟨rfl, fun _ => hz, h.count, ?_, hz ▸ hd deadline⟩, ?_⟩
    · simp [h.ack, h.response]
    · intro h1
      omega

lemma poised_sendRequest {o : Ongoing p.Command} (h : c.Silent) (hp : c.phase = .sendingRequest)
    (hc : c.command = some o) (hq : c.Quiet now w) : (c.sendRequest now).Poised now w := by
  cases hb : requestBytes o.item (nextSequence c.seq) with
  | ok bytes =>
    rw [sendRequest_ok hc hb]
    refine Silent.poised_transmitSpaced bytes (h.congr rfl rfl) hq ?_ fun deadline => ?_
    · simp only [Awaits, transmit, phase] at hp ⊢
      simp only [hp]
      exact ⟨h.ack, h.response, .inr ⟨h.held, Nat.le_add_left 1 _⟩⟩
    · simp only [Awaits, phase] at hp ⊢
      simp only [hp]
      exact ⟨h.ack, h.response, .inl ⟨_, bytes, rfl, hb, rfl⟩⟩
  | error err =>
    rw [sendRequest_error hc hb]
    have hi : ({ c with command := none, seq := nextSequence c.seq }.advance .writeFailed).phase = .idle :=
      phase_advance hp rfl
    exact Silent.poised hi (h.congr rfl rfl) hq (by simp [line, report])

lemma poised_sendPiece {o : Ongoing p.Chunk} (h : c.Silent) (hp : c.phase = .sendingChunk) (hk : c.chunk = some o)
    (hq : c.Quiet now w) : (c.sendPiece now).Poised now w := by
  cases hb : chunkBytes o.item (nextSequence c.seq) with
  | ok bytes =>
    rw [sendPiece_ok hk hb]
    refine Silent.poised_transmitSpaced bytes (h.congr rfl rfl) hq ?_ fun deadline => ?_
    · simp only [Awaits, transmit, phase] at hp ⊢
      simp only [hp]
      exact ⟨h.ack, h.response, .inr ⟨h.held, Nat.le_add_left 1 _⟩⟩
    · simp only [Awaits, phase] at hp ⊢
      simp only [hp]
      exact ⟨h.ack, h.response, .inl ⟨_, bytes, rfl, hb, rfl⟩⟩
  | error err =>
    rw [sendPiece_error hk hb]
    have hi : ({ c with chunk := some ⟨o.item, o.sends + 1⟩, seq := nextSequence c.seq }.advance .writeFailed).phase =
        .idle := phase_advance hp rfl
    exact Silent.poised hi (h.congr rfl rfl) hq (line_abortUpload _ _ _)

lemma poised_breakCycle {trigger : Trigger} {reason : Reason} {detail : String} (h : c.Poised now w)
    (hn : c.phase.next? p.acknowledged trigger = some .idle) : (c.breakCycle trigger reason detail).Poised now w := by
  have hi : (c.advance trigger).closeCycle.phase = .idle := phase_advance rfl hn
  exact Silent.poised hi (.closeCycle h.guarded.count) h.quiet (line_breakCycle (by simp [accepts, hn]))

lemma poised_takeNak (h : c.Poised now w) (hn : c.phase.next? p.acknowledged .nakReceived = some .idle) :
    c.takeNak.Poised now w := by
  have ha : c.accepts .nakReceived = true := by simp [accepts, hn]
  have hi : (c.advance .nakReceived).markAnswered.closeCycle.phase = .idle := phase_advance rfl hn
  simp only [takeNak, ha, if_true]
  exact Silent.poised hi (.closeCycle (Nat.le_refl _)) h.quiet (line_repeatOrAbandon _ _ _)

lemma poised_repeatPiece {trigger : Trigger} {o : Ongoing p.Chunk} (reason : Reason) (detail : String)
    (h : c.Poised now w) (hp : c.phase = .waitingChunkResponse) (hk : c.chunk = some o)
    (hn : Phase.next? p.acknowledged .waitingChunkResponse trigger = some .sendingChunk) :
    (c.repeatPiece now trigger reason detail).Poised now w := by
  have hs : c.closeCycle.resetReceiver.Silent := ⟨rfl, rfl, rfl, rfl, h.guarded.count⟩
  have hi : (c.closeCycle.resetReceiver.advance .chunkError).phase = .idle := phase_advance hp rfl
  simp only [repeatPiece]
  split
  · exact poised_sendPiece (hs.congr rfl rfl) (phase_advance hp hn) hk h.quiet
  · exact Silent.poised hi (hs.congr rfl rfl) h.quiet (line_abortUpload _ _ _)

lemma guarded_startResponse (hp : c.phase = .waitingResponse ∨ c.phase = .waitingChunkResponse) (hh : c.held = none)
    (hs : c.timers.writeSpacing = none) (ha : c.timers.ack = none) (hc : c.timers.answered ≤ c.timers.opened)
    (n : Nat) : (c.startTimer .response now).Guarded n := by
  refine ⟨?_, ?_, Nat.le_succ_of_le hc, fun _ => Nat.lt_succ_of_le hc, ?_⟩
  · simp [startTimer, Timers.start, Timers.setDeadline, Timer.guardsReply, hh, hs]
  · simp [startTimer, hh]
  · simp only [Awaits, startTimer, phase] at hp ⊢
    rcases hp with hp | hp <;> simp only [hp]
    · exact ⟨ha, .inl ⟨rfl, hh⟩⟩
    · exact ⟨ha, rfl, hh⟩

lemma guarded_startAck (h : c.Silent) (hp : c.phase = .waitingAck) (n : Nat) :
    (c.startTimer .ack now).Guarded n := by
  refine ⟨?_, ?_, Nat.le_succ_of_le h.count, fun _ => Nat.lt_succ_of_le h.count, ?_⟩
  · simp [startTimer, Timers.start, Timers.setDeadline, Timer.guardsReply, h.held, h.spacing]
  · simp [startTimer, h.held]
  · simp only [Awaits, startTimer, phase] at hp ⊢
    simp only [hp]
    exact ⟨rfl, h.response, h.held⟩

lemma poised_takeAck (h : c.Poised now w) (hp : c.phase = .waitingAck) : (c.takeAck now).Poised now w := by
  have hn : c.phase.next? p.acknowledged .ackReceived = some .waitingResponse := by simp [hp, Phase.next?]
  have ha : c.accepts .ackReceived = true := by simp [accepts, hn]
  have hw : c.timers.ack.isSome ∧ c.timers.response = none ∧ c.held = none := by
    simpa only [Awaits, hp] using h.guarded.awaits
  have hs : ((c.advance .ackReceived).markAnswered.stopTimer .ack).Silent := by
    refine ⟨hw.2.2, ?_, rfl, hw.2.1, Nat.le_refl _⟩
    simpa [hw.2.2] using! h.guarded.spacing
  have hr : ((c.advance .ackReceived).markAnswered.stopTimer .ack).phase = .waitingResponse := phase_advance rfl hn
  simp only [takeAck, ha, if_true]
  split
  · rename_i bytes he
    refine hs.poised_transmitSpaced bytes h.quiet ?_ fun deadline => ?_
    · simp only [Awaits, transmit, phase] at hr ⊢
      simp only [hr]
      exact ⟨hs.ack, .inr ⟨hs.response, .inr ⟨hs.held, Nat.le_add_left 1 _⟩⟩⟩
    · simp only [Awaits, phase] at hr ⊢
      simp only [hr]
      exact ⟨hs.ack, .inr ⟨hs.response, .inl ⟨bytes, he, rfl⟩⟩⟩
  · exact ⟨guarded_startResponse (.inl hr) hs.held hs.spacing hs.ack hs.count _, h.quiet⟩

lemma Poised.aside (h : c.Poised now w) (session : p.Session) (receiver : Framing.Receiver p.Scan)
    (spoilt : Option Framing.Fault) (gap : Option Nat) :
    Poised now w
      { c with
        session := session
        receiver := receiver
        spoilt := spoilt
        timers := { c.timers with frameGap := gap } } :=
  ⟨⟨h.guarded.spacing, h.guarded.apart, h.guarded.count, h.guarded.opened, h.guarded.awaits⟩, h.quiet⟩

lemma poised_takeReply {o : Ongoing p.Command} (frame : p.Frame) (h : c.Poised now w)
    (hp : c.phase = .waitingResponse) (hc : c.command = some o) : (c.takeReply frame).Poised now w := by
  have hs : c.answered.Silent := .closeCycle (Nat.le_refl _)
  have hi : c.answered.phase = .idle := phase_advance (c := { c with command := none }) hp rfl
  rcases hv : p.judge c.session o.item frame with ⟨verdict, session⟩
  rw [takeReply_eq hc hv]
  rcases conclude_cases o session verdict with ⟨-, he⟩ | hd | ⟨reason, detail, he⟩
  · rw [he]
    exact h.aside session c.receiver c.spoilt c.timers.frameGap
  · exact Silent.poised hi hs h.quiet (line_sameLine hd)
  · rw [he]
    exact Silent.poised hi hs h.quiet (line_repeatOrAbandon reason detail _)

lemma poised_nextPiece (h : c.Silent) (hp : c.phase = .waitingChunkResponse) (hq : c.Quiet now w) :
    (c.nextPiece now).Poised now w := by
  unfold nextPiece
  split
  · rename_i item queue hn
    exact poised_sendPiece (h.congr rfl rfl) (phase_advance hp rfl) rfl hq
  · have hi : (c.advance .allChunksDone).phase = .idle := phase_advance hp rfl
    exact Silent.poised hi (h.congr rfl rfl) hq (by simp [line, report])

lemma poised_takeChunkReply {o : Ongoing p.Chunk} (frame : p.Frame) (h : c.Poised now w)
    (hp : c.phase = .waitingChunkResponse) (hk : c.chunk = some o) : (c.takeChunkReply now frame).Poised now w := by
  have hs : c.markAnswered.closeCycle.Silent := .closeCycle (Nat.le_refl _)
  have hi : (c.markAnswered.closeCycle.advance .chunkError).phase = .idle := phase_advance hp rfl
  simp only [takeChunkReply, hk]
  split
  · exact h
  · exact poised_nextPiece (hs.congr rfl rfl) hp h.quiet
  · split
    · exact poised_sendPiece (hs.congr rfl rfl) (phase_advance hp rfl) hk h.quiet
    · exact Silent.poised hi (hs.congr rfl rfl) h.quiet (line_abortUpload _ _ _)
  · exact Silent.poised hi (hs.congr rfl rfl) h.quiet (line_abortUpload _ _ _)

lemma Guarded.not_lapsed {timer : Timer} (h : c.Guarded n) (hd : (c.timers.deadline timer).isSome)
    (ht : timer = .ack ∧ (c.timers.isAnswered = true ∨ c.phase ≠ .waitingAck) ∨
      timer = .response ∧
        (c.timers.isAnswered = true ∨ c.phase ≠ .waitingResponse ∧ c.phase ≠ .waitingChunkResponse)) : False := by
  have ho : c.timers.isAnswered = true → ¬ (c.timers.ack.isSome ∨ c.timers.response.isSome) := by
    intro ha hs
    have hl := h.opened hs
    simp only [Timers.isAnswered, beq_iff_eq] at ha
    omega
  have hw := h.awaits
  rcases ht with ⟨rfl, ha | hp⟩ | ⟨rfl, ha | hp⟩
  · exact ho ha (.inl hd)
  · simp only [Timers.deadline] at hd
    cases hc : c.phase <;> simp_all [Awaits]
  · exact ho ha (.inr hd)
  · simp only [Timers.deadline] at hd
    cases hc : c.phase <;> simp_all [Awaits]

theorem Move.poised {xs : List (Judgement p)} {a b : Controller p} (m : Move now a xs b) (hm : a.Matched limit)
    (h : a.Poised now w) : b.Poised now w := by
  cases m with
  | take hi hc hk hq | takePiece hi hc hk hq =>
    exact Silent.poised hi (h.guarded.silent hi) h.quiet rfl
  | request hi hc =>
    exact poised_sendRequest ((h.guarded.silent hi).congr rfl rfl) (phase_advance hi rfl) hc h.quiet
  | piece hi hc hk =>
    exact poised_sendPiece ((h.guarded.silent hi).congr rfl rfl) (phase_advance hi rfl) hk h.quiet
  | fail hp hn => exact poised_breakCycle h hn
  | repeatPiece hp ht =>
    obtain ⟨-, o, hk, -⟩ : Fits limit a.command a.chunk .waitingChunkResponse := hp ▸ hm.fits
    rcases ht with rfl | rfl <;> exact poised_repeatPiece _ _ h hp hk rfl
  | receive receiver => exact h.aside a.session receiver a.spoilt a.timers.frameGap
  | spoil fault hp => exact h.aside a.session a.receiver (some fault) a.timers.frameGap
  | forgive => exact h.aside a.session a.receiver none a.timers.frameGap
  | ack hp => exact poised_takeAck h hp
  | nak hn => exact poised_takeNak h hn
  | reply frame hp hc => exact poised_takeReply frame h hp hc
  | pieceReply frame hp hk => exact poised_takeChunkReply frame h hp hk
  | watch =>
    unfold watchGap
    split
    · exact h.aside a.session a.receiver a.spoilt (some _)
    · exact h.aside a.session a.receiver a.spoilt none
  | endGap => exact h.aside a.session a.receiver a.spoilt none
  | lapse hd ht => exact (h.guarded.not_lapsed hd ht).elim

lemma Moves.poised {xs : List (Judgement p)} {a b : Controller p} (m : Moves (Move now) a xs b)
    (hm : a.Matched limit) (h : a.Poised now w) : b.Matched limit ∧ b.Poised now w :=
  m.keep (P := fun c => c.Matched limit ∧ c.Poised now w) (fun m h => ⟨m.matched h.1, m.poised h.1 h.2⟩) ⟨hm, h⟩

lemma Guarded.completeWrite (h : c.Guarded n) (hh : c.held = none) (ha : c.accepts .writeCompleted = true) (m : Nat) :
    (c.completeWrite now).Guarded m := by
  have hs : c.timers.writeSpacing = none := by simpa [hh] using h.spacing
  have hw := h.awaits
  obtain ⟨target, hn⟩ := Option.isSome_iff_exists.mp ha
  have hp : (c.advance .writeCompleted).phase = target := phase_advance rfl hn
  simp only [Controller.completeWrite, ha, if_true]
  cases hc : c.phase <;> simp only [hc, Phase.next?, Option.some.injEq, reduceCtorEq, Awaits] at hn hw
  · have hq : (c.advance .writeCompleted).Silent := ⟨hh, hs, hw.1, hw.2.1, h.count⟩
    cases hk : p.acknowledged <;> simp only [hk, Bool.false_eq_true, if_false, if_true] at hn <;> subst hn <;>
      simp only [hp]
    · exact guarded_startResponse (.inl hp) hh hs hw.1 h.count m
    · exact guarded_startAck hq hp m
  · subst hn
    simp only [hp]
    exact guarded_startResponse (.inl hp) hh hs hw.1 h.count m
  · subst hn
    simp only [hp]
    exact guarded_startResponse (.inr hp) hh hs hw.1 h.count m

lemma Guarded.endWrite (result : WriteResult) (h : c.Guarded n) (hn : 1 ≤ n) (m : Nat) :
    (c.endWrite now result).Guarded m := by
  have hh : c.held = none := by
    cases hh : c.held with
    | none => rfl
    | some bytes => exact absurd (h.apart (by simp [hh])) (by omega)
  have hs : c.timers.writeSpacing = none := by simpa [hh] using h.spacing
  have hw := h.awaits
  have busy {trigger : Trigger} (ht : trigger ∈ [.writeCompleted, .writeFailed, .writeTimeout])
      (ha : c.accepts trigger = false) : c.Guarded m := by
    refine ⟨h.spacing, by simp [hh], h.count, h.opened, ?_⟩
    revert ha hw
    unfold accepts Awaits
    cases hp : c.phase <;> cases trigger <;> simp_all [Phase.next?]
  have failed {trigger : Trigger} {reason : Reason} {detail : String}
      (ht : trigger ∈ [.writeFailed, .writeTimeout]) : (c.breakCycle trigger reason detail).Guarded m := by
    cases ha : c.accepts trigger with
    | false =>
      simp only [breakCycle, ha, Bool.false_eq_true, if_false]
      exact busy (by simp_all) ha
    | true =>
      have hi : (c.advance trigger).closeCycle.phase = .idle :=
        phase_advance rfl (next_fail (by revert ht; cases trigger <;> simp) ha)
      exact Silent.guarded_of_line hi (.closeCycle h.count) (line_breakCycle ha) m
  cases result with
  | failed detail => exact failed (by simp)
  | timedOut => exact failed (by simp)
  | completed =>
    cases ha : c.accepts .writeCompleted with
    | false =>
      simp only [Controller.endWrite, Controller.completeWrite, ha, Bool.false_eq_true, if_false]
      exact busy (by simp) ha
    | true => exact h.completeWrite hh ha m

lemma endWrite_line (now : Nat) (result : WriteResult) (c : Controller p) :
    transmissions (c.endWrite now result).outbox = transmissions c.outbox ∧
      (c.endWrite now result).timers.writeWait now = c.timers.writeWait now := by
  have broken (trigger : Trigger) (reason : Reason) (detail : String) :
      transmissions (c.breakCycle trigger reason detail).outbox = transmissions c.outbox ∧
        (c.breakCycle trigger reason detail).timers.writeWait now = c.timers.writeWait now := by
    cases ha : c.accepts trigger with
    | false => simp [breakCycle, ha]
    | true =>
      have hl : (c.breakCycle trigger reason detail).line = _ := line_breakCycle ha
      simp only [line, Prod.mk.injEq] at hl
      obtain ⟨-, ht, -, ho⟩ := hl
      rw [ht, ho]
      exact ⟨rfl, rfl⟩
  cases result with
  | failed detail => exact broken _ _ _
  | timedOut => exact broken _ _ _
  | completed =>
    simp only [endWrite, completeWrite]
    split
    · split <;> exact ⟨rfl, rfl⟩
    · exact ⟨rfl, rfl⟩

lemma Guarded.release (h : c.Guarded 0) (hd : (c.timers.deadline .writeSpacing).isSome) :
    (c.stopTimer .writeSpacing).releaseHeld.Guarded 1 ∧
      (c.stopTimer .writeSpacing).releaseHeld.load w = c.load w + 1 ∧
      (c.stopTimer .writeSpacing).releaseHeld.phase ≠ .idle ∧
      (c.stopTimer .writeSpacing).releaseHeld.timers.ack = none ∧
      (c.stopTimer .writeSpacing).releaseHeld.timers.response = none := by
  obtain ⟨bytes, hb⟩ := Option.isSome_iff_exists.mp (h.spacing.trans hd)
  have he : (c.stopTimer .writeSpacing).releaseHeld =
      { c with timers := { c.timers with writeSpacing := none }, held := none }.transmit bytes := by
    simp [releaseHeld, stopTimer, Timers.stop, Timers.setDeadline, hb]
  have hw := h.awaits
  rw [he]
  have ht : c.phase ≠ .idle ∧ c.timers.ack = none ∧ c.timers.response = none := by
    cases hp : c.phase <;> simp_all [Awaits]
  refine ⟨⟨rfl, by simp [transmit], h.count, h.opened, ?_⟩, by simp [load, transmit, Nat.add_assoc], ht⟩
  simp only [Awaits, transmit, phase] at hw ht ⊢
  cases hp : c.machine.phase <;> simp_all

lemma fire_stopped (timer : Timer) (h : c.timers.deadline timer = none) : c.fire timer now = c := by
  rw [fire, fire_early (by simp [h])]
  rfl

structure Rested (limit now w : Nat) (c : Controller p) : Prop where
  matched : c.Matched limit
  guarded : c.Guarded w
  quiet : 2 ≤ w → c.timers.writeWait now = none
  outbox : c.outbox = []

lemma Rested.load (h : c.Rested limit now w) (n : Nat) : c.load n = n := by
  simp [Controller.load, h.outbox]

structure Left (limit now w : Nat) (c : Controller p) : Prop where
  matched : c.Matched limit
  guarded : c.Guarded (c.load w)
  quiet : 2 ≤ c.load w → c.timers.writeWait now = none

lemma Left.rested (h : c.Left limit now w) : c.flush.2.Rested limit now (w + (transmissions c.outbox).length) :=
  ⟨h.matched.congr rfl rfl rfl rfl id, ⟨h.guarded.spacing, h.guarded.apart, h.guarded.count, h.guarded.opened,
    h.guarded.awaits⟩, h.quiet, rfl⟩

lemma Poised.left_takeUpWork (h : c.Poised now w) (hm : c.Matched limit) : (c.takeUpWork now).Left limit now w := by
  obtain ⟨hm, hp⟩ := (moves_takeUpWork now c).poised hm h
  exact ⟨hm, hp.guarded, fun hl => hp.quiet (Nat.le_of_succ_le hl)⟩

lemma Rested.poised (h : c.Rested limit now 0) : c.Poised now 0 :=
  ⟨by rw [h.load]; exact h.guarded, fun hl => by simp [h.load] at hl⟩

lemma Rested.hear (data : Bytes) (h : c.Rested limit now 0) : (c.during now (.bytes data)).Left limit now 0 := by
  have hp : Poised now 0 { c with timers := c.timers.heard now, receiver := c.receiver.append data } :=
    ⟨⟨h.guarded.spacing, h.poised.guarded.apart, h.guarded.count, h.guarded.opened, h.poised.guarded.awaits⟩, fun hl =>
      by simp [Controller.load, h.outbox] at hl⟩
  obtain ⟨hm, hd⟩ :=
    (moves_drain now { c with timers := c.timers.heard now, receiver := c.receiver.append data }).poised
      (h.matched.congr rfl rfl rfl rfl id) hp
  exact hd.left_takeUpWork hm

lemma Rested.endWrite (result : WriteResult) (h : c.Rested limit now (w + 1)) :
    (c.during now (.wrote result)).Left limit now w := by
  have hm : (c.endWrite now result).Matched limit := (moves_endWrite now c result).keep LineMove.matched h.matched
  obtain ⟨ho, hw⟩ := endWrite_line now result c
  refine Poised.left_takeUpWork ⟨h.guarded.endWrite result (Nat.le_add_left 1 w) _, fun hl => ?_⟩ hm
  rw [hw]
  apply h.quiet
  simp only [Controller.load, ho, h.outbox, transmissions_nil, List.length_nil] at hl
  omega

lemma Rested.tick (h : c.Rested limit now 0) : (c.during now .tick).Left limit now 0 := by
  obtain ⟨hm, hp⟩ := (moves_fire .frameGap (by simp) now c).poised h.matched h.poised
  have rest {d : Controller p} (hm : d.Matched limit) (hp : d.Poised now 0) :
      (((d.fire .ack now).fire .response now).takeUpWork now).Left limit now 0 := by
    obtain ⟨hm, hp⟩ := (moves_fire .ack (by simp) now d).poised hm hp
    obtain ⟨hm, hp⟩ := (moves_fire .response (by simp) now (d.fire .ack now)).poised hm hp
    exact hp.left_takeUpWork hm
  change ((((((c.fire .frameGap now).fire .writeSpacing now).fire .ack now).fire .response now).takeUpWork now)).Left
    limit now 0
  rcases fire_writeSpacing now (c.fire .frameGap now) with he | ⟨hd, he⟩
  · rw [he]
    exact rest hm hp
  · have hz : (c.fire .frameGap now).load 0 = 0 := hp.guarded.apart (hp.guarded.spacing.trans hd)
    obtain ⟨hg, hl, hi, ha, hr⟩ := Guarded.release (w := 0) (hz ▸ hp.guarded) hd
    rw [he, fire_stopped .ack ha, fire_stopped .response hr, takeUpWork_busy hi]
    rw [hz] at hl
    have m : LineMove now (c.fire .frameGap now) [] _ := .release hd
    exact ⟨m.matched hm, hl ▸ hg, fun h2 => by omega⟩

lemma Rested.call (call : Call) (h : c.Rested limit now 0) (hw : ∀ result, call ≠ .wrote result) :
    (c.during now call.input).Left limit now 0 := by
  cases call with
  | woken => exact h.poised.left_takeUpWork h.matched
  | bytes data => exact h.hear data
  | wrote result => exact absurd rfl (hw result)
  | tick => exact h.tick

lemma Rested.later {later : Nat} (h : c.Rested limit now w) (hn : now ≤ later) : c.Rested limit later w := by
  refine { h with quiet := fun hw => ?_ }
  have hq := h.quiet hw
  simp only [Timers.writeWait] at hq ⊢
  cases hh : c.timers.lastHeard with
  | none => rfl
  | some read =>
    simp only [hh, ite_eq_right_iff, reduceCtorEq, imp_false] at hq ⊢
    omega

lemma Rested.left {later : Nat} {call : Call} {waiting : List Bytes} (h : c.Rested limit now waiting.length) (hn : now ≤ later)
    (hi : call.InTurn waiting) : (c.during later call.input).Left limit later waiting.tail.length := by
  have hl := h.later hn
  cases call with
  | wrote result =>
    cases waiting with
    | nil => exact absurd rfl hi
    | cons bytes rest => exact hl.endWrite result
  | woken | bytes | tick =>
    obtain rfl : waiting = [] := hi
    exact hl.call _ (by simp)

lemma Rested.meet (h : c.Rested limit now w) (demand : Demand p) : (c.meet demand).Rested limit now w := by
  have hq (session : p.Session) (queue : WorkQueue p.Command p.Chunk) :
      Rested limit now w { c with session := session, queue := queue } :=
    ⟨h.matched.congr rfl rfl rfl rfl id, ⟨h.guarded.spacing, h.guarded.apart, h.guarded.count, h.guarded.opened,
      h.guarded.awaits⟩, h.quiet, h.outbox⟩
  cases demand with
  | submit | submitFirst => exact hq c.session _
  | instruct change => exact hq (change c.session) c.queue
  | upload chunks =>
    simp only [Controller.meet, submitUpload]
    split
    · exact hq c.session _
    · exact h

lemma Guarded.attended (h : c.Guarded 0) : c.Attended := by
  have hw := h.awaits
  have hs := h.spacing
  have held_some {bytes : Bytes} (hb : c.held = some bytes) : c.timers.writeSpacing.isSome = true := by simp [← hs, hb]
  have held_none (hb : c.held = none) : c.timers.writeSpacing.isSome = false := by simp [← hs, hb]
  unfold Awaits at hw
  unfold Attended armed
  simp only [Timers.isRunning, Timers.deadline]
  cases hp : c.phase <;> simp only [hp] at hw ⊢
  · obtain ⟨ha, hr, hh⟩ := hw
    exact ⟨by simp [ha, hr, held_none hh], hh⟩
  · obtain ⟨ha, hr, hq | hn⟩ := hw
    · obtain ⟨o, bytes, hc, hb, hh⟩ := hq
      exact ⟨by simp [ha, hr, held_some hh], o, bytes, hc, hb, hh⟩
    · omega
  · obtain ⟨ha, hr, hh⟩ := hw
    exact ⟨by simp [ha, hr, held_none hh], hh⟩
  · obtain ⟨ha, ⟨hr, hh⟩ | ⟨hr, hq | hn⟩⟩ := hw
    · exact .inl ⟨by simp [ha, hr, held_none hh], hh⟩
    · obtain ⟨bytes, he, hh⟩ := hq
      exact .inr ⟨by simp [ha, hr, held_some hh], bytes, he, hh⟩
    · omega
  · obtain ⟨ha, hr, hq | hn⟩ := hw
    · obtain ⟨o, bytes, hc, hb, hh⟩ := hq
      exact ⟨by simp [ha, hr, held_some hh], o, bytes, hc, hb, hh⟩
    · omega
  · obtain ⟨ha, hr, hh⟩ := hw
    exact ⟨by simp [ha, hr, held_none hh], hh⟩

lemma earliest_isSome {t : Nat} {ts : List (Option Nat)} (h : some t ∈ ts) : (Timers.earliest ts).isSome := by
  induction ts with
  | nil => cases h
  | cons head ts ih =>
    cases head with
    | some u => rfl
    | none => exact ih (by simpa using h)

lemma Attended.wake (h : c.Attended) (hp : c.phase ≠ .idle) : c.wake?.isSome := by
  obtain ⟨timer, ht⟩ : ∃ timer, c.armed = [timer] := by
    unfold Attended at h
    cases hc : c.phase <;> simp only [hc] at h
    · exact absurd hc hp
    · exact ⟨_, h.1⟩
    · exact ⟨_, h.1⟩
    · rcases h with h | h <;> exact ⟨_, h.1⟩
    · exact ⟨_, h.1⟩
    · exact ⟨_, h.1⟩
  have hm : timer ∈ c.armed := by simp [ht]
  obtain ⟨-, hr⟩ := List.mem_filter.mp hm
  obtain ⟨t, hd⟩ := Option.isSome_iff_exists.mp hr
  apply earliest_isSome (t := t)
  cases timer <;> simp_all [Timers.deadline]

lemma rested_fresh (session : p.Session) (timing : Settings.Timing) :
    (fresh p session timing).Rested timing.maxRetries now 0 :=
  ⟨Ended.matched_empty ⟨rfl, rfl, rfl, .inl rfl⟩ rfl rfl,
    ⟨rfl, fun _ => rfl, Nat.le_refl 0, by simp [fresh], ⟨rfl, rfl, rfl⟩⟩, by simp, rfl⟩

end Controller

lemma Driven.rested {start c : Controller p} {waiting : List Bytes} (h : Driven start now waiting c)
    (hs : ∀ now, start.Rested limit now 0) : c.Rested limit now waiting.length := by
  induction h using Driven.induct with
  | start now => exact hs now
  | later h hn ih => exact ih.later hn
  | meet h demand ih => exact ih.meet demand
  | turn h call hi ih =>
    rw [Controller.step_eq]
    simpa [Controller.flush] using! (ih.left (Nat.le_refl _) hi).rested

/-- However a run came about, a controller whose writes have all been taken or have failed has nothing to do, or one
timer runs for what it waits for and it asks to be called again. -/
theorem attended_of_driven (f : Fitting) (session : f.peripheral.Session) (timing : Settings.Timing) (now : Nat)
    (c : Controller f.peripheral) (h : Driven (Controller.fresh f.peripheral session timing) now [] c) :
    c.Attended ∧ (c.phase ≠ .idle → c.wake?.isSome) := by
  have ha := (h.rested fun _ => Controller.rested_fresh session timing).guarded.attended
  exact ⟨ha, ha.wake⟩

def toReset : Controller CardReader.peripheral :=
  (Controller.fresh CardReader.peripheral {} {}).meet (.submit CardReader.Command.init)

theorem attended_once_the_request_is_out :
    let c := ((toReset.step 0 .woken).2.step 1 (.wrote .completed)).2
    Driven (Controller.fresh CardReader.peripheral {} {}) 1 [] c ∧ c.Attended ∧ (c.phase ≠ .idle → c.wake?.isSome) := by
  have ho : transmissions (toReset.step 0 .woken).1 = [[2, 67, 48, 48, 3, 66]] := by decide +kernel
  have hn : transmissions ((toReset.step 0 .woken).2.step 1 (.wrote .completed)).1 = [] := by decide +kernel
  have hs : Driven (Controller.fresh CardReader.peripheral {} {}) 0 [] toReset := .meet (.start 0) _
  have hw := hs.call .woken (by simp)
  simp only [Call.input, ho] at hw
  have hd := (hw.later (Nat.zero_le 1)).wrote .completed
  rw [hn] at hd
  exact ⟨hd, attended_of_driven .cardReader {} {} 1 _ hd⟩

end ParkingStation.Exchange
