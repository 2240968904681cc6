import ParkingStation.Proofs.Exchange.Frames
import ParkingStation.Proofs.Exchange.Moves
import ParkingStation.Proofs.Exchange.Run

/-! The phase of a controller says what it has in flight, after every move. Once a call is over, nothing waits
beside an idle controller, and the receiver is watched while it holds a stalled candidate. -/

namespace ParkingStation.Exchange

namespace Controller

open Framing

variable {p : Peripheral} {now limit : Nat} {c : Controller p}

def Fits {C K : Type} (limit : Nat) (command : Option (Ongoing C)) (chunk : Option (Ongoing K)) : Phase → Prop
  | .idle =>
    (command = none ∨ chunk = none) ∧ (∀ o, command = some o → o.sends ≤ limit) ∧
      ∀ o, chunk = some o → o.sends ≤ limit
  | .sendingRequest | .waitingAck | .waitingResponse =>
    chunk = none ∧ ∃ o, command = some o ∧ 1 ≤ o.sends ∧ o.sends ≤ limit + 1
  | .sendingChunk | .waitingChunkResponse =>
    command = none ∧ ∃ o, chunk = some o ∧ 1 ≤ o.sends ∧ o.sends ≤ limit + 1

structure Matched (limit : Nat) (c : Controller p) : Prop where
  budget : c.timing.maxRetries = limit
  fits : Fits limit c.command c.chunk c.phase
  spoilt : c.spoilt.isSome → c.phase = .waitingResponse ∨ c.phase = .waitingChunkResponse

lemma Matched.exclusive (h : c.Matched limit) : c.command = none ∨ c.chunk = none := by
  have hf := h.fits
  cases hp : c.phase <;> simp only [hp, Fits] at hf
  · exact hf.1
  all_goals first | exact .inl hf.1 | exact .inr hf.1

lemma Matched.command_none (h : c.Matched limit) (hp : c.phase = .sendingChunk ∨ c.phase = .waitingChunkResponse) :
    c.command = none := by
  have hf := h.fits
  rcases hp with hp | hp <;> rw [hp] at hf <;> exact hf.1

lemma Matched.congr {d : Controller p} (h : c.Matched limit) (ht : d.timing = c.timing) (hp : d.phase = c.phase)
    (hc : d.command = c.command) (hk : d.chunk = c.chunk) (hs : d.spoilt.isSome → c.spoilt.isSome) :
    d.Matched limit where
  budget := by rw [ht, h.budget]
  fits := by rw [hc, hk, hp]; exact h.fits
  spoilt hi := by rw [hp]; exact h.spoilt (hs hi)

lemma Matched.sameLine {d : Controller p} (h : c.Matched limit) (hd : c.SameLine d) : d.Matched limit := by
  obtain ⟨session, queue, polls, events, rfl⟩ := hd
  exact h.congr rfl rfl rfl rfl id

structure Ended (limit : Nat) (c : Controller p) : Prop where
  budget : c.timing.maxRetries = limit
  phase : c.phase = .idle
  spoilt : c.spoilt = none
  exclusive : c.command = none ∨ c.chunk = none

lemma Ended.matched (h : c.Ended limit) (hc : ∀ o, c.command = some o → o.sends ≤ limit)
    (hk : ∀ o, c.chunk = some o → o.sends ≤ limit) : c.Matched limit := by
  refine ⟨h.budget, ?_, by simp [h.spoilt]⟩
  rw [h.phase]
  exact ⟨h.exclusive, hc, hk⟩

lemma Ended.matched_empty (h : c.Ended limit) (hc : c.command = none) (hk : c.chunk = none) : c.Matched limit :=
  h.matched (by simp [hc]) (by simp [hk])

lemma Ended.matched_abortUpload (reason : Reason) (detail : String) (h : c.Ended limit) (hc : c.command = none) :
    (c.abortUpload reason detail).Matched limit :=
  Ended.matched_empty ⟨h.budget, h.phase, h.spoilt, .inl hc⟩ hc rfl

lemma Ended.matched_repeatOrAbandon (reason : Reason) (detail : String) (h : c.Ended limit) :
    (c.repeatOrAbandon reason detail).Matched limit := by
  rcases repeatOrAbandon_cases reason detail c with ⟨he, hc, hk⟩ | ⟨o, ho, hd⟩ | ⟨hc, he⟩
  · rw [he]
    rw [h.budget] at hc hk
    refine h.matched hc fun o ho => hk ?_ o ho
    exact h.exclusive.resolve_right (by simp [ho])
  · have hk : c.chunk = none := h.exclusive.resolve_left (by simp [ho])
    have he : Ended limit { c with command := none } := ⟨h.budget, h.phase, h.spoilt, .inl rfl⟩
    exact (he.matched_empty rfl hk).sameLine hd
  · rw [he]
    exact h.matched_abortUpload reason detail hc

lemma Matched.transmitSpaced (bytes : Bytes) (h : c.Matched limit) : (c.transmitSpaced now bytes).Matched limit := by
  rcases transmitSpaced_cases now bytes c with ⟨-, he⟩ | ⟨wait, -, he⟩ <;> rw [he] <;> exact h.congr rfl rfl rfl rfl id

lemma matched_sendRequest {o : Ongoing p.Command} (ht : c.timing.maxRetries = limit) (hp : c.phase = .sendingRequest)
    (hs : c.spoilt = none) (hk : c.chunk = none) (hc : c.command = some o) (hl : o.sends ≤ limit) :
    (c.sendRequest now).Matched limit := by
  cases hb : requestBytes o.item (nextSequence c.seq) with
  | ok bytes =>
    rw [sendRequest_ok hc hb]
    refine Matched.transmitSpaced bytes ⟨ht, ?_, by simp [hs]⟩
    change Fits _ (some _) c.chunk c.phase
    rw [hp]
    exact ⟨hk, _, rfl, by simp, by simpa using! hl⟩
  | error err =>
    rw [sendRequest_error hc hb]
    have hi : ({ c with command := none, seq := nextSequence c.seq }.advance .writeFailed).phase = .idle :=
      phase_advance hp rfl
    exact Ended.matched_empty ⟨ht, hi, hs, .inl rfl⟩ rfl hk

lemma matched_sendPiece {o : Ongoing p.Chunk} (ht : c.timing.maxRetries = limit) (hp : c.phase = .sendingChunk)
    (hs : c.spoilt = none) (hc : c.command = none) (hk : c.chunk = some o) (hl : o.sends ≤ limit) :
    (c.sendPiece now).Matched limit := by
  cases hb : chunkBytes o.item (nextSequence c.seq) with
  | ok bytes =>
    rw [sendPiece_ok hk hb]
    refine Matched.transmitSpaced bytes ⟨ht, ?_, by simp [hs]⟩
    change Fits _ c.command (some _) c.phase
    rw [hp]
    exact ⟨hc, _, rfl, by simp, by simpa using! hl⟩
  | error err =>
    rw [sendPiece_error hk hb]
    exact Ended.matched_abortUpload _ _ ⟨ht, phase_advance hp rfl, hs, .inl hc⟩ hc

lemma matched_breakCycle {trigger : Trigger} {reason : Reason} {detail : String} (h : c.Matched limit)
    (hn : c.phase.next? p.acknowledged trigger = some .idle) : (c.breakCycle trigger reason detail).Matched limit := by
  have ha : c.accepts trigger = true := by simp [accepts, hn]
  simp only [breakCycle, ha, if_true]
  exact Ended.matched_repeatOrAbandon _ _ ⟨h.budget, phase_advance rfl hn, rfl, h.exclusive⟩

lemma matched_takeNak (h : c.Matched limit) (hn : c.phase.next? p.acknowledged .nakReceived = some .idle) :
    c.takeNak.Matched limit := by
  have ha : c.accepts .nakReceived = true := by simp [accepts, hn]
  simp only [takeNak, ha, if_true]
  exact Ended.matched_repeatOrAbandon _ _ ⟨h.budget, phase_advance rfl hn, rfl, h.exclusive⟩

lemma matched_repeatPiece {trigger : Trigger} (reason : Reason) (detail : String) (h : c.Matched limit)
    (hp : c.phase = .waitingChunkResponse)
    (hn : Phase.next? p.acknowledged .waitingChunkResponse trigger = some .sendingChunk) :
    (c.repeatPiece now trigger reason detail).Matched limit := by
  have hc := h.command_none (.inr hp)
  obtain ⟨-, o, hk, -⟩ : Fits limit c.command c.chunk .waitingChunkResponse := hp ▸ h.fits
  have hk' : c.closeCycle.resetReceiver.chunk = some o := hk
  have hs : (c.closeCycle.resetReceiver.advance trigger).phase = .sendingChunk := phase_advance hp hn
  have hi : (c.closeCycle.resetReceiver.advance .chunkError).phase = .idle := phase_advance hp rfl
  simp only [repeatPiece]
  split
  · rename_i hl
    refine matched_sendPiece h.budget hs rfl hc hk ?_
    simpa [hk', ← h.budget] using! hl
  · exact Ended.matched_abortUpload _ _ ⟨h.budget, hi, rfl, .inl hc⟩ hc

lemma Matched.advance {trigger : Trigger} {target : Phase} (h : c.Matched limit)
    (hn : c.phase.next? p.acknowledged trigger = some target)
    (hf : Fits limit c.command c.chunk c.phase → Fits limit c.command c.chunk target)
    (hs : c.spoilt.isSome → target = .waitingResponse ∨ target = .waitingChunkResponse) :
    (c.advance trigger).Matched limit := by
  have hp : (c.advance trigger).phase = target := phase_advance rfl hn
  refine ⟨h.budget, ?_, fun hi => by rw [hp]; exact hs hi⟩
  rw [hp]
  exact hf h.fits

lemma matched_takeAck (h : c.Matched limit) (hp : c.phase = .waitingAck) : (c.takeAck now).Matched limit := by
  have hn : c.phase.next? p.acknowledged .ackReceived = some .waitingResponse := by simp [hp, Phase.next?]
  have hm : (c.advance .ackReceived).Matched limit := h.advance hn (by simp [hp, Fits]) (by simp)
  have hm' : ((c.advance .ackReceived).markAnswered.stopTimer .ack).Matched limit := hm.congr rfl rfl rfl rfl id
  have ha : c.accepts .ackReceived = true := by simp [accepts, hn]
  simp only [takeAck, ha, if_true]
  split
  · exact hm'.transmitSpaced _
  · exact hm'.congr rfl rfl rfl rfl id

lemma matched_completeWrite (h : c.Matched limit) (ha : c.accepts .writeCompleted = true) :
    (c.completeWrite now).Matched limit := by
  obtain ⟨target, hn⟩ := Option.isSome_iff_exists.mp ha
  have hs : c.spoilt.isSome → target = .waitingResponse ∨ target = .waitingChunkResponse := by
    intro hi
    rcases h.spoilt hi with hp | hp <;> simp_all [Phase.next?]
  have hm : (c.advance .writeCompleted).Matched limit := by
    refine h.advance hn (fun hf => ?_) hs
    cases hp : c.phase <;> simp only [hp, Phase.next?, Option.some.injEq, reduceCtorEq] at hn hf
    · subst hn
      split <;> exact hf
    · exact hn ▸ hf
    · exact hn ▸ hf
  simp only [completeWrite, ha, if_true]
  split <;> exact hm.congr rfl rfl rfl rfl id

lemma matched_takeReply {o : Ongoing p.Command} (frame : p.Frame) (h : c.Matched limit)
    (hp : c.phase = .waitingResponse) (hc : c.command = some o) : (c.takeReply frame).Matched limit := by
  have hk : c.chunk = none := h.exclusive.resolve_left (by simp [hc])
  have hi : c.answered.phase = .idle := phase_advance (c := { c with command := none }) hp rfl
  rcases hv : p.judge c.session o.item frame with ⟨verdict, session⟩
  rw [takeReply_eq hc hv]
  rcases conclude_cases o session verdict with ⟨-, he⟩ | hd | ⟨reason, detail, he⟩
  · rw [he]
    exact h.congr rfl rfl rfl rfl id
  · have he : c.answered.Ended limit := ⟨h.budget, hi, rfl, .inl rfl⟩
    exact (he.matched_empty rfl hk).sameLine hd
  · rw [he]
    exact Ended.matched_repeatOrAbandon _ _ ⟨h.budget, hi, rfl, .inr hk⟩

lemma matched_nextPiece (ht : c.timing.maxRetries = limit) (hp : c.phase = .waitingChunkResponse)
    (hs : c.spoilt = none) (hc : c.command = none) (hk : c.chunk = none) : (c.nextPiece now).Matched limit := by
  unfold nextPiece
  split
  · rename_i item queue hq
    exact matched_sendPiece ht (phase_advance hp rfl) hs hc rfl (Nat.zero_le _)
  · exact Ended.matched_empty ⟨ht, phase_advance hp rfl, hs, .inl hc⟩ hc hk

lemma matched_takeChunkReply {o : Ongoing p.Chunk} (frame : p.Frame) (h : c.Matched limit)
    (hp : c.phase = .waitingChunkResponse) (hk : c.chunk = some o) : (c.takeChunkReply now frame).Matched limit := by
  have hc := h.command_none (.inr hp)
  have he : (c.markAnswered.closeCycle.advance .chunkError).Ended limit :=
    ⟨h.budget, phase_advance hp rfl, rfl, .inl hc⟩
  simp only [takeChunkReply, hk]
  split
  · exact h
  · exact matched_nextPiece h.budget hp rfl hc rfl
  · split
    · rename_i hl
      exact matched_sendPiece h.budget (phase_advance hp rfl) rfl hc hk (h.budget ▸ hl)
    · exact he.matched_abortUpload _ _ hc
  · exact he.matched_abortUpload _ _ hc

theorem Move.matched {xs : List (Judgement p)} {a b : Controller p} (m : Move now a xs b) (h : a.Matched limit) :
    b.Matched limit := by
  have hf := h.fits
  have idle_spoilt (hi : a.phase = .idle) : a.spoilt = none := by
    by_cases hs : a.spoilt.isSome
    · rcases h.spoilt hs with hp | hp <;> simp [hp] at hi
    · simpa using hs
  cases m with
  | take hi hc hk hq => exact Ended.matched ⟨h.budget, hi, idle_spoilt hi, .inr hk⟩ (by simp) (by simp [hk])
  | takePiece hi hc hk hq => exact Ended.matched ⟨h.budget, hi, idle_spoilt hi, .inl hc⟩ (by simp [hc]) (by simp)
  | @request o hi hc =>
    rw [hi] at hf
    exact matched_sendRequest h.budget (phase_advance hi rfl) (idle_spoilt hi) (hf.1.resolve_left (by simp [hc])) hc
      (hf.2.1 o hc)
  | @piece o hi hc hk =>
    rw [hi] at hf
    exact matched_sendPiece h.budget (phase_advance hi rfl) (idle_spoilt hi) hc hk (hf.2.2 o hk)
  | fail hp hn => exact matched_breakCycle h hn
  | repeatPiece hp ht => rcases ht with rfl | rfl <;> exact matched_repeatPiece _ _ h hp rfl
  | spoil fault hp => exact ⟨h.budget, h.fits, fun _ => hp⟩
  | forgive => exact ⟨h.budget, h.fits, by simp⟩
  | ack hp => exact matched_takeAck h hp
  | nak hn => exact matched_takeNak h hn
  | reply frame hp hc => exact matched_takeReply frame h hp hc
  | pieceReply frame hp hk => exact matched_takeChunkReply frame h hp hk
  | receive | endGap => exact h.congr rfl rfl rfl rfl id
  | @lapse timer hd ht => cases timer <;> exact h.congr rfl rfl rfl rfl id
  | watch => unfold watchGap; split <;> exact h.congr rfl rfl rfl rfl id

theorem LineMove.matched {xs : List (Judgement p)} {a b : Controller p} (m : LineMove now a xs b)
    (h : a.Matched limit) : b.Matched limit := by
  cases m with
  | move m => exact m.matched h
  | hear => exact h.congr rfl rfl rfl rfl id
  | complete ha => exact matched_completeWrite h ha
  | release => unfold releaseHeld; split <;> exact h.congr rfl rfl rfl rfl id

structure Watched (c : Controller p) : Prop where
  spoilt : c.spoilt.isSome → p.scanner.idle c.receiver.scan = false
  gap : c.timers.frameGap.isSome ↔ (p.scanner.stalled c.receiver.scan).isSome

def watch (c : Controller p) : Receiver p.Scan × Option Fault × Option Nat :=
  (c.receiver, c.spoilt, c.timers.frameGap)

lemma Watched.congr {d : Controller p} (h : c.Watched) (hd : d.watch = c.watch) : d.Watched := by
  simp only [watch, Prod.mk.injEq] at hd
  obtain ⟨hr, hs, hg⟩ := hd
  refine ⟨?_, ?_⟩
  · rw [hs, hr]
    exact h.spoilt
  · rw [hg, hr]
    exact h.gap

lemma watch_transmitSpaced (now : Nat) (bytes : Bytes) (c : Controller p) :
    (c.transmitSpaced now bytes).watch = c.watch := by
  rcases transmitSpaced_cases now bytes c with ⟨-, he⟩ | ⟨wait, -, he⟩ <;> rw [he] <;> rfl

lemma watch_sendRequest (now : Nat) (c : Controller p) : (c.sendRequest now).watch = c.watch := by
  simp only [sendRequest]
  split
  · rfl
  · split
    · exact watch_transmitSpaced now _ _
    · rfl

lemma watch_sendPiece (now : Nat) (c : Controller p) : (c.sendPiece now).watch = c.watch := by
  simp only [sendPiece]
  split
  · rfl
  · split
    · exact watch_transmitSpaced now _ _
    · rfl

lemma watch_takeUpWork (now : Nat) (c : Controller p) : (c.takeUpWork now).watch = c.watch := by
  fun_induction takeUpWork now c with
  | case1 c hi o hc next hn ih => exact ih.trans (watch_sendRequest now (c.advance .commandEnqueued))
  | case2 c hi o hc next hn => exact watch_sendRequest now (c.advance .commandEnqueued)
  | case3 c hi o hc hk next hn ih => exact ih.trans (watch_sendPiece now (c.advance .sendNextChunk))
  | case4 c hi o hc hk next hn => exact watch_sendPiece now (c.advance .sendNextChunk)
  | case5 c hi item queue hc hk hq ih => exact ih
  | case6 c hi item queue hc hk hq ih => exact ih
  | case7 => rfl
  | case8 => rfl

lemma watch_repeatOrAbandon (reason : Reason) (detail : String) (c : Controller p) :
    (c.repeatOrAbandon reason detail).watch = c.watch := by
  rcases repeatOrAbandon_cases reason detail c with ⟨he, -⟩ | ⟨o, -, session, queue, polls, events, he⟩ | ⟨-, he⟩ <;>
    rw [he] <;> rfl

lemma spoilt_of_watch {d : Controller p} (h : d.watch = c.watch) : d.spoilt = c.spoilt :=
  congrArg (fun w : Receiver p.Scan × Option Fault × Option Nat => w.2.1) h

lemma spoilt_breakCycle {trigger : Trigger} {reason : Reason} {detail : String} (h : c.spoilt = none) :
    (c.breakCycle trigger reason detail).spoilt = none := by
  unfold breakCycle
  split
  · exact spoilt_of_watch (watch_repeatOrAbandon reason detail _)
  · exact h

lemma spoilt_repeatPiece {trigger : Trigger} {reason : Reason} {detail : String} :
    (c.repeatPiece now trigger reason detail).spoilt = none := by
  simp only [repeatPiece]
  split
  · exact spoilt_of_watch (watch_sendPiece now _)
  · rfl

lemma spoilt_settleSpoilt (h : (c.settleSpoilt now).spoilt.isSome) :
    p.scanner.idle (c.settleSpoilt now).receiver.scan = false := by
  revert h
  unfold settleSpoilt
  split
  · rename_i fault hf
    split
    · intro h
      have hn : ({ c with spoilt := none }.rejectReply now fault).spoilt = none := by
        simp only [rejectReply]
        split
        · exact spoilt_breakCycle rfl
        · split
          · exact spoilt_repeatPiece
          · rfl
      simp [hn] at h
    · rename_i hi
      exact fun _ => by simpa using hi
  · rename_i hn
    simp [hn]

lemma watched_drain (now : Nat) (c : Controller p) : (c.drain now).Watched := by
  have key (d : Controller p) : ((d.settleSpoilt now).watchGap now).Watched := by
    unfold watchGap
    split
    · rename_i hg
      exact ⟨spoilt_settleSpoilt, by simpa [startTimer, Timers.start, Timers.setDeadline] using! hg⟩
    · rename_i hg
      exact ⟨spoilt_settleSpoilt, by simpa [stopTimer, Timers.stop, Timers.setDeadline] using! hg⟩
  exact key _

section Fresh

variable (hs : p.scanner.stalled p.scanner.start = none)
include hs

lemma watched_fresh (h : c.receiver = .fresh p.scanner) (hf : c.timers.frameGap = none) (hp : c.spoilt = none) :
    c.Watched := by
  refine ⟨by simp [hp], ?_⟩
  rw [h, hf]
  simp [Receiver.fresh, hs]

lemma watched_breakCycle (trigger : Trigger) (reason : Reason) (detail : String) (h : c.Watched) :
    (c.breakCycle trigger reason detail).Watched := by
  unfold breakCycle
  split
  · exact (watched_fresh hs rfl rfl rfl).congr (watch_repeatOrAbandon reason detail _)
  · exact h

lemma watched_repeatPiece (trigger : Trigger) (reason : Reason) (detail : String) :
    (c.repeatPiece now trigger reason detail).Watched := by
  simp only [repeatPiece]
  split
  · exact (watched_fresh (c := (c.closeCycle.resetReceiver.advance trigger)) hs rfl rfl rfl).congr
      (watch_sendPiece now _)
  · exact watched_fresh hs rfl rfl rfl

lemma watched_endWrite (result : WriteResult) (h : c.Watched) : (c.endWrite now result).Watched := by
  cases result with
  | completed =>
    simp only [endWrite, completeWrite]
    split
    · split <;> exact h.congr rfl
    · exact h
  | failed detail => exact watched_breakCycle hs _ _ _ h
  | timedOut => exact watched_breakCycle hs _ _ _ h

lemma watched_fire (timer : Timer) (h : c.Watched) : (c.fire timer now).Watched := by
  rcases fire_cases timer now c with he | ⟨hg, he⟩ | he <;> rw [he]
  · exact h
  · cases timer <;> cases hg <;> exact h.congr rfl
  · cases timer with
    | frameGap => exact watched_drain now _
    | writeSpacing =>
      simp only [expire, releaseHeld]
      split <;> exact h.congr rfl
    | ack => exact watched_breakCycle hs _ _ _ (h.congr (d := c.stopTimer .ack) rfl)
    | response =>
      simp only [expire, missResponse]
      split
      · exact watched_repeatPiece hs _ _ _
      · exact watched_breakCycle hs _ _ _ (h.congr (d := c.stopTimer .response) rfl)

lemma watched_during {call : Call} (h : c.Watched) : (c.during now call.input).Watched := by
  cases call with
  | woken => exact h.congr (watch_takeUpWork now c)
  | bytes data => exact (watched_drain now _).congr (watch_takeUpWork now _)
  | wrote result => exact (watched_endWrite hs result h).congr (watch_takeUpWork now _)
  | tick =>
    have hf : (c.fireAll now).Watched :=
      watched_fire hs .response (watched_fire hs .ack (watched_fire hs .writeSpacing (watched_fire hs .frameGap h)))
    exact hf.congr (watch_takeUpWork now _)

end Fresh

structure Coherent (limit : Nat) (c : Controller p) : Prop where
  exclusive : ¬ (c.command.isSome ∧ c.chunk.isSome)
  request : c.phase = .sendingRequest ∨ c.phase = .waitingAck ∨ c.phase = .waitingResponse ↔ c.command.isSome
  piece : c.phase = .sendingChunk ∨ c.phase = .waitingChunkResponse ↔ c.chunk.isSome
  idle : c.phase = .idle ↔ c.command = none ∧ c.chunk = none
  nothingWaits : c.phase = .idle → c.queue.isEmpty = true
  sends : ∀ n, c.sends = some n → 1 ≤ n ∧ n ≤ limit + 1
  spoilt : c.spoilt.isSome →
    (c.phase = .waitingResponse ∨ c.phase = .waitingChunkResponse) ∧ p.scanner.idle c.receiver.scan = false
  gap : (c.timers.deadline .frameGap).isSome ↔ (p.scanner.stalled c.receiver.scan).isSome

lemma Matched.coherent (h : c.Matched limit) (hw : c.Watched)
    (hi : c.phase = .idle → c.command = none ∧ c.chunk = none ∧ c.queue.isEmpty = true) : c.Coherent limit := by
  have hf := h.fits
  have hsp (hs : c.spoilt.isSome) := And.intro (h.spoilt hs) (hw.spoilt hs)
  cases hp : c.phase <;> rw [hp] at hf
  · obtain ⟨hc, hk, hq⟩ := hi hp
    refine ⟨?_, ?_, ?_, ?_, fun _ => hq, ?_, hsp, hw.gap⟩ <;> simp [hp, hc, hk, sends]
  all_goals
    obtain ⟨he, o, ho, hl⟩ := hf
    refine ⟨?_, ?_, ?_, ?_, ?_, ?_, hsp, hw.gap⟩ <;> simp [hp, he, ho, sends, hl]

structure Steady (limit : Nat) (c : Controller p) : Prop where
  matched : c.Matched limit
  watched : c.Watched

lemma steady_fresh (hs : p.scanner.stalled p.scanner.start = none) (session : p.Session)
    (timing : Settings.Timing) : (fresh p session timing).Steady timing.maxRetries :=
  ⟨Ended.matched_empty ⟨rfl, rfl, rfl, .inl rfl⟩ rfl rfl, watched_fresh hs rfl rfl rfl⟩

lemma Steady.during (hs : p.scanner.stalled p.scanner.start = none) (now : Nat) (call : Call)
    (h : c.Steady limit) : (c.during now call.input).Steady limit :=
  ⟨(moves_during now c call.input_ne).keep LineMove.matched h.matched, watched_during hs h.watched⟩

lemma Steady.turn (hs : p.scanner.stalled p.scanner.start = none) (c : Controller p) (t : Turn p)
    (h : c.Steady limit) : (c.turn t).2.Steady limit := by
  cases t with
  | demand demand =>
    have hm : (c.meet demand).Matched limit ∧ (c.meet demand).Watched := by
      cases demand with
      | submit | submitFirst | instruct => exact ⟨h.matched.congr rfl rfl rfl rfl id, h.watched.congr rfl⟩
      | upload chunks =>
        simp only [meet, submitUpload]
        split <;> exact ⟨h.matched.congr rfl rfl rfl rfl id, h.watched.congr rfl⟩
    exact ⟨hm.1, hm.2⟩
  | call now call =>
    have hd := h.during hs now call
    simp only [Controller.turn, step_eq]
    exact ⟨hd.matched.congr rfl rfl rfl rfl id, hd.watched.congr rfl⟩

end Controller

lemma Fitting.stalled_start (f : Fitting) : f.peripheral.scanner.stalled f.peripheral.scanner.start = none := by
  cases f <;> rfl

theorem coherent_after_call (f : Fitting) (session : f.peripheral.Session) (timing : Settings.Timing)
    (turns : List (Turn f.peripheral)) (now : Nat) (call : Call) :
    ((((Controller.fresh f.peripheral session timing).run turns).2.step now call.input).2).Coherent
      timing.maxRetries := by
  have hs := f.stalled_start
  have hr := Controller.after_keep (P := Controller.Steady timing.maxRetries) (Controller.Steady.turn hs) _ turns
    (Controller.steady_fresh hs session timing)
  have hd := hr.during hs now call
  rw [Controller.step_eq]
  refine Controller.Matched.coherent (hd.matched.congr rfl rfl rfl rfl id) (hd.watched.congr rfl) fun hi => ?_
  cases call <;> exact Controller.takeUpWork_idle hi

end ParkingStation.Exchange
