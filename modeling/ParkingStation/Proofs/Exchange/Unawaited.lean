import ParkingStation.Proofs.Exchange.Coherence
import ParkingStation.Proofs.Exchange.Spacing

namespace ParkingStation.Exchange

open Framing

variable {p : Peripheral} {now : Nat}

namespace Controller

variable {a b c : Controller p}

def Mindful (c : Controller p) : Prop :=
  c.spoilt.isSome → c.phase = .waitingResponse ∨ c.phase = .waitingChunkResponse

lemma mindful_of_none (h : c.spoilt = none) : c.Mindful := by
  simp [Mindful, h]

lemma Mindful.spoilt_none (h : c.Mindful) (hr : c.phase ≠ .waitingResponse) (hk : c.phase ≠ .waitingChunkResponse) :
    c.spoilt = none :=
  Option.not_isSome_iff_eq_none.mp fun hs => (h hs).elim hr hk

lemma spoilt_takeAck (now : Nat) (c : Controller p) : (c.takeAck now).spoilt = c.spoilt := by
  simp only [takeAck]
  split
  · split
    · exact spoilt_of_watch (watch_transmitSpaced now _ _)
    · rfl
  · rfl

lemma mindful_takeReply {o : Ongoing p.Command} (frame : p.Frame) (h : c.Mindful) (hc : c.command = some o) :
    (c.takeReply frame).Mindful := by
  rw [takeReply_eq hc rfl]
  rcases conclude_cases o (p.judge c.session o.item frame).2 (p.judge c.session o.item frame).1 with
    ⟨-, he⟩ | ⟨session, queue, polls, events, he⟩ | ⟨reason, detail, he⟩ <;> rw [he]
  · exact h
  · exact mindful_of_none rfl
  · exact mindful_of_none (spoilt_of_watch (watch_repeatOrAbandon reason detail _))

lemma mindful_takeChunkReply {o : Ongoing p.Chunk} (frame : p.Frame) (h : c.Mindful) (hk : c.chunk = some o) :
    (c.takeChunkReply now frame).Mindful := by
  simp only [takeChunkReply, hk]
  split
  · exact h
  · refine mindful_of_none ?_
    unfold nextPiece
    split
    · exact spoilt_of_watch (watch_sendPiece now _)
    · rfl
  · split
    · exact mindful_of_none (spoilt_of_watch (watch_sendPiece now _))
    · exact mindful_of_none rfl
  · exact mindful_of_none rfl

theorem Move.mindful {xs : List (Judgement p)} (m : Move now a xs b) (h : a.Mindful) : b.Mindful := by
  cases m with
  | take | takePiece | receive | endGap => exact h
  | request hi hc =>
    have hs := h.spoilt_none (by simp [hi]) (by simp [hi])
    exact mindful_of_none ((spoilt_of_watch (watch_sendRequest now _)).trans hs)
  | piece hi hc hk =>
    have hs := h.spoilt_none (by simp [hi]) (by simp [hi])
    exact mindful_of_none ((spoilt_of_watch (watch_sendPiece now _)).trans hs)
  | @fail trigger reason detail hp hn =>
    have ha : a.accepts trigger = true := by simp [accepts, hn]
    simp only [breakCycle, ha, if_true]
    exact mindful_of_none (spoilt_of_watch (watch_repeatOrAbandon reason detail _))
  | repeatPiece hp ht => exact mindful_of_none spoilt_repeatPiece
  | spoil fault hp => exact fun _ => hp
  | forgive => exact mindful_of_none rfl
  | ack hp =>
    exact mindful_of_none ((spoilt_takeAck now a).trans (h.spoilt_none (by simp [hp]) (by simp [hp])))
  | nak hn =>
    have ha : a.accepts .nakReceived = true := by simp [accepts, hn]
    simp only [takeNak, ha, if_true]
    exact mindful_of_none (spoilt_of_watch (watch_repeatOrAbandon _ _ _))
  | reply frame hp hc => exact mindful_takeReply frame h hc
  | pieceReply frame hp hk => exact mindful_takeChunkReply frame h hk
  | watch => unfold watchGap; split <;> exact h
  | @lapse timer hd ht => cases timer <;> exact h

theorem LineMove.mindful {xs : List (Judgement p)} (m : LineMove now a xs b) (h : a.Mindful) : b.Mindful := by
  cases m with
  | move m => exact m.mindful h
  | hear => exact h
  | release => unfold releaseHeld; split <;> exact h
  | complete ha =>
    simp only [completeWrite, ha, if_true]
    have hm : (a.advance .writeCompleted).Mindful := by
      intro hs
      rcases h hs with hp | hp
      · exact .inl (phase_advance hp rfl)
      · simp [accepts, hp, Phase.next?] at ha
    split <;> exact hm

structure Tidy (c : Controller p) : Prop where
  mindful : c.Mindful
  idle : c.phase = .idle → c.command = none ∧ c.chunk = none

lemma Tidy.turn (c : Controller p) (x : Incident p) (h : c.Tidy) : (c.turn x).2.Tidy := by
  cases x with
  | demand demand =>
    cases demand with
    | submit | submitFirst | instruct => exact ⟨h.mindful, h.idle⟩
    | upload chunks =>
      simp only [Controller.turn, meet, submitUpload]
      split <;> exact ⟨h.mindful, h.idle⟩
  | call now input =>
    by_cases hd : ∃ detail, input = .disconnected detail
    · obtain ⟨detail, rfl⟩ := hd
      have hs : (c.loseLine detail).spoilt = none := by
        simp only [loseLine]
        split <;> rfl
      have hk : (c.loseLine detail).chunk = none := by
        cases hk : c.chunk <;> simp [loseLine, closeCycle, report, abortUpload, hk]
      exact ⟨mindful_of_none hs, fun _ => ⟨rfl, hk⟩⟩
    · have hd : ∀ detail, input ≠ .disconnected detail := fun detail he => hd ⟨detail, he⟩
      have hm : (c.during now input).Mindful := (moves_during now c hd).keep LineMove.mindful h.mindful
      rw [Controller.turn, step_eq]
      refine ⟨hm, fun hi => ?_⟩
      cases input with
      | disconnected detail => exact absurd rfl (hd detail)
      | woken | bytes | wrote | tick => exact (takeUpWork_idle hi).imp id And.left

lemma tidy_after (session : p.Session) (timing : Settings.Timing) (xs : List (Incident p)) :
    ((fresh p session timing).after xs).Tidy :=
  after_keep Tidy.turn _ xs ⟨mindful_of_none rfl, fun _ => ⟨rfl, rfl⟩⟩

def Unawaiting (c : Controller p) : Prop :=
  c.phase = .sendingRequest ∨ c.phase = .sendingChunk ∨ c.phase = .idle ∧ c.queue.isEmpty = true

lemma Unawaiting.next (h : c.Unawaiting) :
    c.phase.next? p.acknowledged .ackReceived = none ∧ c.phase.next? p.acknowledged .nakReceived = none ∧
      c.phase.next? p.acknowledged .responseReceived = none ∧ c.phase ≠ .waitingResponse ∧
      c.phase ≠ .waitingChunkResponse := by
  rcases h with hp | hp | ⟨hp, -⟩ <;> simp [hp, Phase.next?]

lemma Unawaiting.takeItem (h : c.Unawaiting) (item : Item p.Frame) : c.takeItem now item = c := by
  obtain ⟨ha, hn, hr, hw, hk⟩ := h.next
  cases item with
  | corrupt fault => simp [Controller.takeItem, hw, hk]
  | ack => simp [Controller.takeItem, takeAck, accepts, ha]
  | nak => simp [Controller.takeItem, takeNak, accepts, hn]
  | frame frame => simp [Controller.takeItem, hw, hk, advance_unknown hr]

lemma Unawaiting.takeItems (h : c.Unawaiting) (items : List (Item p.Frame)) :
    items.foldl (Controller.takeItem now) c = c := by
  induction items with
  | nil => rfl
  | cons item items ih => rwa [List.foldl_cons, h.takeItem]

lemma Unawaiting.takeUpWork (h : c.Unawaiting) (hi : c.phase = .idle → c.command = none ∧ c.chunk = none) :
    c.takeUpWork now = c := by
  rcases h with hp | hp | ⟨hp, hq⟩
  · exact takeUpWork_busy (by simp [hp])
  · exact takeUpWork_busy (by simp [hp])
  · obtain ⟨hc, hk⟩ := hi hp
    have hn : c.queue.next? = none := by
      simp only [WorkQueue.isEmpty, Bool.and_eq_true, List.isEmpty_iff] at hq
      simp [WorkQueue.next?, hq]
    rw [Controller.takeUpWork, dif_pos hp]
    split <;> simp_all

lemma Unawaiting.hear (h : c.Unawaiting) (hs : c.spoilt = none) (data : Bytes) :
    c.hear now data =
      { c with
        timers := c.timers.heard now
        receiver := ((c.receiver.append data).readAll p.scanner).2 }.watchGap now := by
  have hu : Unawaiting { c with
      timers := c.timers.heard now
      receiver := ((c.receiver.append data).readAll p.scanner).2 } := h
  simp only [Controller.hear, drain, hu.takeItems]
  rw [settleSpoilt]
  simp only [hs]

end Controller

/-- Whatever has happened to a controller, bytes that come in while it sends, or has nothing to do, have no effect:
only the receiver has taken them, and it is known when they came. -/
theorem unawaited_bytes_inert (session : p.Session) (timing : Settings.Timing) (xs : List (Incident p)) (now : Nat)
    (data : Bytes) (h : ((Controller.fresh p session timing).after xs).Unawaiting) :
    let c := (Controller.fresh p session timing).after xs
    let receiver := ((c.receiver.append data).readAll p.scanner).2
    let gap := if (p.scanner.stalled receiver.scan).isSome then some (now + timing.frameGap) else none
    c.step now (.bytes data) =
      ([], { c with receiver := receiver, timers := { c.timers with lastHeard := some now, frameGap := gap } }) := by
  intro c receiver gap
  have ht : c.Tidy := Controller.tidy_after session timing xs
  have ho : c.outbox = [] := Controller.after_outbox _ rfl xs
  have hg : c.timers.timing = timing := Controller.after_timing _ xs
  obtain ⟨-, -, -, hw, hk⟩ := h.next
  have he : gap = if (p.scanner.stalled receiver.scan).isSome then some (now + c.timers.timing.frameGap) else none := by
    rw [hg]
  have hh : c.hear now data =
      { c with receiver := receiver, timers := { c.timers with lastHeard := some now, frameGap := gap } } := by
    rw [Controller.Unawaiting.hear h (ht.mindful.spoilt_none hw hk), he, Controller.watchGap]
    split <;> rfl
  have hu : Controller.Unawaiting (c.hear now data) := by rwa [hh]
  have hi : (c.hear now data).takeUpWork now = c.hear now data := by
    refine hu.takeUpWork ?_
    rw [hh]
    exact ht.idle
  change ((c.hear now data).takeUpWork now).flush = _
  rw [hi, hh]
  exact Controller.flush_silent ho

def requested : List (Incident CardReader.peripheral) :=
  [.demand (.submit CardReader.Command.init), .call 0 .woken]

theorem early_answer_ignored :
    let c := (Controller.fresh CardReader.peripheral {} {}).after requested
    let after := c.step 5 (.bytes [0x06, 0x02, 0x50, 0x30, 0x30, 0x30, 0x30, 0x03, 0x51])
    c.Unawaiting ∧ after.1 = [] ∧ after.2.machine = c.machine ∧ after.2.command = some ⟨CardReader.Command.init, 1⟩ ∧
      after.2.timers.lastHeard = some 5 := by
  intro c after
  have hu : c.Unawaiting := .inl (by decide +kernel)
  have hc : c.command = some ⟨CardReader.Command.init, 1⟩ := by decide +kernel
  have he : after = _ := unawaited_bytes_inert (p := CardReader.peripheral) {} {} requested 5 _ hu
  rw [he]
  exact ⟨hu, rfl, rfl, hc, rfl⟩

end ParkingStation.Exchange
