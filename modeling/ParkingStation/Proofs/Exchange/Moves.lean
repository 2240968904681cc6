import Mathlib.Tactic.Lemma
import ParkingStation.Exchange.Controller.Step

/-! Every call but the loss of the line is a sequence of moves, each of which leaves the phase and the work in
flight in agreement, so an invariant is shown move by move. -/

namespace ParkingStation.Exchange

open Framing

variable {p : Peripheral}

structure Judgement (p : Peripheral) where
  session : p.Session
  command : p.Command
  frame : p.Frame

def Judgement.verdict (j : Judgement p) : Verdict p.Command := (p.judge j.session j.command j.frame).1

namespace Controller

def judgement? (c : Controller p) : Item p.Frame → Option (Judgement p)
  | .frame frame => if c.phase = .waitingResponse then c.command.map fun o => ⟨c.session, o.item, frame⟩ else none
  | _ => none

def judgedItems (now : Nat) (c : Controller p) : List (Item p.Frame) → List (Judgement p)
  | [] => []
  | item :: items => (c.judgement? item).toList ++ (c.takeItem now item).judgedItems now items

def judgedDrain (now : Nat) (c : Controller p) : List (Judgement p) :=
  let (items, receiver) := c.receiver.readAll p.scanner
  { c with receiver := receiver }.judgedItems now items

def dropCandidate (now : Nat) (c : Controller p) : Controller p :=
  let (item, receiver) := c.receiver.giveUp p.scanner
  let c := { c with receiver := receiver }
  item.elim c (c.takeItem now)

def judged (now : Nat) (c : Controller p) : Input → List (Judgement p)
  | .bytes data => { c with timers := c.timers.heard now, receiver := c.receiver.append data }.judgedDrain now
  | .tick =>
    let (fires, timers) := c.timers.fire .frameGap now
    if fires then ({ c with timers := timers }.dropCandidate now).judgedDrain now else []
  | _ => []

/-- One move of a call, with the replies it holds against the command in flight. -/
inductive Move (now : Nat) : Controller p → List (Judgement p) → Controller p → Prop
  | take {c item queue} (hi : c.phase = .idle) (hc : c.command = none) (hk : c.chunk = none)
      (hq : c.queue.next? = some (.command item, queue)) :
      Move now c [] { c with queue := queue, command := some ⟨item, 0⟩ }
  | takePiece {c item queue} (hi : c.phase = .idle) (hc : c.command = none) (hk : c.chunk = none)
      (hq : c.queue.next? = some (.chunk item, queue)) :
      Move now c [] { c with queue := queue, chunk := some ⟨item, 0⟩ }
  | request {c o} (hi : c.phase = .idle) (hc : c.command = some o) :
      Move now c [] ((c.advance .commandEnqueued).sendRequest now)
  | piece {c o} (hi : c.phase = .idle) (hc : c.command = none) (hk : c.chunk = some o) :
      Move now c [] ((c.advance .sendNextChunk).sendPiece now)
  | fail {c trigger reason detail} (hp : c.phase ≠ .waitingChunkResponse)
      (hn : c.phase.next? p.acknowledged trigger = some .idle) :
      Move now c [] (c.breakCycle trigger reason detail)
  | repeatPiece {c trigger reason detail} (hp : c.phase = .waitingChunkResponse)
      (ht : trigger = .frameRejected ∨ trigger = .responseTimeout) :
      Move now c [] (c.repeatPiece now trigger reason detail)
  | receive {c} (receiver) : Move now c [] { c with receiver := receiver }
  | spoil {c} (fault) (hp : c.phase = .waitingResponse ∨ c.phase = .waitingChunkResponse) :
      Move now c [] { c with spoilt := some fault }
  | forgive {c} : Move now c [] { c with spoilt := none }
  | ack {c} (hp : c.phase = .waitingAck) : Move now c [] (c.takeAck now)
  | nak {c} (hn : c.phase.next? p.acknowledged .nakReceived = some .idle) : Move now c [] c.takeNak
  | reply {c o} (frame) (hp : c.phase = .waitingResponse) (hc : c.command = some o) :
      Move now c [⟨c.session, o.item, frame⟩] (c.takeReply frame)
  | pieceReply {c o} (frame) (hp : c.phase = .waitingChunkResponse) (hk : c.chunk = some o) :
      Move now c [] (c.takeChunkReply now frame)
  | watch {c} : Move now c [] (c.watchGap now)
  | endGap {c} : Move now c [] (c.stopTimer .frameGap)
  | lapse {c timer} (hd : (c.timers.deadline timer).isSome)
      (ht : timer = .ack ∧ (c.timers.isAnswered = true ∨ c.phase ≠ .waitingAck) ∨
        timer = .response ∧
          (c.timers.isAnswered = true ∨ c.phase ≠ .waitingResponse ∧ c.phase ≠ .waitingChunkResponse)) :
      Move now c [] (c.stopTimer timer)

inductive LineMove (now : Nat) : Controller p → List (Judgement p) → Controller p → Prop
  | move {a xs b} (m : Move now a xs b) : LineMove now a xs b
  | hear {c} : LineMove now c [] { c with timers := c.timers.heard now }
  | complete {c} (ha : c.accepts .writeCompleted = true) : LineMove now c [] (c.completeWrite now)
  | release {c} (hd : (c.timers.deadline .writeSpacing).isSome) :
      LineMove now c [] (c.stopTimer .writeSpacing).releaseHeld

inductive Moves (R : Controller p → List (Judgement p) → Controller p → Prop) :
    Controller p → List (Judgement p) → Controller p → Prop
  | refl {c} : Moves R c [] c
  | tail {a b c xs ys} (h : Moves R a xs b) (m : R b ys c) : Moves R a (xs ++ ys) c

variable {now : Nat} {a b c : Controller p} {xs ys : List (Judgement p)}
  {R S : Controller p → List (Judgement p) → Controller p → Prop}

lemma Moves.single (m : R a xs b) : Moves R a xs b := Moves.tail .refl m

lemma Move.moves (m : Move now a xs b) : Moves (Move now) a xs b := .single m

lemma Moves.trans (h : Moves R a xs b) (k : Moves R b ys c) : Moves R a (xs ++ ys) c := by
  induction k with
  | refl => simpa using h
  | tail _ m ih => rw [← List.append_assoc]; exact .tail ih m

lemma Moves.onLine (h : Moves (Move now) a xs b) : Moves (LineMove now) a xs b := by
  induction h with
  | refl => exact .refl
  | tail _ m ih => exact .tail ih (.move m)

theorem Moves.keep {P : Controller p → Prop} (hm : ∀ {a b xs}, R a xs b → P a → P b) (h : Moves R a xs b)
    (ha : P a) : P b := by
  induction h with
  | refl => exact ha
  | tail _ m ih => exact hm m ih

theorem moves_takeUpWork (now : Nat) (c : Controller p) : Moves (Move now) c [] (c.takeUpWork now) := by
  fun_induction takeUpWork now c with
  | case1 c hi o hc next hn ih => exact (Move.request hi hc).moves.trans ih
  | case2 c hi o hc next hn => exact (Move.request hi hc).moves
  | case3 c hi o hc hk next hn ih => exact (Move.piece hi hc hk).moves.trans ih
  | case4 c hi o hc hk next hn => exact (Move.piece hi hc hk).moves
  | case5 c hi item queue hc hk hq ih => exact (Move.take hi hc hk hq).moves.trans ih
  | case6 c hi item queue hc hk hq ih => exact (Move.takePiece hi hc hk hq).moves.trans ih
  | case7 => exact .refl
  | case8 => exact .refl

theorem takeUpWork_idle (hi : (c.takeUpWork now).phase = .idle) :
    (c.takeUpWork now).command = none ∧ (c.takeUpWork now).chunk = none ∧
      (c.takeUpWork now).queue.isEmpty = true := by
  fun_induction takeUpWork now c with
  | case1 c _ o hc next hn ih => exact ih hi
  | case2 c _ o hc next hn => exact absurd hi hn
  | case3 c _ o hc hk next hn ih => exact ih hi
  | case4 c _ o hc hk next hn => exact absurd hi hn
  | case5 c _ item queue hc hk hq ih => exact ih hi
  | case6 c _ item queue hc hk hq ih => exact ih hi
  | case7 c _ hc hk hq =>
    refine ⟨hc, hk, ?_⟩
    unfold WorkQueue.next? at hq
    split at hq <;> simp_all [WorkQueue.isEmpty]
  | case8 c h => exact absurd hi h

lemma takeUpWork_busy (h : c.phase ≠ .idle) : c.takeUpWork now = c := by
  unfold takeUpWork
  simp [h]

lemma advance_unknown {trigger : Trigger} (h : c.phase.next? p.acknowledged trigger = none) :
    c.advance trigger = c := by
  have hm : c.machine.advance p.acknowledged trigger = c.machine := by
    simp only [phase] at h
    simp [Machine.advance, Machine.transition?, h]
  simp [advance, hm]

lemma takeAck_refused (h : c.phase ≠ .waitingAck) : c.takeAck now = c := by
  have : c.accepts .ackReceived = false := by
    unfold accepts
    cases hp : c.phase <;> simp_all [Phase.next?]
  simp [takeAck, this]

lemma moves_takeAck (now : Nat) (c : Controller p) : Moves (Move now) c [] (c.takeAck now) := by
  by_cases h : c.phase = .waitingAck
  · exact (Move.ack h).moves
  · rw [takeAck_refused h]
    exact .refl

lemma next_fail {phase : Phase} {acknowledged : Bool} {trigger : Trigger}
    (ht : trigger ∈ [.writeFailed, .writeTimeout, .nakReceived, .ackTimeout])
    (h : (phase.next? acknowledged trigger).isSome) : phase.next? acknowledged trigger = some .idle := by
  revert ht h
  cases trigger <;> cases phase <;> simp [Phase.next?]

lemma moves_takeNak (now : Nat) (c : Controller p) : Moves (Move now) c [] c.takeNak := by
  by_cases h : c.accepts .nakReceived = true
  · exact (Move.nak (next_fail (by simp) h)).moves
  · simp only [takeNak, h, Bool.false_eq_true, if_false]
    exact .refl

lemma moves_takeItem (now : Nat) (c : Controller p) (item : Item p.Frame) :
    Moves (Move now) c (c.judgement? item).toList (c.takeItem now item) := by
  cases item with
  | corrupt fault =>
    simp only [takeItem, judgement?, Option.toList_none]
    split
    · rename_i hp
      exact (Move.spoil fault hp).moves
    · exact .refl
  | ack => exact moves_takeAck now c
  | nak => exact moves_takeNak now c
  | frame frame =>
    simp only [takeItem, judgement?]
    split
    · rename_i hp
      cases hc : c.command with
      | none => simpa [takeReply, hc] using Moves.refl
      | some o => exact (Move.reply frame hp hc).moves
    · rename_i hp
      split
      · rename_i hq
        cases hk : c.chunk with
        | none => simpa [takeChunkReply, hk] using Moves.refl
        | some o => exact (Move.pieceReply frame hq hk).moves
      · rename_i hq
        rw [advance_unknown]
        · exact .refl
        · cases h : c.phase <;> simp_all [Phase.next?]

lemma moves_items (now : Nat) (c : Controller p) (items : List (Item p.Frame)) :
    Moves (Move now) c (c.judgedItems now items) (items.foldl (takeItem now) c) := by
  induction items generalizing c with
  | nil => exact .refl
  | cons item items ih => exact (moves_takeItem now c item).trans (ih _)

lemma breakCycle_refused {trigger : Trigger} {reason : Reason} {detail : String}
    (h : c.phase.next? p.acknowledged trigger = none) : c.breakCycle trigger reason detail = c := by
  simp [breakCycle, accepts, h]

lemma moves_breakCycle {trigger : Trigger} (reason : Reason) (detail : String)
    (h : ∀ {phase}, c.phase.next? p.acknowledged trigger = some phase →
      phase = .idle ∧ c.phase ≠ .waitingChunkResponse) :
    Moves (Move now) c [] (c.breakCycle trigger reason detail) := by
  cases hn : c.phase.next? p.acknowledged trigger with
  | none =>
    rw [breakCycle_refused hn]
    exact .refl
  | some phase =>
    obtain ⟨rfl, hp⟩ := h hn
    exact (Move.fail hp hn).moves

lemma moves_rejectReply (now : Nat) (c : Controller p) (fault : Fault) :
    Moves (Move now) c [] (c.rejectReply now fault) := by
  simp only [rejectReply]
  split
  · rename_i hp
    exact moves_breakCycle _ _ fun hn => by simp_all [Phase.next?]
  · split
    · rename_i hp
      exact (Move.repeatPiece hp (.inl rfl)).moves
    · exact .refl

lemma moves_settleSpoilt (now : Nat) (c : Controller p) : Moves (Move now) c [] (c.settleSpoilt now) := by
  unfold settleSpoilt
  split
  · split
    · exact Move.forgive.moves.trans (moves_rejectReply now _ _)
    · exact .refl
  · exact .refl

theorem moves_drain (now : Nat) (c : Controller p) : Moves (Move now) c (c.judgedDrain now) (c.drain now) := by
  have hr : Moves (Move now) c [] { c with receiver := (c.receiver.readAll p.scanner).2 } := (Move.receive _).moves
  have hi := moves_items now { c with receiver := (c.receiver.readAll p.scanner).2 } (c.receiver.readAll p.scanner).1
  simpa using! ((hr.trans hi).trans (moves_settleSpoilt now _)).trans Move.watch.moves

theorem moves_hear (now : Nat) (data : Bytes) (c : Controller p) :
    Moves (LineMove now) c (c.judged now (.bytes data)) (c.hear now data) := by
  have hh : Moves (LineMove now) c [] { c with timers := c.timers.heard now } := .single .hear
  have hr : Moves (Move now) { c with timers := c.timers.heard now } []
      { c with timers := c.timers.heard now, receiver := c.receiver.append data } := (Move.receive _).moves
  simpa using! hh.trans (hr.trans (moves_drain now _)).onLine

theorem moves_endWrite (now : Nat) (c : Controller p) (result : WriteResult) :
    Moves (LineMove now) c [] (c.endWrite now result) := by
  cases result with
  | completed =>
    by_cases h : c.accepts .writeCompleted = true
    · exact .single (.complete h)
    · simp only [endWrite, completeWrite, h, Bool.false_eq_true, if_false]
      exact .refl
  | failed detail =>
    refine (moves_breakCycle _ _ fun hn => ?_).onLine
    revert hn
    cases h : c.phase <;> simp_all [Phase.next?]
  | timedOut =>
    refine (moves_breakCycle _ _ fun hn => ?_).onLine
    revert hn
    cases h : c.phase <;> simp_all [Phase.next?]

lemma moves_dropCandidate (now : Nat) (c : Controller p) : Moves (Move now) c [] (c.dropCandidate now) := by
  simp only [dropCandidate, Receiver.giveUp]
  split
  · exact (Move.receive c.receiver).moves
  · exact (Move.receive _).moves.trans (moves_takeItem now _ (.corrupt _))

lemma fire_due {timer : Timer} {deadline : Nat} (h : c.timers.deadline timer = some deadline) (hd : deadline ≤ now) :
    c.timers.fire timer now = (!timer.guardsReply || !c.timers.isAnswered, c.timers.stop timer) := by
  simp [Timers.fire, h, hd]

lemma fire_early {timer : Timer} (h : ∀ deadline, c.timers.deadline timer = some deadline → now < deadline) :
    c.timers.fire timer now = (false, c.timers) := by
  unfold Timers.fire
  split
  · rfl
  · rename_i deadline hd
    rw [if_neg (Nat.not_le.mpr (h deadline hd))]

lemma fire_pending {timer : Timer} (h : ¬ ∃ deadline, c.timers.deadline timer = some deadline ∧ deadline ≤ now) :
    c.fire timer now = c := by
  have hn (deadline : Nat) (hd : c.timers.deadline timer = some deadline) : now < deadline :=
    Nat.lt_of_not_le fun hl => h ⟨deadline, hd, hl⟩
  rw [fire, fire_early hn]
  rfl

def expire (now : Nat) (c : Controller p) : Timer → Controller p
  | .frameGap => c.endGap now
  | .writeSpacing => c.releaseHeld
  | .ack => c.missAck
  | .response => c.missResponse now

lemma fire_unguarded {timer : Timer} {deadline : Nat} (hg : timer.guardsReply = false)
    (hd : c.timers.deadline timer = some deadline) (hn : deadline ≤ now) :
    c.fire timer now = (c.stopTimer timer).expire now timer := by
  simp only [fire, fire_due hd hn, hg, Bool.not_false, Bool.true_or, if_true]
  cases timer <;> rfl

lemma fire_cases (timer : Timer) (now : Nat) (c : Controller p) :
    c.fire timer now = c ∨ timer.guardsReply = true ∧ c.fire timer now = c.stopTimer timer ∨
      c.fire timer now = (c.stopTimer timer).expire now timer := by
  by_cases h : ∃ deadline, c.timers.deadline timer = some deadline ∧ deadline ≤ now
  · obtain ⟨deadline, hd, hn⟩ := h
    refine .inr ?_
    simp only [fire, fire_due hd hn]
    split
    · exact .inr (by cases timer <;> rfl)
    · rename_i hf
      exact .inl ⟨by simp_all, rfl⟩
  · exact .inl (fire_pending h)

lemma closeCycle_stopTimer (timer : Timer) (c : Controller p) : (c.stopTimer timer).closeCycle = c.closeCycle := by
  have hs : (c.timers.stop timer).stopAll = c.timers.stopAll := by cases timer <;> rfl
  simp only [closeCycle, stopTimer, hs]

lemma breakCycle_stopTimer {trigger : Trigger} {reason : Reason} {detail : String} (timer : Timer)
    (h : (c.phase.next? p.acknowledged trigger).isSome) :
    (c.stopTimer timer).breakCycle trigger reason detail = c.breakCycle trigger reason detail := by
  have h' : (c.stopTimer timer).accepts trigger = true := h
  have hc : c.accepts trigger = true := h
  have ha : (c.stopTimer timer).advance trigger = (c.advance trigger).stopTimer timer := rfl
  simp only [breakCycle, h', hc, if_true, ha, closeCycle_stopTimer]

lemma moves_missAck (now : Nat) (c : Controller p) (hd : (c.timers.deadline .ack).isSome) :
    Moves (Move now) c [] (c.stopTimer .ack).missAck := by
  unfold missAck
  by_cases hp : c.phase = .waitingAck
  · have hn : c.phase.next? p.acknowledged .ackTimeout = some .idle := by simp [hp, Phase.next?]
    rw [breakCycle_stopTimer _ (by simp [hn])]
    exact (Move.fail (by simp [hp]) hn).moves
  · have hn : (c.stopTimer .ack).phase.next? p.acknowledged .ackTimeout = none := by
      change c.phase.next? _ _ = _
      cases h : c.phase <;> simp_all [Phase.next?]
    rw [breakCycle_refused hn]
    exact (Move.lapse hd (.inl ⟨rfl, .inr hp⟩)).moves

lemma moves_missResponse (now : Nat) (c : Controller p) (hd : (c.timers.deadline .response).isSome) :
    Moves (Move now) c [] ((c.stopTimer .response).missResponse now) := by
  have hs : (c.stopTimer .response).phase = c.phase := rfl
  simp only [missResponse, hs]
  split
  · rename_i hp
    simp only [repeatPiece, closeCycle_stopTimer]
    exact (Move.repeatPiece hp (.inr rfl)).moves
  · rename_i hp
    by_cases hq : c.phase = .waitingResponse
    · have hn : c.phase.next? p.acknowledged .responseTimeout = some .idle := by simp [hq, Phase.next?]
      rw [breakCycle_stopTimer _ (by simp [hn])]
      exact (Move.fail hp hn).moves
    · have hn : (c.stopTimer .response).phase.next? p.acknowledged .responseTimeout = none := by
        rw [hs]
        cases h : c.phase <;> simp_all [Phase.next?]
      rw [breakCycle_refused hn]
      exact (Move.lapse hd (.inr ⟨rfl, .inr ⟨hq, hp⟩⟩)).moves

def judgedFire (timer : Timer) (now : Nat) (c : Controller p) : List (Judgement p) :=
  match timer with
  | .frameGap => c.judged now .tick
  | _ => []

lemma fire_writeSpacing (now : Nat) (c : Controller p) :
    c.fire .writeSpacing now = c ∨
      (c.timers.deadline .writeSpacing).isSome ∧
        c.fire .writeSpacing now = (c.stopTimer .writeSpacing).releaseHeld := by
  by_cases h : ∃ deadline, c.timers.deadline .writeSpacing = some deadline ∧ deadline ≤ now
  · obtain ⟨deadline, hd, hn⟩ := h
    exact .inr ⟨by simp [hd], fire_unguarded rfl hd hn⟩
  · exact .inl (fire_pending h)

theorem moves_fire (timer : Timer) (ht : timer ≠ .writeSpacing) (now : Nat) (c : Controller p) :
    Moves (Move now) c (c.judgedFire timer now) (c.fire timer now) := by
  by_cases h : ∃ deadline, c.timers.deadline timer = some deadline ∧ deadline ≤ now
  · obtain ⟨deadline, hd, hn⟩ := h
    have hs : (c.timers.deadline timer).isSome := by simp [hd]
    cases timer with
    | frameGap =>
      simp only [fire, judgedFire, judged, fire_due hd hn, Timer.guardsReply, Bool.not_false, Bool.true_or, if_true]
      exact (Move.endGap.moves.trans (moves_dropCandidate now _)).trans (moves_drain now _)
    | writeSpacing => exact absurd rfl ht
    | ack =>
      cases ha : c.timers.isAnswered with
      | false =>
        simp only [fire, fire_due hd hn, Timer.guardsReply, ha, Bool.not_true, Bool.not_false, Bool.or_true, if_true]
        exact moves_missAck now c hs
      | true =>
        simp only [fire, fire_due hd hn, Timer.guardsReply, ha, Bool.not_true, Bool.or_self, Bool.false_eq_true,
          if_false]
        exact (Move.lapse hs (.inl ⟨rfl, .inl ha⟩)).moves
    | response =>
      cases ha : c.timers.isAnswered with
      | false =>
        simp only [fire, fire_due hd hn, Timer.guardsReply, ha, Bool.not_true, Bool.not_false, Bool.or_true, if_true]
        exact moves_missResponse now c hs
      | true =>
        simp only [fire, fire_due hd hn, Timer.guardsReply, ha, Bool.not_true, Bool.or_self, Bool.false_eq_true,
          if_false]
        exact (Move.lapse hs (.inr ⟨rfl, .inl ha⟩)).moves
  · have he : c.timers.fire timer now = (false, c.timers) :=
      fire_early fun d hd => Nat.lt_of_not_le fun hn => h ⟨d, hd, hn⟩
    cases timer <;> simp only [fire, judgedFire, judged, he, Bool.false_eq_true, if_false] <;> exact .refl

theorem moves_fireAll (now : Nat) (c : Controller p) :
    Moves (LineMove now) c (c.judged now .tick) (c.fireAll now) := by
  have hg := (moves_fire .frameGap (by simp) now c).onLine
  have hw : Moves (LineMove now) (c.fire .frameGap now) [] ((c.fire .frameGap now).fire .writeSpacing now) := by
    rcases fire_writeSpacing now (c.fire .frameGap now) with he | ⟨hd, he⟩ <;> rw [he]
    · exact .refl
    · exact .single (.release hd)
  have ha := (moves_fire .ack (by simp) now ((c.fire .frameGap now).fire .writeSpacing now)).onLine
  have h := ((hg.trans hw).trans ha).trans (moves_fire .response (by simp) now _).onLine
  simpa [judgedFire] using! h

def during (now : Nat) (c : Controller p) : Input → Controller p
  | .woken => c.takeUpWork now
  | .bytes data => (c.hear now data).takeUpWork now
  | .wrote result => (c.endWrite now result).takeUpWork now
  | .tick => (c.fireAll now).takeUpWork now
  | .disconnected detail => c.loseLine detail

lemma step_eq (now : Nat) (c : Controller p) (input : Input) : c.step now input = (c.during now input).flush := by
  cases input <;> rfl

lemma flush_silent (h : c.outbox = []) : c.flush = ([], c) := by
  cases c
  simp_all [flush]

theorem moves_during (now : Nat) (c : Controller p) {input : Input} (hi : ∀ detail, input ≠ .disconnected detail) :
    Moves (LineMove now) c (c.judged now input) (c.during now input) := by
  have ht (d : Controller p) : Moves (LineMove now) d [] (d.takeUpWork now) := (moves_takeUpWork now d).onLine
  cases input with
  | woken => exact ht c
  | bytes data => simpa using! (moves_hear now data c).trans (ht _)
  | wrote result => exact (moves_endWrite now c result).trans (ht _)
  | tick => simpa using! (moves_fireAll now c).trans (ht _)
  | disconnected detail => exact absurd rfl (hi detail)

end Controller

end ParkingStation.Exchange
