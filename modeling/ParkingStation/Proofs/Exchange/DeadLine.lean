import Mathlib.Logic.Relation
import ParkingStation.Proofs.Exchange.Spacing
import ParkingStation.Proofs.Exchange.Spending
import ParkingStation.Proofs.Exchange.Vigilance
import ParkingStation.Proofs.Framing.Draining

/-! Whatever fails first, the bytes left in the receiver run out, then the work, each piece of it after its
sends and its polls, and then the writes. -/

namespace ParkingStation

namespace Exchange

open Framing

variable {p : Peripheral} {now : Nat} {timing : Settings.Timing}

namespace Controller

variable {c d : Controller p}

def noise (c : Controller p) : Nat := c.receiver.buffer.length + c.timers.frameGap.toList.length

lemma noise_of_watch (h : d.watch = c.watch) : d.noise = c.noise := by
  simp only [watch, Prod.mk.injEq] at h
  simp [noise, h.1, h.2.2]

lemma noise_breakCycle_le (trigger : Trigger) (reason : Reason) (detail : String) (c : Controller p) :
    (c.breakCycle trigger reason detail).noise ≤ c.noise := by
  unfold breakCycle
  split
  · rw [noise_of_watch (watch_repeatOrAbandon reason detail _)]
    exact Nat.zero_le _
  · exact Nat.le_refl _

lemma noise_repeatPiece (trigger : Trigger) (reason : Reason) (detail : String) (c : Controller p) :
    (c.repeatPiece now trigger reason detail).noise = 0 := by
  simp only [repeatPiece]
  split
  · rw [noise_of_watch (watch_sendPiece now _)]
    rfl
  · rfl

lemma noise_fire_le {timer : Timer} (ht : timer ≠ .frameGap) (now : Nat) (c : Controller p) :
    (c.fire timer now).noise ≤ c.noise := by
  rcases fire_cases timer now c with he | ⟨hg, he⟩ | he
  · exact Nat.le_of_eq (congrArg noise he)
  · refine Nat.le_trans (Nat.le_of_eq (congrArg noise he)) ?_
    cases timer <;> cases hg <;> exact Nat.le_refl _
  · refine Nat.le_trans (Nat.le_of_eq (congrArg noise he)) ?_
    cases timer with
    | frameGap => exact absurd rfl ht
    | writeSpacing =>
      simp only [expire, releaseHeld]
      split <;> exact Nat.le_refl _
    | ack => exact noise_breakCycle_le _ _ _ (c.stopTimer .ack)
    | response =>
      simp only [expire, missResponse]
      split
      · rw [noise_repeatPiece]
        exact Nat.zero_le _
      · exact noise_breakCycle_le _ _ _ (c.stopTimer .response)

lemma receiver_of_watch (h : d.watch = c.watch) : d.receiver = c.receiver := congrArg Prod.fst h

lemma receiver_takeReply (frame : p.Frame) (c : Controller p) : (c.takeReply frame).receiver = c.receiver := by
  cases hc : c.command with
  | none => simp [takeReply, hc]
  | some o =>
    rw [takeReply_eq hc rfl]
    rcases conclude_cases o (p.judge c.session o.item frame).2 (p.judge c.session o.item frame).1 with
      ⟨-, he⟩ | ⟨session, queue, polls, events, he⟩ | ⟨reason, detail, he⟩
    · rw [he]
    · rw [he]
      rfl
    · rw [he, receiver_of_watch (watch_repeatOrAbandon reason detail _)]
      rfl

lemma receiver_takeChunkReply (frame : p.Frame) (c : Controller p) :
    (c.takeChunkReply now frame).receiver = c.receiver := by
  simp only [takeChunkReply, nextPiece]
  split
  · rfl
  · split
    · rfl
    · split
      · exact (receiver_of_watch (watch_sendPiece now _)).trans rfl
      · rfl
    · split
      · exact (receiver_of_watch (watch_sendPiece now _)).trans rfl
      · rfl
    · rfl

lemma receiver_takeItem (now : Nat) (item : Item p.Frame) (c : Controller p) :
    (c.takeItem now item).receiver = c.receiver := by
  cases item with
  | corrupt fault =>
    simp only [takeItem]
    split <;> rfl
  | ack =>
    simp only [takeItem, takeAck]
    split
    · split
      · exact receiver_of_watch (watch_transmitSpaced now _ _)
      · rfl
    · rfl
  | nak =>
    simp only [takeItem, takeNak]
    split
    · exact (receiver_of_watch (watch_repeatOrAbandon _ _ _)).trans rfl
    · rfl
  | frame frame =>
    simp only [takeItem]
    split
    · exact receiver_takeReply frame c
    · split
      · exact receiver_takeChunkReply frame c
      · rfl

lemma receiver_items (now : Nat) (items : List (Item p.Frame)) (c : Controller p) :
    (items.foldl (takeItem now) c).receiver = c.receiver := by
  induction items generalizing c with
  | nil => rfl
  | cons item items ih => exact (ih _).trans (receiver_takeItem now item c)

lemma receiver_breakCycle (trigger : Trigger) (reason : Reason) (detail : String) (c : Controller p) :
    (c.breakCycle trigger reason detail).receiver = c.receiver ∨
      (c.breakCycle trigger reason detail).receiver = .fresh p.scanner := by
  unfold breakCycle
  split
  · exact .inr (receiver_of_watch (watch_repeatOrAbandon reason detail _))
  · exact .inl rfl

lemma receiver_settleSpoilt (now : Nat) (c : Controller p) :
    (c.settleSpoilt now).receiver = c.receiver ∨ (c.settleSpoilt now).receiver = .fresh p.scanner := by
  unfold settleSpoilt
  split
  · split
    · simp only [rejectReply]
      split
      · exact receiver_breakCycle _ _ _ _
      · split
        · refine .inr ?_
          simp only [repeatPiece]
          split
          · exact receiver_of_watch (watch_sendPiece now _)
          · rfl
        · exact .inl rfl
    · exact .inl rfl
  · exact .inl rfl

lemma receiver_drain (now : Nat) (c : Controller p) :
    (c.drain now).receiver = (c.receiver.readAll p.scanner).2 ∨ (c.drain now).receiver = .fresh p.scanner := by
  have hw (d : Controller p) : (d.watchGap now).receiver = d.receiver := by
    unfold watchGap
    split <;> rfl
  have hi := receiver_items now (c.receiver.readAll p.scanner).1
    { c with receiver := (c.receiver.readAll p.scanner).2 }
  exact (receiver_settleSpoilt now _).imp (fun h => (hw _).trans (h.trans hi)) fun h => (hw _).trans h

lemma noise_drain_le (now : Nat) (c : Controller p) : (c.drain now).noise ≤ c.receiver.buffer.length + 1 := by
  have hg : (c.drain now).timers.frameGap.toList.length ≤ 1 := by
    cases (c.drain now).timers.frameGap <;> simp
  have hb : (c.drain now).receiver.buffer.length ≤ c.receiver.buffer.length := by
    rcases receiver_drain now c with he | he
    · rw [he]
      exact Receiver.length_readAll_le p.scanner c.receiver
    · rw [he]
      exact Nat.zero_le _
  unfold noise
  omega

section Fresh

variable (hs : p.scanner.stalled p.scanner.start = none)
include hs

lemma noise_drain_fresh (h : c.receiver = .fresh p.scanner) : (c.drain now).noise = 0 := by
  have hr : (c.drain now).receiver = .fresh p.scanner := by
    rcases receiver_drain now c with he | he
    · rw [he, h, Receiver.readAll_fresh]
    · exact he
  have hg : (c.drain now).timers.frameGap = none := by
    have hw := (watched_drain now c).gap
    rw [hr] at hw
    simpa [Receiver.fresh, hs] using hw
  rw [noise, hr, hg]
  rfl

lemma noise_fire_frameGap_lt {deadline : Nat} (h : c.Watched) (hd : c.timers.deadline .frameGap = some deadline)
    (hn : deadline ≤ now) : (c.fire .frameGap now).noise < c.noise := by
  have hf : c.timers.frameGap = some deadline := hd
  obtain ⟨fault, hl⟩ := Option.isSome_iff_exists.mp (h.gap.mp (by simp [hf]))
  have hc : c.noise = c.receiver.buffer.length + 1 := by simp [noise, hf]
  simp only [fire_unguarded rfl hd hn, expire, stopTimer, endGap, Receiver.giveUp, hl, Option.elim_some]
  have hr := receiver_takeItem now (.corrupt fault)
    { c with timers := c.timers.stop .frameGap, receiver := .skip p.scanner c.receiver.seen c.receiver.ahead }
  have hb : (Receiver.skip p.scanner c.receiver.seen c.receiver.ahead).buffer = c.receiver.buffer.tail := rfl
  cases he : c.receiver.buffer with
  | nil =>
    rw [hc, he, noise_drain_fresh hs (hr.trans ?_)]
    · exact Nat.succ_pos _
    · rw [Receiver.buffer] at he
      simp [Receiver.skip, Receiver.fresh, he]
  | cons b bs =>
    have hle := noise_drain_le now (takeItem now
      { c with timers := c.timers.stop .frameGap, receiver := .skip p.scanner c.receiver.seen c.receiver.ahead }
      (.corrupt fault))
    rw [hr, hb, he] at hle
    rw [hc, he]
    exact Nat.lt_succ_of_le hle

end Fresh

structure Settled (timing : Settings.Timing) (c : Controller p) : Prop where
  steady : c.Steady timing.maxRetries
  timing : c.timing = timing
  idle : c.phase = .idle → c.command = none ∧ c.chunk = none

lemma settled_fresh (hs : p.scanner.stalled p.scanner.start = none) (session : p.Session) :
    (fresh p session timing).Settled timing :=
  ⟨steady_fresh hs session timing, rfl, fun _ => ⟨rfl, rfl⟩⟩

lemma Settled.meet (hs : p.scanner.stalled p.scanner.start = none) (demand : Demand p) (h : c.Settled timing) :
    (c.meet demand).Settled timing := by
  refine ⟨h.steady.turn hs c (.demand demand), ?_, ?_⟩
  · exact (congrArg Timers.timing (meet_line c demand).1).trans h.timing
  · cases demand with
    | submit | submitFirst | instruct => exact h.idle
    | upload chunks =>
      simp only [Controller.meet, submitUpload]
      split <;> exact h.idle

lemma Settled.step (hs : p.scanner.stalled p.scanner.start = none) (now : Nat) (call : Call) (h : c.Settled timing) :
    (c.step now call.input).2.Settled timing := by
  refine ⟨h.steady.turn hs c (.call now call), ?_, fun hi => ?_⟩
  · exact (turn_timing c (.call now call)).trans h.timing
  · rw [step_eq] at hi ⊢
    cases call <;> exact (takeUpWork_idle hi).imp id And.left

lemma Settled.failed (now : Nat) {result : WriteResult} (h : c.Settled timing) (hr : result ≠ .completed) :
    (c.during now (.wrote result)).noise ≤ c.noise ∧
      ((c.during now (.wrote result)).toil timing < c.toil timing ∨ c.during now (.wrote result) = c) := by
  have broken {trigger : Trigger} (reason : Reason) (detail : String)
      (ht : trigger = .writeFailed ∨ trigger = .writeTimeout) :
      ((c.breakCycle trigger reason detail).takeUpWork now).noise ≤ c.noise ∧
        (((c.breakCycle trigger reason detail).takeUpWork now).toil timing < c.toil timing ∨
          (c.breakCycle trigger reason detail).takeUpWork now = c) := by
    refine ⟨?_, ?_⟩
    · rw [noise_of_watch (watch_takeUpWork now _)]
      exact noise_breakCycle_le trigger reason detail c
    · by_cases ha : (c.phase.next? p.acknowledged trigger).isSome
      · have hn := next_fail (by rcases ht with rfl | rfl <;> simp) ha
        refine .inl (toil_breakCycle_lt h.timing h.steady.matched (fun hi => ?_) hn)
        rcases ht with rfl | rfl <;> simp [hi, Phase.next?] at ha
      · rw [breakCycle_refused (by simpa using ha)]
        exact (toil_takeUpWork now h.steady.matched).symm
  cases result with
  | completed => exact absurd rfl hr
  | failed detail => exact broken _ _ (.inl rfl)
  | timedOut => exact broken _ _ (.inr rfl)

lemma Settled.told (h : c.Settled timing) (hi : c.phase = .idle) (hq : c.queue.isEmpty = false) :
    (c.during now .woken).noise ≤ c.noise ∧ (c.during now .woken).toil timing < c.toil timing := by
  refine ⟨Nat.le_of_eq (noise_of_watch (watch_takeUpWork now c)), ?_⟩
  refine (toil_takeUpWork now h.steady.matched).resolve_left fun he => ?_
  have ht : (c.takeUpWork now).phase = .idle := by rwa [he]
  have hw := (takeUpWork_idle ht).2.2
  rw [he, hq] at hw
  cases hw

lemma earliest_mem {t : Nat} {ts : List (Option Nat)} (h : Timers.earliest ts = some t) : some t ∈ ts := by
  induction ts generalizing t with
  | nil => cases h
  | cons head ts ih =>
    cases head with
    | none => exact List.mem_cons_of_mem _ (ih h)
    | some u =>
      simp only [Timers.earliest] at h
      cases he : Timers.earliest ts with
      | none => simp_all
      | some v =>
        simp only [he, Option.elim_some, Option.some.injEq] at h
        rcases Nat.le_total u v with hl | hl
        · simp [← h, Nat.min_eq_left hl]
        · rw [← h, Nat.min_eq_right hl]
          exact List.mem_cons_of_mem _ (ih he)

lemma wake_deadline {deadline : Nat} (h : c.wake? = some deadline) :
    ∃ timer, c.timers.deadline timer = some deadline := by
  have hm := earliest_mem h
  simp only [List.mem_cons, List.not_mem_nil, or_false] at hm
  rcases hm with h | h | h | h
  · exact ⟨.writeSpacing, h.symm⟩
  · exact ⟨.ack, h.symm⟩
  · exact ⟨.response, h.symm⟩
  · exact ⟨.frameGap, h.symm⟩

lemma noise_tick_le (now : Nat) (c : Controller p) : (c.during now .tick).noise ≤ (c.fire .frameGap now).noise := by
  change ((c.fireAll now).takeUpWork now).noise ≤ _
  rw [noise_of_watch (watch_takeUpWork now _)]
  exact Nat.le_trans (noise_fire_le (by simp) now _)
    (Nat.le_trans (noise_fire_le (by simp) now _) (noise_fire_le (by simp) now _))

section Overdue

variable {n deadline : Nat}

lemma fire_ack (hp : c.phase = .waitingAck) (ha : c.timers.isAnswered = false)
    (hd : c.timers.deadline .ack = some deadline) (hn : deadline ≤ now) :
    c.fire .ack now =
      c.breakCycle .ackTimeout .ackTimeout ("no ACK within " ++ toString c.timing.ackTimeout ++ "ms") := by
  simp only [fire, fire_due hd hn, Timer.guardsReply, ha, Bool.not_true, Bool.not_false, Bool.or_true, if_true]
  exact breakCycle_stopTimer .ack (by simp [hp, Phase.next?])

lemma fire_response (hp : c.phase = .waitingResponse) (ha : c.timers.isAnswered = false)
    (hd : c.timers.deadline .response = some deadline) (hn : deadline ≤ now) :
    c.fire .response now =
      c.breakCycle .responseTimeout .noResponse
        ("no response within " ++ toString c.timing.responseTimeout ++ "ms") := by
  simp only [fire, fire_due hd hn, Timer.guardsReply, ha, Bool.not_true, Bool.not_false, Bool.or_true, if_true]
  have hq : (c.stopTimer .response).phase ≠ .waitingChunkResponse := by
    change c.phase ≠ _
    simp [hp]
  exact (if_neg hq).trans (breakCycle_stopTimer .response (by simp [hp, Phase.next?]))

lemma fire_response_piece (hp : c.phase = .waitingChunkResponse) (ha : c.timers.isAnswered = false)
    (hd : c.timers.deadline .response = some deadline) (hn : deadline ≤ now) :
    c.fire .response now =
      c.repeatPiece now .responseTimeout .noResponse
        ("no response within " ++ toString c.timing.responseTimeout ++ "ms") := by
  simp only [fire, fire_due hd hn, Timer.guardsReply, ha, Bool.not_true, Bool.not_false, Bool.or_true, if_true]
  have hq : (c.stopTimer .response).phase = .waitingChunkResponse := hp
  refine (if_pos hq).trans ?_
  simp only [repeatPiece]
  rfl

lemma Guarded.unanswered (h : c.Guarded n) (hr : c.timers.ack.isSome ∨ c.timers.response.isSome) :
    c.timers.isAnswered = false := by
  simpa [Timers.isAnswered] using Nat.ne_of_lt (h.opened hr)

lemma Guarded.waiting_ack (h : c.Guarded n) (ha : c.timers.ack.isSome) :
    c.phase = .waitingAck ∧ c.timers.response = none ∧ c.held = none := by
  have hw := h.awaits
  unfold Awaits at hw
  cases hp : c.phase <;> simp_all

lemma Guarded.waiting_response (h : c.Guarded n) (hr : c.timers.response.isSome) :
    (c.phase = .waitingResponse ∨ c.phase = .waitingChunkResponse) ∧ c.timers.ack = none ∧ c.held = none := by
  have hw := h.awaits
  unfold Awaits at hw
  cases hp : c.phase <;> simp_all
  exact hw.2.resolve_right fun hn => by simp [hn.1] at hr

lemma Guarded.fire_writeSpacing (h : c.Guarded n) (hh : c.held = none) : c.fire .writeSpacing now = c := by
  have hs : c.timers.writeSpacing = none := by simpa [hh] using h.spacing
  exact fire_stopped .writeSpacing hs

lemma toil_fire_ack (h : c.Settled timing) (hg : c.Guarded n) (hd : c.timers.deadline .ack = some deadline)
    (hn : deadline ≤ now) :
    ((((c.fire .writeSpacing now).fire .ack now).fire .response now).takeUpWork now).toil timing < c.toil timing := by
  have hs : c.timers.ack.isSome := by simp [show c.timers.ack = some deadline from hd]
  obtain ⟨hp, -, hh⟩ := hg.waiting_ack hs
  have hi : c.phase.next? p.acknowledged .ackTimeout = some .idle := by simp [hp, Phase.next?]
  rw [hg.fire_writeSpacing hh, fire_ack hp (hg.unanswered (.inl hs)) hd hn, fire_stopped .response]
  · exact toil_breakCycle_lt h.timing h.steady.matched (by simp [hp]) hi
  · -- the broken cycle has stopped all timers
    have hl : (c.breakCycle .ackTimeout .ackTimeout ("no ACK within " ++ toString c.timing.ackTimeout ++ "ms")).line =
        (c.advance .ackTimeout).closeCycle.line := line_breakCycle (by simp [accepts, hi])
    simp only [line, Prod.mk.injEq] at hl
    rw [hl.2.1]
    rfl

lemma toil_fire_response (h : c.Settled timing) (hg : c.Guarded n) (hd : c.timers.deadline .response = some deadline)
    (hn : deadline ≤ now) :
    ((((c.fire .writeSpacing now).fire .ack now).fire .response now).takeUpWork now).toil timing < c.toil timing := by
  have hs : c.timers.response.isSome := by simp [show c.timers.response = some deadline from hd]
  obtain ⟨hp, ha, hh⟩ := hg.waiting_response hs
  have hu := hg.unanswered (.inr hs)
  have hm := h.steady.matched
  rw [hg.fire_writeSpacing hh, fire_stopped .ack ha]
  rcases hp with hp | hp
  · rw [fire_response hp hu hd hn]
    exact toil_breakCycle_lt h.timing hm (by simp [hp]) (by simp [hp, Phase.next?])
  · rw [fire_response_piece hp hu hd hn]
    exact toil_lt_of_further (toil_repeatPiece_lt h.timing hm hp)
      (toil_takeUpWork now (matched_repeatPiece _ _ hm hp rfl))

lemma Settled.waited (hs : p.scanner.stalled p.scanner.start = none) (h : c.Settled timing)
    (hr : c.Rested timing.maxRetries now 0) (hw : c.wake? = some deadline) (hn : deadline ≤ now) :
    (c.during now .tick).noise < c.noise ∨
      (c.during now .tick).noise ≤ c.noise ∧
        ((c.during now .tick).toil timing < c.toil timing ∨
          (c.during now .tick).toil timing = c.toil timing ∧ c.held.isSome ∧ (c.during now .tick).held = none ∧
            ∃ bytes, transmissions (c.during now .tick).outbox = [bytes]) := by
  by_cases hg : ∃ deadline, c.timers.deadline .frameGap = some deadline ∧ deadline ≤ now
  · obtain ⟨silence, hd, hg⟩ := hg
    exact .inl (Nat.lt_of_le_of_lt (noise_tick_le now c) (noise_fire_frameGap_lt hs h.steady.watched hd hg))
  · have hf : c.fire .frameGap now = c := fire_pending hg
    refine .inr ⟨Nat.le_trans (noise_tick_le now c) (Nat.le_of_eq (congrArg noise hf)), ?_⟩
    have he : c.during now .tick =
        (((c.fire .writeSpacing now).fire .ack now).fire .response now).takeUpWork now := by
      conv_rhs => rw [← hf]
      rfl
    rw [he]
    obtain ⟨timer, hd⟩ := wake_deadline hw
    cases timer with
    | frameGap => exact absurd ⟨deadline, hd, hn⟩ hg
    | ack => exact .inl (toil_fire_ack h hr.guarded hd hn)
    | response => exact .inl (toil_fire_response h hr.guarded hd hn)
    | writeSpacing =>
      have hsome : (c.timers.deadline .writeSpacing).isSome := by simp [hd]
      obtain ⟨bytes, hb⟩ := Option.isSome_iff_exists.mp (hr.guarded.spacing.trans hsome)
      obtain ⟨-, -, hi, ha, hx⟩ := hr.guarded.release (w := 0) hsome
      have hq : c.fire .writeSpacing now = (c.stopTimer .writeSpacing).releaseHeld := fire_unguarded rfl hd hn
      have hl : (c.stopTimer .writeSpacing).releaseHeld =
          { c with timers := c.timers.stop .writeSpacing, held := none }.transmit bytes := by
        simp [releaseHeld, stopTimer, hb]
      rw [hq, fire_stopped .ack ha, fire_stopped .response hx, takeUpWork_busy hi, hl]
      exact .inr ⟨rfl, by simp [hb], rfl, bytes, by simp [transmit, hr.outbox]⟩

end Overdue

end Controller

/-- A controller on a line that takes nothing and brings nothing, with the time and the writes that are still to
fail. -/
structure Stranded (p : Peripheral) where
  now : Nat
  waiting : List Bytes
  controller : Controller p

/-- What is left to do on such a line: to have a write fail, to tell an idle controller of work that it has not been
told of, and to call it when it asked for it. -/
inductive Fades : Stranded p → Stranded p → Prop
  | failed {now later bytes waiting c result} (hn : now ≤ later) (hr : result ≠ .completed) :
      Fades ⟨now, bytes :: waiting, c⟩
        ⟨later, waiting ++ transmissions (c.step later (.wrote result)).1, (c.step later (.wrote result)).2⟩
  | told {now later c} (hn : now ≤ later) (hi : c.phase = .idle) (hq : c.queue.isEmpty = false) :
      Fades ⟨now, [], c⟩ ⟨later, transmissions (c.step later .woken).1, (c.step later .woken).2⟩
  | waited {now later deadline c} (hn : now ≤ later) (hw : c.wake? = some deadline) (hd : deadline ≤ later) :
      Fades ⟨now, [], c⟩ ⟨later, transmissions (c.step later .tick).1, (c.step later .tick).2⟩

namespace Stranded

variable {s t : Stranded p}

def Reachable (start : Controller p) (s : Stranded p) : Prop := Driven start s.now s.waiting s.controller

structure AtRest (s : Stranded p) : Prop where
  waiting : s.waiting = []
  phase : s.controller.phase = .idle
  command : s.controller.command = none
  chunk : s.controller.chunk = none
  commands : s.controller.queue.commands = []
  chunks : s.controller.queue.chunks = []
  timers : ∀ timer, s.controller.timers.isRunning timer = false

def dues (s : Stranded p) : Nat := s.waiting.length + 2 * s.controller.held.toList.length

def weight (timing : Settings.Timing) (s : Stranded p) : Nat × Nat × Nat :=
  (s.controller.noise, s.controller.toil timing, s.dues)

def Lighter (timing : Settings.Timing) : Stranded p → Stranded p → Prop :=
  InvImage (Prod.Lex (· < ·) (Prod.Lex (· < ·) (· < ·))) (weight timing)

lemma lighter_wellFounded (timing : Settings.Timing) : WellFounded (Lighter (p := p) timing) :=
  InvImage.wf _ (Prod.lex Nat.lt_wfRel (Prod.lex Nat.lt_wfRel Nat.lt_wfRel)).wf

lemma lighter_of_noise (h : t.controller.noise < s.controller.noise) : t.Lighter timing s := Prod.Lex.left _ _ h

lemma lighter_of_toil (hn : t.controller.noise ≤ s.controller.noise)
    (h : t.controller.toil timing < s.controller.toil timing) : t.Lighter timing s :=
  Prod.Lex.right' _ hn (Prod.Lex.left _ _ h)

lemma lighter_of_dues (hn : t.controller.noise ≤ s.controller.noise)
    (ht : t.controller.toil timing ≤ s.controller.toil timing) (h : t.dues < s.dues) : t.Lighter timing s :=
  Prod.Lex.right' _ hn (Prod.Lex.right' _ ht h)

end Stranded

namespace Fades

open Stranded

variable {s t : Stranded p} {start : Controller p}

lemma reachable (h : Fades s t) (hs : s.Reachable start) : t.Reachable start := by
  cases h with
  | failed hn hr => exact (Driven.later hs hn).wrote _
  | told hn hi hq => exact (Driven.later hs hn).call .woken (by simp)
  | waited hn hw hd => exact (Driven.later hs hn).call .tick (by simp)

lemma lighter (hf : p.scanner.stalled p.scanner.start = none) (h : Fades s t) (hs : s.controller.Settled timing)
    (hr : s.controller.Rested timing.maxRetries s.now s.waiting.length) : t.Lighter timing s := by
  cases h with
  | @failed now later bytes waiting c result hn hr' =>
    obtain ⟨hl, ht⟩ := hs.failed later hr'
    rw [Controller.step_eq]
    rcases ht with ht | he
    · exact lighter_of_toil hl ht
    · have ho : c.outbox = [] := hr.outbox
      rw [he]
      refine lighter_of_dues (Nat.le_refl _) (Nat.le_refl _) ?_
      simp [dues, Controller.flush, ho]
  | told hn hi hq =>
    obtain ⟨hl, ht⟩ := hs.told hi hq
    rw [Controller.step_eq]
    exact lighter_of_toil hl ht
  | @waited now later deadline c hn hw hd =>
    rw [Controller.step_eq]
    rcases hs.waited hf (hr.later hn) hw hd with hl | ⟨hl, ht | ⟨ht, hh, hn, bytes, hb⟩⟩
    · exact lighter_of_noise hl
    · exact lighter_of_toil hl ht
    · refine lighter_of_dues hl (Nat.le_of_eq ht) ?_
      obtain ⟨held, he⟩ : ∃ held, c.held = some held := Option.isSome_iff_exists.mp hh
      simp [dues, Controller.flush, hb, hn, he]

end Fades

lemma Driven.settled (hf : p.scanner.stalled p.scanner.start = none) {session : p.Session} {c : Controller p}
    {waiting : List Bytes} (h : Driven (.fresh p session timing) now waiting c) : c.Settled timing := by
  induction h using Driven.induct with
  | start now => exact Controller.settled_fresh hf session
  | later h hn ih => exact ih
  | meet h demand ih => exact ih.meet hf demand
  | turn h call hi ih => exact ih.step hf _ call

lemma Stranded.atRest {s : Stranded p} (hs : s.controller.Settled timing)
    (hr : s.controller.Rested timing.maxRetries s.now s.waiting.length) (h : ∀ t, ¬ Fades s t) : s.AtRest := by
  obtain ⟨now, waiting, c⟩ := s
  cases waiting with
  | cons bytes waiting =>
    have hr : WriteResult.timedOut ≠ .completed := by simp
    exact absurd (Fades.failed (Nat.le_refl now) hr) (h _)
  | nil =>
    have hw : c.wake? = none := by
      cases hw : c.wake? with
      | none => rfl
      | some deadline =>
        exact absurd (Fades.waited (Nat.le_max_left now deadline) hw (Nat.le_max_right now deadline)) (h _)
    have hp : c.phase = .idle := by
      by_contra hp
      have hi := hr.guarded.attended.wake hp
      simp [hw] at hi
    have hq : c.queue.isEmpty = true := by
      by_contra hq
      exact h _ (Fades.told (Nat.le_refl now) hp (by simpa using hq))
    obtain ⟨hc, hk⟩ := hs.idle hp
    simp only [WorkQueue.isEmpty, Bool.and_eq_true, List.isEmpty_iff] at hq
    refine ⟨rfl, hp, hc, hk, hq.1, hq.2, fun timer => Bool.eq_false_iff.mpr fun ht => ?_⟩
    obtain ⟨deadline, hd⟩ : ∃ deadline, c.timers.deadline timer = some deadline := Option.isSome_iff_exists.mp ht
    have hi : c.wake?.isSome := by
      apply Controller.earliest_isSome (t := deadline)
      cases timer <;> simp_all [Timers.deadline]
    simp [hw] at hi

/-- However a controller came to be where it is, once its line takes no more writes and brings no more bytes, serving
it comes to an end whichever write fails in which way and however late it is called; and at the end it is idle, has
nothing left to do and waits for nothing. -/
theorem dead_line_given_up (f : Fitting) (session : f.peripheral.Session) (timing : Settings.Timing)
    (s : Stranded f.peripheral) (h : s.Reachable (.fresh f.peripheral session timing)) :
    Acc (flip Fades) s ∧ ∀ t, Relation.ReflTransGen Fades s t → (∀ u, ¬ Fades t u) → t.AtRest := by
  have hr {s : Stranded f.peripheral} (h : s.Reachable (.fresh f.peripheral session timing)) :=
    Driven.rested h fun _ => Controller.rested_fresh session timing
  constructor
  · refine (Stranded.lighter_wellFounded timing).induction (C := fun s => s.Reachable _ → Acc (flip Fades) s) s ?_ h
    intro s ih h
    refine Acc.intro s fun t ht => ?_
    exact ih t (Fades.lighter f.stalled_start ht (Driven.settled f.stalled_start h) (hr h)) (Fades.reachable ht h)
  · intro t ht hd
    have hs : t.Reachable (.fresh f.peripheral session timing) := by
      clear hd
      induction ht with
      | refl => exact h
      | tail _ hf ih => exact hf.reachable ih
    exact Stranded.atRest (Driven.settled f.stalled_start hs) (hr hs) hd

def resetOnDeadLine : Stranded CardReader.peripheral := ⟨0, [[2, 67, 48, 48, 3, 66]], (toReset.step 0 .woken).2⟩

theorem reset_on_dead_line_given_up :
    resetOnDeadLine.Reachable (.fresh CardReader.peripheral {} {}) ∧ (∃ t, Fades resetOnDeadLine t) ∧
      Acc (flip Fades) resetOnDeadLine ∧
      ∀ t, Relation.ReflTransGen Fades resetOnDeadLine t → (∀ u, ¬ Fades t u) → t.AtRest := by
  have ho : transmissions (toReset.step 0 .woken).1 = [[2, 67, 48, 48, 3, 66]] := by decide +kernel
  have hs : Driven (Controller.fresh CardReader.peripheral {} {}) 0 [] toReset := .meet (.start 0) _
  have hw := hs.call .woken (by simp)
  simp only [Call.input, ho] at hw
  have hr : WriteResult.timedOut ≠ .completed := by simp
  exact ⟨hw, ⟨_, .failed (Nat.le_refl 0) hr⟩,
    dead_line_given_up .cardReader {} {} resetOnDeadLine hw⟩

end Exchange

end ParkingStation
