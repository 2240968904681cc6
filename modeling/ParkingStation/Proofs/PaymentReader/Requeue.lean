import ParkingStation.Proofs.Exchange.PollCeiling
import ParkingStation.Proofs.PaymentReader.Account
import ParkingStation.Proofs.PaymentReader.Hearing
import ParkingStation.Station.Basic

namespace ParkingStation.Exchange.Controller

variable {p : Peripheral} {now limit u : Nat} {a b c : Controller p} {P : p.Command → Bool}

lemma roster_sendRequest (now : Nat) (hP : ∀ x, P x = true → ∀ seq, ∃ bytes, requestBytes x seq = .ok bytes)
    (c : Controller p) : (c.sendRequest now).roster.filter P = c.roster.filter P := by
  cases hc : c.command with
  | none => simp only [sendRequest, hc]
  | some o =>
    cases hb : requestBytes o.item (nextSequence c.seq) with
    | error err =>
      have hn : P o.item = false := by
        by_contra hn
        obtain ⟨bytes, he⟩ := hP o.item (by simpa using hn) (nextSequence c.seq)
        cases hb.symm.trans he
      rw [sendRequest_error hc hb]
      simp [roster, hc, hn, advance, report]
    | ok bytes =>
      rw [sendRequest_ok hc hb]
      rcases transmitSpaced_cases now bytes
        { c with command := some ⟨o.item, o.sends + 1⟩, seq := nextSequence c.seq } with ⟨-, he⟩ | ⟨wait, -, he⟩ <;>
          simp [he, roster, hc, transmit]

lemma roster_sendPiece (now : Nat) (c : Controller p) : (c.sendPiece now).roster = c.roster := by
  obtain ⟨-, hc, hq, -⟩ := sendPiece_desk now c
  rw [roster, hc, hq, roster]

theorem roster_takeUpWork (now : Nat) (hP : ∀ x, P x = true → ∀ seq, ∃ bytes, requestBytes x seq = .ok bytes)
    (c : Controller p) : (c.takeUpWork now).roster.filter P = c.roster.filter P := by
  fun_induction takeUpWork now c with
  | case1 c hi o hc next hn ih => exact ih.trans (roster_sendRequest now hP (c.advance .commandEnqueued))
  | case2 c hi o hc next hn => exact roster_sendRequest now hP (c.advance .commandEnqueued)
  | case3 c hi k hc hk next hn ih =>
    rw [ih, roster_sendPiece]
    rfl
  | case4 c hi k hc hk next hn =>
    rw [roster_sendPiece]
    rfl
  | case5 c hi item queue hc hk hq ih =>
    obtain ⟨commands, hw, rfl, -⟩ := WorkQueue.next?_command hq
    rw [ih]
    simp [roster, hc, hw]
  | case6 c hi item queue hc hk hq ih =>
    obtain ⟨chunks, -, rfl⟩ := WorkQueue.next?_chunk hq
    rw [ih]
    rfl
  | case7 => rfl
  | case8 => rfl

lemma askAgain_pushed {x : p.Command} (ha : p.asksAgain c.session x = true)
    (hl : c.polls + 1 < c.timing.maxPollAttempts) :
    c.askAgain x = { c with polls := c.polls + 1 }.pushFront x := by
  rw [askAgain, if_pos ha]
  exact if_neg (Nat.not_le.mpr hl)

lemma Passage.askedAgain {o : Ongoing p.Command} {xs : List (Judgement p)} {e : Option (Ending p)} {j : Judgement p}
    {events : List Event} (h : Passage limit o u a xs e b) (hj : j ∈ xs) (hv : j.verdict = .unready events)
    (ha : p.asksAgain (p.judge j.session j.command j.frame).2 o.item = true)
    (hl : a.polls + 1 < a.timing.maxPollAttempts) :
    b.command = none ∧ b.queue = (a.queue.pushFront o.item).2 := by
  obtain ⟨d, -, -, hd, -, hb⟩ := h.decided hj (by simp [hv, Verdict.decides])
  obtain ⟨-, hq, hp, ht, -⟩ := of_shelf hd.shelf
  have hl : d.polls + 1 < d.timing.maxPollAttempts := by rwa [hp, ht]
  rw [hv, conclude, askAgain_pushed (by exact ha) (by exact hl)] at hb
  exact ⟨congrArg (fun s => s.1.2.1) hb, hq ▸ congrArg (fun s => s.2.2.1) hb⟩

lemma roster_pushFront {o : Ongoing p.Command} (hc : a.command = some o) (hb : b.command = none)
    (hq : b.queue = (a.queue.pushFront o.item).2) :
    (a.queue.commands.head? = some o.item → o.item :: b.roster = a.roster) ∧
      (a.queue.commands.head? ≠ some o.item → b.roster = a.roster) := by
  rw [roster, roster, hb, hq, hc, WorkQueue.pushFront]
  refine ⟨fun hh => ?_, fun hh => ?_⟩
  · rw [if_pos hh]
    rfl
  · rw [if_neg hh]
    rfl

end ParkingStation.Exchange.Controller

namespace ParkingStation.PaymentReader

open Exchange

variable {key : LoginBlock} {now later : Nat} {waiting : List Bytes} {c : Controller (peripheral key)}

def Command.isDeduct : Command → Bool
  | deduct _ => true
  | _ => false

def deductions (c : Controller (peripheral key)) : List Command := c.roster.filter Command.isDeduct

lemma request_deduct (key : LoginBlock) {command : Command} (h : command.isDeduct = true) (seq : UInt8) :
    ∃ bytes, Controller.requestBytes (p := peripheral key) command seq = .ok bytes := by
  cases command with
  | deduct amount => exact ⟨_, rfl⟩
  | _ => cases h

def NoCard (j : Judgement (peripheral key)) : Prop :=
  ∃ reply, Reply.parse j.frame = .ok reply ∧ reply.kind = (asked j).kind ∧ reply.status = .noCard

lemma NoCard.judge {j : Judgement (peripheral key)} (h : NoCard j) :
    Session.judge key j.session (asked j) j.frame =
      Session.settle (asked j) (if (asked j).needsCard then .unready [] else .refused .nak "no card" [], j.session) := by
  obtain ⟨reply, hp, hk, hs⟩ := h
  simp only [Session.judge, hp, hk, if_true, Session.answer, hs]

lemma NoCard.decides {j : Judgement (peripheral key)} (h : NoCard j) : j.verdict.decides = true := by
  have hv : j.verdict = _ := congrArg Prod.fst h.judge
  rw [hv]
  cases (asked j).needsCard with
  | true => rfl
  | false =>
    simp only [Bool.false_eq_true, if_false, Session.settle]
    split <;> rfl

/-- A reply that there is no card yet loses no deduction that waits, unless the first one waiting is equal to the one
in flight: of the two, one is left. -/
theorem deductions_after_no_card (session : Session) (timing : Settings.Timing) {amount : UInt32} {sends : Nat}
    {call : Call} {j : Judgement (peripheral key)}
    (h : Driven (.fresh (peripheral key) session timing) now waiting c) (hn : now ≤ later) (hi : call.InTurn waiting)
    (hc : c.command = some ⟨Command.deduct amount, sends⟩) (hs : c.session.scanning = true)
    (hl : c.polls + 1 < c.timing.maxPollAttempts) (hj : j ∈ c.judged later call.input) (hr : NoCard j) :
    (c.queue.commands.head? = some (Command.deduct amount) →
        Command.deduct amount :: deductions (c.step later call.input).2 = deductions c) ∧
      (c.queue.commands.head? ≠ some (Command.deduct amount) →
        deductions (c.step later call.input).2 = deductions c) := by
  have hp := (h.passage (countable key) (fun _ => Controller.rested_fresh (p := peripheral key) session timing) rfl
    hn hi hc).1
  obtain ⟨d, hj1, hj2, -⟩ := hp.decided hj hr.decides
  have hv : (peripheral key).judge j.session j.command j.frame = (.unready [], c.session) := by
    have hm := hr.judge
    rw [show asked j = Command.deduct amount from hj2, hj1] at hm
    rw [hj1, hj2]
    exact hm
  have ha : (peripheral key).asksAgain ((peripheral key).judge j.session j.command j.frame).2
      (Command.deduct amount) = true := by
    rw [hv]
    exact hs
  obtain ⟨hb, hq⟩ := hp.askedAgain hj (congrArg Prod.fst hv) ha hl
  obtain ⟨hsame, hother⟩ := Controller.roster_pushFront hc hb hq
  have hd : deductions (c.step later call.input).2 = deductions (c.attend later call) := by
    rw [Controller.step_eq, Controller.during_eq]
    exact Controller.roster_takeUpWork later (fun x hx => request_deduct key hx) (c.attend later call)
  rw [hd]
  refine ⟨fun hh => ?_, fun hh => ?_⟩
  · rw [deductions, deductions, ← hsame hh]
    rfl
  · rw [deductions, deductions, hother hh]

def noCardReply : Bytes := [0xaa, 0x92, 0x00, 0x08, 0x01, 0x01, 0x81, 0x82]

lemma attempt_noCardReply :
    Framing.attempt (scanner .forward) .waiting noCardReply = some (.frame ⟨true, 0x12, [1, 1]⟩, []) := by
  decide +kernel

def twoAsked (second : UInt32) : Controller (peripheral Station.noKey) :=
  (((Controller.fresh _ ({} : Session) { interFrameDelay := 0 }).meet (.instruct Session.startScanning)).meet
    (.submit (Command.deduct 100))).meet (.submit (Command.deduct second))

def oneInFlight (second : UInt32) : Controller (peripheral Station.noKey) :=
  (((twoAsked second).step 0 .woken).2.step 0 (.wrote .completed)).2

lemma driven_oneInFlight {second : UInt32}
    (hs : transmissions ((twoAsked second).step 0 .woken).1 =
      [[0xaa, 0x12, 0x00, 0x0b, 0x01, 0x00, 0x00, 0x00, 0x64, 0x18, 0x67]])
    (hn : transmissions (((twoAsked second).step 0 .woken).2.step 0 (.wrote .completed)).1 = []) :
    Driven (.fresh _ ({} : Session) { interFrameDelay := 0 }) 0 [] (oneInFlight second) := by
  have ha : Driven (.fresh _ ({} : Session) { interFrameDelay := 0 }) 0 [] (twoAsked second) :=
    (((Driven.start 0).meet _).meet _).meet _
  exact (((ha.call .woken (by simp)).awaiting hs).wrote .completed).awaiting hn

lemma noCard_oneInFlight {second : UInt32} {o : Ongoing Command}
    (hr : (oneInFlight second).receiver = .fresh (scanner .forward)) (hp : (oneInFlight second).phase = .waitingResponse)
    (hc : (oneInFlight second).command = some o) (hk : o.item.kind = 0x12) :
    ∃ j ∈ (oneInFlight second).judged 0 (.bytes noCardReply), NoCard j := by
  rw [judged_bytes hr attempt_noCardReply, judgement_waiting _ hp hc]
  exact ⟨_, List.mem_singleton_self _, ⟨0x12, 1, .noCard, []⟩, rfl, hk.symm, rfl⟩

theorem deductions_kept_from_another :
    (deductions (oneInFlight 200)).length = 2 ∧
      deductions ((oneInFlight 200).step 0 (.bytes noCardReply)).2 = deductions (oneInFlight 200) := by
  have hc : (oneInFlight 200).command = some ⟨Command.deduct 100, 1⟩ := by decide +kernel
  obtain ⟨j, hj, hn⟩ := noCard_oneInFlight (receiver_fresh (by decide +kernel)) (by decide +kernel) hc rfl
  have hi : Call.InTurn [] (.bytes noCardReply) := rfl
  have hq : @Eq (List (peripheral _).Command) (oneInFlight 200).queue.commands [Command.deduct 200] := by
    decide +kernel
  refine ⟨by decide +kernel, ?_⟩
  apply (deductions_after_no_card {} { interFrameDelay := 0 }
    (driven_oneInFlight (by decide +kernel) (by decide +kernel)) (Nat.le_refl 0) hi hc
    (by decide +kernel) (by decide +kernel) hj hn).2
  rw [hq]
  exact fun hh => by cases hh

theorem equal_deduction_lost :
    ∃ c : Controller (peripheral Station.noKey),
      Driven (.fresh _ ({} : Session) { interFrameDelay := 0 }) 0 [] c ∧
        c.command = some ⟨Command.deduct 100, 1⟩ ∧ c.session.scanning = true ∧
        c.polls + 1 < c.timing.maxPollAttempts ∧ (∃ j ∈ c.judged 0 (.bytes noCardReply), NoCard j) ∧
        (deductions c).length = 2 ∧ (deductions (c.step 0 (.bytes noCardReply)).2).length = 1 := by
  have hr : (oneInFlight 100).receiver = .fresh (scanner .forward) := receiver_fresh (by decide +kernel)
  have hc : (oneInFlight 100).command = some ⟨Command.deduct 100, 1⟩ := by decide +kernel
  refine ⟨oneInFlight 100, driven_oneInFlight (by decide +kernel) (by decide +kernel), hc, by decide +kernel,
    by decide +kernel, noCard_oneInFlight hr (by decide +kernel) hc rfl, by decide +kernel, ?_⟩
  rw [step_bytes hr attempt_noCardReply]
  decide +kernel

end ParkingStation.PaymentReader
