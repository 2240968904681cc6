import ParkingStation.Proofs.Exchange.Cycles
import ParkingStation.Proofs.Exchange.DeadLine

/-! Each silence costs the receiver one candidate that it can only reject, and the bytes after its first are
scanned again, until a frame ends the cycle or nothing is left to be rejected. -/

namespace ParkingStation

namespace Framing

variable {S F : Type} {scanner : Scanner S F}

def Item.fault? : Item F → Option Fault
  | .corrupt fault => some fault
  | _ => none

def latestFault (earlier : Option Fault) (items : List (Item F)) : Option Fault :=
  items.foldl (fun fault item => item.fault?.or fault) earlier

lemma latestFault_isSome (earlier : Option Fault) (items : List (Item F)) :
    (latestFault earlier items).isSome ↔ earlier.isSome ∨ ∃ fault, .corrupt fault ∈ items := by
  induction items generalizing earlier with
  | nil => simp [latestFault]
  | cons item items ih =>
    rw [latestFault, List.foldl_cons, ← latestFault, ih]
    cases item <;> simp [Item.fault?]

end Framing

namespace Exchange

open Framing

variable {p : Peripheral} {now deadline : Nat}

/-- Left alone from here on, a controller that waits for a reply stops waiting while it times the silence. -/
inductive EndsInSilence (deadline : Nat) : Controller p → Prop
  | ended {c} (hp : c.phase ≠ .waitingResponse) : EndsInSilence deadline c
  | silence {c : Controller p} {t} (hw : c.wake? = some t) (hg : c.timers.deadline .frameGap = some t)
      (ht : t < deadline) (h : EndsInSilence deadline (c.step t .tick).2) : EndsInSilence deadline c

/-- It is done with the silence, and nothing but the deadline of the reply is left to end the wait. -/
inductive WaitsOut (deadline : Nat) : Controller p → Prop
  | waits {c} (hp : c.phase = .waitingResponse) (hw : c.wake? = some deadline)
      (hr : c.timers.deadline .response = some deadline) (hg : c.timers.deadline .frameGap = none) :
      WaitsOut deadline c
  | silence {c : Controller p} {t} (hp : c.phase = .waitingResponse) (hw : c.wake? = some t)
      (hg : c.timers.deadline .frameGap = some t) (ht : t < deadline) (h : WaitsOut deadline (c.step t .tick).2) :
      WaitsOut deadline c

lemma WaitsOut.phase {c : Controller p} (h : WaitsOut deadline c) : c.phase = .waitingResponse := by
  cases h <;> assumption

lemma WaitsOut.not_ends {c : Controller p} (h : WaitsOut deadline c) : ¬ EndsInSilence deadline c := by
  induction h with
  | waits hp _ _ hg =>
    intro he
    cases he with
    | ended hn => exact hn hp
    | silence _ hs _ _ => cases hg.symm.trans hs
  | silence hp hw _ _ _ ih =>
    intro he
    cases he with
    | ended hn => exact hn hp
    | silence hv _ _ h =>
      cases hw.symm.trans hv
      exact ih h

structure Audible (p : Peripheral) : Prop where
  decisive : ∀ session command frame, Decisive session (p.judge session command frame)
  lawful : Lawful p.scanner
  idle : p.scanner.idle p.scanner.start = true
  stalled : p.scanner.stalled p.scanner.start = none

lemma Audible.unstalled (hk : Audible p) {receiver : Receiver p.Scan}
    (hc : Candidate p.scanner receiver.scan receiver.seen) (hb : (receiver.readAll p.scanner).2.buffer = []) :
    p.scanner.stalled (receiver.readAll p.scanner).2.scan = none := by
  rw [(Receiver.readAll_spec hk.lawful receiver hc).1.idle hb, hk.stalled]

namespace Controller

variable {c d : Controller p} {o : Ongoing p.Command}

def hearing (c : Controller p) (receiver : Receiver p.Scan) (spoilt : Option Fault) (gap : Option Nat) :
    Controller p :=
  { c with receiver := receiver, spoilt := spoilt, timers := { c.timers with frameGap := gap } }

structure Listening (o : Ongoing p.Command) (deadline : Nat) (c : Controller p) : Prop where
  phase : c.phase = .waitingResponse
  command : c.command = some o
  response : c.timers.response = some deadline
  ack : c.timers.ack = none
  spacing : c.timers.writeSpacing = none
  outbox : c.outbox = []

lemma Listening.hearing (h : c.Listening o deadline) (receiver : Receiver p.Scan) (spoilt : Option Fault)
    (gap : Option Nat) : (c.hearing receiver spoilt gap).Listening o deadline :=
  ⟨h.phase, h.command, h.response, h.ack, h.spacing, h.outbox⟩

section Items

variable {now : Nat} {item : Item p.Frame} {items : List (Item p.Frame)} {receiver : Receiver p.Scan}
  {spoilt : Option Fault} {gap : Option Nat}

lemma Listening.takeItem (hk : Audible p)
    (h : c.Listening o deadline) (hn : c.itemEnding? item = none) :
    (c.hearing receiver spoilt gap).takeItem now item = c.hearing receiver (item.fault?.or spoilt) gap := by
  have hp : (c.hearing receiver spoilt gap).phase = .waitingResponse := h.phase
  have hc : (c.hearing receiver spoilt gap).command = some o := h.command
  cases item with
  | corrupt fault =>
    simp only [Controller.takeItem, hp, true_or, if_true]
    rfl
  | ack => exact takeAck_refused (by simp [hp])
  | nak =>
    have ha : c.accepts .nakReceived = true := by simp [accepts, h.phase, Phase.next?]
    simp [itemEnding?, lineFailure?, h.command, ha] at hn
  | frame frame =>
    have ht : (c.hearing receiver spoilt gap).takeItem now (.frame frame) =
        (c.hearing receiver spoilt gap).takeReply frame := by
      simp only [Controller.takeItem, hp, if_true]
    simp only [itemEnding?, h.phase, if_true, replyEnding?, h.command] at hn
    rcases hv : p.judge c.session o.item frame with ⟨verdict, session⟩
    have hd := hk.decisive c.session o.item frame
    rw [hv] at hn hd
    cases verdict with
    | unrelated detail =>
      rcases hd with hd | ⟨hs, -⟩
      · cases hd
      · rw [ht, takeReply_eq hc hv]
        cases hs
        rfl
    | answered | unready | refused | again => cases hn

lemma Listening.takeItem_ends (h : c.Listening o deadline) (he : (c.itemEnding? item).isSome) :
    ((c.hearing receiver spoilt gap).takeItem now item).phase = .idle := by
  have hp : (c.hearing receiver spoilt gap).phase = .waitingResponse := h.phase
  have hc : (c.hearing receiver spoilt gap).command = some o := h.command
  cases item with
  | corrupt fault => cases he
  | ack => cases he
  | nak =>
    have ha : (c.hearing receiver spoilt gap).accepts .nakReceived = true := by simp [accepts, hp, Phase.next?]
    simp only [Controller.takeItem, takeNak, ha, if_true]
    rw [phase_repeatOrAbandon]
    exact phase_advance (c := c.hearing receiver spoilt gap) hp rfl
  | frame frame =>
    simp only [Controller.takeItem, hp, if_true]
    refine phase_takeReply hp hc fun detail hv => ?_
    simp only [itemEnding?, h.phase, if_true, replyEnding?, h.command] at he
    change (p.judge c.session o.item frame).1 = _ at hv
    rcases hj : p.judge c.session o.item frame with ⟨verdict, session⟩
    rw [hj] at he hv
    cases hv
    cases he

lemma phase_items_idle (hp : c.phase = .idle) (items : List (Item p.Frame)) :
    (items.foldl (Controller.takeItem now) c).phase = .idle := by
  induction items generalizing c with
  | nil => exact hp
  | cons item items ih => exact ih (judgement_idle now hp item).2

lemma Listening.takeItems (hk : Audible p)
    (h : c.Listening o deadline) (items : List (Item p.Frame)) (spoilt : Option Fault) :
    (∃ item ∈ items, (c.itemEnding? item).isSome) ∧
        (items.foldl (Controller.takeItem now) (c.hearing receiver spoilt gap)).phase = .idle ∨
      (∀ item ∈ items, c.itemEnding? item = none) ∧
        items.foldl (Controller.takeItem now) (c.hearing receiver spoilt gap) =
          c.hearing receiver (latestFault spoilt items) gap := by
  induction items generalizing spoilt with
  | nil => exact .inr ⟨nofun, rfl⟩
  | cons item items ih =>
    cases he : c.itemEnding? item with
    | some ending =>
      have hs : (c.itemEnding? item).isSome := by simp [he]
      exact .inl ⟨⟨item, List.mem_cons_self, hs⟩, phase_items_idle (h.takeItem_ends hs) items⟩
    | none =>
      rw [List.foldl_cons, h.takeItem hk he]
      rcases ih (item.fault?.or spoilt) with ⟨⟨i, hi, hs⟩, hp⟩ | ⟨hn, hf⟩
      · exact .inl ⟨⟨i, List.mem_cons_of_mem item hi, hs⟩, hp⟩
      · exact .inr ⟨List.forall_mem_cons.mpr ⟨he, hn⟩, hf⟩

end Items

lemma sendRequest_quits (hp : c.phase = .sendingRequest) : (c.sendRequest now).phase ≠ .waitingResponse := by
  simp only [sendRequest]
  split
  · simp [hp]
  · split
    · rw [phase_transmitSpaced]
      simp [phase, show c.machine.phase = _ from hp]
    · have hn : ({ c with command := none, seq := nextSequence c.seq }.advance .writeFailed).phase = .idle :=
        phase_advance hp rfl
      exact fun hw => by cases hn.symm.trans hw

lemma sendPiece_quits (hp : c.phase = .sendingChunk) : (c.sendPiece now).phase ≠ .waitingResponse := by
  simp only [sendPiece]
  split
  · simp [hp]
  · rename_i k hk
    split
    · rw [phase_transmitSpaced]
      simp [phase, show c.machine.phase = _ from hp]
    · have hn : ({ c with chunk := some ⟨k.item, k.sends + 1⟩, seq := nextSequence c.seq }.advance
          .writeFailed).phase = .idle := phase_advance hp rfl
      exact fun hw => by cases hn.symm.trans hw

lemma takeUpWork_quits (hp : c.phase ≠ .waitingResponse) : (c.takeUpWork now).phase ≠ .waitingResponse := by
  fun_induction takeUpWork now c with
  | case1 c hi o hc next hn ih => exact ih (by simp [hn])
  | case2 c hi o hc next hn => exact sendRequest_quits (phase_advance hi rfl)
  | case3 c hi o hc hk next hn ih => exact ih (by simp [hn])
  | case4 c hi o hc hk next hn => exact sendPiece_quits (phase_advance hi rfl)
  | case5 c hi item queue hc hk hq ih => exact ih hp
  | case6 c hi item queue hc hk hq ih => exact ih hp
  | case7 => exact hp
  | case8 => exact hp

lemma phase_fire_idle {timer : Timer} (ht : timer ≠ .frameGap) (hp : c.phase = .idle) :
    (c.fire timer now).phase = .idle := by
  have broken {d : Controller p} {trigger : Trigger} (reason : Reason) (detail : String) (hd : d.phase = .idle)
      (hn : Phase.next? p.acknowledged .idle trigger = none) : (d.breakCycle trigger reason detail).phase = .idle := by
    rwa [breakCycle_refused (hd ▸ hn)]
  rcases fire_cases timer now c with he | ⟨-, he⟩ | he <;> rw [he]
  · exact hp
  · exact hp
  · have hq : (c.stopTimer timer).phase = .idle := hp
    cases timer with
    | frameGap => exact absurd rfl ht
    | writeSpacing =>
      simp only [expire, releaseHeld]
      split <;> exact hq
    | ack => exact broken _ _ hq rfl
    | response =>
      rw [expire, missResponse, if_neg (by simp [hq])]
      exact broken _ _ hq rfl

lemma phase_fire_others (t : Nat) (hp : c.phase = .idle) :
    (((c.fire .writeSpacing t).fire .ack t).fire .response t).phase = .idle := by
  have hw : (c.fire .writeSpacing t).phase = .idle := phase_fire_idle (by simp) hp
  have ha : ((c.fire .writeSpacing t).fire .ack t).phase = .idle := phase_fire_idle (by simp) hw
  exact phase_fire_idle (by simp) ha

lemma phase_watchGap (now : Nat) (c : Controller p) : (c.watchGap now).phase = c.phase := by
  unfold watchGap
  split <;> rfl

lemma phase_settleSpoilt_idle (hp : c.phase = .idle) : (c.settleSpoilt now).phase = .idle := by
  unfold settleSpoilt
  split
  · split
    · have hi : ({ c with spoilt := none } : Controller p).phase = .idle := hp
      simp only [rejectReply, hi, reduceCtorEq, if_false]
    · exact hp
  · exact hp

lemma phase_settleSpoilt {fault : Fault} (hp : c.phase = .waitingResponse) (hs : c.spoilt = some fault)
    (hi : p.scanner.idle c.receiver.scan = true) : (c.settleSpoilt now).phase = .idle := by
  have ha : ({ c with spoilt := none } : Controller p).accepts .frameRejected = true := by
    simp [accepts, phase, show c.machine.phase = _ from hp, Phase.next?]
  have hw : ({ c with spoilt := none } : Controller p).phase = .waitingResponse := hp
  simp only [settleSpoilt, hs, hi, if_true, rejectReply, hw, breakCycle, ha]
  rw [phase_repeatOrAbandon]
  exact phase_advance (c := { c with spoilt := none }) hp rfl

def gapAfter (now : Nat) (receiver : Receiver p.Scan) (c : Controller p) : Option Nat :=
  if (p.scanner.stalled receiver.scan).isSome then some (now + c.timing.frameGap) else none

lemma watchGap_hearing (now : Nat) (receiver : Receiver p.Scan) (spoilt : Option Fault) (gap : Option Nat) :
    (c.hearing receiver spoilt gap).watchGap now = c.hearing receiver spoilt (c.gapAfter now receiver) := by
  have hr : (c.hearing receiver spoilt gap).receiver = receiver := rfl
  simp only [watchGap, gapAfter, hr]
  split <;> rfl

def EndedBy (c : Controller p) (spoilt : Option Fault) (read : List (Item p.Frame) × Receiver p.Scan) : Prop :=
  (∃ item ∈ read.1, (c.itemEnding? item).isSome) ∨
    read.2.buffer = [] ∧ (spoilt.isSome ∨ ∃ fault, .corrupt fault ∈ read.1)

lemma Listening.wake (h : c.Listening o deadline) (receiver : Receiver p.Scan) (spoilt : Option Fault) :
    (c.hearing receiver spoilt none).wake? = some deadline := by
  have hw := h.hearing receiver spoilt none
  have hg : (c.hearing receiver spoilt none).timers.frameGap = none := rfl
  simp [wake?, Timers.next?, Timers.earliest, hw.spacing, hw.ack, hw.response, hg]

lemma Listening.wake_gap {t : Nat} (h : c.Listening o deadline) (receiver : Receiver p.Scan) (spoilt : Option Fault)
    (ht : t < deadline) : (c.hearing receiver spoilt (some t)).wake? = some t := by
  have hw := h.hearing receiver spoilt (some t)
  have hg : (c.hearing receiver spoilt (some t)).timers.frameGap = some t := rfl
  simp only [wake?, Timers.next?, Timers.earliest, hw.spacing, hw.ack, hw.response, hg, Option.elim_none,
    Option.elim_some]
  rw [Nat.min_eq_right (Nat.le_of_lt ht)]

def settle (now : Nat) (c : Controller p) : Controller p := (c.takeUpWork now).flush.2

lemma settle_quits (hp : c.phase ≠ .waitingResponse) : (c.settle now).phase ≠ .waitingResponse :=
  takeUpWork_quits hp

lemma Listening.settle (h : c.Listening o deadline) : c.settle now = c := by
  rw [Controller.settle, takeUpWork_busy (by simp [h.phase]), flush_silent h.outbox]

lemma Listening.fire_others {t : Nat} (h : c.Listening o deadline) (ht : t < deadline) :
    ((c.fire .writeSpacing t).fire .ack t).fire .response t = c := by
  have hr : ¬ ∃ d, c.timers.deadline .response = some d ∧ d ≤ t := by
    rintro ⟨d, hd, hl⟩
    cases hd.symm.trans h.response
    omega
  rw [fire_stopped .writeSpacing h.spacing, fire_stopped .ack h.ack, fire_pending hr]

lemma endedBy_append {spoilt : Option Fault} {items more : List (Item p.Frame)} {rest last : Receiver p.Scan}
    {fault : Fault} (h : ¬ c.EndedBy spoilt (items, rest)) :
    c.EndedBy spoilt (items ++ .corrupt fault :: more, last) ↔ c.EndedBy (some fault) (more, last) := by
  have hn : ∀ item ∈ items, ¬ (c.itemEnding? item).isSome := fun item hm hs => h (.inl ⟨item, hm, hs⟩)
  constructor
  · rintro (⟨item, hm, hs⟩ | ⟨hb, -⟩)
    · rcases List.mem_append.mp hm with hm | hm
      · exact absurd hs (hn item hm)
      · rcases List.mem_cons.mp hm with rfl | hm
        · cases hs
        · exact .inl ⟨item, hm, hs⟩
    · exact .inr ⟨hb, .inl rfl⟩
  · rintro (⟨item, hm, hs⟩ | ⟨hb, -⟩)
    · exact .inl ⟨item, List.mem_append_right items (List.mem_cons_of_mem _ hm), hs⟩
    · exact .inr ⟨hb, .inr ⟨fault, List.mem_append_right items List.mem_cons_self⟩⟩

section Silence

variable (hk : Audible p)
include hk

lemma Listening.drain_cases (h : c.Listening o deadline) {receiver : Receiver p.Scan}
    (hc : Candidate p.scanner receiver.scan receiver.seen) (spoilt : Option Fault) (gap : Option Nat) (now : Nat) :
    let read := receiver.readAll p.scanner
    c.EndedBy spoilt read ∧ ((c.hearing receiver spoilt gap).drain now).phase = .idle ∨
      ¬ c.EndedBy spoilt read ∧
        (c.hearing receiver spoilt gap).drain now =
          c.hearing read.2 (latestFault spoilt read.1) (c.gapAfter now read.2) := by
  intro read
  have he := ((Receiver.readAll_spec hk.lawful receiver hc).1.empty_iff hk.idle : read.2.buffer = [] ↔ _)
  have hd : (c.hearing receiver spoilt gap).drain now =
      ((read.1.foldl (Controller.takeItem now) (c.hearing read.2 spoilt gap)).settleSpoilt now).watchGap now := rfl
  rw [hd]
  rcases h.takeItems hk read.1 spoilt with ⟨hs, hp⟩ | ⟨hn, hf⟩
  · refine .inl ⟨.inl hs, ?_⟩
    rw [phase_watchGap]
    exact phase_settleSpoilt_idle hp
  · have hne : ¬ ∃ item ∈ read.1, (c.itemEnding? item).isSome := by
      rintro ⟨item, hm, hs⟩
      simp [hn item hm] at hs
    rw [hf]
    have hw := h.hearing read.2 (latestFault spoilt read.1) gap
    by_cases hb : read.2.buffer = [] ∧ (latestFault spoilt read.1).isSome
    · obtain ⟨fault, hs⟩ := Option.isSome_iff_exists.mp hb.2
      refine .inl ⟨.inr ⟨hb.1, (latestFault_isSome spoilt read.1).mp hb.2⟩, ?_⟩
      rw [phase_watchGap]
      exact phase_settleSpoilt hw.phase hs (he.mp hb.1)
    · refine .inr ⟨fun h => h.elim hne fun hr => hb ⟨hr.1, (latestFault_isSome spoilt read.1).mpr hr.2⟩, ?_⟩
      have hs : (c.hearing read.2 (latestFault spoilt read.1) gap).settleSpoilt now =
          c.hearing read.2 (latestFault spoilt read.1) gap := by
        cases hf : latestFault spoilt read.1 with
        | none => rfl
        | some fault =>
          have hq : p.scanner.idle read.2.scan = false := Bool.eq_false_iff.mpr fun hq => hb ⟨he.mpr hq, by simp [hf]⟩
          simp [settleSpoilt, Controller.hearing, hq]
      rw [hs, watchGap_hearing]

lemma Listening.tick_gap (h : c.Listening o deadline) {receiver next : Receiver p.Scan} {fault : Fault} {t : Nat}
    (spoilt : Option Fault) (hu : receiver.giveUp p.scanner = (some (.corrupt fault), next))
    (hc : Candidate p.scanner next.scan next.seen) (ht : t < deadline) :
    let d := ((c.hearing receiver spoilt (some t)).step t .tick).2
    let e := ((c.hearing next (some fault) none).drain t).settle t
    d = e ∨ d.phase ≠ .waitingResponse ∧ e.phase ≠ .waitingResponse := by
  have hg : (c.hearing receiver spoilt (some t)).timers.deadline .frameGap = some t := rfl
  have htake : (c.hearing next spoilt none).takeItem t (.corrupt fault) = c.hearing next (some fault) none :=
    h.takeItem hk rfl
  have hr : ((c.hearing receiver spoilt (some t)).stopTimer .frameGap).receiver = receiver := rfl
  have hf : (c.hearing receiver spoilt (some t)).fire .frameGap t = (c.hearing next (some fault) none).drain t := by
    rw [← htake, fire_unguarded rfl hg (Nat.le_refl t)]
    simp only [expire, endGap, hr, hu]
    rfl
  have hd : ((c.hearing receiver spoilt (some t)).step t .tick).2 =
      (((((c.hearing receiver spoilt (some t)).fire .frameGap t).fire .writeSpacing t).fire .ack t).fire .response
        t).settle t := rfl
  rw [hf] at hd
  intro d e
  rcases h.drain_cases hk hc (some fault) none t with ⟨-, hp⟩ | ⟨-, he⟩
  · refine .inr ⟨?_, settle_quits (by simp [hp])⟩
    rw [show d = _ from hd]
    exact settle_quits (by simp [phase_fire_others t hp])
  · refine .inl ?_
    rw [show d = _ from hd, he, (h.hearing _ _ _).fire_others ht, ← he]

lemma Listening.silence_over (h : c.Listening o deadline) {receiver : Receiver p.Scan}
    (hc : Candidate p.scanner receiver.scan receiver.seen)
    (hg : p.scanner.stalled (receiver.readAll p.scanner).2.scan = none) (spoilt : Option Fault) (t : Nat) :
    let d := ((c.hearing receiver spoilt none).drain t).settle t
    (c.EndedBy spoilt (receiver.readAll p.scanner) → EndsInSilence deadline d) ∧
      (¬ c.EndedBy spoilt (receiver.readAll p.scanner) → WaitsOut deadline d) := by
  rcases h.drain_cases hk hc spoilt none t with ⟨he, hp⟩ | ⟨hn, hd⟩
  · exact ⟨fun _ => .ended (settle_quits (by simp [hp])), absurd he⟩
  · refine ⟨fun he => absurd he hn, fun _ => ?_⟩
    have hn : c.gapAfter t (receiver.readAll p.scanner).2 = none := by simp [gapAfter, hg]
    have hw := h.hearing (receiver.readAll p.scanner).2 (latestFault spoilt (receiver.readAll p.scanner).1) none
    rw [hd, hn, hw.settle]
    exact .waits hw.phase (h.wake _ _) hw.response rfl

lemma Listening.silence (h : c.Listening o deadline) (n : Nat) {receiver : Receiver p.Scan} (spoilt : Option Fault)
    {t : Nat} (hc : Candidate p.scanner receiver.scan receiver.seen) (hb : receiver.buffer.length ≤ n)
    (ht : t + c.timing.frameGap * n < deadline) :
    let d := ((c.hearing receiver spoilt none).drain t).settle t
    (c.EndedBy spoilt (receiver.drainFor p.scanner n) → EndsInSilence deadline d) ∧
      (¬ c.EndedBy spoilt (receiver.drainFor p.scanner n) → WaitsOut deadline d) := by
  induction n generalizing receiver spoilt t with
  | zero =>
    have hle := Receiver.length_readAll_le p.scanner receiver
    have hz : (receiver.readAll p.scanner).2.buffer = [] := List.length_eq_zero_iff.mp (by omega)
    exact h.silence_over hk hc (hk.unstalled hc hz) spoilt t
  | succ n ih =>
    have hle := Receiver.length_readAll_le p.scanner receiver
    have hz := hk.unstalled hc
    have hd := h.drain_cases hk hc spoilt none t
    have hover := h.silence_over hk hc
    rcases hread : receiver.readAll p.scanner with ⟨items, rest⟩
    rw [hread] at hle hz hd hover
    rcases Receiver.giveUp_cases p.scanner rest with ⟨hg, hu⟩ | ⟨fault, next, hg, hu, hc', hb'⟩
    · rw [Receiver.drainFor_over hread hu]
      exact hover hg spoilt t
    · rw [Receiver.drainFor_goes_on hread hu]
      rcases hd with ⟨hend, hp⟩ | ⟨hend, hd⟩
      · refine ⟨fun _ => .ended (settle_quits (by simp [hp])), fun hn => absurd ?_ hn⟩
        rcases hend with ⟨item, hm, hs⟩ | ⟨hr, -⟩
        · exact .inl ⟨item, List.mem_append_left _ hm, hs⟩
        · exact absurd (hz hr) (by simp [hg])
      · -- the silence is timed, and after it the bytes that follow the candidate's first are read
        have hq : c.gapAfter t rest = some (t + c.timing.frameGap) := by simp [gapAfter, hg]
        have hlen : next.buffer.length ≤ n := by
          rw [hb', List.length_tail]
          simp only at hle
          omega
        have hlt : t + c.timing.frameGap + c.timing.frameGap * n < deadline := by
          rw [Nat.mul_succ] at ht
          omega
        have ht' : t + c.timing.frameGap < deadline := Nat.lt_of_le_of_lt (Nat.le_add_right _ _) hlt
        have hw := h.hearing rest (latestFault spoilt items) (some (t + c.timing.frameGap))
        have hwake := h.wake_gap rest (latestFault spoilt items) ht'
        obtain ⟨hends, hwaits⟩ := ih (some fault) hc' hlen hlt
        rw [endedBy_append hend, hd, hq, hw.settle]
        rcases h.tick_gap hk (latestFault spoilt items) hu hc' ht' with he | ⟨hp, hp'⟩
        · refine ⟨fun h => .silence hwake rfl ht' ?_, fun h => .silence hw.phase hwake rfl ht' ?_⟩
          · exact he ▸ hends h
          · exact he ▸ hwaits h
        · exact ⟨fun _ => .silence hwake rfl ht' (.ended hp), fun h => absurd (hwaits h).phase hp'⟩

lemma Listening.hear (h : c.Listening o deadline) (hr : c.receiver = .fresh p.scanner) (hs : c.spoilt = none)
    (hg : c.timers.frameGap = none) (data : Bytes) (ht : now + c.timing.frameGap * data.length < deadline) :
    let heard := (c.step now (.bytes data)).2
    let read := ((Receiver.fresh p.scanner).append data).drain p.scanner
    (EndsInSilence deadline heard ↔ c.EndedBy none read) ∧ (WaitsOut deadline heard ↔ ¬ c.EndedBy none read) := by
  let d : Controller p := { c with timers := c.timers.heard now }
  have hd : d.Listening o deadline := ⟨h.phase, h.command, h.response, h.ack, h.spacing, h.outbox⟩
  have hl : ((Receiver.fresh p.scanner).append data).buffer.length = data.length := by
    simp [Receiver.buffer, Receiver.append, Receiver.fresh]
  have hc : Candidate p.scanner ((Receiver.fresh p.scanner).append data).scan
      ((Receiver.fresh p.scanner).append data).seen := .start
  have he : (c.step now (.bytes data)).2 =
      ((d.hearing ((Receiver.fresh p.scanner).append data) none none).drain now).settle now := by
    rw [← hr, ← hs, ← hg]
    rfl
  intro heard read
  obtain ⟨hends, hwaits⟩ : (c.EndedBy none read → EndsInSilence deadline heard) ∧
      (¬ c.EndedBy none read → WaitsOut deadline heard) := by
    rw [show heard = _ from he]
    exact hd.silence hk _ none hc (Nat.le_refl _) (by rwa [hl])
  refine ⟨⟨fun h => ?_, hends⟩, fun h he => h.not_ends (hends he), hwaits⟩
  by_contra hn
  exact (hwaits hn).not_ends h

end Silence

end Controller

namespace Controller

variable {c : Controller p}

lemma attentive_breakCycle {trigger : Trigger} {reason : Reason} {detail : String} (h : c.receiver.Settled p.scanner) :
    (c.breakCycle trigger reason detail).receiver.Settled p.scanner := by
  rcases receiver_breakCycle trigger reason detail c with he | he <;> rw [he]
  · exact h
  · exact Receiver.settled_fresh p.scanner

lemma attentive_drain (hl : Lawful p.scanner) (h : Candidate p.scanner c.receiver.scan c.receiver.seen) :
    (c.drain now).receiver.Settled p.scanner := by
  rcases receiver_drain now c with he | he <;> rw [he]
  · exact (Receiver.readAll_spec hl c.receiver h).1
  · exact Receiver.settled_fresh p.scanner

lemma attentive_fire (hl : Lawful p.scanner) (timer : Timer) (h : c.receiver.Settled p.scanner) :
    (c.fire timer now).receiver.Settled p.scanner := by
  rcases fire_cases timer now c with he | ⟨-, he⟩ | he <;> rw [he]
  · exact h
  · exact h
  · have hq : (c.stopTimer timer).receiver.Settled p.scanner := h
    cases timer with
    | frameGap =>
      simp only [expire, endGap]
      refine attentive_drain hl ?_
      rcases Receiver.giveUp_cases p.scanner (c.stopTimer .frameGap).receiver with
        ⟨-, hu⟩ | ⟨fault, next, -, hu, hc, -⟩
      · rw [hu]
        exact hq.candidate
      · rw [hu, Option.elim_some, receiver_takeItem]
        exact hc
    | writeSpacing =>
      simp only [expire, releaseHeld]
      split <;> exact hq
    | ack => exact attentive_breakCycle hq
    | response =>
      simp only [expire, missResponse]
      split
      · simp only [repeatPiece]
        split
        · rw [receiver_of_watch (watch_sendPiece now _)]
          exact Receiver.settled_fresh p.scanner
        · exact Receiver.settled_fresh p.scanner
      · exact attentive_breakCycle hq

lemma attentive_during (hl : Lawful p.scanner) (call : Call) (h : c.receiver.Settled p.scanner) :
    (c.during now call.input).receiver.Settled p.scanner := by
  have taken {d : Controller p} (hd : d.receiver.Settled p.scanner) :
      (d.takeUpWork now).receiver.Settled p.scanner := by rwa [receiver_of_watch (watch_takeUpWork now d)]
  cases call with
  | woken => exact taken h
  | bytes data => exact taken (attentive_drain hl h.candidate)
  | wrote result =>
    refine taken ?_
    cases result with
    | completed =>
      simp only [endWrite, completeWrite]
      split
      · split <;> exact h
      · exact h
    | failed | timedOut => exact attentive_breakCycle h
  | tick => exact taken (attentive_fire hl _ (attentive_fire hl _ (attentive_fire hl _ (attentive_fire hl _ h))))

end Controller

lemma Driven.attentive (hl : Lawful p.scanner) {start c : Controller p} {waiting : List Bytes}
    (hs : start.receiver.Settled p.scanner) (h : Driven start now waiting c) : c.receiver.Settled p.scanner := by
  induction h using Driven.induct with
  | start => exact hs
  | later h hn ih => exact ih
  | meet h demand ih => rwa [(Controller.meet_line _ demand).2.2.1]
  | turn h call hi ih =>
    rw [Controller.step_eq]
    exact Controller.attentive_during hl call ih

lemma Driven.listening {session : p.Session} {timing : Settings.Timing} {c : Controller p}
    (h : Driven (.fresh p session timing) now [] c) (hp : c.phase = .waitingResponse)
    (hd : c.timers.deadline .response = some deadline) : ∃ o, c.Listening o deadline := by
  have hr := h.rested fun _ => Controller.rested_fresh session timing
  have hs : c.timers.response = some deadline := hd
  obtain ⟨-, ha, hh⟩ := hr.guarded.waiting_response (by simp [hs])
  have hw : c.timers.writeSpacing = none := by simpa [hh] using hr.guarded.spacing
  have hf := hr.matched.fits
  rw [hp] at hf
  obtain ⟨-, o, hc, -⟩ := hf
  exact ⟨o, hp, hc, hs, ha, hw, hr.outbox⟩

lemma Driven.quiet (hk : Audible p) {session : p.Session} {timing : Settings.Timing} {c : Controller p}
    (h : Driven (.fresh p session timing) now [] c) (hp : c.phase = .waitingResponse)
    (hd : c.timers.deadline .response = some deadline) (hb : c.receiver.buffer = []) (data : Bytes)
    (ht : now + timing.frameGap * data.length < deadline) :
    let heard := (c.step now (.bytes data)).2
    let read := ((Receiver.fresh p.scanner).append data).drain p.scanner
    (EndsInSilence deadline heard ↔ c.EndedBy none read) ∧ (WaitsOut deadline heard ↔ ¬ c.EndedBy none read) := by
  obtain ⟨o, hl⟩ := h.listening hp hd
  have hr : c.receiver = .fresh p.scanner :=
    (h.attentive hk.lawful (Receiver.settled_fresh p.scanner)).eq_fresh hb
  have hset := h.settled hk.stalled
  have hw := hset.steady.watched
  have hs : c.spoilt = none := Option.not_isSome_iff_eq_none.mp fun hs => by
    have hi := hw.spoilt hs
    simp [hr, Receiver.fresh, hk.idle] at hi
  have hg : c.timers.frameGap = none := Option.not_isSome_iff_eq_none.mp fun hg => by
    have hi := hw.gap.mp hg
    simp [hr, Receiver.fresh, hk.stalled] at hi
  refine hl.hear hk hr hs hg data ?_
  rwa [show c.timing = timing from hset.timing]

end Exchange

end ParkingStation
