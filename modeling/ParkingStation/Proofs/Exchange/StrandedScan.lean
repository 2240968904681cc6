import ParkingStation.Proofs.Exchange.SilentDrops
import ParkingStation.Proofs.PaymentReader.Requeue

namespace ParkingStation

namespace Exchange

namespace Controller

variable {p : Peripheral} {now : Nat} {c d e : Controller p}

def KeepsPlaces (c d : Controller p) : Prop := c.queue.commands <:+ d.queue.commands

namespace KeepsPlaces

lemma of_eq (h : d.queue.commands = c.queue.commands) : c.KeepsPlaces d := ⟨[], h.symm⟩

lemma refl (c : Controller p) : c.KeepsPlaces c := of_eq rfl

lemma trans (h : c.KeepsPlaces d) (k : d.KeepsPlaces e) : c.KeepsPlaces e := List.IsSuffix.trans h k

lemma of_aloof (h : c.Aloof d) : c.KeepsPlaces d := by
  rcases h with h | ⟨event, -, h⟩ <;> exact of_eq (congrArg (·.2.2.1) h)

lemma pushFront (command : p.Command) (c : Controller p) : c.KeepsPlaces (c.pushFront command) := by
  simp only [KeepsPlaces, Controller.pushFront, WorkQueue.pushFront]
  split
  · exact List.suffix_refl _
  · exact List.suffix_cons _ _

lemma followUps (commands : List p.Command) (c : Controller p) :
    c.KeepsPlaces (commands.foldl (fun c command => c.pushFront command) c) := by
  induction commands generalizing c with
  | nil => exact refl c
  | cons command commands ih => exact (pushFront command c).trans (ih _)

lemma abandon (command : p.Command) (reason : Reason) (c : Controller p) :
    c.KeepsPlaces (c.abandon command reason) := by
  rw [abandon_frame]
  exact refl c

lemma askAgain (command : p.Command) (c : Controller p) : c.KeepsPlaces (c.askAgain command) := by
  simp only [Controller.askAgain]
  split
  · split
    · exact abandon command _ { c with polls := c.polls + 1 }
    · exact pushFront command { c with polls := c.polls + 1 }
  · exact refl c

lemma repeatOrAbandon (reason : Reason) (detail : String) (c : Controller p) :
    c.KeepsPlaces (c.repeatOrAbandon reason detail) := by
  cases hc : c.command with
  | none => exact of_aloof (aloof_repeatOrAbandon reason detail hc)
  | some o =>
    simp only [Controller.repeatOrAbandon, hc]
    split
    · exact refl c
    · split
      · exact askAgain o.item { c with command := none }
      · exact abandon o.item reason { c with command := none }

lemma breakCycle (trigger : Trigger) (reason : Reason) (detail : String) (c : Controller p) :
    c.KeepsPlaces (c.breakCycle trigger reason detail) := by
  simp only [Controller.breakCycle]
  split
  · exact repeatOrAbandon reason detail (c.advance trigger).closeCycle.resetReceiver
  · exact refl c

lemma conclude (o : Ongoing p.Command) (session : p.Session) (verdict : Verdict p.Command) (c : Controller p) :
    c.KeepsPlaces (c.conclude o session verdict) := by
  cases verdict with
  | unrelated | refused => exact of_eq rfl
  | unready events => exact askAgain o.item ({ c.answered with session := session }.reportAll events)
  | again reason detail =>
    exact repeatOrAbandon reason detail { c.answered with session := session, command := some o }
  | answered events followUps =>
    exact KeepsPlaces.followUps followUps.reverse ({ c.answered with session := session, polls := 0 }.reportAll events)

lemma takeAck (now : Nat) (c : Controller p) : c.KeepsPlaces (c.takeAck now) := by
  simp only [Controller.takeAck]
  split
  · split
    · rename_i bytes _
      have hd := desk_transmitSpaced now bytes ((c.advance .ackReceived).markAnswered.stopTimer .ack)
      exact of_eq (congrArg (·.2.2.1) hd)
    · exact of_eq rfl
  · exact refl c

lemma takeItem (now : Nat) (item : Framing.Item p.Frame) (c : Controller p) :
    c.KeepsPlaces (c.takeItem now item) := by
  cases item with
  | corrupt fault =>
    simp only [Controller.takeItem]
    split
    · exact of_eq rfl
    · exact refl c
  | ack => exact takeAck now c
  | nak =>
    simp only [Controller.takeItem, takeNak]
    split
    · exact repeatOrAbandon _ _ (c.advance .nakReceived).markAnswered.closeCycle
    · exact refl c
  | frame frame =>
    simp only [Controller.takeItem]
    split
    · cases hc : c.command with
      | none =>
        simp only [takeReply, hc]
        exact refl c
      | some o =>
        rw [takeReply_eq hc rfl]
        exact conclude o _ _ c
    · split
      · cases hk : c.chunk with
        | none =>
          simp only [takeChunkReply, hk]
          exact refl c
        | some o => exact of_aloof (aloof_takeChunkReply frame hk)
      · exact of_eq rfl

lemma takeItems (now : Nat) (items : List (Framing.Item p.Frame)) (c : Controller p) :
    c.KeepsPlaces (items.foldl (Controller.takeItem now) c) := by
  induction items generalizing c with
  | nil => exact refl c
  | cons item items ih => exact (takeItem now item c).trans (ih _)

lemma settleSpoilt (now : Nat) (c : Controller p) : c.KeepsPlaces (c.settleSpoilt now) := by
  simp only [Controller.settleSpoilt]
  split
  · split
    · simp only [rejectReply]
      split
      · exact breakCycle _ _ _ { c with spoilt := none }
      · split
        · exact of_aloof (aloof_repeatPiece now _ _ _ { c with spoilt := none })
        · exact of_eq rfl
    · exact refl c
  · exact refl c

lemma drain (now : Nat) (c : Controller p) : c.KeepsPlaces (c.drain now) := by
  have hr : c.KeepsPlaces { c with receiver := (c.receiver.readAll p.scanner).2 } := of_eq rfl
  have hs := (hr.trans (takeItems now (c.receiver.readAll p.scanner).1 _)).trans (settleSpoilt now _)
  change c.KeepsPlaces (watchGap now _)
  simp only [watchGap]
  split
  · exact hs.trans (of_eq rfl)
  · exact hs.trans (of_eq rfl)

lemma endGap (now : Nat) (c : Controller p) : c.KeepsPlaces (c.endGap now) := by
  simp only [Controller.endGap, Framing.Receiver.giveUp]
  refine KeepsPlaces.trans ?_ (drain now _)
  split
  · exact of_eq rfl
  · rename_i fault _
    have hr : c.KeepsPlaces { c with receiver := .skip p.scanner c.receiver.seen c.receiver.ahead } := of_eq rfl
    exact hr.trans (takeItem now (.corrupt fault) _)

lemma fire (timer : Timer) (now : Nat) (c : Controller p) : c.KeepsPlaces (c.fire timer now) := by
  have ht : c.KeepsPlaces { c with timers := (c.timers.fire timer now).2 } := of_eq rfl
  simp only [Controller.fire]
  split
  · refine ht.trans ?_
    cases timer with
    | frameGap => exact endGap now _
    | writeSpacing =>
      simp only [releaseHeld]
      split
      · exact of_eq rfl
      · exact refl _
    | ack => exact breakCycle _ _ _ _
    | response =>
      simp only [missResponse]
      split
      · exact of_aloof (aloof_repeatPiece now _ _ _ _)
      · exact breakCycle _ _ _ _
  · exact ht

theorem attend (now : Nat) (call : Call) (c : Controller p) : c.KeepsPlaces (c.attend now call) := by
  cases call with
  | woken => exact refl c
  | bytes data =>
    have hh : c.KeepsPlaces { c with timers := c.timers.heard now, receiver := c.receiver.append data } := of_eq rfl
    exact hh.trans (drain now _)
  | wrote result =>
    cases result with
    | completed =>
      simp only [Controller.attend, endWrite, completeWrite]
      split
      · split <;> exact of_eq rfl
      · exact refl c
    | failed | timedOut => exact breakCycle _ _ _ c
  | tick =>
    have hw := (fire .frameGap now c).trans (fire .writeSpacing now _)
    exact (hw.trans (fire .ack now _)).trans (fire .response now _)

end KeepsPlaces

end Controller

section Refusals

variable {f : Fitting} {l m : Ledger f.peripheral} {t : Ticket f.peripheral}

lemma Fitting.polls_end (f : Fitting) {x : f.peripheral.Command} (h : f.switch.polls x = true) :
    f.switch.ends x = true := by
  cases f with
  | antenna settings =>
    obtain rfl : x = Antenna.Command.forceGetUnit := by cases x <;> first | rfl | cases h
    rfl
  | cardReader | paymentReader => exact h

lemma Fitting.polls_sendable (f : Fitting) {x : f.peripheral.Command} (h : f.switch.polls x = true) (seq : UInt8) :
    ∃ bytes, Controller.requestBytes x seq = .ok bytes := by
  cases f with
  | antenna settings =>
    obtain rfl : x = Antenna.Command.forceGetUnit := by cases x <;> first | rfl | cases h
    exact ⟨_, rfl⟩
  | cardReader => exact ⟨_, rfl⟩
  | paymentReader key =>
    change PaymentReader.Command at x
    cases x with
    | getCardId | getCardBalance | deduct => exact ⟨_, rfl⟩
    | _ => cases h

def Judgement.Strands (j : Judgement f.peripheral) : Prop :=
  f.switch.polls j.command = true ∧ f.switch.isOn j.session = true ∧
    ∃ reason detail events, j.verdict = .refused reason detail events

lemma Judgement.Strands.last {c : Controller f.peripheral} {now : Nat} {input : Input} {j : Judgement f.peripheral}
    (h : j.Strands) (hj : j ∈ c.judged now input) : ∃ xs, c.judged now input = xs ++ [j] := by
  obtain ⟨-, -, reason, detail, events, hv⟩ := h
  rcases List.eq_nil_or_concat' (c.judged now input) with hn | ⟨xs, i, hx⟩
  · cases hn ▸ hj
  · rcases List.mem_append.mp (hx ▸ hj) with hm | hm
    · obtain ⟨detail, hu⟩ := Controller.judged_unrelated (c := c) (by rw [hx, List.dropLast_concat]; exact hm)
      cases hu.symm.trans hv
    · exact ⟨xs, List.mem_singleton.mp hm ▸ hx⟩

namespace Ledger

def polls (l : Ledger f.peripheral) : List (Ticket f.peripheral) := l.line.filter fun t => f.switch.polls t.command

def Stranded (l : Ledger f.peripheral) : Prop := f.switch.isOn l.session = true ∧ l.polls = []

lemma polls_current (hc : l.current = some t) (hw : (l.waiting.filter fun t => f.switch.polls t.command) = [])
    (hl : l.polls ≠ []) : f.switch.polls t.command = true := by
  by_contra ht
  simp [polls, line, hc, hw, ht] at hl

lemma polls_requeued (hc : l.current = some t) (hl : l.polls ≠ []) :
    ({ l with current := none }.putFirst t).polls ≠ [] := by
  intro hp
  rcases putFirst_cases t { l with current := none } with ⟨hh, he⟩ | he <;> rw [he] at hp
  · obtain ⟨u, hu, hut⟩ := Option.map_eq_some_iff.mp hh
    have ht := polls_current hc hp hl
    exact List.filter_eq_nil_iff.mp hp u (List.mem_of_head? hu) (hut ▸ ht)
  · exact hl (by simpa [polls, line, hc] using hp)

lemma polls_putAllFirst {commands : List f.peripheral.Command} (h : ∀ x ∈ commands, f.switch.polls x = false) :
    (l.putAllFirst commands).polls = l.polls := by
  obtain ⟨front, hf, he⟩ := putAllFirst_frame commands l
  have hn : (front.filter fun t => f.switch.polls t.command) = [] :=
    List.filter_eq_nil_iff.mpr fun u hu => by simp [h _ (hf u hu).2]
  simp [he, polls, line, hn]

lemma Step.polls_sublist (s : l.Step m) : m.polls.Sublist l.polls := by
  have left : (l.waiting.filter fun t => f.switch.polls t.command).Sublist l.polls :=
    (List.sublist_append_right _ _).filter _
  cases s with
  | take hc hw => simp [Ledger.polls, Ledger.line, hc, hw]
  | unrelated | again | unready | upload => exact List.Sublist.refl _
  | unsendable | refused | dropped | abandoned => exact left
  | @requeued t hc ha =>
    rcases putFirst_cases t { l with current := none } with ⟨-, he⟩ | he <;> rw [he]
    · exact left
    · simp [Ledger.polls, Ledger.line, hc]
  | answered hc hv =>
    rw [polls_putAllFirst (f.switch.judged hv).1]
    exact left

lemma Steps.polls_sublist (s : l.Steps m) : m.polls.Sublist l.polls := by
  induction s with
  | refl => exact List.Sublist.refl _
  | tail _ s ih => exact s.polls_sublist.trans ih

theorem Step.strands (s : l.Step m) (hl : ¬ l.Stranded) (hm : m.Stranded) :
    ∃ j : Judgement f.peripheral, m.heard = l.heard ++ [j] ∧ j.Strands := by
  obtain ⟨hon, hp⟩ := hm
  have hs : f.switch.isOn l.session = true := by
    rcases s.switch f.switch with ⟨-, he⟩ | ⟨x, -, he⟩
    · rwa [← he]
    · rw [he, Bool.and_eq_true] at hon
      exact hon.1
  have hn : l.polls ≠ [] := fun hn => hl ⟨hs, hn⟩
  -- A command that leaves the line is then the last poll, and every other way for it to leave puts the switch off.
  cases s with
  | take hc hw => exact absurd hp (by simpa [Ledger.polls, Ledger.line, hc, hw] using hn)
  | unrelated | again | unready | upload => exact absurd hp hn
  | @unsendable t seq err hc he =>
    obtain ⟨bytes, hb⟩ := f.polls_sendable (polls_current hc hp hn) seq
    cases he.symm.trans hb
  | @dropped t frame events hc hv ha => cases ha.symm.trans (f.switch.asksAgain (polls_current hc hp hn) hon)
  | @answered t frame events followUps hc hv =>
    rw [polls_putAllFirst (f.switch.judged hv).1] at hp
    rw [session_putAllFirst] at hon
    have hoff := (f.switch.judged hv).2
    rw [f.polls_end (polls_current hc hp hn), Bool.not_true, Bool.and_false] at hoff
    cases hoff.symm.trans hon
  | @refused t frame reason detail events hc hv =>
    exact ⟨⟨l.session, t.command, frame⟩, rfl, polls_current hc hp hn, hs, reason, detail, events, hv⟩
  | @abandoned t reason hc =>
    have hoff := f.switch.giveUp l.session t.command reason
    rw [polls_current hc hp hn, Bool.not_true, Bool.and_false] at hoff
    cases hoff.symm.trans hon
  | requeued hc => exact absurd hp (polls_requeued hc hn)

lemma Step.stays_stranded (s : l.Step m) (hl : l.Stranded) (hh : m.heard = l.heard) : m.Stranded := by
  obtain ⟨hon, hp⟩ := hl
  refine ⟨?_, List.sublist_nil.mp (hp ▸ s.polls_sublist)⟩
  cases s with
  | take | upload | unsendable => exact hon
  | unrelated | again | unready | dropped | refused => simp [hear, release] at hh
  | answered => simp [hear, release] at hh
  | requeued => rwa [session_putFirst]
  | @abandoned t reason hc =>
    have ht : f.switch.polls t.command = false := by
      simpa using List.filter_eq_nil_iff.mp hp t (List.mem_append_left _ (by simp [hc]))
    have hkeep := f.switch.giveUp l.session t.command reason
    rwa [hon, ht] at hkeep

lemma Step.stranded {j : Judgement f.peripheral} (s : l.Step m) (hl : l.polls.length ≤ 1)
    (hh : m.heard = l.heard ++ [j]) (hj : j.Strands) : m.Stranded := by
  obtain ⟨hp, hon, reason, detail, events, hv⟩ := hj
  obtain ⟨t, hc, he, rfl⟩ := s.refusal hh hv
  rw [he] at hp hon hv
  refine ⟨?_, ?_⟩
  · exact (f.switch.judged hv).trans hon
  · change (l.waiting.filter _) = []
    rw [Ledger.polls, Ledger.line, hc] at hl
    simpa [List.filter_cons, hp] using hl

theorem Steps.strands {xs : List (Judgement f.peripheral)} (s : l.Steps m) (hl : ¬ l.Stranded) (hm : m.Stranded)
    (hx : m.heard = l.heard ++ xs) : ∃ j ∈ xs, j.Strands := by
  induction s generalizing xs with
  | refl => exact absurd hm hl
  | @tail k m hs s ih =>
    obtain ⟨ys, hy⟩ := hs.heard
    -- Either the poll was lost before the last step, or that step is the refusal.
    by_cases hk : k.Stranded
    · obtain ⟨j, hj, hs⟩ := ih hk hy
      refine ⟨j, ?_, hs⟩
      rcases s.heard_cases with he | ⟨i, he⟩ <;> rw [he, hy] at hx
      · exact List.append_cancel_left hx ▸ hj
      · rw [List.append_assoc] at hx
        exact List.append_cancel_left hx ▸ List.mem_append_left _ hj
    · obtain ⟨j, hj, hs⟩ := s.strands hk hm
      rw [hj, hy, List.append_assoc] at hx
      exact ⟨j, List.append_cancel_left hx ▸ List.mem_append_right _ (List.mem_singleton_self j), hs⟩

theorem Steps.stranded {xs : List (Judgement f.peripheral)} {j : Judgement f.peripheral} (s : l.Steps m)
    (hl : l.polls.length ≤ 1) (hx : m.heard = l.heard ++ xs ++ [j]) (hj : j.Strands) : m.Stranded := by
  induction s with
  | refl => simp at hx
  | @tail k m hs s ih =>
    rcases s.heard_cases with he | ⟨i, he⟩
    · exact s.stays_stranded (ih (he ▸ hx)) he
    · obtain rfl : i = j := by simpa using (List.append_inj' (he.symm.trans hx) rfl).2
      exact s.stranded (Nat.le_trans hs.polls_sublist.length_le hl) he hj

end Ledger

variable {d : Duty f} {e : Errand f}

lemma Fitting.submit_desk (f : Fitting) (r : f.Request) (c : Controller f.peripheral) :
    (f.submit r c).session = f.prepare r c.session ∧ (f.submit r c).roster = c.roster ++ (f.command? r).toList := by
  rw [f.submit_eq, Fitting.demands]
  cases f.command? r with
  | none => exact ⟨rfl, (List.append_nil _).symm⟩
  | some x => exact ⟨rfl, (List.append_assoc _ _ _).symm⟩

namespace Duty

def Stranded (d : Duty f) : Prop :=
  f.switch.isOn d.controller.session = true ∧ ∀ x ∈ d.controller.roster, f.switch.polls x = false

/-- A poll is refused while the scan is on and no other one waits. -/
def Strands (d : Duty f) : Errand f → Prop
  | .call now call =>
    (∃ j ∈ d.controller.judged now call.input, j.Strands) ∧
      ∀ x ∈ d.controller.queue.commands, f.switch.polls x = false
  | _ => False

lemma Entered.stranded_iff (h : d.Entered l) : l.Stranded ↔ d.Stranded := by
  rw [Ledger.Stranded, Stranded, h.records.session, Ledger.polls, List.filter_eq_nil_iff, ← h.roster,
    List.forall_mem_map]
  simp

lemma Entered.polls_length (h : d.Entered l) (hq : ∀ x ∈ d.controller.queue.commands, f.switch.polls x = false) :
    l.polls.length ≤ 1 := by
  have hw : (l.waiting.filter fun t => f.switch.polls t.command) = [] := by
    refine List.filter_eq_nil_iff.mpr fun t ht => ?_
    have hm := List.mem_map_of_mem (f := fun t : Ticket f.peripheral => t.command) ht
    rw [h.records.waiting] at hm
    simp [hq _ hm]
  rw [Ledger.polls, Ledger.line, List.filter_append, hw, List.append_nil]
  refine Nat.le_trans (List.length_filter_le _ _) ?_
  cases l.current <;> simp

lemma roster_call {x : f.peripheral.Command} (now : Nat) (call : Call) (hx : x ∈ d.controller.queue.commands)
    (hp : f.switch.polls x = true) : x ∈ (d.next (.call now call)).controller.roster := by
  have ha : x ∈ (d.controller.attend now call).roster :=
    List.mem_append_right _ ((Controller.KeepsPlaces.attend now call d.controller).mem hx)
  have hm : x ∈ (d.controller.attend now call).roster.filter f.switch.polls := List.mem_filter.mpr ⟨ha, hp⟩
  rw [← Controller.roster_takeUpWork now (fun _ => f.polls_sendable)] at hm
  change x ∈ (d.controller.step now call.input).2.roster
  rw [Controller.step_eq, Controller.during_eq]
  exact List.mem_of_mem_filter hm

lemma stranded_request {r : f.Request} (hd : ¬ d.Stranded) : ¬ (d.next (.request r)).Stranded := by
  obtain ⟨hs, hr⟩ := f.submit_desk r d.controller
  rintro ⟨hon, hp⟩
  change f.switch.isOn (f.submit r d.controller).session = true at hon
  change ∀ x ∈ (f.submit r d.controller).roster, f.switch.polls x = false at hp
  rw [hs] at hon
  rw [hr] at hp
  rcases f.isOn_prepare r d.controller.session with ⟨hk, -⟩ | ⟨-, rfl | hkeep⟩
  · cases hc : f.command? r with
    | none => simp [Fitting.seeks, hc] at hk
    | some x =>
      have hx : f.switch.polls x = true := by simpa [Fitting.seeks, hc] using hk
      cases (hp x (List.mem_append_right _ (by simp [hc]))).symm.trans hx
  · cases (f.isOn_stop _).symm.trans hon
  · exact hd ⟨hkeep ▸ hon, fun x hx => hp x (List.mem_append_left _ hx)⟩

lemma stranded_upload {chunks : List f.peripheral.Chunk} : (d.next (.upload chunks)).Stranded ↔ d.Stranded := by
  simp only [Stranded, next, Controller.submitUpload, WorkQueue.startUpload]
  split
  · rename_i he
    split at he <;> cases he
    rfl
  · rfl

lemma stranded_call (h : d.Entered l) (hd : ¬ d.Stranded) (now : Nat) (call : Call) :
    (d.next (.call now call)).Stranded ↔ d.Strands (.call now call) := by
  obtain ⟨m, hs, hm⟩ := h.call now call
  have hh : m.heard = l.heard ++ d.controller.judged now call.input := by
    rw [hm.heard, h.heard]
    rfl
  constructor
  · intro hn
    refine ⟨hs.strands (fun hl => hd (h.stranded_iff.mp hl)) (hm.stranded_iff.mpr hn) hh, fun x hx => ?_⟩
    by_contra hp
    have hx := roster_call now call hx (by simpa using hp)
    exact hp (hn.2 x hx)
  · rintro ⟨⟨j, hj, hstr⟩, hq⟩
    obtain ⟨xs, hx⟩ := hstr.last hj
    have hl : l.polls.length ≤ 1 := h.polls_length hq
    rw [hx, ← List.append_assoc] at hh
    exact hm.stranded_iff.mp (hs.stranded hl hh hstr)

theorem stranded_next_iff (h : d.Entered l) (hd : ¬ d.Stranded) : (d.next e).Stranded ↔ d.Strands e := by
  cases e with
  | request r => exact iff_of_false (stranded_request hd) not_false
  | upload chunks => exact iff_of_false (fun hn => hd (stranded_upload.mp hn)) not_false
  | call now call => exact stranded_call h hd now call

end Duty

end Refusals

namespace Fitting

lemma isOn_blank (f : Fitting) : f.switch.isOn f.blank = false := by
  cases f <;> rfl

end Fitting

/-- In a service that starts with the scan off, the scan never goes on without a poll exactly if no call refuses a poll
while no other one waits and nobody has stopped the scan: on every other way out of a poll the scan is over. -/
theorem never_stranded_iff (f : Fitting) (timing : Settings.Timing) (errands : List (Errand f)) :
    (∀ n ≤ errands.length, ¬ (duty f f.blank timing (errands.take n)).Stranded) ↔
      ∀ n e, errands[n]? = some e → ¬ (duty f f.blank timing (errands.take n)).Strands e := by
  obtain ⟨ledger, -, -, he⟩ := ledgers_of_duty f.blank timing errands
  have iff {n : Nat} (hn : n < errands.length) (hd : ¬ (duty f f.blank timing (errands.take n)).Stranded) :
      (duty f f.blank timing (errands.take (n + 1))).Stranded ↔
        (duty f f.blank timing (errands.take n)).Strands errands[n] := by
    rw [duty_take_succ hn]
    exact Duty.stranded_next_iff (he n (Nat.le_of_lt hn)) hd
  constructor
  · intro hk n e hget
    obtain ⟨hn, rfl⟩ := List.getElem?_eq_some_iff.mp hget
    rw [← iff hn (hk n (Nat.le_of_lt hn))]
    exact hk (n + 1) hn
  · intro hk n hn
    induction n with
    | zero =>
      rintro ⟨hon, -⟩
      cases f.isOn_blank.symm.trans hon
    | succ n ih =>
      rw [iff hn (ih (Nat.le_of_lt hn))]
      exact hk n _ (List.getElem?_eq_getElem hn)

end Exchange

open Exchange

namespace PaymentReader

def rejected : Bytes := [0xaa, 0x90, 0x00, 0x08, 0x01, 0x04, 0x95, 0xa4]

def cardAsked : List (Errand reader) :=
  [.request Request.getCardId, .call 0 .woken, .call 0 (.wrote .completed)]

theorem scan_outlives_refused_poll :
    let d := duty reader reader.blank { interFrameDelay := 0 } (cardAsked ++ [.call 0 (.bytes rejected)])
    d.events = [.failed .paymentReader "GetCardId" .nak "status 0x04"] ∧ d.Stranded := by
  let asked := duty reader reader.blank { interFrameDelay := 0 } cardAsked
  have hr : asked.next (.call 0 (.bytes rejected)) = hearReply 0 ⟨true, 0x10, [1, 4]⟩ asked :=
    next_bytes (receiver_fresh (by decide +kernel)) (by decide +kernel)
  have hd : duty reader reader.blank { interFrameDelay := 0 } (cardAsked ++ [.call 0 (.bytes rejected)]) =
      hearReply 0 ⟨true, 0x10, [1, 4]⟩ asked := by
    rw [← hr]
    rfl
  have hn : (hearReply 0 ⟨true, 0x10, [1, 4]⟩ asked).controller.roster = [] := by decide +kernel
  dsimp only
  rw [hd]
  refine ⟨by decide +kernel, by decide +kernel, ?_⟩
  rw [hn]
  exact fun x hx => nomatch hx

end PaymentReader

end ParkingStation
