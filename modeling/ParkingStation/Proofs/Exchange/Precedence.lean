import ParkingStation.Proofs.Exchange.RetryBudget

/-! The command that is first in line stays so until it is taken up, and nothing but pieces of an upload goes
before it. -/

namespace ParkingStation.Exchange

variable {p : Peripheral} {now limit : Nat}

namespace Controller

variable {c d : Controller p} {waiting : List Bytes}

def Orderly (allowed : Controller p → Demand p → Prop) (c : Controller p) (now : Nat) (waiting : List Bytes) :
    List (Turn p) → Prop
  | [] => True
  | .demand demand :: turns => allowed c demand ∧ Orderly allowed (c.meet demand) now waiting turns
  | .call later call :: turns =>
    now ≤ later ∧ call.InTurn waiting ∧
      Orderly allowed (c.step later call.input).2 later
        (waiting.tail ++ transmissions (c.step later call.input).1) turns

lemma Passage.sent {u : Nat} {a b : Controller p} {o : Ongoing p.Command} {xs : List (Judgement p)}
    {e : Option (Ending p)} (h : Passage limit o u a xs e b) (he : e.isSome) : Sent o.item u b.outbox := by
  have sent {d f : Controller p} (hs : Sent o.item u d.outbox) (hf : transmissions f.outbox = transmissions d.outbox)
      (hb : b.standing = f.standing) : Sent o.item u b.outbox := by
    have ho : b.outbox = f.outbox := congrArg (fun s => s.1.2.2.2.2) hb
    exact hs.of_requests (by rw [requests, requests, ho, hf])
  cases h with
  | underway => cases he
  | @failed _ d _ reason detail h hx hn hb =>
    exact sent h.sent (congrArg (·.2.2.2) (line_repeatOrAbandon reason detail d)) hb
  | @answered _ d _ frame verdict session h hx hp hv hd hb =>
    refine sent (h.running.sent_all (unsent_busy (by simp [hp]))) ?_ hb
    rcases conclude_cases (c := d) o session verdict with ⟨-, he⟩ | hl | ⟨reason, detail, he⟩
    · rw [he]
    · exact congrArg (·.2.2.2) (line_sameLine hl)
    · rw [he]
      exact congrArg (·.2.2.2) (line_repeatOrAbandon reason detail _)

lemma Undecided.not_mem {xs : List (Judgement p)} {j : Judgement p} (hx : Undecided xs)
    (hd : j.verdict.decides = true) : j ∉ xs := fun hj => by simp [hx j hj] at hd

lemma Passage.decided {u : Nat} {a b : Controller p} {o : Ongoing p.Command} {xs : List (Judgement p)}
    {e : Option (Ending p)} {j : Judgement p} (h : Passage limit o u a xs e b) (hj : j ∈ xs)
    (hd : j.verdict.decides = true) :
    ∃ d : Controller p, j.session = a.session ∧ j.command = o.item ∧ d.Underway limit o u a ∧
      d.phase = .waitingResponse ∧
      b.standing = (d.conclude o (p.judge j.session j.command j.frame).2 j.verdict).standing := by
  cases h with
  | underway h hx | failed detail h hx => exact absurd hj (hx.not_mem hd)
  | @answered _ d ys frame verdict next h hx hp hv hd' hb =>
    obtain rfl := List.mem_singleton.mp ((List.mem_append.mp hj).resolve_left (hx.not_mem hd))
    refine ⟨d, rfl, rfl, h, hp, ?_⟩
    rw [Judgement.verdict, hv]
    exact hb

def Leads (x : p.Command) (c : Controller p) : Prop :=
  c.command.map (·.item) = some x ∨ c.command = none ∧ c.queue.commands.head? = some x

variable {x : p.Command}

lemma Leads.item {o : Ongoing p.Command} (h : c.Leads x) (hc : c.command = some o) : o.item = x := by
  rcases h with h | ⟨h, -⟩
  · simpa [hc] using h
  · simp [hc] at h

lemma Leads.congr (h : c.Leads x) (hc : d.command = c.command) (hq : d.queue.commands = c.queue.commands) :
    d.Leads x := by
  rwa [Leads, hc, hq]

lemma leads_pushFront (hc : c.command = none) (hq : c.queue = (d.queue.pushFront x).2) : c.Leads x := by
  refine .inr ⟨hc, ?_⟩
  rw [hq, WorkQueue.pushFront]
  split
  · assumption
  · rfl

/-- Nobody puts a command in front of the one that waits first. -/
def Patient (c : Controller p) (demand : Demand p) : Prop :=
  ∀ command, demand = .submitFirst command → c.command.isSome

lemma Leads.meet {demand : Demand p} (h : c.Leads x) (hd : c.Patient demand) : (c.meet demand).Leads x := by
  rcases h with h | ⟨hc, hq⟩
  · cases demand with
    | submit | submitFirst | instruct => exact .inl h
    | upload chunks =>
      simp only [Controller.meet, submitUpload]
      split <;> exact .inl h
  · cases demand with
    | submit command =>
      refine .inr ⟨hc, ?_⟩
      simp [Controller.meet, submit, WorkQueue.push, List.head?_append, hq]
    | submitFirst command => simp [Patient, hc] at hd
    | instruct => exact .inr ⟨hc, hq⟩
    | upload chunks =>
      simp only [Controller.meet, submitUpload]
      split
      · rename_i count queue he
        simp only [WorkQueue.startUpload] at he
        split at he <;> cases he
        exact .inr ⟨hc, hq⟩
      · exact .inr ⟨hc, hq⟩

lemma sendPiece_desk (now : Nat) (c : Controller p) :
    (c.sendPiece now).session = c.session ∧ (c.sendPiece now).command.map (·.item) = c.command.map (·.item) ∧
      (c.sendPiece now).queue.commands = c.queue.commands ∧ (c.sendPiece now).polls = c.polls := by
  rcases aloof_sendPiece now c with h | ⟨event, -, h⟩ <;> simp only [desk, report, Prod.mk.injEq] at h
  · exact ⟨h.1, h.2.1, h.2.2.1, h.2.2.2.1⟩
  · exact ⟨h.1, h.2.1, h.2.2.1, h.2.2.2.1⟩

lemma sendRequest_desk (now : Nat) (c : Controller p) :
    (c.sendRequest now).session = c.session ∧ (c.sendRequest now).polls = c.polls := by
  cases hc : c.command with
  | none =>
    have he : c.sendRequest now = c := by simp only [sendRequest, hc]
    rw [he]
    exact ⟨rfl, rfl⟩
  | some o =>
    cases hb : requestBytes o.item (nextSequence c.seq) with
    | error err =>
      rw [sendRequest_error hc hb]
      exact ⟨rfl, rfl⟩
    | ok bytes =>
      rw [sendRequest_ok hc hb]
      rcases transmitSpaced_cases now bytes
        { c with command := some ⟨o.item, o.sends + 1⟩, seq := nextSequence c.seq } with ⟨-, he⟩ | ⟨wait, -, he⟩ <;>
          rw [he]
      · exact ⟨rfl, rfl⟩
      · exact ⟨rfl, rfl⟩

lemma takeUpWork_desk (now : Nat) (c : Controller p) :
    (c.takeUpWork now).session = c.session ∧ (c.takeUpWork now).polls = c.polls := by
  fun_induction takeUpWork now c with
  | case1 c hi o hc next hn ih =>
    obtain ⟨hs, hp⟩ := sendRequest_desk now (c.advance .commandEnqueued)
    exact ⟨ih.1.trans hs, ih.2.trans hp⟩
  | case2 c hi o hc next hn => exact sendRequest_desk now (c.advance .commandEnqueued)
  | case3 c hi k hc hk next hn ih =>
    obtain ⟨hs, -, -, hp⟩ := sendPiece_desk now (c.advance .sendNextChunk)
    exact ⟨ih.1.trans hs, ih.2.trans hp⟩
  | case4 c hi k hc hk next hn =>
    obtain ⟨hs, -, -, hp⟩ := sendPiece_desk now (c.advance .sendNextChunk)
    exact ⟨hs, hp⟩
  | case5 c hi item queue hc hk hq ih => exact ih
  | case6 c hi item queue hc hk hq ih => exact ih
  | case7 => exact ⟨rfl, rfl⟩
  | case8 => exact ⟨rfl, rfl⟩

theorem Leads.takeUpWork (now : Nat) (he : ∀ seq, ∃ bytes, requestBytes x seq = .ok bytes) (h : c.Leads x) :
    (c.takeUpWork now).Leads x := by
  have sent {c : Controller p} {o : Ongoing p.Command} (h : c.Leads x) (hc : c.command = some o)
      (hi : c.phase = .idle) : ((c.advance .commandEnqueued).sendRequest now).phase = .sendingRequest ∧
        ((c.advance .commandEnqueued).sendRequest now).Leads x := by
    obtain rfl := h.item hc
    obtain ⟨bytes, hb⟩ := he (nextSequence (c.advance .commandEnqueued).seq)
    obtain ⟨hs, hp, -⟩ := sendRequest_sends (c := c.advance .commandEnqueued) now hc hb
    exact ⟨hp.trans (phase_advance hi rfl), .inl (by simp [hs])⟩
  have passed {c : Controller p} (h : c.Leads x) (hc : c.command = none) :
      ((c.advance .sendNextChunk).sendPiece now).Leads x := by
    obtain ⟨-, hd, hq, -⟩ := sendPiece_desk now (c.advance .sendNextChunk)
    have hn : ((c.advance .sendNextChunk).sendPiece now).command = none := by simpa [advance, hc] using hd
    exact h.congr (hn.trans hc.symm) hq
  fun_induction Controller.takeUpWork now c with
  | case1 c hi o hc next hn ih => exact absurd (hn.symm.trans (sent h hc hi).1) (by decide)
  | case2 c hi o hc next hn => exact (sent h hc hi).2
  | case3 c hi k hc hk next hn ih => exact ih (passed h hc)
  | case4 c hi k hc hk next hn => exact passed h hc
  | case5 c hi item queue hc hk hq ih =>
    apply ih
    rcases h with h | ⟨-, h⟩
    · simp [hc] at h
    · obtain ⟨commands, hw, rfl, -⟩ := WorkQueue.next?_command hq
      rw [hw, List.head?_cons] at h
      exact .inl h
  | case6 c hi item queue hc hk hq ih =>
    apply ih
    obtain ⟨chunks, -, rfl⟩ := WorkQueue.next?_chunk hq
    exact h.congr rfl rfl
  | case7 => exact h
  | case8 => exact h

end Controller

variable {start c : Controller p} {waiting : List Bytes}

lemma Driven.passage {later : Nat} {call : Call}
    {o : Ongoing p.Command} (hk : Countable p) (hs : ∀ now, start.Rested limit now 0) (hv : start.command = none)
    (h : Driven start now waiting c) (hn : now ≤ later) (hi : call.InTurn waiting) (hc : c.command = some o) :
    Controller.Passage limit o c.unsent c (c.judged later call.input) (c.ending? later call) (c.attend later call) ∧
      ∀ seq, ∃ bytes, Controller.requestBytes o.item seq = .ok bytes := by
  have hr := (h.later hn).rested hs
  obtain ⟨ts, hd, rfl⟩ := h
  obtain ⟨hp, s, -, hx, -, hlast⟩ := (hd.serving hk hs hv).served o hc
  obtain ⟨seq, bytes, hb⟩ := hlast.encodes
  exact ⟨hr.passage hk (hr.running hc hp).2 hi, hx ▸ hk.again hb⟩

end ParkingStation.Exchange
