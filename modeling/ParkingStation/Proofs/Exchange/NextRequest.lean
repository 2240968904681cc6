import ParkingStation.Proofs.Exchange.Precedence

namespace ParkingStation.Exchange

variable {p : Peripheral} {now limit : Nat} {x : p.Command} {pieces frames more : List Bytes}

def Goes (x : p.Command) (pieces frames : List Bytes) : Prop :=
  frames = pieces ∨ ∃ seq bytes rest, Controller.requestBytes x seq = .ok bytes ∧ frames = pieces ++ bytes :: rest

lemma Goes.after (h : Goes x pieces frames) (earlier : List Bytes) : Goes x (earlier ++ pieces) (earlier ++ frames) := by
  rcases h with rfl | ⟨seq, bytes, rest, hb, rfl⟩
  · exact .inl rfl
  · exact .inr ⟨seq, bytes, rest, hb, (List.append_assoc ..).symm⟩

lemma Goes.append {seq : UInt8} {bytes : Bytes} (hb : Controller.requestBytes x seq = .ok bytes)
    (hf : frames = pieces ++ [bytes]) (more : List Bytes) : Goes x pieces (frames ++ more) :=
  .inr ⟨seq, bytes, more, hb, by simp [hf]⟩

lemma requests_eq (hq : p.enquiry = none) (effects : List Effect) : requests p effects = transmissions effects := by
  simp [requests, hq]

lemma Sent.frame (hq : p.enquiry = none) {effects : List Effect} (h : Sent x 1 effects) :
    ∃ seq bytes, Controller.requestBytes x seq = .ok bytes ∧ transmissions effects = [bytes] := by
  obtain ⟨bytes, hb⟩ := List.length_eq_one_iff.mp h.count
  obtain ⟨seq, hs⟩ := h.frames bytes (by simp [hb])
  exact ⟨seq, bytes, hs, requests_eq hq effects ▸ hb⟩

lemma Sent.silent (hq : p.enquiry = none) {effects : List Effect} (h : Sent x 0 effects) : transmissions effects = [] :=
  requests_eq hq effects ▸ List.length_eq_zero_iff.mp h.count

lemma Goes.trans (h : Goes x pieces frames) (k : frames = pieces → Goes x [] more) : Goes x pieces (frames ++ more) := by
  rcases h with rfl | ⟨seq, bytes, rest, hb, rfl⟩
  · simpa using (k rfl).after frames
  · exact .inr ⟨seq, bytes, rest ++ more, hb, by simp⟩

lemma Goes.bind (h : Goes x pieces frames) (hp : ∀ bytes ∈ pieces, IsPiece p bytes)
    (k : frames = pieces → ∃ rest, (∀ bytes ∈ rest, IsPiece p bytes) ∧ Goes x rest more) :
    ∃ all, (∀ bytes ∈ all, IsPiece p bytes) ∧ Goes x all (frames ++ more) := by
  rcases h with rfl | ⟨seq, bytes, rest, hb, rfl⟩
  · obtain ⟨rest, hr, hg⟩ := k rfl
    exact ⟨frames ++ rest, fun bytes hm => (List.mem_append.mp hm).elim (hp bytes) (hr bytes), hg.after frames⟩
  · exact ⟨pieces, hp, .inr ⟨seq, bytes, rest ++ more, hb, by simp⟩⟩

namespace Controller

variable {a b c d : Controller p} {o : Ongoing p.Command}

lemma outbox_sendRequest (now : Nat) (c : Controller p) : c.outbox <+: (c.sendRequest now).outbox := by
  cases hc : c.command with
  | none => simp only [sendRequest, hc, List.prefix_rfl]
  | some o =>
    cases hb : requestBytes o.item (nextSequence c.seq) with
    | error err =>
      rw [sendRequest_error hc hb]
      exact List.prefix_append ..
    | ok bytes =>
      obtain ⟨-, -, ⟨ho, -⟩ | ho⟩ := sendRequest_sends now hc hb
      · exact ho ▸ List.prefix_rfl
      · exact ho ▸ List.prefix_append ..

lemma outbox_sendPiece (now : Nat) (c : Controller p) : c.outbox <+: (c.sendPiece now).outbox := by
  cases hk : c.chunk with
  | none => simp only [sendPiece, hk, List.prefix_rfl]
  | some k =>
    obtain ⟨-, ⟨-, news, ho, -⟩ | ⟨event, -, ho⟩⟩ := sendPiece_cases now hk
    · exact ho ▸ List.prefix_append ..
    · exact ho ▸ List.prefix_append ..

lemma outbox_takeUpWork (now : Nat) (c : Controller p) : c.outbox <+: (c.takeUpWork now).outbox := by
  fun_induction takeUpWork now c with
  | case1 c hi o hc next hn ih => exact (outbox_sendRequest now (c.advance .commandEnqueued)).trans ih
  | case2 c hi o hc next hn => exact outbox_sendRequest now (c.advance .commandEnqueued)
  | case3 c hi k hc hk next hn ih => exact (outbox_sendPiece now (c.advance .sendNextChunk)).trans ih
  | case4 c hi k hc hk next hn => exact outbox_sendPiece now (c.advance .sendNextChunk)
  | case5 c hi item queue hc hk hq ih => exact ih
  | case6 c hi item queue hc hk hq ih => exact ih
  | case7 => exact List.prefix_rfl
  | case8 => exact List.prefix_rfl

structure Holds (x : p.Command) (c : Controller p) : Prop where
  command : c.command.map (·.item) = some x
  unsent : c.unsent = 1

structure Heads (x : p.Command) (c : Controller p) : Prop where
  command : c.command = none
  waiting : c.queue.commands.head? = some x

def Upcoming (x : p.Command) (c : Controller p) : Prop := c.Holds x ∨ c.Heads x

lemma Holds.flush (h : c.Holds x) : c.flush.2.Holds x := ⟨h.command, h.unsent⟩

lemma Upcoming.flush (h : c.Upcoming x) : c.flush.2.Upcoming x := h.imp Holds.flush fun h => ⟨h.command, h.waiting⟩

lemma Heads.leads (h : c.Heads x) : c.Leads x := .inr ⟨h.command, h.waiting⟩

lemma Holds.meet (h : c.Holds x) (demand : Demand p) : (c.meet demand).Holds x := by
  cases demand with
  | submit | submitFirst | instruct => exact ⟨h.command, h.unsent⟩
  | upload chunks =>
    simp only [Controller.meet, submitUpload]
    split <;> exact ⟨h.command, h.unsent⟩

lemma Heads.meet {demand : Demand p} (h : c.Heads x) (hd : c.Patient demand) : (c.meet demand).Heads x := by
  have hn : (c.meet demand).command = none := by
    cases demand with
    | submit | submitFirst | instruct => exact h.command
    | upload chunks =>
      simp only [Controller.meet, submitUpload]
      split <;> exact h.command
  rcases h.leads.meet hd with hl | ⟨-, hq⟩
  · simp [hn] at hl
  · exact ⟨hn, hq⟩

lemma Upcoming.meet {demand : Demand p} (h : c.Upcoming x) (hd : c.Patient demand) : (c.meet demand).Upcoming x :=
  h.imp (·.meet demand) (·.meet hd)

lemma transmissions_step (later : Nat) (call : Call) (c : Controller p) :
    transmissions (c.step later call.input).1 = transmissions ((c.attend later call).takeUpWork later).outbox := by
  rw [step_eq, during_eq]
  rfl

lemma Passage.held {xs : List (Judgement p)} {e : Option (Ending p)} (h : Passage limit o 1 a xs e b) :
    Sent o.item 1 b.outbox ∨ Sent o.item 0 b.outbox ∧ b.phase ≠ .idle ∧ b.Holds o.item := by
  cases e with
  | some e => exact .inl (h.sent rfl)
  | none =>
    cases h with
    | underway h hx =>
      obtain ⟨n, hn, hs⟩ := h.running.sent
      rcases Nat.eq_zero_or_pos n with rfl | hpos
      · have hp : b.phase ≠ .idle := by rcases h.running.phase with hp | hp | hp <;> simp [hp]
        exact .inr ⟨hs, hp, by rw [h.running.command]; rfl, by omega⟩
      · obtain rfl : n = 1 := by omega
        exact .inl hs

lemma Heads.takeUpWork (now : Nat) (h : b.Heads x) (he : ∀ seq, ∃ bytes, requestBytes x seq = .ok bytes) :
    ∃ pieces, (∀ bytes ∈ pieces, IsPiece p bytes) ∧
      Goes x (transmissions b.outbox ++ pieces) (transmissions (b.takeUpWork now).outbox) ∧
      (transmissions (b.takeUpWork now).outbox = transmissions b.outbox ++ pieces → (b.takeUpWork now).Upcoming x) := by
  obtain ⟨news, hn⟩ := takeUpWork_begins now b (by simp [h.command])
  have ht : transmissions (b.takeUpWork now).outbox = transmissions b.outbox ++ transmissions news := by
    rw [hn.outbox, transmissions_append]
  have hl := h.leads.takeUpWork now he
  cases hc : (b.takeUpWork now).command with
  | none =>
    rcases hl with hl | ⟨-, hq⟩
    · simp [hc] at hl
    · exact ⟨transmissions news, hn.pieces hc, .inl ht, fun _ => .inr ⟨hc, hq⟩⟩
  | some o =>
    obtain rfl := hl.item hc
    obtain ⟨-, hp, seq, bytes, hb, ⟨hs, hh⟩ | hs⟩ := hn.sends o hc
    · refine ⟨[], nofun, .inl (by rw [ht, hs]), fun _ => .inl ⟨by rw [hc]; rfl, ?_⟩⟩
      simp [unsent, hp, hh]
    · refine ⟨[], nofun, .inr ⟨seq, bytes, [], hb, by rw [ht, hs, List.append_nil]⟩, fun hf => ?_⟩
      simp [ht, hs] at hf

lemma Heads.takeUpWork_alone (now : Nat) (h : b.Heads x) (he : ∀ seq, ∃ bytes, requestBytes x seq = .ok bytes)
    (hi : b.phase = .idle) (hk : b.chunk = none) (hq : b.queue.chunks = []) :
    (b.takeUpWork now).command = some ⟨x, 1⟩ ∧
      Goes x (transmissions b.outbox) (transmissions (b.takeUpWork now).outbox) ∧
      (transmissions (b.takeUpWork now).outbox = transmissions b.outbox → (b.takeUpWork now).Holds x) := by
  obtain ⟨rest, hw⟩ : ∃ rest, b.queue.commands = x :: rest := List.head?_eq_some_iff.mp h.waiting
  have hn : b.queue.next? = some (.command x, { b.queue with commands := rest }) := by simp [WorkQueue.next?, hq, hw]
  have ht : b.takeUpWork now =
      Controller.takeUpWork now
        { b with queue := { b.queue with commands := rest }, command := some ⟨x, 0⟩ } := by
    rw [Controller.takeUpWork]
    simp only [hi, dite_true]
    split <;> simp_all [h.command]
  obtain ⟨bytes, hb⟩ := he (nextSequence b.seq)
  obtain ⟨hc, hp, ho⟩ := takeUpWork_sends (o := ⟨x, 0⟩)
    (c := { b with queue := { b.queue with commands := rest }, command := some ⟨x, 0⟩ }) now hi rfl hb
  rw [← ht] at hc hp ho
  refine ⟨hc, ?_, fun hf => ?_⟩
  · rcases ho with ⟨ho, -⟩ | ho
    · exact .inl (by rw [ho])
    · exact .inr ⟨_, bytes, [], hb, by simp [ho]⟩
  · rcases ho with ⟨-, hh⟩ | ho
    · exact ⟨by rw [hc]; rfl, by simp [unsent, hp, hh]⟩
    · simp [ho] at hf

lemma judgement_sending (now : Nat) (hp : c.phase = .sendingRequest) (item : Framing.Item p.Frame) :
    c.judgement? item = none ∧ (c.takeItem now item).phase = .sendingRequest := by
  cases item with
  | corrupt fault => simp [judgement?, takeItem, hp]
  | ack =>
    have hr : c.takeAck now = c := takeAck_refused (by simp [hp])
    simp [judgement?, takeItem, hr, hp]
  | nak =>
    have ha : c.accepts .nakReceived = false := by simp [accepts, hp, Phase.next?]
    simp [judgement?, takeItem, takeNak, ha, hp]
  | frame frame =>
    have hn : c.phase.next? p.acknowledged .responseReceived = none := by rw [hp]; rfl
    simp [judgement?, takeItem, hp, advance_unknown hn]

lemma judgedItems_sending (now : Nat) (items : List (Framing.Item p.Frame)) {c : Controller p}
    (hp : c.phase = .sendingRequest) : c.judgedItems now items = [] := by
  induction items generalizing c with
  | nil => rfl
  | cons item items ih =>
    obtain ⟨hj, hp⟩ := judgement_sending now hp item
    rw [judgedItems, hj, ih hp]
    rfl

lemma dropCandidate_sending (now : Nat) (hp : c.phase = .sendingRequest) :
    (c.dropCandidate now).phase = .sendingRequest := by
  simp only [dropCandidate, Framing.Receiver.giveUp]
  split
  · exact hp
  · rename_i fault _
    exact (judgement_sending
      (c := { c with receiver := .skip p.scanner c.receiver.seen c.receiver.ahead }) now hp (.corrupt fault)).2

lemma judged_sending (now : Nat) (input : Input) (hp : c.phase = .sendingRequest) : c.judged now input = [] := by
  cases input with
  | bytes data => exact judgedItems_sending now _ hp
  | tick =>
    simp only [judged]
    split
    · exact judgedItems_sending now _ (dropCandidate_sending now (by exact hp))
    · rfl
  | woken | wrote | disconnected => rfl

end Controller

open Controller

variable {start c : Controller p} {waiting : List Bytes} {later : Nat} {call : Call}

lemma Driven.holds (hk : Countable p) (hq : p.enquiry = none) (hs : ∀ now, start.Rested limit now 0)
    (hv : start.command = none) (h : Driven start now waiting c) (hn : now ≤ later) (hi : call.InTurn waiting)
    (hx : c.Holds x) :
    Goes x [] (transmissions (c.step later call.input).1) ∧
      (transmissions (c.step later call.input).1 = [] → (c.step later call.input).2.Holds x) := by
  obtain ⟨o, hc, rfl⟩ := Option.map_eq_some_iff.mp hx.command
  have hp := (h.passage hk hs hv hn hi hc).1
  rw [hx.unsent] at hp
  rw [transmissions_step]
  rcases hp.held with hone | ⟨hnone, hb, hh⟩
  · obtain ⟨seq, bytes, hreq, hf⟩ := hone.frame hq
    obtain ⟨more, hm⟩ := outbox_takeUpWork later (c.attend later call)
    rw [← hm, transmissions_append, hf]
    exact ⟨Goes.append hreq rfl _, by simp⟩
  · have ht : (c.attend later call).takeUpWork later = c.attend later call := takeUpWork_busy hb
    rw [step_eq, during_eq, ht, hnone.silent hq]
    exact ⟨.inl rfl, fun _ => hh.flush⟩

lemma Driven.heads (hs : ∀ now, start.Rested limit now 0) (h : Driven start now waiting c) (hn : now ≤ later)
    (hi : call.InTurn waiting) (hx : c.Heads x) (he : ∀ seq, ∃ bytes, requestBytes x seq = .ok bytes) :
    ∃ pieces, (∀ bytes ∈ pieces, IsPiece p bytes) ∧ Goes x pieces (transmissions (c.step later call.input).1) ∧
      (transmissions (c.step later call.input).1 = pieces → (c.step later call.input).2.Upcoming x) := by
  have hr := (h.later hn).rested hs
  have hv : c.Vacant c := ⟨hx.command, rfl, rfl, rfl, by simp [hr.outbox], by simp [hr.outbox]⟩
  have hv : c.Vacant (c.attend later call) := hv.attend hr hi
  have hb : (c.attend later call).Heads x := ⟨hv.command, hv.waiting ▸ hx.waiting⟩
  obtain ⟨pieces, hp, hg, hd⟩ := hb.takeUpWork later he
  refine ⟨transmissions (c.attend later call).outbox ++ pieces, fun bytes hm => ?_, ?_, ?_⟩
  · exact (List.mem_append.mp hm).elim (hv.pieces bytes) (hp bytes)
  · rwa [transmissions_step]
  · intro hf
    rw [transmissions_step] at hf
    rw [step_eq, during_eq]
    exact (hd hf).flush

variable {allowed : Controller p → Demand p → Prop}

theorem Driven.holds_run (hk : Countable p) (hq : p.enquiry = none) (hs : ∀ now, start.Rested limit now 0)
    (hv : start.command = none) (turns : List (Turn p)) (h : Driven start now waiting c) (hx : c.Holds x)
    (ho : c.Orderly allowed now waiting turns) : Goes x [] (transmissions (c.run turns).1) := by
  induction turns generalizing c now waiting with
  | nil => exact .inl rfl
  | cons t turns ih =>
    cases t with
    | demand demand => exact ih (h.meet demand) (hx.meet demand) ho.2
    | call later call =>
      obtain ⟨hn, hi, ho⟩ := ho
      obtain ⟨hg, hd⟩ := h.holds hk hq hs hv hn hi hx
      rw [run, transmissions_append]
      exact hg.trans fun hf => ih (h.turn hn hi) (hd hf) ho

theorem Driven.upcoming_run (hk : Countable p) (hq : p.enquiry = none) (hs : ∀ now, start.Rested limit now 0)
    (hv : start.command = none) (he : ∀ seq, ∃ bytes, requestBytes x seq = .ok bytes) (turns : List (Turn p))
    (h : Driven start now waiting c) (hx : c.Upcoming x) (ho : c.Orderly Patient now waiting turns) :
    ∃ pieces, (∀ bytes ∈ pieces, IsPiece p bytes) ∧ Goes x pieces (transmissions (c.run turns).1) := by
  induction turns generalizing c now waiting with
  | nil => exact ⟨[], nofun, .inl rfl⟩
  | cons t turns ih =>
    cases t with
    | demand demand => exact ih (h.meet demand) (hx.meet ho.1) ho.2
    | call later call =>
      rcases hx with hx | hx
      · exact ⟨[], nofun, h.holds_run hk hq hs hv (.call later call :: turns) hx ho⟩
      · obtain ⟨hn, hi, ho⟩ := ho
        obtain ⟨pieces, hp, hg, hd⟩ := h.heads hs hn hi hx he
        rw [run, transmissions_append]
        exact hg.bind hp fun hf => ih (h.turn hn hi) (hd hf) ho

end ParkingStation.Exchange
