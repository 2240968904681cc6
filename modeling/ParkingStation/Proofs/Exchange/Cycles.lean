import ParkingStation.Proofs.Exchange.Vacancy

/-! A cycle begins when the request is sent and ends with a failure on the line, with a busy peripheral or with
a reply that decides the command. What is left of the call after that does nothing to it. -/

namespace ParkingStation.Exchange

open Framing

variable {p : Peripheral} {now limit u : Nat}

inductive Ending (p : Peripheral)
  | failed (reason : Reason) (session : p.Session)
  | answered (session : p.Session)

def Verdict.decides {C : Type} : Verdict C → Bool
  | unrelated _ | again .. => false
  | _ => true

def Decisive {C S : Type} (session : S) (result : Verdict C × S) : Prop :=
  result.1.decides = true ∨
    result.2 = session ∧ ∃ detail, result.1 = .unrelated detail ∨ result.1 = .again .busy detail

def Ending.isFailure : Ending p → Bool
  | failed .. => true
  | answered _ => false

namespace Controller

def lineFailure? (trigger : Trigger) (reason : Reason) (c : Controller p) : Option (Ending p) :=
  if c.command.isSome ∧ c.accepts trigger then some (.failed reason c.session) else none

def replyEnding? (frame : p.Frame) (c : Controller p) : Option (Ending p) :=
  match c.command with
  | none => none
  | some o =>
    match p.judge c.session o.item frame with
    | (.unrelated _, _) => none
    | (.again reason _, session) => some (.failed reason session)
    | (_, session) => some (.answered session)

def itemEnding? (c : Controller p) : Item p.Frame → Option (Ending p)
  | .frame frame => if c.phase = .waitingResponse then c.replyEnding? frame else none
  | .nak => c.lineFailure? .nakReceived .nak
  | .ack | .corrupt _ => none

def itemsEnding? (now : Nat) (c : Controller p) : List (Item p.Frame) → Option (Ending p)
  | [] => none
  | item :: items => (c.itemEnding? item).or ((c.takeItem now item).itemsEnding? now items)

def spoiltEnding? (c : Controller p) : Option (Ending p) :=
  match c.spoilt with
  | some fault =>
    if p.scanner.idle c.receiver.scan ∧ c.phase = .waitingResponse then
      c.lineFailure? .frameRejected (fault.toError p.scanner.limit).reason
    else none
  | none => none

def drainEnding? (now : Nat) (c : Controller p) : Option (Ending p) :=
  let (items, receiver) := c.receiver.readAll p.scanner
  let c := { c with receiver := receiver }
  (c.itemsEnding? now items).or (items.foldl (takeItem now) c).spoiltEnding?

def fireEnding? (timer : Timer) (now : Nat) (c : Controller p) : Option (Ending p) :=
  let (fires, timers) := c.timers.fire timer now
  let c := { c with timers := timers }
  if fires then
    match timer with
    | .frameGap => (c.dropCandidate now).drainEnding? now
    | .writeSpacing => none
    | .ack => c.lineFailure? .ackTimeout .ackTimeout
    | .response => if c.phase = .waitingResponse then c.lineFailure? .responseTimeout .noResponse else none
  else none

def firesEnding? (now : Nat) (c : Controller p) : List Timer → Option (Ending p)
  | [] => none
  | timer :: timers => (c.fireEnding? timer now).or ((c.fire timer now).firesEnding? now timers)

def ending? (now : Nat) (c : Controller p) : Call → Option (Ending p)
  | .woken | .wrote .completed => none
  | .bytes data => drainEnding? now { c with timers := c.timers.heard now, receiver := c.receiver.append data }
  | .wrote (.failed _) => c.lineFailure? .writeFailed .sendFailed
  | .wrote .timedOut => c.lineFailure? .writeTimeout .writeTimeout
  | .tick => c.firesEnding? now [.frameGap, .writeSpacing, .ack, .response]

end Controller

def requests (p : Peripheral) (effects : List Effect) : List Bytes :=
  (transmissions effects).filter fun bytes => p.enquiry ≠ some bytes

structure Sent (command : p.Command) (n : Nat) (effects : List Effect) : Prop where
  count : (requests p effects).length = n
  frames : ∀ bytes ∈ requests p effects, ∃ seq, Controller.requestBytes command seq = .ok bytes

section Sent

variable {command : p.Command} {m n : Nat} {xs ys : List Effect} {bytes : Bytes}

lemma Sent.of_requests (h : Sent command n xs) (hr : requests p ys = requests p xs) : Sent command n ys :=
  ⟨hr ▸ h.count, hr ▸ h.frames⟩

lemma Sent.append (h : Sent command m xs) (k : Sent command n ys) : Sent command (m + n) (xs ++ ys) := by
  have hr : requests p (xs ++ ys) = requests p xs ++ requests p ys := by simp [requests]
  refine ⟨by rw [hr, List.length_append, h.count, k.count], fun bytes hb => ?_⟩
  rw [hr] at hb
  exact (List.mem_append.mp hb).elim (h.frames bytes) (k.frames bytes)

lemma Sent.nil (command : p.Command) : Sent command 0 [] := ⟨rfl, nofun⟩

lemma Sent.enquiry (he : p.enquiry = some bytes) : Sent command 0 [.transmit bytes] := by
  have hr : requests p [.transmit bytes] = [] := by simp [requests, he]
  exact (Sent.nil command).of_requests hr

lemma Sent.request {seq : UInt8} (he : p.enquiry ≠ some bytes) (hb : Controller.requestBytes command seq = .ok bytes) :
    Sent command 1 [.transmit bytes] := by
  have hr : requests p [.transmit bytes] = [bytes] := by simp [requests, he]
  exact ⟨by rw [hr]; rfl, fun b hm => by rw [hr, List.mem_singleton] at hm; exact ⟨seq, hm ▸ hb⟩⟩

end Sent

structure Countable (p : Peripheral) : Prop where
  discreet : Discreet p
  decisive : ∀ session command frame, Decisive session (p.judge session command frame)
  apart : ∀ {command seq bytes}, Controller.requestBytes (p := p) command seq = .ok bytes → p.enquiry ≠ some bytes
  again : ∀ {command seq bytes}, Controller.requestBytes (p := p) command seq = .ok bytes →
    ∀ next, ∃ bytes, Controller.requestBytes command next = .ok bytes

namespace Controller

variable {c d : Controller p} {o : Ongoing p.Command}

def unsent (c : Controller p) : Nat := if c.phase = .sendingRequest ∧ c.held.isSome then 1 else 0

structure Running (limit : Nat) (o : Ongoing p.Command) (u : Nat) (c : Controller p) : Prop where
  phase : c.phase = .sendingRequest ∨ c.phase = .waitingAck ∨ c.phase = .waitingResponse
  command : c.command = some o
  budget : c.timing.maxRetries = limit
  silent : reports c.outbox = []
  sent : ∃ n, n + c.unsent = u ∧ Sent o.item n c.outbox

inductive Course (limit : Nat) (o : Ongoing p.Command) (u : Nat) : Option (Ending p) → Controller p → Prop
  | running {b : Controller p} (h : b.Running limit o u) : Course limit o u none b
  | again {b : Controller p} {reason : Reason} {session : p.Session} (hp : b.phase = .idle) (hl : o.sends ≤ limit)
      (hc : b.command = some o) (hr : reports b.outbox = []) (hs : Sent o.item u b.outbox) :
      Course limit o u (some (.failed reason session)) b
  | abandoned {b : Controller p} {reason : Reason} {session : p.Session} (hp : b.phase = .idle) (hl : limit < o.sends)
      (hc : b.command = none)
      (he : p.asksAgain session o.item = false → ∃ sends, reports sends = [] ∧ Sent o.item u sends ∧
        b.outbox = sends ++
          (.fault p.device (p.name o.item) reason :: (p.giveUp session o.item reason).1).map .report) :
      Course limit o u (some (.failed reason session)) b
  | answered {b : Controller p} {session : p.Session} (hp : b.phase = .idle) (hc : b.command = none)
      (he : p.asksAgain session o.item = false → (reports b.outbox).filter (·.isFault) = []) :
      Course limit o u (some (.answered session)) b

lemma unsent_busy (hp : c.phase ≠ .sendingRequest) : c.unsent = 0 := if_neg fun h => hp h.1

lemma unsent_free (hh : c.held = none) : c.unsent = 0 := if_neg fun h => by simp [hh] at h

def course (c : Controller p) : Phase × Option (Ongoing p.Command) × Settings.Timing × Option Bytes × List Effect :=
  (c.phase, c.command, c.timing, c.held, c.outbox)

lemma Running.congr (h : c.Running limit o u) (hd : d.course = c.course) : d.Running limit o u := by
  simp only [course, Prod.mk.injEq] at hd
  obtain ⟨hp, hc, ht, hh, ho⟩ := hd
  refine ⟨hp ▸ h.phase, hc ▸ h.command, ht ▸ h.budget, ho ▸ h.silent, ?_⟩
  simpa only [unsent, hp, hh, ho] using! h.sent

lemma Course.congr {e : Option (Ending p)} (h : Course limit o u e c) (hd : d.course = c.course) :
    Course limit o u e d := by
  cases h with
  | running h => exact .running (h.congr hd)
  | again hp hl hc hr hs =>
    simp only [course, Prod.mk.injEq] at hd
    obtain ⟨hp', hc', -, -, ho⟩ := hd
    exact .again (hp'.trans hp) hl (hc'.trans hc) (ho ▸ hr) (ho ▸ hs)
  | abandoned hp hl hc he =>
    simp only [course, Prod.mk.injEq] at hd
    obtain ⟨hp', hc', -, -, ho⟩ := hd
    exact .abandoned (hp'.trans hp) hl (hc'.trans hc) (ho ▸ he)
  | answered hp hc he =>
    simp only [course, Prod.mk.injEq] at hd
    obtain ⟨hp', hc', -, -, ho⟩ := hd
    exact .answered (hp'.trans hp) (hc'.trans hc) (ho ▸ he)

lemma Course.idle {e : Ending p} (h : Course limit o u (some e) c) : c.phase = .idle := by
  cases h <;> assumption

def shelf (c : Controller p) :
    p.Session × WorkQueue p.Command p.Chunk × Nat × Settings.Timing × Option (Ongoing p.Chunk) :=
  (c.session, c.queue, c.polls, c.timing, c.chunk)

lemma of_shelf (h : d.shelf = c.shelf) :
    d.session = c.session ∧ d.queue = c.queue ∧ d.polls = c.polls ∧ d.timing = c.timing ∧ d.chunk = c.chunk := by
  simpa [shelf] using h

def standing (c : Controller p) :
    (Phase × Option (Ongoing p.Command) × Settings.Timing × Option Bytes × List Effect) ×
      p.Session × WorkQueue p.Command p.Chunk × Nat × Settings.Timing × Option (Ongoing p.Chunk) :=
  (c.course, c.shelf)

structure Underway (limit : Nat) (o : Ongoing p.Command) (u : Nat) (c a : Controller p) : Prop where
  running : c.Running limit o u
  shelf : c.shelf = a.shelf

structure Stopped (limit : Nat) (o : Ongoing p.Command) (u : Nat) (c a : Controller p) : Prop where
  phase : c.phase = .idle
  command : c.command = some o
  budget : c.timing.maxRetries = limit
  silent : reports c.outbox = []
  sent : Sent o.item u c.outbox
  shelf : c.shelf = a.shelf

def Undecided (xs : List (Judgement p)) : Prop := ∀ j ∈ xs, j.verdict.decides = false

/-- How far a call that began in `a` has got with the command in flight, and the replies held against it so far. -/
inductive Passage (limit : Nat) (o : Ongoing p.Command) (u : Nat) (a : Controller p) :
    List (Judgement p) → Option (Ending p) → Controller p → Prop
  | underway {b : Controller p} {xs : List (Judgement p)} (h : b.Underway limit o u a) (hx : Undecided xs) :
      Passage limit o u a xs none b
  | failed {b d : Controller p} {xs : List (Judgement p)} {reason : Reason} (detail : String)
      (h : d.Stopped limit o u a) (hx : Undecided xs) (hr : reason ≠ .pollExhausted)
      (hb : b.standing = (d.repeatOrAbandon reason detail).standing) :
      Passage limit o u a xs (some (.failed reason a.session)) b
  | answered {b d : Controller p} {xs : List (Judgement p)} {frame : p.Frame} {verdict : Verdict p.Command}
      {session : p.Session} (h : d.Underway limit o u a) (hx : Undecided xs) (hp : d.phase = .waitingResponse)
      (hv : p.judge a.session o.item frame = (verdict, session)) (hd : verdict.decides = true)
      (hb : b.standing = (d.conclude o session verdict).standing) :
      Passage limit o u a (xs ++ [⟨a.session, o.item, frame⟩]) (some (.answered session)) b

variable {a : Controller p} {xs ys : List (Judgement p)} {e : Option (Ending p)}

lemma Undecided.append (hx : Undecided xs) (hy : Undecided ys) : Undecided (xs ++ ys) :=
  fun j hj => (List.mem_append.mp hj).elim (hx j) (hy j)

lemma Underway.congr (h : c.Underway limit o u a) (hd : d.standing = c.standing) : d.Underway limit o u a :=
  ⟨h.running.congr (congrArg Prod.fst hd), (congrArg Prod.snd hd).trans h.shelf⟩

lemma Underway.session (h : c.Underway limit o u a) : c.session = a.session := congrArg Prod.fst h.shelf

lemma Passage.congr (h : Passage limit o u a xs e c) (hd : d.standing = c.standing) : Passage limit o u a xs e d := by
  cases h with
  | underway h hx => exact .underway (h.congr hd) hx
  | failed detail h hx hr hb => exact .failed detail h hx hr (hd.trans hb)
  | answered h hx hp hv he hb => exact .answered h hx hp hv he (hd.trans hb)

lemma Running.sent_all (h : c.Running limit o u) (hu : c.unsent = 0) : Sent o.item u c.outbox := by
  obtain ⟨n, hn, hs⟩ := h.sent
  obtain rfl : n = u := by omega
  exact hs

lemma Stopped.course (reason : Reason) (detail : String) (h : c.Stopped limit o u a) :
    Course limit o u (some (.failed reason c.session)) (c.repeatOrAbandon reason detail) := by
  simp only [repeatOrAbandon, h.command, h.budget]
  split
  · rename_i hl
    exact .again h.phase hl h.command h.silent h.sent
  · rename_i hl
    split
    · rename_i ha
      obtain ⟨session, queue, polls, events, hd⟩ := askAgain_sameLine { c with command := none } o.item
      rw [hd]
      exact .abandoned h.phase (Nat.lt_of_not_le hl) rfl fun hn => by simp [ha] at hn
    · rw [abandon_frame]
      exact .abandoned h.phase (Nat.lt_of_not_le hl) rfl fun _ => ⟨c.outbox, h.silent, h.sent, rfl⟩

lemma Running.answered {frame : p.Frame} {verdict : Verdict p.Command} {session : p.Session} (hd : Discreet p)
    (h : c.Running limit o u) (hp : c.phase = .waitingResponse)
    (hv : p.judge a.session o.item frame = (verdict, session)) (hc : verdict.decides = true) :
    Course limit o u (some (.answered session)) (c.conclude o session verdict) := by
  have hi : c.answered.phase = .idle := phase_advance (c := { c with command := none }) hp rfl
  have hf := hd.judge_events (congrArg Prod.fst hv)
  cases verdict with
  | unrelated | again => cases hc
  | answered events followUps =>
    have hn : (reports (c.outbox ++ events.map .report)).filter (·.isFault) = [] := by simpa [h.silent] using! hf
    simp only [conclude, followUps_frame]
    exact .answered hi rfl fun _ => hn
  | refused reason detail events =>
    have hn : (reports (c.outbox ++ [.report (.failed p.device (p.name o.item) reason detail)] ++
        events.map .report)).filter (·.isFault) = [] := by
      simpa [h.silent, Event.isFault] using! hf
    exact .answered hi rfl fun _ => hn
  | unready events =>
    obtain rfl : events = [] := hd.unready (congrArg Prod.fst hv)
    have hl := askAgain_sameLine ({ c.answered with session := session }.reportAll []) o.item
    have hn : (reports (c.outbox ++ [])).filter (·.isFault) = [] := by simp [h.silent]
    refine .answered ((phase_sameLine hl).trans hi) ?_ fun ha => ?_
    · obtain ⟨_, _, _, _, he⟩ := hl
      rw [conclude, he]
      rfl
    · have ha' : p.asksAgain ({ c.answered with session := session }.reportAll []).session o.item = false := ha
      simp only [conclude, askAgain, ha', Bool.false_eq_true, if_false]
      exact hn

theorem Passage.course (hd : Discreet p) (h : Passage limit o u a xs e c) : Course limit o u e c := by
  cases h with
  | underway h => exact .running h.running
  | failed detail h hx hr hb =>
    have hs : _ = a.session := congrArg Prod.fst h.shelf
    exact hs ▸ (h.course _ detail).congr (congrArg Prod.fst hb)
  | answered h hx hp hv hc hb => exact (h.running.answered hd hp hv hc).congr (congrArg Prod.fst hb)

lemma Passage.idle {e : Ending p} (hd : Discreet p) (h : Passage limit o u a xs (some e) c) : c.phase = .idle :=
  (h.course hd).idle

lemma Stopped.kept {reason : Reason} {detail : String} (h : c.Stopped limit o u a) (hl : o.sends ≤ limit) :
    c.repeatOrAbandon reason detail = c := by
  simp [repeatOrAbandon, h.command, h.budget, hl]

lemma Stopped.left {reason : Reason} {detail : String} (h : c.Stopped limit o u a) (hl : limit < o.sends) :
    (c.repeatOrAbandon reason detail).command = none := by
  cases h.course reason detail with
  | again hp hs => omega
  | abandoned hp hs hc => exact hc

lemma Passage.kept (hd : Discreet p) (h : Passage limit o u a xs e c) (hc : c.command.isSome) :
    c.command = some o ∧ c.shelf = a.shelf ∧ reports c.outbox = [] := by
  cases h with
  | underway h => exact ⟨h.running.command, h.shelf, h.running.silent⟩
  | @failed _ d _ reason detail h hx hn hb =>
    have he : c.command = (d.repeatOrAbandon reason detail).command := congrArg (fun s => s.1.2.1) hb
    rcases Nat.lt_or_ge limit o.sends with hl | hl
    · simp [he, h.left hl] at hc
    · rw [h.kept hl] at hb he
      have ho : c.outbox = d.outbox := congrArg (fun s => s.1.2.2.2.2) hb
      exact ⟨he.trans h.command, (congrArg Prod.snd hb).trans h.shelf, ho ▸ h.silent⟩
  | answered h hx hp hv he hb =>
    cases (h.running.answered hd hp hv he).congr (congrArg Prod.fst hb) with
    | answered hi hn => simp [hn] at hc

lemma lineFailure_accepted {trigger : Trigger} {reason : Reason} (hc : c.command = some o)
    (ha : c.accepts trigger = true) : c.lineFailure? trigger reason = some (.failed reason c.session) := by
  simp [lineFailure?, hc, ha]

lemma lineFailure_refused {trigger : Trigger} {reason : Reason} (ha : c.accepts trigger = false) :
    c.lineFailure? trigger reason = none := by
  simp [lineFailure?, ha]

lemma Underway.breakCycle {trigger : Trigger} {reason : Reason} (detail : String) (h : c.Underway limit o u a)
    (hx : Undecided xs) (hr : reason ≠ .pollExhausted)
    (hi : ∀ target, c.phase.next? p.acknowledged trigger = some target → target = .idle)
    (hu : c.accepts trigger = true → c.unsent = 0) :
    Passage limit o u a xs (c.lineFailure? trigger reason) (c.breakCycle trigger reason detail) := by
  cases ha : c.accepts trigger with
  | false =>
    rw [lineFailure_refused ha]
    simp only [Controller.breakCycle, ha, Bool.false_eq_true, if_false]
    exact .underway h hx
  | true =>
    obtain ⟨target, hn⟩ := Option.isSome_iff_exists.mp ha
    obtain rfl := hi target hn
    rw [lineFailure_accepted h.running.command ha, h.session]
    simp only [Controller.breakCycle, ha, if_true]
    have hs : (c.advance trigger).closeCycle.resetReceiver.Stopped limit o u a :=
      ⟨phase_advance rfl hn, h.running.command, h.running.budget, h.running.silent, h.running.sent_all (hu ha), h.shelf⟩
    exact .failed detail hs hx hr rfl

lemma Underway.takeNak (h : c.Underway limit o u a) (hx : Undecided xs) :
    Passage limit o u a xs (c.itemEnding? .nak) c.takeNak := by
  rw [itemEnding?]
  cases ha : c.accepts .nakReceived with
  | false =>
    rw [lineFailure_refused ha]
    simp only [Controller.takeNak, ha, Bool.false_eq_true, if_false]
    exact .underway h hx
  | true =>
    have hp : (c.advance .nakReceived).markAnswered.closeCycle.phase = .idle :=
      phase_advance rfl (next_fail (by simp) ha)
    have hu : c.unsent = 0 := unsent_busy fun hs => by simp [accepts, hs, Phase.next?] at ha
    rw [lineFailure_accepted h.running.command ha, h.session]
    simp only [Controller.takeNak, ha, if_true]
    have hs : (c.advance .nakReceived).markAnswered.closeCycle.Stopped limit o u a :=
      ⟨hp, h.running.command, h.running.budget, h.running.silent, h.running.sent_all hu, h.shelf⟩
    exact .failed _ hs hx (by simp) rfl

lemma running_written (hp : c.phase = .waitingAck ∨ c.phase = .waitingResponse) (hc : c.command = some o)
    (hb : c.timing.maxRetries = limit) (hr : reports c.outbox = []) (hs : Sent o.item u c.outbox) :
    c.Running limit o u :=
  ⟨.inr hp, hc, hb, hr, u, by rw [unsent_busy (by rcases hp with hp | hp <;> simp [hp])]; rfl, hs⟩

lemma Underway.takeAck (h : c.Underway limit o u a) : (c.takeAck now).Underway limit o u a := by
  by_cases hp : c.phase = .waitingAck
  · have hn : c.phase.next? p.acknowledged .ackReceived = some .waitingResponse := by simp [hp, Phase.next?]
    have ha : c.accepts .ackReceived = true := by simp [accepts, hn]
    have hr : ((c.advance .ackReceived).markAnswered.stopTimer .ack).phase = .waitingResponse := phase_advance rfl hn
    have hs := h.running.sent_all (unsent_busy (by simp [hp]))
    obtain ⟨⟨-, hc, hb, hq, -⟩, hd⟩ := h
    simp only [Controller.takeAck, ha, if_true]
    split
    · rename_i bytes he
      have hw : reports (c.outbox ++ [.transmit bytes]) = [] := by simp [hq]
      rcases transmitSpaced_cases now bytes ((c.advance .ackReceived).markAnswered.stopTimer .ack) with
        ⟨-, ht⟩ | ⟨wait, -, ht⟩ <;> rw [ht]
      · exact ⟨running_written (.inr hr) hc hb hw (hs.append (.enquiry he)), hd⟩
      · exact ⟨running_written (.inr hr) hc hb hq hs, hd⟩
    · exact ⟨running_written (.inr hr) hc hb hq hs, hd⟩
  · rw [takeAck_refused hp]
    exact h

lemma Underway.takeReply (hk : Countable p) (h : c.Underway limit o u a) (hx : Undecided xs)
    (hp : c.phase = .waitingResponse) (frame : p.Frame) :
    Passage limit o u a (xs ++ [⟨c.session, o.item, frame⟩]) (c.replyEnding? frame) (c.takeReply frame) := by
  have hi : c.answered.phase = .idle := phase_advance (c := { c with command := none }) hp rfl
  have hs := h.running.sent_all (unsent_busy (by simp [hp]))
  obtain ⟨hr, hd⟩ := h
  have he : c.session = a.session := congrArg Prod.fst hd
  rcases hv : p.judge c.session o.item frame with ⟨verdict, session⟩
  have hm := hk.decisive c.session o.item frame
  rw [hv] at hm
  have still (hj : verdict.decides = false) : Undecided (xs ++ [⟨c.session, o.item, frame⟩]) := by
    refine hx.append fun j hm => ?_
    obtain rfl := List.mem_singleton.mp hm
    rwa [Judgement.verdict, hv]
  rw [takeReply_eq hr.command hv]
  simp only [replyEnding?, hr.command, hv]
  cases verdict with
  | unrelated detail =>
    obtain ⟨rfl, -⟩ := hm.resolve_left (by simp [Verdict.decides])
    exact .underway ⟨hr, hd⟩ (still rfl)
  | again reason detail =>
    obtain ⟨rfl, busy, hb⟩ := hm.resolve_left (by simp [Verdict.decides])
    obtain ⟨rfl, -⟩ : reason = .busy ∧ detail = busy := by simpa using hb
    have hu := still rfl
    have ht : Stopped limit o u { c.answered with session := c.session, command := some o } a :=
      ⟨hi, rfl, hr.budget, hr.silent, hs, hd⟩
    rw [he] at hu ⊢
    exact .failed detail ht hu (by simp) (by rw [← he]; rfl)
  | answered | unready | refused =>
    rw [he] at hv ⊢
    exact .answered ⟨hr, hd⟩ hx hp hv rfl rfl

lemma takeItem_idle (hp : c.phase = .idle) (item : Item p.Frame) :
    c.takeItem now item = c ∧ c.itemEnding? item = none := by
  cases item with
  | corrupt fault => simp [takeItem, itemEnding?, hp]
  | ack => exact ⟨takeAck_refused (by simp [hp]), rfl⟩
  | nak =>
    have ha : c.accepts .nakReceived = false := by simp [accepts, hp, Phase.next?]
    exact ⟨by simp [takeItem, Controller.takeNak, ha], lineFailure_refused ha⟩
  | frame frame =>
    have hn : c.phase.next? p.acknowledged .responseReceived = none := by rw [hp]; rfl
    simp [takeItem, itemEnding?, hp, advance_unknown hn]

lemma Underway.takeItem (hk : Countable p) (h : c.Underway limit o u a) (hx : Undecided xs) (item : Item p.Frame) :
    Passage limit o u a (xs ++ (c.judgement? item).toList) (c.itemEnding? item) (c.takeItem now item) := by
  cases item with
  | corrupt fault =>
    simp only [Controller.takeItem, judgement?, Option.toList_none, List.append_nil]
    split
    · exact .underway (h.congr rfl) hx
    · exact .underway h hx
  | ack =>
    simp only [judgement?, Option.toList_none, List.append_nil]
    exact .underway h.takeAck hx
  | nak =>
    simp only [judgement?, Option.toList_none, List.append_nil]
    exact h.takeNak hx
  | frame frame =>
    simp only [Controller.takeItem, itemEnding?, judgement?, h.running.command]
    split
    · rename_i hp
      exact h.takeReply hk hx hp frame
    · rename_i hp
      have hn : c.phase.next? p.acknowledged .responseReceived = none := by
        rcases h.running.phase with hq | hq | hq <;> simp_all [Phase.next?]
      simp only [Option.toList_none, List.append_nil]
      split
      · rename_i hq
        rcases h.running.phase with h | h | h <;> simp [h] at hq
      · rw [advance_unknown hn]
        exact .underway h hx

lemma Passage.takeItem (hk : Countable p) (h : Passage limit o u a xs e c) (item : Item p.Frame) :
    Passage limit o u a (xs ++ (c.judgement? item).toList) (e.or (c.itemEnding? item)) (c.takeItem now item) := by
  cases e with
  | none =>
    cases h with
    | underway h hx => exact h.takeItem hk hx item
  | some e =>
    have hi := h.idle hk.discreet
    rw [(takeItem_idle hi item).1, (judgement_idle now hi item).1]
    simpa using h

lemma Passage.takeItems (now : Nat) (hk : Countable p) (items : List (Item p.Frame)) {c : Controller p}
    (h : Passage limit o u a xs e c) :
    Passage limit o u a (xs ++ c.judgedItems now items) (e.or (c.itemsEnding? now items))
      (items.foldl (Controller.takeItem now) c) := by
  induction items generalizing xs e c with
  | nil => simpa [itemsEnding?, judgedItems] using h
  | cons item items ih =>
    rw [itemsEnding?, judgedItems, ← Option.or_assoc, ← List.append_assoc]
    exact ih (h.takeItem hk item)

lemma fault_reason_ne (limit : Nat) (fault : Fault) : (fault.toError limit).reason ≠ .pollExhausted := by
  cases fault <;> simp [Fault.toError, Error.reason]

lemma Underway.rejectReply (h : c.Underway limit o u a) (hx : Undecided xs) (fault : Fault) :
    Passage limit o u a xs (if c.phase = .waitingResponse then
      c.lineFailure? .frameRejected (fault.toError p.scanner.limit).reason else none) (c.rejectReply now fault) := by
  simp only [Controller.rejectReply]
  split
  · rename_i hp
    refine h.breakCycle _ hx (fault_reason_ne _ fault) (fun target hn => ?_) fun _ => unsent_busy (by simp [hp])
    simpa [hp, Phase.next?, eq_comm] using hn
  · split
    · rename_i hp
      rcases h.running.phase with h | h | h <;> simp [h] at hp
    · exact .underway h hx

lemma Passage.settleSpoilt (now : Nat) (hd : Discreet p) (h : Passage limit o u a xs e c) :
    Passage limit o u a xs (e.or c.spoiltEnding?) (c.settleSpoilt now) := by
  cases hs : c.spoilt with
  | none => simpa [Controller.settleSpoilt, spoiltEnding?, hs] using h
  | some fault =>
    by_cases hi : p.scanner.idle c.receiver.scan = true
    · simp only [Controller.settleSpoilt, spoiltEnding?, hs, hi, if_true, true_and]
      have hc : Passage limit o u a xs e { c with spoilt := none } := h.congr rfl
      cases e with
      | none =>
        cases hc with
        | underway hc hx => exact hc.rejectReply hx fault
      | some e =>
        have hr : Controller.rejectReply now fault { c with spoilt := none } = { c with spoilt := none } := by
          simp [Controller.rejectReply, hc.idle hd]
        rw [hr]
        exact hc
    · simpa [Controller.settleSpoilt, spoiltEnding?, hs, hi] using h

lemma Passage.watchGap (h : Passage limit o u a xs e c) : Passage limit o u a xs e (c.watchGap now) := by
  unfold Controller.watchGap
  split <;> exact h.congr rfl

lemma Passage.drain (hk : Countable p) (h : Passage limit o u a xs e c) :
    Passage limit o u a (xs ++ c.judgedDrain now) (e.or (c.drainEnding? now)) (c.drain now) := by
  have hr : Passage limit o u a xs e { c with receiver := (c.receiver.readAll p.scanner).2 } := h.congr rfl
  have hi := (hr.takeItems now hk (c.receiver.readAll p.scanner).1).settleSpoilt now hk.discreet
  rw [Option.or_assoc] at hi
  exact hi.watchGap

lemma standing_fire (timer : Timer) (now : Nat) (c : Controller p) :
    standing { c with timers := (c.timers.fire timer now).2 } = c.standing := by
  simp only [standing, course, phase, timing, timing_fire, shelf]

lemma Underway.missAck (h : c.Underway limit o u a) (hx : Undecided xs) :
    Passage limit o u a xs (c.lineFailure? .ackTimeout .ackTimeout) c.missAck := by
  refine h.breakCycle _ hx (by simp) (fun target hn => ?_) fun ha => unsent_busy fun hp => ?_
  · rcases h.running.phase with hp | hp | hp <;> simp [hp, Phase.next?] at hn
    exact hn.symm
  · simp [accepts, hp, Phase.next?] at ha

lemma Underway.missResponse (h : c.Underway limit o u a) (hx : Undecided xs) :
    Passage limit o u a xs
      (if c.phase = .waitingResponse then c.lineFailure? .responseTimeout .noResponse else none)
      (c.missResponse now) := by
  have hk : c.phase ≠ .waitingChunkResponse := by rcases h.running.phase with hp | hp | hp <;> simp [hp]
  simp only [Controller.missResponse, hk, if_false]
  split
  · rename_i hp
    refine h.breakCycle _ hx (by simp) (fun target hn => ?_) fun _ => unsent_busy (by simp [hp])
    simpa [hp, Phase.next?, eq_comm] using hn
  · rename_i hp
    rw [breakCycle_refused]
    · exact .underway h hx
    · rcases h.running.phase with hq | hq | hq <;> simp_all [Phase.next?]

lemma Passage.dropCandidate (hk : Countable p) (h : Passage limit o u a xs e c) :
    Passage limit o u a xs e (c.dropCandidate now) := by
  simp only [Controller.dropCandidate, Receiver.giveUp]
  split
  · exact h.congr rfl
  · rename_i fault _
    have hr : Passage limit o u a xs e { c with receiver := .skip p.scanner c.receiver.seen c.receiver.ahead } :=
      h.congr rfl
    simpa [itemEnding?, judgement?] using! hr.takeItem hk (.corrupt fault)

lemma Passage.fireGap (now : Nat) (hk : Countable p) (h : Passage limit o u a xs e c) :
    Passage limit o u a (xs ++ c.judged now .tick) (e.or (c.fireEnding? .frameGap now)) (c.fire .frameGap now) := by
  have hc := h.congr (standing_fire .frameGap now c)
  simp only [Controller.fire, fireEnding?, judged]
  split
  · exact (hc.dropCandidate hk).drain hk
  · simpa using hc

lemma Passage.fireAck (now : Nat) (hd : Discreet p) (h : Passage limit o u a xs e c) :
    Passage limit o u a xs (e.or (c.fireEnding? .ack now)) (c.fire .ack now) := by
  have hc := h.congr (standing_fire .ack now c)
  simp only [Controller.fire, fireEnding?]
  split
  · cases e with
    | none =>
      cases hc with
      | underway hc hx => exact hc.missAck hx
    | some e =>
      have hn : Phase.next? p.acknowledged c.phase .ackTimeout = none := by rw [h.idle hd]; rfl
      have hm : missAck { c with timers := (c.timers.fire .ack now).2 } = _ := breakCycle_refused hn
      simpa only [hm, Option.some_or] using hc
  · simpa using hc

lemma Passage.fireResponse (now : Nat) (hd : Discreet p) (h : Passage limit o u a xs e c) :
    Passage limit o u a xs (e.or (c.fireEnding? .response now)) (c.fire .response now) := by
  have hc := h.congr (standing_fire .response now c)
  simp only [Controller.fire, fireEnding?]
  split
  · cases e with
    | none =>
      cases hc with
      | underway hc hx => exact hc.missResponse hx
    | some e =>
      have hn : Phase.next? p.acknowledged c.phase .responseTimeout = none := by rw [h.idle hd]; rfl
      have hk : ¬ c.phase = .waitingChunkResponse := by simp [h.idle hd]
      have hm : missResponse now { c with timers := (c.timers.fire .response now).2 } = _ :=
        (if_neg hk).trans (breakCycle_refused hn)
      simpa only [hm, Option.some_or] using hc
  · simpa using hc

lemma Running.release {n : Nat} (hk : Countable p) (h : c.Running limit o u) (hg : c.Guarded n) :
    (c.stopTimer .writeSpacing).releaseHeld.Running limit o u := by
  have hw := hg.awaits
  cases hh : c.held with
  | none =>
    have hr : (c.stopTimer .writeSpacing).releaseHeld = c.stopTimer .writeSpacing := by
      simp [releaseHeld, stopTimer, hh]
    rw [hr]
    exact h.congr rfl
  | some bytes =>
    have hr : (c.stopTimer .writeSpacing).releaseHeld =
        { c with
          timers := c.timers.stop .writeSpacing
          held := none
          outbox := c.outbox ++ [.transmit bytes] } := by simp [releaseHeld, stopTimer, hh, transmit]
    rw [hr]
    have hf : unsent { c with
        timers := c.timers.stop .writeSpacing
        held := none
        outbox := c.outbox ++ [.transmit bytes] } = 0 := unsent_free rfl
    have hq : reports (c.outbox ++ [.transmit bytes]) = [] := by simp [h.silent]
    obtain ⟨m, hm, hs⟩ := h.sent
    refine ⟨h.phase, h.command, h.budget, hq, ?_⟩
    rcases h.phase with hp | hp | hp
    · simp only [Awaits, hp, hh, reduceCtorEq, false_and, or_false] at hw
      obtain ⟨-, -, o', b, hc, hb, he⟩ := hw
      cases h.command.symm.trans hc
      cases hh.symm.trans he
      have hu : c.unsent = 1 := by simp [unsent, hp, hh]
      exact ⟨m + 1, by rw [← hm, hu, hf], hs.append (.request (hk.apart hb) hb)⟩
    · simp [Awaits, hp, hh] at hw
    · simp only [Awaits, hp, hh, reduceCtorEq, false_and, or_false, and_false, false_or] at hw
      obtain ⟨-, -, b, he, hb⟩ := hw
      cases hh.symm.trans hb
      have hu : c.unsent = 0 := unsent_busy (by simp [hp])
      exact ⟨m, by rw [← hm, hu, hf], hs.append (.enquiry he)⟩

lemma shelf_releaseHeld (c : Controller p) : (c.stopTimer .writeSpacing).releaseHeld.shelf = c.shelf := by
  unfold releaseHeld
  split <;> rfl

lemma Passage.release {n : Nat} (now : Nat) (hk : Countable p) (h : Passage limit o u a xs e c) (hg : c.Guarded n) :
    Passage limit o u a xs (e.or (c.fireEnding? .writeSpacing now)) (c.fire .writeSpacing now) := by
  have hn : c.fireEnding? .writeSpacing now = none := by
    simp only [fireEnding?]
    split <;> rfl
  rw [hn, Option.or_none]
  rcases fire_writeSpacing now c with hf | ⟨hd, hf⟩
  · rw [hf]
    exact h
  · rw [hf]
    cases e with
    | none =>
      cases h with
      | underway h hx =>
        exact .underway ⟨h.running.release hk hg, (shelf_releaseHeld c).trans h.shelf⟩ hx
    | some e =>
      have hs : c.timers.writeSpacing = none := (hg.silent (h.idle hk.discreet)).spacing
      simp [Timers.deadline, hs] at hd

lemma Underway.endWrite (h : c.Underway limit o u a) (hx : Undecided xs) (hu : c.unsent = 0) (result : WriteResult) :
    Passage limit o u a xs (c.ending? now (.wrote result)) (c.endWrite now result) := by
  have broken {trigger : Trigger} {reason : Reason} (ht : trigger ∈ [.writeFailed, .writeTimeout])
      (hr : reason ≠ .pollExhausted) (detail : String) :
      Passage limit o u a xs (c.lineFailure? trigger reason) (c.breakCycle trigger reason detail) := by
    refine h.breakCycle detail hx hr (fun target hn => ?_) fun _ => hu
    have hm : trigger ∈ [.writeFailed, .writeTimeout, .nakReceived, .ackTimeout] := by revert ht; cases trigger <;> simp
    exact Option.some.inj (hn.symm.trans (next_fail hm (by simp [hn])))
  cases result with
  | failed detail => exact broken (by simp) (by simp) detail
  | timedOut => exact broken (by simp) (by simp) _
  | completed =>
    refine .underway ?_ hx
    have hs := h.running.sent_all hu
    obtain ⟨hr, hd⟩ := h
    simp only [Controller.endWrite, completeWrite]
    split
    · rename_i ha
      obtain ⟨target, hn⟩ := Option.isSome_iff_exists.mp ha
      have hp : (c.advance .writeCompleted).phase = target := phase_advance rfl hn
      have hw : target = .waitingAck ∨ target = .waitingResponse := by
        rcases hr.phase with hq | hq | hq <;> simp only [hq, Phase.next?, Option.some.injEq, reduceCtorEq] at hn
        · subst hn
          split <;> simp
        · exact .inr hn.symm
      rcases hw with rfl | rfl <;> simp only [hp]
      · exact ⟨running_written (.inl hp) hr.command hr.budget hr.silent hs, hd⟩
      · exact ⟨running_written (.inr hp) hr.command hr.budget hr.silent hs, hd⟩
    · exact ⟨hr, hd⟩

theorem Rested.passage {waiting : List Bytes} (hk : Countable p) (hr : c.Rested limit now waiting.length)
    (h : c.Running limit o u) {call : Call} (hi : call.InTurn waiting) :
    Passage limit o u c (c.judged now call.input) (c.ending? now call) (c.attend now call) := by
  have hn : Undecided ([] : List (Judgement p)) := nofun
  have hs : c.Underway limit o u c := ⟨h, rfl⟩
  cases call with
  | woken => exact .underway hs hn
  | bytes data =>
    have hd : Passage limit o u c [] none { c with timers := c.timers.heard now, receiver := c.receiver.append data } :=
      .underway (hs.congr rfl) hn
    exact hd.drain hk
  | wrote result =>
    have hh : c.held = none := by
      cases hh : c.held with
      | none => rfl
      | some bytes =>
        have hz := hr.guarded.apart (by simp [hh])
        have := hi.busy
        omega
    exact hs.endWrite hn (unsent_free hh) result
  | tick =>
    obtain rfl : waiting = [] := hi
    obtain ⟨-, hp⟩ := (moves_fire .frameGap (by simp) now c).poised hr.matched hr.poised
    have hg := (Passage.underway hs hn).fireGap now hk
    have ha := ((hg.release now hk hp.guarded).fireAck now hk.discreet).fireResponse now hk.discreet
    simpa [ending?, firesEnding?, Option.or_assoc] using! ha

end Controller

end ParkingStation.Exchange
