import ParkingStation.Proofs.Exchange.Diary
import ParkingStation.Proofs.Exchange.Resolution

namespace ParkingStation

namespace Exchange

variable {p : Peripheral} {now limit : Nat}

def faultEvents (command : p.Command) (reason : Reason) (session : p.Session) : List Event :=
  .fault p.device (p.name command) reason :: (p.giveUp session command reason).1

structure Service.Lasts (limit u : Nat) (s : Service p) : Prop where
  encodes : ∃ seq bytes, Controller.requestBytes s.command seq = .ok bytes
  failures : ∀ e ∈ s.endings, e.isFailure = true
  within : s.endings.length ≤ limit
  silent : reports s.effects = []
  sent : ∃ n, n + u = s.endings.length + 1 ∧ Sent s.command n s.effects

/-- The command of a service has left. Only its last cycle may have ended with a reply that decided it. Otherwise it was
sent one time more often than the retries allowed, and unless somebody goes on asking, one fault was then reported for
the last failure. -/
def Service.Ends (limit : Nat) (s : Service p) : Prop :=
  ∃ failures last, s.endings = failures ++ [last] ∧ (∀ e ∈ failures, e.isFailure = true) ∧
    match last with
    | .failed reason session =>
      failures.length = limit ∧ (p.asksAgain session s.command = false →
        ∃ sends, s.effects = sends ++ (faultEvents s.command reason session).map .report ∧ reports sends = [] ∧
          Sent s.command (limit + 1) sends ∧
          (reports s.effects).filter (·.isFault) = [.fault p.device (p.name s.command) reason])
    | .answered session =>
      p.asksAgain session s.command = false → (reports s.effects).filter (·.isFault) = []

/-- What is over went as it should: commands ended with the budget kept, and what was done for none of them was to
transmit pieces of uploads and to report events that are no faults. -/
structure Diary.Sound (limit : Nat) (d : Diary p) : Prop where
  finished : ∀ s ∈ d.finished, s.Ends limit
  faultless : (reports d.others).filter (·.isFault) = []
  pieces : ∀ bytes ∈ transmissions d.others, IsPiece p bytes

namespace Controller

variable {c d : Controller p} {o : Ongoing p.Command}

lemma sendRequest_sends {bytes : Bytes} (now : Nat) (hc : c.command = some o)
    (hb : requestBytes o.item (nextSequence c.seq) = .ok bytes) :
    (c.sendRequest now).command = some ⟨o.item, o.sends + 1⟩ ∧ (c.sendRequest now).phase = c.phase ∧
      ((c.sendRequest now).outbox = c.outbox ∧ (c.sendRequest now).held.isSome ∨
        (c.sendRequest now).outbox = c.outbox ++ [.transmit bytes]) := by
  rw [sendRequest_ok hc hb]
  rcases transmitSpaced_cases now bytes
    { c with command := some ⟨o.item, o.sends + 1⟩, seq := nextSequence c.seq } with ⟨-, he⟩ | ⟨wait, -, he⟩ <;> rw [he]
  · exact ⟨rfl, rfl, .inr rfl⟩
  · exact ⟨rfl, rfl, .inl ⟨rfl, rfl⟩⟩

structure Begins (c d : Controller p) (news : List Effect) : Prop where
  outbox : d.outbox = c.outbox ++ news
  faultless : (reports news).filter (·.isFault) = []
  pieces : d.command = none → ∀ bytes ∈ transmissions news, IsPiece p bytes
  sends : ∀ o, d.command = some o → o.sends = 1 ∧ d.phase = .sendingRequest ∧
    ∃ seq bytes, requestBytes o.item seq = .ok bytes ∧
      (transmissions news = [] ∧ d.held.isSome ∨ transmissions news = [bytes])

lemma Begins.after {b : Controller p} {news : List Effect} {event : Event} (h : Begins c d news)
    (ho : c.outbox = b.outbox ++ [.report event]) (hf : event.isFault = false) :
    Begins b d (.report event :: news) := by
  refine ⟨by simp [h.outbox, ho], by simpa [hf] using h.faultless, by simpa using! h.pieces, fun o hc => ?_⟩
  simpa using! h.sends o hc

lemma takeUpWork_begins (now : Nat) (c : Controller p)
    (hc : ∀ o, c.command = some o → c.phase = .idle ∧ o.sends = 0) : ∃ news, Begins c (c.takeUpWork now) news := by
  fun_induction takeUpWork now c with
  | case1 c hi o hco next hn ih =>
    cases hb : requestBytes o.item (nextSequence c.seq) with
    | ok bytes =>
      have hp := (sendRequest_sends (c := c.advance .commandEnqueued) now hco hb).2.1
      rw [phase_advance hi rfl] at hp
      exact absurd (hn.symm.trans hp) (by decide)
    | error err =>
      have he : next = _ := sendRequest_error (c := c.advance .commandEnqueued) hco hb
      have hz : next.command = none := by rw [he]; rfl
      obtain ⟨news, hs⟩ := ih (by simp [hz])
      exact ⟨_, hs.after (by rw [he]; rfl) rfl⟩
  | case2 c hi o hco next hn =>
    cases hb : requestBytes o.item (nextSequence c.seq) with
    | ok bytes =>
      obtain ⟨hs, hp, ho⟩ := sendRequest_sends (c := c.advance .commandEnqueued) now hco hb
      rw [phase_advance hi rfl] at hp
      have hz := (hc o hco).2
      rcases ho with ⟨ho, hh⟩ | ho
      · refine ⟨[], by rw [ho]; simp [advance], rfl, by simp, fun o' ho' => ?_⟩
        cases hs.symm.trans ho'
        exact ⟨by simp [hz], hp, _, bytes, hb, .inl ⟨rfl, hh⟩⟩
      · refine ⟨[.transmit bytes], by rw [ho]; rfl, rfl, fun hn => by simp [next, hn] at hs, fun o' ho' => ?_⟩
        cases hs.symm.trans ho'
        exact ⟨by simp [hz], hp, _, bytes, hb, .inr rfl⟩
    | error err =>
      have he : next = _ := sendRequest_error (c := c.advance .commandEnqueued) hco hb
      refine absurd ?_ hn
      rw [he]
      exact phase_advance (phase_advance hi rfl) rfl
  | case3 c hi k hco hk next hn ih =>
    obtain ⟨hc, ⟨hp, -⟩ | ⟨event, hf, ho⟩⟩ := sendPiece_cases (c := c.advance .sendNextChunk) now hk
    · rw [phase_advance hi rfl] at hp
      exact absurd (hn.symm.trans hp) (by decide)
    · have hz : next.command = none := hc.trans hco
      obtain ⟨news, hs⟩ := ih (by simp [hz])
      exact ⟨_, hs.after ho hf⟩
  | case4 c hi k hco hk next hn =>
    obtain ⟨hc, hs⟩ := sendPiece_cases (c := c.advance .sendNextChunk) now hk
    have hz : next.command = none := hc.trans hco
    rcases hs with ⟨-, news, ho, hr, hp⟩ | ⟨event, hf, ho⟩
    · exact ⟨news, ho, by simp [hr], fun _ => hp, by simp [hz]⟩
    · exact ⟨[.report event], ho, by simp [hf], by simp, by simp [hz]⟩
  | case5 c hi item queue hco hk hq ih =>
    obtain ⟨news, hs⟩ := ih (fun o ho => ⟨hi, by cases ho; rfl⟩)
    exact ⟨news, hs.outbox, hs.faultless, hs.pieces, hs.sends⟩
  | case6 c hi item queue hco hk hq ih =>
    obtain ⟨news, hs⟩ := ih (by simp [hco])
    exact ⟨news, hs.outbox, hs.faultless, hs.pieces, hs.sends⟩
  | case7 c hi hco hk hq => exact ⟨[], by simp, rfl, by simp, by simp [hco]⟩
  | case8 c hi => exact ⟨[], by simp, rfl, by simp, fun o ho => absurd (hc o ho).1 hi⟩

lemma takeUpWork_sends {bytes : Bytes} (now : Nat) (hi : c.phase = .idle) (hc : c.command = some o)
    (hb : requestBytes o.item (nextSequence c.seq) = .ok bytes) :
    (c.takeUpWork now).command = some ⟨o.item, o.sends + 1⟩ ∧ (c.takeUpWork now).phase = .sendingRequest ∧
      ((c.takeUpWork now).outbox = c.outbox ∧ (c.takeUpWork now).held.isSome ∨
        (c.takeUpWork now).outbox = c.outbox ++ [.transmit bytes]) := by
  have hs := sendRequest_sends (c := c.advance .commandEnqueued) now hc hb
  rw [phase_advance hi rfl] at hs
  have he : c.takeUpWork now = (c.advance .commandEnqueued).sendRequest now := by
    rw [takeUpWork, dif_pos hi]
    split <;> simp_all
  rw [he]
  exact hs

lemma Guarded.held_none {n : Nat} {effects : List Effect} (h : c.Guarded n)
    (hn : (transmissions effects).length ≤ n) (ht : transmissions effects ≠ []) : c.held = none := by
  cases hh : c.held with
  | none => rfl
  | some held =>
    have hz := h.apart (by simp [hh])
    have := List.length_pos_iff.mpr ht
    omega

lemma Begins.lasts {n : Nat} {news : List Effect} (hk : Countable p) (h : Begins c d news) (hg : d.Guarded n)
    (hn : (transmissions news).length ≤ n) (hc : d.command = some o) :
    Service.Lasts limit d.unsent ⟨o.item, (transmissions news).map .transmit, []⟩ := by
  obtain ⟨-, hp, seq, bytes, hb, ⟨ht, hh⟩ | ht⟩ := h.sends o hc
  · have hu : d.unsent = 1 := by simp [unsent, hp, hh]
    refine ⟨⟨seq, bytes, hb⟩, by simp, Nat.zero_le limit, by simp [ht], 0, by simp [hu], ?_⟩
    simpa [ht] using Sent.nil o.item
  · have hu : d.unsent = 0 := unsent_free (hg.held_none hn (by simp [ht]))
    refine ⟨⟨seq, bytes, hb⟩, by simp, Nat.zero_le limit, by simp [ht], 1, by simp [hu], ?_⟩
    simpa [ht] using Sent.request (hk.apart hb) hb

structure Serving (limit : Nat) (d : Diary p) (c : Controller p) : Prop where
  vacant : c.command = none → d.current = none
  served : ∀ o, c.command = some o → c.phase ≠ .idle ∧ ∃ s : Service p, d.current = some s ∧ s.command = o.item ∧
    s.endings.length + 1 = o.sends ∧ s.Lasts limit c.unsent
  sound : d.Sound limit

lemma Begins.serving {n : Nat} {news : List Effect} {D : Diary p} (hk : Countable p) (h : Begins c d news)
    (hg : d.Guarded n) (hn : (transmissions news).length ≤ n) (hd : D.current = none) (hs : D.Sound limit) :
    Serving limit (D.takeUp d.command news) d := by
  have hf : (reports D.others ++ reports news).filter (·.isFault) = [] := by
    rw [List.filter_append, hs.faultless, h.faultless, List.append_nil]
  cases hc : d.command with
  | none =>
    have hp : ∀ bytes ∈ transmissions (D.others ++ news), IsPiece p bytes := by
      simpa [or_imp, forall_and] using! ⟨hs.pieces, h.pieces hc⟩
    exact ⟨fun _ => hd, by simp [hc], hs.finished, by simpa [Diary.takeUp] using! hf, hp⟩
  | some o =>
    obtain ⟨ho, hi, -⟩ := h.sends o hc
    refine ⟨by simp [hc], fun o' ho' => ⟨by simp [hi], _, rfl, ?_⟩, hs.finished, by simpa [Diary.takeUp] using! hf,
      by simpa [Diary.takeUp] using! hs.pieces⟩
    cases hc.symm.trans ho'
    exact ⟨rfl, by simp [ho], h.lasts hk hg hn hc⟩

variable {b : Controller p} {s : Service p} {D : Diary p} {n u : Nat}

lemma Running.lasts (h : b.Running limit o u) (hs : s.command = o.item) (hl : s.Lasts limit u) :
    (s.note b.outbox none).Lasts limit b.unsent := by
  obtain ⟨n, hn, hp⟩ := hl.sent
  obtain ⟨m, hm, hq⟩ := h.sent
  refine ⟨hl.encodes, by simpa [Service.note] using hl.failures, by simpa [Service.note] using hl.within, ?_, n + m, ?_,
    hp.append (hs ▸ hq)⟩
  · simp [Service.note, hl.silent, h.silent]
  · simp only [Service.note, Option.toList_none, List.append_nil]
    omega

lemma lasts_again {reason : Reason} {session : p.Session} (hk : Countable p) (hl : s.Lasts limit u)
    (hs : s.command = o.item) (hn : s.endings.length < limit) (hi : b.phase = .idle) (hc : b.command = some o)
    (hr : reports b.outbox = []) (hb : Sent o.item u b.outbox) (hg : (b.takeUpWork now).Guarded n)
    (ht : (transmissions (b.takeUpWork now).outbox).length ≤ n) :
    (s.note (b.takeUpWork now).outbox (some (.failed reason session))).Lasts limit (b.takeUpWork now).unsent := by
  obtain ⟨seq, bytes, he⟩ := hl.encodes
  obtain ⟨bytes, he⟩ := hk.again he (nextSequence b.seq)
  obtain ⟨m, hm, hp⟩ := hl.sent
  have hf : ∀ e ∈ s.endings ++ [Ending.failed reason session], e.isFailure = true := by
    simpa [or_imp, forall_and, Ending.isFailure] using hl.failures
  have hw : (s.endings ++ [Ending.failed reason session]).length ≤ limit := by simpa using! hn
  have hq := hp.append (hs ▸ hb)
  obtain ⟨-, ha, ⟨ho, hh⟩ | ho⟩ := takeUpWork_sends now hi hc (hs ▸ he)
  · have hu : (b.takeUpWork now).unsent = 1 := by simp [unsent, ha, hh]
    refine ⟨hl.encodes, hf, hw, by simp [Service.note, ho, hl.silent, hr], m + u, ?_, ?_⟩
    · simp [Service.note, hu, hm]
    · simpa [Service.note, ho] using hq
  · have hu : (b.takeUpWork now).unsent = 0 := unsent_free (hg.held_none ht (by simp [ho]))
    refine ⟨hl.encodes, hf, hw, by simp [Service.note, ho, hl.silent, hr], m + u + 1, ?_, ?_⟩
    · simp [Service.note, hu, hm]
    · simpa [Service.note, ho] using hq.append (.request (hk.apart he) he)

lemma ends_abandoned {reason : Reason} {session : p.Session} {effects : List Effect} (hd : Discreet p)
    (hl : s.Lasts limit u) (hs : s.command = o.item) (hn : s.endings.length = limit)
    (he : p.asksAgain session o.item = false → ∃ sends, reports sends = [] ∧ Sent o.item u sends ∧
      effects = sends ++
        (.fault p.device (p.name o.item) reason :: (p.giveUp session o.item reason).1).map .report) :
    (s.note effects (some (.failed reason session))).Ends limit := by
  refine ⟨s.endings, .failed reason session, rfl, hl.failures, hn, fun ha => ?_⟩
  obtain ⟨sends, hr, hq, rfl⟩ := he (hs ▸ ha)
  obtain ⟨m, hm, hp⟩ := hl.sent
  have hf : (p.giveUp session o.item reason).1.filter (·.isFault) = [] := by
    simpa [List.filter_eq_nil_iff] using hd.giveUp session o.item reason
  refine ⟨s.effects ++ sends, ?_, by simp [hl.silent, hr], ?_, ?_⟩
  · simp [Service.note, faultEvents, hs]
  · have hq := hp.append (hs ▸ hq)
    rwa [hm, hn] at hq
  · have ht : (Event.fault p.device (p.name o.item) reason).isFault = true := rfl
    simp [Service.note, hl.silent, hr, hf, hs, ht]

lemma Course.serving {ending? : Option (Ending p)} (hk : Countable p) (h : Course limit o u ending? b)
    (hd : D.current = some s) (hs : s.command = o.item) (hn : s.endings.length + 1 = o.sends) (ho : o.sends ≤ limit + 1)
    (hl : s.Lasts limit u) (hq : D.Sound limit) (hg : (b.takeUpWork now).Guarded n)
    (ht : (transmissions (b.takeUpWork now).outbox).length ≤ n) :
    Serving limit (D.enter b (b.takeUpWork now) ending?) (b.takeUpWork now) := by
  have left {e : Ending p} (hc : b.command = none) (he : (s.note b.outbox (some e)).Ends limit) :
      Serving limit (D.enter b (b.takeUpWork now) (some e)) (b.takeUpWork now) := by
    obtain ⟨news, hb⟩ := takeUpWork_begins now b (by simp [hc])
    have hD : D.enter b (b.takeUpWork now) (some e) =
        { D with current := none, finished := D.finished ++ [s.note b.outbox (some e)] }.takeUp
          (b.takeUpWork now).command news := by
      simp [Diary.enter, hd, hc, hb.outbox]
    rw [hD]
    refine hb.serving hk hg ?_ rfl ⟨?_, hq.faultless, hq.pieces⟩
    · rw [hb.outbox, transmissions_append, List.length_append] at ht
      omega
    · simpa [or_imp, forall_and] using! ⟨hq.finished, he⟩
  cases h with
  | running h =>
    have hp : b.phase ≠ .idle := by rcases h.phase with hp | hp | hp <;> simp [hp]
    have he : D.enter b (b.takeUpWork now) none = { D with current := some (s.note b.outbox none) } := by
      simp [Diary.enter, hd, h.command, takeUpWork_busy hp]
    rw [he, takeUpWork_busy hp]
    refine ⟨fun hc => by simp [h.command] at hc, fun o' hc => ⟨hp, _, rfl, ?_⟩, hq.finished, hq.faultless, hq.pieces⟩
    cases h.command.symm.trans hc
    exact ⟨hs, by simpa [Service.note] using hn, h.lasts hs hl⟩
  | again hi hl' hc hr hb =>
    obtain ⟨seq, bytes, he⟩ := hl.encodes
    obtain ⟨bytes, he⟩ := hk.again he (nextSequence b.seq)
    obtain ⟨hc', hp, -⟩ := takeUpWork_sends now hi hc (hs ▸ he)
    have hD (e : Ending p) : D.enter b (b.takeUpWork now) (some e) =
        { D with current := some (s.note (b.takeUpWork now).outbox (some e)) } := by
      simp [Diary.enter, hd, hc]
    rw [hD]
    refine ⟨fun hz => by simp [hz] at hc', fun o' ho' => ⟨by simp [hp], _, rfl, ?_⟩,
      hq.finished, hq.faultless, hq.pieces⟩
    cases hc'.symm.trans ho'
    exact ⟨hs, by simp [Service.note, hn], lasts_again hk hl hs (by omega) hi hc hr hb hg ht⟩
  | abandoned hi hl' hc he => exact left hc (ends_abandoned hk.discreet hl hs (by omega) he)
  | answered hi hc he =>
    refine left hc ⟨s.endings, _, rfl, hl.failures, fun ha => ?_⟩
    simpa [Service.note, hl.silent] using he (hs ▸ ha)

lemma Rested.running {w : Nat} (h : c.Rested limit now w) (hc : c.command = some o) (hp : c.phase ≠ .idle) :
    o.sends ≤ limit + 1 ∧ c.Running limit o c.unsent := by
  have hs : ∃ n, n + c.unsent = c.unsent ∧ Sent o.item n c.outbox := ⟨0, Nat.zero_add _, h.outbox ▸ .nil o.item⟩
  have hb : o.sends ≤ limit + 1 ∧ (c.phase = .sendingRequest ∨ c.phase = .waitingAck ∨ c.phase = .waitingResponse) := by
    have hf := h.matched.fits
    cases hq : c.phase <;> simp_all [Fits]
  exact ⟨hb.1, hb.2, hc, h.matched.budget, by simp [h.outbox], hs⟩

lemma Serving.start (limit : Nat) (hc : c.command = none) : Serving limit {} c :=
  ⟨fun _ => rfl, by simp [hc], nofun, rfl, nofun⟩

lemma Serving.meet (h : Serving limit D c) (demand : Demand p) : Serving limit D (c.meet demand) := by
  cases demand with
  | submit | submitFirst | instruct => exact ⟨h.vacant, h.served, h.sound⟩
  | upload chunks =>
    simp only [Controller.meet, submitUpload]
    split <;> exact ⟨h.vacant, h.served, h.sound⟩

lemma Serving.step {waiting : List Bytes} {call : Call} (hk : Countable p) (h : Serving limit D c)
    (hr : c.Rested limit now waiting.length) (hi : call.InTurn waiting) :
    Serving limit (D.call now c call) (c.step now call.input).2 := by
  have hg : ((c.attend now call).takeUpWork now).Guarded
      (((c.attend now call).takeUpWork now).load waiting.tail.length) := by
    rw [← during_eq]
    exact (hr.left (Nat.le_refl now) hi).guarded
  have ht : (transmissions ((c.attend now call).takeUpWork now).outbox).length ≤
      ((c.attend now call).takeUpWork now).load waiting.tail.length := Nat.le_add_left _ _
  suffices hs : Serving limit (D.call now c call) (c.during now call.input) by
    rw [step_eq]
    exact ⟨hs.vacant, hs.served, hs.sound⟩
  rw [Diary.call, during_eq]
  cases hco : c.command with
  | none =>
    have hv : c.Vacant c := ⟨hco, rfl, rfl, rfl, by simp [hr.outbox], by simp [hr.outbox]⟩
    have ha := hv.attend hr hi
    obtain ⟨news, hb⟩ := takeUpWork_begins now (c.attend now call) (by simp [ha.command])
    have he : D.enter (c.attend now call) ((c.attend now call).takeUpWork now) (c.ending? now call) =
        { D with others := D.others ++ (c.attend now call).outbox }.takeUp
          ((c.attend now call).takeUpWork now).command news := by
      simp [Diary.enter, h.vacant hco, hb.outbox]
    rw [he]
    refine hb.serving hk hg ?_ (h.vacant hco) ⟨h.sound.finished, ?_, ?_⟩
    · rw [hb.outbox, transmissions_append, List.length_append] at ht
      omega
    · simp [h.sound.faultless, ha.faultless]
    · simpa [or_imp, forall_and] using! ⟨h.sound.pieces, ha.pieces⟩
  | some o =>
    obtain ⟨hp, s, hd, hs, hn, hl⟩ := h.served o hco
    obtain ⟨ho, hu⟩ := hr.running hco hp
    exact ((hr.passage hk hu hi).course hk.discreet).serving hk hd hs hn ho hl h.sound hg ht

end Controller

lemma Drive.serving {start : Controller p} {ts : List (Turn p)} {waiting : List Bytes} (hk : Countable p)
    (h : Drive start ts now waiting) (hs : ∀ now, start.Rested limit now 0) (hc : start.command = none) :
    (start.after ts).Serving limit (start.diary {} ts) := by
  induction h with
  | start => exact .start limit hc
  | later _ _ ih => exact ih
  | demand _ demand ih =>
    rw [Controller.after_concat, diary_demand]
    exact ih.meet demand
  | @call ts now waiting h call hi ih =>
    have hd : Driven start now waiting (start.after ts) := ⟨ts, h, rfl⟩
    rw [Controller.after_concat, diary_call]
    exact ih.step hk (hd.rested hs) hi

lemma Resolution.decisive {C S : Type} {isOn : S → Bool} {polls ends : C → Bool} {follows : C → Prop} {session : S}
    {command : C} {result : Verdict C × S} (h : Resolution isOn polls ends follows session command result) :
    Decisive session result := by
  cases h with
  | answered | unready | refused => exact .inl rfl
  | busy => exact .inr ⟨rfl, _, .inr rfl⟩
  | unrelated => exact .inr ⟨rfl, _, .inl rfl⟩

end Exchange

open Exchange

namespace Antenna

lemma countable (settings : Settings.Antenna) : Countable (peripheral settings) where
  discreet := discreet settings
  decisive s command frame := (resolved_judge settings.minOkTimes s command frame).decisive
  apart _ := by simp [peripheral]
  again {command seq bytes} hb next := by
    change encode _ (command.toFrame _ _ seq) = _ at hb
    refine ⟨wire _ (command.toFrame _ _ next), if_pos ?_⟩
    simp only [encode] at hb
    split at hb
    · assumption
    · cases hb

end Antenna

namespace CardReader

lemma countable : Countable peripheral where
  discreet := discreet
  decisive s command frame := (resolved_judge s command frame).decisive
  apart {command seq bytes} hb := by
    change encode command.toFrame = _ at hb
    simp only [encode] at hb
    split at hb <;> cases hb
    simp [peripheral, wire, checked]
  again hb _ := ⟨_, hb⟩

end CardReader

namespace PaymentReader

lemma countable (key : LoginBlock) : Countable (peripheral key) where
  discreet := discreet key
  decisive s command frame := (resolved_judge key s command frame).decisive
  apart _ := by simp [peripheral]
  again {command seq bytes} hb next := by
    change command.toFrame seq >>= encode _ = _ at hb
    change ∃ bytes, command.toFrame next >>= encode _ = _
    cases hp : command.payload with
    | error err =>
      simp only [Command.toFrame, hp] at hb
      cases hb
    | ok payload =>
      simp only [Command.toFrame, hp] at hb ⊢
      change encode _ ⟨false, command.kind, seq :: payload⟩ = _ at hb
      refine ⟨wire _ ⟨false, command.kind, next :: payload⟩, if_pos ?_⟩
      simp only [encode] at hb
      split at hb
      · assumption
      · cases hb

end PaymentReader

namespace Exchange

lemma Fitting.countable (f : Fitting) : Countable f.peripheral := by
  cases f with
  | antenna settings => exact Antenna.countable settings
  | cardReader => exact CardReader.countable
  | paymentReader key => exact PaymentReader.countable key

/-- While the cycles of a command fail, it stays in flight and goes out once more for each of them. It leaves with its
fault when one more has failed than there are retries, or without one when a reply decides it; and there are no faults
but these. -/
theorem retry_budget (f : Fitting) (session : f.peripheral.Session) (timing : Settings.Timing)
    (turns : List (Turn f.peripheral)) (now : Nat) (waiting : List Bytes)
    (h : Drive (.fresh f.peripheral session timing) turns now waiting) :
    let start := Controller.fresh f.peripheral session timing
    let d := start.diary {} turns
    let c := start.after turns
    d.Covers (start.run turns).1 ∧
      (d.current.map (·.command) = c.command.map (·.item) ∧
        ∀ s, d.current = some s → s.Lasts timing.maxRetries c.unsent) ∧
      d.Sound timing.maxRetries := by
  intro start d c
  have hs := h.serving f.countable (fun _ => Controller.rested_fresh session timing) rfl
  refine ⟨covers_diary start turns, ?_, hs.sound⟩
  cases hc : c.command with
  | none =>
    have hd : d.current = none := hs.vacant hc
    simp [hd]
  | some o =>
    obtain ⟨-, s, hd, hi, -, hl⟩ := hs.served o hc
    have hd : d.current = some s := hd
    simpa [hd, hi] using hl

def initFrame : Bytes := [2, 67, 48, 48, 3, 66]

def failedReset : List (Turn CardReader.peripheral) :=
  [.demand (.submit CardReader.Command.init), .call 0 .woken, .call 0 (.wrote (.failed "unplugged")),
    .call 0 (.wrote .completed), .call 300 .tick]

theorem budget_spent_in_two_cycles :
    let start := Controller.fresh CardReader.peripheral {} { maxRetries := 1 }
    let d := start.diary {} failedReset
    let c := start.after failedReset
    Drive start failedReset 300 [] ∧
      (start.run failedReset).1 = [.transmit initFrame, .transmit initFrame,
        .report (.fault .cardReader "Init" .ackTimeout), .report (.power .cardReader false)] ∧
      d.finished.map (·.effects) = [(start.run failedReset).1] ∧ d.Covers (start.run failedReset).1 ∧
      (d.current.map (·.command) = c.command.map (·.item) ∧ ∀ s, d.current = some s → s.Lasts 1 c.unsent) ∧
      d.Sound 1 := by
  intro start d c
  have h := (.start 0 : Drive start _ 0 _).demand (.submit CardReader.Command.init)
  have h : Drive start _ 0 [initFrame] := (h.call .woken rfl).awaiting (by decide +kernel)
  have h : Drive start _ 0 [initFrame] :=
    (h.call (.wrote (.failed "unplugged")) (List.cons_ne_nil _ _)).awaiting (by decide +kernel)
  have h : Drive start _ 0 [] := (h.call (.wrote .completed) (List.cons_ne_nil _ _)).awaiting (by decide +kernel)
  have h : Drive start failedReset 300 [] :=
    ((h.later (Nat.zero_le 300)).call .tick rfl).awaiting (by decide +kernel)
  exact ⟨h, by decide +kernel, by decide +kernel, retry_budget .cardReader {} { maxRetries := 1 } failedReset 300 [] h⟩

end Exchange

end ParkingStation
