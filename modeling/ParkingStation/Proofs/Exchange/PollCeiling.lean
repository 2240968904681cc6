import ParkingStation.Proofs.Exchange.Precedence
import ParkingStation.Proofs.Exchange.Spacing

namespace ParkingStation

def Event.isExhaustion : Event → Bool
  | .fault _ _ .pollExhausted => true
  | _ => false

lemma Event.isExhaustion_of_faultless {events : List Event} (h : events.filter (·.isFault) = []) :
    events.all (!·.isExhaustion) = true := by
  rw [List.filter_eq_nil_iff] at h
  refine List.all_eq_true.mpr fun event he => ?_
  have hf := h event he
  cases event <;> first | rfl | exact absurd rfl hf

namespace Exchange

variable {p : Peripheral} {now limit ceiling u : Nat}

structure Pollable (p : Peripheral) : Prop where
  countable : Countable p
  resolved : ∀ {session command frame events followUps},
    (p.judge session command frame).1 = .answered events followUps →
      p.asksAgain (p.judge session command frame).2 command = false
  givenUp : ∀ {session command}, p.asksAgain session command = true → ∀ reason,
    (p.giveUp session command reason).1 = [] ∧ ∀ other, p.asksAgain (p.giveUp session command reason).2 other = false

def Ending.session : Ending p → p.Session
  | failed _ session | answered session => session

namespace Service

def wanted (s : Service p) : Bool := s.endings.getLast?.any fun e => p.asksAgain e.session s.command

def fruitless (s : Service p) : Bool := (reports s.effects).isEmpty && s.wanted

structure Round (limit : Nat) (x : p.Command) (s : Service p) : Prop where
  command : s.command = x
  sent : ∃ n, 1 ≤ n ∧ n ≤ limit + 1 ∧ Sent x n s.effects
  fruitless : s.fruitless = true

end Service

lemma Service.Round.encodes (hk : Countable p) {s : Service p} {x : p.Command} (h : s.Round limit x) (seq : UInt8) :
    ∃ bytes, Controller.requestBytes x seq = .ok bytes := by
  obtain ⟨n, h1, -, hn⟩ := h.sent
  have hl : requests p s.effects ≠ [] := List.length_pos_iff.mp (hn.count ▸ h1)
  obtain ⟨bytes, hb⟩ := List.exists_mem_of_ne_nil _ hl
  obtain ⟨first, hf⟩ := hn.frames bytes hb
  exact hk.again hf seq

lemma reports_rounds {services : List (Service p)} {x : p.Command} (h : ∀ s ∈ services, s.Round limit x) :
    reports (services.flatMap (·.effects)) = [] := by
  induction services with
  | nil => rfl
  | cons s services ih =>
    have hs := (h s List.mem_cons_self).fruitless
    simp only [Service.fruitless, Bool.and_eq_true, List.isEmpty_iff] at hs
    rw [List.flatMap_cons, reports_append, hs.1, ih fun r hr => h r (List.mem_cons_of_mem s hr)]
    rfl

lemma sent_flatMap {services : List (Service p)} {x : p.Command}
    (h : ∀ s ∈ services, ∃ n ≤ limit + 1, Sent x n s.effects) :
    ∃ n ≤ services.length * (limit + 1), Sent x n (services.flatMap (·.effects)) := by
  induction services with
  | nil => exact ⟨0, Nat.zero_le _, .nil x⟩
  | cons s services ih =>
    obtain ⟨m, hm, hs⟩ := h s List.mem_cons_self
    obtain ⟨n, hn, hr⟩ := ih fun r hr => h r (List.mem_cons_of_mem s hr)
    refine ⟨m + n, ?_, hs.append hr⟩
    rw [List.length_cons, Nat.succ_mul]
    omega

structure Docket (p : Peripheral) where
  pending : List (Service p) := []
  settled : List (List (Service p)) := []

def Docket.file (D : Docket p) (s : Service p) : Docket p :=
  if s.fruitless then { D with pending := D.pending ++ [s] } else ⟨[], D.settled ++ [D.pending ++ [s]]⟩

def Diary.docket (d : Diary p) : Docket p := d.finished.foldl Docket.file {}

/-- A poll is over. Its cycles were all for one command and went without a result up to the last. Either that one was
the last that the ceiling allows, which the one fault says; or it brought a result or a failure or was not wanted any
more, and no fault is about the ceiling. -/
def Concluded (limit ceiling : Nat) (poll : List (Service p)) : Prop :=
  ∃ rounds last, poll = rounds ++ [last] ∧ (∀ s ∈ rounds, s.Round limit last.command) ∧ poll.length ≤ ceiling ∧
    (∃ n ≤ poll.length * (limit + 1), Sent last.command n (poll.flatMap (·.effects))) ∧
    (poll.length = ceiling ∧ last.wanted = true ∧
        reports (poll.flatMap (·.effects)) = [.fault p.device (p.name last.command) .pollExhausted] ∨
      (last.wanted = false ∨
          ∃ reason detail, .failed p.device (p.name last.command) reason detail ∈ reports last.effects) ∧
        (reports (poll.flatMap (·.effects))).all (!·.isExhaustion) = true)

lemma docket_concat (finished : List (Service p)) (s : Service p) :
    (finished ++ [s]).foldl Docket.file {} = (finished.foldl Docket.file {}).file s := by
  rw [List.foldl_append]
  rfl

lemma Diary.docket_all (d : Diary p) : d.docket.settled.flatten ++ d.docket.pending = d.finished := by
  unfold docket
  induction d.finished using List.reverseRecOn with
  | nil => rfl
  | append_singleton finished s ih =>
    rw [docket_concat, Docket.file]
    split
    · rw [← List.append_assoc, ih]
    · simp only [List.flatten_append, List.flatten_cons, List.flatten_nil, List.append_nil]
      rw [← List.append_assoc, ih]

namespace Controller

variable {a b c d : Controller p} {o : Ongoing p.Command} {x : p.Command} {xs : List (Judgement p)}
  {session : p.Session}

inductive Outcome (a : Controller p) (x : p.Command) (session : p.Session) (b : Controller p) : Prop
  | requeued (ha : p.asksAgain session x = true) (hl : a.polls + 1 < a.timing.maxPollAttempts)
      (hp : b.polls = a.polls + 1) (hq : b.queue = (a.queue.pushFront x).2) (hr : reports b.outbox = [])
  | exhausted (ha : p.asksAgain session x = true) (hl : a.timing.maxPollAttempts ≤ a.polls + 1) (hp : b.polls = 0)
      (hs : b.session = (p.giveUp session x .pollExhausted).2)
      (hr : reports b.outbox = faultEvents x .pollExhausted session)
  | closed (hp : b.polls = 0)
      (ha : p.asksAgain session x = false ∨
        ∃ reason detail, .failed p.device (p.name x) reason detail ∈ reports b.outbox)
      (hr : (reports b.outbox).all (!·.isExhaustion) = true)

lemma Outcome.congr (h : a.Outcome x session b) (hs : d.shelf = b.shelf) (ho : d.outbox = b.outbox) :
    a.Outcome x session d := by
  obtain ⟨hs, hq, hp, -⟩ := of_shelf hs
  cases h with
  | requeued ha hl hp' hq' hr => exact .requeued ha hl (hp.trans hp') (hq.trans hq') (ho ▸ hr)
  | exhausted ha hl hp' hs' hr => exact .exhausted ha hl (hp.trans hp') (hs.trans hs') (ho ▸ hr)
  | closed hp' ha hr => exact .closed (hp.trans hp') (ho ▸ ha) (ho ▸ hr)

lemma outcome_askAgain (hs : d.session = session) (hq : d.queue = a.queue) (hp : d.polls = a.polls)
    (ht : d.timing = a.timing) (hr : reports d.outbox = []) : a.Outcome x session (d.askAgain x) := by
  cases ha : p.asksAgain session x with
  | false =>
    simp only [askAgain, hs, ha, Bool.false_eq_true, if_false]
    exact .closed rfl (.inl ha) (by simp [hr])
  | true =>
    subst hs
    simp only [askAgain, ha, if_true]
    split
    · rename_i hl
      rw [abandon_frame]
      have hl : d.timing.maxPollAttempts ≤ d.polls + 1 := hl
      exact .exhausted ha (by rwa [ht, hp] at hl) rfl rfl (by simp [hr, faultEvents])
    · rename_i hl
      have hl : ¬ d.timing.maxPollAttempts ≤ d.polls + 1 := hl
      exact .requeued ha (by rw [ht, hp] at hl; omega) (by simp [pushFront, hp]) (by simp [pushFront, hq]) hr

lemma Stopped.outcome (hk : Pollable p) {reason : Reason} (detail : String) (h : d.Stopped limit o u a)
    (hn : reason ≠ .pollExhausted) (hl : limit < o.sends) :
    a.Outcome o.item a.session (d.repeatOrAbandon reason detail) := by
  obtain ⟨hs, hq, hp, ht, -⟩ := of_shelf h.shelf
  have hb : ¬ o.sends ≤ limit := Nat.not_le.mpr hl
  simp only [repeatOrAbandon, h.command, h.budget, hb, if_false]
  split
  · exact outcome_askAgain (d := { d with command := none }) hs hq hp ht h.silent
  · rename_i ha
    have hg : (p.giveUp a.session o.item reason).1.filter (·.isFault) = [] :=
      filter_isFault (hk.countable.discreet.giveUp _ _ _)
    rw [abandon_frame]
    refine .closed rfl (.inl (by simpa [hs] using ha)) ?_
    have he : Event.isExhaustion (.fault p.device (p.name o.item) reason) = false := by
      cases reason <;> first | rfl | exact absurd rfl hn
    simpa [h.silent, hs, he] using! Event.isExhaustion_of_faultless hg

lemma Underway.outcome (hk : Pollable p) {frame : p.Frame} {verdict : Verdict p.Command} (h : d.Underway limit o u a)
    (hv : p.judge a.session o.item frame = (verdict, session)) (hd : verdict.decides = true) :
    a.Outcome o.item session (d.conclude o session verdict) := by
  obtain ⟨hs, hq, hp, ht, -⟩ := of_shelf h.shelf
  have hf := Event.isExhaustion_of_faultless (hk.countable.discreet.judge_events (congrArg Prod.fst hv))
  have hr := h.running.silent
  cases verdict with
  | unrelated | again => cases hd
  | answered events followUps =>
    have ha := hk.resolved (congrArg Prod.fst hv)
    rw [hv] at ha
    simp only [conclude, followUps_frame]
    refine .closed rfl (.inl ha) ?_
    simpa [reportAll, answered, advance, markAnswered, closeCycle, hr] using! hf
  | refused reason detail events =>
    refine .closed rfl (.inr ⟨reason, detail, ?_⟩) ?_
    · simp [conclude, report, reportAll]
    · simpa [conclude, report, reportAll, answered, advance, markAnswered, closeCycle, hr, Event.isExhaustion] using! hf
  | unready events =>
    obtain rfl : events = [] := hk.countable.discreet.unready (congrArg Prod.fst hv)
    refine outcome_askAgain rfl hq hp ht ?_
    simpa [reportAll, answered, advance, markAnswered, closeCycle] using hr

theorem Passage.outcome {e : Option (Ending p)} (hk : Pollable p) (h : Passage limit o u a xs e b)
    (hc : b.command = none) : ∃ ending, e = some ending ∧ a.Outcome o.item ending.session b := by
  cases h with
  | underway h => exact absurd (h.running.command.symm.trans hc) (by simp)
  | @failed _ d _ reason detail h hx hn hb =>
    have hl : limit < o.sends := by
      by_contra hl
      rw [h.kept (Nat.le_of_not_lt hl)] at hb
      have hd : b.command = some o := (congrArg (fun s => s.1.2.1) hb).trans h.command
      simp [hc] at hd
    exact ⟨_, rfl, (h.outcome hk detail hn hl).congr (congrArg Prod.snd hb) (congrArg (fun s => s.1.2.2.2.2) hb)⟩
  | answered h hx hp hv hd hb =>
    exact ⟨_, rfl, (h.outcome hk hv hd).congr (congrArg Prod.snd hb) (congrArg (fun s => s.1.2.2.2.2) hb)⟩

inductive Visit (limit now : Nat) (D : Diary p) (c : Controller p) (call : Call) : Prop
  | vacant (hc : c.command = none) (h : c.Vacant (c.attend now call)) (hf : (D.call now c call).finished = D.finished)
  | kept {o : Ongoing p.Command} (hc : c.command = some o) (hb : (c.attend now call).command = some o)
      (hs : (c.attend now call).shelf = c.shelf) (hf : (D.call now c call).finished = D.finished)
      (he : ∀ seq, ∃ bytes, requestBytes o.item seq = .ok bytes)
      (hr : reports ((c.attend now call).takeUpWork now).outbox = [])
  | left {o : Ongoing p.Command} {s : Service p} {e : Ending p} (hc : c.command = some o)
      (hb : (c.attend now call).command = none)
      (hf : (D.call now c call).finished = D.finished ++ [s])
      (hs : s.command = o.item) (hl : ∃ endings, s.endings = endings ++ [e])
      (hr : reports s.effects = reports (c.attend now call).outbox)
      (hn : ∃ n, 1 ≤ n ∧ n ≤ limit + 1 ∧ Sent o.item n s.effects) (ho : c.Outcome o.item e.session (c.attend now call))
      (he : ∀ seq, ∃ bytes, requestBytes o.item seq = .ok bytes)

theorem Serving.visit {waiting : List Bytes} {D : Diary p} {call : Call} (hk : Pollable p) (h : Serving limit D c)
    (hr : c.Rested limit now waiting.length) (hi : call.InTurn waiting) : Visit limit now D c call := by
  have he : D.call now c call =
      D.enter (c.attend now call) ((c.attend now call).takeUpWork now) (c.ending? now call) := by
    rw [Diary.call, during_eq]
  have unfinished (D : Diary p) (command : Option (Ongoing p.Command)) (news : List Effect) :
      (D.takeUp command news).finished = D.finished := by cases command <;> rfl
  cases hco : c.command with
  | none =>
    have hv : c.Vacant c := ⟨hco, rfl, rfl, rfl, by simp [hr.outbox], by simp [hr.outbox]⟩
    refine .vacant hco (hv.attend hr hi) ?_
    simp only [he, Diary.enter, h.vacant hco, unfinished]
  | some o =>
    obtain ⟨hp, s, hd, hs, hn, hl⟩ := h.served o hco
    obtain ⟨ho, hu⟩ := hr.running hco hp
    obtain ⟨seq, bytes, hb⟩ := hl.encodes
    have hq : ∀ seq, ∃ bytes, requestBytes o.item seq = .ok bytes := hs ▸ hk.countable.again hb
    have hx := hr.passage hk.countable hu hi
    cases hb : (c.attend now call).command with
    | none =>
      obtain ⟨e, hz, hout⟩ := hx.outcome hk hb
      have hsent := hx.sent (by simp [hz])
      obtain ⟨news, hnews⟩ := takeUpWork_begins now (c.attend now call) (by simp [hb])
      obtain ⟨n, hn', hsn⟩ := hl.sent
      refine .left (s := s.note (c.attend now call).outbox (some e)) (e := e) hco hb ?_ hs ⟨s.endings, rfl⟩ ?_
        ⟨n + c.unsent, ?_, ?_, ?_⟩ hout hq
      · simp [he, Diary.enter, hd, hb, unfinished, hz, hnews.outbox]
      · simp [Service.note, hl.silent]
      · omega
      · have := hl.within
        omega
      · exact (hs ▸ hsn).append hsent
    | some o' =>
      obtain ⟨ho', hsh, hrep⟩ := hx.kept hk.countable.discreet (by simp [hb])
      refine .kept hco ho' hsh ?_ hq ?_
      · simp [he, Diary.enter, hd, hb]
      · by_cases hi : (c.attend now call).phase = .idle
        · obtain ⟨bytes, hby⟩ := hq (nextSequence (c.attend now call).seq)
          obtain ⟨-, -, ⟨hout, -⟩ | hout⟩ := takeUpWork_sends now hi ho' hby
          · rw [hout, hrep]
          · simp [hout, hrep]
        · rw [takeUpWork_busy hi, hrep]

structure Polling (limit ceiling : Nat) (D : Diary p) (c : Controller p) : Prop where
  counted : c.polls = D.docket.pending.length
  below : c.polls < ceiling
  leads : ∀ s ∈ D.docket.pending, s.Round limit s.command ∧ c.Leads s.command
  settled : ∀ poll ∈ D.docket.settled, Concluded limit ceiling poll

def Sparing (c : Controller p) (demand : Demand p) : Prop := c.polls = 0 ∨ c.Patient demand

lemma polls_meet (c : Controller p) (demand : Demand p) : (c.meet demand).polls = c.polls := by
  cases demand with
  | submit | submitFirst | instruct => rfl
  | upload chunks =>
    simp only [Controller.meet, submitUpload]
    split <;> rfl

lemma Polling.meet {D : Diary p} {demand : Demand p} (h : Polling limit ceiling D c) (hd : c.Sparing demand) :
    Polling limit ceiling D (c.meet demand) := by
  refine ⟨(polls_meet c demand).trans h.counted, (polls_meet c demand) ▸ h.below, fun s hs => ?_, h.settled⟩
  obtain ⟨hr, hl⟩ := h.leads s hs
  refine ⟨hr, hl.meet (hd.resolve_left ?_)⟩
  rw [h.counted]
  exact Nat.ne_of_gt (List.length_pos_of_mem hs)

lemma Polling.congr {D E : Diary p} (hk : Countable p) (h : Polling limit ceiling D c) (hf : E.finished = D.finished)
    (hp : d.polls = c.polls)
    (hl : ∀ x, (∀ seq, ∃ bytes, requestBytes x seq = .ok bytes) → c.Leads x → d.Leads x) :
    Polling limit ceiling E d := by
  have he : E.docket = D.docket := by rw [Diary.docket, Diary.docket, hf]
  refine ⟨by rw [hp, he, h.counted], hp ▸ h.below, fun s hs => ?_, he ▸ h.settled⟩
  obtain ⟨hr, hc⟩ := h.leads s (he ▸ hs)
  exact ⟨hr, hl _ (hr.encodes hk) hc⟩

lemma Polling.conclude {D : Diary p} {s : Service p} {e : Ending p} (hk : Pollable p)
    (h : Polling limit ceiling D c) (hr : ∀ r ∈ D.docket.pending, r.Round limit s.command)
    (hl : ∃ endings, s.endings = endings ++ [e]) (hs : ∃ n, 1 ≤ n ∧ n ≤ limit + 1 ∧ Sent s.command n s.effects)
    (ho : ceiling ≤ c.polls + 1 ∧ p.asksAgain e.session s.command = true ∧
        reports s.effects = faultEvents s.command .pollExhausted e.session ∨
      (p.asksAgain e.session s.command = false ∨
          ∃ reason detail, .failed p.device (p.name s.command) reason detail ∈ reports s.effects) ∧
        (reports s.effects).all (!·.isExhaustion) = true) :
    Concluded limit ceiling (D.docket.pending ++ [s]) := by
  have hb := h.below
  rw [h.counted] at hb ho
  have hw : s.wanted = p.asksAgain e.session s.command := by
    obtain ⟨endings, hl⟩ := hl
    simp [Service.wanted, hl]
  have hq : reports ((D.docket.pending ++ [s]).flatMap (·.effects)) = reports s.effects := by
    simp [reports_rounds hr]
  refine ⟨D.docket.pending, s, rfl, hr, by simp only [List.length_append, List.length_singleton]; omega, ?_, ?_⟩
  · refine sent_flatMap fun r hm => ?_
    rcases List.mem_append.mp hm with hm | hm
    · exact (hr r hm).sent.imp fun n hn => hn.2
    · obtain rfl := List.mem_singleton.mp hm
      exact hs.imp fun n hn => hn.2
  · rw [hq, hw]
    rcases ho with ⟨hc, ha, hf⟩ | ho
    · refine .inl ⟨by simp only [List.length_append, List.length_singleton]; omega, ha, ?_⟩
      rw [hf, faultEvents, (hk.givenUp ha _).1]
    · exact .inr ho

lemma Polling.left {D E : Diary p} {s : Service p} {e : Ending p} (hk : Pollable p)
    (h : Polling limit c.timing.maxPollAttempts D c) (hc : c.command = some o) (hb : b.command = none)
    (hf : E.finished = D.finished ++ [s]) (hs : s.command = o.item) (hl : ∃ endings, s.endings = endings ++ [e])
    (hr : reports s.effects = reports b.outbox) (hn : ∃ n, 1 ≤ n ∧ n ≤ limit + 1 ∧ Sent o.item n s.effects)
    (ho : c.Outcome o.item e.session b) : Polling limit c.timing.maxPollAttempts E b := by
  have hp : ∀ r ∈ D.docket.pending, r.Round limit s.command := by
    intro r hm
    obtain ⟨hx, hlead⟩ := h.leads r hm
    rwa [hs, hlead.item hc]
  have hE : E.docket = D.docket.file s := by rw [Diary.docket, Diary.docket, hf, docket_concat]
  have hw : s.fruitless = ((reports b.outbox).isEmpty && p.asksAgain e.session o.item) := by
    obtain ⟨endings, hl⟩ := hl
    simp [Service.fruitless, Service.wanted, hl, hr, hs]
  rw [← hs] at hn
  have finish (hz : b.polls = 0) (hq : s.fruitless = false) (hd : Concluded limit c.timing.maxPollAttempts
      (D.docket.pending ++ [s])) : Polling limit c.timing.maxPollAttempts E b := by
    have hE : E.docket = ⟨[], D.docket.settled ++ [D.docket.pending ++ [s]]⟩ := by
      rw [hE, Docket.file, hq]
      rfl
    refine ⟨by rw [hz, hE]; rfl, by rw [hz]; exact Nat.zero_lt_of_lt h.below, by simp [hE], fun poll hm => ?_⟩
    rw [hE] at hm
    rcases List.mem_append.mp hm with hm | hm
    · exact h.settled poll hm
    · exact List.mem_singleton.mp hm ▸ hd
  cases ho with
  | requeued ha hlt hp' hq ho =>
    have hz : s.fruitless = true := by simp [hw, ho, ha]
    have hE : E.docket = { D.docket with pending := D.docket.pending ++ [s] } := by rw [hE, Docket.file, if_pos hz]
    have hlead : b.Leads s.command := hs ▸ leads_pushFront hb hq
    refine ⟨by simp [hE, hp', h.counted], hp' ▸ hlt, fun r hm => ?_, fun poll hm => ?_⟩
    · rw [hE] at hm
      rcases List.mem_append.mp hm with hm | hm
      · have hr := hp r hm
        exact ⟨hr.command.symm ▸ hr, hr.command.symm ▸ hlead⟩
      · obtain rfl := List.mem_singleton.mp hm
        exact ⟨⟨rfl, hn, hz⟩, hlead⟩
    · rw [hE] at hm
      exact h.settled poll hm
  | exhausted ha hlt hp' hs' ho =>
    apply finish hp' (by simp [hw, ho, faultEvents])
    exact h.conclude hk hp hl hn (.inl ⟨hlt, hs ▸ ha, by rw [hr, ho, hs]⟩)
  | closed hp' ha ho =>
    refine finish hp' ?_ (h.conclude hk hp hl hn (.inr ⟨by rw [hr, hs]; exact ha, hr ▸ ho⟩))
    rw [hw]
    rcases ha with ha | ⟨reason, detail, hm⟩
    · rw [ha, Bool.and_false]
    · rw [List.isEmpty_eq_false_iff.mpr (List.ne_nil_of_mem hm), Bool.false_and]

theorem Polling.call {D : Diary p} {call : Call} (hk : Pollable p) (h : Polling limit c.timing.maxPollAttempts D c)
    (hv : Visit limit now D c call) :
    Polling limit c.timing.maxPollAttempts (D.call now c call) (c.step now call.input).2 := by
  have hp := (takeUpWork_desk now (c.attend now call)).2
  suffices hs : Polling limit c.timing.maxPollAttempts (D.call now c call) ((c.attend now call).takeUpWork now) by
    rw [step_eq, during_eq]
    exact ⟨hs.counted, hs.below, hs.leads, hs.settled⟩
  have settle {E : Diary p} (hb : Polling limit c.timing.maxPollAttempts E (c.attend now call)) :
      Polling limit c.timing.maxPollAttempts E ((c.attend now call).takeUpWork now) :=
    hb.congr hk.countable rfl hp fun x he hl => hl.takeUpWork now he
  apply settle
  cases hv with
  | vacant hc hv hf =>
    exact h.congr hk.countable hf hv.polls fun x _ hl => hl.congr (hv.command.trans hc.symm) hv.waiting
  | kept hc hb hs hf =>
    obtain ⟨-, hq, hp, -⟩ := of_shelf hs
    exact h.congr hk.countable hf hp fun x _ hl => hl.congr (hb.trans hc.symm) (congrArg (·.commands) hq)
  | left hc hb hf hs hl hr hn ho => exact h.left hk hc hb hf hs hl hr hn ho

theorem Visit.exhausted {D : Diary p} {call : Call} (hk : Pollable p) (h : Visit limit now D c call)
    (hx : (reports (c.step now call.input).1).any (·.isExhaustion) = true) (x : p.Command) :
    p.asksAgain (c.step now call.input).2.session x = false := by
  have hs := (takeUpWork_desk now (c.attend now call)).1
  have quiet {events : List Event} (hf : events.filter (·.isFault) = []) : events.any (·.isExhaustion) = false := by
    simpa using Event.isExhaustion_of_faultless hf
  rw [step_eq, during_eq] at hx ⊢
  change (reports ((c.attend now call).takeUpWork now).outbox).any _ = true at hx
  change p.asksAgain ((c.attend now call).takeUpWork now).session x = false
  have begun (hb : (c.attend now call).command = none) :
      (reports (c.attend now call).outbox).any (·.isExhaustion) = true := by
    obtain ⟨news, hn⟩ := takeUpWork_begins now (c.attend now call) (by simp [hb])
    rw [hn.outbox, reports_append, List.any_append, quiet hn.faultless, Bool.or_false] at hx
    exact hx
  cases h with
  | vacant hc hv hf =>
    have hb := begun hv.command
    simp [quiet hv.faultless] at hb
  | kept hc hb hs hf he hr => simp [hr] at hx
  | left hc hb hf hs' hl hr hn ho =>
    have hx := begun hb
    cases ho with
    | requeued ha hlt hp hq ho => simp [ho] at hx
    | exhausted ha hlt hp hs' ho =>
      rw [hs, hs']
      exact (hk.givenUp ha _).2 x
    | closed hp ha ho =>
      obtain ⟨event, hm, he⟩ := List.any_eq_true.mp hx
      have hn := List.all_eq_true.mp ho event hm
      simp [he] at hn

end Controller

variable {start : Controller p} {waiting : List Bytes} {ts : List (Turn p)}

lemma Drive.visit {later : Nat} {call : Call} (hk : Pollable p) (h : Drive start ts now waiting)
    (hs : ∀ now, start.Rested limit now 0) (hc : start.command = none) (hn : now ≤ later) (hi : call.InTurn waiting) :
    Controller.Visit limit later (start.diary {} ts) (start.after ts) call := by
  have hd : Driven start later waiting (start.after ts) := ⟨ts, h.later hn, rfl⟩
  exact (h.serving hk.countable hs hc).visit hk (hd.rested hs) hi

theorem Drive.polling (hk : Pollable p) (hs : ∀ now, start.Rested limit now 0) (hc : start.command = none)
    (turns : List (Turn p)) (h : Drive start ts now waiting)
    (hp : Controller.Polling limit start.timing.maxPollAttempts (start.diary {} ts) (start.after ts))
    (ho : (start.after ts).Orderly Controller.Sparing now waiting turns) :
    (∃ later rest, Drive start (ts ++ turns) later rest) ∧
      Controller.Polling limit start.timing.maxPollAttempts (start.diary {} (ts ++ turns))
        (start.after (ts ++ turns)) := by
  induction turns generalizing ts now waiting with
  | nil => simpa only [List.append_nil] using ⟨⟨now, waiting, h⟩, hp⟩
  | cons t turns ih =>
    rw [List.append_cons]
    cases t with
    | demand demand =>
      refine ih (h.demand demand) ?_ ?_ <;> rw [Controller.after_concat]
      · rw [diary_demand]
        exact hp.meet ho.1
      · exact ho.2
    | call later call =>
      obtain ⟨hn, hi, ho⟩ := ho
      refine ih ((h.later hn).call call hi) ?_ ?_ <;> rw [Controller.after_concat]
      · rw [← Controller.after_timing start ts] at hp ⊢
        rw [diary_call]
        exact hp.call hk (h.visit hk hs hc hn hi)
      · exact ho

theorem Drive.hushed {later : Nat} {call : Call} {rest : List (Turn p)} (hk : Pollable p)
    (hs : ∀ now, start.Rested limit now 0) (hc : start.command = none) (before : List (Turn p))
    (h : Drive start ts now waiting)
    (ho : (start.after ts).Orderly Controller.Sparing now waiting (before ++ .call later call :: rest))
    (hx : (reports ((start.after (ts ++ before)).step later call.input).1).any (·.isExhaustion) = true)
    (x : p.Command) : p.asksAgain ((start.after (ts ++ before)).step later call.input).2.session x = false := by
  induction before generalizing ts now waiting with
  | nil =>
    rw [List.append_nil] at hx ⊢
    exact (h.visit hk hs hc ho.1 ho.2.1).exhausted hk hx x
  | cons t before ih =>
    rw [List.append_cons] at hx ⊢
    cases t with
    | demand demand => exact ih (h.demand demand) (by rw [Controller.after_concat]; exact ho.2) hx
    | call later call =>
      exact ih ((h.later ho.1).call call ho.2.1) (by rw [Controller.after_concat]; exact ho.2.2) hx

end Exchange

open Exchange

namespace Antenna

lemma asksAgain_stopped {s : Session} (h : s.scanning = false) (command : Command) : s.asksAgain command = false := by
  simp [Session.asksAgain, h]

lemma pollable (settings : Settings.Antenna) : Pollable (peripheral settings) where
  countable := countable settings
  resolved {session command frame events followUps} hv := by
    change Session.asksAgain (session.judge settings.minOkTimes command frame).2 command = false
    have hs := ((resolved_judge settings.minOkTimes session command frame).of_answered hv).2
    by_cases hc : command = .forceGetUnit
    · subst hc
      simp [Session.asksAgain, hs, Command.endsScan]
    · simp only [Session.asksAgain, decide_eq_false_iff_not, not_and]
      exact fun h => absurd h hc
  givenUp {session command} ha reason := by
    obtain ⟨rfl, -⟩ : command = .forceGetUnit ∧ session.scanning = true := by
      simpa [peripheral, Session.asksAgain] using ha
    exact ⟨rfl, asksAgain_stopped rfl⟩

end Antenna

namespace CardReader

lemma pollable : Pollable peripheral where
  countable := countable
  resolved {session command frame events followUps} hv := by
    change Session.asksAgain (session.judge command frame).2 command = false
    have hs := ((resolved_judge session command frame).of_answered hv).2
    by_cases hc : command = .detectCard
    · subst hc
      simp [Session.asksAgain, hs, Command.isPoll]
    · simp only [Session.asksAgain, decide_eq_false_iff_not, not_and]
      exact fun h => absurd h hc
  givenUp {session command} ha reason := by
    obtain ⟨rfl, -⟩ : command = .detectCard ∧ session.scanning = true := by
      simpa [peripheral, Session.asksAgain] using ha
    exact ⟨rfl, fun other => by simp [peripheral, Session.asksAgain, Session.giveUp, Session.stopScanning]⟩

end CardReader

namespace PaymentReader

lemma pollable (key : LoginBlock) : Pollable (peripheral key) where
  countable := countable key
  resolved {session command frame events followUps} hv := by
    change Session.asksAgain (session.judge key command frame).2 command = false
    have hs := ((resolved_judge key session command frame).of_answered hv).2
    simp only [Session.asksAgain, hs]
    cases command.needsCard with
    | false => exact Bool.false_and _
    | true => exact Bool.and_false _
  givenUp {session command} ha reason := by
    obtain ⟨hc, -⟩ : command.needsCard = true ∧ session.scanning = true := by
      simpa [peripheral, Session.asksAgain] using ha
    cases command with
    | getCardId | getCardBalance | deduct =>
      exact ⟨rfl, fun other => by
        simp [peripheral, Session.asksAgain, Session.giveUp, Command.needsCard, Session.stopScanning]⟩
    | _ => cases hc

end PaymentReader

namespace Exchange

lemma Fitting.pollable (f : Fitting) : Pollable f.peripheral := by
  cases f with
  | antenna settings => exact Antenna.pollable settings
  | cardReader => exact CardReader.pollable
  | paymentReader key => exact PaymentReader.pollable key

lemma Controller.polling_fresh (session : p.Session) {timing : Settings.Timing} (hp : 1 ≤ timing.maxPollAttempts) :
    Controller.Polling timing.maxRetries timing.maxPollAttempts {} (.fresh p session timing) :=
  ⟨rfl, hp, nofun, nofun⟩

/-- A command that is polled for in vain is asked again, before all others, until the cycles without a result are as
many as the ceiling. Then one fault says so, and nothing is asked again; no other fault says it. -/
theorem poll_ceiling (f : Fitting) (session : f.peripheral.Session) (timing : Settings.Timing)
    (hp : 1 ≤ timing.maxPollAttempts) (turns : List (Turn f.peripheral))
    (h : (Controller.fresh f.peripheral session timing).Orderly Controller.Sparing 0 [] turns) :
    let start := Controller.fresh f.peripheral session timing
    let d := start.diary {} turns
    d.Covers (start.run turns).1 ∧ d.docket.settled.flatten ++ d.docket.pending = d.finished ∧
      (reports d.others).filter (·.isFault) = [] ∧ (∀ s, d.current = some s → reports s.effects = []) ∧
      Controller.Polling timing.maxRetries timing.maxPollAttempts d (start.run turns).2 ∧
      ∀ before later call after, turns = before ++ .call later call :: after →
        (reports ((start.run before).2.step later call.input).1).any (·.isExhaustion) = true →
        ∀ x, f.peripheral.asksAgain ((start.run before).2.step later call.input).2.session x = false := by
  have hs (now : Nat) : (Controller.fresh f.peripheral session timing).Rested timing.maxRetries now 0 :=
    Controller.rested_fresh session timing
  obtain ⟨⟨later, rest, hl⟩, hpoll⟩ :=
    Drive.polling f.pollable hs rfl turns (.start 0) (Controller.polling_fresh session hp) h
  have hv := hl.serving f.countable hs rfl
  refine ⟨covers_diary _ turns, Diary.docket_all _, hv.sound.faultless, fun s hd => ?_, hpoll, ?_⟩
  · cases hc : ((Controller.fresh f.peripheral session timing).after turns).command with
    | none => cases (hv.vacant hc).symm.trans hd
    | some o =>
      obtain ⟨-, t, ht, -, -, hlast⟩ := hv.served o hc
      cases ht.symm.trans hd
      exact hlast.silent
  · rintro before later call after rfl hx
    exact Drive.hushed f.pollable hs rfl before (.start 0) h hx

def failedDetection : List (Turn CardReader.peripheral) :=
  [.demand (.instruct CardReader.Session.startScanning), .demand (.submit CardReader.Command.detectCard),
    .call 0 .woken, .call 0 (.wrote (.failed "unplugged")), .call 0 (.wrote (.failed "unplugged"))]

theorem detection_exhausted :
    let timing : Settings.Timing := { maxRetries := 0, maxPollAttempts := 2 }
    let start := Controller.fresh CardReader.peripheral {} timing
    let d := start.diary {} failedDetection
    reports (start.run failedDetection).1 = [.fault .cardReader "DetectCard" .pollExhausted] ∧
      d.docket.settled.map (·.length) = [2] ∧
      ∀ poll ∈ d.docket.settled, Concluded 0 2 poll := by
  have h := poll_ceiling .cardReader {} { maxRetries := 0, maxPollAttempts := 2 } (by decide) failedDetection (by
    refine ⟨.inl rfl, .inl rfl, Nat.le_refl 0, ?_, Nat.le_refl 0, ?_, Nat.le_refl 0, ?_, trivial⟩ <;> decide +kernel)
  exact ⟨by decide +kernel, by decide +kernel, h.2.2.2.2.1.settled⟩

end Exchange

end ParkingStation
