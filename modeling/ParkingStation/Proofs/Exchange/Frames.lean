import ParkingStation.Proofs.Exchange.Moves

/-! What each step of a controller leaves alone. -/

namespace ParkingStation.Exchange.Controller

variable {p : Peripheral} {now : Nat} {c : Controller p}

def SameLine (c d : Controller p) : Prop :=
  ∃ (session : p.Session) (queue : WorkQueue p.Command p.Chunk) (polls : Nat) (events : List Event),
    d = { c with session := session, queue := queue, polls := polls, outbox := c.outbox ++ events.map .report }

lemma SameLine.trans {d e : Controller p} (h : c.SameLine d) (k : d.SameLine e) : c.SameLine e := by
  obtain ⟨_, _, _, events, rfl⟩ := h
  obtain ⟨session, queue, polls, more, rfl⟩ := k
  exact ⟨session, queue, polls, events ++ more, by simp⟩

lemma transmitSpaced_cases (now : Nat) (bytes : Bytes) (c : Controller p) :
    c.timers.writeWait now = none ∧ c.transmitSpaced now bytes = c.transmit bytes ∨
      ∃ wait, c.timers.writeWait now = some wait ∧
        c.transmitSpaced now bytes = { c with timers := c.timers.holdWrite (now + wait), held := some bytes } := by
  unfold transmitSpaced
  cases h : c.timers.writeWait now with
  | none => exact .inl ⟨rfl, rfl⟩
  | some wait => exact .inr ⟨wait, rfl, rfl⟩

lemma followUps_frame (commands : List p.Command) (c : Controller p) :
    commands.foldl (fun c command => c.pushFront command) c =
      { c with queue := commands.foldl (fun queue command => (queue.pushFront command).2) c.queue } := by
  induction commands generalizing c with
  | nil => rfl
  | cons command commands ih => exact ih (c.pushFront command)

lemma abandon_frame (c : Controller p) (command : p.Command) (reason : Reason) :
    c.abandon command reason =
      { c with
        session := (p.giveUp c.session command reason).2
        polls := 0
        outbox := c.outbox ++
          (.fault p.device (p.name command) reason :: (p.giveUp c.session command reason).1).map .report } := by
  simp [abandon, report, reportAll]

lemma abandon_sameLine (c : Controller p) (command : p.Command) (reason : Reason) :
    c.SameLine (c.abandon command reason) :=
  ⟨_, c.queue, 0, _, abandon_frame c command reason⟩

lemma askAgain_sameLine (c : Controller p) (command : p.Command) : c.SameLine (c.askAgain command) := by
  simp only [askAgain]
  split
  · split
    · exact ⟨_, c.queue, 0, _, abandon_frame _ _ _⟩
    · exact ⟨c.session, (c.queue.pushFront command).2, c.polls + 1, [], by simp [pushFront]⟩
  · exact ⟨c.session, c.queue, 0, [], by simp⟩

lemma repeatOrAbandon_cases (reason : Reason) (detail : String) (c : Controller p) :
    c.repeatOrAbandon reason detail = c ∧ (∀ o, c.command = some o → o.sends ≤ c.timing.maxRetries) ∧
        (c.command = none → ∀ o, c.chunk = some o → o.sends ≤ c.timing.maxRetries) ∨
      (∃ o, c.command = some o ∧ SameLine { c with command := none } (c.repeatOrAbandon reason detail)) ∨
      c.command = none ∧ c.repeatOrAbandon reason detail = c.abortUpload reason detail := by
  cases hc : c.command with
  | some o =>
    by_cases hs : o.sends ≤ c.timing.maxRetries
    · exact .inl ⟨by simp [repeatOrAbandon, hc, hs], by simpa using hs, by simp⟩
    · refine .inr (.inl ⟨o, rfl, ?_⟩)
      simp only [repeatOrAbandon, hc, hs, if_false]
      split
      · exact askAgain_sameLine _ _
      · exact abandon_sameLine _ _ _
  | none =>
    cases hk : c.chunk with
    | none => exact .inl ⟨by simp [repeatOrAbandon, hc, hk], by simp, by simp⟩
    | some o =>
      by_cases hs : o.sends ≤ c.timing.maxRetries
      · exact .inl ⟨by simp [repeatOrAbandon, hc, hk, hs], by simp, by simpa using hs⟩
      · exact .inr (.inr ⟨rfl, by simp [repeatOrAbandon, hc, hk, hs]⟩)

lemma sendRequest_ok {o : Ongoing p.Command} {bytes : Bytes} (hc : c.command = some o)
    (hb : requestBytes o.item (nextSequence c.seq) = .ok bytes) :
    c.sendRequest now =
      { c with command := some ⟨o.item, o.sends + 1⟩, seq := nextSequence c.seq }.transmitSpaced now bytes := by
  simp [sendRequest, hc, hb]

lemma sendRequest_error {o : Ongoing p.Command} {err : Error} (hc : c.command = some o)
    (hb : requestBytes o.item (nextSequence c.seq) = .error err) :
    c.sendRequest now =
      ({ c with command := none, seq := nextSequence c.seq }.advance .writeFailed).report
        (.failed p.device (p.name o.item) err.reason err.message) := by
  simp [sendRequest, hc, hb]

lemma sendPiece_ok {o : Ongoing p.Chunk} {bytes : Bytes} (hk : c.chunk = some o)
    (hb : chunkBytes o.item (nextSequence c.seq) = .ok bytes) :
    c.sendPiece now =
      { c with chunk := some ⟨o.item, o.sends + 1⟩, seq := nextSequence c.seq }.transmitSpaced now bytes := by
  simp [sendPiece, hk, hb]

lemma sendPiece_error {o : Ongoing p.Chunk} {err : Error} (hk : c.chunk = some o)
    (hb : chunkBytes o.item (nextSequence c.seq) = .error err) :
    c.sendPiece now =
      ({ c with chunk := some ⟨o.item, o.sends + 1⟩, seq := nextSequence c.seq }.advance .writeFailed).abortUpload
        err.reason err.message := by
  simp [sendPiece, hk, hb]

def answered (c : Controller p) : Controller p :=
  ({ c with command := none }.advance .responseReceived).markAnswered.closeCycle

def conclude (o : Ongoing p.Command) (session : p.Session) (c : Controller p) : Verdict p.Command → Controller p
  | .unrelated _ => { c with session := session }
  | .answered events followUps =>
    followUps.reverse.foldl (fun c command => c.pushFront command)
      ({ c.answered with session := session, polls := 0 }.reportAll events)
  | .unready events => ({ c.answered with session := session }.reportAll events).askAgain o.item
  | .refused reason detail events =>
    ({ c.answered with session := session, polls := 0 }.report
      (.failed p.device (p.name o.item) reason detail)).reportAll events
  | .again reason detail => { c.answered with session := session, command := some o }.repeatOrAbandon reason detail

lemma takeReply_eq {o : Ongoing p.Command} {frame : p.Frame} {verdict : Verdict p.Command} {session : p.Session}
    (hc : c.command = some o) (hv : p.judge c.session o.item frame = (verdict, session)) :
    c.takeReply frame = c.conclude o session verdict := by
  simp only [takeReply, hc, hv]
  cases verdict <;> simp only [conclude, hc] <;> rfl

lemma conclude_cases (o : Ongoing p.Command) (session : p.Session) (verdict : Verdict p.Command) :
    (∃ detail, verdict = .unrelated detail) ∧ c.conclude o session verdict = { c with session := session } ∨
      c.answered.SameLine (c.conclude o session verdict) ∨
      ∃ reason detail, c.conclude o session verdict =
        { c.answered with session := session, command := some o }.repeatOrAbandon reason detail := by
  cases verdict with
  | unrelated detail => exact .inl ⟨⟨detail, rfl⟩, rfl⟩
  | answered events followUps =>
    have hf := followUps_frame followUps.reverse ({ c.answered with session := session, polls := 0 }.reportAll events)
    exact .inr (.inl ⟨session, _, 0, events, hf⟩)
  | unready events =>
    refine .inr (.inl (SameLine.trans ?_ (askAgain_sameLine _ _)))
    exact ⟨session, c.queue, c.polls, events, rfl⟩
  | refused reason detail events =>
    refine .inr (.inl ⟨session, c.queue, 0, .failed p.device (p.name o.item) reason detail :: events, ?_⟩)
    simp [conclude, report, reportAll, answered, advance, markAnswered, closeCycle]
  | again reason detail => exact .inr (.inr ⟨reason, detail, rfl⟩)

lemma phase_advance {trigger : Trigger} {source target : Phase} (h : c.phase = source)
    (hn : source.next? p.acknowledged trigger = some target) : (c.advance trigger).phase = target := by
  subst h
  simp only [phase] at hn
  simp [advance, phase, Machine.phase_advance, hn]

lemma phase_sameLine {d : Controller p} (h : c.SameLine d) : d.phase = c.phase := by
  obtain ⟨_, _, _, _, rfl⟩ := h
  rfl

lemma phase_repeatOrAbandon (reason : Reason) (detail : String) (c : Controller p) :
    (c.repeatOrAbandon reason detail).phase = c.phase := by
  rcases repeatOrAbandon_cases reason detail c with ⟨he, -⟩ | ⟨o, -, hd⟩ | ⟨-, he⟩
  · rw [he]
  · exact (phase_sameLine hd).trans rfl
  · rw [he]
    rfl

lemma phase_takeReply {o : Ongoing p.Command} {frame : p.Frame} (hp : c.phase = .waitingResponse)
    (hc : c.command = some o) (hv : ∀ detail, (p.judge c.session o.item frame).1 ≠ .unrelated detail) :
    (c.takeReply frame).phase = .idle := by
  have hi : c.answered.phase = .idle := phase_advance (c := { c with command := none }) hp rfl
  rw [takeReply_eq hc rfl]
  rcases conclude_cases o (p.judge c.session o.item frame).2 (p.judge c.session o.item frame).1 with
    ⟨⟨detail, he⟩, -⟩ | hd | ⟨reason, detail, he⟩
  · exact absurd he (hv detail)
  · exact (phase_sameLine hd).trans hi
  · rw [he, phase_repeatOrAbandon]
    exact hi

lemma judgement_idle (now : Nat) (h : c.phase = .idle) (item : Framing.Item p.Frame) :
    c.judgement? item = none ∧ (c.takeItem now item).phase = .idle := by
  cases item with
  | frame frame =>
    have hn : c.phase.next? p.acknowledged .responseReceived = none := by rw [h]; rfl
    simp [judgement?, takeItem, h, advance_unknown hn]
  | corrupt fault => simp [judgement?, takeItem, h]
  | ack => simp [judgement?, takeItem, takeAck_refused, h]
  | nak => simp [judgement?, takeItem, takeNak, accepts, h, Phase.next?]

lemma judgedItems_idle (h : c.phase = .idle) (items : List (Framing.Item p.Frame)) : c.judgedItems now items = [] := by
  induction items generalizing c with
  | nil => rfl
  | cons item items ih =>
    obtain ⟨hj, hp⟩ := judgement_idle now h item
    rw [judgedItems, hj, ih hp]
    rfl

theorem judgedItems_unrelated (items : List (Framing.Item p.Frame)) (c : Controller p) {j : Judgement p}
    (hj : j ∈ (c.judgedItems now items).dropLast) : ∃ detail, j.verdict = .unrelated detail := by
  induction items generalizing c with
  | nil => cases hj
  | cons item items ih =>
    rw [judgedItems] at hj
    cases hk : c.judgement? item with
    | none =>
      rw [hk] at hj
      exact ih _ hj
    | some k =>
      cases item with
      | frame frame =>
        obtain ⟨hp, o, hc, rfl⟩ : c.phase = .waitingResponse ∧ ∃ o, c.command = some o ∧
            Judgement.mk c.session o.item frame = k := by simpa [judgement?] using hk
        by_cases hv : ∃ detail, (p.judge c.session o.item frame).1 = .unrelated detail
        · rw [hk] at hj
          cases hr : (c.takeItem now (.frame frame)).judgedItems now items with
          | nil => simp [hr] at hj
          | cons i is =>
            rw [hr, Option.toList_some, List.singleton_append, List.dropLast_cons_cons, List.mem_cons] at hj
            rcases hj with rfl | hj
            · exact hv
            · exact ih _ (hr ▸ hj)
        · have hi : (c.takeItem now (.frame frame)).phase = .idle := by
            simp only [takeItem, hp, if_true]
            exact phase_takeReply hp hc fun detail he => hv ⟨detail, he⟩
          rw [hk, judgedItems_idle hi] at hj
          cases hj
      | corrupt | ack | nak => cases hk

theorem judged_unrelated {input : Input} {j : Judgement p} (hj : j ∈ (c.judged now input).dropLast) :
    ∃ detail, j.verdict = .unrelated detail := by
  cases input with
  | bytes data => exact judgedItems_unrelated _ _ hj
  | tick =>
    simp only [judged] at hj
    split at hj
    · exact judgedItems_unrelated _ _ hj
    · cases hj
  | woken | wrote | disconnected => cases hj

end ParkingStation.Exchange.Controller
