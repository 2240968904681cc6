import ParkingStation.Proofs.Exchange.Uploads

/-! Every handler of a controller keeps to the protocol of its upload. -/

namespace ParkingStation.Exchange.Controller

open Framing

variable {p : Peripheral} {isPiece : Bytes → Bool} {limit now : Nat} {t : Option (Transfer p)} {c d : Controller p}

lemma reaches_abortUpload {o : Ongoing p.Chunk} (reason : Reason) (detail : String) (hv : Conveys t c)
    (hk : c.chunk = some o) (hh : c.held = none) (hm : (c.abortUpload reason detail).Matched limit) :
    Reaches isPiece limit t c (c.abortUpload reason detail) := by
  obtain ⟨u, rfl, hd, -⟩ := hv.under_way hk
  have hn : c.chunksDone = u.accepted := hv.2.1
  have hh : (c.abortUpload reason detail).held = none := hh
  refine ⟨[.report (.uploadFailed p.device c.chunksDone reason detail)], none, rfl, ?_, hm, ⟨rfl, rfl, rfl, rfl⟩,
    fun _ => hh, by simp [hh], nofun⟩
  rw [hn]
  exact (UploadStep.failed reason detail hd).steps

lemma Conveys.resend {o : Ongoing p.Chunk} {sends : Nat} (h : Conveys t c) (hk : c.chunk = some o)
    (hd : d.chunk = some ⟨o.item, sends⟩) (hq : d.queue = c.queue) (hn : d.chunksDone = c.chunksDone) :
    Conveys t d := by
  cases t <;> simp_all [Conveys]

lemma Conveys.wrote {u : Transfer p} {o : Ongoing p.Chunk} (h : Conveys (some u) c) (hk : c.chunk = some o) :
    Conveys (some { u with writes := u.writes + 1 }) c := by
  obtain ⟨ha, hn, hd, hl, -⟩ := h
  exact ⟨ha, hn, hd, hl, by simp [hk]⟩

lemma agrees_sent {u : Transfer p} {o : Ongoing p.Chunk} (hm : d.Matched limit)
    (hv : Conveys (some u) d) (hk : d.chunk = some o) (hp : d.phase ≠ .idle)
    (hh : ∀ bytes, d.held = some bytes → ∃ seq, chunkBytes o.item seq = .ok bytes)
    (hw : u.writes + d.held.toList.length ≤ o.sends) : Agrees isPiece limit (some u) d where
  matched := hm
  conveys := hv
  rested hi := absurd hi hp
  held bytes hb := ⟨by simp [hk], fun o' ho => by cases hk.symm.trans ho; exact hh bytes hb⟩
  writes v hu o' ho := by
    cases hu
    cases hk.symm.trans ho
    exact hw

lemma reaches_sendPiece (hs : Separates p isPiece) {o : Ongoing p.Chunk} (hv : Conveys t c) (hk : c.chunk = some o)
    (hp : c.phase = .sendingChunk) (hh : c.held = none) (hw : ∀ u ∈ t, u.writes ≤ o.sends) (hl : o.sends ≤ limit)
    (hm : (c.sendPiece now).Matched limit) : Reaches isPiece limit t c (c.sendPiece now) := by
  cases hb : chunkBytes o.item (nextSequence c.seq) with
  | ok bytes =>
    have hi : (c.sendPiece now).phase ≠ .idle := by
      rw [sendPiece_ok hk hb, phase_transmitSpaced]
      change c.phase ≠ .idle
      simp [hp]
    rw [sendPiece_ok hk hb] at hm hi ⊢
    obtain ⟨u, rfl, hd, -⟩ := hv.under_way hk
    have hw : u.writes ≤ o.sends := hw u rfl
    rcases transmitSpaced_cases now bytes { c with chunk := some ⟨o.item, o.sends + 1⟩, seq := nextSequence c.seq } with
      ⟨-, he⟩ | ⟨wait, -, he⟩ <;> rw [he] at hm hi ⊢
    · have hf := (UploadStep.written hd hb (hs.chunk hb) (Nat.le_trans hw hl)).steps
      refine ⟨[.transmit bytes], _, rfl, hf, agrees_sent hm ?_ rfl hi ?_ ?_⟩
      · refine Conveys.wrote ?_ rfl
        exact hv.resend hk rfl rfl rfl
      · simp [transmit, hh]
      · simpa [transmit, hh] using hw
    -- Held back, the chunk counts as sent before it is written.
    · refine ⟨[], _, (List.append_nil _).symm, .nil, agrees_sent hm (hv.resend hk rfl rfl rfl) rfl hi ?_ ?_⟩
      · rintro _ ⟨⟩
        exact ⟨_, hb⟩
      · simpa using! hw
  | error err =>
    rw [sendPiece_error hk hb] at hm ⊢
    exact reaches_abortUpload (c := { c with chunk := some ⟨o.item, o.sends + 1⟩, seq := nextSequence c.seq }.advance
      .writeFailed) _ _ (hv.resend hk rfl rfl rfl) rfl hh hm

lemma agrees_without {t : Option (Transfer p)} (hm : d.Matched limit) (hv : Conveys t d) (hk : d.chunk = none)
    (hr : d.phase = .idle → d.held = none) (hh : ∀ bytes, d.held = some bytes → isPiece bytes = false) :
    Agrees isPiece limit t d :=
  ⟨hm, hv, hr, fun bytes hb => ⟨fun _ => hh bytes hb, by simp [hk]⟩, by simp [hk]⟩

lemma reaches_transmitSpaced {bytes : Bytes} (hv : Conveys t c) (hk : c.chunk = none) (hp : c.phase ≠ .idle)
    (hh : ∀ bytes, c.held = some bytes → isPiece bytes = false) (hb : isPiece bytes = false)
    (hm : (c.transmitSpaced now bytes).Matched limit) : Reaches isPiece limit t c (c.transmitSpaced now bytes) := by
  have hi : (c.transmitSpaced now bytes).phase ≠ .idle := by rwa [phase_transmitSpaced]
  rcases transmitSpaced_cases now bytes c with ⟨-, he⟩ | ⟨wait, -, he⟩ <;> rw [he] at hm hi ⊢
  · have hf : UploadSteps isPiece limit t [.effect (.transmit bytes)] t := (UploadStep.other hb (hv.untouched hk)).steps
    exact ⟨[.transmit bytes], t, rfl, hf, agrees_without hm (hv.congr rfl) hk (absurd · hi) hh⟩
  · refine ⟨[], t, (List.append_nil _).symm, .nil, agrees_without hm (hv.congr rfl) hk (absurd · hi) ?_⟩
    rintro _ ⟨⟩
    exact hb

lemma reaches_sendRequest (hs : Separates p isPiece) {o : Ongoing p.Command} (hv : Conveys t c)
    (hc : c.command = some o) (hk : c.chunk = none) (hp : c.phase = .sendingRequest) (hh : c.held = none)
    (hm : (c.sendRequest now).Matched limit) : Reaches isPiece limit t c (c.sendRequest now) := by
  cases hb : requestBytes o.item (nextSequence c.seq) with
  | ok bytes =>
    rw [sendRequest_ok hc hb] at hm ⊢
    have hi : c.phase ≠ .idle := by simp [hp]
    exact reaches_transmitSpaced (c := { c with command := some ⟨o.item, o.sends + 1⟩, seq := nextSequence c.seq })
      (hv.congr rfl) hk hi (by simp [hh]) (hs.request hb) hm
  | error err =>
    rw [sendRequest_error hc hb] at hm ⊢
    exact ⟨[.report (.failed p.device (p.name o.item) err.reason err.message)], t, rfl, (UploadStep.reported rfl).steps,
      agrees_without hm (hv.congr rfl) hk (fun _ => hh) (by simp [advance, report, hh])⟩

structure Aside (c d : Controller p) : Prop where
  upload : d.upload = c.upload
  held : d.held = c.held
  outbox : ∃ events : List Event, (∀ event ∈ events, event.isUpload = false) ∧
    d.outbox = c.outbox ++ events.map .report

lemma Aside.trans {e : Controller p} (h : c.Aside d) (k : d.Aside e) : c.Aside e := by
  obtain ⟨hu, hh, events, he, ho⟩ := h
  obtain ⟨hu', hh', more, hm, ho'⟩ := k
  refine ⟨hu'.trans hu, hh'.trans hh, events ++ more, ?_, by simp [ho', ho]⟩
  simpa [or_imp, forall_and] using And.intro he hm

lemma aside_abandon (hs : Separates p isPiece) (c : Controller p) (command : p.Command) (reason : Reason) :
    c.Aside (c.abandon command reason) := by
  rw [abandon_frame]
  refine ⟨rfl, rfl, _, ?_, rfl⟩
  rintro event (- | ⟨_, he⟩)
  · rfl
  · exact hs.giveUp _ _ _ event he

lemma upload_pushFront (command : p.Command) (c : Controller p) : (c.pushFront command).upload = c.upload := by
  simp only [pushFront, WorkQueue.pushFront]
  split <;> rfl

lemma aside_pushFront (command : p.Command) (c : Controller p) : c.Aside (c.pushFront command) :=
  ⟨upload_pushFront command c, rfl, [], by simp, by simp [pushFront]⟩

lemma aside_followUps (commands : List p.Command) (c : Controller p) :
    c.Aside (commands.foldl (fun c command => c.pushFront command) c) := by
  induction commands generalizing c with
  | nil => exact ⟨rfl, rfl, [], by simp, by simp⟩
  | cons command commands ih => exact (aside_pushFront command c).trans (ih _)

lemma aside_askAgain (hs : Separates p isPiece) (command : p.Command) (c : Controller p) :
    c.Aside (c.askAgain command) := by
  have aside (polls : Nat) : c.Aside { c with polls := polls } := ⟨rfl, rfl, [], by simp, by simp⟩
  simp only [askAgain]
  split
  · split
    · exact (aside _).trans (aside_abandon hs _ command .pollExhausted)
    · exact (aside _).trans (aside_pushFront command _)
  · exact aside 0

lemma Aside.reaches (h : c.Aside d) (hv : Conveys t c) (hk : c.chunk = none) (hh : c.held = none)
    (hm : d.Matched limit) : Reaches isPiece limit t c d := by
  obtain ⟨hu, hd, events, he, ho⟩ := h
  have hk : d.chunk = none := (congrArg (·.2.2.1) hu).trans hk
  have hh : d.held = none := hd.trans hh
  exact ⟨_, t, ho, steps_reports he, agrees_without hm (hv.congr hu) hk (fun _ => hh) (by simp [hh])⟩

lemma agrees_closed (hm : c.Matched limit) (hv : Conveys t c) (hh : c.held = none)
    (hw : ∀ u ∈ t, ∀ o, c.chunk = some o → u.writes ≤ o.sends) : Agrees isPiece limit t c :=
  ⟨hm, hv, fun _ => hh, by simp [hh], fun u hu o ho => by simpa [hh] using hw u hu o ho⟩

lemma reaches_repeatOrAbandon (hs : Separates p isPiece) (reason : Reason) (detail : String) (hv : Conveys t c)
    (hx : c.command = none ∨ c.chunk = none) (hh : c.held = none)
    (hw : ∀ u ∈ t, ∀ o, c.chunk = some o → u.writes ≤ o.sends) (hm : (c.repeatOrAbandon reason detail).Matched limit) :
    Reaches isPiece limit t c (c.repeatOrAbandon reason detail) := by
  have same (he : c.repeatOrAbandon reason detail = c) :
      Reaches isPiece limit t c (c.repeatOrAbandon reason detail) := by
    rw [he] at hm ⊢
    exact (agrees_closed hm hv hh hw).reaches rfl
  cases hc : c.command with
  | some o =>
    by_cases hl : o.sends ≤ c.timing.maxRetries
    · exact same (by simp [repeatOrAbandon, hc, hl])
    · have hk : c.chunk = none := hx.resolve_left (by simp [hc])
      have ha : Aside { c with command := none } (c.repeatOrAbandon reason detail) := by
        simp only [repeatOrAbandon, hc, hl, if_false]
        split
        · exact aside_askAgain hs o.item _
        · exact aside_abandon hs _ o.item reason
      exact Aside.reaches (c := { c with command := none }) ha (hv.congr rfl) hk hh hm
  | none =>
    cases hk : c.chunk with
    | none => exact same (by simp [repeatOrAbandon, hc, hk])
    | some o =>
      by_cases hl : o.sends ≤ c.timing.maxRetries
      · exact same (by simp [repeatOrAbandon, hc, hk, hl])
      · have he : c.repeatOrAbandon reason detail = c.abortUpload reason detail := by
          simp [repeatOrAbandon, hc, hk, hl]
        rw [he] at hm ⊢
        exact reaches_abortUpload reason detail hv hk hh hm

lemma Agrees.sent (h : Agrees isPiece limit t c) : ∀ u ∈ t, ∀ o, c.chunk = some o → u.writes ≤ o.sends :=
  fun u hu o ho => Nat.le_trans (Nat.le_add_right _ _) (h.writes u hu o ho)

lemma reaches_breakCycle (hs : Separates p isPiece) {trigger : Trigger} (reason : Reason) (detail : String)
    (h : Agrees isPiece limit t c)
    (hn : ∀ target, c.phase.next? p.acknowledged trigger = some target → target = .idle) :
    Reaches isPiece limit t c (c.breakCycle trigger reason detail) := by
  cases ha : c.phase.next? p.acknowledged trigger with
  | none =>
    rw [breakCycle_refused ha]
    exact h.reaches rfl
  | some target =>
    obtain rfl := hn target ha
    have hm : (c.breakCycle trigger reason detail).Matched limit := matched_breakCycle h.matched ha
    have hx : c.accepts trigger = true := by simp [accepts, ha]
    simp only [breakCycle, hx, if_true] at hm ⊢
    exact reaches_repeatOrAbandon (c := (c.advance trigger).closeCycle.resetReceiver) hs reason detail
      (h.conveys.congr rfl) h.matched.exclusive rfl h.sent hm

lemma reaches_takeNak (hs : Separates p isPiece) (h : Agrees isPiece limit t c) (hm : c.takeNak.Matched limit) :
    Reaches isPiece limit t c c.takeNak := by
  unfold takeNak at hm ⊢
  split at hm
  · rename_i ha
    rw [if_pos ha]
    exact reaches_repeatOrAbandon (c := (c.advance .nakReceived).markAnswered.closeCycle) hs .nak "link NAK"
      (h.conveys.congr rfl) h.matched.exclusive rfl h.sent hm
  · rename_i ha
    rw [if_neg ha]
    exact h.reaches rfl

lemma Matched.chunk_sends {o : Ongoing p.Chunk} (h : c.Matched limit) (hk : c.chunk = some o) :
    o.sends ≤ limit + 1 := by
  have hf := h.fits
  cases hp : c.phase <;> rw [hp] at hf <;> simp only [Fits, hk] at hf
  · exact Nat.le_succ_of_le (hf.2.2 o rfl)
  all_goals first
    | exact absurd hf.1 (by simp)
    | obtain ⟨-, o', ho, -, hl⟩ := hf
      cases ho
      exact hl

lemma reaches_repeatPiece (hs : Separates p isPiece) {trigger : Trigger} (reason : Reason) (detail : String)
    (h : Agrees isPiece limit t c) (hp : c.phase = .waitingChunkResponse)
    (hn : Phase.next? p.acknowledged .waitingChunkResponse trigger = some .sendingChunk) :
    Reaches isPiece limit t c (c.repeatPiece now trigger reason detail) := by
  have hm : (c.repeatPiece now trigger reason detail).Matched limit := matched_repeatPiece reason detail h.matched hp hn
  obtain ⟨-, o, hk, -⟩ : Fits limit c.command c.chunk .waitingChunkResponse := hp ▸ h.matched.fits
  have hw : ∀ u ∈ t, u.writes ≤ o.sends := fun u hu => h.sent u hu o hk
  have hc : c.closeCycle.resetReceiver.chunk = some o := hk
  simp only [repeatPiece, hc, Option.elim_some] at hm ⊢
  split at hm
  · rename_i hl
    rw [if_pos hl]
    exact reaches_sendPiece (c := c.closeCycle.resetReceiver.advance trigger) hs (h.conveys.congr rfl) hk
      (phase_advance hp hn) rfl hw (h.matched.budget ▸ hl) hm
  · rename_i hl
    rw [if_neg hl]
    exact reaches_abortUpload (c := c.closeCycle.resetReceiver.advance .chunkError) reason detail
      (h.conveys.congr rfl) hk rfl hm

lemma reaches_takeAck (hs : Separates p isPiece) (h : Agrees isPiece limit t c) (hp : c.phase = .waitingAck) :
    Reaches isPiece limit t c (c.takeAck now) := by
  have hm : (c.takeAck now).Matched limit := matched_takeAck h.matched hp
  have hk : c.chunk = none := (show Fits limit c.command c.chunk .waitingAck from hp ▸ h.matched.fits).1
  have hn : c.phase.next? p.acknowledged .ackReceived = some .waitingResponse := by simp [hp, Phase.next?]
  have ha : c.accepts .ackReceived = true := by simp [accepts, hn]
  have hi : (c.advance .ackReceived).phase ≠ .idle := by simp [phase_advance rfl hn]
  simp only [takeAck, ha, if_true] at hm ⊢
  split at hm
  · rename_i bytes he
    exact reaches_transmitSpaced (c := (c.advance .ackReceived).markAnswered.stopTimer .ack) (h.conveys.congr rfl) hk hi
      (fun bytes hb => (h.held bytes hb).1 hk) (hs.enquiry he) hm
  · exact (h.congr hm rfl (.inr ⟨rfl, (absurd · hi)⟩)).reaches rfl

lemma reaches_takeReply (hs : Separates p isPiece) {o : Ongoing p.Command} (frame : p.Frame)
    (h : Agrees isPiece limit t c) (hp : c.phase = .waitingResponse) (hc : c.command = some o) :
    Reaches isPiece limit t c (c.takeReply frame) := by
  have hm := matched_takeReply frame h.matched hp hc
  have hk : c.chunk = none := h.matched.exclusive.resolve_left (by simp [hc])
  rcases hv : p.judge c.session o.item frame with ⟨verdict, session⟩
  have he : ∀ event ∈ verdict.events, event.isUpload = false := by
    have hj := hs.judge c.session o.item frame
    rwa [hv] at hj
  rw [takeReply_eq hc hv] at hm ⊢
  have aside (ha : c.answered.Aside (c.conclude o session verdict)) :
      Reaches isPiece limit t c (c.conclude o session verdict) :=
    Aside.reaches (c := c.answered) ha (h.conveys.congr rfl) hk rfl hm
  cases verdict with
  | unrelated detail => exact (h.congr hm rfl (.inr ⟨rfl, id⟩)).reaches rfl
  | answered events followUps =>
    have hr : c.answered.Aside ({ c.answered with session := session, polls := 0 }.reportAll events) :=
      ⟨rfl, rfl, events, he, rfl⟩
    exact aside (hr.trans (aside_followUps followUps.reverse _))
  | unready events =>
    refine aside (.trans ?_ (aside_askAgain hs o.item _))
    exact ⟨rfl, rfl, events, he, rfl⟩
  | refused reason detail events =>
    refine aside ⟨rfl, rfl, .failed p.device (p.name o.item) reason detail :: events, ?_, ?_⟩
    · rintro event (- | ⟨_, hx⟩)
      · rfl
      · exact he event hx
    · simp [conclude, report, reportAll]
  | again reason detail =>
    exact reaches_repeatOrAbandon (c := { c.answered with session := session, command := some o }) hs reason detail
      (h.conveys.congr rfl) (.inr hk) rfl (fun _ _ _ ho => absurd (ho.symm.trans hk) (Option.some_ne_none _)) hm

lemma reaches_nextPiece (hs : Separates p isPiece) {u : Transfer p} (ha : c.queue.uploading = true)
    (hn : c.chunksDone = u.accepted) (hq : c.queue.chunks = u.chunks.drop u.accepted)
    (hl : u.accepted ≤ u.chunks.length) (hw : u.writes = 0) (hk : c.chunk = none) (hp : c.phase = .waitingChunkResponse)
    (hh : c.held = none) (hm : (c.nextPiece now).Matched limit) :
    Reaches isPiece limit (some u) c (c.nextPiece now) := by
  unfold nextPiece at hm ⊢
  cases hx : c.queue.chunks with
  | nil =>
    have hnext : c.queue.nextChunk? = none := by simp [WorkQueue.nextChunk?, hx]
    have hall : u.accepted = u.chunks.length := by
      have hd := (hq.symm.trans hx)
      rw [List.drop_eq_nil_iff] at hd
      omega
    simp only [hnext] at hm ⊢
    refine ⟨[.report (.uploaded p.device c.chunksDone)], none, rfl, ?_, agrees_without hm ⟨rfl, hk, rfl, rfl⟩ hk
      (fun _ => hh) ?_⟩
    · rw [hn, hall]
      exact (UploadStep.completed hall).steps
    · simp [report, advance, hh]
  | cons item items =>
    have hnext : c.queue.nextChunk? = some (item, { c.queue with chunks := items }) := by
      simp [WorkQueue.nextChunk?, hx]
    have hd : item :: items = u.chunks.drop u.accepted := hx.symm.trans hq
    have hlt : u.accepted < u.chunks.length := by
      have := congrArg List.length hd
      simp only [List.length_cons, List.length_drop] at this
      omega
    have hv : Conveys (some u) ({ c with queue := { c.queue with chunks := items }, chunk := some ⟨item, 0⟩ }.advance
        .sendNextChunk) := ⟨ha, hn, hd, hlt, fun hk => absurd hk (Option.some_ne_none _)⟩
    simp only [hnext] at hm ⊢
    exact reaches_sendPiece hs hv rfl (phase_advance hp rfl) hh (by simp [hw]) (Nat.zero_le _) hm

lemma reaches_accepted (hs : Separates p isPiece) {o : Ongoing p.Chunk} {frame : p.Frame}
    (h : Agrees isPiece limit t c) (hp : c.phase = .waitingChunkResponse) (hk : c.chunk = some o)
    (hj : p.judgeChunk o.item frame = .accepted) :
    ∃ u, UploadStep isPiece limit t (.accepted o.item frame) u ∧
      Reaches isPiece limit u c (c.takeChunkReply now frame) := by
  have hm : (c.takeChunkReply now frame).Matched limit := matched_takeChunkReply frame h.matched hp hk
  obtain ⟨u, rfl, hd, hr⟩ := h.conveys.under_way hk
  obtain ⟨ha, hn, -, hl, -⟩ := h.conveys
  refine ⟨_, .accepted hd hj, ?_⟩
  simp only [takeChunkReply, hk, hj] at hm ⊢
  have hn : c.chunksDone + 1 = u.accepted + 1 := congrArg (· + 1) hn
  exact reaches_nextPiece (c := { c.markAnswered.closeCycle with chunk := none, chunksDone := c.chunksDone + 1 }) hs
    ha hn hr.symm hl rfl rfl hp rfl hm

lemma reaches_takeChunkReply (hs : Separates p isPiece) {o : Ongoing p.Chunk} {frame : p.Frame}
    (h : Agrees isPiece limit t c) (hp : c.phase = .waitingChunkResponse) (hk : c.chunk = some o)
    (hj : p.judgeChunk o.item frame ≠ .accepted) : Reaches isPiece limit t c (c.takeChunkReply now frame) := by
  have hm : (c.takeChunkReply now frame).Matched limit := matched_takeChunkReply frame h.matched hp hk
  have abort (reason : Reason) (detail : String)
      (hm : ((c.markAnswered.closeCycle.advance .chunkError).abortUpload reason detail).Matched limit) :
      Reaches isPiece limit t c ((c.markAnswered.closeCycle.advance .chunkError).abortUpload reason detail) :=
    reaches_abortUpload (c := c.markAnswered.closeCycle.advance .chunkError) reason detail (h.conveys.congr rfl) hk rfl
      hm
  cases hv : p.judgeChunk o.item frame with
  | accepted => exact absurd hv hj
  | unrelated detail =>
    simp only [takeChunkReply, hk, hv]
    exact h.reaches rfl
  | refused reason detail =>
    simp only [takeChunkReply, hk, hv] at hm ⊢
    exact abort reason detail hm
  | again reason detail =>
    simp only [takeChunkReply, hk, hv] at hm ⊢
    split at hm
    · rename_i hl
      rw [if_pos hl]
      exact reaches_sendPiece (c := c.markAnswered.closeCycle.advance .sendNextChunk) hs (h.conveys.congr rfl) hk
        (phase_advance hp rfl) rfl (fun u hu => h.sent u hu o hk) (h.matched.budget ▸ hl) hm
    · rename_i hl
      rw [if_neg hl]
      exact abort reason detail hm

end ParkingStation.Exchange.Controller
