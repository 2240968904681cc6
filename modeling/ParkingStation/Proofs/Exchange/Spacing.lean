import Mathlib.Data.List.Induction
import ParkingStation.Proofs.Exchange.Vigilance
import ParkingStation.Proofs.Framing.Fragments

/-! A write that would come too soon after a read is held back, and nothing is asked again when it is let go. So
one that comes too soon was held back before that read. -/

namespace ParkingStation.Exchange

variable {p : Peripheral} {now : Nat}

def Incident.read? : Incident p → Option Nat
  | .call now (.bytes _) => some now
  | _ => none

def latestRead (xs : List (Incident p)) : Option Nat := (xs.filterMap Incident.read?).getLast?

lemma latestRead_concat (xs : List (Incident p)) (x : Incident p) :
    latestRead (xs ++ [x]) = x.read?.or (latestRead xs) := by
  cases hx : x.read? <;> simp [latestRead, hx]

lemma latestRead_silent {xs ys : List (Incident p)} (h : ∀ y ∈ ys, y.read? = none) :
    latestRead (xs ++ ys) = latestRead xs := by
  have hn : ys.filterMap Incident.read? = [] := List.filterMap_eq_nil_iff.mpr h
  rw [latestRead, List.filterMap_append, hn, List.append_nil, latestRead]

lemma exists_latestRead {xs : List (Incident p)} {t : Nat} (h : latestRead xs = some t) :
    ∃ early data late, xs = early ++ .call t (.bytes data) :: late ∧ ∀ x ∈ late, x.read? = none := by
  induction xs using List.reverseRecOn with
  | nil => cases h
  | append_singleton xs x ih =>
    rw [latestRead_concat] at h
    cases hx : x.read? with
    | none =>
      rw [hx, Option.none_or] at h
      obtain ⟨early, data, late, rfl, hl⟩ := ih h
      refine ⟨early, data, late ++ [x], by simp, fun y hy => ?_⟩
      rcases List.mem_append.mp hy with hy | hy
      · exact hl y hy
      · exact List.mem_singleton.mp hy ▸ hx
    | some u =>
      rw [hx] at h
      cases h
      unfold Incident.read? at hx
      split at hx <;> cases hx
      exact ⟨xs, _, [], rfl, nofun⟩

namespace Controller

variable {a b c d : Controller p}

def Due (c d : Controller p) : Prop :=
  d.timers.writeSpacing = c.timers.writeSpacing ∧ d.held = c.held ∨ d.timers.writeSpacing = none ∨
    ∃ t, d.timers.lastHeard = some t ∧ d.timers.writeSpacing = some (t + d.timing.interFrameDelay)

structure Paced (now : Nat) (a b : Controller p) : Prop where
  timing : b.timing = a.timing
  heard : b.timers.lastHeard = a.timers.lastHeard
  mute : a.timers.writeWait now ≠ none → transmissions b.outbox = transmissions a.outbox
  due : a.Due b

lemma Due.paced (h : c.Due a) (k : Paced now a b) : c.Due b := by
  rcases k.due with ⟨hs, hh⟩ | hs | hs
  · rcases h with ⟨hs', hh'⟩ | hs' | ⟨t, hl, hs'⟩
    · exact .inl ⟨hs.trans hs', hh.trans hh'⟩
    · exact .inr (.inl (hs.trans hs'))
    · exact .inr (.inr ⟨t, k.heard.trans hl, by rw [hs, hs', k.timing]⟩)
  · exact .inr (.inl hs)
  · exact .inr (.inr hs)

lemma Paced.writeWait (h : Paced now a b) : b.timers.writeWait now = a.timers.writeWait now := by
  have ht : b.timers.timing = a.timers.timing := h.timing
  simp only [Timers.writeWait, h.heard, ht]

lemma Paced.trans (h : Paced now a b) (k : Paced now b c) : Paced now a c where
  timing := k.timing.trans h.timing
  heard := k.heard.trans h.heard
  mute hw := (k.mute (h.writeWait ▸ hw)).trans (h.mute hw)
  due := h.due.paced k

lemma Paced.frame (ht : b.timers = a.timers) (hh : b.held = a.held)
    (ho : transmissions b.outbox = transmissions a.outbox) : Paced now a b :=
  ⟨congrArg Timers.timing ht, congrArg Timers.lastHeard ht, fun _ => ho, .inl ⟨congrArg Timers.writeSpacing ht, hh⟩⟩

lemma Paced.same_start (k : Paced now b c) (ht : b.timers = a.timers) (hh : b.held = a.held)
    (ho : transmissions b.outbox = transmissions a.outbox) : Paced now a c := (Paced.frame ht hh ho).trans k

lemma Paced.refl (c : Controller p) : Paced now c c := .frame rfl rfl rfl

lemma Paced.of_line (hl : b.line = a.line) : Paced now a b := by
  simp only [line, Prod.mk.injEq] at hl
  obtain ⟨-, ht, hh, ho⟩ := hl
  exact .frame ht hh ho

lemma paced_closeCycle (c : Controller p) : Paced now c c.closeCycle :=
  ⟨rfl, rfl, fun _ => rfl, .inr (.inl rfl)⟩

lemma paced_transmitSpaced (now : Nat) (bytes : Bytes) (c : Controller p) :
    Paced now c (c.transmitSpaced now bytes) := by
  rcases transmitSpaced_cases now bytes c with ⟨hn, he⟩ | ⟨wait, hs, he⟩
  · rw [he]
    exact ⟨rfl, rfl, fun hw => absurd hn hw, .inl ⟨rfl, rfl⟩⟩
  · rw [he]
    refine ⟨rfl, rfl, fun _ => rfl, .inr (.inr ?_)⟩
    cases ht : c.timers.lastHeard with
    | none => simp [Timers.writeWait, ht] at hs
    | some t =>
      have hlt : now < t + c.timers.timing.interFrameDelay ∧ t + c.timers.timing.interFrameDelay - now = wait := by
        simpa [Timers.writeWait, ht] using hs
      have hd : now + wait = t + c.timers.timing.interFrameDelay := by omega
      exact ⟨t, ht, congrArg some hd⟩

lemma paced_sendRequest (now : Nat) (c : Controller p) : Paced now c (c.sendRequest now) := by
  cases hc : c.command with
  | none =>
    simp only [sendRequest, hc]
    exact .refl c
  | some o =>
    cases hb : requestBytes o.item (nextSequence c.seq) with
    | ok bytes =>
      rw [sendRequest_ok hc hb]
      exact (paced_transmitSpaced now bytes _).same_start rfl rfl rfl
    | error err =>
      rw [sendRequest_error hc hb]
      exact .frame rfl rfl (by simp [report, advance])

lemma paced_sendPiece (now : Nat) (c : Controller p) : Paced now c (c.sendPiece now) := by
  cases hk : c.chunk with
  | none =>
    simp only [sendPiece, hk]
    exact .refl c
  | some o =>
    cases hb : chunkBytes o.item (nextSequence c.seq) with
    | ok bytes =>
      rw [sendPiece_ok hk hb]
      exact (paced_transmitSpaced now bytes _).same_start rfl rfl rfl
    | error err =>
      rw [sendPiece_error hk hb]
      exact (Paced.of_line (line_abortUpload _ _ _)).same_start rfl rfl rfl

lemma paced_breakCycle (trigger : Trigger) (reason : Reason) (detail : String) (c : Controller p) :
    Paced now c (c.breakCycle trigger reason detail) := by
  cases ha : c.accepts trigger with
  | false =>
    simp only [breakCycle, ha, Bool.false_eq_true, if_false]
    exact .refl c
  | true =>
    have hc : Paced now c (c.advance trigger).closeCycle := (paced_closeCycle _).same_start rfl rfl rfl
    exact hc.trans (.of_line (line_breakCycle ha))

lemma paced_repeatPiece (trigger : Trigger) (reason : Reason) (detail : String) (c : Controller p) :
    Paced now c (c.repeatPiece now trigger reason detail) := by
  have hc : Paced now c c.closeCycle.resetReceiver := (paced_closeCycle c).trans (.frame rfl rfl rfl)
  simp only [repeatPiece]
  split
  · exact hc.trans ((paced_sendPiece now _).same_start rfl rfl rfl)
  · exact hc.trans ((Paced.of_line (line_abortUpload _ _ _)).same_start rfl rfl rfl)

lemma paced_takeAck (now : Nat) (c : Controller p) : Paced now c (c.takeAck now) := by
  have ha : Paced now c ((c.advance .ackReceived).markAnswered.stopTimer .ack) :=
    ⟨rfl, rfl, fun _ => rfl, .inl ⟨rfl, rfl⟩⟩
  simp only [takeAck]
  split
  · split
    · exact ha.trans (paced_transmitSpaced now _ _)
    · exact ha.trans ⟨rfl, rfl, fun _ => rfl, .inl ⟨rfl, rfl⟩⟩
  · exact .refl c

lemma paced_takeNak (c : Controller p) : Paced now c c.takeNak := by
  simp only [takeNak]
  split
  · have hc : Paced now c (c.advance .nakReceived).markAnswered.closeCycle := ⟨rfl, rfl, fun _ => rfl, .inr (.inl rfl)⟩
    exact hc.trans (.of_line (line_repeatOrAbandon _ _ _))
  · exact .refl c

lemma paced_takeReply {o : Ongoing p.Command} (frame : p.Frame) (hc : c.command = some o) :
    Paced now c (c.takeReply frame) := by
  have ha : Paced now c c.answered := ⟨rfl, rfl, fun _ => rfl, .inr (.inl rfl)⟩
  rcases hv : p.judge c.session o.item frame with ⟨verdict, session⟩
  rw [takeReply_eq hc hv]
  rcases conclude_cases o session verdict with ⟨-, he⟩ | hd | ⟨reason, detail, he⟩
  · rw [he]
    exact .frame rfl rfl rfl
  · exact ha.trans (.of_line (line_sameLine hd))
  · rw [he]
    exact ha.trans ((Paced.of_line (line_repeatOrAbandon reason detail _)).same_start rfl rfl rfl)

lemma paced_nextPiece (now : Nat) (c : Controller p) : Paced now c (c.nextPiece now) := by
  unfold nextPiece
  split
  · exact (paced_sendPiece now _).same_start rfl rfl rfl
  · exact .frame rfl rfl (by simp [report, advance])

lemma paced_takeChunkReply {o : Ongoing p.Chunk} (frame : p.Frame) (hk : c.chunk = some o) :
    Paced now c (c.takeChunkReply now frame) := by
  have hc : Paced now c c.markAnswered.closeCycle := ⟨rfl, rfl, fun _ => rfl, .inr (.inl rfl)⟩
  simp only [takeChunkReply, hk]
  split
  · exact .refl c
  · exact hc.trans ((paced_nextPiece now _).same_start rfl rfl rfl)
  · split
    · exact hc.trans ((paced_sendPiece now _).same_start rfl rfl rfl)
    · exact hc.trans ((Paced.of_line (line_abortUpload _ _ _)).same_start rfl rfl rfl)
  · exact hc.trans ((Paced.of_line (line_abortUpload _ _ _)).same_start rfl rfl rfl)

theorem Move.paced {xs : List (Judgement p)} (m : Move now a xs b) : Paced now a b := by
  cases m with
  | take | takePiece | receive | spoil | forgive => exact .frame rfl rfl rfl
  | request hi hc => exact (paced_sendRequest now _).same_start rfl rfl rfl
  | piece hi hc hk => exact (paced_sendPiece now _).same_start rfl rfl rfl
  | fail hp hn => exact paced_breakCycle _ _ _ _
  | repeatPiece hp ht => exact paced_repeatPiece _ _ _ _
  | ack hp => exact paced_takeAck now _
  | nak hn => exact paced_takeNak _
  | reply frame hp hc => exact paced_takeReply frame hc
  | pieceReply frame hp hk => exact paced_takeChunkReply frame hk
  | watch => unfold watchGap; split <;> exact ⟨rfl, rfl, fun _ => rfl, .inl ⟨rfl, rfl⟩⟩
  | endGap => exact ⟨rfl, rfl, fun _ => rfl, .inl ⟨rfl, rfl⟩⟩
  | lapse hd ht => rcases ht with ⟨rfl, -⟩ | ⟨rfl, -⟩ <;> exact ⟨rfl, rfl, fun _ => rfl, .inl ⟨rfl, rfl⟩⟩

lemma Moves.paced {xs : List (Judgement p)} (m : Moves (Move now) a xs b) : Paced now a b :=
  m.keep (P := Paced now a) (fun m h => h.trans m.paced) (.refl a)

lemma paced_takeUpWork (now : Nat) (c : Controller p) : Paced now c (c.takeUpWork now) :=
  (moves_takeUpWork now c).paced

lemma paced_endWrite (result : WriteResult) (c : Controller p) : Paced now c (c.endWrite now result) := by
  cases result with
  | failed | timedOut => exact paced_breakCycle _ _ _ _
  | completed =>
    simp only [endWrite, completeWrite]
    split
    · split <;> exact ⟨rfl, rfl, fun _ => rfl, .inl ⟨rfl, rfl⟩⟩
    · exact .refl c

lemma paced_loseLine (detail : String) (c : Controller p) : Paced now c (c.loseLine detail) := by
  simp only [loseLine]
  split
  · have hu : Paced now c (c.closeCycle.abortUpload .disconnected detail) :=
      (paced_closeCycle c).trans (.of_line (line_abortUpload _ _ _))
    exact hu.trans (.frame rfl rfl (by simp [report]))
  · exact (paced_closeCycle c).trans (.frame rfl rfl (by simp [report]))

def listen (now : Nat) (c : Controller p) : Input → Controller p
  | .bytes _ => { c with timers := c.timers.heard now }
  | _ => c

lemma paced_during {input : Input} (hi : input ≠ .tick) : Paced now (c.listen now input) (c.during now input) := by
  cases input with
  | woken => exact paced_takeUpWork now c
  | bytes data =>
    have hr : Paced now (c.listen now (.bytes data))
        { c with timers := c.timers.heard now, receiver := c.receiver.append data } := .frame rfl rfl rfl
    exact (hr.trans (moves_drain now _).paced).trans (paced_takeUpWork now _)
  | wrote result => exact (paced_endWrite result c).trans (paced_takeUpWork now _)
  | tick => exact absurd rfl hi
  | disconnected detail => exact paced_loseLine detail c

lemma paced_tick (now : Nat) (c : Controller p) :
    Paced now c (c.during now .tick) ∨ ∃ m due, Paced now c m ∧ m.timers.writeSpacing = some due ∧ due ≤ now ∧
      Paced now (m.stopTimer .writeSpacing).releaseHeld (c.during now .tick) := by
  have hg : Paced now c (c.fire .frameGap now) := (moves_fire .frameGap (by simp) now c).paced
  have rest (d : Controller p) : Paced now d (((d.fire .ack now).fire .response now).takeUpWork now) :=
    ((moves_fire .ack (by simp) now d).paced.trans (moves_fire .response (by simp) now _).paced).trans
      (paced_takeUpWork now _)
  have he : c.during now .tick =
      ((((c.fire .frameGap now).fire .writeSpacing now).fire .ack now).fire .response now).takeUpWork now := rfl
  rw [he]
  by_cases hd : ∃ due, (c.fire .frameGap now).timers.writeSpacing = some due ∧ due ≤ now
  · obtain ⟨due, hs, hn⟩ := hd
    rcases fire_writeSpacing now (c.fire .frameGap now) with hf | ⟨-, hf⟩
    · rw [hf]
      exact .inl (hg.trans (rest _))
    · rw [hf]
      exact .inr ⟨_, due, hg, hs, hn, rest _⟩
  · have hf : (c.fire .frameGap now).fire .writeSpacing now = c.fire .frameGap now := fire_pending hd
    rw [hf]
    exact .inl (hg.trans (rest _))

lemma transmissions_releaseHeld (c : Controller p) :
    transmissions (c.stopTimer .writeSpacing).releaseHeld.outbox = transmissions c.outbox ++ c.held.toList := by
  cases hh : c.held <;> simp [releaseHeld, stopTimer, hh, transmit]

lemma timers_releaseHeld (c : Controller p) : c.releaseHeld.timers = c.timers := by
  unfold releaseHeld
  split <;> rfl

lemma paced_call (now : Nat) (input : Input) (c : Controller p) :
    ∃ d, c.Due d ∧ d.timing = c.timing ∧
      d.timers.lastHeard = (Incident.read? (p := p) (.call now input)).or c.timers.lastHeard ∧
      Paced now d (c.during now input) := by
  by_cases hi : input = .tick
  · subst hi
    rcases paced_tick now c with h | ⟨m, due, hm, -, -, h⟩
    · exact ⟨c, .inl ⟨rfl, rfl⟩, rfl, rfl, h⟩
    · have ht := timers_releaseHeld (m.stopTimer .writeSpacing)
      refine ⟨_, .inr (.inl (by rw [ht]; rfl)), ?_, ?_, h⟩
      · rw [timing, ht]
        exact hm.timing
      · rw [ht]
        exact hm.heard
  · refine ⟨c.listen now input, ?_, ?_, ?_, paced_during hi⟩ <;> cases input <;> first | rfl | exact .inl ⟨rfl, rfl⟩

lemma turn_spacing (c : Controller p) (x : Incident p) :
    c.Due (c.turn x).2 ∧ (c.turn x).2.timing = c.timing ∧
      (c.turn x).2.timers.lastHeard = x.read?.or c.timers.lastHeard := by
  cases x with
  | demand demand =>
    obtain ⟨ht, hh, -⟩ := meet_line c demand
    exact ⟨.inl ⟨congrArg Timers.writeSpacing ht, hh⟩, congrArg Timers.timing ht, congrArg Timers.lastHeard ht⟩
  | call now input =>
    obtain ⟨d, hd, ht, hl, hp⟩ := paced_call now input c
    have hu : c.Due (c.during now input) := hd.paced hp
    rw [turn, step_eq]
    exact ⟨hu, hp.timing.trans ht, hp.heard.trans hl⟩

lemma turn_timing {I : Type} [Stimulus I] (c : Controller p) (t : Turn p I) : (c.turn t).2.timing = c.timing := by
  cases t with
  | demand demand => exact congrArg Timers.timing (meet_line c demand).1
  | call now call => exact (turn_spacing c (.call now (Stimulus.input call))).2.1

lemma after_timing {I : Type} [Stimulus I] (c : Controller p) (ts : List (Turn p I)) :
    (c.after ts).timing = c.timing :=
  after_keep (P := fun d => d.timing = c.timing) (fun d t h => (turn_timing d t).trans h) c ts rfl

lemma after_lastHeard (hc : c.timers.lastHeard = none) (xs : List (Incident p)) :
    (c.after xs).timers.lastHeard = latestRead xs := by
  induction xs using List.reverseRecOn with
  | nil => exact hc
  | append_singleton xs x ih => rw [after_concat, (turn_spacing _ x).2.2, ih, latestRead_concat]

lemma held_since {xs ys : List (Incident p)} {due : Nat} (h : (c.after (xs ++ ys)).timers.writeSpacing = some due)
    (hd : ∀ part, part ≠ [] → part <+: ys → ∀ t, (c.after (xs ++ part)).timers.lastHeard = some t →
      due ≠ t + c.timing.interFrameDelay) :
    ∀ part, part <+: ys → (c.after (xs ++ part)).timers.writeSpacing = some due ∧
      (c.after (xs ++ part)).held = (c.after (xs ++ ys)).held := by
  induction ys using List.reverseRecOn with
  | nil =>
    intro part hp
    rw [List.prefix_nil.mp hp]
    exact ⟨h, rfl⟩
  | append_singleton ys y ih =>
    have hs := (turn_spacing (c.after (xs ++ ys)) y).1
    rw [← after_concat, List.append_assoc] at hs
    rcases hs with ⟨hs, hh⟩ | hs | ⟨t, hl, hs⟩
    · have hk := ih (hs ▸ h) fun part hn hp => hd part hn (hp.trans (List.prefix_append ys [y]))
      intro part hp
      rcases List.prefix_concat_iff.mp hp with rfl | hp
      · exact ⟨h, rfl⟩
      · rw [hh]
        exact hk part hp
    · rw [h] at hs
      cases hs
    · rw [h, after_timing] at hs
      exact absurd (Option.some.inj hs) (hd _ (by simp) (List.prefix_refl _) t hl)

lemma writeWait_ne_none {t : Nat} (hl : c.timers.lastHeard = some t) (hn : now < t + c.timing.interFrameDelay) :
    c.timers.writeWait now ≠ none := by
  have hn' : now < t + c.timers.timing.interFrameDelay := hn
  simp [Timers.writeWait, hl, hn']

lemma overtaken_call {input : Input} {t : Nat} (ho : c.outbox = [])
    (ht : transmissions (c.step now input).1 ≠ [])
    (hl : (Incident.read? (p := p) (.call now input)).or c.timers.lastHeard = some t)
    (hn : now < t + c.timing.interFrameDelay) :
    input = .tick ∧ ∃ bytes due, transmissions (c.step now input).1 = [bytes] ∧ c.timers.writeSpacing = some due ∧
      c.held = some bytes ∧ due ≤ now := by
  rw [step_eq] at ht ⊢
  simp only [flush] at ht ⊢
  by_cases hi : input = .tick
  · subst hi
    have hl : c.timers.lastHeard = some t := hl
    have hw := writeWait_ne_none hl hn
    rcases paced_tick now c with h | ⟨m, due, hm, hs, hd, hk⟩
    · rw [h.mute hw, ho] at ht
      exact absurd rfl ht
    · have hr : (m.stopTimer .writeSpacing).releaseHeld.timers.writeWait now = m.timers.writeWait now := by
        rw [timers_releaseHeld]
        rfl
      have hx : transmissions (c.during now .tick).outbox = m.held.toList := by
        rw [hk.mute (by rwa [hr, hm.writeWait]), transmissions_releaseHeld, hm.mute hw, ho]
        rfl
      rw [hx] at ht ⊢
      obtain ⟨bytes, hb⟩ : ∃ bytes, m.held = some bytes := by
        cases hb : m.held with
        | none => simp [hb] at ht
        | some bytes => exact ⟨bytes, rfl⟩
      refine ⟨rfl, bytes, due, by rw [hb]; rfl, ?_⟩
      rcases hm.due with ⟨hs', hh⟩ | hs' | ⟨u, hu, hs'⟩
      · exact ⟨hs' ▸ hs, hh ▸ hb, hd⟩
      · rw [hs] at hs'
        cases hs'
      · rw [hm.heard, hl] at hu
        rw [hs, hm.timing] at hs'
        cases hu
        cases hs'
        omega
  · have hl' : (c.listen now input).timers.lastHeard = some t := by
      rw [← hl]
      cases input <;> rfl
    have ho' : (c.listen now input).outbox = [] := by
      rw [← ho]
      cases input <;> rfl
    have hn' : now < t + (c.listen now input).timing.interFrameDelay := by cases input <;> exact hn
    rw [(paced_during hi).mute (writeWait_ne_none hl' hn'), ho'] at ht
    exact absurd rfl ht

end Controller

/-- Every call that transmits finds that the line has been quiet for the delay since the latest read. -/
def Spaced (delay : Nat) (start : Controller p) (xs : List (Incident p)) : Prop :=
  ∀ past now input rest, xs = past ++ .call now input :: rest →
    transmissions ((start.after past).step now input).1 ≠ [] →
      ∀ t, latestRead (past ++ [.call now input]) = some t → t + delay ≤ now

/-- A write held back before a read is still held back when the next calls are over, and a tick lets it go less than
the delay after that read. -/
def Overtaken (delay : Nat) (start : Controller p) (xs : List (Incident p)) : Prop :=
  ∃ (early : List (Incident p)) (t : Nat) (data : Bytes) (late : List (Incident p)) (now : Nat)
    (rest : List (Incident p)) (bytes : Bytes) (due : Nat),
    xs = early ++ .call t (.bytes data) :: late ++ .call now .tick :: rest ∧ (∀ x ∈ late, x.read? = none) ∧
      (∀ part, part <+: .call t (.bytes data) :: late →
        (start.after (early ++ part)).timers.writeSpacing = some due ∧
          (start.after (early ++ part)).held = some bytes) ∧
      transmissions ((start.after (early ++ .call t (.bytes data) :: late)).step now .tick).1 = [bytes] ∧
      due ≤ now ∧ now < t + delay

/-- The spacing is kept throughout a run unless a write held back is overtaken by a read. -/
theorem spaced_iff_not_overtaken (f : Fitting) (session : f.peripheral.Session) (timing : Settings.Timing)
    (xs : List (Incident f.peripheral)) :
    let start := Controller.fresh f.peripheral session timing
    Spaced timing.interFrameDelay start xs ↔ ¬ Overtaken timing.interFrameDelay start xs := by
  intro start
  constructor
  · rintro hs ⟨early, t, data, late, now, rest, bytes, due, rfl, hl, -, ht, -, hn⟩
    have hr : latestRead (early ++ .call t (.bytes data) :: late ++ [.call now .tick]) = some t := by
      rw [latestRead_concat, List.append_cons, latestRead_silent hl, latestRead_concat]
      rfl
    have := hs _ now .tick rest rfl (by rw [ht]; exact List.cons_ne_nil _ _) t hr
    omega
  · intro ho past now input rest hx ht t hr
    by_contra hn
    have hn : now < t + timing.interFrameDelay := Nat.lt_of_not_le hn
    rw [latestRead_concat, ← Controller.after_lastHeard (c := start) rfl past] at hr
    have hb : (start.after past).outbox = [] := Controller.after_outbox _ rfl past
    obtain ⟨rfl, bytes, due, hb, hs, hh, hd⟩ :=
      Controller.overtaken_call hb ht hr (by rwa [Controller.after_timing])
    have hr : (start.after past).timers.lastHeard = some t := hr
    rw [Controller.after_lastHeard (c := start) rfl past] at hr
    obtain ⟨early, data, late, rfl, hl⟩ := exists_latestRead hr
    refine ho ⟨early, t, data, late, now, rest, bytes, due, hx, hl, ?_, hb, hd, hn⟩
    rw [← hh]
    refine Controller.held_since hs fun part hp hpre u hu => ?_
    obtain ⟨part, rfl⟩ : ∃ more, part = .call t (.bytes data) :: more := by
      cases part with
      | nil => exact absurd rfl hp
      | cons x more => exact ⟨more, by rw [(List.cons_prefix_cons.mp hpre).1]⟩
    have hm (x : Incident f.peripheral) (hx : x ∈ part) : x.read? = none :=
      hl x ((List.cons_prefix_cons.mp hpre).2.subset hx)
    rw [Controller.after_lastHeard (c := start) rfl, List.append_cons, latestRead_silent hm, latestRead_concat] at hu
    cases hu
    have : start.timing.interFrameDelay = timing.interFrameDelay := rfl
    omega

lemma stray_read {c : Controller CardReader.peripheral} (hr : c.receiver = .fresh CardReader.scanner)
    (hs : c.spoilt = none) (hw : ∀ timers, { c with timers := timers }.takeUpWork now = { c with timers := timers }) :
    (c.step now (.bytes [0])).2 =
      { c with timers := { c.timers with lastHeard := some now, frameGap := none }, outbox := [] } := by
  have hn : (c.receiver.append [0]).read CardReader.peripheral.scanner = (none, c.receiver) := by
    rw [hr]
    simp [Framing.Receiver.read, Framing.Receiver.append, Framing.Receiver.fresh, Framing.Receiver.scanFrom,
      CardReader.peripheral, CardReader.scanner, CardReader.step, Control.stx, Control.ack, Control.nak]
  have hh : c.hear now [0] = { c with timers := { c.timers with lastHeard := some now, frameGap := none } } := by
    have hi : CardReader.peripheral.scanner.stalled c.receiver.scan = none := by rw [hr]; rfl
    simp only [Controller.hear, Controller.drain, Framing.Receiver.readAll_of_none hn, List.foldl_nil,
      Controller.settleSpoilt, hs, Controller.watchGap, hi]
    rfl
  simp only [Controller.step, hh, hw, Controller.flush]

def heldBack : Controller CardReader.peripheral :=
  (({ Controller.fresh CardReader.peripheral {} {} with timers := { timing := {}, lastHeard := some 0 } }.submit
    CardReader.Command.init).step 0 .woken).2

theorem write_soon_after_read :
    ¬ Spaced 200 (Controller.fresh CardReader.peripheral {} {})
      [.call 0 (.bytes [0]), .demand (.submit CardReader.Command.init), .call 0 .woken, .call 100 (.bytes [0]),
        .call 200 .tick] := by
  intro hs
  have hf : ((Controller.fresh CardReader.peripheral {} {}).step 0 (.bytes [0])).2 =
      { Controller.fresh CardReader.peripheral {} {} with timers := { timing := {}, lastHeard := some 0 } } :=
    stray_read rfl rfl fun timers => by
      simp [Controller.takeUpWork, Controller.fresh, Controller.phase, WorkQueue.next?]
  have hh : (Controller.fresh CardReader.peripheral {} {}).after ([.call 0 (.bytes [0]),
      .demand (.submit CardReader.Command.init), .call 0 .woken] : List (Incident CardReader.peripheral)) = heldBack := by
    change ((((Controller.fresh CardReader.peripheral {} {}).step 0 (.bytes [0])).2.submit _).step 0 .woken).2 = _
    rw [hf]
    rfl
  have hr : heldBack.watch = (Controller.fresh CardReader.peripheral {} {}).watch := Controller.watch_takeUpWork 0 _
  have hp : heldBack.phase = .sendingRequest := by decide +kernel
  have hb : (heldBack.step 100 (.bytes [0])).2 =
      { heldBack with timers := { heldBack.timers with lastHeard := some 100, frameGap := none }, outbox := [] } :=
    stray_read (congrArg Prod.fst hr) (congrArg (·.2.1) hr) fun timers => Controller.takeUpWork_busy (by
      change heldBack.phase ≠ .idle
      simp [hp])
  have hw : transmissions (((Controller.fresh CardReader.peripheral {} {}).after
      (([.call 0 (.bytes [0]), .demand (.submit CardReader.Command.init), .call 0 .woken] ++
        [.call 100 (.bytes [0])]) : List (Incident CardReader.peripheral))).step 200 .tick).1 ≠ [] := by
    rw [Controller.after_concat, hh, Controller.turn]
    change transmissions ((heldBack.step 100 (.bytes [0])).2.step 200 .tick).1 ≠ []
    rw [hb]
    decide +kernel
  exact absurd (hs _ 200 .tick [] rfl hw 100 rfl) (by decide)

end ParkingStation.Exchange
