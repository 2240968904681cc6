import ParkingStation.Proofs.Exchange.Conveyance
import ParkingStation.Proofs.Exchange.Errands

/-! The effects of a call in order, and among them the replies that accepted a chunk, each where it was taken. -/

namespace ParkingStation.Exchange

open Framing

namespace Controller

variable {p : Peripheral}

def acceptance? (c : Controller p) : Item p.Frame → Option (Entry p)
  | .frame frame =>
    if c.phase = .waitingChunkResponse then
      (c.chunk.filter fun o => p.judgeChunk o.item frame = .accepted).map fun o => .accepted o.item frame
    else none
  | _ => none

def news (c d : Controller p) : List (Entry p) := (d.outbox.drop c.outbox.length).map .effect

def itemsLog (now : Nat) (c : Controller p) : List (Item p.Frame) → List (Entry p)
  | [] => []
  | item :: items =>
    (c.acceptance? item).toList ++ c.news (c.takeItem now item) ++ (c.takeItem now item).itemsLog now items

def drainLog (now : Nat) (c : Controller p) : List (Entry p) :=
  let (items, receiver) := c.receiver.readAll p.scanner
  let c := { c with receiver := receiver }
  let taken := items.foldl (takeItem now) c
  c.itemsLog now items ++ taken.news ((taken.settleSpoilt now).watchGap now)

def gapLog (now : Nat) (c : Controller p) : List (Entry p) :=
  let (fires, timers) := c.timers.fire .frameGap now
  if fires then
    let dropped := { c with timers := timers }.dropCandidate now
    c.news dropped ++ dropped.drainLog now
  else []

def callLog (now : Nat) (c : Controller p) : Input → List (Entry p)
  | .bytes data =>
    { c with timers := c.timers.heard now, receiver := c.receiver.append data }.drainLog now ++
      (c.hear now data).news (c.during now (.bytes data))
  | .tick => c.gapLog now ++ (c.fire .frameGap now).news (c.during now .tick)
  | input => c.news (c.during now input)

section Beginnings

variable {chunks : List p.Chunk}

lemma begun_notMem_news (c d : Controller p) : .begun chunks ∉ c.news d := by
  rw [news, List.mem_map]
  rintro ⟨effect, -, ⟨⟩⟩

lemma begun_notMem_itemsLog (now : Nat) (items : List (Item p.Frame)) (c : Controller p) :
    .begun chunks ∉ c.itemsLog now items := by
  induction items generalizing c with
  | nil => exact List.not_mem_nil
  | cons item items ih =>
    have ha : .begun chunks ∉ (c.acceptance? item).toList := by
      cases item with
      | frame frame =>
        simp only [acceptance?]
        split <;> simp
      | _ => exact List.not_mem_nil
    simp [itemsLog, ha, begun_notMem_news, ih]

lemma begun_notMem_drainLog (now : Nat) (c : Controller p) : .begun chunks ∉ c.drainLog now := by
  simp [drainLog, begun_notMem_itemsLog, begun_notMem_news]

lemma begun_notMem_callLog (now : Nat) (c : Controller p) (input : Input) : .begun chunks ∉ c.callLog now input := by
  have gap : .begun chunks ∉ c.gapLog now := by
    simp only [gapLog]
    split <;> simp [begun_notMem_news, begun_notMem_drainLog]
  cases input <;> simp [callLog, gap, begun_notMem_news, begun_notMem_drainLog]

end Beginnings

variable {isPiece : Bytes → Bool} {limit now : Nat} {t : Option (Transfer p)} {b c d : Controller p}

def Logs (isPiece : Bytes → Bool) (limit : Nat) (t : Option (Transfer p)) (c : Controller p) (log : List (Entry p))
    (d : Controller p) : Prop :=
  d.outbox = c.outbox ++ effects log ∧ ∃ u, UploadSteps isPiece limit t log u ∧ Agrees isPiece limit u d

lemma effects_append (xs ys : List (Entry p)) : effects (xs ++ ys) = effects xs ++ effects ys := List.filterMap_append

lemma effects_map (out : List Effect) : effects (out.map (.effect : Effect → Entry p)) = out := by
  induction out with
  | nil => rfl
  | cons effect out ih => exact congrArg (effect :: ·) ih

lemma Logs.trans {xs ys : List (Entry p)} (h : Logs isPiece limit t b xs c)
    (k : ∀ u, Agrees isPiece limit u c → Logs isPiece limit u c ys d) : Logs isPiece limit t b (xs ++ ys) d := by
  obtain ⟨ho, u, hf, ha⟩ := h
  obtain ⟨ho', v, hf', ha'⟩ := k u ha
  exact ⟨by rw [ho', ho, effects_append, List.append_assoc], v, hf.append hf', ha'⟩

lemma Reaches.logs (h : Reaches isPiece limit t c d) : Logs isPiece limit t c (c.news d) d := by
  obtain ⟨out, u, ho, hf, ha⟩ := h
  have hn : c.news d = out.map .effect := by simp [news, ho]
  rw [hn]
  exact ⟨by rw [ho, effects_map], u, hf, ha⟩

lemma Reaches.logs_after {u : Option (Transfer p)} {entry : Entry p} (h : Reaches isPiece limit u c d)
    (hu : UploadStep isPiece limit t entry u) (he : effects [entry] = []) :
    Logs isPiece limit t c (entry :: c.news d) d := by
  obtain ⟨ho, v, hf, ha⟩ := h.logs
  have hx : effects (entry :: c.news d) = effects (c.news d) := by
    rw [← List.singleton_append, effects_append, he, List.nil_append]
  exact ⟨hx ▸ ho, v, .cons hu hf, ha⟩

lemma Agrees.logs (h : Agrees isPiece limit t d) (ho : d.outbox = c.outbox) : Logs isPiece limit t c [] d :=
  ⟨by simpa [effects] using ho, t, .nil, h⟩

lemma reaches_take {item : p.Command} {queue : WorkQueue p.Command p.Chunk} (h : Agrees isPiece limit t c)
    (hi : c.phase = .idle) (hc : c.command = none) (hk : c.chunk = none)
    (hq : c.queue.next? = some (.command item, queue)) :
    Reaches isPiece limit t c { c with queue := queue, command := some ⟨item, 0⟩ } := by
  have m : Move 0 c [] { c with queue := queue, command := some ⟨item, 0⟩ } := .take hi hc hk hq
  have hu : ({ c with queue := queue, command := some ⟨item, 0⟩ } : Controller p).upload = c.upload := by
    obtain ⟨commands, -, rfl, -⟩ := WorkQueue.next?_command hq
    rfl
  exact (h.congr (m.matched h.matched) hu (.inr ⟨rfl, id⟩)).reaches rfl

lemma reaches_takePiece {item : p.Chunk} {queue : WorkQueue p.Command p.Chunk} (h : Agrees isPiece limit t c)
    (hi : c.phase = .idle) (hc : c.command = none) (hk : c.chunk = none)
    (hq : c.queue.next? = some (.chunk item, queue)) :
    Reaches isPiece limit t c { c with queue := queue, chunk := some ⟨item, 0⟩ } := by
  have m : Move 0 c [] { c with queue := queue, chunk := some ⟨item, 0⟩ } := .takePiece hi hc hk hq
  have hh : c.held = none := h.rested hi
  obtain ⟨items, hx, rfl⟩ := WorkQueue.next?_chunk hq
  refine Agrees.reaches (t := t) (agrees_closed (m.matched h.matched) ?_ hh ?_) rfl
  · have hv := h.conveys
    cases t with
    | none => simp [Conveys, hx] at hv
    | some u =>
      obtain ⟨ha, hn, hd, hl, -⟩ := hv
      refine ⟨ha, hn, ?_, hl, fun hk => absurd hk (Option.some_ne_none _)⟩
      simpa [hk, hx] using hd
  · rintro u hu o ⟨⟩
    exact Nat.le_of_eq (h.conveys.untouched hk u hu).2

lemma reaches_request (hs : Separates p isPiece) {o : Ongoing p.Command} (h : Agrees isPiece limit t c)
    (hi : c.phase = .idle) (hc : c.command = some o) :
    Reaches isPiece limit t c ((c.advance .commandEnqueued).sendRequest now) := by
  have hk : c.chunk = none := h.matched.exclusive.resolve_left (by simp [hc])
  exact reaches_sendRequest (c := c.advance .commandEnqueued) hs (h.conveys.congr rfl) hc hk (phase_advance hi rfl)
    (h.rested hi) ((Move.request hi hc).matched h.matched)

lemma reaches_piece (hs : Separates p isPiece) {o : Ongoing p.Chunk} (h : Agrees isPiece limit t c)
    (hi : c.phase = .idle) (hc : c.command = none) (hk : c.chunk = some o) :
    Reaches isPiece limit t c ((c.advance .sendNextChunk).sendPiece now) := by
  have hl : o.sends ≤ limit := (show Fits limit c.command c.chunk .idle from hi ▸ h.matched.fits).2.2 o hk
  exact reaches_sendPiece (c := c.advance .sendNextChunk) hs (h.conveys.congr rfl) hk (phase_advance hi rfl)
    (h.rested hi) (fun u hu => h.sent u hu o hk) hl ((Move.piece hi hc hk).matched h.matched)

theorem reaches_takeUpWork (hs : Separates p isPiece) (now : Nat) (c : Controller p) :
    ∀ t, Agrees isPiece limit t c → Reaches isPiece limit t c (c.takeUpWork now) := by
  -- Each piece of work starts from wherever the one before has left the upload, so `t` is not fixed.
  fun_induction takeUpWork now c with
  | case1 c hi o hc next hn ih => exact fun t h => .trans (reaches_request hs h hi hc) ih
  | case2 c hi o hc next hn => exact fun t h => reaches_request hs h hi hc
  | case3 c hi o hc hk next hn ih => exact fun t h => .trans (reaches_piece hs h hi hc hk) ih
  | case4 c hi o hc hk next hn => exact fun t h => reaches_piece hs h hi hc hk
  | case5 c hi item queue hc hk hq ih => exact fun t h => .trans (reaches_take h hi hc hk hq) ih
  | case6 c hi item queue hc hk hq ih => exact fun t h => .trans (reaches_takePiece h hi hc hk hq) ih
  | case7 | case8 => exact fun t h => h.reaches rfl

lemma reaches_corrupt (fault : Fault) (now : Nat) (h : Agrees isPiece limit t c) :
    Reaches isPiece limit t c (c.takeItem now (.corrupt fault)) := by
  simp only [takeItem]
  split
  · rename_i hp
    have hm : ({ c with spoilt := some fault } : Controller p).Matched limit :=
      ⟨h.matched.budget, h.matched.fits, fun _ => hp⟩
    exact (h.congr hm rfl (.inr ⟨rfl, id⟩)).reaches rfl
  · exact h.reaches rfl

lemma agrees_receiver (receiver : Receiver p.Scan) (h : Agrees isPiece limit t c) :
    Agrees isPiece limit t { c with receiver := receiver } :=
  h.congr (h.matched.congr rfl rfl rfl rfl id) rfl (.inr ⟨rfl, id⟩)

lemma logs_takeItem (hs : Separates p isPiece) (item : Item p.Frame) (h : Agrees isPiece limit t c) :
    Logs isPiece limit t c ((c.acceptance? item).toList ++ c.news (c.takeItem now item)) (c.takeItem now item) := by
  have quiet (ha : c.acceptance? item = none) (hr : Reaches isPiece limit t c (c.takeItem now item)) :
      Logs isPiece limit t c ((c.acceptance? item).toList ++ c.news (c.takeItem now item)) (c.takeItem now item) := by
    rw [ha]
    exact hr.logs
  cases item with
  | corrupt fault => exact quiet rfl (reaches_corrupt fault now h)
  | ack =>
    refine quiet rfl ?_
    by_cases hp : c.phase = .waitingAck
    · exact reaches_takeAck hs h hp
    · simp only [takeItem, takeAck_refused hp]
      exact h.reaches rfl
  | nak => exact quiet rfl (reaches_takeNak hs h ((moves_takeNak now c).keep Move.matched h.matched))
  | frame frame =>
    by_cases hp : c.phase = .waitingResponse
    · refine quiet (by simp [acceptance?, hp]) ?_
      simp only [takeItem, hp, if_true]
      cases hc : c.command with
      | none => simpa [takeReply, hc] using h.reaches rfl
      | some o => exact reaches_takeReply hs frame h hp hc
    · by_cases hq : c.phase = .waitingChunkResponse
      · obtain ⟨-, o, hk, -⟩ : Fits limit c.command c.chunk .waitingChunkResponse := hq ▸ h.matched.fits
        have ht : c.takeItem now (.frame frame) = c.takeChunkReply now frame := by simp [takeItem, hq]
        by_cases hj : p.judgeChunk o.item frame = .accepted
        · have ha : c.acceptance? (.frame frame) = some (.accepted o.item frame) := by
            simp [acceptance?, hq, hk, hj, Option.filter]
          obtain ⟨u, hu, hr⟩ := reaches_accepted hs h hq hk hj
          rw [ht, ha]
          exact hr.logs_after hu rfl
        · refine quiet (by simp [acceptance?, hq, hk, hj]) ?_
          rw [ht]
          exact reaches_takeChunkReply hs h hq hk hj
      · refine quiet (by simp [acceptance?, hq]) ?_
        have hn : c.phase.next? p.acknowledged .responseReceived = none := by
          cases hx : c.phase <;> simp_all [Phase.next?]
        simp only [takeItem, hp, hq, if_false, advance_unknown hn]
        exact h.reaches rfl

lemma logs_items (hs : Separates p isPiece) (items : List (Item p.Frame)) (h : Agrees isPiece limit t c) :
    Logs isPiece limit t c (c.itemsLog now items) (items.foldl (takeItem now) c) := by
  induction items generalizing c t with
  | nil => exact h.logs rfl
  | cons item items ih => exact (logs_takeItem hs item h).trans fun u ha => ih ha

lemma reaches_rejectReply (hs : Separates p isPiece) (fault : Fault) (h : Agrees isPiece limit t c) :
    Reaches isPiece limit t c (c.rejectReply now fault) := by
  simp only [rejectReply]
  split
  · rename_i hp
    exact reaches_breakCycle hs _ _ h fun target hn => by simp_all [Phase.next?]
  · split
    · rename_i hp
      exact reaches_repeatPiece hs _ _ h hp rfl
    · exact h.reaches rfl

lemma reaches_settleSpoilt (hs : Separates p isPiece) (now : Nat) (h : Agrees isPiece limit t c) :
    Reaches isPiece limit t c (c.settleSpoilt now) := by
  unfold settleSpoilt
  split
  · split
    · have hm : ({ c with spoilt := none } : Controller p).Matched limit := ⟨h.matched.budget, h.matched.fits, nofun⟩
      exact reaches_rejectReply (c := { c with spoilt := none }) hs _ (h.congr hm rfl (.inr ⟨rfl, id⟩))
    · exact h.reaches rfl
  · exact h.reaches rfl

lemma agrees_watchGap (h : Agrees isPiece limit t c) : Agrees isPiece limit t (c.watchGap now) := by
  have hm : (c.watchGap now).Matched limit := Move.watch.matched h.matched
  unfold watchGap at hm ⊢
  split <;> exact h.congr (by simp_all) rfl (.inr ⟨rfl, id⟩)

lemma logs_drain (hs : Separates p isPiece) (h : Agrees isPiece limit t c) :
    Logs isPiece limit t c (c.drainLog now) (c.drain now) := by
  have hc := agrees_receiver (c.receiver.readAll p.scanner).2 h
  refine (logs_items hs (c.receiver.readAll p.scanner).1 hc).trans fun u hu => Reaches.logs ?_
  refine (reaches_settleSpoilt hs now hu).trans fun v hv => ?_
  exact (agrees_watchGap hv).reaches (by unfold watchGap; split <;> rfl)

lemma completeWrite_cases (now : Nat) (c : Controller p) :
    (c.completeWrite now).upload = c.upload ∧ (c.completeWrite now).outbox = c.outbox ∧
      (c.completeWrite now).held = c.held ∧ ((c.completeWrite now).phase = .idle → c.phase = .idle) := by
  by_cases ha : c.accepts .writeCompleted = true
  · obtain ⟨target, hn⟩ := Option.isSome_iff_exists.mp ha
    have hi : (c.advance .writeCompleted).phase ≠ .idle := by
      rw [phase_advance rfl hn]
      rintro rfl
      cases hp : c.phase <;> simp only [hp, Phase.next?, Option.some.injEq, reduceCtorEq] at hn
      split at hn <;> cases hn
    simp only [completeWrite, ha, if_true]
    split <;> exact ⟨rfl, rfl, rfl, (absurd · hi)⟩
  · simp only [completeWrite, ha]
    exact ⟨rfl, rfl, rfl, id⟩

lemma idle_of_broken {acknowledged : Bool} {phase target : Phase} {trigger : Trigger}
    (ht : trigger = .writeFailed ∨ trigger = .writeTimeout ∨ trigger = .ackTimeout)
    (h : phase.next? acknowledged trigger = some target) : target = .idle := by
  rcases ht with rfl | rfl | rfl <;> cases phase <;> simp_all [Phase.next?]

lemma reaches_endWrite (hs : Separates p isPiece) (result : WriteResult) (h : Agrees isPiece limit t c) :
    Reaches isPiece limit t c (c.endWrite now result) := by
  cases result with
  | completed =>
    have hm : (c.endWrite now .completed).Matched limit :=
      (moves_endWrite now c .completed).keep LineMove.matched h.matched
    obtain ⟨hu, ho, hh, hp⟩ := completeWrite_cases now c
    exact (h.congr hm hu (.inr ⟨hh, hp⟩)).reaches ho
  | failed detail => exact reaches_breakCycle hs _ _ h fun _ hn => idle_of_broken (by simp) hn
  | timedOut => exact reaches_breakCycle hs _ _ h fun _ hn => idle_of_broken (by simp) hn

lemma reaches_releaseHeld (hs : Separates p isPiece) (h : Agrees isPiece limit t c) :
    Reaches isPiece limit t c c.releaseHeld := by
  unfold releaseHeld
  cases hh : c.held with
  | none => exact h.reaches rfl
  | some bytes =>
    have hm : ({ c with held := none }.transmit bytes).Matched limit := h.matched.congr rfl rfl rfl rfl id
    have hv : Conveys t ({ c with held := none }.transmit bytes) := h.conveys.congr rfl
    obtain ⟨hother, hpiece⟩ := h.held bytes hh
    rcases Option.eq_none_or_eq_some c.chunk with hk | ⟨o, hk⟩
    · have hf : UploadSteps isPiece limit t [.effect (.transmit bytes)] t :=
        (UploadStep.other (hother hk) (h.conveys.untouched hk)).steps
      exact ⟨[.transmit bytes], t, rfl, hf, agrees_without hm hv hk (fun _ => rfl) (by simp [transmit])⟩
    · obtain ⟨seq, hb⟩ := hpiece o hk
      obtain ⟨u, rfl, hd, -⟩ := h.conveys.under_way hk
      have hw : u.writes + 1 ≤ o.sends := by simpa [hh] using h.writes u rfl o hk
      have hl : u.writes ≤ limit := Nat.le_of_succ_le_succ (Nat.le_trans hw (h.matched.chunk_sends hk))
      refine ⟨[.transmit bytes], _, rfl, (UploadStep.written hd hb (hs.chunk hb) hl).steps,
        agrees_closed hm (hv.wrote hk) rfl ?_⟩
      rintro _ ⟨⟩ o' ho
      cases hk.symm.trans ho
      exact hw

lemma agrees_stopTimer (timer : Timer) (h : Agrees isPiece limit t c) : Agrees isPiece limit t (c.stopTimer timer) :=
  h.congr (h.matched.congr (by cases timer <;> rfl) rfl rfl rfl id) rfl (.inr ⟨rfl, id⟩)

lemma reaches_missAck (hs : Separates p isPiece) (h : Agrees isPiece limit t c) :
    Reaches isPiece limit t c c.missAck :=
  reaches_breakCycle hs _ _ h fun _ hn => idle_of_broken (by simp) hn

lemma reaches_missResponse (hs : Separates p isPiece) (h : Agrees isPiece limit t c) :
    Reaches isPiece limit t c (c.missResponse now) := by
  simp only [missResponse]
  split
  · rename_i hp
    exact reaches_repeatPiece hs _ _ h hp rfl
  · refine reaches_breakCycle hs _ _ h fun target hn => ?_
    cases hp : c.phase <;> simp_all [Phase.next?]

lemma fire_timers (timer : Timer) (now : Nat) (c : Controller p) :
    { c with timers := (c.timers.fire timer now).2 } = c ∨
      { c with timers := (c.timers.fire timer now).2 } = c.stopTimer timer := by
  unfold Timers.fire
  split
  · exact .inl rfl
  · split
    · exact .inr rfl
    · exact .inl rfl

lemma agrees_fire (timer : Timer) (now : Nat) (h : Agrees isPiece limit t c) :
    Agrees isPiece limit t { c with timers := (c.timers.fire timer now).2 } := by
  rcases fire_timers timer now c with he | he <;> rw [he]
  · exact h
  · exact agrees_stopTimer timer h

lemma reaches_fire (hs : Separates p isPiece) (timer : Timer) (ht : timer ≠ .frameGap) (now : Nat)
    (h : Agrees isPiece limit t c) : Reaches isPiece limit t c (c.fire timer now) := by
  have hf := agrees_fire timer now h
  simp only [fire]
  split
  · cases timer with
    | frameGap => exact absurd rfl ht
    | writeSpacing => exact reaches_releaseHeld hs hf
    | ack => exact reaches_missAck hs hf
    | response => exact reaches_missResponse hs hf
  · exact hf.reaches rfl

lemma reaches_dropCandidate (now : Nat) (h : Agrees isPiece limit t c) :
    Reaches isPiece limit t c (c.dropCandidate now) := by
  simp only [dropCandidate, Receiver.giveUp]
  split
  · exact (agrees_receiver c.receiver h).reaches rfl
  · exact reaches_corrupt _ now (agrees_receiver _ h)

lemma logs_fireGap (hs : Separates p isPiece) (h : Agrees isPiece limit t c) :
    Logs isPiece limit t c (c.gapLog now) (c.fire .frameGap now) := by
  have hf := agrees_fire .frameGap now h
  simp only [fire, gapLog]
  split
  · exact (reaches_dropCandidate now hf).logs.trans fun u hu => logs_drain hs hu
  · exact hf.logs rfl

theorem logs_call (hs : Separates p isPiece) (now : Nat) (call : Call) (h : Agrees isPiece limit t c) :
    Logs isPiece limit t c (c.callLog now call.input) (c.during now call.input) := by
  cases call with
  | woken => exact (reaches_takeUpWork hs now c t h).logs
  | bytes data =>
    have hr : Agrees isPiece limit t { c with timers := c.timers.heard now, receiver := c.receiver.append data } :=
      h.congr (h.matched.congr rfl rfl rfl rfl id) rfl (.inr ⟨rfl, id⟩)
    exact (logs_drain (c := { c with timers := c.timers.heard now, receiver := c.receiver.append data }) hs hr).trans
      fun u hu => (reaches_takeUpWork hs now _ u hu).logs
  | wrote result =>
    exact ((reaches_endWrite hs result h).trans (reaches_takeUpWork hs now _)).logs
  | tick =>
    refine (logs_fireGap hs h).trans fun u hu => Reaches.logs ?_
    refine (reaches_fire hs .writeSpacing nofun now hu).trans fun v hv => ?_
    refine (reaches_fire hs .ack nofun now hv).trans fun w hw => ?_
    exact (reaches_fire hs .response nofun now hw).trans (reaches_takeUpWork hs now _)

end Controller

namespace Duty

variable {f : Fitting}

def entries (d : Duty f) : Errand f → List (Entry f.peripheral)
  | .request _ => []
  | .upload chunks =>
    match (d.controller.submitUpload chunks).1 with
    | .ok _ => if chunks.isEmpty then [] else [.begun chunks]
    | .error _ => []
  | .call now call => d.controller.callLog now call.input

def effects (d : Duty f) : Errand f → List Effect
  | .request _ | .upload _ => []
  | .call now call => (d.controller.step now call.input).1

def log (d : Duty f) : List (Errand f) → List (Entry f.peripheral)
  | [] => []
  | e :: errands => d.entries e ++ (d.next e).log errands

def allEffects (d : Duty f) : List (Errand f) → List Effect
  | [] => []
  | e :: errands => d.effects e ++ (d.next e).allEffects errands

variable {isPiece : Bytes → Bool} {limit : Nat} {d : Duty f} {t : Option (Transfer f.peripheral)}

structure Keeps (isPiece : Bytes → Bool) (limit : Nat) (t : Option (Transfer f.peripheral)) (d : Duty f) : Prop where
  agrees : d.controller.Agrees isPiece limit t
  outbox : d.controller.outbox = []

lemma keeps_fresh (isPiece : Bytes → Bool) (session : f.peripheral.Session) (timing : Settings.Timing) :
    Keeps (f := f) isPiece timing.maxRetries none { controller := .fresh f.peripheral session timing } := by
  have hm : (Controller.fresh f.peripheral session timing).Matched timing.maxRetries :=
    Controller.Ended.matched_empty ⟨rfl, rfl, rfl, .inl rfl⟩ rfl rfl
  exact ⟨⟨hm, ⟨rfl, rfl, rfl, rfl⟩, fun _ => rfl, nofun, nofun⟩, rfl⟩

lemma Keeps.request (h : d.Keeps isPiece limit t) (r : f.Request) : (d.next (.request r)).Keeps isPiece limit t := by
  have hn : (d.next (.request r)).controller = f.submit r d.controller := rfl
  rw [f.submit_eq, Fitting.demands] at hn
  have hm : (d.next (.request r)).controller.Matched limit := by
    rw [hn]
    cases f.command? r <;> exact h.agrees.matched.congr rfl rfl rfl rfl id
  have hu : (d.next (.request r)).controller.upload = d.controller.upload := by
    rw [hn]
    cases f.command? r <;> rfl
  have hp : (d.next (.request r)).controller.held = d.controller.held ∧
      (d.next (.request r)).controller.phase = d.controller.phase := by
    rw [hn]
    cases f.command? r <;> exact ⟨rfl, rfl⟩
  refine ⟨h.agrees.congr hm hu (.inr ⟨hp.1, hp.2.symm.trans⟩), ?_⟩
  rw [hn]
  cases f.command? r <;> exact h.outbox

lemma Keeps.upload (h : d.Keeps isPiece limit t) (chunks : List f.peripheral.Chunk) :
    Exchange.effects (d.entries (.upload chunks)) = [] ∧
      ∃ u, UploadSteps isPiece limit t (d.entries (.upload chunks)) u ∧
        (d.next (.upload chunks)).Keeps isPiece limit u := by
  cases ha : d.controller.queue.uploading with
  | true =>
    obtain ⟨text, hb⟩ := (Controller.submitUpload_busy_iff chunks d.controller).mpr ha
    have hn : d.next (.upload chunks) = d := by simp [next, hb]
    have he : d.entries (.upload chunks) = [] := by simp [entries, hb]
    rw [hn, he]
    exact ⟨rfl, t, .nil, h⟩
  | false =>
    by_cases hne : chunks = []
    · subst hne
      obtain ⟨hk, ho, hb⟩ := h.agrees.begin_nothing ha
      have he : d.entries (.upload []) = [] := by simp [entries, hk]
      rw [he]
      exact ⟨rfl, t, .nil, hb, ho.trans h.outbox⟩
    · obtain ⟨rfl, hk, ho, hb⟩ := h.agrees.begin hne ha
      have he : d.entries (.upload chunks) = [.begun chunks] := by simp [entries, hk, hne]
      rw [he]
      exact ⟨rfl, _, (UploadStep.begun hne).steps, hb, ho.trans h.outbox⟩

lemma Keeps.call (hs : Separates f.peripheral isPiece) (h : d.Keeps isPiece limit t) (now : Nat) (call : Call) :
    Exchange.effects (d.controller.callLog now call.input) = (d.controller.step now call.input).1 ∧
      ∃ u, UploadSteps isPiece limit t (d.controller.callLog now call.input) u ∧
        (d.next (.call now call)).Keeps isPiece limit u := by
  obtain ⟨ho, u, hf, ha⟩ := Controller.logs_call hs now call h.agrees
  have hn : (d.next (.call now call)).controller = (d.controller.during now call.input).flush.2 :=
    congrArg Prod.snd (Controller.step_eq now d.controller call.input)
  rw [h.outbox, List.nil_append] at ho
  rw [Controller.step_eq]
  refine ⟨ho.symm, u, hf, hn ▸ ?_, hn ▸ rfl⟩
  exact ha.congr (ha.matched.congr rfl rfl rfl rfl id) rfl (.inr ⟨rfl, id⟩)

lemma Keeps.next (hs : Separates f.peripheral isPiece) (h : d.Keeps isPiece limit t) (e : Errand f) :
    Exchange.effects (d.entries e) = d.effects e ∧
      ∃ u, UploadSteps isPiece limit t (d.entries e) u ∧ (d.next e).Keeps isPiece limit u := by
  cases e with
  | request r => exact ⟨rfl, t, .nil, h.request r⟩
  | upload chunks => exact h.upload chunks
  | call now call => exact h.call hs now call

theorem Keeps.log (hs : Separates f.peripheral isPiece) (h : d.Keeps isPiece limit t) (errands : List (Errand f)) :
    Exchange.effects (d.log errands) = d.allEffects errands ∧
      ∃ u, UploadSteps isPiece limit t (d.log errands) u ∧ (errands.foldl Duty.next d).Keeps isPiece limit u := by
  induction errands generalizing d t with
  | nil => exact ⟨rfl, t, .nil, h⟩
  | cons e errands ih =>
    obtain ⟨he, u, hf, hk⟩ := h.next hs e
    obtain ⟨hes, v, hg, hl⟩ := ih hk
    refine ⟨?_, v, hf.append hg, hl⟩
    rw [Duty.log, Controller.effects_append, he, hes]
    rfl

lemma begun_entries {chunks : List f.peripheral.Chunk} {e : Errand f} (h : .begun chunks ∈ d.entries e) :
    e = .upload chunks := by
  cases e with
  | request r => exact nomatch h
  | call now call => exact absurd h (Controller.begun_notMem_callLog now d.controller call.input)
  | upload more =>
    simp only [entries] at h
    split at h
    · split at h
      · exact nomatch h
      · cases List.mem_singleton.mp h
        rfl
    · exact nomatch h

lemma begun_log {chunks : List f.peripheral.Chunk} {errands : List (Errand f)} (h : .begun chunks ∈ d.log errands) :
    .upload chunks ∈ errands := by
  induction errands generalizing d with
  | nil => exact nomatch h
  | cons e errands ih =>
    rcases List.mem_append.mp h with h | h
    · exact begun_entries h ▸ List.mem_cons_self
    · exact List.mem_cons_of_mem e (ih h)

end Duty

end ParkingStation.Exchange
