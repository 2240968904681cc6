import ParkingStation.Proofs.CardReader.Grammar
import ParkingStation.Proofs.Exchange.QuietLine
import ParkingStation.Proofs.Exchange.RetryBudget

namespace ParkingStation.CardReader

open Framing Control Exchange

variable {text : Bytes} {b : UInt8}

lemma audible : Audible peripheral where
  decisive := countable.decisive
  lawful := scanner_lawful
  idle := rfl
  stalled := rfl

lemma conclude_cases (body : Bytes) : (∃ f, conclude body = .frame f) ∨ ∃ fault, conclude body = .corrupt fault := by
  unfold conclude
  split
  · exact .inl ⟨_, rfl⟩
  · exact .inr ⟨_, rfl⟩

lemma attempt_inside {body : Bytes} {check : UInt8} {pending : Option Fault} {bs rest : Bytes} {signal : Signal Frame}
    (h : attempt scanner (.inside body check pending) bs = some (signal, rest)) :
    (∃ f, signal = .frame f) ∨ ∃ fault, signal = .corrupt fault := by
  induction bs generalizing body check pending with
  | nil => cases h
  | cons b bs ih =>
    by_cases hc : body.head? = some etx ∧ b = check
    · have hs : scanner.step (.inside body check pending) b = (.outside, conclude body.tail.reverse) := if_pos hc
      rw [attempt_decided hs (conclude_ne_more _)] at h
      cases h
      exact conclude_cases _
    · by_cases hl : body.length < maxBody
      · have hs : scanner.step (.inside body check pending) b =
            (.inside (b :: body) (check ^^^ b)
              (if body.head? = some etx ∧ 4 ≤ body.length then some (.checksum check.toUInt16 b.toUInt16) else none),
              .more) := (if_neg hc).trans (if_pos hl)
        rw [attempt, hs] at h
        exact ih h
      · have hs : scanner.step (.inside body check pending) b = (.outside, .corrupt (.overflow (body.length + 1))) :=
          (if_neg hc).trans (if_neg hl)
        rw [attempt_decided hs (by simp)] at h
        cases h
        exact .inr ⟨_, rfl⟩

lemma readAll_text (text : Bytes) :
    let (items, rest) := ((Receiver.fresh scanner).append (stx :: text)).readAll scanner
    (∃ f, .frame f ∈ items) ∨ (∃ fault, .corrupt fault ∈ items) ∨ rest.buffer = stx :: text := by
  have hr := (Receiver.readAll_spec scanner_lawful ((Receiver.fresh scanner).append (stx :: text)) .start).2
  rcases hread : ((Receiver.fresh scanner).append (stx :: text)).readAll scanner with ⟨items, rest⟩
  rw [hread] at hr
  have hb : ((Receiver.fresh scanner).append (stx :: text)).buffer = stx :: text := rfl
  rw [hb] at hr
  cases ha : attempt scanner scanner.start (stx :: text) with
  | none =>
    rw [rescan_unfinished ha] at hr
    exact .inr (.inr (Prod.mk.inj hr).2.symm)
  | some decided =>
    obtain ⟨signal, more⟩ := decided
    have hi : attempt scanner (.inside [] stx none) text = some (signal, more) := ha
    rw [rescan_decided ha] at hr
    have hitems : signal.item?.toList ++ _ = items := (Prod.mk.inj hr).1
    rw [← hitems]
    rcases attempt_inside hi with ⟨f, rfl⟩ | ⟨fault, rfl⟩
    · exact .inl ⟨f, List.mem_cons_self⟩
    · exact .inr (.inl ⟨fault, List.mem_cons_self⟩)

lemma drain_text (text : Bytes) :
    let (items, last) := ((Receiver.fresh scanner).append (stx :: text)).drain scanner
    (∃ f, .frame f ∈ items) ∨ (∃ fault, .corrupt fault ∈ items) ∨ last.buffer ≠ [] := by
  have ht := readAll_text text
  rcases hread : ((Receiver.fresh scanner).append (stx :: text)).readAll scanner with ⟨items, rest⟩
  rw [hread] at ht
  have hd : ((Receiver.fresh scanner).append (stx :: text)).drain scanner =
      ((Receiver.fresh scanner).append (stx :: text)).drainFor scanner (text.length + 1) := rfl
  rw [hd]
  rcases Receiver.giveUp_cases scanner rest with ⟨-, hu⟩ | ⟨fault, next, -, hu, -, -⟩
  · rw [Receiver.drainFor_over hread hu]
    exact ht.imp_right (Or.imp_right fun hb => by simp [hb])
  · rw [Receiver.drainFor_goes_on hread hu]
    exact .inr (.inl ⟨fault, List.mem_append_right items List.mem_cons_self⟩)

lemma scanAt_candidate {scan : Scan} (h : Candidate scanner scan (stx :: text).reverse) :
    scanAt (stx :: text) text.length = scan ∧ ∀ k ≤ text.length, signalAt (stx :: text) k = some .more := by
  have ht := h.trace
  rw [List.reverse_reverse] at ht
  refine ⟨?_, fun k hk => ?_⟩
  · rw [scanAt, ← List.length_cons, List.take_length, ht]
  · rw [signalAt, ht, List.getElem?_replicate, if_pos]
    simpa using Nat.lt_succ_of_le hk

lemma short_of_unstalled {scan : Scan} (h : Candidate scanner scan (stx :: text).reverse) (hs : stalled scan = none)
    (he : (stx :: text)[text.length - 1]? = some etx) : text.length < 5 := by
  obtain ⟨hk, hm⟩ := scanAt_candidate h
  have hl := length_seen_lt h
  rw [List.length_reverse, List.length_cons] at hl
  obtain ⟨b, hb⟩ : ∃ b, (stx :: text)[text.length]? = some b := ⟨_, List.getElem?_eq_getElem (Nat.lt_succ_self _)⟩
  have hg := stalled_scanAt hb hm
  rw [hk, hs] at hg
  -- a mismatch would be stalled, and a match would have closed the candidate
  by_contra hlong
  refine not_closesAt (by unfold maxFrame at hl; omega) hm ⟨by omega, he, hb.trans (congrArg some ?_)⟩
  by_contra hc
  rw [if_pos ⟨Nat.le_of_not_lt hlong, he, hc⟩] at hg
  cases hg

lemma getElem?_of_suffix {front : Bytes} {c : UInt8} (hf : stx :: text <:+ front ++ [c, b]) (hl : text ≠ []) :
    (stx :: text)[text.length - 1]? = some c := by
  obtain ⟨gap, hg⟩ := hf
  have hp := List.length_pos_iff.mpr hl
  have hlen := congrArg List.length hg
  simp only [List.length_append, List.length_cons, List.length_nil] at hlen
  have hi : front.length = gap.length + (text.length - 1) := by omega
  calc (stx :: text)[text.length - 1]?
    _ = (gap ++ stx :: text)[front.length]? := by
      rw [hi, List.getElem?_append_right (Nat.le_add_right _ _), Nat.add_sub_cancel_left]
    _ = some c := by rw [hg, List.getElem?_append_right (Nat.le_refl _), Nat.sub_self]; rfl

lemma unstalled_short {scan : Scan} {seen front : Bytes} (h : Candidate scanner scan seen) (hs : stalled scan = none)
    (hn : seen ≠ []) (hf : seen.reverse <:+ front ++ [etx, b]) : seen.reverse.head? = some stx ∧ seen.length ≤ 5 := by
  obtain ⟨text, rfl⟩ : ∃ text, seen = (stx :: text).reverse := by
    rw [seen_eq h] at hn ⊢
    cases scan with
    | outside => exact absurd rfl hn
    | inside body check pending => exact ⟨body.reverse, by simp [Scan.taken]⟩
  rw [List.reverse_reverse] at hf ⊢
  refine ⟨rfl, ?_⟩
  by_cases ht : text = []
  · simp [ht]
  · have := short_of_unstalled h hs (getElem?_of_suffix hf ht)
    simp only [List.length_reverse, List.length_cons]
    omega

lemma drained_reply (f : Frame) (b : UInt8) :
    let (items, kept) := ((Receiver.fresh scanner).append (checked f ++ [b])).drain scanner
    ((∃ g, .frame g ∈ items) ∨ (∃ fault, .corrupt fault ∈ items) ∨ kept.buffer ≠ []) ∧
      (∀ g, .frame g ∈ items → ∃ written, encode g = .ok written ∧ written <:+: checked f ++ [b]) ∧
      (kept.buffer ≠ [] →
        kept.buffer <:+ checked f ++ [b] ∧ kept.buffer.head? = some stx ∧ kept.buffer.length ≤ 5) := by
  have ht := drain_text (f.kind :: f.cm :: f.pm :: f.data ++ [etx, b])
  have hr : checked f ++ [b] = stx :: (f.kind :: f.cm :: f.pm :: f.data ++ [etx, b]) := by simp [checked]
  have hs := Receiver.drainFor_spec scanner_lawful scanner_exact rfl _
    ((Receiver.fresh scanner).append (checked f ++ [b])) .start (Nat.le_refl _)
  rw [← hr, Receiver.drain] at ht
  rw [Receiver.drain]
  rcases hd : Receiver.drainFor scanner ((Receiver.fresh scanner).append (checked f ++ [b])).buffer.length
    ((Receiver.fresh scanner).append (checked f ++ [b])) with ⟨items, kept⟩
  rw [hd] at hs ht
  obtain ⟨hk, hq, dropped, hb, hf⟩ := hs
  -- nothing is left to scan, so what is kept is the candidate
  have hbuf : kept.buffer = kept.seen.reverse := by rw [Receiver.buffer, hk.ahead, List.append_nil]
  refine ⟨ht, fun g hg => ?_, fun hn => ?_⟩
  · have hm : g ∈ delivered items := List.mem_filterMap.mpr ⟨.frame g, hg, rfl⟩
    obtain ⟨written, he, hi⟩ := hf.stands hm
    exact ⟨written, he, hi.trans ⟨[], kept.buffer, hb.symm⟩⟩
  · have hsuf : kept.buffer <:+ checked f ++ [b] := ⟨dropped, hb.symm⟩
    have hfront : checked f ++ [b] = (stx :: f.kind :: f.cm :: f.pm :: f.data) ++ [etx, b] := by simp [checked]
    obtain ⟨hh, hl⟩ := unstalled_short hk.candidate hq (by simpa [hbuf] using hn) (hfront ▸ hbuf ▸ hsuf)
    exact ⟨hsuf, hbuf ▸ hh, by rwa [hbuf, List.length_reverse]⟩

section Engine

variable {session : peripheral.Session} {timing : Settings.Timing} {now deadline : Nat} {c : Controller peripheral}

/-- A reply with any block check comes in one read while the receiver is empty, and nothing follows it. The cycle ends
in the silence if an item read from it ends it, or if one is rejected and nothing is left. Otherwise a frame stands in
the reply, or the bytes at its end, five at most, may be the start of one, and the reply is waited for until its
deadline. -/
theorem spoilt_reply_ends_iff (h : Driven (.fresh peripheral session timing) now [] c)
    (hp : c.phase = .waitingResponse) (hd : c.timers.deadline .response = some deadline) (hb : c.receiver.buffer = [])
    (f : Frame) (b : UInt8) (ht : now + timing.frameGap * (checked f ++ [b]).length < deadline) :
    let reply := checked f ++ [b]
    let heard := (c.step now (.bytes reply)).2
    let (items, kept) := ((Receiver.fresh scanner).append reply).drain scanner
    (EndsInSilence deadline heard ↔
        (∃ item ∈ items, (c.itemEnding? item).isSome) ∨ kept.buffer = [] ∧ ∃ fault, .corrupt fault ∈ items) ∧
      (WaitsOut deadline heard ↔ ¬ EndsInSilence deadline heard) ∧
      (WaitsOut deadline heard →
        (∃ g written, .frame g ∈ items ∧ encode g = .ok written ∧ written <:+: reply) ∨
          kept.buffer <:+ reply ∧ kept.buffer.head? = some stx ∧ kept.buffer.length ≤ 5) := by
  intro reply heard
  have hr := drained_reply f b
  have hq := h.quiet audible hp hd hb reply ht
  rcases hread : ((Receiver.fresh scanner).append reply).drain scanner with ⟨items, kept⟩
  rw [hread] at hr
  obtain ⟨hends, hwaits⟩ : (EndsInSilence deadline heard ↔ c.EndedBy none (items, kept)) ∧
      (WaitsOut deadline heard ↔ ¬ c.EndedBy none (items, kept)) := hread ▸ hq
  obtain ⟨hread, hframes, hkept⟩ := hr
  have hcut : c.EndedBy none (items, kept) ↔
      (∃ item ∈ items, (c.itemEnding? item).isSome) ∨ kept.buffer = [] ∧ ∃ fault, .corrupt fault ∈ items :=
    or_congr_right (and_congr_right fun _ => or_iff_right (by simp))
  refine ⟨hends.trans hcut, hwaits.trans (not_congr hends).symm, fun hw => ?_⟩
  have hn := hwaits.mp hw
  -- if nothing is kept, something was read, and had it been rejected the cycle would have ended
  by_cases hk : kept.buffer = []
  · rcases hread with ⟨g, hg⟩ | hc | hk'
    · obtain ⟨written, he, hi⟩ := hframes g hg
      exact .inl ⟨g, written, hg, he, hi⟩
    · exact absurd (.inr ⟨hk, .inr hc⟩) hn
    · exact absurd hk hk'
  · exact .inr (hkept hk)

end Engine

def unspaced : Settings.Timing := { interFrameDelay := 0 }

def resetDone : Frame := ⟨0x50, 0x30, 0x30, [0x30, 0x30]⟩

def toReset : Controller peripheral := (Controller.fresh peripheral {} unspaced).meet (.submit Command.init)

def requested : Controller peripheral := ((toReset.step 0 .woken).2.step 0 (.wrote .completed)).2

def enquired : Controller peripheral :=
  ((requested.step 0 (.bytes [Control.ack])).2.step 0 (.wrote .completed)).2

lemma driven_requested : Driven (.fresh peripheral {} unspaced) 0 [] requested := by
  have hs : Driven (.fresh peripheral {} unspaced) 0 [] toReset := .meet (.start 0) _
  have ho : transmissions (toReset.step 0 .woken).1 = [[2, 67, 48, 48, 3, 66]] := by decide +kernel
  have hn : transmissions ((toReset.step 0 .woken).2.step 0 (.wrote .completed)).1 = [] := by decide +kernel
  have hw := hs.call .woken (by simp)
  simp only [Call.input, ho] at hw
  have hd := hw.wrote .completed
  rwa [hn] at hd

lemma step_acknowledged :
    requested.step 0 (.bytes [Control.ack]) =
      ((((Controller.takeItem 0 { requested with timers := requested.timers.heard 0 } .ack).settleSpoilt
        0).watchGap 0).takeUpWork 0).flush := by
  have hf : requested.receiver = .fresh scanner :=
    (driven_requested.attentive scanner_lawful (Receiver.settled_fresh scanner)).eq_fresh (by decide +kernel)
  have hr : (requested.receiver.append [Control.ack]).read scanner = (some .ack, requested.receiver) := by
    rw [hf]
    simp [Receiver.read, Receiver.append, Receiver.fresh, Receiver.scanFrom, scanner, step, stx, Control.ack]
    rfl
  have hn : requested.receiver.readAll scanner = ([], requested.receiver) := hf ▸ Receiver.readAll_fresh scanner
  have ha : (requested.receiver.append [Control.ack]).readAll peripheral.scanner = ([.ack], requested.receiver) :=
    Receiver.readAll_of_some hr hn
  simp only [Controller.step, Controller.hear, Controller.drain, ha]
  rfl

lemma driven_enquired :
    Driven (.fresh peripheral {} unspaced) 0 [] enquired ∧ enquired.phase = .waitingResponse ∧
      enquired.timers.deadline .response = some 2000 ∧ enquired.receiver.buffer = [] := by
  have ha := driven_requested.call (.bytes [Control.ack]) (by simp)
  have ho : transmissions (requested.step 0 (.bytes [Control.ack])).1 = [[enq]] := by
    rw [step_acknowledged]
    decide +kernel
  simp only [Call.input, ho] at ha
  have hd := ha.wrote .completed
  have hn : transmissions ((requested.step 0 (.bytes [Control.ack])).2.step 0 (.wrote .completed)).1 = [] := by
    rw [step_acknowledged]
    decide +kernel
  rw [hn] at hd
  refine ⟨hd, ?_⟩
  rw [enquired, step_acknowledged]
  decide +kernel

theorem reset_asked_for_again :
    let heard := (enquired.step 0 (.bytes (checked resetDone ++ [0x50]))).2
    Driven (.fresh peripheral {} unspaced) 0 [] enquired ∧ EndsInSilence 2000 heard := by
  obtain ⟨h, hp, hd, hb⟩ := driven_enquired
  have hn : ((Receiver.fresh scanner).append (checked resetDone ++ [0x50]).tail).read scanner =
      (none, .fresh scanner) := by
    simp [Receiver.read, Receiver.fresh, Receiver.append, Receiver.scanFrom, scanner, step, checked, resetDone, stx,
      etx, Control.ack, nak]
  have hr : ((Receiver.fresh scanner).append (checked resetDone ++ [0x50])).drain scanner =
      ([.corrupt (.checksum 0x51 0x50)], .fresh scanner) :=
    Receiver.drain_once (Option.isNone_iff_eq_none.mp (by decide +kernel)) (by decide +kernel) (by decide) hn rfl
  have hq := spoilt_reply_ends_iff h hp hd hb resetDone 0x50 (by decide)
  dsimp only at hq
  rw [hr] at hq
  exact ⟨h, hq.1.mpr (.inr ⟨rfl, _, List.mem_cons_self⟩)⟩

theorem start_of_text_waited_out :
    let reply := checked resetDone ++ [stx]
    let heard := (enquired.step 0 (.bytes reply)).2
    stx ≠ Checksum.block 0 (checked resetDone) ∧ Driven (.fresh peripheral {} unspaced) 0 [] enquired ∧
      enquired.phase = .waitingResponse ∧ enquired.timers.deadline .response = some 2000 ∧
      enquired.receiver.buffer = [] ∧ 0 + unspaced.frameGap * reply.length < 2000 ∧ WaitsOut 2000 heard ∧
      ¬ EndsInSilence 2000 heard := by
  obtain ⟨h, hp, hd, hb⟩ := driven_enquired
  have hn : ((Receiver.fresh scanner).append (checked resetDone ++ [stx]).tail).read scanner =
      (none, ⟨.inside [] stx none, [stx], []⟩) := by
    simp [Receiver.read, Receiver.fresh, Receiver.append, Receiver.scanFrom, scanner, step, checked, resetDone, stx,
      etx, Control.ack, nak]
  have hr : ((Receiver.fresh scanner).append (checked resetDone ++ [stx])).drain scanner =
      ([.corrupt (.checksum 0x51 0x02)], ⟨.inside [] stx none, [stx], []⟩) :=
    Receiver.drain_once (Option.isNone_iff_eq_none.mp (by decide +kernel)) (by decide +kernel) (by decide) hn rfl
  have ht : 0 + unspaced.frameGap * (checked resetDone ++ [stx]).length < 2000 := by decide
  obtain ⟨he, hw⟩ : (EndsInSilence 2000 (enquired.step 0 (.bytes (checked resetDone ++ [stx]))).2 ↔
        enquired.EndedBy none ([.corrupt (.checksum 0x51 0x02)], ⟨.inside [] stx none, [stx], []⟩)) ∧
      (WaitsOut 2000 (enquired.step 0 (.bytes (checked resetDone ++ [stx]))).2 ↔
        ¬ enquired.EndedBy none ([.corrupt (.checksum 0x51 0x02)], ⟨.inside [] stx none, [stx], []⟩)) :=
    hr ▸ h.quiet audible hp hd hb _ ht
  have hn : ¬ enquired.EndedBy none ([.corrupt (.checksum 0x51 0x02)], ⟨.inside [] stx none, [stx], []⟩) := by
    rintro (⟨item, hm, hi⟩ | ⟨hk, -⟩)
    · cases List.mem_singleton.mp hm
      cases hi
    · cases hk
  exact ⟨by decide, h, hp, hd, hb, ht, hw.mpr hn, fun h => hn (he.mp h)⟩

end ParkingStation.CardReader
