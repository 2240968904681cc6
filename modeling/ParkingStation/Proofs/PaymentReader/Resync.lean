import ParkingStation.Proofs.Framing.Delivery
import ParkingStation.Proofs.PaymentReader.RoundTrip

/-! No byte marks the start of a frame that could not stand elsewhere: a candidate whose length reaches beyond
the frame takes the frame for its own bytes. -/

namespace ParkingStation.PaymentReader

open Framing

variable {algorithm : Checksum.Algorithm} {bs lost : Bytes} {f : Frame}

/-- The bytes do not start with a frame, whatever comes after them. -/
inductive Rejected (algorithm : Checksum.Algorithm) : Bytes → Prop
  | start {b : UInt8} {bs : Bytes} (h : b ≠ attention) : Rejected algorithm (b :: bs)
  | length {code high low : UInt8} {bs : Bytes}
      (h : ¬ (minFrame ≤ (Bytes.word high low).toNat ∧ (Bytes.word high low).toNat ≤ maxFrame)) :
      Rejected algorithm (attention :: code :: high :: low :: bs)
  | checksum {code high low p q : UInt8} {body bs : Bytes} (hl : (Bytes.word high low).toNat = minFrame + body.length)
      (hm : (Bytes.word high low).toNat ≤ maxFrame)
      (h : algorithm.sum (attention :: code :: high :: low :: body) ≠ Bytes.word p q) :
      Rejected algorithm (attention :: code :: high :: low :: body ++ p :: q :: bs)

/-- Every candidate that starts in the bytes that were lost is rejected. -/
def Clear (algorithm : Checksum.Algorithm) (lost bs : Bytes) : Prop :=
  ∀ rest, rest <:+ lost → rest ≠ [] → Rejected algorithm (rest ++ bs)

lemma attempt_candidate {code high low : UInt8}
    (hb : minFrame ≤ (Bytes.word high low).toNat ∧ (Bytes.word high low).toNat ≤ maxFrame) (bs : Bytes) :
    attempt (scanner algorithm) .waiting (attention :: code :: high :: low :: bs) =
      attempt (scanner algorithm) (.body ((Bytes.word high low).toNat - headerLength) [low, high, code, attention]) bs := by
  have h : attempt (scanner algorithm) _ _ = _ := attempt_header code hb bs
  rwa [highFirst_word] at h

lemma attempt_unfinished {left : Nat} (seen : Bytes) (hl : bs.length < left) :
    attempt (scanner algorithm) (.body left seen) bs = none := by
  have h : attempt (scanner algorithm) _ _ = _ := attempt_body seen bs [] hl
  rw [List.append_nil] at h
  rw [h]
  rfl

lemma attempt_complete {code high low : UInt8} {body : Bytes} (hl : (Bytes.word high low).toNat = minFrame + body.length)
    (hm : (Bytes.word high low).toNat ≤ maxFrame) (p q : UInt8) (bs : Bytes) :
    attempt (scanner algorithm) .waiting (attention :: code :: high :: low :: body ++ p :: q :: bs) =
      some (conclude algorithm (q :: p :: (attention :: code :: high :: low :: body).reverse), bs) := by
  have hn : (Bytes.word high low).toNat - headerLength = body.length + 2 := by
    simp only [hl, minFrame, headerLength]
    omega
  have hb : minFrame ≤ (Bytes.word high low).toNat := by omega
  rw [List.cons_append, List.cons_append, List.cons_append, List.cons_append, attempt_candidate ⟨hb, hm⟩, hn,
    attempt_body _ _ _ (by omega), Nat.add_sub_cancel_left, attempt_finish]
  simp

lemma Rejected.attempt (h : Rejected algorithm bs) :
    ∃ signal rest, Framing.attempt (scanner algorithm) .waiting bs = some (signal, rest) ∧
      (signal = .more ∧ rest = bs.tail ∨ signal.rejects = true) := by
  cases h with
  | @start b bs h => exact ⟨.more, bs, by simp [Framing.attempt, scanner, step, h], .inl ⟨rfl, rfl⟩⟩
  | @length code high low bs h => exact ⟨.lost, bs, by simp [Framing.attempt, scanner, step, h], .inr rfl⟩
  | @checksum code high low p q body bs hl hm h =>
    refine ⟨_, bs, attempt_complete hl hm p q bs, .inr ?_⟩
    simp [conclude, h, Signal.rejects]

lemma rescan_rejected (h : Rejected algorithm bs) :
    delivered (rescan (scanner algorithm) bs).1 = delivered (rescan (scanner algorithm) bs.tail).1 ∧
      (rescan (scanner algorithm) bs).2 = (rescan (scanner algorithm) bs.tail).2 := by
  obtain ⟨signal, rest, ha, ⟨rfl, rfl⟩ | hr⟩ := h.attempt
  · rw [rescan_decided ha]
    exact ⟨rfl, rfl⟩
  · rw [rescan_decided ha, hr]
    cases signal with
    | lost | corrupt => exact ⟨rfl, rfl⟩
    | more | frame | ack | nak => cases hr

lemma candidate_decided (algorithm : Checksum.Algorithm) {code high low : UInt8} {body : Bytes}
    (hl : (Bytes.word high low).toNat = minFrame + body.length) (hm : (Bytes.word high low).toNat ≤ maxFrame) (p q : UInt8)
    (bs : Bytes) :
    Rejected algorithm (attention :: code :: high :: low :: body ++ p :: q :: bs) ∨
      ∃ g, encode algorithm g = .ok (attention :: code :: high :: low :: body ++ [p, q]) ∧
        attempt (scanner algorithm) .waiting (attention :: code :: high :: low :: body ++ p :: q :: bs) =
          some (.frame g, bs) := by
  by_cases hs : algorithm.sum (attention :: code :: high :: low :: body) = Bytes.word p q
  · refine .inr ⟨⟨code &&& responseBit ≠ 0, code &&& ~~~ responseBit, body⟩, ?_, ?_⟩
    · have hf : minFrame + body.length ≤ maxFrame := hl ▸ hm
      rw [encode]
      simp only [hf, if_true, wire, checked_of_header hl, hs, highFirst_word]
    · rw [attempt_complete hl hm]
      simp [conclude, hs]
  · exact .inl (.checksum hl hm hs)

lemma rejected_or (hn : bs ≠ []) :
    Rejected algorithm bs ∨ attempt (scanner algorithm) .waiting bs = none ∨
      ∃ g written rest, encode algorithm g = .ok written ∧ bs = written ++ rest ∧
        attempt (scanner algorithm) .waiting bs = some (.frame g, rest) := by
  obtain ⟨start, bs, rfl⟩ := List.exists_cons_of_ne_nil hn
  by_cases hs : start = attention
  · subst hs
    rcases bs with _ | ⟨code, _ | ⟨high, _ | ⟨low, bs⟩⟩⟩
    · exact .inr (.inl rfl)
    · exact .inr (.inl rfl)
    · exact .inr (.inl rfl)
    · by_cases hb : minFrame ≤ (Bytes.word high low).toNat ∧ (Bytes.word high low).toNat ≤ maxFrame
      · by_cases hl : bs.length < (Bytes.word high low).toNat - headerLength
        · refine .inr (.inl ?_)
          rw [attempt_candidate hb, attempt_unfinished _ hl]
        · simp only [minFrame, headerLength] at hb hl
          obtain ⟨body, p, q, rest, rfl, hk⟩ : ∃ body p q rest, bs = body ++ p :: q :: rest ∧
              (Bytes.word high low).toNat = minFrame + body.length := by
            have hd : 2 ≤ (bs.drop ((Bytes.word high low).toNat - minFrame)).length := by
              simp only [List.length_drop, minFrame]
              omega
            rcases he : bs.drop ((Bytes.word high low).toNat - minFrame) with _ | ⟨p, _ | ⟨q, rest⟩⟩
            · simp [he] at hd
            · simp [he] at hd
            · refine ⟨bs.take ((Bytes.word high low).toNat - minFrame), p, q, rest, ?_, ?_⟩
              · rw [← he, List.take_append_drop]
              · simp only [List.length_take, minFrame]
                omega
          rcases candidate_decided algorithm hk hb.2 p q rest with hr | ⟨g, he, ha⟩
          · exact .inl hr
          · exact .inr (.inr ⟨g, _, rest, he, by simp, ha⟩)
      · exact .inl (.length hb)
  · exact .inl (.start hs)

lemma Clear.tail {b : UInt8} (h : Clear algorithm (b :: lost) bs) : Clear algorithm lost bs :=
  fun rest hr => h rest (hr.trans (List.suffix_cons b lost))

lemma Clear.cons {b : UInt8} (hb : Rejected algorithm (b :: lost ++ bs)) (h : Clear algorithm lost bs) :
    Clear algorithm (b :: lost) bs := by
  intro rest hr hn
  rcases List.suffix_cons_iff.mp hr with rfl | hr
  · exact hb
  · exact h rest hr hn

lemma Clear.rescan (h : Clear algorithm lost bs) :
    delivered (Framing.rescan (scanner algorithm) (lost ++ bs)).1 =
        delivered (Framing.rescan (scanner algorithm) bs).1 ∧
      (Framing.rescan (scanner algorithm) (lost ++ bs)).2 = (Framing.rescan (scanner algorithm) bs).2 := by
  induction lost with
  | nil => exact ⟨rfl, rfl⟩
  | cons b lost ih =>
    obtain ⟨hd, hk⟩ := rescan_rejected (h (b :: lost) List.suffix_rfl (by simp))
    obtain ⟨hd', hk'⟩ := ih h.tail
    exact ⟨hd.trans hd', hk.trans hk'⟩

lemma clear_or (algorithm : Checksum.Algorithm) (lost bs : Bytes) :
    Clear algorithm lost bs ∨ ∃ before rest, lost = before ++ rest ∧ rest ≠ [] ∧
      Clear algorithm before (rest ++ bs) ∧ ¬ Rejected algorithm (rest ++ bs) := by
  have empty (bs : Bytes) : Clear algorithm [] bs := fun rest hr hn => absurd (List.suffix_nil.mp hr) hn
  induction lost with
  | nil => exact .inl (empty bs)
  | cons b lost ih =>
    by_cases hb : Rejected algorithm (b :: lost ++ bs)
    · rcases ih with h | ⟨before, rest, rfl, hn, hc, hr⟩
      · exact .inl (h.cons hb)
      · exact .inr ⟨b :: before, rest, rfl, hn, hc.cons (by simpa using hb), hr⟩
    · exact .inr ⟨[], b :: lost, rfl, by simp, empty _, hb⟩

lemma overlap {w rest after : Bytes} (hn : rest ≠ []) (hw : w ≠ []) (h : rest ++ w = w ++ after) :
    ∃ front back, after = front ++ back ∧ back ≠ [] ∧ back <+: w := by
  induction hk : w.length using Nat.strongRecOn generalizing w after with
  | ind k ih =>
    rcases List.append_eq_append_iff.mp h with ⟨more, rfl, hr⟩ | ⟨more, rfl, rfl⟩
    · -- the overlap is shorter than the bytes in front, which are a prefix of the word then
      by_cases hm : more = []
      · subst hm
        exact ⟨[], after, rfl, by simp_all, by simp_all⟩
      · obtain ⟨front, back, he, hb, hp⟩ := ih more.length (by simp [← hk, List.length_pos_iff.mpr hn]) hm hr rfl
        exact ⟨front, back, he, hb, hp.trans ⟨after, by rw [← hr]⟩⟩
    · exact ⟨more, w, rfl, hw, List.prefix_rfl⟩

lemma rescan_frame {g : Frame} {rest : Bytes}
    (h : attempt (scanner algorithm) .waiting bs = some (.frame g, rest)) :
    delivered (rescan (scanner algorithm) bs).1 = g :: delivered (rescan (scanner algorithm) rest).1 ∧
      (rescan (scanner algorithm) bs).2 = (rescan (scanner algorithm) rest).2 := by
  rw [rescan_decided h]
  exact ⟨rfl, rfl⟩

lemma delivered_or_kept (hn : bs ≠ []) (h : ¬ Rejected algorithm bs) :
    delivered (rescan (scanner algorithm) bs).1 ≠ [] ∨ (rescan (scanner algorithm) bs).2 ≠ [] := by
  rcases (rejected_or hn).resolve_left h with ha | ⟨g, written, rest, -, -, ha⟩
  · refine .inr ?_
    rw [rescan_unfinished ha]
    exact hn
  · refine .inl ?_
    rw [(rescan_frame ha).1]
    simp

section Written

variable (hk : f.kind < 0x80) (hp : f.payload.length ≤ maxFrame - minFrame)
include hk hp

lemma prefix_not_rejected {front : Bytes} (hf : front <+: wire algorithm f) : ¬ Rejected algorithm front := by
  intro hr
  obtain ⟨more, hm⟩ := hf
  obtain ⟨signal, rest, ha, hs⟩ := hr.attempt
  have hw : attempt (scanner algorithm) _ _ = _ := attempt_wire hk hp []
  rw [List.append_nil, ← hm, attempt_append more ha] at hw
  obtain ⟨rfl, -⟩ := Prod.mk.inj (Option.some.inj hw)
  rcases hs with ⟨hs, -⟩ | hs <;> cases hs

lemma part_noticed (front : Bytes) {back : Bytes} (hn : back ≠ []) (hb : back <+: wire algorithm f) :
    delivered (rescan (scanner algorithm) (front ++ back)).1 ≠ [] ∨
      (rescan (scanner algorithm) (front ++ back)).2 ≠ [] := by
  rcases clear_or algorithm front back with hc | ⟨before, rest, rfl, hr, hc, hnr⟩
  · rw [hc.rescan.1, hc.rescan.2]
    exact delivered_or_kept hn (prefix_not_rejected hk hp hb)
  · rw [List.append_assoc, hc.rescan.1, hc.rescan.2]
    exact delivered_or_kept (by simp [hr]) hnr

lemma rescan_written (algorithm : Checksum.Algorithm) (after : Bytes) :
    delivered (rescan (scanner algorithm) (wire algorithm f ++ after)).1 =
        f :: delivered (rescan (scanner algorithm) after).1 ∧
      (rescan (scanner algorithm) (wire algorithm f ++ after)).2 = (rescan (scanner algorithm) after).2 :=
  rescan_frame (attempt_wire hk hp after)

lemma overlap_noticed {rest after : Bytes} (hn : rest ≠ []) (h : rest ++ wire algorithm f = wire algorithm f ++ after) :
    delivered (rescan (scanner algorithm) after).1 ≠ [] ∨ (rescan (scanner algorithm) after).2 ≠ [] := by
  obtain ⟨front, back, rfl, hb, hw⟩ := overlap hn (by simp [wire, checked]) h
  exact part_noticed hk hp front hb hw

lemma delivered_alone_iff (algorithm : Checksum.Algorithm) (lost : Bytes) :
    delivered (rescan (scanner algorithm) (lost ++ wire algorithm f)).1 = [f] ↔
      Clear algorithm lost (wire algorithm f) ∨
        ∃ before rest after, lost = before ++ rest ∧ rest ≠ [] ∧ Clear algorithm before (rest ++ wire algorithm f) ∧
          rest ++ wire algorithm f = wire algorithm f ++ after ∧
          delivered (rescan (scanner algorithm) after).1 = [] := by
  have hnil : rescan (scanner algorithm) [] = ([], []) := rescan_unfinished rfl
  constructor
  · intro hd
    rcases clear_or algorithm lost (wire algorithm f) with hc | ⟨before, rest, rfl, hn, hc, hr⟩
    · exact .inl hc
    · rw [List.append_assoc, hc.rescan.1] at hd
      rcases (rejected_or (by simp [hn])).resolve_left hr with ha | ⟨g, written, after, he, hs, ha⟩
      · rw [rescan_unfinished ha] at hd
        cases hd
      · rw [(rescan_frame ha).1] at hd
        obtain ⟨rfl, hl⟩ := List.cons.inj hd
        obtain rfl : wire algorithm g = written := Except.ok.inj ((legible hk hp).encode.symm.trans he)
        exact .inr ⟨before, rest, after, rfl, hn, hc, hs, hl⟩
  · rintro (hc | ⟨before, rest, after, rfl, hn, hc, hs, hd⟩)
    · have hw := (rescan_written hk hp algorithm []).1
      rw [List.append_nil, hnil] at hw
      rw [hc.rescan.1, hw]
      rfl
    · rw [List.append_assoc, hc.rescan.1, hs, (rescan_written hk hp algorithm after).1, hd]

end Written

/-- A frame is delivered alone after bytes that were lost exactly if every candidate among these is rejected, or the
first that is not happens to be the same frame and nothing is made of what follows it. It is alone and nothing is left
behind exactly if every candidate is rejected. -/
theorem alone_after_lost_iff (algorithm : Checksum.Algorithm) (f : Frame) (hk : f.kind < 0x80)
    (hp : f.payload.length ≤ maxFrame - minFrame) (lost : Bytes) (pieces : List Bytes)
    (h : pieces.flatten = lost ++ wire algorithm f) :
    encode algorithm f = .ok (wire algorithm f) ∧
      let (items, last) := (Receiver.fresh (scanner algorithm)).readPieces (scanner algorithm) pieces
      (delivered items = [f] ↔
          Clear algorithm lost (wire algorithm f) ∨
            ∃ before rest after, lost = before ++ rest ∧ rest ≠ [] ∧
              Clear algorithm before (rest ++ wire algorithm f) ∧
              rest ++ wire algorithm f = wire algorithm f ++ after ∧
              delivered (rescan (scanner algorithm) after).1 = []) ∧
        (delivered items = [f] ∧ last.buffer = [] ↔ Clear algorithm lost (wire algorithm f)) := by
  refine ⟨(legible hk hp).encode, ?_⟩
  obtain ⟨-, hr⟩ :=
    Receiver.readPieces_spec (scanner_lawful algorithm) _ (Receiver.settled_fresh (scanner algorithm)) pieces
  have hw : (Receiver.fresh (scanner algorithm)).buffer ++ pieces.flatten = lost ++ wire algorithm f := h
  rw [hw] at hr
  obtain ⟨hi, hb⟩ := Prod.mk.inj hr
  have ha := delivered_alone_iff hk hp algorithm lost
  simp only
  rw [← hi, ← hb]
  refine ⟨ha, ?_, fun hc => ⟨ha.mpr (.inl hc), ?_⟩⟩
  · rintro ⟨hd, hl⟩
    rcases ha.mp hd with hc | ⟨before, rest, after, rfl, hn, hc, hs, hd'⟩
    · exact hc
    · rw [List.append_assoc, hc.rescan.2, hs, (rescan_written hk hp algorithm after).2] at hl
      exact absurd hl ((overlap_noticed hk hp hn hs).resolve_left (absurd hd'))
  · have hnil : rescan (scanner algorithm) [] = ([], []) := rescan_unfinished rfl
    have hw := (rescan_written hk hp algorithm []).2
    rw [List.append_nil, hnil] at hw
    rw [hc.rescan.2, hw]

theorem alone_after_cut_payload :
    ((1 : UInt8) < 0x80 ∧ [7, 0, 1].length ≤ maxFrame - minFrame ∧
      [[0xaa, 0x81, 0, 9, 7], wire .forward ⟨true, 1, [7, 0, 1]⟩].flatten =
        [0xaa, 0x81, 0, 9, 7] ++ wire .forward ⟨true, 1, [7, 0, 1]⟩) ∧
      let (items, last) := (Receiver.fresh (scanner .forward)).readPieces (scanner .forward)
        [[0xaa, 0x81, 0, 9, 7], wire .forward ⟨true, 1, [7, 0, 1]⟩]
      delivered items = [⟨true, 1, [7, 0, 1]⟩] ∧ last.buffer = [] := by
  have hw : wire .forward ⟨true, 1, [7, 0, 1]⟩ = [0xaa, 0x81, 0, 9, 7, 0, 1, 0x30, 0xc9] := by decide +kernel
  have hp : [[0xaa, 0x81, 0, 9, 7], wire .forward ⟨true, 1, [7, 0, 1]⟩].flatten =
      [0xaa, 0x81, 0, 9, 7] ++ wire .forward ⟨true, 1, [7, 0, 1]⟩ := by simp
  refine ⟨⟨by decide, by decide, hp⟩, ?_⟩
  refine (alone_after_lost_iff .forward ⟨true, 1, [7, 0, 1]⟩ (by decide) (by decide) _ _ hp).2.2.mpr ?_
  have other {b : UInt8} {bs : Bytes} (h : b ≠ attention) : Rejected .forward (b :: bs) := .start h
  rw [hw]
  intro rest hr hn
  simp only [List.suffix_cons_iff, List.suffix_nil] at hr
  rcases hr with rfl | rfl | rfl | rfl | rfl | rfl
  · have hs : Checksum.Algorithm.forward.sum [attention, 0x81, 0, 9, 7, 0xaa, 0x81] ≠ Bytes.word 0 9 := by decide +kernel
    have hr : Rejected .forward ([attention, 0x81, 0, 9, 7, 0xaa, 0x81] ++ 0 :: 9 :: [7, 0, 1, 0x30, 0xc9]) :=
      .checksum (by decide) (by decide) hs
    exact hr
  · exact other (by decide)
  · exact other (by decide)
  · exact other (by decide)
  · exact other (by decide)
  · exact absurd rfl hn

theorem cut_header_swallows_frame :
    encode .forward ⟨true, 1, [7, 0, 1]⟩ = .ok [0xaa, 0x81, 0, 9, 7, 0, 1, 0x30, 0xc9] ∧
      let (items, last) := (Receiver.fresh (scanner .forward)).readPieces (scanner .forward)
        [[0xaa, 0x81, 0], [0xaa, 0x81, 0, 9, 7, 0, 1, 0x30, 0xc9]]
      items = [] ∧ last.buffer = [0xaa, 0x81, 0, 0xaa, 0x81, 0, 9, 7, 0, 1, 0x30, 0xc9] := by
  have hw : wire .forward ⟨true, 1, [7, 0, 1]⟩ = [0xaa, 0x81, 0, 9, 7, 0, 1, 0x30, 0xc9] := by decide +kernel
  refine ⟨congrArg Except.ok hw, ?_⟩
  obtain ⟨-, hr⟩ := Receiver.readPieces_spec (scanner_lawful .forward) _ (Receiver.settled_fresh (scanner .forward))
    [[0xaa, 0x81, 0], [0xaa, 0x81, 0, 9, 7, 0, 1, 0x30, 0xc9]]
  have hu : attempt (scanner .forward) .waiting [0xaa, 0x81, 0, 0xaa, 0x81, 0, 9, 7, 0, 1, 0x30, 0xc9] = none := by
    decide +kernel
  have hb := hr.symm.trans (rescan_unfinished hu)
  exact Prod.mk.inj hb

end ParkingStation.PaymentReader
