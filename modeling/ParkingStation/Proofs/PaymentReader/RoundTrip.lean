import ParkingStation.Proofs.Framing.WrittenFrames
import ParkingStation.Proofs.PaymentReader.Wire

namespace ParkingStation.PaymentReader

open Framing

variable {algorithm : Checksum.Algorithm}

lemma parts_of_code (response : Bool) {kind : UInt8} (hk : kind < 0x80) :
    decide (((if response then responseBit else 0) ||| (kind &&& ~~~ responseBit)) &&& responseBit ≠ 0) = response ∧
      ((if response then responseBit else 0) ||| (kind &&& ~~~ responseBit)) &&& ~~~ responseBit = kind := by
  have h : ∀ (response : Bool) (n : Fin 256), UInt8.ofFin n < 0x80 →
      decide (((if response then responseBit else 0) ||| (UInt8.ofFin n &&& ~~~ responseBit)) &&& responseBit ≠ 0) =
        response ∧
      ((if response then responseBit else 0) ||| (UInt8.ofFin n &&& ~~~ responseBit)) &&& ~~~ responseBit =
        UInt8.ofFin n := by
    decide +kernel
  exact h response kind.toFin hk

lemma toNat_total {f : Frame} (hp : f.payload.length ≤ maxFrame - minFrame) :
    (UInt16.ofNat (minFrame + f.payload.length)).toNat = minFrame + f.payload.length := by
  rw [UInt16.toNat_ofNat']
  simp only [maxFrame, minFrame] at hp ⊢
  omega

lemma conclude_checked (algorithm : Checksum.Algorithm) {f : Frame} (hk : f.kind < 0x80) :
    conclude algorithm ((algorithm.sum (checked f)).toUInt8 :: (algorithm.sum (checked f) >>> 8).toUInt8 ::
      (checked f).reverse) = .frame f := by
  obtain ⟨hr, hc⟩ := parts_of_code f.response hk
  simp only [conclude, List.reverse_reverse, Bytes.word_halves, if_true]
  simp only [checked, highFirst, List.cons_append, List.nil_append, hr, hc]

lemma attempt_header (code : UInt8) {w : UInt16} (hw : minFrame ≤ w.toNat ∧ w.toNat ≤ maxFrame) (rest : Bytes) :
    attempt (scanner algorithm) .waiting (attention :: code :: highFirst w ++ rest) =
      attempt (scanner algorithm) (.body (w.toNat - headerLength) (attention :: code :: highFirst w).reverse) rest := by
  simp [attempt, scanner, step, highFirst, Bytes.word_halves, hw]

lemma attempt_body {left : Nat} (seen bs rest : Bytes) (hl : bs.length < left) :
    attempt (scanner algorithm) (.body left seen) (bs ++ rest) =
      attempt (scanner algorithm) (.body (left - bs.length) (bs.reverse ++ seen)) rest := by
  induction bs generalizing left seen with
  | nil => rfl
  | cons b bs ih =>
    rw [List.length_cons] at hl
    have hb : attempt (scanner algorithm) (.body left seen) (b :: bs ++ rest) =
        attempt (scanner algorithm) (.body (left - 1) (b :: seen)) (bs ++ rest) := by
      have hn : ¬ left ≤ 1 := by omega
      simp [attempt, scanner, step, hn]
    rw [hb, ih (b :: seen) (by omega), Nat.sub_sub, Nat.add_comm 1, List.length_cons, List.reverse_cons,
      List.append_assoc, List.singleton_append]

lemma attempt_finish (seen : Bytes) (high low : UInt8) (rest : Bytes) :
    attempt (scanner algorithm) (.body 2 seen) (high :: low :: rest) =
      some (conclude algorithm (low :: high :: seen), rest) := by
  have hm : attempt (scanner algorithm) (.body 2 seen) (high :: low :: rest) =
      attempt (scanner algorithm) (.body 1 (high :: seen)) (low :: rest) := rfl
  have hs : (scanner algorithm).step (.body 1 (high :: seen)) low =
      (.waiting, conclude algorithm (low :: high :: seen)) := rfl
  rw [hm]
  exact attempt_decided hs (conclude_ne_more _) rest

lemma attempt_wire {f : Frame} (hk : f.kind < 0x80) (hp : f.payload.length ≤ maxFrame - minFrame) (rest : Bytes) :
    attempt (scanner algorithm) .waiting (wire algorithm f ++ rest) = some (.frame f, rest) := by
  have ht := toNat_total hp
  have hw : minFrame ≤ minFrame + f.payload.length ∧ minFrame + f.payload.length ≤ maxFrame := by
    simp only [maxFrame, minFrame] at hp ⊢
    omega
  have hl : minFrame + f.payload.length - headerLength = f.payload.length + 2 := by
    simp only [minFrame, headerLength]
    omega
  have hf := conclude_checked algorithm hk
  obtain ⟨code, hc⟩ : ∃ code, checked f =
      attention :: code :: highFirst (UInt16.ofNat (minFrame + f.payload.length)) ++ f.payload := ⟨_, rfl⟩
  rw [wire, List.append_assoc]
  generalize algorithm.sum (checked f) = sum at hf ⊢
  have hs : highFirst sum ++ rest = (sum >>> 8).toUInt8 :: sum.toUInt8 :: rest := rfl
  rw [hc] at hf ⊢
  rw [List.append_assoc, attempt_header code (by rwa [ht]), ht, hl, attempt_body _ _ _ (by omega),
    Nat.add_sub_cancel_left, ← List.reverse_append, hs, attempt_finish, hf]

lemma legible {f : Frame} (hk : f.kind < 0x80) (hp : f.payload.length ≤ maxFrame - minFrame) :
    Legible (scanner algorithm) (wire algorithm) f where
  encode := if_pos (by simp only [maxFrame, minFrame] at hp ⊢; omega)
  attempt := attempt_wire hk hp

theorem read_back (algorithm : Checksum.Algorithm) (frames : List Frame)
    (hf : ∀ f ∈ frames, f.kind < 0x80 ∧ f.payload.length ≤ maxFrame - minFrame) :
    (∀ f ∈ frames, ∃ bytes, encode algorithm f = .ok bytes) ∧
      (∃ written, (scanner algorithm).encodeAll frames = .ok written ∧
        ∀ pieces : List Bytes, pieces.flatten = written →
          let (items, last) := (Receiver.fresh (scanner algorithm)).readPieces (scanner algorithm) pieces
          items = frames.map .frame ∧ last.buffer = [] ∧ (scanner algorithm).idle last.scan = true) ∧
      ∀ f : Frame, maxFrame - minFrame < f.payload.length →
        encode algorithm f = .error (.frameTooLarge (minFrame + f.payload.length) maxFrame) := by
  have hl (f : Frame) (hm : f ∈ frames) : Legible (scanner algorithm) (wire algorithm) f :=
    legible (hf f hm).1 (hf f hm).2
  refine ⟨fun f hm => ⟨_, (hl f hm).encode⟩, ⟨_, encodeAll_wires fun f hm => (hl f hm).encode, fun pieces hp => ?_⟩,
    fun f hp => if_neg (by simp only [maxFrame, minFrame] at hp ⊢; omega)⟩
  obtain ⟨hi, hb, hk⟩ := Receiver.readPieces_wires (scanner_lawful algorithm) hl hp
  exact ⟨hi, hb, by rw [hk]; rfl⟩

theorem read_back_attention :
    (∀ f ∈ [(⟨true, 0x12, [attention, attention, 0]⟩ : Frame), ⟨false, 0, []⟩,
      ⟨false, 0x7f, List.replicate 1018 attention⟩], f.kind < 0x80 ∧ f.payload.length ≤ maxFrame - minFrame) ∧
    ∃ written, (scanner .block).encodeAll [⟨true, 0x12, [attention, attention, 0]⟩, ⟨false, 0, []⟩,
        ⟨false, 0x7f, List.replicate 1018 attention⟩] = .ok written ∧
      ∀ pieces : List Bytes, pieces.flatten = written →
        let (items, last) := (Receiver.fresh (scanner .block)).readPieces (scanner .block) pieces
        items = [.frame ⟨true, 0x12, [attention, attention, 0]⟩, .frame ⟨false, 0, []⟩,
            .frame ⟨false, 0x7f, List.replicate 1018 attention⟩] ∧
          last.buffer = [] ∧ (scanner .block).idle last.scan = true := by
  have hf : ∀ f ∈ [(⟨true, 0x12, [attention, attention, 0]⟩ : Frame), ⟨false, 0, []⟩,
      ⟨false, 0x7f, List.replicate 1018 attention⟩], f.kind < 0x80 ∧ f.payload.length ≤ maxFrame - minFrame := by
    simp only [List.forall_mem_cons, List.length_replicate]
    exact ⟨by decide, by decide, by decide, by simp⟩
  exact ⟨hf, (read_back .block _ hf).2.1⟩

end ParkingStation.PaymentReader
