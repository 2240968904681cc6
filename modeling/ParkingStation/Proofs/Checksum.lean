import Mathlib.Logic.Function.Basic
import Mathlib.Tactic.Lemma
import ParkingStation.Checksum

/-! A step of the forward register is linear and loses nothing, so a change of two neighbouring bytes never
keeps the sum. The reflected code is the forward one seen in a mirror. -/

namespace ParkingStation.Checksum

open Bytes (word)

variable {r s : UInt16} {bs front back : Bytes} {p q p' q' : UInt8}

def topBit (r : UInt16) : Bool := r.toBitVec.msb

def feedback (out : Bool) : UInt16 := if out then 0x1021 else 0

def forwardBit (r : UInt16) : UInt16 := r <<< 1 ^^^ feedback (topBit r)

def forwardByte (r : UInt16) (b : UInt8) : UInt16 := shifted forwardBit 8 (r ^^^ b.toUInt16 <<< 8)

lemma topBit_xor (r s : UInt16) : topBit (r ^^^ s) = (topBit r ^^ topBit s) := BitVec.msb_xor

lemma topBit_iff : topBit r = true ↔ 0x8000 ≤ r.toNat := by
  rw [topBit, BitVec.msb_eq_decide, decide_eq_true_eq]
  rfl

lemma mask_bit {w i : Nat} (x : BitVec w) (hi : i < w) : x &&& BitVec.twoPow w i ≠ 0#w ↔ x.getLsbD i = true := by
  have hn : BitVec.twoPow w i ≠ 0#w := by
    intro hz
    have hb := congrArg (BitVec.getLsbD · i) hz
    simp [hi] at hb
  rw [BitVec.and_twoPow]
  cases x.getLsbD i <;> simp [hn]

lemma and_top : r &&& 0x8000 ≠ 0 ↔ topBit r = true := by
  rw [Ne, ← UInt16.toBitVec_inj, topBit, BitVec.msb_eq_getLsbD_last]
  exact mask_bit r.toBitVec (by decide : 15 < 16)

lemma eq_of_bits (h : ∀ i < 16, r.toBitVec.getLsbD i = s.toBitVec.getLsbD i) : r = s :=
  UInt16.toBitVec_inj.mp (BitVec.eq_of_getLsbD_eq h)

lemma feedback_xor (a b : Bool) : feedback (a ^^ b) = feedback a ^^^ feedback b := by
  cases a <;> cases b <;> rfl

lemma forwardBit_xor (r s : UInt16) : forwardBit (r ^^^ s) = forwardBit r ^^^ forwardBit s := by
  simp only [forwardBit, topBit_xor, feedback_xor, UInt16.shiftLeft_xor]
  ac_rfl

lemma toNat_shiftLeft_one (r : UInt16) : (r <<< 1).toNat = 2 * r.toNat % 65536 := by
  have hs : (1 : UInt16).toNat % 16 = 1 := rfl
  rw [UInt16.toNat_shiftLeft, hs, Nat.shiftLeft_eq, Nat.mul_comm]

lemma forwardBit_eq_zero (h : forwardBit r = 0) : r = 0 := by
  have hr : r.toNat < 65536 := r.toNat_lt
  have hs : (r <<< 1).toNat = (feedback (topBit r)).toNat := by rw [UInt16.xor_eq_zero_iff.mp h]
  rw [toNat_shiftLeft_one] at hs
  apply UInt16.toNat_inj.mp
  change r.toNat = 0
  cases ht : topBit r with
  | true =>
    have hf : (feedback true).toNat = 4129 := rfl
    rw [ht, hf] at hs
    omega
  | false =>
    have hf : (feedback false).toNat = 0 := rfl
    have hl : ¬ 0x8000 ≤ r.toNat := by simp [← topBit_iff, ht]
    rw [ht, hf] at hs
    omega

lemma forwardBit_injective : Function.Injective forwardBit := by
  intro r s h
  apply UInt16.xor_eq_zero_iff.mp
  apply forwardBit_eq_zero
  rw [forwardBit_xor, h, UInt16.xor_self]

lemma shifted_injective {α : Type} {bit : α → α} (h : Function.Injective bit) (n : Nat) :
    Function.Injective (shifted bit n) := by
  induction n with
  | zero => exact Function.injective_id
  | succ n ih => exact ih.comp h

lemma shifted_add {α : Type} (bit : α → α) (m n : Nat) (r : α) :
    shifted bit (m + n) r = shifted bit n (shifted bit m r) := by
  induction m generalizing r with
  | zero => rw [Nat.zero_add, shifted]
  | succ m ih => rw [Nat.succ_add, shifted, ih, shifted]

lemma shifted_hom {α β : Type} {f : α → β} {bit : α → α} {bit' : β → β} (h : ∀ r, bit' (f r) = f (bit r)) (n : Nat)
    (r : α) : shifted bit' n (f r) = f (shifted bit n r) := by
  induction n generalizing r with
  | zero => rfl
  | succ n ih => rw [shifted, h, ih, shifted]

lemma shifted_xor (n : Nat) (r s : UInt16) :
    shifted forwardBit n (r ^^^ s) = shifted forwardBit n r ^^^ shifted forwardBit n s := by
  induction n generalizing r s with
  | zero => rfl
  | succ n ih => simp only [shifted, forwardBit_xor, ih]

lemma shifted_zero (n : Nat) : shifted forwardBit n 0 = 0 := by
  induction n with
  | zero => rfl
  | succ n ih => exact ih

lemma forwardByte_injective (b : UInt8) : Function.Injective (forwardByte · b) := by
  intro r s h
  exact (UInt16.xor_left_inj _).mp (shifted_injective forwardBit_injective 8 h)

lemma foldl_forwardByte_injective (bs : Bytes) : Function.Injective (bs.foldl forwardByte) := by
  induction bs with
  | nil => exact Function.injective_id
  | cons b bs ih => exact ih.comp (forwardByte_injective b)

section Halves

lemma getLsbD_word (high low : UInt8) (i : Nat) : (word high low).toBitVec.getLsbD i =
    if i < 8 then low.toBitVec.getLsbD i else high.toBitVec.getLsbD (i - 8) := by
  have hj : (word high low).toBitVec = high.toBitVec ++ low.toBitVec := by
    apply BitVec.eq_of_toNat_eq
    rw [BitVec.toNat_append, UInt16.toNat_toBitVec, Bytes.toNat_word, UInt8.toNat_toBitVec, UInt8.toNat_toBitVec,
      ← Nat.shiftLeft_add_eq_or_of_lt low.toNat_lt, Nat.shiftLeft_eq, Nat.mul_comm]
  rw [hj, BitVec.getLsbD_append]

lemma word_xor (p q p' q' : UInt8) : word (p ^^^ p') (q ^^^ q') = word p q ^^^ word p' q' := by
  apply eq_of_bits
  intro i hi
  simp only [UInt16.toBitVec_xor, BitVec.getLsbD_xor, getLsbD_word, UInt8.toBitVec_xor]
  split <;> rfl

lemma word_shiftLeft (high low : UInt8) : word ((high <<< 1) ||| (low >>> 7)) (low <<< 1) = word high low <<< 1 := by
  apply eq_of_bits
  intro i hi
  simp [getLsbD_word]
  grind

lemma word_high (b : UInt8) : word b 0 = b.toUInt16 <<< 8 := UInt16.or_zero

lemma word_low (b : UInt8) : word 0 b = b.toUInt16 := UInt16.zero_or

lemma word_halvesBit (h : Halves) : forwardBit (word h.1 h.2) = word (halvesBit h).1 (halvesBit h).2 := by
  obtain ⟨high, low⟩ := h
  have ht : high &&& 0x80 ≠ 0 ↔ topBit (word high low) = true := by
    rw [topBit, BitVec.msb_eq_getLsbD_last, getLsbD_word, Ne, ← UInt8.toBitVec_inj]
    exact mask_bit high.toBitVec (by decide : 7 < 8)
  simp only [halvesBit, forwardBit, ht, ← word_shiftLeft]
  cases topBit (word high low) with
  | true => exact (word_xor _ _ 0x10 0x21).symm
  | false => exact UInt16.xor_zero

lemma word_halvesByte (h : Halves) (b : UInt8) :
    forwardByte (word h.1 h.2) b = word (halvesByte h b).1 (halvesByte h b).2 := by
  have hx : word (h.1 ^^^ b) h.2 = word h.1 h.2 ^^^ b.toUInt16 <<< 8 := by
    rw [← word_high, ← word_xor, UInt8.xor_zero]
  have hs := shifted_hom (f := fun h : Halves => word h.1 h.2) word_halvesBit 8 (h.1 ^^^ b, h.2)
  rw [halvesByte, ← hs, hx, forwardByte]

end Halves

lemma forward_eq (bs : Bytes) : forward bs = bs.foldl forwardByte 0xffff :=
  (List.foldl_hom (fun h : Halves => word h.1 h.2) word_halvesByte).symm

lemma forward_append (bs cs : Bytes) : forward (bs ++ cs) = cs.foldl forwardByte (forward bs) := by
  rw [forward_eq, forward_eq, List.foldl_append]

lemma shifted_byte (b : UInt8) : shifted forwardBit 8 b.toUInt16 = b.toUInt16 <<< 8 := by
  have h : ∀ n : Fin 256, shifted forwardBit 8 (UInt8.ofFin n).toUInt16 = (UInt8.ofFin n).toUInt16 <<< 8 := by
    decide +kernel
  exact h b.toFin

lemma forwardByte_pair (r : UInt16) (p q : UInt8) :
    forwardByte (forwardByte r p) q = shifted forwardBit 16 (r ^^^ word p q) := by
  have hw : word p q = p.toUInt16 <<< 8 ^^^ q.toUInt16 := by
    rw [← word_high, ← word_low, ← word_xor, UInt8.xor_zero, UInt8.zero_xor]
  rw [forwardByte, forwardByte, ← shifted_byte q, ← shifted_xor, ← shifted_add, hw, UInt16.xor_assoc]

lemma forward_eq_word_iff : forward bs = word p q ↔ forward (bs ++ [p, q]) = 0 := by
  have hf : forward (bs ++ [p, q]) = shifted forwardBit 16 (forward bs ^^^ word p q) := by
    rw [forward_append, ← forwardByte_pair]
    rfl
  rw [hf, ← UInt16.xor_eq_zero_iff]
  constructor
  · intro h
    rw [h, shifted_zero]
  · intro h
    apply shifted_injective forwardBit_injective 16
    rw [h, shifted_zero]

lemma forward_pair_injective (h : forward (front ++ p :: q :: back) = forward (front ++ p' :: q' :: back)) :
    p = p' ∧ q = q' := by
  rw [forward_append, forward_append] at h
  have hp : forwardByte (forwardByte (forward front) p) q = forwardByte (forwardByte (forward front) p') q' :=
    foldl_forwardByte_injective back h
  rw [forwardByte_pair, forwardByte_pair] at hp
  have hw : word p q = word p' q' :=
    (UInt16.xor_right_inj _).mp (shifted_injective forwardBit_injective 16 hp)
  constructor
  · rw [← Bytes.high_word p q, ← Bytes.high_word p' q']
    exact congrArg (fun w : UInt16 => (w >>> 8).toUInt8) hw
  · rw [← Bytes.low_word p q, ← Bytes.low_word p' q']
    exact congrArg UInt16.toUInt8 hw

section Remainder

lemma remainderBit_eq (r : UInt16) (bit : Bool) : remainderBit r bit = forwardBit r ^^^ feedback bit := by
  have h : remainderBit r bit = r <<< 1 ^^^ feedback (topBit r ^^ bit) := by
    simp only [remainderBit, and_top]
    cases topBit r <;> cases bit <;> simp [feedback]
  rw [h, feedback_xor, ← UInt16.xor_assoc, forwardBit]

lemma foldl_remainderBit (r : UInt16) (bits : List Bool) :
    bits.foldl remainderBit r = shifted forwardBit bits.length r ^^^ bits.foldl remainderBit 0 := by
  induction bits generalizing r with
  | nil => exact UInt16.xor_zero.symm
  | cons bit bits ih =>
    have h0 : remainderBit 0 bit = feedback bit := by cases bit <;> rfl
    rw [List.foldl_cons, List.foldl_cons, ih, ih (remainderBit 0 bit), remainderBit_eq, h0, shifted_xor,
      UInt16.xor_assoc]
    rfl

def byteBits (b : UInt8) : List Bool := (List.range 8).map fun i => (b >>> UInt8.ofNat (7 - i)) &&& 1 ≠ 0

lemma foldl_byteBits (r : UInt16) (b : UInt8) : (byteBits b).foldl remainderBit r = forwardByte r b := by
  have h : ∀ n : Fin 256, (byteBits (UInt8.ofFin n)).foldl remainderBit 0 =
      shifted forwardBit 8 ((UInt8.ofFin n).toUInt16 <<< 8) := by
    decide +kernel
  rw [foldl_remainderBit, forwardByte, shifted_xor]
  exact congrArg (shifted forwardBit 8 r ^^^ ·) (h b.toFin)

lemma remainder_eq (bs : Bytes) : remainder bs = bs.foldl forwardByte 0xffff := by
  have hm : messageBits bs = bs.flatMap byteBits := rfl
  rw [remainder, hm, List.foldl_flatMap]
  simp only [foldl_byteBits]

end Remainder

section Mirror

def mirrorByte (b : UInt8) : UInt8 := ⟨b.toBitVec.reverse⟩

def mirrorWord (r : UInt16) : UInt16 := ⟨r.toBitVec.reverse⟩

lemma mirrorWord_xor (r s : UInt16) : mirrorWord (r ^^^ s) = mirrorWord r ^^^ mirrorWord s := by
  apply eq_of_bits
  intro i hi
  simp [mirrorWord, BitVec.getLsbD_reverse]

lemma mirrorWord_shiftLeft (r : UInt16) : mirrorWord (r <<< 1) = mirrorWord r >>> 1 := by
  apply eq_of_bits
  intro i hi
  simp [mirrorWord, BitVec.getLsbD_reverse, Nat.add_comm]

lemma mirrorWord_byte (b : UInt8) : mirrorWord ((mirrorByte b).toUInt16 <<< 8) = b.toUInt16 := by
  apply eq_of_bits
  intro i hi
  simp [mirrorWord, mirrorByte, BitVec.getLsbD_reverse, BitVec.getMsbD_eq_getLsbD]
  grind

lemma mirrorWord_and_one : mirrorWord r &&& 1 ≠ 0 ↔ topBit r = true := by
  rw [Ne, ← UInt16.toBitVec_inj, topBit, BitVec.msb, ← BitVec.getLsbD_reverse]
  exact mask_bit r.toBitVec.reverse (by decide : 0 < 16)

lemma reflectedBit_mirrorWord (r : UInt16) : reflectedBit (mirrorWord r) = mirrorWord (forwardBit r) := by
  rw [forwardBit, mirrorWord_xor, mirrorWord_shiftLeft]
  simp only [reflectedBit, mirrorWord_and_one]
  cases topBit r with
  | true => rfl
  | false => exact UInt16.xor_zero.symm

lemma reflectedByte_mirrorWord (r : UInt16) (b : UInt8) :
    reflectedByte (mirrorWord r) b = mirrorWord (forwardByte r (mirrorByte b)) := by
  rw [reflectedByte, ← mirrorWord_byte, ← mirrorWord_xor, shifted_hom reflectedBit_mirrorWord, forwardByte]

end Mirror

/-- Both codes divide by one polynomial: the reflected sum is the inverted mirror image of the forward sum of the
mirrored bytes, and the forward sum is the remainder. -/
theorem codes_share_polynomial (bs : Bytes) :
    reflected bs = ~~~ mirrorWord (forward (bs.map mirrorByte)) ∧ forward bs = remainder bs := by
  constructor
  · have hi : mirrorWord 0xffff = 0xffff := by decide +kernel
    rw [reflected, forward_eq, List.foldl_map, ← List.foldl_hom mirrorWord reflectedByte_mirrorWord, hi]
  · rw [forward_eq, remainder_eq]

example : reflected [0x31, 0x32, 0x33, 0x34, 0x35, 0x36, 0x37, 0x38, 0x39] = 0x906e ∧
    forward [0x31, 0x32, 0x33, 0x34, 0x35, 0x36, 0x37, 0x38, 0x39] = 0x29b1 := by
  decide +kernel

end ParkingStation.Checksum
