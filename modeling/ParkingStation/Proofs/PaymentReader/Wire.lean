import ParkingStation.PaymentReader.Frame
import ParkingStation.Proofs.Framing.Delivery

namespace ParkingStation.PaymentReader

open Framing

variable {algorithm : Checksum.Algorithm}

lemma highFirst_word (high low : UInt8) : highFirst (Bytes.word high low) = [high, low] := by
  rw [highFirst, Bytes.low_word, Bytes.high_word]

lemma code_parts (code : UInt8) :
    (if decide (code &&& responseBit ≠ 0) then responseBit else 0) |||
      ((code &&& ~~~ responseBit) &&& ~~~ responseBit) = code := by
  have h : ∀ n : Fin 256, (if decide (UInt8.ofFin n &&& responseBit ≠ 0) then responseBit else 0) |||
      ((UInt8.ofFin n &&& ~~~ responseBit) &&& ~~~ responseBit) = UInt8.ofFin n := by
    decide +kernel
  exact h code.toFin

def Begun (left : Nat) (kept : Bytes) : Prop :=
  ∃ code high low payload, kept.reverse = attention :: code :: high :: low :: payload ∧
    (Bytes.word high low).toNat = headerLength + payload.length + left ∧
    minFrame ≤ (Bytes.word high low).toNat ∧ (Bytes.word high low).toNat ≤ maxFrame

def Scan.Holds : Scan → Bytes → Prop
  | waiting, _ => True
  | header kept, seen => kept <+: seen ∧ kept.getLast? = some attention ∧ kept.length ≤ 3
  | body left kept, seen => kept <+: seen ∧ Begun left kept ∧ 1 ≤ left

lemma Begun.more {left : Nat} {kept : Bytes} (h : Begun (left + 1) kept) (b : UInt8) : Begun left (b :: kept) := by
  obtain ⟨code, high, low, payload, hk, ht, hb⟩ := h
  refine ⟨code, high, low, payload ++ [b], by simp [hk], ?_, hb⟩
  rw [ht, List.length_append, List.length_singleton]
  omega

lemma conclude_ne_more (bs : Bytes) : conclude algorithm bs ≠ .more := by
  unfold conclude
  grind

lemma checked_of_header {code high low : UInt8} {payload : Bytes}
    (h : (Bytes.word high low).toNat = minFrame + payload.length) :
    checked ⟨code &&& responseBit ≠ 0, code &&& ~~~ responseBit, payload⟩ =
      attention :: code :: high :: low :: payload := by
  rw [checked, code_parts, ← h, UInt16.ofNat_toNat, highFirst_word]
  rfl

lemma Begun.frame {kept : Bytes} {f : Frame} (h : Begun 0 kept) (hf : conclude algorithm kept = .frame f) :
    encode algorithm f = .ok kept.reverse := by
  obtain ⟨code, high, low, payload, hk, ht, hmin, hmax⟩ := h
  obtain ⟨body, p, q, rfl⟩ : ∃ body p q, payload = body ++ [p, q] := by
    rcases List.eq_nil_or_concat payload with rfl | ⟨front, q, rfl⟩
    · simp [minFrame, headerLength] at ht hmin
      omega
    · rcases List.eq_nil_or_concat front with rfl | ⟨body, p, rfl⟩
      · simp [minFrame, headerLength] at ht hmin
        omega
      · exact ⟨body, p, q, by simp⟩
  have hlen : (Bytes.word high low).toNat = minFrame + body.length := by
    rw [ht, List.length_append]
    simp only [headerLength, minFrame, List.length_cons, List.length_nil]
    omega
  have hkept : kept = q :: p :: (attention :: code :: high :: low :: body).reverse := by
    rw [List.reverse_eq_iff.mp hk]
    simp
  subst hkept
  simp only [conclude, List.reverse_reverse] at hf
  split at hf
  · rename_i hsum
    cases hf
    have hfit : minFrame + body.length ≤ maxFrame := hlen ▸ hmax
    rw [encode]
    simp only [hfit, if_true, wire, checked_of_header hlen, hsum, highFirst_word]
    simp
  · cases hf

lemma step_decided {scan next : Scan} {b : UInt8} {signal : Signal Frame}
    (h : step algorithm scan b = (next, signal)) (hs : signal ≠ .more) : next = .waiting := by
  unfold step at h
  split at h <;> grind

lemma Scan.Holds.more {scan next : Scan} {seen : Bytes} {b : UInt8} (hk : scan.Holds seen)
    (h : step algorithm scan b = (next, .more)) : next.Holds (b :: seen) := by
  cases scan with
  | waiting =>
    obtain ⟨rfl, -⟩ := Prod.mk.inj h
    split
    · rename_i hb
      exact ⟨⟨seen, rfl⟩, by simp [hb], by simp⟩
    · trivial
  | header kept =>
    obtain ⟨hp, ha, hl⟩ := hk
    have hp : b :: kept <+: b :: seen := List.cons_prefix_cons.mpr ⟨rfl, hp⟩
    rcases kept with _ | ⟨x, _ | ⟨y, _ | ⟨z, _ | _⟩⟩⟩
    · cases ha
    · cases h
      exact ⟨hp, ha, by simp⟩
    · cases h
      exact ⟨hp, ha, by simp⟩
    · cases ha
      simp only [step] at h
      split at h
      · rename_i ht
        cases h
        simp only [minFrame] at ht
        refine ⟨hp, ⟨y, x, b, [], rfl, ?_, ht⟩, ?_⟩
        · simp only [headerLength, List.length_nil]
          omega
        · simp only [headerLength]
          omega
      · cases h
    · simp only [List.length_cons] at hl
      omega
  | body left kept =>
    obtain ⟨hp, hb, hl⟩ := hk
    simp only [step] at h
    split at h
    · obtain ⟨-, hm⟩ := Prod.mk.inj h
      exact absurd hm (conclude_ne_more _)
    · cases h
      obtain ⟨left, rfl⟩ := Nat.exists_eq_add_of_le' hl
      exact ⟨List.cons_prefix_cons.mpr ⟨rfl, hp⟩, hb.more b, by omega⟩

lemma Scan.Holds.frame {scan next : Scan} {seen : Bytes} {b : UInt8} {f : Frame} (hk : scan.Holds seen)
    (h : step algorithm scan b = (next, .frame f)) :
    ∃ written, encode algorithm f = .ok written ∧ written <:+ (b :: seen).reverse := by
  cases scan with
  | body left kept =>
    obtain ⟨⟨gap, hg⟩, hb, hl⟩ := hk
    simp only [step] at h
    split at h
    · rename_i hle
      obtain rfl : left = 1 := by omega
      obtain ⟨-, hf⟩ := Prod.mk.inj h
      refine ⟨(b :: kept).reverse, (hb.more b).frame hf, List.reverse_suffix.mpr ⟨gap, ?_⟩⟩
      rw [List.cons_append, hg]
    · cases h
  | waiting => cases h
  | header kept =>
    unfold step at h
    split at h <;> grind

lemma scanner_lawful (algorithm : Checksum.Algorithm) : Lawful (scanner algorithm) where
  idle h := of_decide_eq_true h
  decided := step_decided

lemma holds_seen {scan : Scan} {seen : Bytes} (h : Candidate (scanner algorithm) scan seen) : scan.Holds seen := by
  induction h with
  | start => trivial
  | more _ hs _ ih => exact ih.more hs

def Scan.taken : Scan → Bytes
  | waiting => []
  | header kept => kept
  | body _ kept => kept

lemma seen_eq {scan : Scan} {seen : Bytes} (h : Candidate (scanner algorithm) scan seen) : seen = scan.taken := by
  induction h with
  | start => rfl
  | @more scan next seen b _ hs hi ih =>
    subst ih
    have hs : step algorithm scan b = (next, .more) := hs
    have hn : next ≠ .waiting := of_decide_eq_false hi
    unfold step at hs
    split at hs <;> grind [Scan.taken, conclude_ne_more]

lemma length_seen_lt {scan : Scan} {seen : Bytes} (h : Candidate (scanner algorithm) scan seen) :
    seen.length < maxFrame := by
  have hk := holds_seen h
  rw [seen_eq h] at hk ⊢
  cases scan with
  | waiting => exact Nat.succ_pos _
  | header kept => exact Nat.lt_of_le_of_lt hk.2.2 (by decide)
  | body left kept =>
    obtain ⟨-, ⟨code, high, low, payload, hr, ht, -, hm⟩, hl⟩ := hk
    have hlen : kept.length = headerLength + payload.length := by
      rw [← List.length_reverse, hr]
      simp only [headerLength, List.length_cons]
      omega
    simp only [Scan.taken]
    omega

lemma scanner_exact (algorithm : Checksum.Algorithm) : Exact (scanner algorithm) := by
  intro scan next seen b f hc hs
  obtain ⟨written, he, gap, hg⟩ := (holds_seen hc).frame hs
  exact ⟨gap, written, he, hg.symm⟩

end ParkingStation.PaymentReader
