import ParkingStation.Antenna.Frame
import ParkingStation.Proofs.Framing.Delivery

namespace ParkingStation.Antenna

open Framing Control

variable {algorithm : Checksum.Algorithm}

lemma doubled_append (bs cs : Bytes) : doubled (bs ++ cs) = doubled bs ++ doubled cs := by
  induction bs with
  | nil => rfl
  | cons b bs ih =>
    rw [List.cons_append, doubled, doubled, ih]
    split <;> rfl

lemma lowFirst_word (low high : UInt8) : lowFirst (Bytes.word high low) = [low, high] := by
  rw [lowFirst, Bytes.low_word, Bytes.high_word]

lemma Frame.body_of_ofBody {bs : Bytes} {f : Frame} (h : Frame.ofBody bs = .ok f) :
    f.body = bs ∧ f.data.length ≤ maxData := by
  unfold Frame.ofBody at h
  split at h
  · rename_i length data
    have hb : length.toNat < 256 := length.toNat_lt
    split at h
    · rename_i hd
      cases h
      refine ⟨by simp [Frame.body, hd], ?_⟩
      simp only [hd, maxData]
      omega
    · cases h
  · cases h

def Scan.read : Scan → Bytes
  | waiting => []
  | afterEscape => [dle]
  | inBody body => [dle, stx] ++ doubled body.reverse
  | escaped body => [dle, stx] ++ doubled body.reverse ++ [dle]
  | sumLow body => [dle, stx] ++ doubled body.reverse ++ [dle, etx]
  | sumHigh body low => [dle, stx] ++ doubled body.reverse ++ [dle, etx] ++ [low]

lemma conclude_ne_more (body : Bytes) (low high : UInt8) : conclude algorithm body low high ≠ .more := by
  unfold conclude
  grind

lemma step_decided {scan next : Scan} {b : UInt8} {signal : Signal Frame}
    (h : step algorithm scan b = (next, signal)) (hs : signal ≠ .more) : next = .waiting := by
  cases scan <;> grind [step, extend]

lemma read_more_cases {scan next : Scan} {b : UInt8} (h : step algorithm scan b = (next, .more)) :
    next.read = scan.read ++ [b] ∨ next = .waiting ∨ next = .afterEscape ∧ b = dle ∨
      next = .inBody [] ∧ b = stx ∧ [dle] <:+ scan.read := by
  have extended {body : Bytes} (h : extend body b = (next, .more)) : next = .inBody (b :: body) := by
    grind [extend]
  cases scan with
  | waiting =>
    obtain ⟨rfl, -⟩ := Prod.mk.inj h
    split
    · rename_i hb
      exact .inl (by simp [Scan.read, hb])
    · exact .inr (.inl rfl)
  | afterEscape =>
    simp only [step] at h
    split at h
    · rename_i hb
      cases h
      exact .inl (by simp [Scan.read, doubled, hb])
    · split at h
      · rename_i hb
        cases h
        exact .inr (.inr (.inl ⟨rfl, hb⟩))
      · cases h
  | inBody body =>
    simp only [step] at h
    split at h
    · rename_i hb
      cases h
      exact .inl (by simp [Scan.read, hb])
    · rename_i hb
      rw [extended h]
      exact .inl (by simp [Scan.read, doubled_append, doubled, hb])
  | escaped body =>
    simp only [step] at h
    split at h
    · rename_i hb
      cases h
      exact .inr (.inr (.inr ⟨rfl, hb, List.suffix_append _ _⟩))
    · split at h
      · rename_i hb
        cases h
        exact .inl (by simp [Scan.read, hb])
      · split at h
        · rename_i hb
          subst hb
          rw [extended h]
          exact .inl (by simp [Scan.read, doubled_append, doubled])
        · cases h
  | sumLow body =>
    cases h
    exact .inl rfl
  | sumHigh body low =>
    obtain ⟨-, hc⟩ := Prod.mk.inj h
    exact absurd hc (conclude_ne_more _ _ _)

lemma read_more {scan next : Scan} {b : UInt8} (h : step algorithm scan b = (next, .more)) :
    next.read <:+ scan.read ++ [b] := by
  rcases read_more_cases h with he | rfl | ⟨rfl, rfl⟩ | ⟨rfl, rfl, gap, hg⟩
  · exact he ▸ List.suffix_rfl
  · exact List.nil_suffix
  · exact List.suffix_append scan.read [dle]
  · exact ⟨gap, by rw [← hg, List.append_assoc]; rfl⟩

lemma read_frame {scan next : Scan} {b : UInt8} {f : Frame} (h : step algorithm scan b = (next, .frame f)) :
    encode algorithm f = .ok (scan.read ++ [b]) := by
  cases scan with
  | sumHigh body low =>
    obtain ⟨-, hc⟩ := Prod.mk.inj h
    simp only [conclude] at hc
    split at hc
    · rename_i hsum
      split at hc
      · rename_i frame hf
        cases hc
        obtain ⟨hb, hl⟩ := Frame.body_of_ofBody hf
        rw [encode, if_pos hl, wire, hb, hsum, lowFirst_word, Scan.read]
        simp
      · cases hc
    · cases hc
  | waiting | afterEscape | inBody | escaped | sumLow => grind [step, extend]

lemma scanner_lawful (algorithm : Checksum.Algorithm) : Lawful (scanner algorithm) where
  idle h := of_decide_eq_true h
  decided := step_decided

lemma read_suffix {scan : Scan} {seen : Bytes} (h : Candidate (scanner algorithm) scan seen) :
    scan.read <:+ seen.reverse := by
  induction h with
  | start => exact List.nil_suffix
  | @more scan next seen b _ hs _ ih =>
    obtain ⟨gap, hg⟩ := ih
    rw [List.reverse_cons, ← hg, List.append_assoc]
    exact (read_more hs).trans (List.suffix_append gap _)

lemma candidate_read {scan : Scan} {seen : Bytes} (h : Candidate (scanner algorithm) scan seen) :
    Candidate (scanner algorithm) scan scan.read.reverse := by
  induction h with
  | start => exact .start
  | more _ hs hi ih =>
    rcases read_more_cases hs with he | rfl | ⟨rfl, rfl⟩ | ⟨rfl, rfl, -⟩
    · rw [he, List.reverse_append]
      exact ih.more hs hi
    · cases hi
    · exact .more .start rfl rfl
    · exact .more (.more .start rfl rfl) rfl rfl

def Scan.body : Scan → Bytes
  | waiting | afterEscape => []
  | inBody body | escaped body | sumLow body | sumHigh body _ => body

lemma length_body_le {scan : Scan} {seen : Bytes} (h : Candidate (scanner algorithm) scan seen) :
    scan.body.length ≤ maxBody := by
  induction h with
  | start => exact Nat.zero_le _
  | @more scan next _ b _ hs _ ih =>
    have hs : step algorithm scan b = (next, .more) := hs
    cases scan <;> grind [step, extend, Scan.body, conclude_ne_more]

lemma length_doubled_le (bs : Bytes) : (doubled bs).length ≤ bs.length * 2 := by
  induction bs with
  | nil => exact Nat.le_refl _
  | cons b bs ih =>
    rw [doubled]
    split <;> simp only [List.length_cons] <;> omega

lemma length_read_lt {scan : Scan} {seen : Bytes} (h : Candidate (scanner algorithm) scan seen) :
    scan.read.length < maxFrame := by
  have hl := length_body_le h
  cases scan with
  | waiting | afterEscape => simp [Scan.read, maxFrame]
  | inBody body | escaped body | sumLow body | sumHigh body =>
    have hd := length_doubled_le body.reverse
    simp only [Scan.body, List.length_reverse] at hl hd
    simp only [Scan.read, maxFrame, List.length_append, List.length_cons, List.length_nil]
    omega

lemma scanner_exact (algorithm : Checksum.Algorithm) : Exact (scanner algorithm) := by
  intro scan next seen b f hc hs
  obtain ⟨gap, hg⟩ := read_suffix hc
  refine ⟨gap, scan.read ++ [b], read_frame hs, ?_⟩
  rw [List.reverse_cons, ← hg, List.append_assoc]

end ParkingStation.Antenna
