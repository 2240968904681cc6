import Mathlib.Data.List.Basic
import ParkingStation.Proofs.Checksum
import ParkingStation.Proofs.Framing.Draining
import ParkingStation.Proofs.PaymentReader.Resync

namespace ParkingStation.PaymentReader

open Framing

variable {bs cs written damaged : Bytes} {i j k : Nat}

def changed (bs cs : Bytes) : List Nat := (List.range bs.length).filter fun i => bs[i]? ≠ cs[i]?

lemma mem_changed : i ∈ changed bs cs ↔ i < bs.length ∧ bs[i]? ≠ cs[i]? := by
  simp [changed]

lemma getElem?_unchanged (hl : cs.length = bs.length) (hi : i ∉ changed bs cs) : cs[i]? = bs[i]? := by
  by_cases hb : i < bs.length
  · by_contra hn
    exact hi (mem_changed.mpr ⟨hb, Ne.symm hn⟩)
  · rw [List.getElem?_eq_none (by omega), List.getElem?_eq_none (by omega)]

lemma pair_of_unchanged (hl : cs.length = bs.length) (hk : k + 2 ≤ bs.length)
    (h : ∀ j, j ≠ k → j ≠ k + 1 → cs[j]? = bs[j]?) :
    ∃ front p q p' q' back, bs = front ++ p :: q :: back ∧ cs = front ++ p' :: q' :: back := by
  induction k generalizing bs cs with
  | zero =>
    match bs, cs, hl, hk with
    | p :: q :: bs, p' :: q' :: cs, hl, hk =>
      have hb : cs = bs := List.ext_getElem? fun j => h (j + 2) (by omega) (by omega)
      exact ⟨[], p, q, p', q', bs, rfl, by rw [hb, List.nil_append]⟩
  | succ k ih =>
    match bs, cs, hl, hk with
    | b :: bs, c :: cs, hl, hk =>
      obtain rfl : c = b := Option.some.inj (h 0 (by omega) (by omega))
      simp only [List.length_cons] at hl hk
      have hn : ∀ j, j ≠ k → j ≠ k + 1 → cs[j]? = bs[j]? := fun j hj hk => h (j + 1) (by omega) (by omega)
      obtain ⟨front, p, q, p', q', back, rfl, rfl⟩ := ih (by omega) (by omega) hn
      exact ⟨c :: front, p, q, p', q', back, rfl, rfl⟩

lemma changed_self (bs : Bytes) : changed bs bs = [] := by
  simp [changed]

lemma forward_wire (f : Frame) : Checksum.forward (wire .forward f) = 0 :=
  Checksum.forward_eq_word_iff.mp (Bytes.word_halves (Checksum.forward (checked f))).symm

lemma forward_damaged (hl : damaged.length = written.length) (hn : 2 ≤ written.length)
    (hc : changed written damaged = [i] ∨ changed written damaged = [i, i + 1]) :
    Checksum.forward damaged ≠ Checksum.forward written := by
  intro he
  have hm : i ∈ changed written damaged := by rcases hc with hc | hc <;> simp [hc]
  have hi : i < written.length := (mem_changed.mp hm).1
  -- the last byte is paired with the one before it
  have near (j : Nat) (h0 : j ≠ min i (written.length - 2)) (h1 : j ≠ min i (written.length - 2) + 1) :
      damaged[j]? = written[j]? := by
    by_cases hj : j < written.length
    · apply getElem?_unchanged hl
      intro hm
      rcases hc with hc | hc <;> simp [hc] at hm <;> omega
    · rw [List.getElem?_eq_none (by omega), List.getElem?_eq_none (by omega)]
  obtain ⟨front, p, q, p', q', back, rfl, rfl⟩ := pair_of_unchanged hl (by omega) near
  obtain ⟨rfl, rfl⟩ := Checksum.forward_pair_injective he
  rcases hc with hc | hc <;> simp [changed_self] at hc

lemma shape_of_header {high low : UInt8} {n : Nat} (hl : bs.length = minFrame + n) (h0 : bs[0]? = some attention)
    (h2 : bs[2]? = some high) (h3 : bs[3]? = some low) :
    ∃ code body p q, bs = attention :: code :: high :: low :: body ++ [p, q] ∧ body.length = n := by
  rw [minFrame] at hl
  obtain ⟨start, code, third, fourth, rest, rfl⟩ :
      ∃ start code third fourth rest, bs = start :: code :: third :: fourth :: rest := by
    rcases bs with - | ⟨start, - | ⟨code, - | ⟨third, - | ⟨fourth, rest⟩⟩⟩⟩
    · cases h0
    · cases h2
    · cases h2
    · cases h3
    · exact ⟨start, code, third, fourth, rest, rfl⟩
  obtain rfl : start = attention := Option.some.inj h0
  obtain rfl : third = high := Option.some.inj h2
  obtain rfl : fourth = low := Option.some.inj h3
  simp only [List.length_cons] at hl
  obtain ⟨p, q, hr⟩ : ∃ p q, rest.drop n = [p, q] := by
    apply List.length_eq_two.mp
    rw [List.length_drop]
    omega
  refine ⟨code, rest.take n, p, q, ?_, ?_⟩
  · rw [← hr, List.cons_append, List.cons_append, List.cons_append, List.cons_append, List.take_append_drop]
  · rw [List.length_take]
    omega

lemma trace_unsound {code high low p q : UInt8} {body : Bytes} (hl : (Bytes.word high low).toNat = minFrame + body.length)
    (hm : (Bytes.word high low).toNat ≤ maxFrame)
    (h : Checksum.forward (attention :: code :: high :: low :: body) ≠ Bytes.word p q) :
    (scanner .forward).trace .waiting (attention :: code :: high :: low :: body ++ [p, q]) =
      (List.replicate (minFrame + body.length - 1) .more ++
        [.corrupt (.checksum (Checksum.forward (attention :: code :: high :: low :: body)) (Bytes.word p q))], .waiting) := by
  have ha : attempt (scanner .forward) .waiting (attention :: code :: high :: low :: body ++ [p, q]) = _ :=
    attempt_complete hl hm p q []
  have hc : conclude .forward (q :: p :: (attention :: code :: high :: low :: body).reverse) =
      .corrupt (.checksum (Checksum.forward (attention :: code :: high :: low :: body)) (Bytes.word p q)) := by
    simp only [conclude, List.reverse_reverse, Checksum.Algorithm.sum, h, if_false]
  have hn : (attention :: code :: high :: low :: body ++ [p, q]).length = minFrame + body.length := by
    simp only [List.length_append, List.length_cons, List.length_nil, minFrame]
    omega
  rw [hc] at ha
  rw [← hn]
  exact trace_of_attempt (scanner_lawful .forward) ha (by simp)

lemma wire_of_encode {algorithm : Checksum.Algorithm} {f : Frame} (h : encode algorithm f = .ok written) :
    written = wire algorithm f ∧ f.payload.length ≤ maxFrame - minFrame := by
  simp only [encode] at h
  split at h
  · exact ⟨(Except.ok.inj h).symm, by simp only [maxFrame, minFrame] at *; omega⟩
  · cases h

lemma length_wire (algorithm : Checksum.Algorithm) (f : Frame) :
    (wire algorithm f).length = minFrame + f.payload.length := by
  simp only [wire, checked, highFirst, List.length_append, List.length_cons, List.length_nil, minFrame]
  omega

/-- In a frame with one byte changed, or with two neighbouring ones, and neither its start nor its length among them,
every byte but the last is taken, and the last one shows the damage. -/
theorem burst_detected (f : Frame) (he : encode .forward f = .ok written) (hl : damaged.length = written.length)
    (hc : changed written damaged = [i] ∨ changed written damaged = [i, i + 1])
    (hk : ∀ j ∈ changed written damaged, j ≠ 0 ∧ j ≠ 2 ∧ j ≠ 3) :
    ∃ checked p q, damaged = checked ++ [p, q] ∧ Checksum.forward checked ≠ Bytes.word p q ∧
      (scanner .forward).trace .waiting damaged =
        (List.replicate (damaged.length - 1) .more ++
          [.corrupt (.checksum (Checksum.forward checked) (Bytes.word p q))], .waiting) := by
  obtain ⟨rfl, hp⟩ := wire_of_encode he
  have hw := length_wire .forward f
  have kept {j : Nat} (hj : j = 0 ∨ j = 2 ∨ j = 3) : damaged[j]? = (wire .forward f)[j]? := by
    apply getElem?_unchanged hl
    intro hm
    have := hk j hm
    omega
  have hd : Checksum.forward damaged ≠ 0 := by
    rw [← forward_wire f]
    exact forward_damaged hl (by simp only [hw, minFrame]; omega) hc
  rw [hl, hw]
  obtain ⟨code, body, p, q, rfl, hb⟩ := shape_of_header (hl.trans hw) (kept (.inl rfl)) (kept (.inr (.inl rfl)))
    (kept (.inr (.inr rfl)))
  have hj : (Bytes.word (UInt16.ofNat (minFrame + f.payload.length) >>> 8).toUInt8
      (UInt16.ofNat (minFrame + f.payload.length)).toUInt8).toNat = minFrame + body.length := by
    rw [Bytes.word_halves, toNat_total hp, hb]
  have hs := mt Checksum.forward_eq_word_iff.mp hd
  refine ⟨_, p, q, rfl, hs, ?_⟩
  rw [← hb]
  rw [← hb] at hj hs
  refine trace_unsound hj ?_ hs
  rw [hj]
  simp only [maxFrame, minFrame] at hp ⊢
  omega

theorem burst_across_border :
    encode .forward ⟨true, 0x12, [0, 0, attention]⟩ = .ok [0xaa, 0x92, 0, 9, 0, 0, 0xaa, 0x65, 0xbc] ∧
      changed [0xaa, 0x92, 0, 9, 0, 0, 0xaa, 0x65, 0xbc] [0xaa, 0x92, 0, 9, 0, 0, 0xab, 0x64, 0xbc] = [6, 7] ∧
      ∃ checked p q, [0xaa, 0x92, 0, 9, 0, 0, 0xab, 0x64, 0xbc] = checked ++ [p, q] ∧
        Checksum.forward checked ≠ Bytes.word p q ∧
        (scanner .forward).trace .waiting [0xaa, 0x92, 0, 9, 0, 0, 0xab, 0x64, 0xbc] =
          (List.replicate 8 .more ++ [.corrupt (.checksum (Checksum.forward checked) (Bytes.word p q))], .waiting) := by
  have hw : wire .forward ⟨true, 0x12, [0, 0, attention]⟩ = [0xaa, 0x92, 0, 9, 0, 0, 0xaa, 0x65, 0xbc] := by
    decide +kernel
  have he : encode .forward ⟨true, 0x12, [0, 0, attention]⟩ = .ok [0xaa, 0x92, 0, 9, 0, 0, 0xaa, 0x65, 0xbc] :=
    congrArg Except.ok hw
  have hc : changed [0xaa, 0x92, 0, 9, 0, 0, 0xaa, 0x65, 0xbc] [0xaa, 0x92, 0, 9, 0, 0, 0xab, 0x64, 0xbc] =
      [6, 7] := by
    decide
  exact ⟨he, hc, burst_detected _ he rfl (.inr hc) (by simp [hc])⟩

end ParkingStation.PaymentReader
