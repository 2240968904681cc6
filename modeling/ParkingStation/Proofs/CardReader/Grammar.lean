import Mathlib.Order.Basic
import ParkingStation.Proofs.CardReader.Wire

namespace ParkingStation.CardReader

open Framing Control

/-- The byte at `i` is the block check of all bytes before it, the last of which is an end of text. -/
def ClosesAt (bs : Bytes) (i : Nat) : Prop :=
  2 ≤ i ∧ bs[i - 1]? = some etx ∧ bs[i]? = some (Checksum.block 0 (bs.take i))

def signalAt (bs : Bytes) (i : Nat) : Option (Signal Frame) := (scanner.trace scanner.start bs).1[i]?

def scanAt (bs : Bytes) (i : Nat) : Scan := (scanner.trace scanner.start (bs.take (i + 1))).2

def mismatchAt (bs : Bytes) (i : Nat) : Option Fault :=
  if 5 ≤ i ∧ bs[i - 1]? = some etx then
    bs[i]?.map fun b => .checksum (Checksum.block 0 (bs.take i)).toUInt16 b.toUInt16
  else none

variable {text : Bytes} {i : Nat} {b : UInt8}

lemma taken (text : Bytes) (h : (stx :: text)[i + 1]? = some b) :
    signalAt (stx :: text) (i + 1) = some (step (scanAt (stx :: text) i) b).2 ∧
      scanAt (stx :: text) (i + 1) = (step (scanAt (stx :: text) i) b).1 :=
  scanner.trace_getElem? scanner.start h

lemma ended_iff (hi : i ≤ text.length) :
    (text.take i).reverse.head? = some etx ↔ (stx :: text)[i]? = some etx := by
  rw [List.head?_reverse]
  cases i with
  | zero =>
    have hs : stx ≠ etx := by decide
    simp [hs]
  | succ i => rw [List.getLast?_take, if_neg (Nat.succ_ne_zero i), Nat.add_sub_cancel, List.getElem?_cons_succ,
      List.getElem?_eq_getElem hi, Option.some_or]

lemma closesAt_succ_iff :
    ClosesAt (stx :: text) (i + 1) ↔
      (stx :: text)[i]? = some etx ∧ text[i]? = some (Checksum.block 0 ((stx :: text).take (i + 1))) := by
  refine ⟨fun ⟨_, he, hb⟩ => ⟨he, hb⟩, fun ⟨he, hb⟩ => ⟨?_, he, hb⟩⟩
  cases i with
  | zero => exact absurd he (by simp [stx, etx])
  | succ i => omega

lemma step_inside (hi : i ≤ text.length) (check : UInt8) (pending : Option Fault) (b : UInt8) :
    step (.inside (text.take i).reverse check pending) b =
      if (stx :: text)[i]? = some etx ∧ b = check then (.outside, conclude (text.take (i - 1)))
      else if i < maxBody then
        (.inside (b :: (text.take i).reverse) (check ^^^ b)
          (if (stx :: text)[i]? = some etx ∧ 4 ≤ i then some (.checksum check.toUInt16 b.toUInt16) else none), .more)
      else (.outside, .corrupt (.overflow (i + 1))) := by
  have hlen : (text.take i).reverse.length = i := by simp [hi]
  have hd : (text.take i).reverse.tail.reverse = text.take (i - 1) := by
    rw [List.tail_reverse, List.reverse_reverse, List.dropLast_eq_take, List.take_take, List.length_take]
    congr 1
    omega
  simp only [step, ended_iff hi, hlen, hd]

lemma scanAt_inside (hi : i ≤ text.length) (hl : i ≤ maxBody) (hn : ∀ k ≤ i, ¬ ClosesAt (stx :: text) k) :
    signalAt (stx :: text) i = some .more ∧
      scanAt (stx :: text) i = .inside (text.take i).reverse (Checksum.block 0 ((stx :: text).take (i + 1)))
        (mismatchAt (stx :: text) i) := by
  induction i with
  | zero => exact ⟨rfl, rfl⟩
  | succ i ih =>
    obtain ⟨-, hs⟩ := ih (by omega) (by omega) fun k hk => hn k (by omega)
    have hb : text[i]? = some text[i] := List.getElem?_eq_getElem hi
    have hc := closesAt_succ_iff.not.mp (hn (i + 1) (Nat.le_refl _))
    rw [hb, Option.some_inj] at hc
    obtain ⟨hm, hk⟩ := taken text hb
    rw [hs, step_inside (Nat.le_of_succ_le hi), if_neg hc, if_pos (Nat.lt_of_succ_le hl)] at hm hk
    refine ⟨hm, hk.trans ?_⟩
    have hx : (stx :: text).take (i + 1 + 1) = (stx :: text).take (i + 1) ++ [text[i]] := by
      rw [List.take_add_one, List.getElem?_cons_succ, hb, Option.toList_some]
    have ht : (text.take (i + 1)).reverse = text[i] :: (text.take i).reverse := by
      rw [List.take_add_one, hb, Option.toList_some, List.reverse_append]
      rfl
    rw [hx, ht, Checksum.block_append]
    simp only [mismatchAt, Nat.add_sub_cancel, List.getElem?_cons_succ, hb, Option.map_some, Nat.reduceLeDiff, and_comm]
    rfl

lemma signalAt_close (hl : i ≤ maxBody) (hc : ClosesAt (stx :: text) (i + 1))
    (hn : ∀ k ≤ i, ¬ ClosesAt (stx :: text) k) :
    i < text.length ∧ signalAt (stx :: text) (i + 1) = some (conclude (text.take (i - 1))) := by
  obtain ⟨he, hb⟩ := closesAt_succ_iff.mp hc
  obtain ⟨hi, -⟩ := List.getElem?_eq_some_iff.mp hb
  obtain ⟨-, hs⟩ := scanAt_inside (Nat.le_of_lt hi) hl hn
  refine ⟨hi, ?_⟩
  rw [(taken text hb).1, hs, step_inside (Nat.le_of_lt hi), if_pos ⟨he, rfl⟩]

lemma signalAt_overflow (hi : maxBody < text.length) (hn : ∀ k ≤ maxBody + 1, ¬ ClosesAt (stx :: text) k) :
    signalAt (stx :: text) (maxBody + 1) = some (.corrupt (.overflow (maxBody + 1))) := by
  obtain ⟨-, hs⟩ := scanAt_inside (Nat.le_of_lt hi) (Nat.le_refl _) fun k hk => hn k (Nat.le_succ_of_le hk)
  have hb : text[maxBody]? = some text[maxBody] := List.getElem?_eq_getElem hi
  have hc := closesAt_succ_iff.not.mp (hn (maxBody + 1) (Nat.le_refl _))
  rw [hb, Option.some_inj] at hc
  rw [(taken text hb).1, hs, step_inside (Nat.le_of_lt hi), if_neg hc, if_neg (Nat.lt_irrefl _)]

lemma conclude_take (hi : 5 ≤ i + 1) (ht : i < text.length) :
    ∃ f : Frame, text[0]? = some f.kind ∧ text[1]? = some f.cm ∧ text[2]? = some f.pm ∧
      f.data = (text.take (i - 1)).drop 3 ∧ conclude (text.take (i - 1)) = .frame f := by
  obtain ⟨n, rfl⟩ : ∃ n, i = n + 4 := ⟨i - 4, by omega⟩
  rcases text with _ | ⟨kind, _ | ⟨cm, _ | ⟨pm, data⟩⟩⟩
  · simp at ht
  · simp at ht
  · simp only [List.length_cons, List.length_nil] at ht
    omega
  · exact ⟨⟨kind, cm, pm, data.take n⟩, rfl, rfl, rfl, rfl, rfl⟩

lemma conclude_short (hi : i + 1 < 5) (ht : i < text.length) :
    conclude (text.take (i - 1)) = .corrupt (.malformed (.cardReaderBody (i - 1))) := by
  have hlen : (text.take (i - 1)).length = i - 1 := by
    rw [List.length_take]
    omega
  generalize text.take (i - 1) = body at hlen ⊢
  rw [← hlen]
  rcases body with _ | ⟨kind, _ | ⟨cm, _ | ⟨pm, data⟩⟩⟩
  · rfl
  · rfl
  · rfl
  · simp only [List.length_cons] at hlen
    omega

lemma signalAt_ne_more (hl : i ≤ maxBody + 1) (hc : ClosesAt (stx :: text) i)
    (hn : ∀ k < i, ¬ ClosesAt (stx :: text) k) : signalAt (stx :: text) i ≠ some .more := by
  obtain ⟨n, rfl⟩ : ∃ n, i = n + 1 := ⟨i - 1, by have := hc.1; omega⟩
  rw [(signalAt_close (Nat.le_of_succ_le_succ hl) hc fun k hk => hn k (Nat.lt_succ_of_le hk)).2, ne_eq,
    Option.some_inj]
  exact conclude_ne_more _

lemma not_closesAt (hl : i ≤ maxBody + 1) (hm : ∀ k ≤ i, signalAt (stx :: text) k = some .more) :
    ¬ ClosesAt (stx :: text) i := by
  induction i using Nat.strongRecOn with
  | ind i ih =>
    refine fun hc => signalAt_ne_more hl hc (fun k hk => ih k hk (by omega) fun m hmk => ?_) (hm i (Nat.le_refl i))
    exact hm m (by omega)

lemma stalled_scanAt (hb : (stx :: text)[i]? = some b) (hm : ∀ k ≤ i, signalAt (stx :: text) k = some .more) :
    stalled (scanAt (stx :: text) i) =
      if 5 ≤ i ∧ (stx :: text)[i - 1]? = some etx ∧ b ≠ Checksum.block 0 ((stx :: text).take i) then
        some (.checksum (Checksum.block 0 ((stx :: text).take i)).toUInt16 b.toUInt16)
      else none := by
  have hi : i ≤ text.length := Nat.le_of_lt_succ (List.getElem?_eq_some_iff.mp hb).1
  have hl : i ≤ maxBody := by
    by_contra hl
    have ho := signalAt_overflow (by omega) fun k hk => not_closesAt hk fun m hmk => hm m (by omega)
    cases (hm _ (by omega)).symm.trans ho
  have hn : ∀ k ≤ i, ¬ ClosesAt (stx :: text) k := fun k hk =>
    not_closesAt (by omega) fun m hmk => hm m (by omega)
  rw [(scanAt_inside hi hl hn).2]
  change mismatchAt (stx :: text) i = _
  by_cases he : 5 ≤ i ∧ (stx :: text)[i - 1]? = some etx
  · have hc : b ≠ Checksum.block 0 ((stx :: text).take i) := fun hc =>
      hn i (Nat.le_refl i) ⟨by omega, he.2, hb.trans (congrArg some hc)⟩
    rw [mismatchAt, if_pos he, if_pos ⟨he.1, he.2, hc⟩, hb]
    rfl
  · rw [mismatchAt, if_neg he, if_neg fun h => he ⟨h.1, h.2.1⟩]

lemma idle_scanAt {bs : Bytes} (hi : i < bs.length) (hs : signalAt bs i ≠ some .more) :
    scanner.idle (scanAt bs i) = true := by
  obtain ⟨hm, hk⟩ := scanner.trace_getElem? scanner.start (List.getElem?_eq_getElem hi)
  rw [scanAt, hk]
  exact decide_eq_true (step_decided rfl fun he => hs (hm.trans (congrArg some he)))

/-- From a start of text on, the first place where a candidate closes makes it a frame, unless it has no room for a
kind and a command, or the place is too far away. Until then no byte decides anything, and a block check that does not
match is what is wrong if nothing follows it. -/
theorem frame_grammar (text : Bytes) :
    let bs := stx :: text
    (∀ j ≤ maxBody + 1, ClosesAt bs j → (∀ i < j, ¬ ClosesAt bs i) →
        (∀ i < j, signalAt bs i = some .more) ∧
          (5 ≤ j → ∃ f : Frame, bs[1]? = some f.kind ∧ bs[2]? = some f.cm ∧ bs[3]? = some f.pm ∧
            f.data = (bs.take (j - 1)).drop 4 ∧ signalAt bs j = some (.frame f)) ∧
          (j < 5 → signalAt bs j = some (.corrupt (.malformed (.cardReaderBody (j - 2)))))) ∧
      ((∀ j ≤ maxBody + 1, ¬ ClosesAt bs j) →
        (∀ i < bs.length, i ≤ maxBody → signalAt bs i = some .more) ∧
          (maxBody + 1 < bs.length → signalAt bs (maxBody + 1) = some (.corrupt (.overflow (maxBody + 1))))) ∧
      (∀ i b, bs[i]? = some b → (∀ k ≤ i, signalAt bs k = some .more) →
        let check := Checksum.block 0 (bs.take i)
        scanner.stalled (scanAt bs i) =
          if 5 ≤ i ∧ bs[i - 1]? = some etx ∧ b ≠ check then some (.checksum check.toUInt16 b.toUInt16) else none) ∧
      ∀ i < bs.length, signalAt bs i ≠ some .more → scanner.idle (scanAt bs i) = true := by
  intro bs
  refine ⟨fun j hj hc hn => ?_, fun hn => ⟨fun i hi hl => ?_, fun hi => ?_⟩, fun i b hb hm => stalled_scanAt hb hm,
    fun i hi hs => idle_scanAt hi hs⟩
  · obtain ⟨i, rfl⟩ : ∃ i, j = i + 1 := ⟨j - 1, by have := hc.1; omega⟩
    have hl : i ≤ maxBody := Nat.le_of_succ_le_succ hj
    obtain ⟨hi, hs⟩ := signalAt_close hl hc fun k hk => hn k (Nat.lt_succ_of_le hk)
    refine ⟨fun k hk => ?_, fun h5 => ?_, fun h5 => ?_⟩
    · exact (scanAt_inside (by omega) (by omega) fun m hm => hn m (by omega)).1
    · obtain ⟨f, h1, h2, h3, hd, hf⟩ := conclude_take h5 hi
      have ht : (bs.take i).drop 4 = (text.take (i - 1)).drop 3 := by
        obtain ⟨n, rfl⟩ : ∃ n, i = n + 1 := ⟨i - 1, by omega⟩
        rfl
      exact ⟨f, h1, h2, h3, hd.trans ht.symm, hs.trans (congrArg some hf)⟩
    · rw [hs, conclude_short h5 hi]
      rfl
  · exact (scanAt_inside (Nat.le_of_lt_succ hi) hl fun k hk => hn k (by omega)).1
  · exact signalAt_overflow (Nat.lt_of_succ_lt_succ hi) hn

end ParkingStation.CardReader
