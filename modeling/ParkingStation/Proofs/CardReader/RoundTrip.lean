import Mathlib.Data.List.Induction
import ParkingStation.Proofs.CardReader.Wire
import ParkingStation.Proofs.Framing.WrittenFrames

namespace ParkingStation.CardReader

open Framing Control

def Frame.text (f : Frame) : Bytes := f.kind :: f.cm :: f.pm :: f.data ++ [etx]

/-- An end-of-text byte before the last one is followed by the block check of all bytes up to it. -/
def Frame.ClosesEarly (f : Frame) : Prop :=
  ∃ front back, back ≠ [] ∧ wire f = front ++ etx :: Checksum.block 0 (front ++ [etx]) :: back

lemma Frame.closesEarly_iff (f : Frame) :
    f.ClosesEarly ↔ ∃ i < (wire f).length - 2,
      (wire f)[i]? = some etx ∧ (wire f)[i + 1]? = some (Checksum.block 0 ((wire f).take (i + 1))) := by
  constructor
  · rintro ⟨front, back, hb, hw⟩
    have := List.length_pos_iff.mpr hb
    have ht : (wire f).take (front.length + 1) = front ++ [etx] := by
      rw [hw, List.take_length_add_append]
      rfl
    refine ⟨front.length, ?_, by simp [hw], by rw [ht]; simp [hw]⟩
    simp only [hw, List.length_append, List.length_cons]
    omega
  · rintro ⟨i, hi, he, hc⟩
    refine ⟨(wire f).take i, (wire f).drop (i + 2), ?_, ?_⟩
    · intro hn
      have := List.drop_eq_nil_iff.mp hn
      omega
    · obtain ⟨h₁, h₂⟩ := List.getElem?_eq_some_iff.mp he
      obtain ⟨h₃, h₄⟩ := List.getElem?_eq_some_iff.mp hc
      calc wire f = (wire f).take i ++ (wire f).drop i := (List.take_append_drop i (wire f)).symm
        _ = _ := by
          rw [List.drop_eq_getElem_cons h₁, h₂, List.drop_eq_getElem_cons h₃, h₄,
            List.take_succ_eq_append_getElem h₁, h₂]

instance (f : Frame) : Decidable f.ClosesEarly := decidable_of_iff _ f.closesEarly_iff.symm

variable {f : Frame}

lemma wire_eq (f : Frame) : wire f = stx :: f.text ++ [Checksum.block stx f.text] := rfl

lemma Frame.length_text (f : Frame) : f.text.length = f.data.length + 4 := by
  simp [text]

lemma Frame.not_closesEarly (h : etx ∉ f.kind :: f.cm :: f.pm :: f.data) : ¬ f.ClosesEarly := by
  rintro ⟨front, back, hb, hw⟩
  have he : wire f = (stx :: f.kind :: f.cm :: f.pm :: f.data) ++ [etx, Checksum.block stx f.text] := by
    simp [wire_eq, text]
  have hl : front.length < (stx :: f.kind :: f.cm :: f.pm :: f.data).length := by
    have hn := congrArg List.length (he.symm.trans hw)
    have := List.length_pos_iff.mpr hb
    simp only [List.length_append, List.length_cons, List.length_nil] at hn ⊢
    omega
  have hi : (wire f)[front.length]? = some etx := by simp [hw]
  rw [he, List.getElem?_append_left hl] at hi
  rcases List.mem_cons.mp (List.mem_of_getElem? hi) with hs | hm
  · exact absurd hs (by decide)
  · exact h hm

lemma not_ended (he : ¬ f.ClosesEarly) {front back : Bytes} {b : UInt8} (ht : front ++ b :: back = f.text) :
    ¬ (front.reverse.head? = some etx ∧ b = Checksum.block stx front) := by
  rintro ⟨hh, rfl⟩
  obtain ⟨front, rfl⟩ : ∃ rest, front = rest ++ [etx] := by
    rw [List.head?_reverse] at hh
    exact List.getLast?_eq_some_iff.mp hh
  refine he ⟨stx :: front, back ++ [Checksum.block stx f.text], by simp, ?_⟩
  rw [wire_eq, ← ht]
  simp

lemma attempt_front (he : ¬ f.ClosesEarly) (front : Bytes) {back : Bytes} (ht : front ++ back = f.text)
    (hl : front.length ≤ maxBody) (rest : Bytes) :
    ∃ pending, attempt scanner .outside (stx :: front ++ rest) =
      attempt scanner (.inside front.reverse (Checksum.block stx front) pending) rest := by
  induction front using List.reverseRecOn generalizing back rest with
  | nil => exact ⟨none, rfl⟩
  | append_singleton front b ih =>
    rw [List.append_assoc, List.singleton_append] at ht
    rw [List.length_append, List.length_singleton] at hl
    obtain ⟨pending, hp⟩ := ih ht (by omega) (b :: rest)
    have hlt : front.reverse.length < maxBody := by rw [List.length_reverse]; omega
    have hf : stx :: (front ++ [b]) ++ rest = stx :: front ++ b :: rest := by simp
    have hs : ∃ pending', scanner.step (.inside front.reverse (Checksum.block stx front) pending) b =
        (.inside (b :: front.reverse) (Checksum.block stx front ^^^ b) pending', .more) := by
      simp only [scanner, step, if_neg (not_ended he ht), if_pos hlt]
      exact ⟨_, rfl⟩
    obtain ⟨pending', hs⟩ := hs
    refine ⟨pending', ?_⟩
    rw [hf, hp, attempt, hs, Checksum.block_append]
    simp [scanner]

lemma attempt_text (he : ¬ f.ClosesEarly) (hl : f.text.length ≤ maxBody) (rest : Bytes) :
    attempt scanner .outside (wire f ++ rest) = some (.frame f, rest) := by
  obtain ⟨pending, hp⟩ := attempt_front he f.text (List.append_nil _) hl (Checksum.block stx f.text :: rest)
  have hw : wire f ++ rest = stx :: f.text ++ Checksum.block stx f.text :: rest := by simp [wire_eq]
  rw [hw, hp]
  have hs : step (.inside f.text.reverse (Checksum.block stx f.text) pending) (Checksum.block stx f.text) =
      (.outside, .frame f) := by
    simp [step, Frame.text, conclude, Frame.ofBody]
  exact attempt_decided hs (by simp) rest

lemma attempt_overlong (he : ¬ f.ClosesEarly) (hl : f.data.length + 3 = maxBody) (rest : Bytes) :
    ∃ left, attempt scanner .outside (wire f ++ rest) = some (.corrupt (.overflow (maxBody + 1)), left) := by
  have ht : (f.kind :: f.cm :: f.pm :: f.data) ++ [etx] = f.text := rfl
  obtain ⟨pending, hp⟩ := attempt_front he _ ht (Nat.le_of_eq hl) (etx :: Checksum.block stx f.text :: rest)
  have hw : wire f ++ rest =
      stx :: (f.kind :: f.cm :: f.pm :: f.data) ++ etx :: Checksum.block stx f.text :: rest := by
    simp [wire_eq, Frame.text]
  have hb : (f.kind :: f.cm :: f.pm :: f.data).reverse.length = maxBody := by
    rw [List.length_reverse]
    exact hl
  have hs : step (.inside (f.kind :: f.cm :: f.pm :: f.data).reverse
      (Checksum.block stx (f.kind :: f.cm :: f.pm :: f.data)) pending) etx =
      (.outside, .corrupt (.overflow (maxBody + 1))) := by
    simp only [step, not_ended he ht, if_false, hb, Nat.lt_irrefl]
  rw [hw, hp]
  exact ⟨_, attempt_decided hs (by simp) _⟩

lemma legible (he : ¬ f.ClosesEarly) (hl : f.data.length + 3 < maxBody) : Legible scanner wire f where
  encode := if_pos (Nat.le_of_lt hl)
  attempt := attempt_text he (by rw [f.length_text]; omega)

lemma overflow_mem_rescan {frames : List Frame} (hs : ∀ f ∈ frames, f.data.length + 3 ≤ maxBody)
    (he : ∀ f ∈ frames, ¬ f.ClosesEarly) (hl : ∃ f ∈ frames, f.data.length + 3 = maxBody) :
    .corrupt (.overflow (maxBody + 1)) ∈ (rescan scanner (frames.flatMap wire)).1 := by
  induction frames with
  | nil => exact nomatch hl
  | cons f frames ih =>
    rw [List.flatMap_cons]
    by_cases hf : f.data.length + 3 = maxBody
    · obtain ⟨left, ha⟩ := attempt_overlong (he f List.mem_cons_self) hf (frames.flatMap wire)
      rw [rescan_decided ha]
      exact List.mem_append_left _ (List.mem_singleton_self _)
    · have hlt := Nat.lt_of_le_of_ne (hs f List.mem_cons_self) hf
      have hm : .corrupt (.overflow (maxBody + 1)) ∈ (rescan scanner (frames.flatMap wire)).1 :=
        ih (fun g hg => hs g (List.mem_cons_of_mem f hg)) (fun g hg => he g (List.mem_cons_of_mem f hg)) (by simp_all)
      rw [rescan_decided ((legible (he f List.mem_cons_self) hlt).attempt _)]
      exact List.mem_append_right _ hm

lemma overflow_mem_readPieces {frames : List Frame} (hs : ∀ f ∈ frames, f.data.length + 3 ≤ maxBody)
    (he : ∀ f ∈ frames, ¬ f.ClosesEarly) (hl : ∃ f ∈ frames, f.data.length + 3 = maxBody) {pieces : List Bytes}
    (hp : pieces.flatten = frames.flatMap wire) :
    .corrupt (.overflow (maxBody + 1)) ∈ ((Receiver.fresh scanner).readPieces scanner pieces).1 := by
  obtain ⟨-, hr⟩ := Receiver.readPieces_spec scanner_lawful _ (Receiver.settled_fresh scanner) pieces
  have hw : (Receiver.fresh scanner).buffer ++ pieces.flatten = frames.flatMap wire := hp
  have hm := overflow_mem_rescan hs he hl
  rwa [← hw, hr] at hm

/-- Frames that can be written and that do not close early come back one by one and leave nothing behind, as long as
none of them fills the largest body. One that does is reported as an overflow. -/
theorem round_trip (frames : List Frame) (hf : ∀ f ∈ frames, (∃ bytes, encode f = .ok bytes) ∧ ¬ f.ClosesEarly) :
    ∃ written, scanner.encodeAll frames = .ok written ∧ ∀ pieces : List Bytes, pieces.flatten = written →
      let (items, last) := (Receiver.fresh scanner).readPieces scanner pieces
      if ∀ f ∈ frames, f.data.length + 3 < maxBody then
        items = frames.map .frame ∧ last.buffer = [] ∧ scanner.idle last.scan = true ∧ stalled last.scan = none
      else .corrupt (.overflow (maxBody + 1)) ∈ items := by
  have he (f : Frame) (hm : f ∈ frames) : ¬ f.ClosesEarly := (hf f hm).2
  have hs (f : Frame) (hm : f ∈ frames) : f.data.length + 3 ≤ maxBody := by
    obtain ⟨⟨bytes, hb⟩, -⟩ := hf f hm
    by_contra hn
    rw [encode, if_neg hn] at hb
    cases hb
  refine ⟨frames.flatMap wire, encodeAll_wires fun f hm => if_pos (hs f hm), fun pieces hp => ?_⟩
  dsimp only
  split
  · rename_i hl
    obtain ⟨hi, hb, hk⟩ := Receiver.readPieces_wires scanner_lawful (fun f hm => legible (he f hm) (hl f hm)) hp
    exact ⟨hi, hb, by rw [hk]; rfl, by rw [hk]; rfl⟩
  · rename_i hl
    simp only [not_forall, Nat.not_lt] at hl
    obtain ⟨f, hm, hf⟩ := hl
    exact overflow_mem_readPieces hs he ⟨f, hm, Nat.le_antisymm (hs f hm) hf⟩ hp

theorem round_trip_control_bytes :
    (∀ f ∈ [(⟨0x50, 0x41, 0x42, [stx, etx, Control.ack, nak, etx]⟩ : Frame), ⟨0x50, etx, 0x42, []⟩],
      (∃ bytes, encode f = .ok bytes) ∧ ¬ f.ClosesEarly) ∧
    ∃ written, scanner.encodeAll [⟨0x50, 0x41, 0x42, [stx, etx, Control.ack, nak, etx]⟩, ⟨0x50, etx, 0x42, []⟩] =
        .ok written ∧
      ∀ pieces : List Bytes, pieces.flatten = written →
        let (items, last) := (Receiver.fresh scanner).readPieces scanner pieces
        items = [.frame ⟨0x50, 0x41, 0x42, [stx, etx, Control.ack, nak, etx]⟩, .frame ⟨0x50, etx, 0x42, []⟩] ∧
          last.buffer = [] ∧ scanner.idle last.scan = true ∧ stalled last.scan = none := by
  have hf : ∀ f ∈ [(⟨0x50, 0x41, 0x42, [stx, etx, Control.ack, nak, etx]⟩ : Frame), ⟨0x50, etx, 0x42, []⟩],
      (∃ bytes, encode f = .ok bytes) ∧ ¬ f.ClosesEarly := by
    simp only [List.forall_mem_cons]
    exact ⟨⟨⟨_, rfl⟩, by decide⟩, ⟨⟨_, rfl⟩, by decide⟩, by simp⟩
  obtain ⟨written, he, hr⟩ := round_trip _ hf
  exact ⟨hf, written, he, fun pieces hp => by simpa [maxBody] using hr pieces hp⟩

theorem largest_frame_unread :
    let f : Frame := ⟨0x50, 0x41, 0x41, List.replicate 509 0x41⟩
    encode f = .ok (wire f) ∧ ¬ f.ClosesEarly ∧
      ((Receiver.fresh scanner).readPieces scanner [wire f]).1 ≠ [.frame f] := by
  intro f
  have hl : f.data.length + 3 = maxBody := by rw [List.length_replicate]; rfl
  have hd : etx ∉ f.data := fun h => absurd (List.eq_of_mem_replicate h) (by decide)
  have he : ¬ f.ClosesEarly := by
    refine Frame.not_closesEarly ?_
    simp only [List.mem_cons, not_or]
    exact ⟨by decide, by decide, by decide, hd⟩
  refine ⟨if_pos (Nat.le_of_eq hl), he, fun hi => ?_⟩
  have hp : [wire f].flatten = [f].flatMap wire := by rw [List.flatten_singleton, List.flatMap_singleton]
  have hm := overflow_mem_readPieces (List.forall_mem_singleton.mpr (Nat.le_of_eq hl))
    (List.forall_mem_singleton.mpr he) ⟨f, List.mem_singleton_self f, hl⟩ hp
  rw [hi] at hm
  exact nomatch List.mem_singleton.mp hm

end ParkingStation.CardReader
