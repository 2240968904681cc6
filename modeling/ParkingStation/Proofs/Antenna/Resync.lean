import ParkingStation.Proofs.Antenna.Wire
import ParkingStation.Proofs.Framing.WrittenFrames

namespace ParkingStation.Antenna

open Framing Control

variable {algorithm : Checksum.Algorithm}

lemma Frame.ofBody_body {f : Frame} (h : f.data.length ≤ maxData) : Frame.ofBody f.body = .ok f := by
  have hl : (UInt8.ofNat f.data.length).toNat = f.data.length := by
    rw [UInt8.toNat_ofNat']
    simp only [maxData] at h
    omega
  change (if f.data.length = (UInt8.ofNat f.data.length).toNat then _ else _) = _
  rw [if_pos hl.symm]
  rfl

lemma conclude_lowFirst {f : Frame} (h : f.data.length ≤ maxData) :
    conclude algorithm f.body (algorithm.sum (f.body ++ [etx])).toUInt8
      (algorithm.sum (f.body ++ [etx]) >>> 8).toUInt8 = .frame f := by
  rw [conclude, Bytes.word_halves]
  simp [Frame.ofBody_body h]

/-- No escape byte is open, so that the next one begins the mark of a frame. -/
def Scan.Ready : Scan → Prop
  | waiting | afterEscape | inBody _ => True
  | escaped _ | sumLow _ | sumHigh _ _ => False

lemma attempt_start {scan : Scan} (hs : scan.Ready) (bs : Bytes) :
    attempt (scanner algorithm) scan (dle :: stx :: bs) = attempt (scanner algorithm) (.inBody []) bs := by
  cases scan with
  | waiting | afterEscape | inBody => rfl
  | escaped | sumLow | sumHigh => cases hs

lemma attempt_doubled (body bs rest : Bytes) (h : body.length + bs.length ≤ maxBody) :
    attempt (scanner algorithm) (.inBody body) (doubled bs ++ rest) =
      attempt (scanner algorithm) (.inBody (bs.reverse ++ body)) rest := by
  induction bs generalizing body with
  | nil => rfl
  | cons b bs ih =>
    rw [List.length_cons] at h
    have hlt : body.length < maxBody := by omega
    have hb : attempt (scanner algorithm) (.inBody body) (doubled (b :: bs) ++ rest) =
        attempt (scanner algorithm) (.inBody (b :: body)) (doubled bs ++ rest) := by
      rw [doubled]
      split
      · rename_i hb
        subst hb
        simp [attempt, scanner, step, extend, hlt, dle, stx, etx]
      · rename_i hb
        simp [attempt, scanner, step, extend, hlt, hb]
    rw [hb, ih _ (by rw [List.length_cons]; omega), List.reverse_cons, List.append_assoc, List.singleton_append]

lemma attempt_finish (body : Bytes) (low high : UInt8) (rest : Bytes) :
    attempt (scanner algorithm) (.inBody body) (dle :: etx :: low :: high :: rest) =
      some (conclude algorithm body.reverse low high, rest) := by
  have hm : attempt (scanner algorithm) (.inBody body) (dle :: etx :: low :: high :: rest) =
      attempt (scanner algorithm) (.sumHigh body low) (high :: rest) := rfl
  rw [hm]
  exact attempt_decided rfl (conclude_ne_more _ _ _) rest

lemma attempt_wire {scan : Scan} (hs : scan.Ready) {f : Frame} (hf : f.data.length ≤ maxData) (rest : Bytes) :
    attempt (scanner algorithm) scan (wire algorithm f ++ rest) = some (.frame f, rest) := by
  have hb : ([] : Bytes).length + f.body.length ≤ maxBody := by
    simp only [Frame.body, maxBody, headerLength, List.length_append, List.length_cons, List.length_nil]
    omega
  rw [wire, lowFirst]
  simp only [List.append_assoc, List.cons_append, List.nil_append]
  rw [attempt_start hs, attempt_doubled [] f.body _ hb, attempt_finish, List.append_nil, List.reverse_reverse,
    conclude_lowFirst hf]

lemma legible {f : Frame} (hf : f.data.length ≤ maxData) : Legible (scanner algorithm) (wire algorithm) f where
  encode := if_pos hf
  attempt rest := by
    have hs : Scan.waiting.Ready := trivial
    exact attempt_wire hs hf rest

lemma encodeAll_wire {frames : List Frame} (hf : ∀ f ∈ frames, f.data.length ≤ maxData) :
    (scanner algorithm).encodeAll frames = .ok (frames.flatMap (wire algorithm)) :=
  encodeAll_wires fun f hm => (legible (hf f hm)).encode

lemma rescan_wire {scan : Scan} {seen : Bytes} (hc : Candidate (scanner algorithm) scan seen) (hs : scan.Ready)
    {f : Frame} (hf : f.data.length ≤ maxData) (rest : Bytes) :
    rescan (scanner algorithm) (seen.reverse ++ (wire algorithm f ++ rest)) =
      (.frame f :: (rescan (scanner algorithm) rest).1, (rescan (scanner algorithm) rest).2) :=
  rescan_decided ((hc.attempt _).trans (attempt_wire hs hf rest))

lemma rescan_wires (algorithm : Checksum.Algorithm) {frames : List Frame} (hf : ∀ f ∈ frames, f.data.length ≤ maxData) :
    rescan (scanner algorithm) (frames.flatMap (wire algorithm)) = (frames.map .frame, []) :=
  Framing.rescan_wires fun f hm => legible (hf f hm)

/-- Frames written after any bytes that left the scanner ready are the next items, and nothing else is. -/
theorem resync (algorithm : Checksum.Algorithm) (past : List Bytes) (frames : List Frame)
    (hp : ((Receiver.fresh (scanner algorithm)).readPieces (scanner algorithm) past).2.scan.Ready) (hn : frames ≠ [])
    (hf : ∀ f ∈ frames, f.data.length ≤ maxData) :
    ∃ written, (scanner algorithm).encodeAll frames = .ok written ∧ ∀ pieces : List Bytes, pieces.flatten = written →
      let (items, last) :=
        ((Receiver.fresh (scanner algorithm)).readPieces (scanner algorithm) past).2.readPieces (scanner algorithm) pieces
      items = frames.map .frame ∧ last.buffer = [] ∧ (scanner algorithm).idle last.scan = true := by
  refine ⟨_, encodeAll_wire hf, fun pieces hw => ?_⟩
  have hl := scanner_lawful algorithm
  obtain ⟨hk, -⟩ := Receiver.readPieces_spec hl _ (Receiver.settled_fresh _) past
  generalize ((Receiver.fresh (scanner algorithm)).readPieces (scanner algorithm) past).2 = r at hp hk
  obtain ⟨hlast, hr⟩ := Receiver.readPieces_spec hl r hk pieces
  obtain ⟨f, frames, rfl⟩ := List.exists_cons_of_ne_nil hn
  have hw' := rescan_wires algorithm fun g hg => hf g (List.mem_cons_of_mem f hg)
  rw [hw, Receiver.buffer, hk.ahead, List.append_nil, List.flatMap_cons,
    rescan_wire hk.candidate hp (hf f List.mem_cons_self), hw'] at hr
  obtain ⟨hi, hb⟩ := Prod.mk.inj hr
  exact ⟨hi.symm, hb.symm, by rw [hlast.idle hb.symm]; rfl⟩

theorem resync_in_body :
    ((Receiver.fresh (scanner .forward)).readPieces (scanner .forward)
      [[0x41, 0x10, 0x02, 0x10, 0x10, 0x41]]).2.scan.Ready ∧
    ∃ written, (scanner .forward).encodeAll [⟨1, 2, 3, 4, 5, 6, [dle, stx, etx]⟩] = .ok written ∧
      ∀ pieces : List Bytes, pieces.flatten = written →
        let (items, last) := ((Receiver.fresh (scanner .forward)).readPieces (scanner .forward)
          [[0x41, 0x10, 0x02, 0x10, 0x10, 0x41]]).2.readPieces (scanner .forward) pieces
        items = [.frame ⟨1, 2, 3, 4, 5, 6, [dle, stx, etx]⟩] ∧ last.buffer = [] ∧
          (scanner .forward).idle last.scan = true := by
  have hr : ((Receiver.fresh (scanner .forward)).append [0x41, 0x10, 0x02, 0x10, 0x10, 0x41]).read (scanner .forward) =
      (none, ⟨.inBody [0x41, 0x10], [0x41, 0x10, 0x10, 0x02, 0x10], []⟩) := by
    simp [Receiver.read, Receiver.append, Receiver.scanFrom, Receiver.fresh, scanner, step, extend, dle, stx, etx,
      maxBody, headerLength, maxData]
  have hp : ((Receiver.fresh (scanner .forward)).readPieces (scanner .forward)
      [[0x41, 0x10, 0x02, 0x10, 0x10, 0x41]]).2.scan.Ready := by
    rw [Receiver.readPieces, Receiver.readAll_of_none hr]
    trivial
  exact ⟨hp, resync .forward _ _ hp (by decide) (by decide)⟩

end ParkingStation.Antenna
