import ParkingStation.Proofs.Framing.Fragments

namespace ParkingStation.Framing

variable {S F : Type} {scanner : Scanner S F} {wire : F → Bytes}

structure Legible (scanner : Scanner S F) (wire : F → Bytes) (f : F) : Prop where
  encode : scanner.encode f = .ok (wire f)
  attempt : ∀ rest, attempt scanner scanner.start (wire f ++ rest) = some (.frame f, rest)

lemma encodeAll_wires {frames : List F} (he : ∀ f ∈ frames, scanner.encode f = .ok (wire f)) :
    scanner.encodeAll frames = .ok (frames.flatMap wire) := by
  induction frames with
  | nil => rfl
  | cons f frames ih =>
    rw [Scanner.encodeAll, he f List.mem_cons_self, ih fun g hg => he g (List.mem_cons_of_mem f hg)]
    rfl

lemma rescan_wires_append {frames : List F} (h : ∀ f ∈ frames, Legible scanner wire f) (rest : Bytes) :
    rescan scanner (frames.flatMap wire ++ rest) =
      (frames.map .frame ++ (rescan scanner rest).1, (rescan scanner rest).2) := by
  induction frames with
  | nil => rfl
  | cons f frames ih =>
    have ha := (h f List.mem_cons_self).attempt (frames.flatMap wire ++ rest)
    rw [← List.append_assoc] at ha
    rw [List.flatMap_cons, rescan_decided ha]
    simp [Signal.item?, Signal.rejects, ih fun g hg => h g (List.mem_cons_of_mem f hg)]

lemma rescan_wires {frames : List F} (h : ∀ f ∈ frames, Legible scanner wire f) :
    rescan scanner (frames.flatMap wire) = (frames.map .frame, []) := by
  have hr := rescan_wires_append h []
  have hn : rescan scanner [] = ([], []) := rescan_unfinished rfl
  simpa [hn] using hr

namespace Receiver

lemma readPieces_wires (hl : Lawful scanner) {frames : List F} (h : ∀ f ∈ frames, Legible scanner wire f)
    {pieces : List Bytes} (hp : pieces.flatten = frames.flatMap wire) :
    ((fresh scanner).readPieces scanner pieces).1 = frames.map .frame ∧
      ((fresh scanner).readPieces scanner pieces).2.buffer = [] ∧
      ((fresh scanner).readPieces scanner pieces).2.scan = scanner.start := by
  obtain ⟨hs, hr⟩ := readPieces_spec hl _ (settled_fresh scanner) pieces
  have hw : (fresh scanner).buffer ++ pieces.flatten = frames.flatMap wire := hp
  rw [hw, rescan_wires h] at hr
  obtain ⟨hi, hb⟩ := Prod.mk.inj hr
  exact ⟨hi.symm, hb.symm, hs.idle hb.symm⟩

end Receiver

end ParkingStation.Framing
