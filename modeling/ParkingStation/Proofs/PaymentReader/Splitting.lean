import Mathlib.Algebra.Order.Floor.Div
import Mathlib.Tactic.Lemma
import ParkingStation.PaymentReader.File

namespace ParkingStation.PaymentReader

namespace Word

def fit? (n : Nat) : Option Nat := if n < 2 ^ 64 then some n else none

def add? (a b : Nat) : Option Nat := fit? (a + b)

def mul? (a b : Nat) : Option Nat := fit? (a * b)

def ceilDiv? (a b : Nat) : Option Nat := if a % b = 0 then some (a / b) else add? (a / b) 1

def slice? (data : Bytes) (start stop : Nat) : Option Bytes :=
  if start ≤ stop ∧ stop ≤ data.length then some ((data.take stop).drop start) else none

variable {a b n : Nat}

lemma fit?_of_lt (h : n < 2 ^ 64) : fit? n = some n := if_pos h

lemma ceilDiv?_of_lt (hb : 0 < b) (h : a < 2 ^ 63) : ceilDiv? a b = some (a ⌈/⌉ b) := by
  have ha : a / b * b + a % b = a := Nat.div_add_mod' a b
  have hr : a % b < b := Nat.mod_lt a hb
  have hq : a / b ≤ a := Nat.div_le_self a b
  have hn : (a / b + 1) * b = a / b * b + b := Nat.succ_mul _ _
  rw [ceilDiv?, Nat.ceilDiv_eq_add_pred_div]
  split
  · have hd : (a + b - 1) / b = a / b := Nat.div_eq_of_lt_le (by omega) (by omega)
    rw [hd]
  · have hd : (a + b - 1) / b = a / b + 1 := Nat.div_eq_of_lt_le (by omega) (by rw [Nat.succ_mul]; omega)
    rw [hd, add?, fit?_of_lt (by omega)]

end Word

open Word

variable {kind : FileKind} {data : Bytes} {size : Nat} {chunks : List Chunk}

def cut? (kind : FileKind) (data : Bytes) (size i : Nat) : Option Chunk := do
  let start ← mul? i size
  let next ← add? i 1
  let stop ← mul? next size
  let piece ← slice? data start (min data.length stop)
  return ⟨kind, i % 2 ^ 16, piece⟩

/-- A file split as a machine with words of 64 bits does it. -/
def splitWords? (kind : FileKind) (data : Bytes) (size : Nat) : Option (Except Error (List Chunk)) :=
  if size = 0 then some (.error (.config .emptyChunks))
  else do
    let count ← ceilDiv? data.length size
    if maxChunks ≤ count then
      let limit ← mul? size (maxChunks - 1)
      return .error (.frameTooLarge data.length limit)
    else
      let chunks ← (List.range count).mapM (cut? kind data size)
      return .ok (chunks ++ [⟨kind, count % 2 ^ 16, []⟩])

def piece (kind : FileKind) (data : Bytes) (size i : Nat) : Chunk := ⟨kind, i, (data.drop (i * size)).take size⟩

def pieces (kind : FileKind) (data : Bytes) (size : Nat) : List Chunk :=
  (List.range (data.length ⌈/⌉ size)).map (piece kind data size) ++ [⟨kind, data.length ⌈/⌉ size, []⟩]

lemma chunksFrom_eq (kind : FileKind) (size n index : Nat) (data : Bytes) :
    chunksFrom kind size n index data =
      (List.range n).map (fun i => ⟨kind, index + i, (data.drop (i * size)).take size⟩) ++ [⟨kind, index + n, []⟩] := by
  induction n generalizing index data with
  | zero => rfl
  | succ n ih =>
    rw [chunksFrom, ih, List.range_succ_eq_map]
    simp [List.drop_drop, Nat.add_mul, Nat.add_comm, Nat.add_left_comm, Function.comp_def]

lemma splitFile_eq (hs : 0 < size) :
    splitFile kind data size =
      if data.length ⌈/⌉ size < maxChunks then .ok (pieces kind data size)
      else .error (.frameTooLarge data.length (size * (maxChunks - 1))) := by
  have hz : size ≠ 0 := Nat.ne_of_gt hs
  simp only [splitFile, if_neg hz, chunksFrom_eq, Nat.zero_add, ← Nat.ceilDiv_eq_add_pred_div]
  rfl

lemma lt_count_iff (hs : 0 < size) {i : Nat} : i < data.length ⌈/⌉ size ↔ i * size < data.length := by
  rw [← not_le, ceilDiv_le_iff_le_mul hs, not_le, Nat.mul_comm]

lemma mapM_eq_some {α β : Type} {f : α → Option β} {g : α → β} {xs : List α} (h : ∀ x ∈ xs, f x = some (g x)) :
    xs.mapM f = some (xs.map g) := by
  induction xs with
  | nil => rfl
  | cons x xs ih =>
    rw [List.forall_mem_cons] at h
    rw [List.mapM_cons, h.1, ih h.2]
    rfl

lemma cut?_eq (hd : data.length < 2 ^ 63) (hs : 0 < size) (hw : size < 2 ^ 64) {i : Nat}
    (hi : i < data.length ⌈/⌉ size) (hm : i < maxChunks) : cut? kind data size i = some (piece kind data size i) := by
  have hl : i * size < data.length := (lt_count_iff hs).mp hi
  have hn : (i + 1) * size = i * size + size := Nat.succ_mul i size
  have hw' : (i + 1) * size < 2 ^ 64 := by
    -- the one piece of a short file may end past every index of it, and later pieces begin within it
    rcases Nat.eq_zero_or_pos i with rfl | hp
    · omega
    · have hle : size ≤ i * size := Nat.le_mul_of_pos_left size hp
      omega
  have hi16 : i % 2 ^ 16 = i := Nat.mod_eq_of_lt (Nat.lt_of_lt_of_le hm (by decide))
  have hi64 : i + 1 < 2 ^ 64 := by
    simp only [maxChunks] at hm
    omega
  have hc : slice? data (i * size) (min data.length ((i + 1) * size)) = some ((data.drop (i * size)).take size) := by
    rw [slice?, if_pos (by omega), List.drop_take]
    refine congrArg some (List.take_eq_take_iff.mpr ?_)
    rw [List.length_drop]
    omega
  simp only [cut?, mul?, add?, fit?_of_lt (by omega : i * size < 2 ^ 64), fit?_of_lt hi64, fit?_of_lt hw', hc, hi16,
    bind, Option.bind]
  rfl

lemma splitWords?_eq (hd : data.length < 2 ^ 63) (hs : 0 < size) (hw : size < 2 ^ 64) :
    splitWords? kind data size = some (splitFile kind data size) := by
  have hz : size ≠ 0 := Nat.ne_of_gt hs
  rw [splitWords?, if_neg hz, ceilDiv?_of_lt hs hd, splitFile_eq hs, Option.bind_eq_bind, Option.bind_some]
  by_cases hc : data.length ⌈/⌉ size < maxChunks
  · have hm : (List.range (data.length ⌈/⌉ size)).mapM (cut? kind data size) =
        some ((List.range (data.length ⌈/⌉ size)).map (piece kind data size)) :=
      mapM_eq_some fun i hi => cut?_eq hd hs hw (List.mem_range.mp hi) ((List.mem_range.mp hi).trans hc)
    have h16 : (data.length ⌈/⌉ size) % 2 ^ 16 = data.length ⌈/⌉ size :=
      Nat.mod_eq_of_lt (Nat.lt_of_lt_of_le hc (by decide))
    rw [if_neg (by omega), if_pos hc, hm, h16]
    rfl
  · have hl : (maxChunks - 1) * size < data.length := (lt_count_iff hs).mp (by simp only [maxChunks] at hc ⊢; omega)
    rw [Nat.mul_comm] at hl
    rw [if_pos (by omega), if_neg hc, mul?, fit?_of_lt (by omega)]
    rfl

lemma flatMap_slices (n : Nat) {data : Bytes} (h : data.length ≤ n * size) :
    (List.range n).flatMap (fun i => (data.drop (i * size)).take size) = data := by
  induction n generalizing data with
  | zero => simp [List.eq_nil_of_length_eq_zero (by omega : data.length = 0)]
  | succ n ih =>
    rw [Nat.succ_mul] at h
    have hl : (data.drop size).length ≤ n * size := by
      rw [List.length_drop]
      omega
    have ht : (List.range n).flatMap (fun i => (data.drop ((i + 1) * size)).take size) = data.drop size := by
      conv_rhs => rw [← ih hl]
      simp only [List.drop_drop, Nat.succ_mul, Nat.add_comm]
    rw [List.range_succ_eq_map, List.flatMap_cons, List.flatMap_map]
    simp only [Nat.zero_mul, List.drop_zero, Nat.succ_eq_add_one, ht, List.take_append_drop]

lemma data_pieces (hs : 0 < size) : (pieces kind data size).flatMap (·.data) = data := by
  have hl : data.length ≤ data.length ⌈/⌉ size * size := by
    rw [Nat.mul_comm]
    exact le_smul_ceilDiv hs
  simp [pieces, List.flatMap_append, List.flatMap_map, piece, flatMap_slices _ hl]

lemma length_pieces : (pieces kind data size).length = data.length ⌈/⌉ size + 1 := by simp [pieces]

lemma getElem?_pieces {i : Nat} {chunk : Chunk} :
    (pieces kind data size)[i]? = some chunk ↔
      i < data.length ⌈/⌉ size ∧ chunk = piece kind data size i ∨
        i = data.length ⌈/⌉ size ∧ chunk = ⟨kind, i, []⟩ := by
  rcases Nat.lt_trichotomy i (data.length ⌈/⌉ size) with hi | rfl | hi
  · simp [pieces, List.getElem?_append_left, hi, hi.ne, eq_comm]
  · simp [pieces, eq_comm]
  · have hn : (pieces kind data size)[i]? = none := List.getElem?_eq_none (by rw [length_pieces]; omega)
    simp [hn, hi.ne', Nat.not_lt.mpr hi.le]

lemma getElem?_pieces_spec (hs : 0 < size) {i : Nat} {chunk : Chunk} (h : (pieces kind data size)[i]? = some chunk) :
    chunk.kind = kind ∧ chunk.index = i ∧ i ≤ data.length ⌈/⌉ size ∧ chunk.data.length ≤ size ∧
      (i + 2 < (pieces kind data size).length → chunk.data.length = size) ∧
      (chunk.data = [] ↔ i + 1 = (pieces kind data size).length) := by
  rw [length_pieces]
  rcases getElem?_pieces.mp h with ⟨hi, rfl⟩ | ⟨rfl, rfl⟩
  · have hl : (piece kind data size i).data.length = min size (data.length - i * size) := by simp [piece]
    have hp : i * size < data.length := (lt_count_iff hs).mp hi
    refine ⟨rfl, rfl, hi.le, by omega, fun hf => ?_, ?_⟩
    · have hq : (i + 1) * size < data.length := (lt_count_iff hs).mp (by omega)
      rw [Nat.succ_mul] at hq
      omega
    · rw [← List.length_eq_zero_iff]
      omega
  · exact ⟨rfl, rfl, le_rfl, Nat.zero_le _, fun hf => by omega, by simp⟩

lemma encode_toFrame (algorithm : Checksum.Algorithm) (seq : UInt8) {chunk : Chunk}
    (h : chunk.data.length ≤ maxChunkSize) :
    encode algorithm (chunk.toFrame seq) = .ok (wire algorithm (chunk.toFrame seq)) := by
  have hl : (chunk.toFrame seq).payload.length = 4 + chunk.data.length := by
    simp only [Chunk.toFrame, List.length_append, List.length_cons, Bytes.length_ofNat]
  simp only [maxChunkSize, maxFrame, minFrame] at h
  rw [encode, if_pos]
  simp only [hl, maxFrame, minFrame]
  omega

lemma payload_toFrame (seq : UInt8) {chunk : Chunk} (h : chunk.index < 2 ^ 16) :
    ∃ high low, (chunk.toFrame seq).payload = seq :: chunk.kind.code :: high :: low :: chunk.data ∧
      256 * high.toNat + low.toNat = chunk.index := by
  refine ⟨_, _, rfl, ?_⟩
  simp only [UInt8.toNat_ofNat', Bytes.weight]
  omega

theorem file_survives_splitting (kind : FileKind) {data : Bytes} {size : Nat} (hd : data.length < 2 ^ 63)
    (hs : 1 ≤ size) (hw : size < 2 ^ 64) :
    splitWords? kind data size = some (splitFile kind data size) ∧
    (splitFile kind data size = .error (.frameTooLarge data.length (size * 65534)) ↔ 65535 ≤ data.length ⌈/⌉ size) ∧
    ((∃ chunks, splitFile kind data size = .ok chunks) ↔ data.length ⌈/⌉ size < 65535) ∧
    ∀ chunks, splitFile kind data size = .ok chunks →
      chunks.flatMap (·.data) = data ∧
      ∀ (i : Nat) (chunk : Chunk), chunks[i]? = some chunk →
        chunk.kind = kind ∧ chunk.index = i ∧ i < 2 ^ 16 ∧
        (i + 2 < chunks.length → chunk.data.length = size) ∧
        (chunk.data = [] ↔ i + 1 = chunks.length) ∧
        (size ≤ maxChunkSize → ∀ (algorithm : Checksum.Algorithm) (seq : UInt8),
          encode algorithm (chunk.toFrame seq) = .ok (wire algorithm (chunk.toFrame seq)) ∧
          ∃ high low, (chunk.toFrame seq).payload = seq :: kind.code :: high :: low :: chunk.data ∧
            256 * high.toNat + low.toNat = i) := by
  have he : splitFile kind data size = _ := splitFile_eq hs
  refine ⟨splitWords?_eq hd hs hw, ?_, ?_, fun chunks hc => ?_⟩
  · rw [he]
    split <;> simp_all [maxChunks]
  · rw [he]
    split <;> simp_all [maxChunks]
  · have hm : data.length ⌈/⌉ size < maxChunks ∧ pieces kind data size = chunks := by
      rw [he] at hc
      split at hc
      · next hm => exact ⟨hm, Except.ok.inj hc⟩
      · cases hc
    obtain ⟨hm, rfl⟩ := hm
    refine ⟨data_pieces hs, fun i chunk hi => ?_⟩
    obtain ⟨hk, hx, hc, hl, hf, hn⟩ := getElem?_pieces_spec hs hi
    have hb : i < 2 ^ 16 := by
      simp only [maxChunks] at hm
      omega
    refine ⟨hk, hx, hb, hf, hn, fun hz algorithm seq => ⟨encode_toFrame algorithm seq (hl.trans hz), ?_⟩⟩
    rw [← hk, ← hx]
    exact payload_toFrame seq (hx ▸ hb)

theorem full_chunks_survive_splitting :
    let data : Bytes := [0x10, 0x20, 0x30, 0x40]
    let chunks : List Chunk := [⟨.blacklist, 0, [0x10, 0x20]⟩, ⟨.blacklist, 1, [0x30, 0x40]⟩, ⟨.blacklist, 2, []⟩]
    data.length < 2 ^ 63 ∧ 1 ≤ 2 ∧ 2 < 2 ^ 64 ∧
      splitWords? .blacklist data 2 = some (.ok chunks) ∧ chunks.flatMap (·.data) = data := by
  intro data chunks
  have hl : data.length < 2 ^ 63 := by decide
  have hs : splitFile .blacklist data 2 = .ok chunks := by simp [splitFile, maxChunks, chunksFrom, data, chunks]
  obtain ⟨hw, -, -, hc⟩ := file_survives_splitting .blacklist hl (by decide : 1 ≤ 2) (by decide)
  exact ⟨hl, by decide, by decide, hs ▸ hw, (hc chunks hs).1⟩

end ParkingStation.PaymentReader
