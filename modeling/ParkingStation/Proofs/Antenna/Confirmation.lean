import Mathlib.Data.List.DropRight
import Mathlib.Data.List.Induction
import ParkingStation.Antenna.Session
import ParkingStation.Proofs.Bcd
import ParkingStation.Proofs.Exchange.PollCeiling

namespace ParkingStation

lemma UnitNumber.ofDigits_ok_iff {digits : String} {number : UnitNumber} :
    UnitNumber.ofDigits digits = .ok number ↔ number.digits = digits := by
  constructor
  · intro h
    simp only [ofDigits] at h
    split at h
    · cases h
      rfl
    · cases h
  · rintro rfl
    rw [ofDigits, dif_pos number.valid]

namespace Antenna

open Exchange

variable {m : Nat} {s : Session} {frame : Frame} {frames : List Frame} {number : UnitNumber}
  {xs : List UnitNumber}

def Shows (frame : Frame) (number : UnitNumber) : Prop :=
  frame.category = 0x02 ∧ frame.command = 0x20 ∧ ∃ packed rest, frame.data = 0x00 :: packed ++ rest ∧
    packed.length = 5 ∧ Bcd.Packed packed ∧ number.digits = String.ofList (packed.flatMap Bcd.pairOf)

def reading? (frame : Frame) : Option UnitNumber :=
  match Reply.parse .forceGetUnit frame with
  | .ok (.unit number) => some number
  | _ => none

def readings (frames : List Frame) : List UnitNumber := frames.filterMap reading?

lemma ofData_unit_iff {data : Bytes} :
    Reply.ofData .forceGetUnit data = .ok (.unit number) ↔
      6 ≤ data.length ∧ Bcd.unpack ((data.drop 1).take 5) = .ok number.digits := by
  constructor
  · intro h
    obtain ⟨_, hr, h⟩ := of_bind_ok h
    obtain ⟨digits, hu, h⟩ := of_bind_ok h
    obtain ⟨found, ho, h⟩ := of_bind_ok h
    cases h
    rw [hu, UnitNumber.ofDigits_ok_iff.mp ho]
    exact ⟨by simpa [required] using hr, rfl⟩
  · rintro ⟨hl, hu⟩
    have hr : required 6 data = .ok () := by simp [required, hl]
    simp only [Reply.ofData, hr, hu, bind, Except.bind, UnitNumber.ofDigits_ok_iff.mpr rfl]
    rfl

lemma parse_unit_iff :
    Reply.parse .forceGetUnit frame = .ok (.unit number) ↔
      frame.category = 0x02 ∧ frame.command = 0x20 ∧ frame.data.head? = some 0x00 ∧
        Reply.ofData .forceGetUnit frame.data = .ok (.unit number) := by
  by_cases hf : frame.category = 0x02 ∧ frame.command = 0x20
  · obtain ⟨hc, hk⟩ := hf
    have hn : Command.nameOf? 0x02 0x20 = some "ForceGetIU" := by decide
    cases hd : frame.data with
    | nil => simp [Reply.parse, hc, hk, hn, hd, Command.category, Command.code]
    | cons first rest =>
      by_cases hz : first = 0x00
      · simp [Reply.parse, hc, hk, hn, hd, hz, Command.category, Command.code]
      · by_cases ho : first = 0x01 <;> simp [Reply.parse, hc, hk, hn, hd, hz, ho, Command.category, Command.code]
  · have hn : ¬ (frame.category = Command.forceGetUnit.category ∧ frame.command = Command.forceGetUnit.code) := hf
    constructor
    · intro h
      simp only [Reply.parse, if_neg hn] at h
      split at h <;> cases h
    · rintro ⟨hc, hk, -⟩
      exact absurd ⟨hc, hk⟩ hf

lemma reading?_eq_parse : reading? frame = some number ↔ Reply.parse .forceGetUnit frame = .ok (.unit number) := by
  unfold reading?
  split
  · next h => simp [h]
  · next h => simpa using h number

lemma reading?_eq_some_iff : reading? frame = some number ↔ Shows frame number := by
  rw [reading?_eq_parse, parse_unit_iff, ofData_unit_iff, Shows, Bcd.unpack_ok_iff]
  refine and_congr_right fun _ => and_congr_right fun _ => ?_
  constructor
  · rintro ⟨hz, hl, hp, hn⟩
    obtain ⟨rest, hd⟩ := List.head?_eq_some_iff.mp hz
    rw [hd, List.length_cons] at hl
    rw [hd] at hp hn
    exact ⟨rest.take 5, rest.drop 5, by simp [hd], by rw [List.length_take]; omega, hp, hn⟩
  · rintro ⟨packed, rest, hd, hl, hp, hn⟩
    have ht : (frame.data.drop 1).take 5 = packed := by simp [hd, ← hl]
    rw [ht]
    exact ⟨by simp [hd], by simp [hd, hl], hp, hn⟩

def Settled (m : Nat) (xs : List UnitNumber) : Prop := ∃ number, List.replicate m number <:+ xs

def Unsettled (m : Nat) (xs : List UnitNumber) : Prop := ∀ ys, ys <+: xs → ¬ Settled m ys

def finalRun (xs : List UnitNumber) : Nat := (xs.rtakeWhile (fun x => xs.getLast? = some x)).length

lemma finalRun_concat (xs : List UnitNumber) (x : UnitNumber) :
    finalRun (xs ++ [x]) = if xs.getLast? = some x then finalRun xs + 1 else 1 := by
  have hl : (xs ++ [x]).getLast? = some x := List.getLast?_concat
  simp only [finalRun, hl, List.rtakeWhile_concat, decide_true, if_true, List.length_append, List.length_singleton]
  split
  · next h => rw [h]
  · next h =>
    have hn : xs.rtakeWhile (fun y => some x = some y) = [] := by
      refine List.rtakeWhile_eq_nil_iff.mpr fun hne hx => h ?_
      rw [List.getLast?_eq_some_getLast hne]
      exact (of_decide_eq_true hx).symm
    rw [hn, List.length_nil]

lemma replicate_suffix_concat {x y : UnitNumber} :
    List.replicate (m + 1) x <:+ xs ++ [y] ↔ x = y ∧ List.replicate m x <:+ xs := by
  rw [List.replicate_succ', List.suffix_concat_iff]
  constructor
  · rintro (h | ⟨t, he, ht⟩)
    · simp at h
    · obtain ⟨rfl, rfl⟩ := List.append_singleton_inj.mp he
      exact ⟨rfl, ht⟩
  · rintro ⟨rfl, h⟩
    exact .inr ⟨_, rfl, h⟩

lemma replicate_suffix_iff (hm : 1 ≤ m) {x : UnitNumber} :
    List.replicate m x <:+ xs ↔ xs.getLast? = some x ∧ m ≤ finalRun xs := by
  induction xs using List.reverseRecOn generalizing m with
  | nil =>
    have hn : List.replicate m x ≠ [] := by simp; omega
    simp [hn]
  | append_singleton xs y ih =>
    obtain ⟨k, rfl⟩ : ∃ k, m = k + 1 := ⟨m - 1, by omega⟩
    rw [replicate_suffix_concat, List.getLast?_concat, finalRun_concat, Option.some_inj, eq_comm (a := x)]
    refine and_congr_right ?_
    rintro rfl
    cases k with
    | zero => split <;> simp
    | succ k =>
      rw [ih (by omega)]
      split <;> simp_all

section

variable {x : UnitNumber}

lemma settled_concat (hm : 1 ≤ m) : Settled m (xs ++ [x]) ↔ m ≤ finalRun (xs ++ [x]) := by
  simp [Settled, replicate_suffix_iff hm]

lemma unsettled_nil (hm : 1 ≤ m) : Unsettled m [] := by
  rintro ys hy ⟨x, hx⟩
  rw [List.prefix_nil.mp hy, replicate_suffix_iff hm] at hx
  cases hx.1

lemma unsettled_concat : Unsettled m (xs ++ [x]) ↔ Unsettled m xs ∧ ¬ Settled m (xs ++ [x]) := by
  simp only [Unsettled, List.prefix_concat_iff]
  grind

end

namespace Session

def polled (m : Nat) (s : Session) (frames : List Frame) : Session :=
  frames.foldl (fun s frame => (s.judge m .forceGetUnit frame).2) s

lemma polled_concat (m : Nat) (s : Session) (frames : List Frame) (frame : Frame) :
    s.polled m (frames ++ [frame]) = ((s.polled m frames).judge m .forceGetUnit frame).2 := by
  rw [polled, List.foldl_append]
  rfl

def Arrives (m : Nat) (s : Session) (frame : Frame) (number : UnitNumber) : Prop :=
  .unitArrived number ∈ (s.judge m .forceGetUnit frame).1.events

def Silent (m : Nat) (s : Session) (frames : List Frame) : Prop :=
  ∀ before frame number, before ++ [frame] <+: frames → ¬ (s.polled m before).Arrives m frame number

lemma silent_concat :
    s.Silent m (frames ++ [frame]) ↔ s.Silent m frames ∧ ∀ number, ¬ (s.polled m frames).Arrives m frame number := by
  constructor
  · intro h
    exact ⟨fun before f n hp => h before f n (hp.trans (List.prefix_append _ _)),
      fun n => h frames frame n List.prefix_rfl⟩
  · rintro ⟨h, hf⟩ before f n hp
    rcases List.prefix_concat_iff.mp hp with he | hp
    · obtain ⟨rfl, rfl⟩ := List.append_singleton_inj.mp he
      exact hf n
    · exact h before f n hp

def tallied (s : Session) (xs : List UnitNumber) : Session :=
  { s with lastUnit := xs.getLast?.or s.lastUnit, reads := finalRun xs }

lemma count_tallied (m : Nat) (s : Session) (xs : List UnitNumber) (x : UnitNumber) :
    (s.tallied xs).count m x =
      if finalRun (xs ++ [x]) < m then (false, s.tallied (xs ++ [x]))
      else (true, { s with lastUnit := some x, reads := 0, scanning := false }) := by
  have hr : (if (s.tallied xs).lastUnit = some x then (s.tallied xs).reads + 1 else 1) = finalRun (xs ++ [x]) := by
    rw [finalRun_concat]
    cases xs using List.reverseRecOn with
    | nil => simp [tallied, finalRun]
    | append_singleton xs y => simp [tallied]
  simp only [count, hr]
  split <;> simp [tallied]

lemma judge_reading (h : reading? frame = some number) :
    s.judge m .forceGetUnit frame =
      ((if (s.count m number).1 then .done [.unitArrived number] else .unready []), (s.count m number).2) := by
  have hp : Reply.parse .forceGetUnit frame = .ok (.unit number) := reading?_eq_parse.mp h
  rw [judge, hp]
  exact answer_unit _ rfl

lemma judge_unread (h : reading? frame = none) :
    (s.judge m .forceGetUnit frame).2 = s ∧ ∀ number, ¬ s.Arrives m frame number := by
  unfold Arrives
  cases hp : Reply.parse .forceGetUnit frame with
  | error e =>
    simp only [judge, hp, Verdict.ofError]
    split <;> simp [Verdict.events]
  | ok reply =>
    cases reply with
    | unit number => simp [reading?, hp] at h
    | noUnit | rejected =>
      rw [judge, hp]
      exact ⟨rfl, fun _ => List.not_mem_nil⟩
    | done | status =>
      rw [judge, hp]
      refine ⟨rfl, fun _ hn => ?_⟩
      cases List.mem_singleton.mp hn

lemma judge_tallied_unsettled (hm : 1 ≤ m) (hr : reading? frame = some number) (hs : ¬ Settled m (xs ++ [number])) :
    (s.tallied xs).judge m .forceGetUnit frame = (.unready [], s.tallied (xs ++ [number])) := by
  rw [settled_concat hm, not_le] at hs
  rw [judge_reading hr, count_tallied, if_pos hs]
  rfl

lemma judge_tallied_settled (hm : 1 ≤ m) (hr : reading? frame = some number) (hs : Settled m (xs ++ [number])) :
    (s.tallied xs).judge m .forceGetUnit frame =
      (.done [.unitArrived number], { s with lastUnit := some number, reads := 0, scanning := false }) := by
  rw [settled_concat hm, ← not_lt] at hs
  rw [judge_reading hr, count_tallied, if_neg hs]
  rfl

lemma arrives_tallied_iff (hm : 1 ≤ m) (hr : reading? frame = some number) {arrived : UnitNumber} :
    (s.tallied xs).Arrives m frame arrived ↔ arrived = number ∧ Settled m (xs ++ [number]) := by
  unfold Arrives
  by_cases hs : Settled m (xs ++ [number])
  · simp [judge_tallied_settled hm hr hs, hs, Verdict.events, Verdict.done]
  · simp [judge_tallied_unsettled hm hr hs, hs, Verdict.events]

lemma silent_iff (hm : 1 ≤ m) (s : Session) (frames : List Frame) :
    (s.startScanning.Silent m frames ↔ Unsettled m (readings frames)) ∧
      (Unsettled m (readings frames) →
        s.startScanning.polled m frames = s.startScanning.tallied (readings frames)) := by
  induction frames using List.reverseRecOn with
  | nil =>
    have hn : s.startScanning.Silent m [] := fun before frame number hp => by simp at hp
    exact ⟨iff_of_true hn (unsettled_nil hm), fun _ => rfl⟩
  | append_singleton frames frame ih =>
    rw [silent_concat, ih.1, polled_concat]
    cases hr : reading? frame with
    | none =>
      have hx : readings (frames ++ [frame]) = readings frames := by simp [readings, hr]
      rw [hx, (judge_unread hr).1]
      exact ⟨and_iff_left (judge_unread hr).2, ih.2⟩
    | some number =>
      have hx : readings (frames ++ [frame]) = readings frames ++ [number] := by simp [readings, hr]
      rw [hx, unsettled_concat]
      refine ⟨and_congr_right fun hu => ?_, fun ⟨hu, hs⟩ => ?_⟩
      · rw [ih.2 hu]
        simp only [arrives_tallied_iff hm hr]
        exact ⟨fun h hs => h number ⟨rfl, hs⟩, fun hs _ h => hs h.2⟩
      · rw [ih.2 hu, judge_tallied_unsettled hm hr hs]

/-- The first unit to arrive is the first one read `m` times in a row since the scan began, whatever the last unit was
before. Until then the session counts the equal readings at the end, and other replies leave it as it is. -/
theorem unit_confirmed {m : Nat} (hm : 1 ≤ m) (s : Session) (frames : List Frame) :
    let begun := s.startScanning
    let now := begun.polled m frames
    let xs := readings frames
    (∀ frame number, reading? frame = some number ↔ Shows frame number) ∧
    (∀ frame number, begun.Silent m frames ∧ now.Arrives m frame number ↔
      Unsettled m xs ∧ Shows frame number ∧ Settled m (xs ++ [number])) ∧
    (begun.Silent m frames →
      now.reads = finalRun xs ∧ now.lastUnit = xs.getLast?.or s.lastUnit ∧
      ∀ frame number, Shows frame number →
        (Settled m (xs ++ [number]) → now.judge m .forceGetUnit frame =
          (.done [.unitArrived number], { now with lastUnit := some number, reads := 0, scanning := false })) ∧
        (¬ Settled m (xs ++ [number]) → now.judge m .forceGetUnit frame =
          (.unready [], { now with lastUnit := some number, reads := finalRun (xs ++ [number]) }))) ∧
    ∀ frame, (∀ number, ¬ Shows frame number) →
      (now.judge m .forceGetUnit frame).2 = now ∧ ∀ number, ¬ now.Arrives m frame number := by
  intro begun now xs
  obtain ⟨hsilent, htallied⟩ := silent_iff hm s frames
  refine ⟨fun _ _ => reading?_eq_some_iff, fun frame number => ?_, fun hs => ?_, fun frame hn => ?_⟩
  · rw [hsilent]
    refine and_congr_right fun hu => ?_
    have hnow : now = begun.tallied xs := htallied hu
    rw [hnow, ← reading?_eq_some_iff]
    cases hr : reading? frame with
    | none => simpa using (judge_unread hr).2 number
    | some found =>
      rw [arrives_tallied_iff hm hr]
      grind
  · have hnow : now = begun.tallied xs := htallied (hsilent.mp hs)
    rw [hnow]
    refine ⟨rfl, rfl, fun frame number hf => ?_⟩
    have hr := reading?_eq_some_iff.mpr hf
    refine ⟨fun h => ?_, fun h => ?_⟩
    · rw [judge_tallied_settled hm hr h]
      rfl
    · rw [judge_tallied_unsettled hm hr h]
      simp [tallied]
  · refine judge_unread ?_
    cases hr : reading? frame with
    | none => rfl
    | some number => exact absurd (reading?_eq_some_iff.mp hr) (hn number)

theorem second_reading_confirms :
    let reply (data : Bytes) : Frame := ⟨0x01, 0x80, 0x02, 0x20, 0x05, 0x00, data⟩
    let former : UnitNumber := ⟨"1020304050", by decide⟩
    let number : UnitNumber := ⟨"1234567890", by decide⟩
    let begun : Session := startScanning { lastUnit := some former, reads := 1 }
    let frames : List Frame :=
      [reply [0x00, 0x10, 0x20, 0x30, 0x40, 0x50], reply [0x00, 0x12, 0x34, 0x56, 0x78, 0x90], reply [0x01]]
    1 ≤ 2 ∧ begun.Silent 2 frames ∧
      (begun.polled 2 frames).Arrives 2 (reply [0x00, 0x12, 0x34, 0x56, 0x78, 0x90]) number := by
  intro reply former number begun frames
  have hx : readings frames = [former] ++ [number] := by decide
  have packed : Bcd.Packed [0x12, 0x34, 0x56, 0x78, 0x90] := (Bcd.unpackChars_ok_iff.mp rfl).1
  refine ⟨by decide, ((unit_confirmed (by decide) _ frames).2.1 _ number).mpr ⟨?_, ?_, ?_⟩⟩
  · rw [hx, unsettled_concat, ← List.nil_append [former], unsettled_concat]
    refine ⟨⟨unsettled_nil (by decide), ?_⟩, ?_⟩ <;> rw [settled_concat (by decide)] <;> decide
  · exact ⟨rfl, rfl, [0x12, 0x34, 0x56, 0x78, 0x90], [], rfl, rfl, packed, by decide⟩
  · rw [hx, settled_concat (by decide)]
    decide

end Session

end Antenna

end ParkingStation
