import Mathlib.Data.Nat.Digits.Defs
import ParkingStation.Proofs.Bcd

namespace ParkingStation

def FourDigits (year : Int) : Prop := 0 ≤ year ∧ year ≤ 9999

namespace Bcd

variable {cs : List Char} {bs : Bytes} {digits : String}

lemma packChars?_eq_some (hd : cs.all isDigit = true) {n : Nat} (hl : cs.length = 2 * n) :
    ∃ bs, packChars? cs = some bs ∧ bs.length = n := by
  induction n generalizing cs with
  | zero =>
    obtain rfl := List.eq_nil_of_length_eq_zero hl
    exact ⟨[], rfl, rfl⟩
  | succ n ih =>
    match cs, hl with
    | high :: low :: cs, hl =>
      simp only [List.all_cons, Bool.and_eq_true] at hd
      obtain ⟨bs, hb, rfl⟩ := ih hd.2.2 (by simpa [Nat.mul_add] using hl)
      exact ⟨UInt8.ofNat (digitValue high * 16 + digitValue low) :: bs, by simp [packChars?, hd.1, hd.2.1, hb], rfl⟩

lemma packChars?_eq_none (hd : cs.all isDigit = false) : packChars? cs = none := by
  fun_induction packChars? cs with
  | case1 => cases hd
  | case2 => rfl
  | case3 high low cs hh ih =>
    simp only [Bool.and_eq_true] at hh
    have hr : cs.all isDigit = false := by simpa [hh.1, hh.2] using hd
    rw [ih hr]
    rfl
  | case4 => rfl

lemma pack_ok (hd : digits.toList.all isDigit = true) {n : Nat} (hl : digits.toList.length = 2 * n) :
    ∃ bs, pack digits = .ok bs ∧ bs.length = n := by
  obtain ⟨bs, hb, hn⟩ := packChars?_eq_some hd hl
  exact ⟨bs, by simp [pack, hb], hn⟩

lemma pack_error (hd : digits.toList.all isDigit = false) : pack digits = .error (.invalidFrame (.bcdDigits digits)) := by
  simp [pack, packChars?_eq_none hd]

end Bcd

open Bcd

variable {width n : Nat} {year : Int}

lemma toList_padded (width n : Nat) :
    (padded width n).toList = List.replicate (width - (Nat.toDigits 10 n).length) '0' ++ Nat.toDigits 10 n := by
  simp [padded]

lemma isDigit_padded (width n : Nat) : (padded width n).toList.all isDigit = true := by
  rw [toList_padded, List.all_eq_true]
  intro c hc
  rcases List.mem_append.mp hc with hc | hc
  · rw [List.eq_of_mem_replicate hc]
    decide
  · simpa [Char.isDigit, isDigit, Char.le_def] using Nat.isDigit_of_mem_toDigits (by omega) (by omega) hc

lemma length_padded (hw : 0 < width) (h : n < 10 ^ width) : (padded width n).toList.length = width := by
  have hl : (Nat.toDigits 10 n).length ≤ width := (Nat.length_toDigits_le_iff (by omega) hw).mpr h
  rw [toList_padded, List.length_append, List.length_replicate]
  omega

lemma yearText_fourDigits (h : FourDigits year) : yearText year = padded 4 year.natAbs := by
  rw [yearText, if_neg (Int.not_lt.mpr h.1), if_pos h.2]

lemma isDigit_yearText (h : ¬ FourDigits year) : (yearText year).toList.all isDigit = false := by
  rw [FourDigits] at h
  rw [yearText]
  split
  · simp [isDigit]
  · rw [if_neg (by omega)]
    simp [isDigit]

lemma monthLength_le (year : Int) (month : Nat) : monthLength year month ≤ 31 := by
  unfold monthLength
  split <;> (try split) <;> omega

namespace DateTime

variable {time : DateTime}

lemma toList_digits (time : DateTime) :
    time.digits.toList = (yearText time.date.year).toList ++
      [time.date.month, time.date.day, time.hour, time.minute, time.second].flatMap fun n => (padded 2 n).toList := by
  simp [digits]

lemma length_twoDigits (time : DateTime) :
    ([time.date.month, time.date.day, time.hour, time.minute, time.second].flatMap
      fun n => (padded 2 n).toList).length = 10 := by
  have hd := time.date.valid
  have hl := monthLength_le time.date.year time.date.month
  have ht := time.valid
  have two {n : Nat} (h : n < 100) : (padded 2 n).toList.length = 2 := length_padded (by omega) h
  simp [two (n := time.date.month) (by omega), two (n := time.date.day) (by omega),
    two (n := time.hour) (by omega), two (n := time.minute) (by omega), two (n := time.second) (by omega)]

end DateTime

namespace Bcd

variable {time : DateTime}

theorem packDateTime_ok (h : FourDigits time.date.year) : ∃ bs, packDateTime time = .ok bs ∧ bs.length = 7 := by
  refine pack_ok ?_ ?_
  · rw [time.toList_digits, yearText_fourDigits h, List.all_append, isDigit_padded, List.all_flatMap]
    simp [isDigit_padded]
  · have hy : time.date.year.natAbs < 10 ^ 4 := by
      have := h.1
      have := h.2
      omega
    rw [time.toList_digits, yearText_fourDigits h, List.length_append, time.length_twoDigits, length_padded (by omega) hy]

theorem packDateTime_error (h : ¬ FourDigits time.date.year) :
    packDateTime time = .error (.invalidFrame (.bcdDigits time.digits)) := by
  refine pack_error ?_
  rw [time.toList_digits, List.all_append, isDigit_yearText h, Bool.false_and]

end Bcd

end ParkingStation
