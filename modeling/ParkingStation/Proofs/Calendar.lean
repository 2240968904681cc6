import Mathlib.Tactic.Lemma
import ParkingStation.Calendar

namespace ParkingStation

namespace Date

variable {d e f : Date}

def Before (d e : Date) : Prop :=
  d.year < e.year ∨ d.year = e.year ∧ (d.month < e.month ∨ d.month = e.month ∧ d.day < e.day)

lemma Before.trans (h : d.Before e) (k : e.Before f) : d.Before f := by
  simp only [Before] at *
  omega

lemma before_next (d : Date) : d.Before d.next := by
  simp only [next]
  split
  · exact .inr ⟨rfl, .inr ⟨rfl, Nat.lt_succ_self d.day⟩⟩
  · split
    · exact .inr ⟨rfl, .inl (Nat.lt_succ_self d.month)⟩
    · exact .inl (Int.lt_succ d.year)

lemma before_after (d : Date) (n : Nat) : d.Before (d.after (n + 1)) := by
  induction n generalizing d with
  | zero => exact d.before_next
  | succ n ih => exact d.before_next.trans (ih d.next)

lemma after_add (d : Date) (m n : Nat) : d.after (m + n) = (d.after m).after n := by
  induction m generalizing d with
  | zero => rw [Nat.zero_add, after]
  | succ m ih => rw [Nat.succ_add, after, ih, after]

lemma after_before {m n : Nat} (h : m < n) (d : Date) : (d.after m).Before (d.after n) := by
  obtain ⟨k, rfl⟩ := Nat.exists_eq_add_of_lt h
  rw [Nat.add_assoc, after_add]
  exact before_after _ k

lemma year_le_after (d : Date) (n : Nat) : d.year ≤ (d.after n).year := by
  cases n with
  | zero => exact Int.le_refl d.year
  | succ n =>
    have h := d.before_after n
    simp only [Before] at h
    omega

lemma daysBeforeYear_mono {m n : Int} (h : m ≤ n) : daysBeforeYear m ≤ daysBeforeYear n := by
  simp only [daysBeforeYear]
  omega

lemma year_lt_of_dayNumber {year : Int} (h : d.dayNumber ≤ daysBeforeYear year) : d.year < year := by
  have hv := d.valid
  apply Int.not_le.mp
  intro hn
  have hm := daysBeforeYear_mono hn
  simp only [dayNumber] at h
  omega

end Date

namespace DateTime

def Before (s t : DateTime) : Prop :=
  s.date.Before t.date ∨ s.date = t.date ∧
    (s.hour < t.hour ∨ s.hour = t.hour ∧ (s.minute < t.minute ∨ s.minute = t.minute ∧ s.second < t.second))

lemma afterMidnight_before (date : Date) {m n : Nat} (h : m < n) :
    (afterMidnight date m).Before (afterMidnight date n) := by
  rcases Nat.lt_or_ge (m / 86400) (n / 86400) with hd | hd
  · exact .inl (date.after_before hd)
  · have he : m / 86400 = n / 86400 := by omega
    refine .inr ⟨congrArg date.after he, ?_⟩
    simp only [afterMidnight]
    omega

end DateTime

end ParkingStation
