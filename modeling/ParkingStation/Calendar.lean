namespace ParkingStation

def isLeap (year : Int) : Bool :=
  year % 4 == 0 && (year % 100 != 0 || year % 400 == 0)

def monthLength (year : Int) : Nat → Nat
  | 2 => if isLeap year then 29 else 28
  | 4 | 6 | 9 | 11 => 30
  | _ => 31

theorem monthLength_pos (year : Int) (month : Nat) : 1 ≤ monthLength year month := by
  unfold monthLength
  split <;> (try split) <;> omega

structure Date where
  year : Int
  month : Nat
  day : Nat
  valid : 1 ≤ month ∧ month ≤ 12 ∧ 1 ≤ day ∧ day ≤ monthLength year month
  deriving DecidableEq

structure DateTime where
  date : Date
  hour : Nat
  minute : Nat
  second : Nat
  valid : hour < 24 ∧ minute < 60 ∧ second < 60
  deriving DecidableEq

def padded (width n : Nat) : String :=
  let digits := Nat.toDigits 10 n
  String.ofList (List.replicate (width - digits.length) '0' ++ digits)

def yearText (year : Int) : String :=
  if year < 0 then "-" ++ padded 4 year.natAbs
  else if year ≤ 9999 then padded 4 year.natAbs
  else "+" ++ padded 4 year.natAbs

namespace Date

def of? (year : Int) (month day : Nat) : Option Date :=
  if h : 1 ≤ month ∧ month ≤ 12 ∧ 1 ≤ day ∧ day ≤ monthLength year month then some ⟨year, month, day, h⟩
  else none

def next (d : Date) : Date :=
  if hd : d.day < monthLength d.year d.month then
    ⟨d.year, d.month, d.day + 1, by have := d.valid; omega⟩
  else if hm : d.month < 12 then
    ⟨d.year, d.month + 1, 1, by have := monthLength_pos d.year (d.month + 1); omega⟩
  else
    ⟨d.year + 1, 1, 1, by have := monthLength_pos (d.year + 1) 1; omega⟩

def after (d : Date) : Nat → Date
  | 0 => d
  | n + 1 => after d.next n

def daysBeforeYear (year : Int) : Int :=
  365 * (year - 1) + (year - 1) / 4 - (year - 1) / 100 + (year - 1) / 400

def daysBeforeMonth (year : Int) : Nat → Nat
  | 0 | 1 => 0
  | m + 2 => daysBeforeMonth year (m + 1) + monthLength year (m + 1)

def dayNumber (d : Date) : Int :=
  daysBeforeYear d.year + daysBeforeMonth d.year d.month + d.day

def text (d : Date) : String :=
  yearText d.year ++ "-" ++ padded 2 d.month ++ "-" ++ padded 2 d.day

theorem daysBeforeYear_succ (year : Int) :
    daysBeforeYear (year + 1) = daysBeforeYear year + daysBeforeMonth year 12 + 31 := by
  have hl : isLeap year = true ↔ year % 4 = 0 ∧ (year % 100 ≠ 0 ∨ year % 400 = 0) := by
    simp [isLeap]
  have hs : daysBeforeMonth year 12 = if isLeap year then 335 else 334 := by
    by_cases hy : isLeap year = true <;> simp [daysBeforeMonth, monthLength, hy]
  simp only [daysBeforeYear, hs]
  split
  · have := hl.mp ‹_›
    omega
  · have := mt hl.mpr ‹_›
    omega

theorem dayNumber_next (d : Date) : d.next.dayNumber = d.dayNumber + 1 := by
  have hv := d.valid
  unfold next
  split
  · simp only [dayNumber]
    omega
  split
  · have hm : monthLength d.year d.month = d.day := by omega
    have hb : daysBeforeMonth d.year (d.month + 1) = daysBeforeMonth d.year d.month + monthLength d.year d.month := by
      obtain ⟨m, hm⟩ : ∃ m, d.month = m + 1 := ⟨d.month - 1, by omega⟩
      rw [hm, daysBeforeMonth]
    simp only [dayNumber, hb, hm]
    omega
  · have hm : d.month = 12 := by omega
    have hd : d.day = 31 := by
      have : monthLength d.year d.month = 31 := by rw [hm]; rfl
      omega
    simp only [dayNumber, daysBeforeYear_succ, hm, hd]
    simp [daysBeforeMonth]

theorem dayNumber_after (d : Date) (n : Nat) : (d.after n).dayNumber = d.dayNumber + n := by
  induction n generalizing d with
  | zero => simp [after]
  | succ n ih => simp only [after, ih, dayNumber_next]; omega

end Date

namespace DateTime

def of? (date : Date) (hour minute second : Nat) : Option DateTime :=
  if h : hour < 24 ∧ minute < 60 ∧ second < 60 then some ⟨date, hour, minute, second, h⟩ else none

def afterMidnight (date : Date) (seconds : Nat) : DateTime where
  date := date.after (seconds / 86400)
  hour := seconds / 3600 % 24
  minute := seconds / 60 % 60
  second := seconds % 60
  valid := by omega

def secondsSince (date : Date) (t : DateTime) : Int :=
  (t.date.dayNumber - date.dayNumber) * 86400 + t.hour * 3600 + t.minute * 60 + t.second

theorem secondsSince_afterMidnight (date : Date) (seconds : Nat) :
    (afterMidnight date seconds).secondsSince date = seconds := by
  simp only [secondsSince, afterMidnight, Date.dayNumber_after]
  omega

def text (t : DateTime) : String :=
  t.date.text ++ " " ++ padded 2 t.hour ++ ":" ++ padded 2 t.minute ++ ":" ++ padded 2 t.second

def digits (t : DateTime) : String :=
  yearText t.date.year ++ padded 2 t.date.month ++ padded 2 t.date.day ++ padded 2 t.hour ++ padded 2 t.minute ++
    padded 2 t.second

end DateTime

end ParkingStation
