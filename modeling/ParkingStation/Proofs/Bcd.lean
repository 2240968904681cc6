import Mathlib.Tactic.Lemma
import ParkingStation.Bcd

namespace ParkingStation.Bcd

variable {bs : Bytes} {b : UInt8}

def Packed (bs : Bytes) : Prop := ∀ b ∈ bs, b >>> 4 ≤ 9 ∧ b &&& 15 ≤ 9

def number (b : UInt8) : Nat := (b >>> 4).toNat * 10 + (b &&& 15).toNat

def pairOf (b : UInt8) : List Char := [digitChar (b >>> 4), digitChar (b &&& 15)]

lemma packed_append {cs : Bytes} : Packed (bs ++ cs) ↔ Packed bs ∧ Packed cs := List.forall_mem_append

lemma unpackChars_ok_iff {cs : List Char} : unpackChars bs = .ok cs ↔ Packed bs ∧ cs = bs.flatMap pairOf := by
  induction bs generalizing cs with
  | nil => simp [unpackChars, Packed, eq_comm]
  | cons b bs ih =>
    simp only [unpackChars, Packed, List.forall_mem_cons, List.flatMap_cons]
    split
    case isTrue hb =>
      constructor
      · intro h
        cases hu : unpackChars bs with
        | error e => simp [hu, Except.map] at h
        | ok rest =>
          obtain ⟨hp, rfl⟩ := ih.mp hu
          simp only [hu, Except.map, Except.ok.injEq] at h
          exact ⟨⟨hb, hp⟩, h.symm⟩
      · rintro ⟨⟨-, hp⟩, rfl⟩
        rw [ih.mpr ⟨hp, rfl⟩]
        rfl
    case isFalse hb =>
      constructor
      · intro h
        cases h
      · rintro ⟨⟨hd, -⟩, -⟩
        exact absurd hd hb

lemma unpack_ok_iff {digits : String} :
    unpack bs = .ok digits ↔ Packed bs ∧ digits = String.ofList (bs.flatMap pairOf) := by
  constructor
  · intro h
    cases hu : unpackChars bs with
    | error e => simp [unpack, hu, Except.map] at h
    | ok cs =>
      obtain ⟨hp, rfl⟩ := unpackChars_ok_iff.mp hu
      simp only [unpack, hu, Except.map, Except.ok.injEq] at h
      exact ⟨hp, h.symm⟩
  · rintro ⟨hp, rfl⟩
    rw [unpack, unpackChars_ok_iff.mpr ⟨hp, rfl⟩]
    rfl

lemma length_pairs (bs : Bytes) : (bs.flatMap pairOf).length = 2 * bs.length := by
  induction bs with
  | nil => rfl
  | cons b bs ih =>
    simp only [List.flatMap_cons, List.length_append, ih, pairOf, List.length_cons, List.length_nil]
    omega

lemma isDigit_digitChar {n : UInt8} (h : n ≤ 9) : isDigit (digitChar n) = true := by
  have hn : n.toNat ≤ 9 := h
  have hd : ∀ k ≤ 9, isDigit (Char.ofNat (48 + k)) = true := by decide
  exact hd n.toNat hn

lemma isDigit_pairs (h : Packed bs) : (bs.flatMap pairOf).all isDigit = true := by
  rw [List.all_eq_true]
  intro c hc
  obtain ⟨b, hb, hc⟩ := List.mem_flatMap.mp hc
  obtain ⟨hh, hl⟩ := h b hb
  rcases hc with _ | ⟨_, _ | ⟨_, hc⟩⟩
  · exact isDigit_digitChar hh
  · exact isDigit_digitChar hl
  · cases hc

lemma digitValue_digitChar {n : UInt8} (h : n ≤ 9) : digitValue (digitChar n) = n.toNat := by
  have hn : n.toNat ≤ 9 := h
  have hd : ∀ k ≤ 9, (Char.ofNat (48 + k)).toNat - 48 = k := by decide
  exact hd n.toNat hn

lemma valueOf_append (cs ds : List Char) :
    valueOf (cs ++ ds) = ds.foldl (fun n c => n * 10 + digitValue c) (valueOf cs) :=
  List.foldl_append

lemma valueOf_pairOf (h : Packed [b]) : valueOf (pairOf b) = number b := by
  obtain ⟨hh, hl⟩ := h b List.mem_cons_self
  simp only [valueOf, pairOf, List.foldl_cons, List.foldl_nil, digitValue_digitChar hh, digitValue_digitChar hl, number]
  omega

lemma valueOf_pairOf_append {c : UInt8} (h : Packed [b, c]) :
    valueOf (pairOf b ++ pairOf c) = 100 * number b + number c := by
  obtain ⟨hh, hl⟩ := h c (List.mem_cons_of_mem _ List.mem_cons_self)
  have hp : Packed [b] := fun x hx => h x (List.mem_append_left [c] hx)
  have hb : valueOf (pairOf b) = number b := valueOf_pairOf hp
  rw [valueOf_append, hb]
  simp only [pairOf, List.foldl_cons, List.foldl_nil, digitValue_digitChar hh, digitValue_digitChar hl, number]
  omega

def SpellsDate (bs : Bytes) (date : Date) : Prop :=
  ∃ century year month day, bs = [century, year, month, day] ∧ Packed bs ∧
    date.year = (100 * number century + number year : Nat) ∧ date.month = number month ∧ date.day = number day

def SpellsTime (bs : Bytes) (time : DateTime) : Prop :=
  ∃ day hour minute second, bs = day ++ [hour, minute, second] ∧ SpellsDate day time.date ∧
    Packed [hour, minute, second] ∧ time.hour = number hour ∧ time.minute = number minute ∧ time.second = number second

lemma unpackDate_of_packed {century year month day : UInt8} (h : Packed [century, year, month, day]) :
    unpackDate [century, year, month, day] =
      match Date.of? (100 * number century + number year : Nat) (number month) (number day) with
      | some date => .ok date
      | none => .error (.invalidFrame (.date (String.ofList ([century, year, month, day].flatMap pairOf)))) := by
  have hp : Packed [century, year] := fun x hx => h x (List.mem_append_left [month, day] hx)
  have hy : valueOf (pairOf century ++ pairOf year) = 100 * number century + number year := valueOf_pairOf_append hp
  have hm : valueOf (pairOf month) = number month := valueOf_pairOf fun b hb => h b (by simp_all)
  have hd : valueOf (pairOf day) = number day := valueOf_pairOf fun b hb => h b (by simp_all)
  rw [unpackDate, unpackChars_ok_iff.mpr ⟨h, rfl⟩]
  simp only [← hy, ← hm, ← hd]
  rfl

lemma unpackDate_ok_iff {date : Date} : unpackDate bs = .ok date ↔ SpellsDate bs date := by
  constructor
  · intro h
    have hp : Packed bs ∧ bs.length = 4 := by
      simp only [unpackDate] at h
      cases hu : unpackChars bs with
      | error e => simp [hu] at h
      | ok cs =>
        obtain ⟨hp, rfl⟩ := unpackChars_ok_iff.mp hu
        refine ⟨hp, ?_⟩
        simp only [hu, length_pairs] at h
        split at h
        · omega
        · cases h
    obtain ⟨hp, hl⟩ := hp
    obtain ⟨century, year, month, day, rfl⟩ : ∃ century year month day, bs = [century, year, month, day] := by
      match bs, hl with
      | [century, year, month, day], _ => exact ⟨century, year, month, day, rfl⟩
    rw [unpackDate_of_packed hp] at h
    simp only [Date.of?] at h
    split at h
    case h_1 date' hd =>
      split at hd
      · cases hd
        cases h
        exact ⟨century, year, month, day, rfl, hp, rfl, rfl, rfl⟩
      · cases hd
    case h_2 => cases h
  · rintro ⟨century, year, month, day, rfl, hp, hy, hm, hd⟩
    have hv := date.valid
    cases date
    simp only at hy hm hd
    subst hy hm hd
    rw [unpackDate_of_packed hp, Date.of?, dif_pos hv]

lemma unpackDateTime_of_packed {day : Bytes} {date : Date} {hour minute second : UInt8} (hd : SpellsDate day date)
    (h : Packed [hour, minute, second]) :
    unpackDateTime (day ++ [hour, minute, second]) =
      match DateTime.of? date (number hour) (number minute) (number second) with
      | some time => .ok time
      | none => .error (.invalidFrame (.time (String.ofList ((day ++ [hour, minute, second]).flatMap pairOf)))) := by
  have hday := unpackDate_ok_iff.mpr hd
  obtain ⟨century, year, month, n, rfl, hp, -⟩ := hd
  have single {b : UInt8} (hb : b ∈ [hour, minute, second]) : valueOf (pairOf b) = number b :=
    valueOf_pairOf fun c hc => h c (List.mem_singleton.mp hc ▸ hb)
  have hh : valueOf (pairOf hour) = number hour := single (by simp)
  have hm : valueOf (pairOf minute) = number minute := single (by simp)
  have hs : valueOf (pairOf second) = number second := single (by simp)
  have ht : ([century, year, month, n] ++ [hour, minute, second]).take 4 = [century, year, month, n] := rfl
  rw [unpackDateTime, unpackChars_ok_iff.mpr ⟨packed_append.mpr ⟨hp, h⟩, rfl⟩, ht, hday]
  simp only [← hh, ← hm, ← hs]
  rfl

lemma unpackDateTime_ok_iff {time : DateTime} : unpackDateTime bs = .ok time ↔ SpellsTime bs time := by
  constructor
  · intro h
    obtain ⟨hp, hl, date, hd⟩ : Packed bs ∧ bs.length = 7 ∧ ∃ date, unpackDate (bs.take 4) = .ok date := by
      simp only [unpackDateTime] at h
      cases hu : unpackChars bs with
      | error e => simp [hu] at h
      | ok cs =>
        obtain ⟨hp, rfl⟩ := unpackChars_ok_iff.mp hu
        simp only [hu, length_pairs] at h
        split at h
        · cases hd : unpackDate (bs.take 4) with
          | error e => simp [hd] at h
          | ok date => exact ⟨hp, by omega, date, rfl⟩
        · cases h
    obtain ⟨hour, minute, second, hc⟩ : ∃ hour minute second, bs.drop 4 = [hour, minute, second] := by
      match hr : bs.drop 4, (by simp [hl] : (bs.drop 4).length = 3) with
      | [hour, minute, second], _ => exact ⟨hour, minute, second, rfl⟩
    have hb : bs = bs.take 4 ++ [hour, minute, second] := by rw [← hc, List.take_append_drop]
    rw [hb] at hp h
    have hp := (packed_append.mp hp).2
    have hd := unpackDate_ok_iff.mp hd
    rw [unpackDateTime_of_packed hd hp] at h
    simp only [DateTime.of?] at h
    split at h
    case h_1 time' ht =>
      split at ht
      · cases ht
        cases h
        exact ⟨_, hour, minute, second, hb, hd, hp, rfl, rfl, rfl⟩
      · cases ht
    case h_2 => cases h
  · rintro ⟨day, hour, minute, second, rfl, hd, hp, hh, hm, hs⟩
    have hv := time.valid
    cases time
    simp only at hh hm hs hd
    subst hh hm hs
    rw [unpackDateTime_of_packed hd hp, DateTime.of?, dif_pos hv]

end ParkingStation.Bcd
