import ParkingStation.Proofs.Calendar
import ParkingStation.Proofs.Packing
import ParkingStation.Proofs.PaymentReader.Atomicity

namespace ParkingStation

lemma Bytes.ofNat_toNat_of_length {bs : Bytes} {w : Nat} (h : bs.length = w) : ofNat w (toNat bs) = bs := by
  rw [← h, ofNat_toNat]

lemma Bytes.weight_eq (w : Nat) : weight w = 2 ^ (8 * w) := by
  induction w with
  | zero => rfl
  | succ w ih => rw [weight, ih, Nat.mul_succ, Nat.pow_add, Nat.mul_comm]

lemma Bytes.toNat_take_lt (bs : Bytes) (w : Nat) : toNat (bs.take w) < 2 ^ (8 * w) := by
  have hl : (bs.take w).length ≤ w := List.length_take_le w bs
  apply Nat.lt_of_lt_of_le (toNat_lt (bs.take w))
  rw [weight_eq]
  exact Nat.pow_le_pow_right (by omega) (by omega)

namespace PaymentReader.Record

variable {data : Bytes} {record : Record} {cardId : String}

def clock (n : UInt32) : DateTime := .afterMidnight epoch n.toNat

def seconds (data : Bytes) : UInt32 := UInt32.ofNat (Bytes.toNat ((data.drop 14).take 4))

structure Fits (record : Record) : Prop where
  amount : record.amount < 2 ^ 24
  balanceAfter : record.balanceAfter < 2 ^ 24
  type : record.type < 2 ^ 4
  counter : record.counter < 2 ^ 11

def ofData (cardId : String) (data : Bytes) : Record where
  cardId := cardId
  amount := Bytes.toNat ((data.drop 8).take 3)
  balanceAfter := Bytes.toNat ((data.drop 11).take 3)
  time := clock (seconds data)
  type := Bytes.toNat ((data.drop 18).take 2) / 4096
  autoLoad := Bytes.toNat ((data.drop 18).take 2) / 2048 % 2 = 1
  counter := Bytes.toNat ((data.drop 18).take 2) % 2048

lemma toNat_seconds (data : Bytes) : (seconds data).toNat = Bytes.toNat ((data.drop 14).take 4) := by
  rw [seconds, UInt32.toNat_ofNat', Nat.mod_eq_of_lt (Bytes.toNat_take_lt _ 4)]

lemma parse_eq (hl : length ≤ data.length) : parse data = (Bcd.unpack (data.take 8)).map (ofData · data) := by
  have ho (cardId : String) : ofData cardId data = { ofData cardId data with
      time := .afterMidnight epoch (Bytes.toNat ((data.drop 14).take 4)) } := by
    rw [ofData, clock, toNat_seconds]
  rw [parse, required_ok_iff.mpr hl, funext ho]
  cases Bcd.unpack (data.take 8) <;> rfl

lemma parse_ok_iff : parse data = .ok record ↔
    length ≤ data.length ∧ ∃ cardId, Bcd.unpack (data.take 8) = .ok cardId ∧ record = ofData cardId data := by
  constructor
  · intro h
    have hl := (parse_ok h).1
    rw [parse_eq hl] at h
    cases hc : Bcd.unpack (data.take 8) with
    | error e => simp [hc, Except.map] at h
    | ok cardId =>
      rw [hc] at h
      exact ⟨hl, cardId, rfl, (Except.ok.inj h).symm⟩
  · rintro ⟨hl, cardId, hc, rfl⟩
    rw [parse_eq hl, hc]
    rfl

lemma flags_ofData (cardId : String) (data : Bytes) :
    (ofData cardId data).flags = Bytes.toNat ((data.drop 18).take 2) := by
  simp only [flags, ofData, decide_eq_true_eq]
  split <;> omega

lemma take_length (data : Bytes) : data.take length =
    data.take 8 ++ (data.drop 8).take 3 ++ (data.drop 11).take 3 ++ (data.drop 14).take 4 ++ (data.drop 18).take 2 := by
  rw [← List.take_add, ← List.take_add, ← List.take_add, ← List.take_add]
  rfl

lemma encode_ofData (hl : length ≤ data.length) (hc : Bcd.pack cardId = .ok (data.take 8)) :
    encode (ofData cardId data) = .ok (data.take length) := by
  rw [length] at hl
  have ht : ((ofData cardId data).time.secondsSince epoch).toNat = Bytes.toNat ((data.drop 14).take 4) := by
    rw [← toNat_seconds, ofData, clock, DateTime.secondsSince_afterMidnight, Int.toNat_natCast]
  have hf (i w : Nat) (h : i + w ≤ 20) : Bytes.ofNat w (Bytes.toNat ((data.drop i).take w)) = (data.drop i).take w := by
    apply Bytes.ofNat_toNat_of_length
    rw [List.length_take, List.length_drop]
    omega
  rw [encode, flags_ofData, ht, take_length]
  simp only [ofData, hc, hf 8 3 (by omega), hf 11 3 (by omega), hf 14 4 (by omega), hf 18 2 (by omega)]
  rfl

lemma encode_of_parse (h : parse data = .ok record) : encode record = .ok (data.take length) := by
  obtain ⟨hl, cardId, hc, rfl⟩ := parse_ok_iff.mp h
  exact encode_ofData hl (Bcd.unpack_iff_pack.mp hc)

lemma fits_ofData (cardId : String) (data : Bytes) : (ofData cardId data).Fits where
  amount := Bytes.toNat_take_lt _ 3
  balanceAfter := Bytes.toNat_take_lt _ 3
  type := by
    have h : Bytes.toNat ((data.drop 18).take 2) < 2 ^ 16 := Bytes.toNat_take_lt _ 2
    simp only [ofData]
    omega
  counter := Nat.mod_lt _ (by decide)

lemma parse_take (data : Bytes) : parse (data.take length) = parse data := by
  by_cases hl : length ≤ data.length
  · have ht : length ≤ (data.take length).length := by
      rw [List.length_take]
      omega
    have hs (i w : Nat) (h : i + w ≤ 20) : ((data.take length).drop i).take w = (data.drop i).take w := by
      rw [List.drop_take, List.take_take, Nat.min_eq_left]
      simp only [length]
      omega
    have ho (cardId : String) : ofData cardId (data.take length) = ofData cardId data := by
      simp only [ofData, seconds, hs 8 3 (by omega), hs 11 3 (by omega), hs 14 4 (by omega), hs 18 2 (by omega)]
    rw [parse_eq ht, parse_eq hl, List.take_take, funext ho]
    rfl
  · rw [List.take_of_length_le (by omega)]

lemma clock_year (n : UInt32) : 1995 ≤ (clock n).date.year ∧ (clock n).date.year ≤ 2131 := by
  have hn := n.toNat_lt
  constructor
  · exact Date.year_le_after epoch _
  · apply Int.lt_add_one_iff.mp
    apply Date.year_lt_of_dayNumber
    have he : epoch.dayNumber = 728294 := by decide
    have hb : Date.daysBeforeYear (2131 + 1) = 778331 := by decide
    have hd : (clock n).date.dayNumber = epoch.dayNumber + (n.toNat / 86400 : Nat) := Date.dayNumber_after epoch _
    rw [hd, he, hb]
    omega

/-- A record is read exactly if there are twenty bytes and the first eight are packed digits. Written again it gives
these twenty bytes, so that no two records read alike, and what follows them does not matter. Every count of seconds is
a moment of the calendar, and a higher count a later one. -/
theorem twenty_bytes_kept :
    (∀ data, (∃ record, parse data = .ok record) ↔ length ≤ data.length ∧ Bcd.Packed (data.take 8)) ∧
    (∀ data, parse (data.take length) = parse data) ∧
    (∀ data record, parse data = .ok record →
      encode record = .ok (data.take length) ∧ record.Fits ∧ record.time = clock (seconds data)) ∧
    (∀ data other record, data.length = length → other.length = length → parse data = .ok record →
      parse other = .ok record → data = other) ∧
    (∀ n, (clock n).secondsSince epoch = n.toNat ∧
      (1 ≤ (clock n).date.month ∧ (clock n).date.month ≤ 12 ∧ 1 ≤ (clock n).date.day ∧
        (clock n).date.day ≤ monthLength (clock n).date.year (clock n).date.month) ∧
      ((clock n).hour < 24 ∧ (clock n).minute < 60 ∧ (clock n).second < 60) ∧
      1995 ≤ (clock n).date.year ∧ (clock n).date.year ≤ 2131) ∧
    ∀ m n, m < n → (clock m).Before (clock n) := by
  refine ⟨fun data => ?_, parse_take, fun data record h => ?_, fun data other record hd ho h k => ?_, fun n => ?_,
    fun m n h => ?_⟩
  · simp only [parse_ok_iff, ← Bcd.unpacks_iff]
    constructor
    · rintro ⟨record, hl, cardId, hc, rfl⟩
      exact ⟨hl, cardId, hc⟩
    · rintro ⟨hl, cardId, hc⟩
      exact ⟨_, hl, cardId, hc, rfl⟩
  · refine ⟨encode_of_parse h, ?_⟩
    obtain ⟨-, cardId, -, rfl⟩ := parse_ok_iff.mp h
    exact ⟨fits_ofData cardId data, rfl⟩
  · have he := (encode_of_parse h).symm.trans (encode_of_parse k)
    rw [List.take_of_length_le (Nat.le_of_eq hd), List.take_of_length_le (Nat.le_of_eq ho)] at he
    exact Except.ok.inj he
  · exact ⟨DateTime.secondsSince_afterMidnight epoch _, (clock n).date.valid, (clock n).valid, clock_year n⟩
  · exact DateTime.afterMidnight_before epoch (UInt32.lt_iff_toNat_lt.mp h)

end PaymentReader.Record

end ParkingStation
