import ParkingStation.Proofs.Dates

namespace ParkingStation.Bcd

variable {bs cs : Bytes} {b c : UInt8} {time : DateTime}

lemma toNat_high (b : UInt8) : (b >>> 4).toNat = b.toNat / 16 := by
  have hs : (4 : UInt8).toNat % 8 = 4 := rfl
  rw [UInt8.toNat_shiftRight, hs, Nat.shiftRight_eq_div_pow]

lemma toNat_low (b : UInt8) : (b &&& 15).toNat = b.toNat % 16 := by
  rw [UInt8.toNat_and]
  exact Nat.and_two_pow_sub_one_eq_mod b.toNat 4

lemma packed_cons : Packed (b :: bs) ↔ Packed [b] ∧ Packed bs := by
  rw [← packed_append, List.singleton_append]

lemma Packed.single (h : Packed bs) (hb : b ∈ bs) : Packed [b] :=
  fun x hx => h x (List.mem_singleton.mp hx ▸ hb)

lemma packed_iff : Packed [b] ↔ b.toNat / 16 ≤ 9 ∧ b.toNat % 16 ≤ 9 := by
  rw [← toNat_high, ← toNat_low]
  simp [Packed, UInt8.le_iff_toNat_le]

lemma number_eq (b : UInt8) : number b = b.toNat / 16 * 10 + b.toNat % 16 := by
  rw [number, toNat_high, toNat_low]

lemma number_injective (hb : Packed [b]) (hc : Packed [c]) (h : number b = number c) : b = c := by
  rw [packed_iff] at hb hc
  rw [number_eq, number_eq] at h
  apply UInt8.toNat_inj.mp
  omega

lemma numbers_injective (hb : Packed bs) (hc : Packed cs) (h : bs.map number = cs.map number) : bs = cs := by
  induction bs generalizing cs with
  | nil => exact (List.map_eq_nil_iff.mp h.symm).symm
  | cons b bs ih =>
    obtain ⟨c, cs, rfl, hn, ht⟩ := List.map_eq_cons_iff.mp h.symm
    obtain ⟨hb, hbs⟩ := packed_cons.mp hb
    obtain ⟨hc, hcs⟩ := packed_cons.mp hc
    rw [number_injective hb hc hn.symm, ih hbs hcs ht.symm]

lemma number_lt (hb : Packed [b]) : number b < 100 := by
  rw [packed_iff] at hb
  rw [number_eq]
  omega

section Digits

variable {high low : Char} {digits : List Char}

lemma isDigit_iff : isDigit high = true ↔ 48 ≤ high.toNat ∧ high.toNat ≤ 57 := by
  simp only [isDigit, Bool.and_eq_true, decide_eq_true_eq, Char.le_def, UInt32.le_iff_toNat_le]
  rfl

lemma digitChar_digitValue (h : isDigit high = true) : digitChar (UInt8.ofNat (digitValue high)) = high := by
  rw [isDigit_iff] at h
  have hv : 48 + (UInt8.ofNat (digitValue high)).toNat = high.toNat := by
    rw [UInt8.toNat_ofNat', digitValue]
    omega
  rw [digitChar, hv, Char.ofNat_toNat]

lemma byte_parts (hh : isDigit high = true) (hl : isDigit low = true) :
    UInt8.ofNat (digitValue high * 16 + digitValue low) >>> 4 = UInt8.ofNat (digitValue high) ∧
      UInt8.ofNat (digitValue high * 16 + digitValue low) &&& 15 = UInt8.ofNat (digitValue low) := by
  rw [isDigit_iff] at hh hl
  simp only [← UInt8.toNat_inj, toNat_high, toNat_low, UInt8.toNat_ofNat', digitValue]
  omega

lemma packed_byte (hh : isDigit high = true) (hl : isDigit low = true) :
    Packed [UInt8.ofNat (digitValue high * 16 + digitValue low)] ∧
      pairOf (UInt8.ofNat (digitValue high * 16 + digitValue low)) = [high, low] := by
  constructor
  · rw [isDigit_iff] at hh hl
    simp only [packed_iff, UInt8.toNat_ofNat', digitValue]
    omega
  · rw [pairOf, (byte_parts hh hl).1, (byte_parts hh hl).2, digitChar_digitValue hh, digitChar_digitValue hl]

lemma byte_of_pair (h : Packed [b]) :
    UInt8.ofNat (digitValue (digitChar (b >>> 4)) * 16 + digitValue (digitChar (b &&& 15))) = b := by
  obtain ⟨hh, hl⟩ := h b List.mem_cons_self
  rw [digitValue_digitChar hh, digitValue_digitChar hl, toNat_high, toNat_low]
  apply UInt8.toNat_inj.mp
  rw [UInt8.toNat_ofNat']
  have := b.toNat_lt
  omega

lemma packChars?_iff : packChars? digits = some bs ↔ Packed bs ∧ digits = bs.flatMap pairOf := by
  constructor
  · intro h
    fun_induction packChars? digits generalizing bs with
    | case1 =>
      cases h
      exact ⟨by simp [Packed], rfl⟩
    | case2 => cases h
    | case3 high low digits hd ih =>
      rw [Bool.and_eq_true] at hd
      obtain ⟨rest, hr, rfl⟩ := Option.map_eq_some_iff.mp h
      obtain ⟨hp, rfl⟩ := ih hr
      obtain ⟨hb, ht⟩ := packed_byte hd.1 hd.2
      refine ⟨packed_cons.mpr ⟨hb, hp⟩, ?_⟩
      rw [List.flatMap_cons, ht, List.cons_append, List.cons_append, List.nil_append]
    | case4 => cases h
  · rintro ⟨hp, rfl⟩
    induction bs with
    | nil => rfl
    | cons b bs ih =>
      obtain ⟨hb, hp⟩ := packed_cons.mp hp
      obtain ⟨hh, hl⟩ := hb b List.mem_cons_self
      have hd : (isDigit (digitChar (b >>> 4)) && isDigit (digitChar (b &&& 15))) = true := by
        rw [isDigit_digitChar hh, isDigit_digitChar hl]
        rfl
      rw [List.flatMap_cons, pairOf, List.cons_append, List.cons_append, List.nil_append, packChars?, if_pos hd, ih hp,
        Option.map_some, byte_of_pair hb]

lemma pack_ok_iff {text : String} : pack text = .ok bs ↔ Packed bs ∧ text.toList = bs.flatMap pairOf := by
  rw [← packChars?_iff, pack]
  cases packChars? text.toList <;> simp

lemma unpack_iff_pack {text : String} : unpack bs = .ok text ↔ pack text = .ok bs := by
  rw [unpack_ok_iff, pack_ok_iff]
  constructor
  · rintro ⟨hp, rfl⟩
    exact ⟨hp, String.toList_ofList⟩
  · rintro ⟨hp, ht⟩
    exact ⟨hp, by rw [← ht, String.ofList_toList]⟩

lemma unpacks_iff : (∃ text, unpack bs = .ok text) ↔ Packed bs := by
  simp only [unpack_ok_iff, exists_and_left, exists_eq, and_true]

lemma packs_iff {text : String} :
    (∃ bs, pack text = .ok bs) ↔ text.toList.length % 2 = 0 ∧ ∀ c ∈ text.toList, isDigit c = true := by
  constructor
  · rintro ⟨bs, h⟩
    obtain ⟨hp, ht⟩ := pack_ok_iff.mp h
    rw [ht, length_pairs]
    exact ⟨by omega, List.all_eq_true.mp (isDigit_pairs hp)⟩
  · rintro ⟨hl, hd⟩
    obtain ⟨bs, hb, -⟩ := pack_ok (List.all_eq_true.mpr hd) (n := text.toList.length / 2) (by omega)
    exact ⟨bs, hb⟩

end Digits

section Numbers

variable {width n : Nat}

lemma valueOf_eq (cs : List Char) : valueOf cs = Nat.ofDigitChars 10 cs 0 := by
  simp only [Nat.ofDigitChars_eq_foldl, Nat.mul_comm 10]
  rfl

lemma valueOf_padded (width n : Nat) : valueOf (padded width n).toList = n := by
  have hz (k : Nat) : valueOf (List.replicate k '0') = 0 := by
    induction k with
    | zero => rfl
    | succ k ih => exact ih
  rw [toList_padded, valueOf_append, hz]
  exact (valueOf_eq _).trans Nat.ofDigitChars_ten_toDigits

end Numbers

section Moments

/-- Seven packed bytes that name a day of the calendar and a second of that day. -/
def NamesMoment (bs : Bytes) : Prop :=
  ∃ century year month day hour minute second,
    bs = [century, year, month, day, hour, minute, second] ∧ Packed bs ∧
    (1 ≤ number month ∧ number month ≤ 12 ∧ 1 ≤ number day ∧
      number day ≤ monthLength (100 * number century + number year : Nat) (number month)) ∧
    number hour < 24 ∧ number minute < 60 ∧ number second < 60

lemma spellsTime_iff : SpellsTime bs time ↔
    ∃ century year month day hour minute second, bs = [century, year, month, day, hour, minute, second] ∧ Packed bs ∧
      time.date.year = (100 * number century + number year : Nat) ∧ time.date.month = number month ∧
      time.date.day = number day ∧ time.hour = number hour ∧ time.minute = number minute ∧
      time.second = number second := by
  constructor
  · rintro ⟨_, hour, minute, second, rfl, ⟨century, year, month, day, rfl, hd, hy, hm, hn⟩, ht, hh, hi, hs⟩
    exact ⟨century, year, month, day, hour, minute, second, rfl, packed_append.mpr ⟨hd, ht⟩, hy, hm, hn, hh, hi, hs⟩
  · rintro ⟨century, year, month, day, hour, minute, second, rfl, hp, hy, hm, hn, hh, hi, he⟩
    have hs : Packed ([century, year, month, day] ++ [hour, minute, second]) := hp
    obtain ⟨hd, ht⟩ := packed_append.mp hs
    exact ⟨_, hour, minute, second, rfl, ⟨century, year, month, day, rfl, hd, hy, hm, hn⟩, ht, hh, hi, he⟩

lemma namesMoment_iff : NamesMoment bs ↔ ∃ time, SpellsTime bs time := by
  simp only [spellsTime_iff]
  constructor
  · rintro ⟨century, year, month, day, hour, minute, second, rfl, hp, hd, ht⟩
    exact ⟨⟨⟨_, _, _, hd⟩, _, _, _, ht⟩, century, year, month, day, hour, minute, second, rfl, hp, rfl, rfl, rfl,
      rfl, rfl, rfl⟩
  · rintro ⟨⟨⟨y, m, d, hd⟩, h, i, s, ht⟩, century, year, month, day, hour, minute, second, rfl, hp, rfl, rfl, rfl,
      rfl, rfl, rfl⟩
    exact ⟨century, year, month, day, hour, minute, second, rfl, hp, hd, ht⟩

lemma SpellsTime.unique (hb : SpellsTime bs time) (hc : SpellsTime cs time) : bs = cs := by
  obtain ⟨c, y, m, d, h, i, s, rfl, hp, hy, hm, hd, hh, hi, hs⟩ := spellsTime_iff.mp hb
  obtain ⟨c', y', m', d', h', i', s', rfl, hq, hy', hm', hd', hh', hi', hs'⟩ := spellsTime_iff.mp hc
  have ht : 100 * number c + number y = 100 * number c' + number y' := Int.ofNat_inj.mp (hy.symm.trans hy')
  have hl : number y < 100 := number_lt (hp.single (by simp))
  have hl' : number y' < 100 := number_lt (hq.single (by simp))
  apply numbers_injective hp hq
  simp only [List.map_cons, List.map_nil, List.cons.injEq, and_true]
  exact ⟨by omega, by omega, hm.symm.trans hm', hd.symm.trans hd', hh.symm.trans hh', hi.symm.trans hi',
    hs.symm.trans hs'⟩

lemma numbers_of_pairs {ns : List Nat} (hn : ∀ n ∈ ns, n < 100) (hp : Packed bs)
    (h : ns.flatMap (fun n => (padded 2 n).toList) = bs.flatMap pairOf) : ns = bs.map number := by
  induction ns generalizing bs with
  | nil =>
    cases bs with
    | nil => rfl
    | cons b bs => cases h
  | cons n ns ih =>
    have hl : (padded 2 n).toList.length = 2 := length_padded (by omega) (hn n List.mem_cons_self)
    cases bs with
    | nil =>
      have he := congrArg List.length h
      simp [hl] at he
    | cons b bs =>
      obtain ⟨hb, hp⟩ := packed_cons.mp hp
      obtain ⟨hf, ht⟩ := List.append_inj h hl
      rw [ih (fun m hm => hn m (List.mem_cons_of_mem n hm)) hp ht, List.map_cons, ← valueOf_pairOf hb, ← hf,
        valueOf_padded]

lemma packsTime_iff : (∃ bs, packDateTime time = .ok bs) ↔ FourDigits time.date.year := by
  constructor
  · rintro ⟨bs, h⟩
    by_contra hn
    rw [packDateTime_error hn] at h
    cases h
  · intro hy
    obtain ⟨bs, hb, -⟩ := packDateTime_ok hy
    exact ⟨bs, hb⟩

lemma spellsTime_of_pack (h : packDateTime time = .ok bs) : SpellsTime bs time := by
  obtain ⟨hp, ht⟩ := pack_ok_iff.mp h
  have hy : FourDigits time.date.year := packsTime_iff.mp ⟨bs, h⟩
  have hl : bs.length = 7 := by
    obtain ⟨bs', hb, hl⟩ := packDateTime_ok hy
    rwa [Except.ok.inj (h.symm.trans hb)]
  obtain ⟨c, y, rest, rfl⟩ : ∃ c y rest, bs = c :: y :: rest := by
    match bs, hl with
    | c :: y :: rest, _ => exact ⟨c, y, rest, rfl⟩
  have hs : Packed ([c, y] ++ rest) := hp
  obtain ⟨hcy, hr⟩ := packed_append.mp hs
  have hc : (c :: y :: rest).flatMap pairOf = pairOf c ++ pairOf y ++ rest.flatMap pairOf := by simp
  have hw : (padded 4 time.date.year.natAbs).toList.length = 4 := by
    apply length_padded (by omega)
    have := hy.1
    have := hy.2
    omega
  rw [time.toList_digits, yearText_fourDigits hy, hc] at ht
  obtain ⟨hf, ht⟩ := List.append_inj ht hw
  have hd := time.date.valid
  have hm := monthLength_le time.date.year time.date.month
  have hs := time.valid
  have hn := numbers_of_pairs (by simp; omega) hr ht
  match rest, hl with
  | [m, d, h, i, s], _ =>
    have hv : time.date.year.natAbs = 100 * number c + number y := by
      rw [← valueOf_pairOf_append hcy, ← hf, valueOf_padded]
    simp only [List.map_cons, List.map_nil, List.cons.injEq, and_true] at hn
    refine spellsTime_iff.mpr ⟨c, y, m, d, h, i, s, rfl, hp, ?_, hn⟩
    have := hy.1
    omega

lemma unpackDateTime_iff_pack : unpackDateTime bs = .ok time ↔ packDateTime time = .ok bs := by
  rw [unpackDateTime_ok_iff]
  constructor
  · intro h
    have hy : FourDigits time.date.year := by
      obtain ⟨c, y, m, d, h, i, s, rfl, hp, hy, -⟩ := spellsTime_iff.mp h
      have hc : number c < 100 := number_lt (hp.single (by simp))
      have hy : number y < 100 := number_lt (hp.single (by simp))
      rw [FourDigits]
      omega
    obtain ⟨bs', hb⟩ := packsTime_iff.mpr hy
    rw [h.unique (spellsTime_of_pack hb), hb]
  · exact spellsTime_of_pack

end Moments

/-- Reading packed digits undoes writing them, and the other way round. Bytes are read if no half of them is above nine,
and a text is written if it is digits in pairs; a moment is read if there is such a day and second, and written if
its year has four digits. -/
theorem packing_exact :
    (∀ bs text, unpack bs = .ok text ↔ pack text = .ok bs) ∧
    (∀ bs, (∃ text, unpack bs = .ok text) ↔ ∀ b ∈ bs, b >>> 4 ≤ 9 ∧ b &&& 15 ≤ 9) ∧
    (∀ text, (∃ bs, pack text = .ok bs) ↔ text.toList.length % 2 = 0 ∧ ∀ c ∈ text.toList, '0' ≤ c ∧ c ≤ '9') ∧
    (∀ bs time, unpackDateTime bs = .ok time ↔ packDateTime time = .ok bs) ∧
    (∀ time, (∃ bs, packDateTime time = .ok bs) ↔ 0 ≤ time.date.year ∧ time.date.year ≤ 9999) ∧
    ∀ bs, (∃ time, unpackDateTime bs = .ok time) ↔ NamesMoment bs := by
  refine ⟨fun bs text => unpack_iff_pack, fun bs => unpacks_iff, fun text => ?_, fun bs time => unpackDateTime_iff_pack,
    fun time => packsTime_iff, fun bs => ?_⟩
  · have h : (∃ bs, pack text = .ok bs) ↔ _ := packs_iff
    simpa [isDigit] using h
  · simp only [namesMoment_iff, unpackDateTime_ok_iff]

end ParkingStation.Bcd
