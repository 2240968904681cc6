import ParkingStation.Proofs.Framing.Delivery

/-! What a receiver drained to the end drops holds the frames that it delivers, and what it keeps is one
candidate that may still become a frame. -/

namespace ParkingStation.Framing

variable {S F : Type} {scanner : Scanner S F}

lemma Candidate.trace {state : S} {seen : Bytes} (h : Candidate scanner state seen) :
    scanner.trace scanner.start seen.reverse = (List.replicate seen.length .more, state) := by
  induction h with
  | start => rfl
  | more h hs hi ih =>
    rw [List.reverse_cons, Scanner.trace_append, ih]
    simp only [Scanner.trace, hs, List.length_cons, List.replicate_succ']

lemma trace_of_attempt (hl : Lawful scanner) {state : S} {bs : Bytes} {signal : Signal F}
    (h : attempt scanner state bs = some (signal, [])) (hm : signal ≠ .more) :
    scanner.trace state bs = (List.replicate (bs.length - 1) .more ++ [signal], scanner.start) := by
  fun_induction attempt scanner state bs with
  | case1 => cases h
  | case2 =>
    cases h
    exact absurd rfl hm
  | case3 state b bs next hs hi ih =>
    obtain ⟨n, hn⟩ := Nat.exists_eq_add_of_lt (length_attempt_lt h)
    have ht := ih h
    simp only [hn, List.length_nil, Nat.zero_add, Nat.add_sub_cancel] at ht
    simp only [Scanner.trace, hs, ht, List.length_cons, hn, List.length_nil, Nat.zero_add, Nat.add_sub_cancel]
    rfl
  | case4 state b bs next signal' hn hs =>
    cases h
    rw [Scanner.trace, hs, hl.decided hs hm]
    rfl

lemma Spells.stands {encode : F → Except Error Bytes} {frames : List F} {bs : Bytes} {f : F}
    (h : Spells encode frames bs) (hf : f ∈ frames) : ∃ wire, encode f = .ok wire ∧ wire <:+: bs := by
  induction frames generalizing bs with
  | nil => cases hf
  | cons frame frames ih =>
    obtain ⟨gap, wire, rest, he, rfl, hr⟩ := h
    rcases List.mem_cons.mp hf with rfl | hf
    · exact ⟨wire, he, gap, rest, rfl⟩
    · obtain ⟨wire', he', hi⟩ := ih hr hf
      exact ⟨wire', he', hi.trans (List.suffix_append _ rest).isInfix⟩

namespace Receiver

lemma Settled.empty_iff (hi : scanner.idle scanner.start = true) {r : Receiver S} (h : r.Settled scanner) :
    r.buffer = [] ↔ scanner.idle r.scan = true := by
  refine ⟨fun hb => h.idle hb ▸ hi, fun hs => ?_⟩
  have hc := h.candidate
  rw [Receiver.buffer, h.ahead, List.append_nil, List.reverse_eq_nil_iff]
  generalize r.scan = scan, r.seen = seen at hc hs
  cases hc with
  | start => rfl
  | more _ _ hn => simp [hs] at hn

lemma Settled.eq_fresh {r : Receiver S} (h : r.Settled scanner) (hb : r.buffer = []) : r = .fresh scanner := by
  have hi := h.idle hb
  have ha := h.ahead
  obtain ⟨scan, seen, ahead⟩ := r
  simp_all [Receiver.buffer, Receiver.fresh]

lemma Settled.ext {r s : Receiver S} (h : r.Settled scanner) (k : s.Settled scanner) (hb : r.buffer = s.buffer) :
    r = s := by
  have hs : r.seen = s.seen := by simpa [buffer, h.ahead, k.ahead] using hb
  have ht : r.scan = s.scan := by
    have hr := h.candidate.trace
    rw [hs, k.candidate.trace] at hr
    exact (congrArg Prod.snd hr).symm
  have ha : r.ahead = s.ahead := h.ahead.trans k.ahead.symm
  cases r
  cases s
  simp_all

lemma readAll_append (hl : Lawful scanner) {r : Receiver S} (h : Candidate scanner r.scan r.seen) (bs : Bytes) :
    (r.append bs).readAll scanner =
      ((r.readAll scanner).1 ++ ((r.readAll scanner).2.append bs |>.readAll scanner).1,
        ((r.readAll scanner).2.append bs |>.readAll scanner).2) := by
  obtain ⟨hm, hr⟩ := readAll_spec hl r h
  obtain ⟨hw, hrw⟩ := readAll_spec hl (r.append bs) h
  obtain ⟨hn, hrn⟩ := readAll_spec hl ((r.readAll scanner).2.append bs) hm.candidate
  have buffer_append (r : Receiver S) : (r.append bs).buffer = r.buffer ++ bs := (List.append_assoc _ _ _).symm
  rw [buffer_append, rescan_append, hr, ← buffer_append, hrn] at hrw
  obtain ⟨hi, hb⟩ := Prod.mk.inj hrw
  exact Prod.ext hi.symm (hw.ext hn hb.symm)

lemma giveUp_cases (scanner : Scanner S F) (r : Receiver S) :
    scanner.stalled r.scan = none ∧ r.giveUp scanner = (none, r) ∨
      ∃ fault next, scanner.stalled r.scan = some fault ∧ r.giveUp scanner = (some (.corrupt fault), next) ∧
        Candidate scanner next.scan next.seen ∧ next.buffer = r.buffer.tail := by
  cases hg : scanner.stalled r.scan with
  | none => exact .inl ⟨rfl, by simp [giveUp, hg]⟩
  | some fault => exact .inr ⟨fault, .skip scanner r.seen r.ahead, rfl, by simp [giveUp, hg], .start, rfl⟩

lemma length_readAll_le (scanner : Scanner S F) (r : Receiver S) :
    (readAll scanner r).2.buffer.length ≤ r.buffer.length := by
  fun_induction readAll scanner r with
  | case1 r next h =>
    have hs := length_scanFrom_le scanner r.scan r.seen r.ahead
    rw [← length_buffer] at hs
    have hn : (scanFrom scanner r.scan r.seen r.ahead).2 = next := congrArg Prod.snd h
    rwa [hn] at hs
  | case2 r item next h items last hr ih =>
    rw [hr] at ih
    exact Nat.le_trans ih (Nat.le_of_lt (length_read_lt h))

lemma readAll_fresh (scanner : Scanner S F) : readAll scanner (.fresh scanner) = ([], .fresh scanner) :=
  readAll_of_none (by simp [read, fresh, scanFrom])

lemma drops_readAll (hl : Lawful scanner) (he : Exact scanner) (r : Receiver S) (h : Candidate scanner r.scan r.seen) :
    Drops scanner (r.readAll scanner).1 r.buffer (r.readAll scanner).2.buffer := by
  fun_induction readAll scanner r with
  | case1 r next hr =>
    have hd := (drops_act hl he r h .read).2
    simpa [act, hr, Act.bytes] using hd
  | case2 r item next hr items last hm ih =>
    obtain ⟨hc, hd⟩ := drops_act hl he r h .read
    simp only [act, hr, Act.bytes, List.append_nil] at hc hd
    have hk := ih hc
    rw [hm] at hk
    exact hd.trans hk

lemma drainFor_over {n : Nat} {r rest : Receiver S} {items : List (Item F)} (hr : r.readAll scanner = (items, rest))
    (hu : rest.giveUp scanner = (none, rest)) : r.drainFor scanner (n + 1) = (items, rest) := by
  simp only [drainFor, hr, hu]

lemma drainFor_goes_on {n : Nat} {r rest next : Receiver S} {items : List (Item F)} {item : Item F}
    (hr : r.readAll scanner = (items, rest)) (hu : rest.giveUp scanner = (some item, next)) :
    r.drainFor scanner (n + 1) =
      (items ++ item :: (next.drainFor scanner n).1, (next.drainFor scanner n).2) := by
  simp only [drainFor, hr, hu]

lemma drain_once {bs : Bytes} {last : Receiver S} {fault : Fault} (ha : attempt scanner scanner.start bs = none)
    (hs : scanner.stalled (scanner.trace scanner.start bs).2 = some fault) (hl : 2 ≤ bs.length)
    (hn : ((fresh scanner).append bs.tail).read scanner = (none, last)) (hk : scanner.stalled last.scan = none) :
    ((fresh scanner).append bs).drain scanner = ([.corrupt fault], last) := by
  have hr : ((fresh scanner).append bs).read scanner = (none, ⟨(scanner.trace scanner.start bs).2, bs.reverse, []⟩) :=
    (scanFrom_unfinished [] ha).trans (by rw [List.append_nil])
  obtain ⟨n, hlen⟩ : ∃ n, ((fresh scanner).append bs).buffer.length = n + 2 := ⟨bs.length - 2, by
    simp only [buffer, append, fresh, List.reverse_nil, List.nil_append]
    omega⟩
  have hu : giveUp scanner ⟨(scanner.trace scanner.start bs).2, bs.reverse, []⟩ =
      (some (.corrupt fault), (fresh scanner).append bs.tail) := by
    simp [giveUp, hs, skip, fresh, append]
  have hv : last.giveUp scanner = (none, last) := by simp [giveUp, hk]
  rw [drain, hlen, drainFor_goes_on (readAll_of_none hr) hu, drainFor_over (readAll_of_none hn) hv]
  rfl

theorem drainFor_spec (hl : Lawful scanner) (he : Exact scanner) (hs : scanner.stalled scanner.start = none) (n : Nat)
    (r : Receiver S) (h : Candidate scanner r.scan r.seen) (hn : r.buffer.length ≤ n) :
    let (items, last) := r.drainFor scanner n
    last.Settled scanner ∧ scanner.stalled last.scan = none ∧ Drops scanner items r.buffer last.buffer := by
  induction n generalizing r with
  | zero =>
    have hk := (readAll_spec hl r h).1
    have hb : (r.readAll scanner).2.buffer = [] := by
      have := length_readAll_le scanner r
      exact List.length_eq_zero_iff.mp (by omega)
    exact ⟨hk, by rw [hk.idle hb, hs], drops_readAll hl he r h⟩
  | succ n ih =>
    have hk := (readAll_spec hl r h).1
    have hd := drops_readAll hl he r h
    have hle := length_readAll_le scanner r
    rcases hr : r.readAll scanner with ⟨items, rest⟩
    rw [hr] at hk hd hle
    rcases giveUp_cases scanner rest with ⟨hg, hu⟩ | ⟨fault, next, hg, hu, hc, hb⟩
    · rw [drainFor_over hr hu]
      exact ⟨hk, hg, hd⟩
    · have hlen : next.buffer.length ≤ n := by
        rw [hb, List.length_tail]
        simp only at hle
        omega
      have ht : Drops scanner [.corrupt fault] rest.buffer next.buffer :=
        hb ▸ drops_tail scanner rest.buffer (some fault)
      obtain ⟨hlast, hstalled, hmore⟩ := ih next hc hlen
      rw [drainFor_goes_on hr hu]
      exact ⟨hlast, hstalled, hd.trans (ht.trans hmore)⟩

end Receiver

end ParkingStation.Framing
