import Mathlib.Tactic.Lemma
import ParkingStation.Framing.Rescan

/-! A receiver is given a stream in pieces, and takes the items that a plain reading of the whole stream finds. -/

namespace ParkingStation.Framing

variable {S F : Type} {scanner : Scanner S F}

structure Lawful (scanner : Scanner S F) : Prop where
  idle : ∀ {state}, scanner.idle state = true → state = scanner.start
  decided : ∀ {state b next signal}, scanner.step state b = (next, signal) → signal ≠ .more → next = scanner.start

inductive Candidate (scanner : Scanner S F) : S → Bytes → Prop
  | start : Candidate scanner scanner.start []
  | more {state next : S} {seen : Bytes} {b : UInt8} (h : Candidate scanner state seen)
      (hs : scanner.step state b = (next, .more)) (hi : scanner.idle next = false) : Candidate scanner next (b :: seen)

lemma Candidate.attempt {state : S} {seen : Bytes} (h : Candidate scanner state seen) (bs : Bytes) :
    attempt scanner scanner.start (seen.reverse ++ bs) = attempt scanner state bs := by
  induction h generalizing bs with
  | start => rfl
  | @more state next seen b h hs hi ih =>
    have hb : Framing.attempt scanner state (b :: bs) = Framing.attempt scanner next bs := by
      simp [Framing.attempt, hs, hi]
    rw [List.reverse_cons, List.append_assoc, List.singleton_append, ih, hb]

lemma attempt_decided {state next : S} {b : UInt8} {signal : Signal F} (hs : scanner.step state b = (next, signal))
    (hm : signal ≠ .more) (bs : Bytes) : attempt scanner state (b :: bs) = some (signal, bs) := by
  rw [attempt, hs]
  cases signal <;> first | rfl | exact absurd rfl hm

lemma attempt_append {state : S} {bs rest : Bytes} {signal : Signal F} (more : Bytes)
    (h : attempt scanner state bs = some (signal, rest)) :
    attempt scanner state (bs ++ more) = some (signal, rest ++ more) := by
  fun_induction attempt scanner state bs with
  | case1 => cases h
  | case2 state b bs next hs hi =>
    cases h
    simp [attempt, hs, hi]
  | case3 state b bs next hs hi ih => simpa [attempt, hs, hi] using ih h
  | case4 state b bs next signal hm hs =>
    cases h
    exact attempt_decided hs hm _

def Signal.item? : Signal F → Option (Item F)
  | .more | .lost => none
  | .frame f => some (.frame f)
  | .ack => some .ack
  | .nak => some .nak
  | .corrupt fault => some (.corrupt fault)

def Signal.rejects : Signal F → Bool
  | .lost | .corrupt _ => true
  | _ => false

lemma rescan_unfinished {bs : Bytes} (h : attempt scanner scanner.start bs = none) :
    rescan scanner bs = ([], bs) := by
  rw [rescan]
  split <;> simp_all

lemma rescan_decided {bs rest : Bytes} {signal : Signal F}
    (h : attempt scanner scanner.start bs = some (signal, rest)) :
    rescan scanner bs =
      (signal.item?.toList ++ (rescan scanner (if signal.rejects then bs.tail else rest)).1,
        (rescan scanner (if signal.rejects then bs.tail else rest)).2) := by
  rw [rescan]
  split <;> rename_i ha <;> rw [h] at ha <;> cases ha <;> rfl

lemma rescan_append (bs more : Bytes) :
    rescan scanner (bs ++ more) =
      ((rescan scanner bs).1 ++ (rescan scanner ((rescan scanner bs).2 ++ more)).1,
        (rescan scanner ((rescan scanner bs).2 ++ more)).2) := by
  induction hn : bs.length using Nat.strongRecOn generalizing bs with
  | ind n ih =>
    cases h : attempt scanner scanner.start bs with
    | none => simp [rescan_unfinished h]
    | some decided =>
      obtain ⟨signal, rest⟩ := decided
      have hl := length_attempt_lt h
      have ht : (bs ++ more).tail = bs.tail ++ more := by
        cases bs with
        | nil => cases hl
        | cons b bs => rfl
      rw [rescan_decided (attempt_append more h), rescan_decided h, ht, ← apply_ite (· ++ more)]
      rw [ih _ ?_ _ rfl, List.append_assoc]
      split
      · rw [List.length_tail]
        omega
      · omega

namespace Receiver

structure Settled (scanner : Scanner S F) (r : Receiver S) : Prop where
  ahead : r.ahead = []
  candidate : Candidate scanner r.scan r.seen

lemma settled_fresh (scanner : Scanner S F) : (fresh scanner).Settled scanner := ⟨rfl, .start⟩

lemma Settled.rescan {r : Receiver S} (h : r.Settled scanner) : rescan scanner r.buffer = ([], r.buffer) := by
  apply rescan_unfinished
  rw [buffer, h.candidate.attempt, h.ahead]
  rfl

lemma Settled.idle {r : Receiver S} (h : r.Settled scanner) (hb : r.buffer = []) : r.scan = scanner.start := by
  have hs : r.seen = [] := by simp_all [buffer]
  have hc := h.candidate
  rw [hs] at hc
  generalize r.scan = scan at hc
  cases hc
  rfl

lemma candidate_scanFrom (hl : Lawful scanner) (state : S) (seen bs : Bytes) (h : Candidate scanner state seen) :
    Candidate scanner (scanFrom scanner state seen bs).2.scan (scanFrom scanner state seen bs).2.seen := by
  fun_induction scanFrom scanner state seen bs with
  | case1 => exact h
  | case2 state seen b bs next hs hi ih => exact ih (hl.idle hi ▸ .start)
  | case3 state seen b bs next hs hi ih => exact ih (.more h hs (by simpa using hi))
  | case4 state seen b bs next hs ih => exact ih .start
  | case5 => exact .start
  | case6 state seen b bs next frame hs => exact hl.decided hs (by simp) ▸ .start
  | case7 state seen b bs next hs => exact hl.decided hs (by simp) ▸ .start
  | case8 state seen b bs next hs => exact hl.decided hs (by simp) ▸ .start

lemma rescan_scanFrom (hl : Lawful scanner) (state : S) (seen bs : Bytes) (h : Candidate scanner state seen) :
    rescan scanner (seen.reverse ++ bs) =
      ((scanFrom scanner state seen bs).1.toList ++ (rescan scanner (scanFrom scanner state seen bs).2.buffer).1,
        (rescan scanner (scanFrom scanner state seen bs).2.buffer).2) := by
  have decided {state : S} {seen bs : Bytes} {b : UInt8} {next : S} {signal : Signal F}
      (h : Candidate scanner state seen) (hs : scanner.step state b = (next, signal)) (hm : signal ≠ .more) :
      attempt scanner scanner.start (seen.reverse ++ b :: bs) = some (signal, bs) :=
    (h.attempt _).trans (attempt_decided hs hm bs)
  fun_induction scanFrom scanner state seen bs with
  | case1 => rfl
  | case2 state seen b bs next hs hi ih =>
    have ha : attempt scanner scanner.start (seen.reverse ++ b :: bs) = some (.more, bs) := by
      rw [h.attempt]
      simp [attempt, hs, hi]
    rw [rescan_decided ha]
    simpa [Signal.item?, Signal.rejects, Prod.ext_iff] using ih (hl.idle hi ▸ .start)
  | case3 state seen b bs next hs hi ih => simpa using ih (.more h hs (by simpa using hi))
  | case4 state seen b bs next hs ih =>
    rw [rescan_decided (decided h hs (by simp))]
    simpa [Signal.item?, Signal.rejects, Prod.ext_iff] using ih .start
  | case5 state seen b bs next fault hs =>
    rw [rescan_decided (decided h hs (by simp))]
    simp [Signal.item?, Signal.rejects, skip, buffer]
  | case6 state seen b bs next frame hs =>
    rw [rescan_decided (decided h hs (by simp))]
    simp [Signal.item?, Signal.rejects, buffer]
  | case7 state seen b bs next hs =>
    rw [rescan_decided (decided h hs (by simp))]
    simp [Signal.item?, Signal.rejects, buffer]
  | case8 state seen b bs next hs =>
    rw [rescan_decided (decided h hs (by simp))]
    simp [Signal.item?, Signal.rejects, buffer]

lemma ahead_scanFrom (scanner : Scanner S F) (state : S) (seen bs : Bytes)
    (h : (scanFrom scanner state seen bs).1 = none) :
    (scanFrom scanner state seen bs).2.ahead = [] := by
  fun_induction scanFrom scanner state seen bs with
  | case1 => rfl
  | case2 _ _ _ _ _ _ _ ih | case3 _ _ _ _ _ _ _ ih => exact ih h
  | case4 _ _ _ _ _ _ ih => exact ih h
  | case5 | case6 | case7 | case8 => cases h

theorem readAll_spec (hl : Lawful scanner) (r : Receiver S) (h : Candidate scanner r.scan r.seen) :
    (r.readAll scanner).2.Settled scanner ∧
      rescan scanner r.buffer = ((r.readAll scanner).1, (r.readAll scanner).2.buffer) := by
  fun_induction readAll scanner r with
  | case1 r next hr =>
    have hs : (scanFrom scanner r.scan r.seen r.ahead) = (none, next) := hr
    have hc := candidate_scanFrom hl r.scan r.seen r.ahead h
    have ha := ahead_scanFrom scanner r.scan r.seen r.ahead
    have hk := rescan_scanFrom hl r.scan r.seen r.ahead h
    rw [hs] at hc ha hk
    have hn : next.Settled scanner := ⟨ha rfl, hc⟩
    exact ⟨hn, by rw [buffer, hk, hn.rescan]; rfl⟩
  | case2 r item next hr items last hm ih =>
    have hs : (scanFrom scanner r.scan r.seen r.ahead) = (some item, next) := hr
    have hc := candidate_scanFrom hl r.scan r.seen r.ahead h
    have hk := rescan_scanFrom hl r.scan r.seen r.ahead h
    rw [hs] at hc hk
    obtain ⟨hn, hi⟩ := ih hc
    rw [hm] at hn hi
    exact ⟨hn, by rw [buffer, hk, hi]; rfl⟩

lemma scanFrom_unfinished {state : S} (seen : Bytes) {bs : Bytes} (h : attempt scanner state bs = none) :
    scanFrom scanner state seen bs = (none, ⟨(scanner.trace state bs).2, bs.reverse ++ seen, []⟩) := by
  induction bs generalizing state seen with
  | nil => simp [scanFrom, Scanner.trace]
  | cons b bs ih =>
    rcases hs : scanner.step state b with ⟨next, signal⟩
    by_cases hm : signal = .more
    · subst hm
      rw [attempt, hs] at h
      cases hi : scanner.idle next with
      | true => simp [hi] at h
      | false =>
        simp only [hi, Bool.false_eq_true, if_false] at h
        rw [scanFrom, hs]
        simp only [hi, Bool.false_eq_true, if_false, ih _ h, Scanner.trace, hs, List.reverse_cons, List.append_assoc,
          List.singleton_append]
    · rw [attempt_decided hs hm] at h
      cases h

lemma readAll_of_none {r next : Receiver S} (h : r.read scanner = (none, next)) : r.readAll scanner = ([], next) := by
  rw [readAll]
  split <;> simp_all

lemma readAll_of_some {r next last : Receiver S} {item : Item F} {items : List (Item F)}
    (h : r.read scanner = (some item, next)) (hn : next.readAll scanner = (items, last)) :
    r.readAll scanner = (item :: items, last) := by
  rw [readAll]
  split <;> simp_all

def readPieces (scanner : Scanner S F) (r : Receiver S) : List Bytes → List (Item F) × Receiver S
  | [] => ([], r)
  | piece :: pieces =>
    let (items, next) := (r.append piece).readAll scanner
    let (more, last) := next.readPieces scanner pieces
    (items ++ more, last)

theorem readPieces_spec (hl : Lawful scanner) (r : Receiver S) (h : r.Settled scanner) (pieces : List Bytes) :
    (r.readPieces scanner pieces).2.Settled scanner ∧
      rescan scanner (r.buffer ++ pieces.flatten) =
        ((r.readPieces scanner pieces).1, (r.readPieces scanner pieces).2.buffer) := by
  induction pieces generalizing r with
  | nil => exact ⟨h, by rw [List.flatten_nil, List.append_nil, h.rescan]; rfl⟩
  | cons piece pieces ih =>
    obtain ⟨hs, hp⟩ := readAll_spec hl (r.append piece) h.candidate
    obtain ⟨hk, hr⟩ := ih _ hs
    have hb : (r.append piece).buffer = r.buffer ++ piece := (List.append_assoc _ _ _).symm
    refine ⟨hk, ?_⟩
    rw [List.flatten_cons, ← List.append_assoc, rescan_append, ← hb, hp, hr]
    rfl

end Receiver

end ParkingStation.Framing
