import ParkingStation.Proofs.Framing.Draining
import ParkingStation.Proofs.Framing.Protocols

/-! A receiver that keeps its bytes in one buffer, with the number of those already scanned. Bytes are taken
from its front by checked operations, none of which is ever refused. -/

namespace ParkingStation.Framing

variable {S F : Type} {scanner : Scanner S F}

structure Cursor (S : Type) where
  scan : S
  position : Nat
  buffer : Bytes

namespace Cursor

def fresh (scanner : Scanner S F) : Cursor S := ⟨scanner.start, 0, []⟩

def append (c : Cursor S) (bs : Bytes) : Cursor S := { c with buffer := c.buffer ++ bs }

def advance? (c : Cursor S) (n : Nat) : Option (Cursor S) :=
  if n ≤ c.buffer.length then some { c with position := 0, buffer := c.buffer.drop n } else none

def rewind? (scanner : Scanner S F) (c : Cursor S) : Option (Cursor S) :=
  { c with scan := scanner.start }.advance? 1

def settle? (scanner : Scanner S F) (c : Cursor S) : Option (Cursor S) :=
  if scanner.idle c.scan ∧ 0 < c.position then c.advance? c.position else some c

lemma advance?_spec {c next : Cursor S} {n : Nat} (h : c.advance? n = some next) :
    next.scan = c.scan ∧ next.position = 0 ∧ next.buffer.length + n = c.buffer.length := by
  simp only [advance?] at h
  split at h
  · cases h
    refine ⟨rfl, rfl, ?_⟩
    simp only [List.length_drop]
    omega
  · cases h

lemma length_advance?_lt {c next : Cursor S} {n : Nat} (h : c.advance? n = some next) (hn : 0 < n) :
    next.buffer.length < c.buffer.length := by
  have hl := (advance?_spec h).2.2
  omega

lemma length_rewind?_lt {c next : Cursor S} (h : c.rewind? scanner = some next) :
    next.buffer.length < c.buffer.length :=
  length_advance?_lt (c := { c with scan := scanner.start }) h Nat.one_pos

lemma settle?_spec {c next : Cursor S} (h : c.settle? scanner = some next) :
    next = c ∨ next.position = 0 ∧ next.buffer.length + c.position = c.buffer.length ∧ 0 < c.position := by
  simp only [settle?] at h
  split at h
  case isTrue hp => exact .inr ⟨(advance?_spec h).2.1, (advance?_spec h).2.2, hp.2⟩
  case isFalse => exact .inl (Option.some.inj h).symm

lemma length_settle?_le {c next : Cursor S} (h : c.settle? scanner = some next) :
    next.buffer.length ≤ c.buffer.length := by
  rcases settle?_spec h with rfl | ⟨-, hl, -⟩ <;> omega

inductive Turn (S F : Type)
  | starved (c : Cursor S)
  | again (c : Cursor S)
  | took (item : Item F) (c : Cursor S)

def feed? (scanner : Scanner S F) (c : Cursor S) (b : UInt8) : Option (Turn S F) :=
  let (scan, signal) := scanner.step c.scan b
  let fed : Cursor S := ⟨scan, c.position + 1, c.buffer⟩
  match signal with
  | .more => some (.again fed)
  | .lost => (fed.rewind? scanner).map .again
  | .corrupt fault => (fed.rewind? scanner).map (.took (.corrupt fault))
  | .frame frame => (fed.advance? fed.position).map (.took (.frame frame))
  | .ack => (fed.advance? fed.position).map (.took .ack)
  | .nak => (fed.advance? fed.position).map (.took .nak)

def turn? (scanner : Scanner S F) (c : Cursor S) : Option (Turn S F) :=
  (c.settle? scanner).bind fun settled =>
    match settled.buffer[settled.position]? with
    | none => some (.starved settled)
    | some b => settled.feed? scanner b

def Turn.Progresses (c : Cursor S) : Turn S F → Prop
  | starved next => next.buffer.length ≤ c.buffer.length
  | took _ next => next.buffer.length < c.buffer.length
  | again next => next.buffer.length < c.buffer.length ∨
      next.buffer.length = c.buffer.length ∧ c.position < c.buffer.length ∧ next.position = c.position + 1

lemma feed?_progresses {c : Cursor S} {b : UInt8} {turn : Turn S F} (hp : c.position < c.buffer.length)
    (h : c.feed? scanner b = some turn) : turn.Progresses c := by
  simp only [feed?] at h
  split at h
  · cases h
    exact .inr ⟨rfl, hp, rfl⟩
  · obtain ⟨next, hn, rfl⟩ := Option.map_eq_some_iff.mp h
    exact .inl (length_rewind?_lt hn)
  · obtain ⟨next, hn, rfl⟩ := Option.map_eq_some_iff.mp h
    exact length_rewind?_lt hn
  all_goals
    obtain ⟨next, hn, rfl⟩ := Option.map_eq_some_iff.mp h
    have hlt := length_advance?_lt hn (Nat.succ_pos _)
    exact hlt

lemma turn?_progresses {c : Cursor S} {turn : Turn S F} (h : c.turn? scanner = some turn) : turn.Progresses c := by
  obtain ⟨settled, hs, ht⟩ := Option.bind_eq_some_iff.mp h
  cases hb : settled.buffer[settled.position]? with
  | none =>
    simp only [hb, Option.some.injEq] at ht
    subst ht
    exact length_settle?_le hs
  | some b =>
    simp only [hb] at ht
    obtain ⟨hp, -⟩ := List.getElem?_eq_some_iff.mp hb
    have hk := feed?_progresses hp ht
    rcases settle?_spec hs with rfl | ⟨-, hl, hpos⟩
    · exact hk
    · cases turn with
      | starved next => exact Nat.le_trans hk (length_settle?_le hs)
      | took item next => exact Nat.lt_of_lt_of_le hk (length_settle?_le hs)
      | again next =>
        left
        rcases hk with hk | ⟨hk, -, -⟩ <;> omega

def read? (scanner : Scanner S F) (c : Cursor S) : Option (Option (Item F) × Cursor S) :=
  match _h : c.turn? scanner with
  | none => none
  | some (.starved next) => some (none, next)
  | some (.took item next) => some (some item, next)
  | some (.again next) => read? scanner next
termination_by (c.buffer.length, c.buffer.length - c.position)
decreasing_by
  rcases turn?_progresses _h with hl | ⟨hl, hp, hn⟩
  · exact Prod.Lex.left _ _ hl
  · rw [hl, hn]
    apply Prod.Lex.right
    omega

lemma read?_of_starved {c next : Cursor S} (h : c.turn? scanner = some (.starved next)) :
    c.read? scanner = some (none, next) := by
  rw [read?]
  split <;> simp_all

lemma read?_of_took {c next : Cursor S} {item : Item F} (h : c.turn? scanner = some (.took item next)) :
    c.read? scanner = some (some item, next) := by
  rw [read?]
  split <;> simp_all

lemma read?_of_again {c next : Cursor S} (h : c.turn? scanner = some (.again next)) :
    c.read? scanner = next.read? scanner := by
  rw [read?]
  split <;> simp_all

lemma length_read? {c next : Cursor S} {item : Option (Item F)} (h : c.read? scanner = some (item, next)) :
    next.buffer.length + item.toList.length ≤ c.buffer.length := by
  fun_induction read? scanner c with
  | case1 => cases h
  | case2 c last ht =>
    cases h
    exact turn?_progresses ht
  | case3 c item last ht =>
    cases h
    exact turn?_progresses ht
  | case4 c last ht ih =>
    have hl := ih h
    rcases turn?_progresses ht with hk | ⟨hk, -, -⟩ <;> omega

def readAll? (scanner : Scanner S F) (c : Cursor S) : Option (List (Item F) × Cursor S) :=
  match _h : c.read? scanner with
  | none => none
  | some (none, next) => some ([], next)
  | some (some item, next) => (readAll? scanner next).map fun (items, last) => (item :: items, last)
termination_by c.buffer.length
decreasing_by exact length_read? _h

def giveUp? (scanner : Scanner S F) (c : Cursor S) : Option (Option (Item F) × Cursor S) :=
  match scanner.stalled c.scan with
  | none => some (none, c)
  | some fault => (c.rewind? scanner).map (some (.corrupt fault), ·)

lemma length_readAll?_le {c last : Cursor S} {items : List (Item F)} (h : c.readAll? scanner = some (items, last)) :
    last.buffer.length ≤ c.buffer.length := by
  fun_induction readAll? scanner c generalizing items last with
  | case1 => cases h
  | case2 c next hr =>
    cases h
    exact length_read? hr
  | case3 c item next hr ih =>
    obtain ⟨⟨more, taken⟩, hm, he⟩ := Option.map_eq_some_iff.mp h
    cases he
    exact Nat.le_trans (ih hm) (Nat.le_of_succ_le (length_read? hr))

lemma length_giveUp?_lt {c next : Cursor S} {item : Item F} (h : c.giveUp? scanner = some (some item, next)) :
    next.buffer.length < c.buffer.length := by
  simp only [giveUp?] at h
  split at h
  · cases h
  · obtain ⟨last, hl, he⟩ := Option.map_eq_some_iff.mp h
    cases he
    exact length_rewind?_lt hl

def drain? (scanner : Scanner S F) (c : Cursor S) : Option (List (Item F) × Cursor S) :=
  match _ha : c.readAll? scanner with
  | none => none
  | some (items, rest) =>
    match _hg : rest.giveUp? scanner with
    | none => none
    | some (none, last) => some (items, last)
    | some (some item, next) => (drain? scanner next).map fun (more, last) => (items ++ item :: more, last)
termination_by c.buffer.length
decreasing_by exact Nat.lt_of_lt_of_le (length_giveUp?_lt _hg) (length_readAll?_le _ha)

end Cursor

def Receiver.cursor (r : Receiver S) : Cursor S := ⟨r.scan, r.seen.length, r.buffer⟩

namespace Cursor

open Receiver

lemma settle?_cursor {state : S} {seen : Bytes} (h : Candidate scanner state seen) (ahead : Bytes) :
    (cursor ⟨state, seen, ahead⟩).settle? scanner = some (cursor ⟨state, seen, ahead⟩) := by
  cases h with
  | start => simp [settle?, cursor]
  | more _ _ hi => simp [settle?, cursor, hi]

lemma advance?_scanned (scan : S) (seen : Bytes) (b : UInt8) (bs : Bytes) :
    advance? ⟨scan, seen.length + 1, seen.reverse ++ b :: bs⟩ (seen.length + 1) = some (cursor ⟨scan, [], bs⟩) := by
  simp [advance?, cursor, Receiver.buffer, List.drop_append]

lemma rewind?_scanned (scan : S) (seen : Bytes) (b : UInt8) (bs : Bytes) :
    rewind? scanner ⟨scan, seen.length + 1, seen.reverse ++ b :: bs⟩ = some (cursor (skip scanner (b :: seen) bs)) := by
  simp [rewind?, advance?, cursor, skip, Receiver.buffer]

lemma turn?_end {state : S} {seen : Bytes} (h : Candidate scanner state seen) :
    turn? scanner (cursor ⟨state, seen, []⟩) = some (.starved (cursor ⟨state, seen, []⟩)) := by
  simp only [turn?, settle?_cursor h, Option.bind_some]
  simp [cursor, Receiver.buffer]

lemma turn?_cursor {state : S} {seen : Bytes} (h : Candidate scanner state seen) (b : UInt8) (bs : Bytes) :
    turn? scanner (cursor ⟨state, seen, b :: bs⟩) = feed? scanner (cursor ⟨state, seen, b :: bs⟩) b := by
  simp only [turn?, settle?_cursor h, Option.bind_some]
  simp [cursor, Receiver.buffer]

lemma read?_idle {scan : S} {seen : Bytes} {b : UInt8} (bs : Bytes) (hl : Lawful scanner)
    (hi : scanner.idle scan = true) :
    read? scanner ⟨scan, seen.length + 1, seen.reverse ++ b :: bs⟩ = read? scanner (cursor ⟨scan, [], bs⟩) := by
  have hc : Candidate scanner scan [] := hl.idle hi ▸ .start
  have hs : settle? scanner ⟨scan, seen.length + 1, seen.reverse ++ b :: bs⟩ = some (cursor ⟨scan, [], bs⟩) := by
    simp only [settle?, hi, Nat.succ_pos, and_self, if_true, advance?_scanned]
  have ht : turn? scanner ⟨scan, seen.length + 1, seen.reverse ++ b :: bs⟩ = turn? scanner (cursor ⟨scan, [], bs⟩) := by
    rw [turn?, turn?, hs, settle?_cursor hc]
  rw [read?, read?, ht]

lemma read?_cursor (hl : Lawful scanner) (state : S) (seen bs : Bytes) (h : Candidate scanner state seen) :
    read? scanner (cursor ⟨state, seen, bs⟩) =
      some ((scanFrom scanner state seen bs).1, (scanFrom scanner state seen bs).2.cursor) := by
  fun_induction scanFrom scanner state seen bs with
  | case1 state seen => exact read?_of_starved (turn?_end h)
  | case2 state seen b bs next hs hi ih =>
    have ht : turn? scanner (cursor ⟨state, seen, b :: bs⟩) =
        some (.again ⟨next, seen.length + 1, seen.reverse ++ b :: bs⟩) := by
      rw [turn?_cursor h]
      simp only [feed?, cursor, hs, Receiver.buffer]
    rw [read?_of_again ht, read?_idle bs hl hi]
    exact ih (hl.idle hi ▸ .start)
  | case3 state seen b bs next hs hi ih =>
    have ht : turn? scanner (cursor ⟨state, seen, b :: bs⟩) = some (.again (cursor ⟨next, b :: seen, bs⟩)) := by
      rw [turn?_cursor h]
      simp [feed?, cursor, hs, Receiver.buffer]
    rw [read?_of_again ht]
    exact ih (.more h hs (by simpa using hi))
  | case4 state seen b bs next hs ih =>
    have ht : turn? scanner (cursor ⟨state, seen, b :: bs⟩) =
        some (.again (cursor ⟨scanner.start, [], ((b :: seen).reverse ++ bs).tail⟩)) := by
      rw [turn?_cursor h]
      simp only [feed?, cursor, hs, Receiver.buffer, rewind?_scanned]
      rfl
    rw [read?_of_again ht]
    exact ih .start
  | case5 state seen b bs next fault hs =>
    refine read?_of_took ?_
    rw [turn?_cursor h]
    simp only [feed?, cursor, hs, Receiver.buffer, rewind?_scanned]
    rfl
  | case6 state seen b bs next frame hs =>
    refine read?_of_took ?_
    rw [turn?_cursor h]
    simp only [feed?, cursor, hs, Receiver.buffer, advance?_scanned]
    rfl
  | case7 state seen b bs next hs | case8 state seen b bs next hs =>
    refine read?_of_took ?_
    rw [turn?_cursor h]
    simp only [feed?, cursor, hs, Receiver.buffer, advance?_scanned]
    rfl

lemma readAll?_of_none {c next : Cursor S} (h : c.read? scanner = some (none, next)) :
    c.readAll? scanner = some ([], next) := by
  rw [readAll?]
  split <;> simp_all

lemma readAll?_of_some {c next : Cursor S} {item : Item F} (h : c.read? scanner = some (some item, next)) :
    c.readAll? scanner = (next.readAll? scanner).map fun (items, last) => (item :: items, last) := by
  rw [readAll?]
  split <;> simp_all

lemma readAll?_cursor (hl : Lawful scanner) (r : Receiver S) (h : Candidate scanner r.scan r.seen) :
    readAll? scanner r.cursor = some ((r.readAll scanner).1, (r.readAll scanner).2.cursor) := by
  fun_induction readAll scanner r with
  | case1 r next hr =>
    have hc := read?_cursor hl r.scan r.seen r.ahead h
    rw [show scanFrom scanner r.scan r.seen r.ahead = _ from hr] at hc
    exact readAll?_of_none hc
  | case2 r item next hr items last hm ih =>
    have hc := read?_cursor hl r.scan r.seen r.ahead h
    have hn := candidate_scanFrom hl r.scan r.seen r.ahead h
    rw [show scanFrom scanner r.scan r.seen r.ahead = _ from hr] at hc hn
    have ht : readAll? scanner next.cursor = _ := ih hn
    exact (readAll?_of_some hc).trans (by rw [ht, hm]; rfl)

lemma giveUp?_none {c : Cursor S} (h : scanner.stalled c.scan = none) : c.giveUp? scanner = some (none, c) := by
  simp only [giveUp?, h]

lemma giveUp?_some {scan : S} {position : Nat} {b : UInt8} {bs : Bytes} {fault : Fault}
    (h : scanner.stalled scan = some fault) :
    giveUp? scanner ⟨scan, position, b :: bs⟩ = some (some (.corrupt fault), ⟨scanner.start, 0, bs⟩) := by
  simp [giveUp?, h, rewind?, advance?]

lemma buffer_of_stalled (hs : scanner.stalled scanner.start = none) {r : Receiver S}
    (h : Candidate scanner r.scan r.seen) {fault : Fault} (hf : scanner.stalled r.scan = some fault) :
    ∃ b bs, r.buffer = b :: bs := by
  refine List.exists_cons_of_ne_nil fun hb => ?_
  have hseen : r.seen = [] := List.reverse_eq_nil_iff.mp (List.append_eq_nil_iff.mp hb).1
  rw [hseen] at h
  have hn : r.scan = scanner.start := by
    generalize r.scan = scan at h
    cases h
    rfl
  rw [hn, hs] at hf
  cases hf

lemma giveUp?_cursor (hs : scanner.stalled scanner.start = none) (r : Receiver S)
    (h : Candidate scanner r.scan r.seen) :
    giveUp? scanner r.cursor = some ((r.giveUp scanner).1, (r.giveUp scanner).2.cursor) := by
  cases hf : scanner.stalled r.scan with
  | none =>
    have hg : r.giveUp scanner = (none, r) := by simp only [giveUp, hf]
    rw [hg]
    exact giveUp?_none hf
  | some fault =>
    obtain ⟨b, bs, hb⟩ := buffer_of_stalled hs h hf
    have hg : r.giveUp scanner = (some (.corrupt fault), ⟨scanner.start, [], bs⟩) := by
      have ht : (r.seen.reverse ++ r.ahead).tail = bs := by rw [← Receiver.buffer, hb, List.tail_cons]
      simp only [giveUp, hf, skip, ht]
    rw [hg, cursor, hb]
    exact giveUp?_some hf

lemma drain?_over {c rest last : Cursor S} {items : List (Item F)} (ha : c.readAll? scanner = some (items, rest))
    (hg : rest.giveUp? scanner = some (none, last)) : c.drain? scanner = some (items, last) := by
  rw [drain?]
  split
  · simp_all
  · split <;> simp_all

lemma drain?_goes_on {c rest next : Cursor S} {items : List (Item F)} {item : Item F}
    (ha : c.readAll? scanner = some (items, rest)) (hg : rest.giveUp? scanner = some (some item, next)) :
    c.drain? scanner = (next.drain? scanner).map fun (more, last) => (items ++ item :: more, last) := by
  rw [drain?]
  split
  · simp_all
  · split <;> simp_all

lemma drain?_cursor (hl : Lawful scanner) (hs : scanner.stalled scanner.start = none) (n : Nat) (r : Receiver S)
    (h : Candidate scanner r.scan r.seen) (hn : r.buffer.length ≤ n) :
    drain? scanner r.cursor = some ((r.drainFor scanner n).1, (r.drainFor scanner n).2.cursor) := by
  induction n generalizing r with
  | zero =>
    have hk := (readAll_spec hl r h).1
    have hb : (r.readAll scanner).2.buffer = [] := by
      have := length_readAll_le scanner r
      exact List.length_eq_zero_iff.mp (by omega)
    have hg : giveUp? scanner (r.readAll scanner).2.cursor = some (none, (r.readAll scanner).2.cursor) :=
      giveUp?_none (by rw [cursor, hk.idle hb, hs])
    exact drain?_over (readAll?_cursor hl r h) hg
  | succ n ih =>
    have ha := readAll?_cursor hl r h
    have hk := (readAll_spec hl r h).1
    have hle := length_readAll_le scanner r
    rcases hr : r.readAll scanner with ⟨items, rest⟩
    rw [hr] at ha hk hle
    have hu := giveUp?_cursor hs rest hk.candidate
    rcases giveUp_cases scanner rest with ⟨hf, hg⟩ | ⟨fault, next, hf, hg, hc, hb⟩
    · rw [hg] at hu
      rw [drain?_over ha hu, drainFor_over hr hg]
    · rw [hg] at hu
      obtain ⟨b, bs, hbs⟩ := buffer_of_stalled hs hk.candidate hf
      have hlen : next.buffer.length ≤ n := by
        rw [hb, List.length_tail]
        simp only [hbs, List.length_cons] at hle ⊢
        omega
      rw [drain?_goes_on ha hu, ih next hc hlen, drainFor_goes_on hr hg]
      rfl

end Cursor

inductive Use
  | append (bs : Bytes)
  | read
  | readAll
  | giveUp
  | drain
  | reset

def Receiver.use (scanner : Scanner S F) (r : Receiver S) : Use → List (Item F) × Receiver S
  | .append bs => ([], r.append bs)
  | .read => ((r.read scanner).1.toList, (r.read scanner).2)
  | .readAll => r.readAll scanner
  | .giveUp => ((r.giveUp scanner).1.toList, (r.giveUp scanner).2)
  | .drain => r.drain scanner
  | .reset => ([], .fresh scanner)

def Receiver.used (scanner : Scanner S F) (r : Receiver S) : List Use → List (Item F) × Receiver S
  | [] => ([], r)
  | u :: us =>
    let (items, next) := r.use scanner u
    let (more, last) := next.used scanner us
    (items ++ more, last)

namespace Cursor

open Receiver

def use? (scanner : Scanner S F) (c : Cursor S) : Use → Option (List (Item F) × Cursor S)
  | .append bs => some ([], c.append bs)
  | .read => (c.read? scanner).map fun (item, next) => (item.toList, next)
  | .readAll => c.readAll? scanner
  | .giveUp => (c.giveUp? scanner).map fun (item, next) => (item.toList, next)
  | .drain => c.drain? scanner
  | .reset => some ([], .fresh scanner)

def used? (scanner : Scanner S F) (c : Cursor S) : List Use → Option (List (Item F) × Cursor S)
  | [] => some ([], c)
  | u :: us =>
    (c.use? scanner u).bind fun (items, next) => (next.used? scanner us).map fun (more, last) => (items ++ more, last)

lemma use?_cursor (hl : Lawful scanner) (he : Exact scanner) (hs : scanner.stalled scanner.start = none)
    (r : Receiver S) (h : Candidate scanner r.scan r.seen) (u : Use) :
    use? scanner r.cursor u = some ((r.use scanner u).1, (r.use scanner u).2.cursor) ∧
      Candidate scanner (r.use scanner u).2.scan (r.use scanner u).2.seen := by
  cases u with
  | append bs =>
    have hb : (r.append bs).buffer = r.buffer ++ bs := (List.append_assoc _ _ _).symm
    exact ⟨by rw [use?, Receiver.use, cursor, cursor, hb]; rfl, h⟩
  | read =>
    have hr : read? scanner r.cursor = _ := read?_cursor hl r.scan r.seen r.ahead h
    exact ⟨by rw [use?, hr]; rfl, candidate_scanFrom hl _ _ _ h⟩
  | readAll => exact ⟨readAll?_cursor hl r h, (readAll_spec hl r h).1.candidate⟩
  | giveUp =>
    refine ⟨by rw [use?, giveUp?_cursor hs r h]; rfl, ?_⟩
    rcases giveUp_cases scanner r with ⟨-, hg⟩ | ⟨fault, next, -, hg, hc, -⟩
    · rw [Receiver.use, hg]
      exact h
    · rw [Receiver.use, hg]
      exact hc
  | drain =>
    exact ⟨drain?_cursor hl hs _ r h (Nat.le_refl _), (drainFor_spec hl he hs _ r h (Nat.le_refl _)).1.candidate⟩
  | reset => exact ⟨rfl, .start⟩

lemma used?_cursor (hl : Lawful scanner) (he : Exact scanner) (hs : scanner.stalled scanner.start = none)
    (us : List Use) (r : Receiver S) (h : Candidate scanner r.scan r.seen) :
    used? scanner r.cursor us = some ((r.used scanner us).1, (r.used scanner us).2.cursor) ∧
      Candidate scanner (r.used scanner us).2.scan (r.used scanner us).2.seen := by
  induction us generalizing r with
  | nil => exact ⟨rfl, h⟩
  | cons u us ih =>
    obtain ⟨hu, hc⟩ := use?_cursor hl he hs r h u
    obtain ⟨hus, hd⟩ := ih _ hc
    refine ⟨?_, hd⟩
    simp only [used?, hu, Option.bind_some, hus]
    rfl

/-- The scanner stands where the bytes before the position have brought it, none of which decided anything. A stalled
candidate is given up for one byte, and in the end none is left. -/
structure Sound (scanner : Scanner S F) (c : Cursor S) : Prop where
  position_le : c.position ≤ c.buffer.length
  scanned : scanner.trace scanner.start (c.buffer.take c.position) = (List.replicate c.position .more, c.scan)
  unstalled : scanner.stalled c.scan = none → c.giveUp? scanner = some (none, c)
  stalled : ∀ fault, scanner.stalled c.scan = some fault → ∃ b bs, c.buffer = b :: bs ∧
    c.giveUp? scanner = some (some (.corrupt fault), ⟨scanner.start, 0, bs⟩)
  drained : ∃ items last, c.drain? scanner = some (items, last) ∧ scanner.stalled last.scan = none

lemma sound_cursor (hl : Lawful scanner) (he : Exact scanner) (hs : scanner.stalled scanner.start = none)
    (r : Receiver S) (h : Candidate scanner r.scan r.seen) : r.cursor.Sound scanner where
  position_le := by
    rw [cursor, length_buffer]
    exact Nat.le_add_right _ _
  scanned := by
    have hb : r.buffer.take r.seen.length = r.seen.reverse := List.take_left' (List.length_reverse)
    rw [cursor, hb]
    exact h.trace
  unstalled hq := giveUp?_none hq
  stalled fault hf := by
    obtain ⟨b, bs, hb⟩ := buffer_of_stalled hs h hf
    refine ⟨b, bs, hb, ?_⟩
    rw [cursor, hb]
    exact giveUp?_some hf
  drained := ⟨_, _, drain?_cursor hl hs _ r h (Nat.le_refl _), (drainFor_spec hl he hs _ r h (Nat.le_refl _)).2.1⟩

end Cursor

lemma Protocol.stalled_start (p : Protocol) : p.scanner.stalled p.scanner.start = none := by
  cases p with
  | antenna => rfl
  | cardReader => rfl
  | paymentReader => rfl

/-- Whatever is done with a fresh cursor and its buffer, no bytes are missing where some are taken, and it holds what
the receiver holds. -/
theorem cursor_within_buffer (p : Protocol) (us : List Use) :
    let (items, last) := (Receiver.fresh p.scanner).used p.scanner us
    (Cursor.fresh p.scanner).used? p.scanner us = some (items, last.cursor) ∧ last.cursor.Sound p.scanner := by
  have hs := p.stalled_start
  obtain ⟨hu, hc⟩ := Cursor.used?_cursor p.scanner_lawful p.scanner_exact hs us (Receiver.fresh p.scanner) .start
  exact ⟨hu, Cursor.sound_cursor p.scanner_lawful p.scanner_exact hs _ hc⟩

end ParkingStation.Framing
