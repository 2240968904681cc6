import ParkingStation.Proofs.Framing.Fragments

namespace ParkingStation.Framing

variable {S F : Type} {scanner : Scanner S F}

/-- The bytes hold the written frames one after another, with any bytes before, between and after them. -/
def Spells (encode : F → Except Error Bytes) : List F → Bytes → Prop
  | [], _ => True
  | frame :: frames, bs =>
    ∃ gap wire rest, encode frame = .ok wire ∧ bs = gap ++ wire ++ rest ∧ Spells encode frames rest

lemma Spells.after {encode : F → Except Error Bytes} {frames : List F} {bs : Bytes} (gap : Bytes)
    (h : Spells encode frames bs) : Spells encode frames (gap ++ bs) := by
  cases frames with
  | nil => trivial
  | cons frame frames =>
    obtain ⟨gap', wire, rest, he, rfl, hr⟩ := h
    exact ⟨gap ++ gap', wire, rest, he, by simp, hr⟩

lemma Spells.append {encode : F → Except Error Bytes} {frames more : List F} {bs cs : Bytes}
    (h : Spells encode frames bs) (hm : Spells encode more cs) : Spells encode (frames ++ more) (bs ++ cs) := by
  induction frames generalizing bs with
  | nil => exact hm.after bs
  | cons frame frames ih =>
    obtain ⟨gap, wire, rest, he, rfl, hr⟩ := h
    exact ⟨gap, wire, rest ++ cs, he, by simp, ih hr⟩

/-- A candidate that turns out to be a frame ends with the frame as it is written. -/
def Exact (scanner : Scanner S F) : Prop :=
  ∀ {state next : S} {seen : Bytes} {b : UInt8} {frame : F}, Candidate scanner state seen →
    scanner.step state b = (next, .frame frame) →
    ∃ gap wire, scanner.encode frame = .ok wire ∧ (b :: seen).reverse = gap ++ wire

def Item.frame? : Item F → Option F
  | .frame f => some f
  | _ => none

def delivered (items : List (Item F)) : List F := items.filterMap Item.frame?

@[simp] lemma delivered_append (items more : List (Item F)) :
    delivered (items ++ more) = delivered items ++ delivered more :=
  List.filterMap_append

inductive Act
  | append (bs : Bytes)
  | read
  | giveUp

def Act.bytes : Act → Bytes
  | append bs => bs
  | read | giveUp => []

namespace Receiver

def act (scanner : Scanner S F) (r : Receiver S) : Act → Option (Item F) × Receiver S
  | .append bs => (none, r.append bs)
  | .read => r.read scanner
  | .giveUp => r.giveUp scanner

def perform (scanner : Scanner S F) (r : Receiver S) : List Act → List (Item F) × Receiver S
  | [] => ([], r)
  | a :: acts =>
    let (item, next) := r.act scanner a
    let (items, last) := next.perform scanner acts
    (item.toList ++ items, last)

def Drops (scanner : Scanner S F) (items : List (Item F)) (bs kept : Bytes) : Prop :=
  ∃ dropped, bs = dropped ++ kept ∧ Spells scanner.encode (delivered items) dropped

lemma drops_tail (scanner : Scanner S F) (bs : Bytes) (fault : Option Fault) :
    Drops scanner (fault.map .corrupt).toList bs bs.tail := by
  refine ⟨bs.take 1, ?_, ?_⟩
  · cases bs <;> rfl
  · cases fault <;> trivial

lemma Drops.trans {items more : List (Item F)} {bs kept last : Bytes} (h : Drops scanner items bs kept)
    (hm : Drops scanner more kept last) : Drops scanner (items ++ more) bs last := by
  obtain ⟨dropped, rfl, hd⟩ := h
  obtain ⟨dropped', rfl, hd'⟩ := hm
  exact ⟨dropped ++ dropped', by simp, by simpa using hd.append hd'⟩

lemma drops_scanFrom (hl : Lawful scanner) (he : Exact scanner) (state : S) (seen bs : Bytes)
    (h : Candidate scanner state seen) :
    Drops scanner (scanFrom scanner state seen bs).1.toList (seen.reverse ++ bs)
      (scanFrom scanner state seen bs).2.buffer := by
  fun_induction scanFrom scanner state seen bs with
  | case1 => exact ⟨[], rfl, trivial⟩
  | case2 state seen b bs next hs hi ih =>
    obtain ⟨dropped, hd, hk⟩ := ih (hl.idle hi ▸ .start)
    refine ⟨seen.reverse ++ [b] ++ dropped, ?_, hk.after _⟩
    rw [List.append_assoc, ← hd]
    simp
  | case3 state seen b bs next hs hi ih => simpa using ih (.more h hs (by simpa using hi))
  | case4 state seen b bs next hs ih =>
    have ht := drops_tail scanner (seen.reverse ++ b :: bs) none
    simpa using ht.trans (by simpa using ih .start)
  | case5 state seen b bs next fault hs =>
    simpa [skip, buffer] using drops_tail scanner (seen.reverse ++ b :: bs) (some fault)
  | case6 state seen b bs next frame hs =>
    obtain ⟨gap, wire, hw, hb⟩ := he h hs
    refine ⟨gap ++ wire, ?_, gap, wire, [], hw, by simp, trivial⟩
    rw [← hb]
    simp [buffer]
  | case7 state seen b bs next hs => exact ⟨seen.reverse ++ [b], by simp [buffer], trivial⟩
  | case8 state seen b bs next hs => exact ⟨seen.reverse ++ [b], by simp [buffer], trivial⟩

lemma drops_act (hl : Lawful scanner) (he : Exact scanner) (r : Receiver S) (h : Candidate scanner r.scan r.seen)
    (a : Act) :
    Candidate scanner (r.act scanner a).2.scan (r.act scanner a).2.seen ∧
      Drops scanner (r.act scanner a).1.toList (r.buffer ++ a.bytes) (r.act scanner a).2.buffer := by
  cases a with
  | append bs => exact ⟨h, [], by simp [act, append, buffer, Act.bytes], trivial⟩
  | read =>
    rw [Act.bytes, List.append_nil]
    exact ⟨candidate_scanFrom hl _ _ _ h, drops_scanFrom hl he _ _ _ h⟩
  | giveUp =>
    rw [Act.bytes, List.append_nil]
    simp only [act, giveUp]
    split
    · exact ⟨h, [], rfl, trivial⟩
    · exact ⟨.start, drops_tail scanner r.buffer (some _)⟩

theorem drops_perform (hl : Lawful scanner) (he : Exact scanner) (r : Receiver S)
    (h : Candidate scanner r.scan r.seen) (acts : List Act) :
    Drops scanner (r.perform scanner acts).1 (r.buffer ++ acts.flatMap Act.bytes)
      (r.perform scanner acts).2.buffer := by
  induction acts generalizing r with
  | nil => exact ⟨[], by simp [perform], trivial⟩
  | cons a acts ih =>
    obtain ⟨hc, dropped, hd, hs⟩ := drops_act hl he r h a
    have ha : Drops scanner (r.act scanner a).1.toList (r.buffer ++ (a :: acts).flatMap Act.bytes)
        ((r.act scanner a).2.buffer ++ acts.flatMap Act.bytes) := by
      refine ⟨dropped, ?_, hs⟩
      rw [List.flatMap_cons, ← List.append_assoc, hd, List.append_assoc]
    exact ha.trans (ih _ hc)

end Receiver

end ParkingStation.Framing
