import ParkingStation.Framing.Scanner

/-! A receiver keeps every byte of the candidate in progress: when the candidate is lost or corrupt, its first
byte is dropped and the rest is scanned again. -/

namespace ParkingStation.Framing

inductive Item (F : Type)
  | frame (frame : F)
  | ack
  | nak
  | corrupt (fault : Fault)
  deriving DecidableEq

structure Receiver (S : Type) where
  scan : S
  seen : Bytes
  ahead : Bytes

namespace Receiver

variable {S F : Type}

def fresh (scanner : Scanner S F) : Receiver S := ⟨scanner.start, [], []⟩

def buffer (r : Receiver S) : Bytes := r.seen.reverse ++ r.ahead

def append (r : Receiver S) (bs : Bytes) : Receiver S := { r with ahead := r.ahead ++ bs }

def skip (scanner : Scanner S F) (seen ahead : Bytes) : Receiver S :=
  ⟨scanner.start, [], (seen.reverse ++ ahead).tail⟩

def scanFrom (scanner : Scanner S F) (state : S) (seen : Bytes) : Bytes → Option (Item F) × Receiver S
  | [] => (none, ⟨state, seen, []⟩)
  | b :: bs =>
    match scanner.step state b with
    | (next, .more) =>
      if scanner.idle next then scanFrom scanner next [] bs else scanFrom scanner next (b :: seen) bs
    | (_, .lost) => scanFrom scanner scanner.start [] ((b :: seen).reverse ++ bs).tail
    | (_, .corrupt fault) => (some (.corrupt fault), skip scanner (b :: seen) bs)
    | (next, .frame frame) => (some (.frame frame), ⟨next, [], bs⟩)
    | (next, .ack) => (some .ack, ⟨next, [], bs⟩)
    | (next, .nak) => (some .nak, ⟨next, [], bs⟩)
termination_by bs => (seen.length + bs.length, bs.length)
decreasing_by all_goals simp_wf; omega

def read (scanner : Scanner S F) (r : Receiver S) : Option (Item F) × Receiver S :=
  scanFrom scanner r.scan r.seen r.ahead

@[simp] theorem length_buffer (r : Receiver S) : r.buffer.length = r.seen.length + r.ahead.length := by
  simp [buffer]

theorem length_scanFrom_le (scanner : Scanner S F) (state : S) (seen bs : Bytes) :
    (scanFrom scanner state seen bs).2.buffer.length ≤ seen.length + bs.length := by
  fun_induction scanFrom scanner state seen bs <;> simp_all [skip] <;> omega

theorem length_scanFrom_lt (scanner : Scanner S F) (state : S) (seen bs : Bytes) {item : Item F}
    (h : (scanFrom scanner state seen bs).1 = some item) :
    (scanFrom scanner state seen bs).2.buffer.length < seen.length + bs.length := by
  fun_induction scanFrom scanner state seen bs with
  | case1 => cases h
  | case2 _ _ _ _ _ _ _ ih => have := ih h; simp_all; omega
  | case3 _ _ _ _ _ _ _ ih => have := ih h; simp_all; omega
  | case4 _ _ _ _ _ _ ih => have := ih h; simp only [List.length_tail, List.length_append, List.length_reverse,
      List.length_cons, List.length_nil] at this ⊢; omega
  | case5 => simp [skip]
  | case6 => simp; omega
  | case7 => simp; omega
  | case8 => simp; omega

theorem length_read_lt {scanner : Scanner S F} {r next : Receiver S} {item : Item F}
    (h : read scanner r = (some item, next)) : next.buffer.length < r.buffer.length := by
  have hs : (scanFrom scanner r.scan r.seen r.ahead).1 = some item := congrArg Prod.fst h
  have hn : (scanFrom scanner r.scan r.seen r.ahead).2 = next := congrArg Prod.snd h
  simpa [hn] using length_scanFrom_lt scanner r.scan r.seen r.ahead hs

def readAll (scanner : Scanner S F) (r : Receiver S) : List (Item F) × Receiver S :=
  match _h : read scanner r with
  | (none, next) => ([], next)
  | (some item, next) =>
    let (items, last) := readAll scanner next
    (item :: items, last)
termination_by r.buffer.length
decreasing_by exact length_read_lt _h

def giveUp (scanner : Scanner S F) (r : Receiver S) : Option (Item F) × Receiver S :=
  match scanner.stalled r.scan with
  | none => (none, r)
  | some fault => (some (.corrupt fault), skip scanner r.seen r.ahead)

def drainFor (scanner : Scanner S F) : Nat → Receiver S → List (Item F) × Receiver S
  | 0, r => readAll scanner r
  | n + 1, r =>
    let (items, rest) := readAll scanner r
    match giveUp scanner rest with
    | (none, last) => (items, last)
    | (some item, next) =>
      let (more, last) := drainFor scanner n next
      (items ++ item :: more, last)

def drain (scanner : Scanner S F) (r : Receiver S) : List (Item F) × Receiver S :=
  drainFor scanner r.buffer.length r

end Receiver

end ParkingStation.Framing
