import ParkingStation.Framing.Receiver

namespace ParkingStation.Framing

variable {S F : Type}

/-- The first decisive signal from a state, with the bytes after it; `more` is decisive when it leaves the
scanner idle. -/
def attempt (scanner : Scanner S F) (state : S) : Bytes → Option (Signal F × Bytes)
  | [] => none
  | b :: bs =>
    match scanner.step state b with
    | (next, .more) => if scanner.idle next then some (.more, bs) else attempt scanner next bs
    | (_, signal) => some (signal, bs)

theorem length_attempt_lt {scanner : Scanner S F} {state : S} {bs rest : Bytes} {signal : Signal F}
    (h : attempt scanner state bs = some (signal, rest)) : rest.length < bs.length := by
  fun_induction attempt scanner state bs with
  | case1 => cases h
  | case2 => cases h; simp
  | case3 _ _ _ _ _ _ ih => have := ih h; simp; omega
  | case4 => cases h; simp

theorem scanFrom_of_attempt {scanner : Scanner S F} {state : S} {bs rest : Bytes} {frame : F} (seen : Bytes)
    (h : attempt scanner state bs = some (.frame frame, rest)) :
    ∃ last b next, scanner.step last b = (next, .frame frame) ∧
      Receiver.scanFrom scanner state seen bs = (some (.frame frame), ⟨next, [], rest⟩) := by
  fun_induction attempt scanner state bs generalizing seen with
  | case1 => cases h
  | case2 => cases h
  | case3 state b bs next hs hi ih =>
    obtain ⟨last, b', next', hl, hn⟩ := ih (b :: seen) h
    refine ⟨last, b', next', hl, ?_⟩
    rw [Receiver.scanFrom, hs]
    simpa only [hi, Bool.false_eq_true, if_false] using hn
  | case4 state b bs next signal hm hs =>
    cases h
    refine ⟨state, b, next, hs, ?_⟩
    rw [Receiver.scanFrom, hs]

/-- The items of a byte string, and the bytes of a candidate it leaves unfinished. -/
def rescan (scanner : Scanner S F) (bs : Bytes) : List (Item F) × Bytes :=
  match _h : attempt scanner scanner.start bs with
  | none => ([], bs)
  | some (.more, rest) => rescan scanner rest
  | some (.lost, _) => rescan scanner bs.tail
  | some (.corrupt fault, _) =>
    let (items, kept) := rescan scanner bs.tail
    (.corrupt fault :: items, kept)
  | some (.frame frame, rest) =>
    let (items, kept) := rescan scanner rest
    (.frame frame :: items, kept)
  | some (.ack, rest) =>
    let (items, kept) := rescan scanner rest
    (.ack :: items, kept)
  | some (.nak, rest) =>
    let (items, kept) := rescan scanner rest
    (.nak :: items, kept)
termination_by bs.length
decreasing_by
  all_goals have hlt := length_attempt_lt _h
  · exact hlt
  · rw [List.length_tail]; omega
  · rw [List.length_tail]; omega
  · exact hlt
  · exact hlt
  · exact hlt

end ParkingStation.Framing
