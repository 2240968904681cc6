import ParkingStation.Proofs.Exchange.QuietLine
import ParkingStation.Proofs.Exchange.Unawaited
import ParkingStation.Proofs.Framing.Protocols
import ParkingStation.Proofs.PaymentReader.Hearing
import ParkingStation.Station.Basic

namespace ParkingStation

namespace Framing

structure Noise {S F : Type} (scanner : Scanner S F) (bs : Bytes) : Prop where
  spoilt : ∀ item ∈ (((Receiver.fresh scanner).append bs).readAll scanner).1, ∃ fault, item = .corrupt fault
  dropped : (((Receiver.fresh scanner).append bs).readAll scanner).2.buffer = []

lemma noise_of_rescan {S F : Type} {scanner : Scanner S F} {bs : Bytes} {items : List (Item F)} (hl : Lawful scanner)
    (hr : rescan scanner bs = (items, [])) (hi : ∀ item ∈ items, ∃ fault, item = .corrupt fault) :
    Noise scanner bs := by
  have hk := (Receiver.readAll_spec hl ((Receiver.fresh scanner).append bs) .start).2
  have hb : ((Receiver.fresh scanner).append bs).buffer = bs := rfl
  rw [hb, hr] at hk
  obtain ⟨hitems, hkept⟩ := Prod.mk.inj hk
  exact ⟨hitems ▸ hi, hkept.symm⟩

end Framing

lemma PaymentReader.rescan_unmarked {algorithm : Checksum.Algorithm} {bs : Bytes} (h : attention ∉ bs) :
    Framing.rescan (scanner algorithm) bs = ([], []) := by
  induction bs with
  | nil => exact Framing.rescan_unfinished rfl
  | cons b bs ih =>
    obtain ⟨hb, hbs⟩ := not_or.mp (List.mem_cons.not.mp h)
    have ha : Framing.attempt (scanner algorithm) (scanner algorithm).start (b :: bs) = some (.more, bs) := by
      simp [Framing.attempt, scanner, step, Ne.symm hb]
    rw [Framing.rescan_decided ha]
    exact ih hbs

namespace Exchange

open Framing

variable {p : Peripheral} {now : Nat}

namespace Controller

variable {c : Controller p} {frame : p.Frame}

def AnsweredBy (c : Controller p) (frame : p.Frame) : Prop :=
  (c.phase = .waitingResponse ∧ ∃ o, c.command = some o ∧
      ∀ detail, (p.judge c.session o.item frame).1 ≠ .unrelated detail) ∨
    c.phase = .waitingChunkResponse ∧ ∃ o, c.chunk = some o ∧ ∀ detail, p.judgeChunk o.item frame ≠ .unrelated detail

lemma takeReply_forgives {o : Ongoing p.Command} (spoilt : Option Fault) (hc : c.command = some o)
    (hv : ∀ detail, (p.judge c.session o.item frame).1 ≠ .unrelated detail) :
    { c with spoilt := spoilt }.takeReply frame = c.takeReply frame := by
  rcases hj : p.judge c.session o.item frame with ⟨verdict, session⟩
  rw [takeReply_eq hc hj, takeReply_eq (c := { c with spoilt := spoilt }) hc hj]
  cases verdict with
  | unrelated detail => exact absurd (congrArg Prod.fst hj) (hv detail)
  | answered | unready | refused | again => rfl

lemma takeChunkReply_forgives {o : Ongoing p.Chunk} (spoilt : Option Fault) (hk : c.chunk = some o)
    (hv : ∀ detail, p.judgeChunk o.item frame ≠ .unrelated detail) :
    { c with spoilt := spoilt }.takeChunkReply now frame = c.takeChunkReply now frame := by
  cases c
  obtain rfl : _ = some o := hk
  simp only [takeChunkReply]
  cases hj : p.judgeChunk o.item frame with
  | unrelated detail => exact absurd hj (hv detail)
  | accepted | again | refused => rfl

lemma AnsweredBy.forgives (h : c.AnsweredBy frame) (spoilt : Option Fault) :
    { c with spoilt := spoilt }.takeItem now (.frame frame) = c.takeItem now (.frame frame) := by
  have hs : { c with spoilt := spoilt }.phase = c.phase := rfl
  rcases h with ⟨hp, o, hc, hv⟩ | ⟨hp, o, hk, hv⟩
  · simp only [takeItem, hs, hp, if_true]
    exact takeReply_forgives spoilt hc hv
  · simp only [takeItem, hs, hp, reduceCtorEq, if_false, if_true]
    exact takeChunkReply_forgives spoilt hk hv

lemma takeItems_corrupt {items : List (Item p.Frame)} (hi : ∀ item ∈ items, ∃ fault, item = .corrupt fault)
    (c : Controller p) : ∃ spoilt, items.foldl (takeItem now) c = { c with spoilt := spoilt } := by
  induction items generalizing c with
  | nil => exact ⟨c.spoilt, rfl⟩
  | cons item items ih =>
    obtain ⟨fault, rfl⟩ := hi item List.mem_cons_self
    have hc : ∃ spoilt, c.takeItem now (.corrupt fault) = { c with spoilt := spoilt } := by
      simp only [takeItem]
      split
      · exact ⟨some fault, rfl⟩
      · exact ⟨c.spoilt, rfl⟩
    obtain ⟨first, hf⟩ := hc
    obtain ⟨last, hl⟩ := ih (fun item hm => hi item (List.mem_cons_of_mem _ hm)) (c.takeItem now (.corrupt fault))
    refine ⟨last, ?_⟩
    rw [List.foldl_cons, hl, hf]

lemma AnsweredBy.takeItems {corrupt more : List (Item p.Frame)} (h : c.AnsweredBy frame)
    (hi : ∀ item ∈ corrupt, ∃ fault, item = .corrupt fault) :
    (corrupt ++ .frame frame :: more).foldl (takeItem now) c = (.frame frame :: more).foldl (takeItem now) c := by
  obtain ⟨spoilt, hs⟩ := takeItems_corrupt hi c
  rw [List.foldl_append, hs, List.foldl_cons, h.forgives, List.foldl_cons]

lemma attentive_loseLine (detail : String) (h : c.receiver.Settled p.scanner) :
    (c.loseLine detail).receiver.Settled p.scanner := by
  simp only [loseLine]
  split <;> exact h

lemma attentive_turn (hl : Lawful p.scanner) (c : Controller p) (x : Incident p)
    (h : c.receiver.Settled p.scanner) : (c.turn x).2.receiver.Settled p.scanner := by
  cases x with
  | demand demand =>
    change (c.meet demand).receiver.Settled p.scanner
    rwa [(meet_line c demand).2.2.1]
  | call now input =>
    rw [turn, step_eq]
    cases input with
    | woken => exact attentive_during hl .woken h
    | bytes data => exact attentive_during hl (.bytes data) h
    | wrote result => exact attentive_during hl (.wrote result) h
    | tick => exact attentive_during hl .tick h
    | disconnected detail => exact attentive_loseLine detail h

lemma attentive_after (hl : Lawful p.scanner) (session : p.Session) (timing : Settings.Timing)
    (xs : List (Incident p)) : ((fresh p session timing).after xs).receiver.Settled p.scanner :=
  after_keep (attentive_turn hl) _ xs (Receiver.settled_fresh p.scanner)

lemma AnsweredBy.hear {noise wire : Bytes} {more : List (Item p.Frame)} {last : Receiver p.Scan}
    (ha : c.AnsweredBy frame) (hl : Lawful p.scanner) (hr : c.receiver = .fresh p.scanner)
    (hn : Noise p.scanner noise)
    (hw : ((Receiver.fresh p.scanner).append wire).readAll p.scanner = (.frame frame :: more, last)) :
    c.hear now (noise ++ wire) = c.hear now wire := by
  have hc : Candidate p.scanner ((Receiver.fresh p.scanner).append noise).scan
      ((Receiver.fresh p.scanner).append noise).seen := .start
  have he := (Receiver.readAll_spec hl _ hc).1.eq_fresh hn.dropped
  have hread := Receiver.readAll_append hl hc wire
  have happ : (Receiver.fresh p.scanner).append (noise ++ wire) =
      ((Receiver.fresh p.scanner).append noise).append wire := by simp [Receiver.append]
  rw [he, hw, ← happ] at hread
  have ht : ({ c with timers := c.timers.heard now, receiver := last } : Controller p).AnsweredBy frame := ha
  simp only [Controller.hear, drain, hr, hread, hw, ht.takeItems hn.spoilt]

end Controller

lemma Fitting.scanner_lawful (f : Fitting) : Lawful f.peripheral.scanner := by
  cases f with
  | antenna => exact Antenna.scanner_lawful .reflected
  | cardReader => exact CardReader.scanner_lawful
  | paymentReader => exact PaymentReader.scanner_lawful .forward

/-- Whatever has happened to a controller whose receiver is empty, noise makes no difference in front of an answer to
what it waits for. -/
theorem noise_before_answer (f : Fitting) (session : f.peripheral.Session) (timing : Settings.Timing)
    (xs : List (Incident f.peripheral)) (now : Nat) (noise wire : Bytes) (frame : f.peripheral.Frame)
    (more : List (Item f.peripheral.Frame)) (last : Receiver f.peripheral.Scan)
    (hb : ((Controller.fresh f.peripheral session timing).after xs).receiver.buffer = [])
    (hn : Noise f.peripheral.scanner noise)
    (hw : ((Receiver.fresh f.peripheral.scanner).append wire).readAll f.peripheral.scanner =
      (.frame frame :: more, last))
    (ha : ((Controller.fresh f.peripheral session timing).after xs).AnsweredBy frame) :
    ((Controller.fresh f.peripheral session timing).after xs).step now (.bytes (noise ++ wire)) =
      ((Controller.fresh f.peripheral session timing).after xs).step now (.bytes wire) := by
  have hl := f.scanner_lawful
  have hr := (Controller.attentive_after hl session timing xs).eq_fresh hb
  simp only [Controller.step, ha.hear hl hr hn hw]

def statusRequested : List (Incident (PaymentReader.peripheral Station.noKey)) :=
  [.demand (.submit PaymentReader.Command.getStatus), .call 0 .woken, .call 0 (.wrote .completed)]

theorem status_behind_spoilt_frame :
    let c := (Controller.fresh (PaymentReader.peripheral Station.noKey) {} {}).after statusRequested
    c.step 5 (.bytes ([0xaa, 0x81, 0x00, 0x06, 0x00, 0x00] ++ [0xaa, 0x81, 0x00, 0x09, 0x07, 0x00, 0x01, 0x30, 0xc9])) =
      c.step 5 (.bytes [0xaa, 0x81, 0x00, 0x09, 0x07, 0x00, 0x01, 0x30, 0xc9]) := by
  intro c
  have hb : c.receiver.buffer = [] := by decide +kernel
  have hn : Noise (PaymentReader.scanner .forward) [0xaa, 0x81, 0x00, 0x06, 0x00, 0x00] := by
    have hd : attempt (PaymentReader.scanner .forward) (PaymentReader.scanner .forward).start
        [0xaa, 0x81, 0x00, 0x06, 0x00, 0x00] = some (.corrupt (.checksum 0x6ab1 0x0000), []) := by decide +kernel
    have hr : rescan (PaymentReader.scanner .forward) [0xaa, 0x81, 0x00, 0x06, 0x00, 0x00] =
        ([.corrupt (.checksum 0x6ab1 0x0000)], []) := by
      rw [rescan_decided hd]
      have hu : rescan (PaymentReader.scanner .forward) [0x81, 0x00, 0x06, 0x00, 0x00] = ([], []) :=
        PaymentReader.rescan_unmarked (by decide)
      simp only [Signal.rejects, if_true, List.tail_cons, hu]
      rfl
    refine noise_of_rescan (PaymentReader.scanner_lawful .forward) hr fun item hm => ⟨_, List.mem_singleton.mp hm⟩
  have hd : attempt (PaymentReader.scanner .forward) .waiting
      [0xaa, 0x81, 0x00, 0x09, 0x07, 0x00, 0x01, 0x30, 0xc9] = some (.frame ⟨true, 0x01, [0x07, 0x00, 0x01]⟩, []) := by
    decide +kernel
  have hw := PaymentReader.readAll_frame (r := .fresh (PaymentReader.scanner .forward)) rfl hd
  have ha : c.AnsweredBy (⟨true, 0x01, [0x07, 0x00, 0x01]⟩ : PaymentReader.Frame) := by
    refine .inl ⟨by decide +kernel, ⟨PaymentReader.Command.getStatus, 1⟩, by decide +kernel, fun detail hd => ?_⟩
    cases hd
  exact noise_before_answer (.paymentReader Station.noKey) {} {} statusRequested 5 _ _ _ _ _ hb hn hw ha

end Exchange

end ParkingStation
