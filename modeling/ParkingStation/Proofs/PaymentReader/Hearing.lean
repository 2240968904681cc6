import ParkingStation.Framing.Rescan
import ParkingStation.PaymentReader.Session
import ParkingStation.Proofs.Exchange.Errands
import ParkingStation.Proofs.Framing.Fragments

/-! A call that brings one intact frame to a receiver without a candidate takes that frame and then takes up work. -/

namespace ParkingStation.PaymentReader

open Exchange

variable {key : LoginBlock} {data : Bytes} {frame : Frame} {now : Nat}

lemma receiver_fresh {r : Framing.Receiver Scan} (h : (r.scan, r.seen, r.ahead) = (.waiting, [], [])) :
    r = .fresh (scanner .forward) :=
  congrArg (fun parts : Scan × Bytes × Bytes => Framing.Receiver.mk parts.1 parts.2.1 parts.2.2) h

lemma step_frame {algorithm : Checksum.Algorithm} {scan next : Scan} {b : UInt8}
    (h : step algorithm scan b = (next, .frame frame)) : next = .waiting := by
  unfold step at h
  split at h
  · cases h
  · dsimp only at h
    split at h <;> cases h
  · cases h
  · split at h
    · exact (congrArg Prod.fst h).symm
    · cases h

lemma read_frame (h : Framing.attempt (scanner .forward) .waiting data = some (.frame frame, [])) :
    (Framing.Receiver.append (.fresh (scanner .forward)) data).read (scanner .forward) =
      (some (.frame frame), .fresh (scanner .forward)) := by
  obtain ⟨last, b, next, hs, hn⟩ := Framing.scanFrom_of_attempt [] h
  obtain rfl : next = .waiting := step_frame hs
  exact hn

lemma readAll_frame {r : Framing.Receiver Scan} (hr : r = .fresh (scanner .forward))
    (hd : Framing.attempt (scanner .forward) .waiting data = some (.frame frame, [])) :
    (r.append data).readAll (scanner .forward) = ([.frame frame], .fresh (scanner .forward)) := by
  have hn : (Framing.Receiver.fresh (scanner .forward)).read (scanner .forward) =
      (none, .fresh (scanner .forward)) := by
    unfold Framing.Receiver.read Framing.Receiver.scanFrom
    rfl
  rw [hr]
  exact Framing.Receiver.readAll_of_some (read_frame hd) (Framing.Receiver.readAll_of_none hn)

def hearFrame (now : Nat) (frame : Frame) (c : Controller (peripheral key)) :
    List Effect × Controller (peripheral key) :=
  let c := { c with timers := c.timers.heard now, receiver := .fresh (scanner .forward) }
  ((((c.takeItem now (.frame frame)).settleSpoilt now).watchGap now).takeUpWork now).flush

section Hearing

variable {c : Controller (peripheral key)} {d : Duty (.paymentReader key)}

lemma step_bytes (hr : c.receiver = .fresh (scanner .forward))
    (hd : Framing.attempt (scanner .forward) .waiting data = some (.frame frame, [])) :
    c.step now (.bytes data) = hearFrame now frame c := by
  have ha : (c.receiver.append data).readAll (peripheral key).scanner = _ := readAll_frame hr hd
  have hh : c.hear now data =
      ((Controller.takeItem now { c with
        timers := c.timers.heard now, receiver := .fresh (scanner .forward) }
        (.frame frame)).settleSpoilt now).watchGap now := by
    simp only [Controller.hear, Controller.drain, ha]
    rfl
  rw [Controller.step, hh]
  rfl

lemma judged_bytes (hr : c.receiver = .fresh (scanner .forward))
    (hd : Framing.attempt (scanner .forward) .waiting data = some (.frame frame, [])) :
    c.judged now (.bytes data) = (c.judgement? (.frame frame)).toList := by
  have ha : (c.receiver.append data).readAll (peripheral key).scanner = _ := readAll_frame hr hd
  simp only [Controller.judged, Controller.judgedDrain, ha, Controller.judgedItems, List.append_nil]
  rfl

lemma judgement_waiting {o : Ongoing (peripheral key).Command} (frame : Frame) (hp : c.phase = .waitingResponse)
    (hc : c.command = some o) : c.judgement? (.frame frame) = some ⟨c.session, o.item, frame⟩ := by
  simp [Controller.judgement?, hp, hc]

def hearReply (now : Nat) (frame : Frame) (d : Duty (.paymentReader key)) : Duty (.paymentReader key) :=
  let (effects, controller) := @hearFrame key now frame d.controller
  { d with
    controller := controller
    heard := d.heard ++ (Controller.judgement? d.controller (.frame frame)).toList
    events := d.events ++ reports effects }

lemma next_bytes (hr : d.controller.receiver = .fresh (scanner .forward))
    (hd : Framing.attempt (scanner .forward) .waiting data = some (.frame frame, [])) :
    d.next (.call now (.bytes data)) = hearReply now frame d := by
  have hs : d.controller.step now (.bytes data) = _ := step_bytes hr hd
  have hj : d.controller.judged now (.bytes data) = _ := judged_bytes hr hd
  simp only [Duty.next, Call.input, hs, hj]
  rfl

end Hearing

end ParkingStation.PaymentReader
