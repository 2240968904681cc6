import ParkingStation.Proofs.Exchange.Frames
import ParkingStation.Proofs.PaymentReader.Replies
import ParkingStation.Proofs.PaymentReader.Requeue

/-! The antenna compares the command before it looks at the data. The two readers take the status out of the
data first, so a frame without room for one fails the command in flight. -/

namespace ParkingStation

namespace Antenna

def Answers (command : Command) (frame : Frame) : Prop :=
  frame.category = command.category ∧ frame.command = command.code

lemma judge_foreign {command : Command} {frame : Frame} (minOkTimes : Nat) (s : Session)
    (h : ¬ Answers command frame) : ∃ detail, s.judge minOkTimes command frame = (.unrelated detail, s) := by
  unfold Session.judge Reply.parse
  cases Command.nameOf? frame.category frame.command with
  | none => exact ⟨_, rfl⟩
  | some name =>
    refine ⟨(Error.unexpectedResponse (.command name command.name)).message, ?_⟩
    have hn : ¬ (frame.category = command.category ∧ frame.command = command.code) := h
    simp only [if_neg hn]
    rfl

end Antenna

namespace CardReader

def Answers (command : Command) (frame : Frame) : Prop := command.code = (frame.cm, frame.pm)

def CutShort (frame : Frame) : Prop := (Command.ofCode? frame.cm frame.pm).isSome ∧ frame.data.length < 2

lemma code_of_ofCode? {cm pm : UInt8} {command : Command} (h : Command.ofCode? cm pm = some command) :
    command.code = (cm, pm) := by
  simpa using List.find?_some h

lemma judge_cutShort {frame : Frame} (s : Session) (command : Command) (h : CutShort frame) :
    s.judge command frame = (.refused .noResponse (Error.truncated 2 frame.data.length).message [], s) := by
  obtain ⟨hc, hl⟩ := h
  obtain ⟨other, ho⟩ := Option.isSome_iff_exists.mp hc
  have hp : Reply.parse frame = .error (.truncated 2 frame.data.length) := by
    unfold Reply.parse
    rw [ho]
    rcases hd : frame.data with _ | ⟨a, _ | ⟨b, data⟩⟩
    · rfl
    · rfl
    · simp only [hd, List.length_cons] at hl
      omega
  unfold Session.judge
  rw [hp]
  rfl

lemma judge_foreign {command : Command} {frame : Frame} (s : Session) (h : ¬ Answers command frame)
    (hs : ¬ CutShort frame) : ∃ detail, s.judge command frame = (.unrelated detail, s) := by
  unfold Session.judge Reply.parse
  cases ho : Command.ofCode? frame.cm frame.pm with
  | none => exact ⟨_, rfl⟩
  | some other =>
    have hn : other ≠ command := fun he => h (he ▸ code_of_ofCode? ho)
    obtain ⟨first, second, data, hd⟩ : ∃ first second data, frame.data = first :: second :: data := by
      rcases hd : frame.data with _ | ⟨a, _ | ⟨b, data⟩⟩
      · exact absurd ⟨by simp [ho], by simp [hd]⟩ hs
      · exact absurd ⟨by simp [ho], by simp [hd]⟩ hs
      · exact ⟨a, b, data, rfl⟩
    simp only [hd]
    by_cases hk : frame.kind = 0x50
    · refine ⟨(Mismatch.command other.name command.name).message, ?_⟩
      simp only [hk, if_true, Reply.command]
      exact if_neg hn
    · by_cases hk' : frame.kind = 0x4e
      · refine ⟨(Mismatch.command other.name command.name).message, ?_⟩
        simp only [hk', Reply.command]
        exact if_neg hn
      · refine ⟨(Error.unexpectedResponse (.frameKind frame.kind)).message, ?_⟩
        simp only [hk, hk', if_false]
        rfl

end CardReader

namespace PaymentReader

def Answers (command : Command) (frame : Frame) : Prop := frame.kind = command.kind

lemma judge_foreign {command : Command} {frame : Frame} (key : LoginBlock) (s : Session) (h : ¬ Answers command frame)
    (hs : ¬ CutShort frame) : ∃ detail, s.judge key command frame = (.unrelated detail, s) := by
  unfold Session.judge
  cases hp : Reply.parse frame with
  | error e =>
    obtain rfl := (parse_error hp).resolve_left hs
    exact ⟨_, rfl⟩
  | ok reply =>
    have hk : reply.kind = frame.kind := by
      unfold Reply.parse at hp
      split at hp
      · split at hp <;> cases hp
        rfl
      · cases hp
    refine ⟨_, if_neg ?_⟩
    rw [hk]
    exact h

end PaymentReader

namespace Exchange

namespace Fitting

def Answers : (f : Fitting) → f.peripheral.Command → f.peripheral.Frame → Prop
  | antenna _ => Antenna.Answers
  | cardReader => CardReader.Answers
  | paymentReader _ => PaymentReader.Answers

def CutShort : (f : Fitting) → f.peripheral.Frame → Prop
  | antenna _ => fun _ => False
  | cardReader => CardReader.CutShort
  | paymentReader _ => PaymentReader.CutShort

variable {f : Fitting} {command : f.peripheral.Command} {frame : f.peripheral.Frame}

lemma judge_foreign (session : f.peripheral.Session) (h : ¬ f.Answers command frame) (hs : ¬ f.CutShort frame) :
    ∃ detail, f.peripheral.judge session command frame = (.unrelated detail, session) := by
  cases f with
  | antenna settings => exact Antenna.judge_foreign settings.minOkTimes session h
  | cardReader => exact CardReader.judge_foreign session h hs
  | paymentReader key => exact PaymentReader.judge_foreign key session h hs

lemma judge_cutShort (session : f.peripheral.Session) (command : f.peripheral.Command) (hs : f.CutShort frame) :
    ∃ n < 2, f.peripheral.judge session command frame =
      (.refused .noResponse (Error.truncated 2 n).message [], session) := by
  cases f with
  | antenna settings => exact hs.elim
  | cardReader => exact ⟨_, hs.2, CardReader.judge_cutShort session command hs⟩
  | paymentReader key => exact ⟨_, hs.2, PaymentReader.cutShort_judge key session command hs⟩

end Fitting

/-- A frame that answers another command leaves the controller as it is, with the command in flight and its timers,
exactly if it has room for a status. Otherwise it fails the command in flight as if no reply had come. -/
theorem foreign_frame_passed_over_iff (f : Fitting) (now : Nat) (c : Controller f.peripheral)
    (o : Ongoing f.peripheral.Command) (frame : f.peripheral.Frame) (hp : c.phase = .waitingResponse)
    (hc : c.command = some o) (h : ¬ f.Answers o.item frame) :
    (¬ f.CutShort frame ↔
        (∃ detail, f.peripheral.judge c.session o.item frame = (.unrelated detail, c.session)) ∧
          c.takeItem now (.frame frame) = c) ∧
      (f.CutShort frame → ∃ n < 2,
        f.peripheral.judge c.session o.item frame =
            (.refused .noResponse (Error.truncated 2 n).message [], c.session) ∧
          (c.takeItem now (.frame frame)).phase = .idle ∧ (c.takeItem now (.frame frame)).command = none ∧
          (c.takeItem now (.frame frame)).outbox = c.outbox ++
            [.report (.failed f.peripheral.device (f.peripheral.name o.item) .noResponse
              (Error.truncated 2 n).message)]) := by
  have ht : c.takeItem now (.frame frame) = c.takeReply frame := by simp only [Controller.takeItem, hp, if_true]
  rw [ht]
  refine ⟨⟨fun hs => ?_, ?_⟩, fun hs => ?_⟩
  · obtain ⟨detail, hv⟩ := Fitting.judge_foreign c.session h hs
    refine ⟨⟨detail, hv⟩, ?_⟩
    rw [Controller.takeReply_eq hc hv]
    rfl
  · rintro ⟨⟨detail, hv⟩, -⟩ hs
    obtain ⟨n, -, hr⟩ := Fitting.judge_cutShort c.session o.item hs
    cases hr.symm.trans hv
  · obtain ⟨n, hn, hv⟩ := Fitting.judge_cutShort c.session o.item hs
    refine ⟨n, hn, hv, Controller.phase_takeReply hp hc (by simp [hv]), ?_⟩
    rw [Controller.takeReply_eq hc hv]
    exact ⟨rfl, by simp [Controller.conclude, Controller.report, Controller.reportAll, Controller.answered,
      Controller.advance, Controller.markAnswered, Controller.closeCycle]⟩

def statusAsked : Controller (PaymentReader.peripheral Station.noKey) :=
  ((((Controller.fresh _ ({} : PaymentReader.Session) { interFrameDelay := 0 }).meet
    (.submit PaymentReader.Command.getStatus)).step 0 .woken).2.step 0 (.wrote .completed)).2

theorem card_passed_over :
    statusAsked.phase = .waitingResponse ∧ statusAsked.command = some ⟨PaymentReader.Command.getStatus, 1⟩ ∧
      ¬ Fitting.Answers (.paymentReader Station.noKey) PaymentReader.Command.getStatus ⟨true, 0x10, [1, 0]⟩ ∧
      ¬ Fitting.CutShort (.paymentReader Station.noKey) ⟨true, 0x10, [1, 0]⟩ ∧
      statusAsked.takeItem 0 (.frame ⟨true, 0x10, [1, 0]⟩) = statusAsked := by
  have hp : statusAsked.phase = .waitingResponse := by decide +kernel
  have hc : statusAsked.command = some ⟨PaymentReader.Command.getStatus, 1⟩ := by decide +kernel
  have hn : ¬ PaymentReader.Answers .getStatus ⟨true, 0x10, [1, 0]⟩ := by
    unfold PaymentReader.Answers
    decide
  have hs : ¬ PaymentReader.CutShort ⟨true, 0x10, [1, 0]⟩ := by decide
  exact ⟨hp, hc, hn, hs,
    ((foreign_frame_passed_over_iff (.paymentReader Station.noKey) 0 statusAsked _ _ hp hc hn).1.mp hs).2⟩

theorem cut_short_card_fails_status :
    ¬ Fitting.Answers (.paymentReader Station.noKey) PaymentReader.Command.getStatus ⟨true, 0x10, [1]⟩ ∧
      (PaymentReader.peripheral Station.noKey).judge {} PaymentReader.Command.getStatus ⟨true, 0x10, [1]⟩ =
        (.refused .noResponse "Truncated payload: expected 2 bytes, got 1" [], {}) ∧
      statusAsked.phase = .waitingResponse ∧ statusAsked.command = some ⟨PaymentReader.Command.getStatus, 1⟩ ∧
      (statusAsked.takeItem 0 (.frame ⟨true, 0x10, [1]⟩)).command = none := by
  have hn : ¬ PaymentReader.Answers .getStatus ⟨true, 0x10, [1]⟩ := by
    unfold PaymentReader.Answers
    decide
  have hs : PaymentReader.CutShort ⟨true, 0x10, [1]⟩ := by decide
  have hm : (Error.truncated 2 [(1 : UInt8)].length).message = "Truncated payload: expected 2 bytes, got 1" := by
    decide +kernel
  refine ⟨hn, ?_, by decide +kernel, by decide +kernel, by decide +kernel⟩
  rw [← hm]
  exact PaymentReader.cutShort_judge Station.noKey {} PaymentReader.Command.getStatus hs

end Exchange

end ParkingStation
