import ParkingStation.Proofs.Exchange.ScanSwitch
import ParkingStation.Proofs.PaymentReader.FollowUps

namespace ParkingStation

def Event.isUploadFailed : Event → Bool
  | .uploadFailed .. => true
  | _ => false

def Antenna.Command.powers : Antenna.Command → Bool
  | .setAntennaData .. => true
  | _ => false

def CardReader.Command.powers : CardReader.Command → Bool
  | .init => true
  | _ => false

namespace Exchange

namespace Fitting

def powers : (f : Fitting) → f.peripheral.Command → Bool
  | antenna _ => Antenna.Command.powers
  | cardReader => CardReader.Command.powers
  | paymentReader _ => fun _ => false

def powered : (f : Fitting) → f.peripheral.Session → Bool
  | antenna _ => Antenna.Session.powered
  | cardReader => CardReader.Session.powered
  | paymentReader _ => fun _ => false

def owes : (f : Fitting) → f.peripheral.Session → Bool
  | antenna _ | cardReader => fun _ => false
  | paymentReader _ => fun s => s.pendingDeduct.isSome

end Fitting

/-- Nothing is left half-done by a call that follows the loss of the line: all that was accepted is given up as it would
be for any other fault, and nothing goes on. -/
structure Settles (f : Fitting) (c : Controller f.peripheral) (after : List Effect × Controller f.peripheral) :
    Prop where
  fault : (reports after.1).filter (·.isFault) =
    [.fault f.peripheral.device (c.command.elim "link" fun o => f.peripheral.name o.item) .disconnected]
  power : ∀ o, c.command = some o → f.powers o.item = true →
    .power f.peripheral.device false ∈ reports after.1 ∧ f.powered after.2.session = false
  scan : ∀ o, c.command = some o → f.switch.polls o.item = true → f.switch.isOn after.2.session = false
  deduction : f.owes c.session = true →
    (∃ reason detail, .failed f.peripheral.device "CardDeduct" reason detail ∈ reports after.1) ∧
      f.owes after.2.session = false
  upload : c.queue.uploading = true → ((reports after.1).filter (·.isUploadFailed)).length = 1
  uploads : after.2.queue.uploading = false ∧ after.2.chunk = none
  timers : ∀ timer, after.2.timers.isRunning timer = false

namespace Controller

variable {p : Peripheral}

def cutUpload (detail : String) (c : Controller p) : List Event :=
  if c.chunk.isSome then [.uploadFailed p.device c.chunksDone .disconnected detail] else []

def parting (detail : String) (c : Controller p) : List Event :=
  c.cutUpload detail ++ [.fault p.device (c.command.elim "link" fun o => p.name o.item) .disconnected]

lemma step_disconnected (now : Nat) (detail : String) (c : Controller p) (ho : c.outbox = []) :
    c.step now (.disconnected detail) =
      ((c.parting detail).map .report,
        { c with
          timers := c.timers.stopAll, held := none, spoilt := none, command := none, chunk := none
          chunksDone := if c.chunk.isSome then 0 else c.chunksDone
          queue := if c.chunk.isSome then c.queue.endUpload else c.queue
          outbox := [] }) := by
  cases hk : c.chunk with
  | none => simp [step, loseLine, flush, closeCycle, report, parting, cutUpload, hk, ho]
  | some o => simp [step, loseLine, flush, closeCycle, report, abortUpload, parting, cutUpload, hk, ho]

lemma mem_parting {detail : String} {c : Controller p} {event : Event} (h : event ∈ c.parting detail) :
    event.isFault = true ∨ event.isUploadFailed = true := by
  unfold parting cutUpload at h
  split at h <;> simp only [List.mem_append, List.mem_singleton, List.nil_append] at h
  · rcases h with rfl | rfl
    · exact .inr rfl
    · exact .inl rfl
  · subst h
    exact .inl rfl

lemma faults_parting (detail : String) (c : Controller p) :
    (c.parting detail).filter (·.isFault) =
      [.fault p.device (c.command.elim "link" fun o => p.name o.item) .disconnected] := by
  unfold parting cutUpload
  split <;> rfl

lemma uploads_parting (detail : String) (c : Controller p) :
    ((c.parting detail).filter (·.isUploadFailed)).length = if c.chunk.isSome then 1 else 0 := by
  unfold parting cutUpload
  split <;> rfl

end Controller

/-- When the line is lost, the command in flight is given up with one fault, an upload fails if a chunk of it is in
flight, and nothing else is reported or changed but that all waiting is over. So everything is settled exactly if the
command in flight had nothing to undo, no deduction waited for its flush, and no upload only waited for its turn. -/
theorem settled_on_line_loss_iff (f : Fitting) (session : f.peripheral.Session) (timing : Settings.Timing)
    (turns : List (Turn f.peripheral)) (now : Nat) (detail : String) :
    let c := ((Controller.fresh f.peripheral session timing).run turns).2
    let after := c.step now (.disconnected detail)
    (after.1 = (c.parting detail).map .report ∧ after.2.session = c.session ∧
        after.2.queue.commands = c.queue.commands ∧ after.2.command = none ∧ after.2.chunk = none ∧
        after.2.held = none ∧ (∀ timer, after.2.timers.isRunning timer = false) ∧
        (after.2.queue.uploading = true ↔ c.queue.uploading = true ∧ c.chunk = none)) ∧
      (Settles f c after ↔
        (∀ o, c.command = some o →
            f.powers o.item = false ∧ (f.switch.polls o.item = true → f.switch.isOn c.session = false)) ∧
          f.owes c.session = false ∧ (c.queue.uploading = true → c.chunk.isSome)) := by
  intro c after
  have ho : c.outbox = [] := Controller.after_outbox _ rfl turns
  have he : after = _ := Controller.step_disconnected now detail c ho
  clear_value after
  subst he
  have ht (timer : Timer) : c.timers.stopAll.isRunning timer = false := by cases timer <;> rfl
  refine ⟨⟨rfl, rfl, ?_, rfl, rfl, rfl, ht, ?_⟩, fun h => ⟨fun o hc => ⟨?_, h.scan o hc⟩, ?_, ?_⟩, ?_⟩
  · dsimp only
    split <;> rfl
  · cases hk : c.chunk <;> simp [WorkQueue.endUpload]
  · by_contra hp
    have hm := (h.power o hc (by simpa using hp)).1
    simp only [reports_map_report] at hm
    rcases Controller.mem_parting hm with hf | hf <;> cases hf
  · by_contra hp
    obtain ⟨⟨reason, text, hm⟩, -⟩ := h.deduction (by simpa using hp)
    simp only [reports_map_report] at hm
    rcases Controller.mem_parting hm with hf | hf <;> cases hf
  · intro hu
    have hl := h.upload hu
    simp only [reports_map_report, Controller.uploads_parting] at hl
    by_contra hk
    simp [hk] at hl
  · rintro ⟨hc, hd, hu⟩
    refine ⟨?_, fun o ho hp => ?_, fun o ho hp => (hc o ho).2 hp, fun hp => ?_, fun hp => ?_, ⟨?_, rfl⟩, ht⟩
    · rw [reports_map_report]
      exact Controller.faults_parting detail c
    · cases (hc o ho).1.symm.trans hp
    · cases hd.symm.trans hp
    · rw [reports_map_report, Controller.uploads_parting, if_pos (hu hp)]
    · cases hk : c.queue.uploading with
      | false => dsimp only; split <;> simp [WorkQueue.endUpload, hk]
      | true => simp [hu hk, WorkQueue.endUpload]

end Exchange

namespace PaymentReader

open Exchange

def twoRequested : List (Turn (peripheral Station.noKey)) :=
  [.demand (.instruct Session.startScanning), .demand (.submit (Command.deduct 100)),
    .demand (.submit (Command.deduct 200)), .call 0 .woken, .call 0 (.wrote .completed), .call 0 (.bytes deducted)]

def flushing : Controller (peripheral Station.noKey) := ((oneInFlight 200).step 0 (.bytes deducted)).2

theorem charge_left_pending_by_line_loss :
    flushing = ((Controller.fresh _ ({} : Session) { interFrameDelay := 0 }).run twoRequested).2 ∧
      flushing.command = some ⟨Command.flush, 1⟩ ∧ flushing.session.pendingDeduct.isSome ∧
      reports (flushing.step 0 (.disconnected "gone")).1 = [.fault .paymentReader "CardFlush" .disconnected] ∧
      (flushing.step 0 (.disconnected "gone")).2.session.pendingDeduct = flushing.session.pendingDeduct ∧
      ¬ Settles (.paymentReader Station.noKey) flushing (flushing.step 0 (.disconnected "gone")) := by
  have hr : (oneInFlight 200).receiver = .fresh (scanner .forward) := receiver_fresh (by decide +kernel)
  have hf : flushing = (hearFrame 0 ⟨true, 0x12, (deducted.drop 4).take 22⟩ (oneInFlight 200)).2 :=
    congrArg Prod.snd (step_bytes hr attempt_deducted)
  refine ⟨rfl, ?_⟩
  rw [hf]
  refine ⟨by decide +kernel, by decide +kernel, by decide +kernel, by decide +kernel, fun h => ?_⟩
  exact absurd (h.deduction (by decide +kernel)).2 (by decide +kernel)

end PaymentReader

end ParkingStation
