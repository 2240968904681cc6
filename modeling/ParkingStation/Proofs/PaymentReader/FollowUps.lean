import ParkingStation.Proofs.Exchange.NextRequest
import ParkingStation.Proofs.PaymentReader.Balance
import ParkingStation.Proofs.PaymentReader.Requeue
import ParkingStation.Proofs.PaymentReader.Uploads

namespace ParkingStation.Exchange.Controller

variable {p : Peripheral} {limit u : Nat} {a b : Controller p} {o : Ongoing p.Command} {xs : List (Judgement p)}
  {e : Option (Ending p)} {j : Judgement p} {events : List Event} {x : p.Command}

lemma Passage.followedUp (h : Passage limit o u a xs e b) (hj : j ∈ xs) (hv : j.verdict = .answered events [x]) :
    b.Heads x ∧ b.phase = .idle ∧ b.chunk = a.chunk ∧ b.queue.chunks = a.queue.chunks ∧ Sent o.item u b.outbox := by
  obtain ⟨d, -, -, hd, hp, hb⟩ := h.decided hj (by simp [hv, Verdict.decides])
  obtain ⟨-, hq, -, -, hk⟩ := of_shelf hd.shelf
  rw [hv, conclude, followUps_frame] at hb
  have hi : b.phase = .idle := (congrArg (fun s => s.1.1) hb).trans (phase_advance (c := { d with command := none }) hp rfl)
  have hc : b.command = none := congrArg (fun s => s.1.2.1) hb
  have hq : b.queue = (a.queue.pushFront x).2 := hq ▸ congrArg (fun s => s.2.2.1) hb
  have hk : b.chunk = a.chunk := hk ▸ congrArg (fun s => s.2.2.2.2.2) hb
  refine ⟨⟨hc, ?_⟩, hi, hk, ?_, ?_⟩
  · rcases leads_pushFront hc hq with h | ⟨-, h⟩
    · simp [hc] at h
    · exact h
  · rw [hq, WorkQueue.pushFront]
    split <;> rfl
  · apply h.sent
    cases h with
    | underway h => simp [h.running.command] at hc
    | failed | answered => rfl

end ParkingStation.Exchange.Controller

namespace ParkingStation.PaymentReader

open Exchange

variable {key : LoginBlock} {now later : Nat} {c : Controller (peripheral key)} {j : Judgement (peripheral key)}
  {x : Command}

/-- A reply that completes the first step, and the second step: a deduction is made final, and a challenge is answered
by its fold with the key. -/
inductive FirstStep (j : Judgement (peripheral key)) : Command → Prop
  | deduct {amount : UInt32} {reply : Reply} {record : Record} (hc : asked j = .deduct amount)
      (hp : Reply.parse j.frame = .ok reply) (hk : reply.kind = 0x12) (hs : reply.status = .ok)
      (hr : Record.parse reply.data = .ok record) : FirstStep j .flush
  | login {reply : Reply} {response : LoginBlock} (hc : asked j = .login1) (hp : Reply.parse j.frame = .ok reply)
      (hk : reply.kind = 0x02) (hs : reply.status = .ok) (hr : foldKey reply.data key = .ok response) :
      FirstStep j (.login2 response)

lemma FirstStep.verdict (h : FirstStep j x) : j.verdict = .answered [] [x] := by
  change (Session.judge key j.session (asked j) j.frame).1 = _
  cases h with
  | deduct hc hp hk hs hr | login hc hp hk hs hr =>
    simp only [hc, Session.judge, hp, hk, Command.kind, if_true, Session.answer, hs, Session.accept, hr]
    rfl

lemma FirstStep.encodes (h : FirstStep j x) (seq : UInt8) :
    ∃ bytes, Controller.requestBytes (p := peripheral key) x seq = .ok bytes := by
  cases h with
  | deduct => exact request_flush key seq
  | @login reply response =>
    have hl : minFrame + (seq :: response.val).length ≤ maxFrame := by
      rw [List.length_cons, response.property]
      decide
    exact ⟨_, if_pos hl⟩

/-- After the reply that completes the first step of a deduction or of a login, the next request that goes out is the
second step. Without chunks waiting it is in flight at once, and what goes before it is frames of chunks. -/
theorem second_step_goes_next (session : Session) (timing : Settings.Timing)
    {o : Ongoing (peripheral key).Command} {call : Call} {turns : List (Turn (peripheral key))}
    (h : Driven (.fresh (peripheral key) session timing) now [] c)
    (ho : c.Orderly Controller.Patient now [] (.call later call :: turns)) (hc : c.command = some o)
    (hj : j ∈ c.judged later call.input) (hx : FirstStep j x) :
    ∃ pieces, (∀ bytes ∈ pieces, IsPiece (peripheral key) bytes) ∧
      (c.queue.chunks = [] → pieces = [] ∧ (c.step later call.input).2.command = some ⟨x, 1⟩) ∧
      Goes (p := peripheral key) x pieces (transmissions (c.run (.call later call :: turns)).1) := by
  have hk := countable key
  have hs (now : Nat) : (Controller.fresh (peripheral key) session timing).Rested timing.maxRetries now 0 :=
    Controller.rested_fresh (p := peripheral key) session timing
  obtain ⟨hn, hi, ho⟩ := ho
  have hp := (h.passage hk hs rfl hn hi hc).1
  have hu : c.unsent = 0 := by
    refine Controller.unsent_busy fun hp => ?_
    rw [Controller.judged_sending later call.input hp] at hj
    cases hj
  obtain ⟨hb, hidle, hchunk, hchunks, hsent⟩ := hp.followedUp hj hx.verdict
  have hout : transmissions (c.attend later call).outbox = [] := (hu ▸ hsent).silent rfl
  have hnext := h.turn hn hi
  rw [Controller.run, transmissions_append]
  change ∃ pieces, _ ∧ _ ∧ Goes (p := peripheral key) x pieces
    (transmissions (c.step later call.input).1 ++ transmissions ((c.step later call.input).2.run turns).1)
  have hstep : (c.step later call.input).2 = ((c.attend later call).takeUpWork later).flush.2 := by
    rw [Controller.step_eq, Controller.during_eq]
  by_cases hq : c.queue.chunks = []
  · have hnone : (c.attend later call).chunk = none := by
      rw [hchunk]
      exact ((h.later hn).rested hs).matched.exclusive.resolve_left (by simp [hc])
    obtain ⟨hcom, hg, hd⟩ := hb.takeUpWork_alone later hx.encodes hidle hnone (hchunks.trans hq)
    rw [hout, ← Controller.transmissions_step] at hg hd
    refine ⟨[], by simp, fun _ => ⟨rfl, ?_⟩, hg.trans fun hf => ?_⟩
    · rw [hstep]
      exact hcom
    · exact hnext.holds_run hk rfl hs rfl turns (hstep ▸ (hd hf).flush) ho
  · obtain ⟨pieces, hpieces, hg, hd⟩ := hb.takeUpWork later hx.encodes
    rw [hout, List.nil_append, ← Controller.transmissions_step] at hg hd
    obtain ⟨all, ha, hg⟩ := hg.bind hpieces fun hf =>
      hnext.upcoming_run hk rfl hs rfl hx.encodes turns (hstep ▸ (hd hf).flush) ho
    exact ⟨all, ha, fun hn => absurd hn hq, hg⟩

lemma attempt_deducted : Framing.attempt (scanner .forward) .waiting deducted =
    some (.frame ⟨true, 0x12, (deducted.drop 4).take 22⟩, []) := by
  decide +kernel

lemma firstStep_deducted {o : Ongoing (peripheral key).Command} (hr : c.receiver = .fresh (scanner .forward))
    (hp : c.phase = .waitingResponse) (hc : c.command = some o) (ho : o.item = Command.deduct 100) :
    ∃ j ∈ c.judged 0 (.bytes deducted), FirstStep j .flush := by
  obtain ⟨record, hd⟩ : ∃ record, Record.parse ((deducted.drop 6).take 20) = .ok record := ⟨_, rfl⟩
  rw [judged_bytes hr attempt_deducted, judgement_waiting _ hp hc]
  exact ⟨_, List.mem_singleton_self _, .deduct ho rfl rfl rfl hd⟩

theorem flush_before_another_deduction :
    (oneInFlight 200).queue.commands.length = 1 ∧
      ((oneInFlight 200).step 0 (.bytes deducted)).2.command = some ⟨Command.flush, 1⟩ ∧
      Goes (p := peripheral Station.noKey) Command.flush []
        (transmissions ((oneInFlight 200).run [.call 0 (Call.bytes deducted)]).1) := by
  have hc : (oneInFlight 200).command = some ⟨Command.deduct 100, 1⟩ := by decide +kernel
  have hd : Driven _ 0 [] (oneInFlight 200) := driven_oneInFlight (by decide +kernel) (by decide +kernel)
  have ho : (oneInFlight 200).Orderly Controller.Patient 0 [] [.call 0 (.bytes deducted)] :=
    ⟨Nat.le_refl 0, rfl, trivial⟩
  obtain ⟨j, hj, hx⟩ := firstStep_deducted (receiver_fresh (by decide +kernel)) (by decide +kernel) hc rfl
  obtain ⟨pieces, -, hn, hg⟩ := second_step_goes_next {} { interFrameDelay := 0 } hd ho hc hj hx
  obtain ⟨rfl, hs⟩ := hn (by decide +kernel)
  exact ⟨by decide +kernel, hs, hg⟩

def uploadBegun : Controller (peripheral Station.noKey) :=
  (oneInFlight 200).meet (.upload [Chunk.mk .blacklist 0 []])

def chunkFrame : Bytes := [0xaa, 0x31, 0x00, 0x0a, 0x02, 0x01, 0x00, 0x00, 0x5b, 0xb1]

theorem chunk_before_flush :
    Driven (.fresh _ ({} : Session) { interFrameDelay := 0 }) 0 [] uploadBegun ∧
      (∃ j ∈ uploadBegun.judged 0 (.bytes deducted), FirstStep j .flush) ∧
      transmissions (uploadBegun.step 0 (.bytes deducted)).1 = [chunkFrame] ∧
      ∀ seq, Controller.requestBytes (p := peripheral Station.noKey) Command.flush seq ≠ .ok chunkFrame := by
  have hd : Driven _ 0 [] (oneInFlight 200) := driven_oneInFlight (by decide +kernel) (by decide +kernel)
  have hr : uploadBegun.receiver = .fresh (scanner .forward) := receiver_fresh (by decide +kernel)
  have hc : uploadBegun.command = some ⟨Command.deduct 100, 1⟩ := by decide +kernel
  refine ⟨hd.meet _, firstStep_deducted hr (by decide +kernel) hc rfl, ?_, fun seq hb => ?_⟩
  · rw [step_bytes hr attempt_deducted]
    decide +kernel
  · have hf := (separates _).request hb
    cases hf

end ParkingStation.PaymentReader
