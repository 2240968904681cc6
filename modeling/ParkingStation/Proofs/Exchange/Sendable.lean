import ParkingStation.Proofs.Exchange.Conveyance
import ParkingStation.Proofs.Exchange.ScanSwitch
import ParkingStation.Proofs.PaymentReader.Requeue

namespace ParkingStation.Exchange

variable {p : Peripheral}

/-- Every sequence byte gives it a frame, and none that is longer than the line allows. -/
def Sendable (x : p.Command) : Prop :=
  ∀ seq, ∃ bytes, Controller.requestBytes x seq = .ok bytes ∧ bytes.length ≤ p.scanner.limit

def SendablePiece (k : p.Chunk) : Prop :=
  ∀ seq, ∃ bytes, Controller.chunkBytes k seq = .ok bytes ∧ bytes.length ≤ p.scanner.limit

def Frameless (x : p.Command) : Prop := ∀ seq, ∃ err, Controller.requestBytes x seq = .error err

def FollowedUpBy (P : p.Command → Prop) : Prop :=
  ∀ {session command frame events followUps}, (p.judge session command frame).1 = .answered events followUps →
    ∀ x ∈ followUps, P x

namespace Ledger

variable {P : p.Command → Prop} {l m : Ledger p}

lemma Step.line_of_kind (hP : FollowedUpBy P) (s : Step l m) (h : ∀ t ∈ l.line, P t.command) :
    ∀ t ∈ m.line, P t.command := by
  cases s with
  | take hc hw => simpa [Ledger.line, hc, hw] using h
  | unrelated | again | unready | upload => exact h
  | unsendable | refused | dropped | abandoned => exact fun t ht => h t (List.mem_append_right _ ht)
  | requeued hc ha =>
    intro u hu
    rcases line_putFirst hu with rfl | hu
    · exact h u (by simp [Ledger.line, hc])
    · exact h u (List.mem_append_right _ hu)
  | @answered u frame events followUps hc hv =>
    obtain ⟨front, hf, he⟩ := putAllFirst_frame followUps ((l.hear u frame).release u (.answered events followUps))
    intro t ht
    rw [he] at ht
    -- nothing is in flight any more, and only the follow-ups in front are new
    rcases List.mem_append.mp ht with ht | ht
    · cases ht
    · rcases List.mem_append.mp ht with ht | ht
      · exact hP hv _ (hf t ht).2
      · exact h t (List.mem_append_right _ ht)

lemma Steps.line_of_kind (hP : FollowedUpBy P) (s : Steps l m) (h : ∀ t ∈ l.line, P t.command) :
    ∀ t ∈ m.line, P t.command := by
  induction s with
  | refl => exact h
  | tail _ s ih => exact s.line_of_kind hP ih

end Ledger

namespace Controller

variable {now : Nat} {a b c d : Controller p} {xs : List (Judgement p)} {P : p.Command → Prop} {Q : p.Chunk → Prop}

def pieces (c : Controller p) : List p.Chunk := (c.chunk.map (·.item)).toList ++ c.queue.chunks

section Roster

def opening (c : Controller p) : Ledger p where
  session := c.session
  current := c.command.map fun o => ⟨o.item, none⟩
  waiting := c.queue.commands.map fun x => ⟨x, none⟩
  events := reports c.outbox

lemma records_opening (c : Controller p) : Records [] c.opening c :=
  ⟨rfl, by simp [opening, Function.comp_def], by simp [opening, Function.comp_def], rfl⟩

lemma Records.roster {past : List Event} {l : Ledger p} (h : Records past l c) :
    l.line.map (·.command) = c.roster := by
  rw [Ledger.line, List.map_append, h.waiting, Controller.roster, ← h.current]
  cases l.current <;> rfl

lemma Records.forall_roster {past : List Event} {l : Ledger p} (h : Records past l c) :
    (∀ t ∈ l.line, P t.command) ↔ ∀ x ∈ c.roster, P x := by
  simp [← h.roster]

lemma Moves.roster (hP : FollowedUpBy P) (h : Moves (LineMove now) a xs b) (ha : ∀ x ∈ a.roster, P x) :
    ∀ x ∈ b.roster, P x := by
  obtain ⟨m, hs, -, hr⟩ := h.records a.records_opening
  exact hr.forall_roster.mp (hs.line_of_kind hP (a.records_opening.forall_roster.mpr ha))

end Roster

section Pieces

lemma pieces_of_upload (h : d.upload = c.upload) : d.pieces = c.pieces := by
  have hk : d.chunk = c.chunk := congrArg (·.2.2.1) h
  have hq : d.queue.chunks = c.queue.chunks := congrArg (·.2.1) h
  rw [pieces, hk, hq, pieces]

lemma pieces_transmitSpaced (now : Nat) (bytes : Bytes) (c : Controller p) :
    (c.transmitSpaced now bytes).pieces = c.pieces := by
  unfold transmitSpaced
  split <;> rfl

lemma pieces_sendRequest (now : Nat) (c : Controller p) : (c.sendRequest now).pieces = c.pieces := by
  cases hc : c.command with
  | none => simp [sendRequest, hc]
  | some o =>
    cases hb : requestBytes o.item (nextSequence c.seq) with
    | ok bytes =>
      rw [sendRequest_ok hc hb, pieces_transmitSpaced]
      rfl
    | error err =>
      rw [sendRequest_error hc hb]
      rfl

lemma pieces_sendPiece (now : Nat) (c : Controller p) : (c.sendPiece now).pieces ⊆ c.pieces := by
  cases hk : c.chunk with
  | none => simp [sendPiece, hk]
  | some o =>
    cases hb : chunkBytes o.item (nextSequence c.seq) with
    | ok bytes =>
      rw [sendPiece_ok hk hb, pieces_transmitSpaced]
      simp [pieces, hk]
    | error err =>
      rw [sendPiece_error hk hb]
      exact List.nil_subset _

lemma pieces_askAgain (command : p.Command) (c : Controller p) : (c.askAgain command).pieces = c.pieces := by
  simp only [askAgain]
  split
  · split
    · rw [abandon_frame]
      rfl
    · exact pieces_of_upload (upload_pushFront command _)
  · rfl

lemma pieces_repeatOrAbandon (reason : Reason) (detail : String) (c : Controller p) :
    (c.repeatOrAbandon reason detail).pieces ⊆ c.pieces := by
  unfold repeatOrAbandon
  split
  · split
    · exact List.Subset.refl _
    · dsimp only
      split
      · rw [pieces_askAgain]
        exact List.Subset.refl _
      · rw [abandon_frame]
        exact List.Subset.refl _
  · split
    · split
      · exact List.Subset.refl _
      · exact List.nil_subset _
    · exact List.Subset.refl _

lemma pieces_breakCycle (trigger : Trigger) (reason : Reason) (detail : String) (c : Controller p) :
    (c.breakCycle trigger reason detail).pieces ⊆ c.pieces := by
  unfold breakCycle
  split
  · exact pieces_repeatOrAbandon reason detail _
  · exact List.Subset.refl _

lemma pieces_followUps (commands : List p.Command) (c : Controller p) :
    (commands.foldl (fun c command => c.pushFront command) c).pieces = c.pieces := by
  induction commands generalizing c with
  | nil => rfl
  | cons command commands ih => exact (ih _).trans (pieces_of_upload (upload_pushFront command c))

lemma pieces_takeReply (frame : p.Frame) {o : Ongoing p.Command} (hc : c.command = some o) :
    (c.takeReply frame).pieces ⊆ c.pieces := by
  rcases hv : p.judge c.session o.item frame with ⟨verdict, session⟩
  rw [takeReply_eq hc hv]
  cases verdict with
  | unrelated | refused => exact List.Subset.refl _
  | answered events followUps =>
    rw [conclude, pieces_followUps]
    exact List.Subset.refl _
  | unready events =>
    rw [conclude, pieces_askAgain]
    exact List.Subset.refl _
  | again reason detail => exact pieces_repeatOrAbandon reason detail _

lemma pieces_nextPiece (now : Nat) (c : Controller p) (hk : c.chunk = none) :
    (c.nextPiece now).pieces ⊆ c.pieces := by
  unfold nextPiece
  cases hq : c.queue.chunks with
  | nil =>
    simp only [WorkQueue.nextChunk?, hq]
    simp [pieces, hk, advance, report, WorkQueue.endUpload]
  | cons item items =>
    simp only [WorkQueue.nextChunk?, hq]
    refine List.Subset.trans (pieces_sendPiece now _) ?_
    simp [pieces, hk, hq, advance]

lemma pieces_takeChunkReply (now : Nat) (frame : p.Frame) {o : Ongoing p.Chunk} (hk : c.chunk = some o) :
    (c.takeChunkReply now frame).pieces ⊆ c.pieces := by
  simp only [takeChunkReply, hk]
  split
  · exact List.Subset.refl _
  · refine List.Subset.trans (pieces_nextPiece now _ rfl) ?_
    exact List.subset_append_right _ _
  · split
    · exact pieces_sendPiece now _
    · exact List.nil_subset _
  · exact List.nil_subset _

lemma pieces_repeatPiece (now : Nat) (trigger : Trigger) (reason : Reason) (detail : String) (c : Controller p) :
    (c.repeatPiece now trigger reason detail).pieces ⊆ c.pieces := by
  simp only [repeatPiece]
  split
  · exact pieces_sendPiece now _
  · exact List.nil_subset _

lemma Move.pieces (m : Move now a xs b) : b.pieces ⊆ a.pieces := by
  cases m with
  | take hi hc hk hq =>
    obtain ⟨commands, -, rfl, -⟩ := WorkQueue.next?_command hq
    exact List.Subset.refl _
  | takePiece hi hc hk hq =>
    obtain ⟨chunks, hw, rfl⟩ := WorkQueue.next?_chunk hq
    simp [Controller.pieces, hk, hw]
  | request hi hc =>
    rw [pieces_sendRequest]
    exact List.Subset.refl _
  | piece hi hc hk => exact pieces_sendPiece now _
  | fail hp hn => exact pieces_breakCycle _ _ _ a
  | repeatPiece hp ht => exact pieces_repeatPiece now _ _ _ a
  | receive | spoil | forgive | endGap | lapse => exact List.Subset.refl _
  | ack hp =>
    unfold takeAck
    split
    · split
      · rw [pieces_transmitSpaced]
        exact List.Subset.refl _
      · exact List.Subset.refl _
    · exact List.Subset.refl _
  | nak hn =>
    unfold takeNak
    split
    · exact pieces_repeatOrAbandon _ _ _
    · exact List.Subset.refl _
  | reply frame hp hc => exact pieces_takeReply frame hc
  | pieceReply frame hp hk => exact pieces_takeChunkReply now frame hk
  | watch => unfold watchGap; split <;> exact List.Subset.refl _

lemma LineMove.pieces (m : LineMove now a xs b) : b.pieces ⊆ a.pieces := by
  cases m with
  | move m => exact m.pieces
  | hear => exact List.Subset.refl _
  | complete ha =>
    simp only [completeWrite, ha, if_true]
    split <;> exact List.Subset.refl _
  | release =>
    unfold releaseHeld
    split <;> exact List.Subset.refl _

end Pieces

section Unsent

def Unsent (c : Controller p) : Prop := ∀ o, c.command = some o → Frameless o.item → c.phase = .idle

lemma unsent_of_none (h : c.command.map (·.item) = none) : c.Unsent := by
  intro o hc
  simp [hc] at h

lemma Unsent.congr (h : c.Unsent) (hd : d.command.map (·.item) = c.command.map (·.item))
    (hp : c.phase = .idle → d.phase = .idle) : d.Unsent := by
  intro o ho hx
  rw [ho] at hd
  cases hc : c.command with
  | none => simp [hc] at hd
  | some o' =>
    have he : o.item = o'.item := by simpa [hc] using hd
    exact hp (h o' hc (he ▸ hx))

lemma Aloof.command (h : c.Aloof d) : d.command.map (·.item) = c.command.map (·.item) := by
  rcases h with h | ⟨event, -, h⟩
  · exact congrArg (·.2.1) h
  · exact congrArg (·.2.1) h

lemma command_transmitSpaced (now : Nat) (bytes : Bytes) (c : Controller p) :
    (c.transmitSpaced now bytes).command = c.command := by
  unfold transmitSpaced
  split <;> rfl

lemma unsent_sendRequest {o : Ongoing p.Command} (hc : c.command = some o) : (c.sendRequest now).Unsent := by
  cases hb : requestBytes o.item (nextSequence c.seq) with
  | ok bytes =>
    rw [sendRequest_ok hc hb]
    intro o' ho hx
    rw [command_transmitSpaced] at ho
    obtain rfl : (⟨o.item, o.sends + 1⟩ : Ongoing p.Command) = o' := Option.some.inj ho
    obtain ⟨err, he⟩ := hx (nextSequence c.seq)
    cases hb.symm.trans he
  | error err =>
    rw [sendRequest_error hc hb]
    exact unsent_of_none rfl

lemma unsent_repeatOrAbandon (reason : Reason) (detail : String) (hp : c.phase = .idle) :
    (c.repeatOrAbandon reason detail).Unsent :=
  fun _ _ _ => (phase_repeatOrAbandon reason detail c).trans hp

lemma unsent_takeReply {o : Ongoing p.Command} (frame : p.Frame) (h : c.Unsent) (hp : c.phase = .waitingResponse)
    (hc : c.command = some o) : (c.takeReply frame).Unsent := by
  have hi : c.answered.phase = .idle := phase_advance (c := { c with command := none }) hp rfl
  rcases hv : p.judge c.session o.item frame with ⟨verdict, session⟩
  rw [takeReply_eq hc hv]
  rcases conclude_cases o session verdict with ⟨-, he⟩ | hd | ⟨reason, detail, he⟩
  · rw [he]
    exact h.congr rfl id
  · exact fun _ _ _ => (phase_sameLine hd).trans hi
  · rw [he]
    exact unsent_repeatOrAbandon reason detail hi

theorem Move.unsent (m : Move now a xs b) (h : a.Unsent) : b.Unsent := by
  have busy {phase : Phase} (hp : a.phase = phase) (hn : phase ≠ .idle) : a.phase = .idle → b.phase = .idle :=
    fun hi => absurd (hp.symm.trans hi) hn
  -- a cycle ends in the idle phase, and in any other phase what is in flight has a frame, so it may stay there
  cases m with
  | take hi hc hk hq => exact fun _ _ _ => hi
  | takePiece hi hc hk hq => exact unsent_of_none (by simp [hc])
  | request hi hc => exact unsent_sendRequest hc
  | piece hi hc hk => exact unsent_of_none ((aloof_sendPiece now _).command.trans (congrArg _ hc))
  | @fail trigger reason detail hp hn =>
    have ha : a.accepts trigger = true := by simp [accepts, hn]
    simp only [breakCycle, ha, if_true]
    exact unsent_repeatOrAbandon _ _ (phase_advance rfl hn)
  | nak hn =>
    have ha : a.accepts .nakReceived = true := by simp [accepts, hn]
    simp only [takeNak, ha, if_true]
    exact unsent_repeatOrAbandon _ _ (phase_advance rfl hn)
  | repeatPiece hp ht => exact h.congr (aloof_repeatPiece now _ _ _ a).command (busy hp (by simp))
  | pieceReply frame hp hk => exact h.congr (aloof_takeChunkReply frame hk).command (busy hp (by simp))
  | reply frame hp hc => exact unsent_takeReply frame h hp hc
  | receive | spoil | forgive | endGap | lapse => exact h.congr rfl id
  | ack hp =>
    refine h.congr ?_ (busy hp (by simp))
    unfold takeAck
    split
    · split
      · rw [command_transmitSpaced]
        rfl
      · rfl
    · rfl
  | watch => unfold watchGap; split <;> exact h.congr rfl id

theorem LineMove.unsent (m : LineMove now a xs b) (h : a.Unsent) : b.Unsent := by
  cases m with
  | move m => exact m.unsent h
  | hear => exact h.congr rfl id
  | complete ha =>
    refine h.congr ?_ fun hi => by simp [accepts, hi, Phase.next?] at ha
    simp only [completeWrite, ha, if_true]
    split <;> rfl
  | release =>
    unfold releaseHeld
    split <;> exact h.congr rfl id

/-- The command in flight fails instead of being sent: this is reported, nothing is written, and other work goes on. -/
structure FailsUnsent (now : Nat) (o : Ongoing p.Command) (err : Error) (c d : Controller p) : Prop where
  error : requestBytes o.item (nextSequence c.seq) = .error err
  phase : d.phase = .idle
  command : d.command = none
  chunk : d.chunk = c.chunk
  queue : d.queue = c.queue
  timers : d.timers = c.timers
  held : d.held = c.held
  outbox : d.outbox = c.outbox ++ [.report (.failed p.device (p.name o.item) err.reason err.message)]
  goesOn : c.takeUpWork now = d.takeUpWork now

lemma failsUnsent {o : Ongoing p.Command} {err : Error} (now : Nat) (hi : c.phase = .idle) (hc : c.command = some o)
    (he : requestBytes o.item (nextSequence c.seq) = .error err) :
    c.FailsUnsent now o err ((c.advance .commandEnqueued).sendRequest now) := by
  have hs : (c.advance .commandEnqueued).phase = .sendingRequest := phase_advance hi rfl
  have hr : (c.advance .commandEnqueued).sendRequest now = _ := sendRequest_error hc he
  have hd : ((c.advance .commandEnqueued).sendRequest now).phase = .idle := by
    rw [hr]
    exact phase_advance (c := { c.advance .commandEnqueued with command := none, seq := nextSequence c.seq }) hs rfl
  have hw : c.takeUpWork now = ((c.advance .commandEnqueued).sendRequest now).takeUpWork now := by
    rw [takeUpWork, dif_pos hi]
    split
    · exact dif_pos hd
    all_goals simp_all
  refine ⟨he, hd, ?_, ?_, ?_, ?_, ?_, ?_, hw⟩
  all_goals
    rw [hr]
    rfl

end Unsent

structure Stocked (P : p.Command → Prop) (Q : p.Chunk → Prop) (c : Controller p) : Prop where
  commands : ∀ x ∈ c.roster, P x
  pieces : ∀ k ∈ c.pieces, Q k
  unsent : c.Unsent

theorem Moves.stocked (hP : FollowedUpBy P) (h : Moves (LineMove now) a xs b) (ha : a.Stocked P Q) :
    b.Stocked P Q where
  commands := h.roster hP ha.commands
  pieces := h.keep (P := fun c => ∀ k ∈ c.pieces, Q k) (fun m hc k hk => hc k (m.pieces hk)) ha.pieces
  unsent := h.keep LineMove.unsent ha.unsent

structure Ready (P : p.Command → Prop) (Q : p.Chunk → Prop) (c : Controller p) : Prop extends c.Stocked P Q where
  sent : ∀ o, c.command = some o → ¬ Frameless o.item

lemma ready_fresh (session : p.Session) (timing : Settings.Timing) : (fresh p session timing).Ready P Q :=
  ⟨⟨by simp [roster, fresh], by simp [Controller.pieces, fresh], unsent_of_none rfl⟩, by simp [fresh]⟩

lemma Stocked.ready_takeUpWork (h : (c.takeUpWork now).Stocked P Q) : (c.takeUpWork now).Ready P Q :=
  ⟨h, fun o hc hx => Option.some_ne_none o (hc.symm.trans (takeUpWork_idle (h.unsent o hc hx)).1)⟩

lemma Stocked.ready_loseLine (h : c.Stocked P Q) (detail : String) : (c.loseLine detail).Ready P Q := by
  have hq : (c.loseLine detail).queue.commands = c.queue.commands := by
    simp only [loseLine]
    split <;> rfl
  have hk : (c.loseLine detail).pieces ⊆ c.pieces := by
    simp only [loseLine]
    split
    · exact List.nil_subset _
    · exact List.Subset.refl _
  refine ⟨⟨fun x hx => h.commands x ?_, fun k hm => h.pieces k (hk hm), unsent_of_none rfl⟩, fun _ hc => ?_⟩
  · rw [roster, hq] at hx
    exact List.mem_append_right _ hx
  · cases hc

theorem Ready.step (hP : FollowedUpBy P) (h : c.Ready P Q) (now : Nat) (input : Input) :
    (c.step now input).2.Ready P Q := by
  have hs (hi : ∀ detail, input ≠ .disconnected detail) : (c.during now input).Stocked P Q :=
    (moves_during now c hi).stocked hP h.toStocked
  have hd : (c.during now input).Ready P Q := by
    cases input with
    | woken | bytes | wrote | tick => exact (hs nofun).ready_takeUpWork
    | disconnected detail => exact h.ready_loseLine detail
  rw [step_eq]
  exact ⟨⟨hd.commands, hd.pieces, hd.unsent⟩, hd.sent⟩

lemma Ready.notice (h : c.Ready P Q) : { c with queue := c.queue.takeNotice.2 }.Ready P Q :=
  ⟨⟨h.commands, h.pieces, h.unsent⟩, h.sent⟩

lemma Ready.instruct (h : c.Ready P Q) (session : p.Session) : { c with session := session }.Ready P Q :=
  ⟨⟨h.commands, h.pieces, h.unsent⟩, h.sent⟩

lemma Ready.submit {x : p.Command} (h : c.Ready P Q) (hx : P x) : (c.submit x).Ready P Q := by
  refine ⟨⟨?_, h.pieces, h.unsent⟩, h.sent⟩
  have hr : (c.submit x).roster = c.roster ++ [x] := (List.append_assoc ..).symm
  simpa [hr, or_imp, forall_and, hx] using h.commands

lemma Ready.submitUpload {ks : List p.Chunk} (h : c.Ready P Q) (hk : ∀ k ∈ ks, Q k) :
    (c.submitUpload ks).2.Ready P Q := by
  simp only [Controller.submitUpload, WorkQueue.startUpload]
  split
  · rename_i count queue hq
    split at hq
    · cases hq
    · obtain ⟨-, rfl⟩ := Prod.mk.inj (Except.ok.inj hq)
      refine ⟨⟨h.commands, ?_, h.unsent⟩, h.sent⟩
      have hr : (c.chunk.map (·.item)).toList ++ (c.queue.chunks ++ ks) = c.pieces ++ ks :=
        (List.append_assoc ..).symm
      intro k hm
      rw [Controller.pieces, hr] at hm
      exact (List.mem_append.mp hm).elim (h.pieces k) (hk k)
  · exact h

end Controller

end ParkingStation.Exchange
