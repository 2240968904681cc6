import ParkingStation.Proofs.Exchange.Frames
import ParkingStation.Proofs.Exchange.Ledger

/-! Every run of a controller can be entered in a ledger: what happens to its commands is nothing but steps of
the ledger, and the events it reports are those of the ledger, in order. -/

namespace ParkingStation.Exchange

variable {p : Peripheral} {now : Nat} {past : List Event} {l m : Ledger p}

namespace Controller

variable {c d : Controller p}

def desk (c : Controller p) : p.Session × Option p.Command × List p.Command × Nat × List Event :=
  (c.session, c.command.map (·.item), c.queue.commands, c.polls, reports c.outbox)

structure Records (past : List Event) (l : Ledger p) (c : Controller p) : Prop where
  session : l.session = c.session
  current : l.current.map (·.command) = c.command.map (·.item)
  waiting : l.waiting.map (·.command) = c.queue.commands
  events : l.events = past ++ reports c.outbox

lemma Records.of_desk (h : Records past l c) (hd : d.desk = c.desk) : Records past l d := by
  simp only [desk, Prod.mk.injEq] at hd
  obtain ⟨hs, hc, hw, -, he⟩ := hd
  exact ⟨h.session.trans hs.symm, h.current.trans hc.symm, h.waiting.trans hw.symm, he ▸ h.events⟩

def Enters (past : List Event) (l : Ledger p) (xs : List (Judgement p)) (c : Controller p) : Prop :=
  ∃ m, l.Steps m ∧ m.heard = l.heard ++ xs ∧ Records past m c

lemma Records.enters (h : Records past l c) (hd : d.desk = c.desk) : Enters past l [] d :=
  ⟨l, .refl, (List.append_nil _).symm, h.of_desk hd⟩

lemma Enters.after {xs ys : List (Judgement p)} (h : Enters past m xs c) (s : l.Steps m)
    (hm : m.heard = l.heard ++ ys) : Enters past l (ys ++ xs) c := by
  obtain ⟨n, hs, hn, hr⟩ := h
  exact ⟨n, s.trans hs, by rw [hn, hm, List.append_assoc], hr⟩

lemma Records.ticket {o : Ongoing p.Command} (h : Records past l c) (hc : c.command = some o) :
    ∃ t, l.current = some t ∧ t.command = o.item := by
  have := h.current
  rw [hc] at this
  cases hl : l.current with
  | none => simp [hl] at this
  | some t => exact ⟨t, rfl, by simpa [hl] using this⟩

lemma desk_transmitSpaced (now : Nat) (bytes : Bytes) (c : Controller p) :
    (c.transmitSpaced now bytes).desk = c.desk := by
  rcases transmitSpaced_cases now bytes c with ⟨-, he⟩ | ⟨wait, -, he⟩ <;> rw [he] <;> simp [desk, transmit]

def Aloof (c d : Controller p) : Prop :=
  d.desk = c.desk ∨ ∃ event, event.isUpload = true ∧ d.desk = (c.report event).desk

lemma Aloof.congr {e : Controller p} (h : c.Aloof d) (he : c.desk = e.desk) : e.Aloof d := by
  refine h.imp (·.trans he) fun ⟨event, hf, hd⟩ => ⟨event, hf, hd.trans ?_⟩
  simp only [desk, report, reports_append, Prod.mk.injEq] at he ⊢
  exact ⟨he.1, he.2.1, he.2.2.1, he.2.2.2.1, by rw [he.2.2.2.2]⟩

lemma Records.aloof (h : Records past l c) (ha : c.Aloof d) : Enters past l [] d := by
  rcases ha with ha | ⟨event, he, ha⟩
  · exact h.enters ha
  · have hr : Records past { l with events := l.events ++ [event] } (c.report event) :=
      ⟨h.session, h.current, h.waiting, by simp [report, h.events]⟩
    exact ⟨_, (Ledger.Step.upload event he).steps, by simp, hr.of_desk ha⟩

lemma aloof_abortUpload (reason : Reason) (detail : String) (c : Controller p) :
    c.Aloof (c.abortUpload reason detail) :=
  .inr ⟨.uploadFailed p.device c.chunksDone reason detail, rfl, rfl⟩

lemma aloof_sendPiece (now : Nat) (c : Controller p) : c.Aloof (c.sendPiece now) := by
  simp only [sendPiece]
  split
  · exact .inl rfl
  · split
    · exact .inl (desk_transmitSpaced now _ _)
    · exact aloof_abortUpload _ _ _

lemma aloof_nextPiece (now : Nat) (c : Controller p) : c.Aloof (c.nextPiece now) := by
  unfold nextPiece
  split
  · rename_i item queue hn
    have hq : queue.commands = c.queue.commands := by
      unfold WorkQueue.nextChunk? at hn
      split at hn <;> simp at hn
      simp [← hn.2]
    refine (aloof_sendPiece now _).congr ?_
    simp [desk, advance, hq]
  · exact .inr ⟨.uploaded p.device c.chunksDone, rfl, rfl⟩

lemma aloof_takeChunkReply {o : Ongoing p.Chunk} (frame : p.Frame) (hk : c.chunk = some o) :
    c.Aloof (c.takeChunkReply now frame) := by
  simp only [takeChunkReply, hk]
  split
  · exact .inl rfl
  · exact aloof_nextPiece now _
  · split
    · exact aloof_sendPiece now _
    · exact aloof_abortUpload _ _ _
  · exact aloof_abortUpload _ _ _

lemma aloof_repeatPiece (now : Nat) (trigger : Trigger) (reason : Reason) (detail : String) (c : Controller p) :
    c.Aloof (c.repeatPiece now trigger reason detail) := by
  simp only [repeatPiece]
  split
  · exact aloof_sendPiece now _
  · exact aloof_abortUpload _ _ _

lemma Records.abandon {t : Ticket p} (h : Records past l c) (hl : l.current = some t) (reason : Reason) :
    Enters past l [] ({ c with command := none }.abandon t.command reason) := by
  rw [abandon_frame]
  refine ⟨l.giveUp t reason, (Ledger.Step.abandoned reason hl).steps, by simp [Ledger.giveUp, Ledger.release], ?_⟩
  exact ⟨congrArg (fun s => (p.giveUp s t.command reason).2) h.session, rfl, h.waiting,
    by simp [Ledger.giveUp, Ledger.release, Fate.events, h.events, h.session]⟩

lemma waiting_putFirst {t : Ticket p} {queue : WorkQueue p.Command p.Chunk}
    (h : l.waiting.map (·.command) = queue.commands) :
    (l.putFirst t).waiting.map (·.command) = (queue.pushFront t.command).2.commands := by
  have hh : queue.commands.head? = l.waiting.head?.map (·.command) := by rw [← h, List.head?_map]
  unfold Ledger.putFirst WorkQueue.pushFront
  rw [hh]
  split
  · exact h
  · simp [h]

lemma waiting_putAllFirst (commands : List p.Command) {queue : WorkQueue p.Command p.Chunk}
    (h : l.waiting.map (·.command) = queue.commands) :
    (l.putAllFirst commands).waiting.map (·.command) =
      (commands.reverse.foldl (fun queue command => (queue.pushFront command).2) queue).commands := by
  unfold Ledger.putAllFirst
  induction commands.reverse generalizing l queue with
  | nil => exact h
  | cons command commands ih => exact ih (waiting_putFirst (t := ⟨command, none⟩) h)

lemma Records.putFirst {t : Ticket p} (h : Records past l c) : Records past (l.putFirst t) (c.pushFront t.command) := by
  have hw := waiting_putFirst (t := t) h.waiting
  rcases Ledger.putFirst_cases t l with ⟨-, he⟩ | he <;> rw [he] at hw ⊢
  · exact ⟨h.session, h.current, hw, h.events⟩
  · exact ⟨h.session, h.current, hw, h.events⟩

lemma Records.askAgain {t : Ticket p} (h : Records past l c) (hl : l.current = some t)
    (ha : p.asksAgain c.session t.command = true) :
    Enters past l [] ({ c with command := none }.askAgain t.command) := by
  simp only [Controller.askAgain, ha, if_true]
  split
  · exact Records.abandon (c := { c with polls := c.polls + 1 }) ⟨h.session, h.current, h.waiting, h.events⟩ hl _
  · refine ⟨{ l with current := none }.putFirst t, (Ledger.Step.requeued hl (h.session ▸ ha)).steps, ?_, ?_⟩
    · rcases Ledger.putFirst_cases t { l with current := none } with ⟨-, he⟩ | he <;> simp [he]
    · exact Records.putFirst (c := { c with command := none, polls := c.polls + 1 })
        ⟨h.session, rfl, h.waiting, h.events⟩

lemma Records.repeatOrAbandon (reason : Reason) (detail : String) (h : Records past l c) :
    Enters past l [] (c.repeatOrAbandon reason detail) := by
  unfold Controller.repeatOrAbandon
  split
  · rename_i o hc
    obtain ⟨t, hl, ht⟩ := h.ticket hc
    split
    · exact h.enters rfl
    · simp only [← ht]
      split
      · rename_i ha
        exact h.askAgain hl ha
      · exact h.abandon hl reason
  · split
    · split
      · exact h.enters rfl
      · exact h.aloof (aloof_abortUpload reason detail c)
    · exact h.enters rfl

lemma Records.hear {t : Ticket p} {frame : p.Frame} {verdict : Verdict p.Command} {session : p.Session}
    (h : Records past l c) (hv : p.judge l.session t.command frame = (verdict, session)) :
    Records past (l.hear t frame) { c with session := session } :=
  ⟨congrArg Prod.snd hv, h.current, h.waiting, h.events⟩

lemma Records.unready {o : Ongoing p.Command} {t : Ticket p} {frame : p.Frame} {session : p.Session}
    {events : List Event} (h : Records past l c) (hc : c.command = some o) (hl : l.current = some t)
    (ht : t.command = o.item) (hv : p.judge l.session t.command frame = (.unready events, session)) :
    Enters past l [⟨l.session, t.command, frame⟩] (c.conclude o session (.unready events)) := by
  have hr := h.hear hv
  have hv1 : (p.judge l.session t.command frame).1 = .unready events := congrArg Prod.fst hv
  have hk : Records past { l.hear t frame with events := l.events ++ events }
      { { c.answered with session := session }.reportAll events with command := some o } := by
    refine ⟨hr.session, by rw [← hc]; exact hr.current, hr.waiting, ?_⟩
    simp [h.events, reportAll, answered, advance, markAnswered, closeCycle]
  cases ha : p.asksAgain session t.command with
  | true =>
    have hs := (Ledger.Step.unready hl hv1 (by rw [hr.session]; exact ha)).steps
    have he := (hk.askAgain hl ha).after hs (m := { l.hear t frame with events := l.events ++ events }) rfl
    simpa [conclude, ht] using! he
  | false =>
    refine ⟨_, (Ledger.Step.dropped hl hv1 (by rw [hr.session]; exact ha)).steps, rfl, ?_⟩
    have ha' : p.asksAgain ({ c.answered with session := session }.reportAll events).session o.item = false := ht ▸ ha
    simp only [conclude, Controller.askAgain, ha', Bool.false_eq_true, if_false]
    exact ⟨hr.session, rfl, hr.waiting, hk.events⟩

lemma Records.answered {o : Ongoing p.Command} {t : Ticket p} {frame : p.Frame} {session : p.Session}
    {events : List Event} {followUps : List p.Command} (h : Records past l c) (hl : l.current = some t)
    (hv : p.judge l.session t.command frame = (.answered events followUps, session)) :
    Enters past l [⟨l.session, t.command, frame⟩] (c.conclude o session (.answered events followUps)) := by
  have hr := h.hear hv
  refine ⟨_, (Ledger.Step.answered hl (congrArg Prod.fst hv)).steps, Ledger.heard_putAllFirst _ _, ?_⟩
  have hw := waiting_putAllFirst followUps
    (l := (l.hear t frame).release t (.answered events followUps)) hr.waiting
  obtain ⟨front, -, he⟩ := Ledger.putAllFirst_frame followUps
    ((l.hear t frame).release t (.answered events followUps))
  rw [he] at hw ⊢
  simp only [conclude, followUps_frame]
  refine ⟨hr.session, rfl, hw, ?_⟩
  simp [Ledger.release, Ledger.hear, Fate.events, h.events, reportAll, Controller.answered, advance, markAnswered,
    closeCycle]

lemma Records.refused {o : Ongoing p.Command} {t : Ticket p} {frame : p.Frame} {session : p.Session} {reason : Reason}
    {detail : String} {events : List Event} (h : Records past l c) (hl : l.current = some t) (ht : t.command = o.item)
    (hv : p.judge l.session t.command frame = (.refused reason detail events, session)) :
    Enters past l [⟨l.session, t.command, frame⟩] (c.conclude o session (.refused reason detail events)) := by
  have hr := h.hear hv
  refine ⟨_, (Ledger.Step.refused hl (congrArg Prod.fst hv)).steps, rfl, hr.session, rfl, hr.waiting, ?_⟩
  simp [conclude, Ledger.release, Ledger.hear, Fate.events, h.events, report, reportAll, Controller.answered, advance,
    markAnswered, closeCycle, ht]

lemma Records.takeReply {o : Ongoing p.Command} (frame : p.Frame) (h : Records past l c) (hc : c.command = some o) :
    Enters past l [⟨c.session, o.item, frame⟩] (c.takeReply frame) := by
  obtain ⟨t, hl, ht⟩ := h.ticket hc
  rcases hv : p.judge c.session o.item frame with ⟨verdict, session⟩
  rw [takeReply_eq hc hv, ← h.session, ← ht]
  rw [← h.session, ← ht] at hv
  have hr := h.hear hv
  cases verdict with
  | unrelated detail => exact ⟨_, (Ledger.Step.unrelated hl (congrArg Prod.fst hv)).steps, rfl, hr⟩
  | again reason detail =>
    have hk : Records past (l.hear t frame) { c.answered with session := session, command := some o } :=
      ⟨hr.session, by rw [← hc]; exact hr.current, hr.waiting, hr.events⟩
    exact (hk.repeatOrAbandon reason detail).after (Ledger.Step.again hl (congrArg Prod.fst hv)).steps rfl
  | unready events => exact h.unready hc hl ht hv
  | refused reason detail events => exact h.refused hl ht hv
  | answered events followUps => exact h.answered hl hv

lemma Records.sendRequest {o : Ongoing p.Command} (h : Records past l c) (hc : c.command = some o) :
    Enters past l [] (c.sendRequest now) := by
  obtain ⟨t, hl, ht⟩ := h.ticket hc
  cases hb : requestBytes o.item (nextSequence c.seq) with
  | ok bytes =>
    rw [sendRequest_ok hc hb]
    refine h.enters ((desk_transmitSpaced now bytes _).trans ?_)
    simp [desk, hc]
  | error err =>
    rw [sendRequest_error hc hb, ← ht]
    refine ⟨_, (Ledger.Step.unsendable hl (ht ▸ hb)).steps, by simp [Ledger.release], ?_⟩
    exact ⟨h.session, rfl, h.waiting, by simp [Ledger.release, Fate.events, h.events, report, advance]⟩

theorem Move.records {xs : List (Judgement p)} {a b : Controller p} (m : Move now a xs b) (h : Records past l a) :
    Enters past l xs b := by
  cases m with
  | @take item queue hi hc hk hq =>
    obtain ⟨commands, hw, rfl, -⟩ := WorkQueue.next?_command hq
    have hl : l.current = none := by simpa [hc] using h.current
    have hm := h.waiting.trans hw
    cases he : l.waiting with
    | nil => simp [he] at hm
    | cons t rest =>
      rw [he] at hm
      simp only [List.map_cons, List.cons.injEq] at hm
      refine ⟨_, (Ledger.Step.take hl he).steps, by simp, h.session, ?_, hm.2, h.events⟩
      simp [hm.1]
  | @takePiece item queue hi hc hk hq =>
    obtain ⟨chunks, -, rfl⟩ := WorkQueue.next?_chunk hq
    exact h.enters rfl
  | request hi hc => exact Records.sendRequest (h.of_desk rfl) hc
  | piece hi hc hk => exact h.aloof ((aloof_sendPiece now _).congr rfl)
  | @fail trigger reason detail hp hn =>
    have ha : a.accepts trigger = true := by simp [accepts, hn]
    simp only [breakCycle, ha, if_true]
    exact Records.repeatOrAbandon reason detail (h.of_desk rfl)
  | repeatPiece hp ht => exact h.aloof (aloof_repeatPiece now _ _ _ a)
  | receive | spoil | forgive | endGap | lapse => exact h.enters rfl
  | ack hp =>
    unfold takeAck
    split
    · split
      · exact h.enters (desk_transmitSpaced now _ _)
      · exact h.enters rfl
    · exact h.enters rfl
  | nak hn =>
    unfold takeNak
    split
    · exact Records.repeatOrAbandon _ _ (h.of_desk rfl)
    · exact h.enters rfl
  | reply frame hp hc => exact h.takeReply frame hc
  | pieceReply frame hp hk => exact h.aloof (aloof_takeChunkReply frame hk)
  | watch => unfold watchGap; split <;> exact h.enters rfl

theorem LineMove.records {xs : List (Judgement p)} {a b : Controller p} (m : LineMove now a xs b)
    (h : Records past l a) : Enters past l xs b := by
  cases m with
  | move m => exact m.records h
  | hear => exact h.enters rfl
  | complete ha =>
    simp only [completeWrite, ha, if_true]
    split <;> exact h.enters rfl
  | release =>
    unfold releaseHeld
    split
    · exact h.enters (by simp [desk, transmit, stopTimer])
    · exact h.enters rfl

lemma Moves.records {xs : List (Judgement p)} {a b : Controller p} (m : Moves (LineMove now) a xs b)
    (h : Records past l a) : Enters past l xs b := by
  induction m with
  | refl => exact h.enters rfl
  | tail _ m ih =>
    obtain ⟨m', hs, hh, hr⟩ := ih
    exact (m.records hr).after hs hh

lemma Records.meet (h : Records past l c) (demand : Demand p) : Records past (l.meet demand) (c.meet demand) := by
  cases demand with
  | submit command =>
    refine ⟨h.session, h.current, ?_, h.events⟩
    simp [Ledger.meet, Ledger.submit, Controller.meet, Controller.submit, WorkQueue.push, h.waiting]
  | submitFirst command => exact h.putFirst (t := ⟨command, none⟩)
  | instruct change => exact ⟨congrArg change h.session, h.current, h.waiting, h.events⟩
  | upload chunks =>
    apply h.of_desk
    simp only [Controller.meet, submitUpload]
    split
    · rename_i count queue hq
      unfold WorkQueue.startUpload at hq
      split at hq <;> simp only [Except.ok.injEq, Prod.mk.injEq, reduceCtorEq] at hq
      simp [desk, ← hq.2]
    · rfl

lemma Records.call (h : Records past l c) (now : Nat) (call : Call) :
    ∃ m, l.Steps m ∧ m.heard = l.heard ++ c.judged now call.input ∧
      Records (past ++ reports (c.step now call.input).1) m (c.step now call.input).2 := by
  obtain ⟨m, hs, hh, hr⟩ := (moves_during now c call.input_ne).records h
  rw [step_eq]
  exact ⟨m, hs, hh, hr.session, hr.current, hr.waiting, by simp [flush, hr.events]⟩

def turnJudged (c : Controller p) : Turn p → List (Judgement p)
  | .demand _ => []
  | .call now call => c.judged now call.input

def runJudged (c : Controller p) : List (Turn p) → List (Judgement p)
  | [] => []
  | t :: ts => c.turnJudged t ++ (c.turn t).2.runJudged ts

end Controller

def submission? : Turn p → Option p.Command
  | .demand (.submit command) => some command
  | _ => none

namespace Ledger

lemma Step.submitted (s : l.Step m) : m.submitted = l.submitted := by
  cases s with
  | answered => exact submitted_putAllFirst _ _
  | requeued => exact submitted_putFirst _ _
  | _ => rfl

lemma Steps.submitted (s : l.Steps m) : m.submitted = l.submitted := by
  induction s with
  | refl => rfl
  | tail _ s ih => exact s.submitted.trans ih

lemma Step.heard_cases (s : l.Step m) : m.heard = l.heard ∨ ∃ j, m.heard = l.heard ++ [j] := by
  cases s with
  | take | unsendable | abandoned | upload => exact .inl rfl
  | requeued => exact .inl (heard_putFirst _ _)
  | unrelated | again | unready | dropped | refused => exact .inr ⟨_, rfl⟩
  | answered => exact .inr ⟨_, heard_putAllFirst _ _⟩

lemma Step.refusal {j : Judgement p} {reason : Reason} {detail : String} {events : List Event}
    (s : l.Step m) (hh : m.heard = l.heard ++ [j]) (hv : j.verdict = .refused reason detail events) :
    ∃ t, l.current = some t ∧ j = ⟨l.session, t.command, j.frame⟩ ∧
      m = (l.hear t j.frame).release t (.failed reason detail events) := by
  cases s with
  | take | unsendable | abandoned | upload => simp [release, giveUp] at hh
  | requeued => simp at hh
  | @unrelated t frame _ hc hj | @again t frame _ _ hc hj | @unready t frame _ hc hj | @dropped t frame _ hc hj =>
    obtain rfl : j = ⟨l.session, t.command, frame⟩ := by simpa [hear, release, eq_comm] using hh
    cases hj.symm.trans hv
  | @answered t frame _ _ hc hj =>
    obtain rfl : j = ⟨l.session, t.command, frame⟩ := by simpa [hear, release, eq_comm] using hh
    cases hj.symm.trans hv
  | @refused t frame _ _ _ hc hj =>
    obtain rfl : j = ⟨l.session, t.command, frame⟩ := by simpa [hear, release, eq_comm] using hh
    cases hj.symm.trans hv
    exact ⟨t, hc, rfl, rfl⟩

lemma Steps.heard (s : l.Steps m) : ∃ xs, m.heard = l.heard ++ xs := by
  induction s with
  | refl => exact ⟨[], (List.append_nil _).symm⟩
  | tail _ s ih =>
    obtain ⟨xs, hx⟩ := ih
    rcases s.heard_cases with he | ⟨j, he⟩
    · exact ⟨xs, he.trans hx⟩
    · exact ⟨xs ++ [j], by rw [he, hx, List.append_assoc]⟩

lemma submitted_meet (l : Ledger p) (demand : Demand p) :
    (l.meet demand).submitted = l.submitted ++ (submission? (.demand demand)).toList ∧
      (l.meet demand).heard = l.heard := by
  cases demand with
  | submit command => exact ⟨rfl, rfl⟩
  | upload | instruct => exact ⟨(List.append_nil _).symm, rfl⟩
  | submitFirst command =>
    exact ⟨(submitted_putFirst _ _).trans (List.append_nil _).symm, heard_putFirst _ _⟩

def Follows (l m : Ledger p) : Turn p → Prop
  | .demand demand => m = l.meet demand
  | .call .. => l.Steps m

lemma Kept.follows {session : p.Session} {t : Turn p} (h : l.Kept session) (hf : l.Follows m t) : m.Kept session := by
  cases t with
  | demand demand => exact hf ▸ h.meet demand
  | call => exact h.steps hf

end Ledger

theorem ledger_of_turn {c : Controller p} (t : Turn p) (h : Controller.Records past l c) :
    ∃ m, l.Follows m t ∧ m.submitted = l.submitted ++ (submission? t).toList ∧ m.heard = l.heard ++ c.turnJudged t ∧
      Controller.Records (past ++ reports (c.turn t).1) m (c.turn t).2 := by
  cases t with
  | demand demand =>
    obtain ⟨hs, hh⟩ := l.submitted_meet demand
    refine ⟨l.meet demand, rfl, hs, by rw [hh]; exact (List.append_nil _).symm, ?_⟩
    simpa [Controller.turn] using h.meet demand
  | call now call =>
    obtain ⟨m, hs, hh, hr⟩ := h.call now call
    exact ⟨m, hs, by rw [hs.submitted]; exact (List.append_nil _).symm, hh, hr⟩

def Ledger.before (l : Ledger p) (ledger : Nat → Ledger p) : Nat → Ledger p
  | 0 => l
  | n + 1 => ledger n

@[simp] lemma Ledger.before_zero (l : Ledger p) (ledger : Nat → Ledger p) : l.before ledger 0 = l := rfl

@[simp] lemma Ledger.before_succ (l : Ledger p) (ledger : Nat → Ledger p) (n : Nat) :
    l.before ledger (n + 1) = ledger n := rfl

theorem ledgers_of_run {c : Controller p} (turns : List (Turn p)) (h : Controller.Records past l c) :
    ∃ ledger : Nat → Ledger p, ledger 0 = l ∧
      (∀ n t, turns[n]? = some t → (ledger n).Follows (ledger (n + 1)) t) ∧
      ∀ n ≤ turns.length,
        (ledger n).submitted = l.submitted ++ (turns.take n).filterMap submission? ∧
        (ledger n).heard = l.heard ++ c.runJudged (turns.take n) ∧
        Controller.Records (past ++ reports (c.run (turns.take n)).1) (ledger n) (c.run (turns.take n)).2 := by
  induction turns generalizing c l past with
  | nil =>
    refine ⟨fun _ => l, rfl, by simp, fun n _ => ?_⟩
    simpa [Controller.runJudged, Controller.run] using h
  | cons t ts ih =>
    obtain ⟨m, hf, hs, hh, hr⟩ := ledger_of_turn t h
    obtain ⟨ledger, h0, hn, ha⟩ := ih hr
    refine ⟨l.before ledger, rfl, ?_, ?_⟩
    · intro n u hu
      cases n with
      | zero =>
        obtain rfl : t = u := by simpa using hu
        change l.Follows (ledger 0) t
        rw [h0]
        exact hf
      | succ n => exact hn n u (by simpa using hu)
    · intro n hl
      cases n with
      | zero => simpa [Controller.runJudged, Controller.run] using h
      | succ n =>
        obtain ⟨hs', hh', hr'⟩ := ha n (by simpa using hl)
        refine ⟨?_, ?_, ?_⟩
        · rw [Ledger.before_succ, hs', hs, List.append_assoc]
          cases hu : submission? t <;> simp [hu]
        · rw [Ledger.before_succ, hh', hh, List.append_assoc]
          rfl
        · simpa [Controller.run] using hr'

end ParkingStation.Exchange
