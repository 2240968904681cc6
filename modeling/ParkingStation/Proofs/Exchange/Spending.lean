import ParkingStation.Proofs.Exchange.Coherence

/-! Every send counts against the budget of its work and every poll against the ceiling, and what is given up is
gone, so each send and each failed cycle leaves less to do. -/

namespace ParkingStation.Exchange.Controller

variable {p : Peripheral} {now : Nat} {timing : Settings.Timing} {c d : Controller p}

def commandsLeft (c : Controller p) : Nat := c.queue.commands.length + c.command.toList.length

def chunksLeft (c : Controller p) : Nat := c.queue.chunks.length + c.chunk.toList.length

def stock (timing : Settings.Timing) (c : Controller p) : Nat :=
  c.commandsLeft * (timing.maxPollAttempts + 1) + (timing.maxPollAttempts - c.polls) + c.chunksLeft

def patience (timing : Settings.Timing) (c : Controller p) : Nat :=
  c.sends.elim (timing.maxRetries + 3) (timing.maxRetries + 2 - ·)

def toil (timing : Settings.Timing) (c : Controller p) : Nat :=
  c.stock timing * (timing.maxRetries + 4) + c.patience timing

lemma patience_le (timing : Settings.Timing) (c : Controller p) : c.patience timing ≤ timing.maxRetries + 3 := by
  unfold patience
  cases c.sends with
  | none => exact Nat.le_refl _
  | some n => simp only [Option.elim_some]; omega

lemma toil_lt_of_stock (h : d.stock timing < c.stock timing) : d.toil timing < c.toil timing := by
  have hs := Nat.mul_le_mul_right (timing.maxRetries + 4) (Nat.succ_le_of_lt h)
  have hp := patience_le timing d
  rw [Nat.succ_mul] at hs
  unfold toil
  omega

lemma toil_lt_of_patience (hs : d.stock timing = c.stock timing) (hp : d.patience timing < c.patience timing) :
    d.toil timing < c.toil timing := by
  unfold toil
  rw [hs]
  omega

lemma stock_lt_of_commands (hn : d.commandsLeft < c.commandsLeft) (hk : d.chunksLeft ≤ c.chunksLeft) :
    d.stock timing < c.stock timing := by
  have hm := Nat.mul_le_mul_right (timing.maxPollAttempts + 1) (Nat.succ_le_of_lt hn)
  rw [Nat.succ_mul] at hm
  unfold stock
  omega

lemma stock_abandon_lt {o : Ongoing p.Command} (command : p.Command) (reason : Reason) (hc : c.command = some o)
    (hq : d.queue = c.queue) (hd : d.command = none) (hk : d.chunk = c.chunk) :
    (d.abandon command reason).stock timing < c.stock timing := by
  rw [abandon_frame]
  refine stock_lt_of_commands ?_ ?_
  · simp [commandsLeft, hq, hd, hc]
  · simp [chunksLeft, hq, hk]

lemma stock_askAgain_lt {o : Ongoing p.Command} (command : p.Command) (ht : c.timing = timing)
    (hc : c.command = some o) : (askAgain command { c with command := none }).stock timing < c.stock timing := by
  simp only [askAgain]
  split
  · split
    · exact stock_abandon_lt command _ hc rfl rfl rfl
    · rename_i hl
      have hl : c.polls + 1 < timing.maxPollAttempts := ht ▸ Nat.lt_of_not_le hl
      by_cases hf : c.queue.commands.head? = some command
      · refine stock_lt_of_commands ?_ ?_
        · simp [commandsLeft, pushFront, WorkQueue.pushFront, hf, hc]
        · simp [chunksLeft, pushFront, WorkQueue.pushFront, hf]
      · simp only [stock, commandsLeft, chunksLeft, pushFront, WorkQueue.pushFront, hf, hc, if_false, List.length_cons,
          Option.toList_none, Option.toList_some, List.length_nil, Nat.add_zero, Nat.zero_add]
        omega
  · refine stock_lt_of_commands ?_ ?_
    · simp [commandsLeft, hc]
    · simp [chunksLeft]

lemma stock_abortUpload_lt {o : Ongoing p.Chunk} (reason : Reason) (detail : String) (hk : c.chunk = some o) :
    (c.abortUpload reason detail).stock timing < c.stock timing := by
  simp only [stock, commandsLeft, chunksLeft, abortUpload, report, WorkQueue.endUpload, hk, Option.toList_none,
    Option.toList_some, List.length_nil, List.length_cons]
  omega

theorem stock_repeatOrAbandon (reason : Reason) (detail : String) (ht : c.timing = timing) :
    c.repeatOrAbandon reason detail = c ∨ (c.repeatOrAbandon reason detail).stock timing < c.stock timing := by
  unfold repeatOrAbandon
  split
  · rename_i o hc
    split
    · exact .inl rfl
    · refine .inr ?_
      simp only
      split
      · exact stock_askAgain_lt o.item ht hc
      · exact stock_abandon_lt o.item reason hc rfl rfl rfl
  · split
    · rename_i o hk
      split
      · exact .inl rfl
      · exact .inr (stock_abortUpload_lt reason detail hk)
    · exact .inl rfl

lemma toil_transmitSpaced (now : Nat) (bytes : Bytes) (c : Controller p) :
    (c.transmitSpaced now bytes).toil timing = c.toil timing := by
  rcases transmitSpaced_cases now bytes c with ⟨-, he⟩ | ⟨wait, -, he⟩ <;> rw [he] <;> rfl

lemma toil_sendRequest_lt (now : Nat) {o : Ongoing p.Command} (hc : c.command = some o) (hk : c.chunk = none)
    (hl : o.sends ≤ timing.maxRetries) : (c.sendRequest now).toil timing < c.toil timing := by
  cases hb : requestBytes o.item (nextSequence c.seq) with
  | ok bytes =>
    rw [sendRequest_ok hc hb, toil_transmitSpaced]
    refine toil_lt_of_patience ?_ ?_
    · simp [stock, commandsLeft, chunksLeft, hc]
    · simp only [patience, sends, hc, hk, Option.map_some, Option.elim_some]
      omega
  | error err =>
    rw [sendRequest_error hc hb]
    refine toil_lt_of_stock (stock_lt_of_commands ?_ ?_)
    · simp [commandsLeft, report, advance, hc]
    · simp [chunksLeft, report, advance]

lemma toil_sendPiece_lt (now : Nat) {o : Ongoing p.Chunk} (hk : c.chunk = some o) (hl : o.sends ≤ timing.maxRetries) :
    (c.sendPiece now).toil timing < c.toil timing := by
  cases hb : chunkBytes o.item (nextSequence c.seq) with
  | ok bytes =>
    rw [sendPiece_ok hk hb, toil_transmitSpaced]
    refine toil_lt_of_patience ?_ ?_
    · simp [stock, commandsLeft, chunksLeft, hk]
    · simp only [patience, sends, hk, Option.elim_some]
      omega
  | error err =>
    rw [sendPiece_error hk hb]
    have hs : stock timing ({ c with chunk := some ⟨o.item, o.sends + 1⟩, seq := nextSequence c.seq }.advance
        .writeFailed) = c.stock timing := by
      simp [stock, commandsLeft, chunksLeft, advance, hk]
    exact toil_lt_of_stock (hs ▸ stock_abortUpload_lt _ _ rfl)

lemma toil_take {item : p.Command} {queue : WorkQueue p.Command p.Chunk} (hc : c.command = none) (hk : c.chunk = none)
    (hq : c.queue.next? = some (.command item, queue)) :
    toil timing { c with queue := queue, command := some ⟨item, 0⟩ } < c.toil timing := by
  obtain ⟨commands, hl, rfl, -⟩ := WorkQueue.next?_command hq
  refine toil_lt_of_patience ?_ ?_
  · simp [stock, commandsLeft, chunksLeft, hl, hc]
  · simp [patience, sends, hc, hk]

lemma toil_takePiece {item : p.Chunk} {queue : WorkQueue p.Command p.Chunk} (hc : c.command = none)
    (hk : c.chunk = none) (hq : c.queue.next? = some (.chunk item, queue)) :
    toil timing { c with queue := queue, chunk := some ⟨item, 0⟩ } < c.toil timing := by
  obtain ⟨chunks, hl, rfl⟩ := WorkQueue.next?_chunk hq
  refine toil_lt_of_patience ?_ ?_
  · simp [stock, commandsLeft, chunksLeft, hl, hk]
  · simp [patience, sends, hc, hk]

lemma toil_lt_of_further {e : Controller p} (hl : d.toil timing < c.toil timing)
    (hf : e = d ∨ e.toil timing < d.toil timing) : e.toil timing < c.toil timing := by
  rcases hf with rfl | hf
  · exact hl
  · exact Nat.lt_trans hf hl

theorem toil_takeUpWork (now : Nat) (h : c.Matched timing.maxRetries) :
    c.takeUpWork now = c ∨ (c.takeUpWork now).toil timing < c.toil timing := by
  have hf := h.fits
  fun_induction takeUpWork now c with
  | case1 c hi o hc next hn ih =>
    have hm : next.Matched timing.maxRetries := (Move.request hi hc).matched h
    rw [hi] at hf
    have hl := toil_sendRequest_lt now (c := c.advance .commandEnqueued) hc
      (hf.1.resolve_left (by simp [hc])) (hf.2.1 o hc)
    exact .inr (toil_lt_of_further hl (ih hm hm.fits))
  | case2 c hi o hc next hn =>
    rw [hi] at hf
    exact .inr (toil_sendRequest_lt now (c := c.advance .commandEnqueued) hc (hf.1.resolve_left (by simp [hc]))
      (hf.2.1 o hc))
  | case3 c hi o hc hk next hn ih =>
    have hm : next.Matched timing.maxRetries := (Move.piece hi hc hk).matched h
    rw [hi] at hf
    have hl := toil_sendPiece_lt now (c := c.advance .sendNextChunk) hk (hf.2.2 o hk)
    exact .inr (toil_lt_of_further hl (ih hm hm.fits))
  | case4 c hi o hc hk next hn =>
    rw [hi] at hf
    exact .inr (toil_sendPiece_lt now (c := c.advance .sendNextChunk) hk (hf.2.2 o hk))
  | case5 c hi item queue hc hk hq ih =>
    have hm := (Move.take hi hc hk hq : Move now _ _ _).matched h
    exact .inr (toil_lt_of_further (toil_take hc hk hq) (ih hm hm.fits))
  | case6 c hi item queue hc hk hq ih =>
    have hm := (Move.takePiece hi hc hk hq : Move now _ _ _).matched h
    exact .inr (toil_lt_of_further (toil_takePiece hc hk hq) (ih hm hm.fits))
  | case7 => exact .inl rfl
  | case8 => exact .inl rfl

theorem toil_breakCycle_lt {trigger : Trigger} {reason : Reason} {detail : String} (ht : c.timing = timing)
    (h : c.Matched timing.maxRetries) (hp : c.phase ≠ .idle)
    (hn : c.phase.next? p.acknowledged trigger = some .idle) :
    ((c.breakCycle trigger reason detail).takeUpWork now).toil timing < c.toil timing := by
  have hm : (c.breakCycle trigger reason detail).Matched timing.maxRetries := matched_breakCycle h hn
  have ha : c.accepts trigger = true := by simp [accepts, hn]
  simp only [breakCycle, ha, if_true] at hm ⊢
  have hs : ((c.advance trigger).closeCycle.resetReceiver).toil timing = c.toil timing := rfl
  have hi : ((c.advance trigger).closeCycle.resetReceiver.repeatOrAbandon reason detail).phase = .idle :=
    (phase_repeatOrAbandon ..).trans (phase_advance rfl hn)
  rw [← hs]
  rcases stock_repeatOrAbandon (c := (c.advance trigger).closeCycle.resetReceiver) reason detail ht with he | hl
  · rw [he] at hm hi ⊢
    refine (toil_takeUpWork now hm).resolve_left fun hr => ?_
    -- the work of the failed cycle is still in flight, so an idle controller sends it again
    have ht := hi
    rw [← hr] at ht
    obtain ⟨hc, hk, -⟩ := takeUpWork_idle ht
    rw [hr] at hc hk
    have hf := h.fits
    have hc : c.command = none := hc
    have hk : c.chunk = none := hk
    cases hq : c.phase <;> simp_all [Fits]
  · exact toil_lt_of_further (toil_lt_of_stock hl) (toil_takeUpWork now hm)

lemma toil_repeatPiece_lt {trigger : Trigger} {reason : Reason} {detail : String} (ht : c.timing = timing)
    (h : c.Matched timing.maxRetries) (hp : c.phase = .waitingChunkResponse) :
    (c.repeatPiece now trigger reason detail).toil timing < c.toil timing := by
  obtain ⟨-, o, hk, -⟩ : Fits timing.maxRetries c.command c.chunk .waitingChunkResponse := hp ▸ h.fits
  simp only [repeatPiece]
  split
  · rename_i hl
    have hk' : c.closeCycle.resetReceiver.chunk = some o := hk
    refine toil_sendPiece_lt now (c := c.closeCycle.resetReceiver.advance trigger) hk ?_
    simpa [hk', ← ht] using! hl
  · exact toil_lt_of_stock (stock_abortUpload_lt (c := c.closeCycle.resetReceiver.advance .chunkError) _ _ hk)

end ParkingStation.Exchange.Controller
