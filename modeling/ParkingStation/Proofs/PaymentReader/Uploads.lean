import ParkingStation.Proofs.Exchange.Resolution
import ParkingStation.Proofs.Exchange.UploadLog

namespace ParkingStation.PaymentReader

open Exchange

variable {key : LoginBlock}

def isChunkFrame (bytes : Bytes) : Bool := bytes[1]? = some chunkType

lemma isChunkFrame_encode {algorithm : Checksum.Algorithm} {f : Frame} {bytes : Bytes} (hr : f.response = false)
    (h : encode algorithm f = .ok bytes) : isChunkFrame bytes = (f.kind &&& ~~~ responseBit = chunkType : Bool) := by
  simp only [encode] at h
  split at h <;> cases h
  simp [isChunkFrame, wire, checked, hr]

lemma frame_of_toFrame {command : Command} {seq : UInt8} {f : Frame} (h : command.toFrame seq = .ok f) :
    f.response = false ∧ f.kind &&& ~~~ responseBit ≠ chunkType := by
  simp only [Command.toFrame] at h
  cases hp : command.payload with
  | error e => simp [hp, Except.map] at h
  | ok payload =>
    obtain rfl : (⟨false, command.kind, seq :: payload⟩ : Frame) = f := by simpa [hp, Except.map] using h
    refine ⟨rfl, ?_⟩
    cases command with
    | uploadFile kind data => cases hp
    | _ =>
      simp only [Command.kind]
      decide

lemma separates (key : LoginBlock) : Separates (peripheral key) isChunkFrame where
  request {command seq bytes} h := by
    obtain ⟨f, hf, he⟩ := of_bind_ok h
    obtain ⟨hr, hk⟩ := frame_of_toFrame hf
    exact (isChunkFrame_encode hr he).trans (decide_eq_false hk)
  chunk {chunk seq bytes} h :=
    (isChunkFrame_encode (f := chunk.toFrame seq) rfl h).trans
      (decide_eq_true (show chunkType &&& ~~~ responseBit = chunkType by decide))
  enquiry h := nomatch h
  judge s command frame := (resolved_judge key s command frame).routine.isUpload
  giveUp s command reason := by
    change ∀ event ∈ (Session.giveUp s command reason).1, event.isUpload = false
    cases command with
    | flush => exact (routine_dropPending reason reason.code s).isUpload
    | _ => exact List.forall_mem_nil _

lemma judgeChunk_accepted {chunk : Chunk} {frame : Frame} (h : judgeChunk chunk frame = .accepted) :
    ∃ reply, Reply.parse frame = .ok reply ∧ reply.kind = chunkType ∧ reply.status = .ok := by
  unfold judgeChunk at h
  split at h
  · cases h
  · rename_i reply hr
    split at h
    · rename_i hk
      split at h <;> cases h
      exact ⟨reply, hr, hk, ‹_›⟩
    · cases h

lemma index_chunksFrom {kind : FileKind} {size n index : Nat} {data : Bytes} {chunk : Chunk} {i : Nat}
    (h : (chunksFrom kind size n index data)[i]? = some chunk) : chunk.index = index + i := by
  induction n generalizing index data i with
  | zero =>
    cases i <;> cases h
    rfl
  | succ n ih =>
    cases i with
    | zero =>
      cases h
      rfl
    | succ i =>
      have := ih h
      omega

lemma splitFile_numbered {kind : FileKind} {data : Bytes} {size : Nat} {chunks : List Chunk}
    (h : splitFile kind data size = .ok chunks) :
    chunks ≠ [] ∧ ∀ (i : Nat) (chunk : Chunk), chunks[i]? = some chunk → chunk.index = i := by
  simp only [splitFile] at h
  split at h
  · cases h
  · split at h <;> cases h
    refine ⟨?_, fun i chunk hi => ?_⟩
    · cases (data.length + size - 1) / size <;> exact List.cons_ne_nil _ _
    · rw [index_chunksFrom hi, Nat.zero_add]

lemma upload_split {kind : FileKind} {data : Bytes} {size : Nat} {chunks : List Chunk}
    (h : splitFile kind data size = .ok chunks) (c : Controller (peripheral key)) :
    Request.upload kind data size c = c.submitUpload chunks := by
  rw [Request.upload, h]

/-- In every service the log, whose effects are those of the controller, goes by the protocol of uploads, with replies
that say so. An upload begun is one of the errands, and a file is uploaded in numbered chunks. The controller stands
where the log has got to, and it refuses another upload exactly while chunks are in flight or waiting. -/
theorem uploads_keep_protocol (key : LoginBlock) (timing : Settings.Timing)
    (errands : List (Errand (.paymentReader key))) :
    let start : Duty (.paymentReader key) := { controller := .fresh _ (Fitting.blank (.paymentReader key)) timing }
    let c := (duty _ (Fitting.blank (.paymentReader key)) timing errands).controller
    effects (start.log errands) = start.allEffects errands ∧
      (∃ t, UploadSteps isChunkFrame timing.maxRetries none (start.log errands) t ∧ c.Conveys t) ∧
      (∀ chunks, .begun chunks ∈ start.log errands → .upload chunks ∈ errands) ∧
      (∀ kind data size chunks, splitFile kind data size = .ok chunks →
        Request.upload kind data size c = c.submitUpload chunks ∧
          ∀ (i : Nat) (chunk : Chunk), chunks[i]? = some chunk → chunk.index = i) ∧
      (∀ chunk frame, .accepted chunk frame ∈ start.log errands →
        ∃ reply, Reply.parse frame = .ok reply ∧ reply.kind = chunkType ∧ reply.status = .ok) ∧
      (c.queue.uploading = true ↔ c.chunk.isSome ∨ c.queue.chunks ≠ []) ∧
      ∀ chunks, (∃ text, c.submitUpload chunks = (.error (.queueBusy text), c)) ↔
        c.chunk.isSome ∨ c.queue.chunks ≠ [] := by
  have hs : Separates (Fitting.paymentReader key).peripheral isChunkFrame := separates key
  obtain ⟨he, t, hf, hk⟩ :=
    (Duty.keeps_fresh isChunkFrame (Fitting.blank (.paymentReader key)) timing).log hs errands
  have hu := hk.agrees.conveys.uploading_iff
  refine ⟨he, ⟨t, hf, hk.agrees.conveys⟩, fun chunks => Duty.begun_log, fun kind data size chunks hs => ⟨?_, ?_⟩,
    fun chunk frame hm => judgeChunk_accepted (hf.judged hm), hu, fun chunks => ?_⟩
  · exact upload_split hs _
  · exact (splitFile_numbered hs).2
  · exact (Controller.submitUpload_busy_iff chunks _).trans hu

end ParkingStation.PaymentReader
