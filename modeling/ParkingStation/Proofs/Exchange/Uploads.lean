import ParkingStation.Proofs.Exchange.Coherence
import ParkingStation.Proofs.Exchange.Ledger

/-! Chunks are written in order, each of them again as long as the retries last, and the next one only after a
reply has accepted the one before. -/

namespace ParkingStation.Exchange

variable {p : Peripheral}

inductive Entry (p : Peripheral)
  | begun (chunks : List p.Chunk)
  | accepted (chunk : p.Chunk) (frame : p.Frame)
  | effect (effect : Effect)

def effects : List (Entry p) → List Effect :=
  List.filterMap fun
    | .effect effect => some effect
    | .begun _ | .accepted .. => none

structure Transfer (p : Peripheral) where
  chunks : List p.Chunk
  accepted : Nat := 0
  writes : Nat := 0

namespace Transfer

def due? (t : Transfer p) : Option p.Chunk := t.chunks[t.accepted]?

def Untouched (t : Transfer p) : Prop := t.accepted = 0 ∧ t.writes = 0

end Transfer

/-- What may come next while an upload is under way or none is; a chunk is told from all else that is written. -/
inductive UploadStep (isPiece : Bytes → Bool) (limit : Nat) : Option (Transfer p) → Entry p → Option (Transfer p) → Prop
  | begun {chunks} (hn : chunks ≠ []) : UploadStep isPiece limit none (.begun chunks) (some { chunks := chunks })
  | written {t chunk seq bytes} (hd : t.due? = some chunk) (hb : Controller.chunkBytes chunk seq = .ok bytes)
      (hp : isPiece bytes = true) (hw : t.writes ≤ limit) :
      UploadStep isPiece limit (some t) (.effect (.transmit bytes)) (some { t with writes := t.writes + 1 })
  | accepted {t chunk frame} (hd : t.due? = some chunk) (hj : p.judgeChunk chunk frame = .accepted) :
      UploadStep isPiece limit (some t) (.accepted chunk frame)
        (some { t with accepted := t.accepted + 1, writes := 0 })
  | completed {t} (ha : t.accepted = t.chunks.length) :
      UploadStep isPiece limit (some t) (.effect (.report (.uploaded p.device t.chunks.length))) none
  | failed {t chunk} (reason detail) (hd : t.due? = some chunk) :
      UploadStep isPiece limit (some t) (.effect (.report (.uploadFailed p.device t.accepted reason detail))) none
  | other {t bytes} (hp : isPiece bytes = false) (hu : ∀ u ∈ t, u.Untouched) :
      UploadStep isPiece limit t (.effect (.transmit bytes)) t
  | reported {t event} (he : event.isUpload = false) : UploadStep isPiece limit t (.effect (.report event)) t

inductive UploadSteps (isPiece : Bytes → Bool) (limit : Nat) :
    Option (Transfer p) → List (Entry p) → Option (Transfer p) → Prop
  | nil {t} : UploadSteps isPiece limit t [] t
  | cons {t u v entry entries} (h : UploadStep isPiece limit t entry u) (hs : UploadSteps isPiece limit u entries v) :
      UploadSteps isPiece limit t (entry :: entries) v

section Logs

variable {isPiece : Bytes → Bool} {limit : Nat} {t u v : Option (Transfer p)} {xs ys : List (Entry p)}

lemma UploadStep.steps {entry : Entry p} (h : UploadStep isPiece limit t entry u) :
    UploadSteps isPiece limit t [entry] u :=
  .cons h .nil

lemma UploadSteps.append (h : UploadSteps isPiece limit t xs u) (k : UploadSteps isPiece limit u ys v) :
    UploadSteps isPiece limit t (xs ++ ys) v := by
  induction h with
  | nil => exact k
  | cons hs _ ih => exact .cons hs (ih k)

lemma steps_reports {events : List Event} (h : ∀ event ∈ events, event.isUpload = false) :
    UploadSteps isPiece limit t ((events.map .report).map .effect) t := by
  induction events with
  | nil => exact .nil
  | cons event events ih =>
    exact .cons (.reported (h event List.mem_cons_self)) (ih fun e he => h e (List.mem_cons_of_mem event he))

lemma UploadSteps.judged {chunk : p.Chunk} {frame : p.Frame} (h : UploadSteps isPiece limit t xs u)
    (hm : .accepted chunk frame ∈ xs) : p.judgeChunk chunk frame = .accepted := by
  induction h with
  | nil => exact nomatch hm
  | cons hs _ ih =>
    rcases List.mem_cons.mp hm with rfl | hm
    · cases hs
      assumption
    · exact ih hm

end Logs

/-- What the upload theory asks of a peripheral: chunks can be told from all else on the line, and only the controller
reports on uploads. -/
structure Separates (p : Peripheral) (isPiece : Bytes → Bool) : Prop where
  request : ∀ {command : p.Command} {seq bytes}, Controller.requestBytes command seq = .ok bytes → isPiece bytes = false
  chunk : ∀ {chunk : p.Chunk} {seq bytes}, Controller.chunkBytes chunk seq = .ok bytes → isPiece bytes = true
  enquiry : ∀ {bytes}, p.enquiry = some bytes → isPiece bytes = false
  judge : ∀ session command frame, ∀ event ∈ (p.judge session command frame).1.events, event.isUpload = false
  giveUp : ∀ session command reason, ∀ event ∈ (p.giveUp session command reason).1, event.isUpload = false

namespace Controller

def Conveys : Option (Transfer p) → Controller p → Prop
  | none, c => c.queue.uploading = false ∧ c.chunk = none ∧ c.queue.chunks = [] ∧ c.chunksDone = 0
  | some t, c =>
    c.queue.uploading = true ∧ c.chunksDone = t.accepted ∧
      (c.chunk.map (·.item)).toList ++ c.queue.chunks = t.chunks.drop t.accepted ∧ t.accepted < t.chunks.length ∧
      (c.chunk = none → t.Untouched)

def upload (c : Controller p) : Bool × List p.Chunk × Option (Ongoing p.Chunk) × Nat :=
  (c.queue.uploading, c.queue.chunks, c.chunk, c.chunksDone)

structure Agrees (isPiece : Bytes → Bool) (limit : Nat) (t : Option (Transfer p)) (c : Controller p) : Prop where
  matched : c.Matched limit
  conveys : Conveys t c
  rested : c.phase = .idle → c.held = none
  held : ∀ bytes, c.held = some bytes →
    (c.chunk = none → isPiece bytes = false) ∧ ∀ o, c.chunk = some o → ∃ seq, chunkBytes o.item seq = .ok bytes
  writes : ∀ u ∈ t, ∀ o, c.chunk = some o → u.writes + c.held.toList.length ≤ o.sends

def Reaches (isPiece : Bytes → Bool) (limit : Nat) (t : Option (Transfer p)) (c d : Controller p) : Prop :=
  ∃ (out : List Effect) (u : Option (Transfer p)),
    d.outbox = c.outbox ++ out ∧ UploadSteps isPiece limit t (out.map .effect) u ∧ Agrees isPiece limit u d

variable {isPiece : Bytes → Bool} {limit now : Nat} {t : Option (Transfer p)} {b c d : Controller p}

lemma Agrees.reaches (h : Agrees isPiece limit t d) (ho : d.outbox = c.outbox) : Reaches isPiece limit t c d :=
  ⟨[], t, by simp [ho], .nil, h⟩

lemma Reaches.trans (h : Reaches isPiece limit t b c)
    (k : ∀ u, Agrees isPiece limit u c → Reaches isPiece limit u c d) : Reaches isPiece limit t b d := by
  obtain ⟨xs, u, hx, hf, ha⟩ := h
  obtain ⟨ys, v, hy, hg, hb⟩ := k u ha
  exact ⟨xs ++ ys, v, by rw [hy, hx, List.append_assoc], by simpa using hf.append hg, hb⟩

lemma Conveys.congr (h : Conveys t c) (hu : d.upload = c.upload) : Conveys t d := by
  simp only [upload, Prod.mk.injEq] at hu
  obtain ⟨h₁, h₂, h₃, h₄⟩ := hu
  cases t <;> simpa only [Conveys, h₁, h₂, h₃, h₄] using h

lemma Conveys.untouched (h : Conveys t c) (hk : c.chunk = none) : ∀ u ∈ t, u.Untouched := by
  rintro u rfl
  exact h.2.2.2.2 hk

lemma Conveys.under_way {o : Ongoing p.Chunk} (h : Conveys t c) (hk : c.chunk = some o) :
    ∃ u, t = some u ∧ u.due? = some o.item ∧ u.chunks.drop (u.accepted + 1) = c.queue.chunks := by
  cases t with
  | none => simp [Conveys, hk] at h
  | some u =>
    obtain ⟨-, -, hd, -, -⟩ := h
    have hd : o.item :: c.queue.chunks = u.chunks.drop u.accepted := by simpa [hk] using hd
    refine ⟨u, rfl, ?_, ?_⟩
    · rw [Transfer.due?, ← List.head?_drop, ← hd]
      rfl
    · rw [← List.tail_drop, ← hd]
      rfl

lemma Agrees.congr (h : Agrees isPiece limit t c) (hm : d.Matched limit) (hu : d.upload = c.upload)
    (hh : d.held = none ∨ d.held = c.held ∧ (d.phase = .idle → c.phase = .idle)) : Agrees isPiece limit t d := by
  have hk : d.chunk = c.chunk := congrArg (·.2.2.1) hu
  rcases hh with hh | ⟨hh, hp⟩
  · refine ⟨hm, h.conveys.congr hu, fun _ => hh, by simp [hh], fun u hu o ho => ?_⟩
    have := h.writes u hu o (hk ▸ ho)
    simp [hh]
    omega
  · exact ⟨hm, h.conveys.congr hu, fun hi => hh ▸ h.rested (hp hi), by rw [hh, hk]; exact h.held,
      by rw [hh, hk]; exact h.writes⟩

lemma Conveys.uploading_iff (h : Conveys t c) :
    c.queue.uploading = true ↔ c.chunk.isSome ∨ c.queue.chunks ≠ [] := by
  cases t with
  | none =>
    obtain ⟨ha, hk, hq, -⟩ := h
    simp [ha, hk, hq]
  | some u =>
    obtain ⟨ha, -, hd, hl, -⟩ := h
    refine iff_of_true ha ?_
    cases hk : c.chunk with
    | some o => exact .inl rfl
    | none =>
      refine .inr fun hq => ?_
      have := congrArg List.length hd
      simp only [hk, hq, Option.map_none, Option.toList_none, List.append_nil, List.length_nil,
        List.length_drop] at this
      omega

lemma submitUpload_busy_iff (chunks : List p.Chunk) (c : Controller p) :
    (∃ text, c.submitUpload chunks = (.error (.queueBusy text), c)) ↔ c.queue.uploading = true := by
  cases ha : c.queue.uploading <;> simp [submitUpload, WorkQueue.startUpload, ha]

lemma Agrees.begin {chunks : List p.Chunk} (h : Agrees isPiece limit t c) (hn : chunks ≠ [])
    (ha : c.queue.uploading = false) :
    t = none ∧ (c.submitUpload chunks).1 = .ok chunks.length ∧ (c.submitUpload chunks).2.outbox = c.outbox ∧
      Agrees isPiece limit (some { chunks := chunks }) (c.submitUpload chunks).2 := by
  obtain rfl : t = none := by
    cases t with
    | none => rfl
    | some u => exact absurd (h.conveys.1.symm.trans ha) (by simp)
  obtain ⟨-, hk, hq, hc⟩ := h.conveys
  have he : c.submitUpload chunks = (.ok chunks.length,
      { c with queue := { c.queue with chunks := chunks, uploading := true, notice := true } }) := by
    simp [submitUpload, WorkQueue.startUpload, ha, hq, hn]
  rw [he]
  refine ⟨rfl, rfl, rfl, h.matched.congr rfl rfl rfl rfl id, ?_, h.rested, h.held, ?_⟩
  · exact ⟨rfl, hc, by simp [hk], List.length_pos_of_ne_nil hn, fun _ => ⟨rfl, rfl⟩⟩
  · exact fun _ _ _ ho => absurd (ho.symm.trans hk) (Option.some_ne_none _)

lemma Agrees.begin_nothing (h : Agrees isPiece limit t c) (ha : c.queue.uploading = false) :
    (c.submitUpload []).1 = .ok 0 ∧ (c.submitUpload []).2.outbox = c.outbox ∧
      Agrees isPiece limit t (c.submitUpload []).2 := by
  obtain rfl : t = none := by
    cases t with
    | none => rfl
    | some u => exact absurd (h.conveys.1.symm.trans ha) (by simp)
  obtain ⟨-, hk, hq, hc⟩ := h.conveys
  have he : c.submitUpload [] = (.ok 0, { c with queue := { c.queue with notice := true } }) := by
    simp [submitUpload, WorkQueue.startUpload, ha, hq]
  rw [he]
  exact ⟨rfl, rfl, h.congr (h.matched.congr rfl rfl rfl rfl id) rfl (.inr ⟨rfl, id⟩)⟩

end Controller

end ParkingStation.Exchange
