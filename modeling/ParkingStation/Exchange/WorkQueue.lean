import ParkingStation.Error

/-! Commands in the order given, and the chunks of at most one upload, which go first. -/

namespace ParkingStation.Exchange

structure WorkQueue (C K : Type) where
  commands : List C := []
  chunks : List K := []
  uploading : Bool := false
  notice : Bool := false
  deriving DecidableEq

inductive Work (C K : Type)
  | command (command : C)
  | chunk (chunk : K)
  deriving DecidableEq

namespace WorkQueue

variable {C K : Type}

def push (c : C) (q : WorkQueue C K) : WorkQueue C K :=
  { q with commands := q.commands ++ [c], notice := true }

/-- Puts a command first, unless it already stands there. -/
def pushFront [DecidableEq C] (c : C) (q : WorkQueue C K) : Bool × WorkQueue C K :=
  if q.commands.head? = some c then (false, q)
  else (true, { q with commands := c :: q.commands, notice := true })

def pushChunk (k : K) (q : WorkQueue C K) : WorkQueue C K :=
  { q with chunks := q.chunks ++ [k], uploading := true, notice := true }

def startUpload (ks : List K) (q : WorkQueue C K) : Except Error (Nat × WorkQueue C K) :=
  if q.uploading then
    .error (.queueBusy ("upload in progress, " ++ toString q.chunks.length ++ " chunks pending"))
  else
    let chunks := q.chunks ++ ks
    .ok (chunks.length, { q with chunks := chunks, uploading := !chunks.isEmpty, notice := true })

def next? (q : WorkQueue C K) : Option (Work C K × WorkQueue C K) :=
  match q.chunks, q.commands with
  | k :: ks, _ => some (.chunk k, { q with chunks := ks })
  | [], c :: cs => some (.command c, { q with commands := cs })
  | [], [] => none

def nextChunk? (q : WorkQueue C K) : Option (K × WorkQueue C K) :=
  match q.chunks with
  | k :: ks => some (k, { q with chunks := ks })
  | [] => none

def endUpload (q : WorkQueue C K) : WorkQueue C K := { q with chunks := [], uploading := false }

def clear (q : WorkQueue C K) : WorkQueue C K := { q with commands := [], chunks := [], uploading := false }

def takeNotice (q : WorkQueue C K) : Bool × WorkQueue C K := (q.notice, { q with notice := false })

def isEmpty (q : WorkQueue C K) : Bool := q.commands.isEmpty && q.chunks.isEmpty

def size (q : WorkQueue C K) : Nat := q.commands.length + q.chunks.length

theorem size_next? {q next : WorkQueue C K} {work : Work C K} (h : q.next? = some (work, next)) :
    next.size + 1 = q.size := by
  unfold next? at h
  split at h <;> simp_all [size] <;> (obtain ⟨_, rfl⟩ := h; simp_all; try omega)

theorem next?_command {q next : WorkQueue C K} {c : C} (h : q.next? = some (.command c, next)) :
    ∃ commands, q.commands = c :: commands ∧ { q with commands := commands } = next ∧ q.chunks = [] := by
  unfold next? at h
  split at h <;> cases h
  exact ⟨_, ‹_›, rfl, ‹_›⟩

theorem next?_chunk {q next : WorkQueue C K} {k : K} (h : q.next? = some (.chunk k, next)) :
    ∃ chunks, q.chunks = k :: chunks ∧ { q with chunks := chunks } = next := by
  unfold next? at h
  split at h <;> cases h
  exact ⟨_, ‹_›, rfl⟩

theorem size_endUpload_le (q : WorkQueue C K) : q.endUpload.size ≤ q.size := by
  simp [endUpload, size]

end WorkQueue

end ParkingStation.Exchange
