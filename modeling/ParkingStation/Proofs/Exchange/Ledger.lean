import Mathlib.Data.List.Induction
import Mathlib.Data.List.Nodup
import Mathlib.Data.Option.Basic
import ParkingStation.Proofs.Exchange.Moves
import ParkingStation.Proofs.Exchange.Run

/-! Where each command is, and how it left. The steps of a ledger are the only ways for a command to move, so
what they keep holds of every command a controller is given. -/

namespace ParkingStation

lemma of_bind_ok {α β : Type} {x : Except Error α} {f : α → Except Error β} {b : β} (h : x >>= f = .ok b) :
    ∃ a, x = .ok a ∧ f a = .ok b := by
  cases x with
  | error e => cases h
  | ok a => exact ⟨a, rfl, h⟩

namespace Event

def isFault : Event → Bool
  | fault .. => true
  | _ => false

def isUpload : Event → Bool
  | uploaded .. | uploadFailed .. => true
  | _ => false

lemma isFault_of_isUpload {event : Event} (h : event.isUpload = true) : event.isFault = false := by
  cases event <;> first | rfl | cases h

end Event

namespace Exchange

variable {p : Peripheral}

def Verdict.events {C : Type} : Verdict C → List Event
  | answered events _ | unready events | refused _ _ events => events
  | again .. | unrelated _ => []

def Verdict.discreet {C : Type} : Verdict C → Bool
  | unready events => events.isEmpty
  | verdict => verdict.events.all (!·.isFault)

structure Discreet (p : Peripheral) : Prop where
  judge : ∀ session command frame, (p.judge session command frame).1.discreet = true
  giveUp : ∀ session command reason, (p.giveUp session command reason).1.all (!·.isFault) = true

lemma filter_isFault {events : List Event} (h : events.all (!·.isFault) = true) : events.filter (·.isFault) = [] := by
  simpa [List.filter_eq_nil_iff] using h

lemma Verdict.discreet_events {C : Type} {verdict : Verdict C} (h : verdict.discreet = true) :
    verdict.events.filter (·.isFault) = [] := by
  cases verdict with
  | unready events =>
    obtain rfl : events = [] := by simpa [discreet] using h
    rfl
  | answered | refused | again | unrelated => exact filter_isFault h

lemma Discreet.judge_events (h : Discreet p) {session : p.Session} {command : p.Command} {frame : p.Frame}
    {verdict : Verdict p.Command} (hv : (p.judge session command frame).1 = verdict) :
    verdict.events.filter (·.isFault) = [] :=
  Verdict.discreet_events (hv ▸ h.judge session command frame)

lemma Discreet.unready (h : Discreet p) {session : p.Session} {command : p.Command} {frame : p.Frame}
    {events : List Event} (hv : (p.judge session command frame).1 = .unready events) : events = [] := by
  have hd := h.judge session command frame
  rw [hv] at hd
  simpa [Verdict.discreet] using hd

structure Ticket (p : Peripheral) where
  command : p.Command
  /-- The place among the commands submitted; a command put in front of them has none. -/
  serial : Option Nat

inductive Fate (p : Peripheral)
  | answered (events : List Event) (followUps : List p.Command)
  | failed (reason : Reason) (detail : String) (events : List Event)
  | abandoned (reason : Reason) (events : List Event)
  | dropped (events : List Event)

namespace Fate

def events (command : p.Command) : Fate p → List Event
  | answered events _ => events
  | failed reason detail events => .failed p.device (p.name command) reason detail :: events
  | abandoned reason events => .fault p.device (p.name command) reason :: events
  | dropped events => events

def fault? (command : p.Command) : Fate p → Option Event
  | abandoned reason _ => some (.fault p.device (p.name command) reason)
  | _ => none

end Fate

structure Ledger (p : Peripheral) where
  session : p.Session
  submitted : List p.Command := []
  current : Option (Ticket p) := none
  waiting : List (Ticket p) := []
  released : List (Ticket p × Fate p) := []
  /-- The serials of commands that gave way to an equal command in front of them. -/
  merged : List Nat := []
  heard : List (Judgement p) := []
  events : List Event := []

namespace Ledger

def line (l : Ledger p) : List (Ticket p) := l.current.toList ++ l.waiting

def submit (command : p.Command) (l : Ledger p) : Ledger p :=
  { l with
    submitted := l.submitted ++ [command]
    waiting := l.waiting ++ [⟨command, some l.submitted.length⟩] }

def putFirst (t : Ticket p) (l : Ledger p) : Ledger p :=
  if l.waiting.head?.map (·.command) = some t.command then { l with merged := l.merged ++ t.serial.toList }
  else { l with waiting := t :: l.waiting }

def putAllFirst (commands : List p.Command) (l : Ledger p) : Ledger p :=
  commands.reverse.foldl (fun l command => l.putFirst ⟨command, none⟩) l

def release (t : Ticket p) (fate : Fate p) (l : Ledger p) : Ledger p :=
  { l with
    current := none
    released := l.released ++ [(t, fate)]
    events := l.events ++ fate.events t.command }

def hear (t : Ticket p) (frame : p.Frame) (l : Ledger p) : Ledger p :=
  { l with
    session := (p.judge l.session t.command frame).2
    heard := l.heard ++ [⟨l.session, t.command, frame⟩] }

def giveUp (t : Ticket p) (reason : Reason) (l : Ledger p) : Ledger p :=
  { l with session := (p.giveUp l.session t.command reason).2 }.release t
    (.abandoned reason (p.giveUp l.session t.command reason).1)

inductive Step : Ledger p → Ledger p → Prop
  | take {l t rest} (hc : l.current = none) (hw : l.waiting = t :: rest) :
      Step l { l with current := some t, waiting := rest }
  | unsendable {l t seq err} (hc : l.current = some t)
      (he : Controller.requestBytes t.command seq = .error err) :
      Step l (l.release t (.failed err.reason err.message []))
  | unrelated {l t frame detail} (hc : l.current = some t)
      (hv : (p.judge l.session t.command frame).1 = .unrelated detail) : Step l (l.hear t frame)
  | again {l t frame reason detail} (hc : l.current = some t)
      (hv : (p.judge l.session t.command frame).1 = .again reason detail) : Step l (l.hear t frame)
  | unready {l t frame events} (hc : l.current = some t)
      (hv : (p.judge l.session t.command frame).1 = .unready events)
      (ha : p.asksAgain (l.hear t frame).session t.command = true) :
      Step l { l.hear t frame with events := l.events ++ events }
  | dropped {l t frame events} (hc : l.current = some t)
      (hv : (p.judge l.session t.command frame).1 = .unready events)
      (ha : p.asksAgain (l.hear t frame).session t.command = false) :
      Step l ((l.hear t frame).release t (.dropped events))
  | answered {l t frame events followUps} (hc : l.current = some t)
      (hv : (p.judge l.session t.command frame).1 = .answered events followUps) :
      Step l (((l.hear t frame).release t (.answered events followUps)).putAllFirst followUps)
  | refused {l t frame reason detail events} (hc : l.current = some t)
      (hv : (p.judge l.session t.command frame).1 = .refused reason detail events) :
      Step l ((l.hear t frame).release t (.failed reason detail events))
  | abandoned {l t} (reason) (hc : l.current = some t) : Step l (l.giveUp t reason)
  | requeued {l t} (hc : l.current = some t) (ha : p.asksAgain l.session t.command = true) :
      Step l ({ l with current := none }.putFirst t)
  | upload {l} (event) (he : event.isUpload = true) : Step l { l with events := l.events ++ [event] }

inductive Steps : Ledger p → Ledger p → Prop
  | refl {l} : Steps l l
  | tail {l m n} (h : Steps l m) (s : Step m n) : Steps l n

def meet (l : Ledger p) : Demand p → Ledger p
  | .submit command => l.submit command
  | .submitFirst command => l.putFirst ⟨command, none⟩
  | .upload _ => l
  | .instruct change => { l with session := change l.session }

inductive Kept (session : p.Session) : Ledger p → Prop
  | start : Kept session { session := session }
  | meet {l} (h : Kept session l) (demand) : Kept session (l.meet demand)
  | step {l m} (h : Kept session l) (s : Step l m) : Kept session m

variable {session : p.Session} {l m n : Ledger p}

lemma Steps.trans (h : Steps l m) (k : Steps m n) : Steps l n := by
  induction k with
  | refl => exact h
  | tail _ s ih => exact .tail ih s

lemma Step.steps (s : Step l m) : Steps l m := Steps.tail .refl s

lemma Kept.steps (h : l.Kept session) (s : Steps l m) : m.Kept session := by
  induction s with
  | refl => exact h
  | tail _ s ih => exact ih.step s

lemma putFirst_cases (t : Ticket p) (l : Ledger p) :
    l.waiting.head?.map (·.command) = some t.command ∧
        l.putFirst t = { l with merged := l.merged ++ t.serial.toList } ∨
      l.putFirst t = { l with waiting := t :: l.waiting } := by
  unfold putFirst
  split
  · rename_i h
    exact .inl ⟨h, rfl⟩
  · exact .inr rfl

lemma putAllFirst_frame (commands : List p.Command) (l : Ledger p) :
    ∃ front : List (Ticket p), (∀ t ∈ front, t.serial = none ∧ t.command ∈ commands) ∧
      l.putAllFirst commands = { l with waiting := front ++ l.waiting } := by
  have hc : ∀ command ∈ commands.reverse, command ∈ commands := fun _ => List.mem_reverse.mp
  unfold putAllFirst
  revert hc
  induction commands.reverse generalizing l with
  | nil => exact fun _ => ⟨[], by simp, rfl⟩
  | cons command rest ih =>
    intro hc
    obtain ⟨front, hf, he⟩ := ih (l.putFirst ⟨command, none⟩) fun c hm => hc c (List.mem_cons_of_mem _ hm)
    rw [List.foldl_cons, he]
    rcases putFirst_cases ⟨command, none⟩ l with ⟨-, hp⟩ | hp
    · exact ⟨front, hf, by simp [hp]⟩
    · refine ⟨front ++ [⟨command, none⟩], ?_, by simp [hp]⟩
      intro t ht
      rcases List.mem_append.mp ht with ht | ht
      · exact hf t ht
      · exact List.mem_singleton.mp ht ▸ ⟨rfl, hc command List.mem_cons_self⟩

@[simp] lemma heard_putFirst (t : Ticket p) (l : Ledger p) : (l.putFirst t).heard = l.heard := by
  rcases putFirst_cases t l with ⟨-, he⟩ | he <;> rw [he]

@[simp] lemma heard_putAllFirst (commands : List p.Command) (l : Ledger p) :
    (l.putAllFirst commands).heard = l.heard := by
  obtain ⟨front, -, he⟩ := putAllFirst_frame commands l
  rw [he]

@[simp] lemma submitted_putFirst (t : Ticket p) (l : Ledger p) : (l.putFirst t).submitted = l.submitted := by
  rcases putFirst_cases t l with ⟨-, he⟩ | he <;> rw [he]

@[simp] lemma submitted_putAllFirst (commands : List p.Command) (l : Ledger p) :
    (l.putAllFirst commands).submitted = l.submitted := by
  obtain ⟨front, -, he⟩ := putAllFirst_frame commands l
  rw [he]

@[simp] lemma released_putFirst (t : Ticket p) (l : Ledger p) : (l.putFirst t).released = l.released := by
  rcases putFirst_cases t l with ⟨-, he⟩ | he <;> rw [he]

@[simp] lemma released_putAllFirst (commands : List p.Command) (l : Ledger p) :
    (l.putAllFirst commands).released = l.released := by
  obtain ⟨front, -, he⟩ := putAllFirst_frame commands l
  rw [he]

@[simp] lemma session_putFirst (t : Ticket p) (l : Ledger p) : (l.putFirst t).session = l.session := by
  rcases putFirst_cases t l with ⟨-, he⟩ | he <;> rw [he]

@[simp] lemma session_putAllFirst (commands : List p.Command) (l : Ledger p) :
    (l.putAllFirst commands).session = l.session := by
  obtain ⟨front, -, he⟩ := putAllFirst_frame commands l
  rw [he]

def numbered (commands : List p.Command) : List (Ticket p) :=
  commands.zipIdx.map fun (command, serial) => ⟨command, some serial⟩

def tickets (l : Ledger p) : List (Ticket p) := l.released.map (·.1) ++ l.current.toList ++ l.waiting

def own (ts : List (Ticket p)) : List (Ticket p) := ts.filter (·.serial.isSome)

def gaveWay (l : Ledger p) (t : Ticket p) : Bool := t.serial.any fun serial => serial ∈ l.merged

/-- Each command submitted that has not merged is in one place, and they are in order. -/
structure InOrder (l : Ledger p) : Prop where
  order : own l.tickets = (numbered l.submitted).filter fun t => !l.gaveWay t
  merged : ∀ serial ∈ l.merged, serial < l.submitted.length

@[simp] lemma numbered_concat (commands : List p.Command) (command : p.Command) :
    numbered (commands ++ [command]) = numbered commands ++ [⟨command, some commands.length⟩] := by
  simp [numbered, List.zipIdx_append]

@[simp] lemma own_append (ts us : List (Ticket p)) : own (ts ++ us) = own ts ++ own us := List.filter_append ts us

lemma own_front {front : List (Ticket p)} (h : ∀ t ∈ front, t.serial = none) : own front = [] := by
  simpa [own] using h

lemma serials_numbered (commands : List p.Command) :
    (numbered commands).map (·.serial) = (List.range commands.length).map some := by
  induction commands using List.reverseRecOn with
  | nil => rfl
  | append_singleton commands command ih => simp [ih, List.range_succ]

lemma serial_lt {commands : List p.Command} {t : Ticket p} (h : t ∈ numbered commands) :
    ∃ serial < commands.length, t.serial = some serial := by
  have hm := List.mem_map_of_mem (f := fun t : Ticket p => t.serial) h
  rw [serials_numbered] at hm
  obtain ⟨serial, hs, he⟩ := List.mem_map.mp hm
  exact ⟨serial, List.mem_range.mp hs, he.symm⟩

lemma InOrder.of_tickets (h : l.InOrder) (ht : own m.tickets = own l.tickets) (hs : m.submitted = l.submitted)
    (hm : m.merged = l.merged) : m.InOrder := by
  refine ⟨?_, ?_⟩
  · simp only [ht, hs, hm, gaveWay]
    exact h.order
  · rw [hs, hm]
    exact h.merged

lemma InOrder.submit (h : l.InOrder) (command : p.Command) : (l.submit command).InOrder := by
  refine ⟨?_, fun serial hs => ?_⟩
  · have ht : (l.submit command).tickets = l.tickets ++ [⟨command, some l.submitted.length⟩] := by
      simp [tickets, Ledger.submit]
    have hn : l.submitted.length ∉ l.merged := fun hm => Nat.lt_irrefl _ (h.merged _ hm)
    have hk : (l.submit command).gaveWay = l.gaveWay := rfl
    rw [ht, own_append, h.order, hk]
    simp [Ledger.submit, own, gaveWay, hn]
  · have := h.merged serial hs
    simp only [Ledger.submit, List.length_append, List.length_cons, List.length_nil]
    omega

lemma InOrder.nodup (h : l.InOrder) : ((own l.tickets).map (·.serial)).Nodup := by
  rw [h.order]
  apply List.Nodup.sublist ((List.filter_sublist).map _)
  rw [serials_numbered]
  exact List.nodup_range.map (Option.some_injective _)

lemma InOrder.merge {t : Ticket p} (h : l.InOrder) (hc : l.current = some t) :
    InOrder { l with current := none, merged := l.merged ++ t.serial.toList } := by
  cases hs : t.serial with
  | none =>
    refine h.of_tickets ?_ rfl (by simp)
    simp [tickets, hc, own, hs]
  | some serial =>
    have ht : own l.tickets = own (l.released.map (·.1)) ++ t :: own l.waiting := by
      simp [tickets, hc, own, hs]
    have hd := h.nodup
    rw [ht] at hd
    simp only [List.map_append, List.map_cons, hs, List.nodup_middle, List.nodup_cons, List.mem_append,
      List.mem_map, not_or, not_exists, not_and] at hd
    have hf (ts : List (Ticket p)) (hn : ∀ u ∈ ts, u.serial ≠ some serial) :
        ts.filter (fun u => u.serial != some serial) = ts := by
      simpa using hn
    have hk : (own l.tickets).filter (fun u => u.serial != some serial) =
        own (l.released.map (·.1)) ++ own l.waiting := by
      rw [ht, List.filter_append, List.filter_cons_of_neg (by simp [hs]), hf _ hd.1.1, hf _ hd.1.2]
    refine ⟨?_, ?_⟩
    · rw [h.order, List.filter_filter] at hk
      simp only [tickets, Option.toList_none, List.append_nil, own_append]
      rw [← hk]
      refine List.filter_congr fun u hu => ?_
      obtain ⟨s, -, hu⟩ := serial_lt hu
      simp [gaveWay, hu, bne, Bool.beq_eq_decide_eq, Bool.and_comm]
    · have hn : t ∈ numbered l.submitted := by
        have hm : t ∈ own l.tickets := by simp [ht]
        rw [h.order] at hm
        exact List.mem_of_mem_filter hm
      obtain ⟨s, hl, he⟩ := serial_lt hn
      have he : s = serial := by simpa [hs] using he.symm
      simpa [or_imp, forall_and, he ▸ hl] using h.merged

theorem InOrder.step (h : l.InOrder) (s : Step l m) : m.InOrder := by
  cases s with
  | take hc hw => exact h.of_tickets (by simp [tickets, hc, hw]) rfl rfl
  | unsendable hc | refused hc | dropped hc => exact h.of_tickets (by simp [tickets, release, hear, hc]) rfl rfl
  | abandoned reason hc => exact h.of_tickets (by simp [tickets, giveUp, release, hc]) rfl rfl
  | unrelated | again | unready | upload => exact h.of_tickets rfl rfl rfl
  | answered hc hv =>
    rename_i t frame events followUps
    obtain ⟨front, hf, he⟩ := putAllFirst_frame followUps ((l.hear t frame).release t (.answered events followUps))
    rw [he]
    refine h.of_tickets ?_ rfl rfl
    simp only [tickets, release, hear, hc, own_append, own_front fun t ht => (hf t ht).1, List.map_append]
    simp [own]
  | requeued hc ha =>
    rename_i t
    rcases putFirst_cases t { l with current := none } with ⟨-, he⟩ | he <;> rw [he]
    · exact h.merge hc
    · exact h.of_tickets (by simp [tickets, hc]) rfl rfl

theorem Kept.inOrder (h : l.Kept session) : l.InOrder := by
  induction h with
  | start => exact ⟨rfl, by simp⟩
  | step _ s ih => exact ih.step s
  | @meet l _ demand ih =>
    cases demand with
    | submit command => exact ih.submit command
    | submitFirst command =>
      change (l.putFirst ⟨command, none⟩).InOrder
      rcases putFirst_cases ⟨command, none⟩ l with ⟨-, he⟩ | he <;> rw [he]
      · exact ih.of_tickets rfl rfl (by simp)
      · exact ih.of_tickets (by simp [tickets, own]) rfl rfl
    | upload | instruct => exact ih.of_tickets rfl rfl rfl

/-- A fault is told of each command that was abandoned and of no other, and of one that was dropped nothing is. -/
structure Told (l : Ledger p) : Prop where
  faults : l.events.filter (·.isFault) = l.released.filterMap fun (t, fate) => fate.fault? t.command
  dropped : ∀ t events, (t, .dropped events) ∈ l.released → events = []

lemma Told.release {t : Ticket p} {fate : Fate p} (h : l.Told)
    (hf : (fate.events t.command).filter (·.isFault) = (fate.fault? t.command).toList)
    (hd : ∀ events, fate = .dropped events → events = []) : (l.release t fate).Told := by
  refine ⟨?_, fun u events hm => ?_⟩
  · have hl : [(t, fate)].filterMap (fun (t, fate) => fate.fault? t.command) = (fate.fault? t.command).toList := by
      cases he : fate.fault? t.command <;> simp [he]
    simp only [Ledger.release, List.filter_append, List.filterMap_append, hf, hl]
    rw [h.faults]
  · rcases List.mem_append.mp hm with hm | hm
    · exact h.dropped u events hm
    · simp only [List.mem_singleton, Prod.mk.injEq] at hm
      exact hd events hm.2.symm

lemma Told.putFirst (h : l.Told) (t : Ticket p) : (l.putFirst t).Told := by
  rcases putFirst_cases t l with ⟨-, he⟩ | he <;> rw [he] <;> exact ⟨h.faults, h.dropped⟩

theorem Told.step (hp : Discreet p) (h : l.Told) (s : Step l m) : m.Told := by
  have hear (t : Ticket p) (frame : p.Frame) : (l.hear t frame).Told := ⟨h.faults, h.dropped⟩
  cases s with
  | take | unrelated | again => exact ⟨h.faults, h.dropped⟩
  | unsendable => exact h.release rfl (by simp)
  | upload event he => exact ⟨by simpa [Event.isFault_of_isUpload he] using h.faults, h.dropped⟩
  | unready hc hv =>
    obtain rfl := hp.unready hv
    exact ⟨by simpa using! h.faults, h.dropped⟩
  | @answered t frame events followUps hc hv =>
    obtain ⟨front, -, hf⟩ := putAllFirst_frame followUps ((l.hear t frame).release t (.answered events followUps))
    have hr : Told ((l.hear t frame).release t (.answered events followUps)) :=
      (hear t frame).release (hp.judge_events hv) (by simp)
    rw [hf]
    exact ⟨hr.faults, hr.dropped⟩
  | dropped hc hv =>
    obtain rfl := hp.unready hv
    exact (hear _ _).release rfl (by simp)
  | refused hc hv => exact (hear _ _).release (hp.judge_events hv) (by simp)
  | @abandoned t reason hc =>
    have hg : Told { l with session := (p.giveUp l.session t.command reason).2 } := ⟨h.faults, h.dropped⟩
    refine hg.release ?_ (by simp)
    rw [Fate.events, List.filter_cons_of_pos rfl, filter_isFault (hp.giveUp _ _ _)]
    rfl
  | @requeued t hc ha =>
    have hn : Told { l with current := none } := ⟨h.faults, h.dropped⟩
    exact hn.putFirst t

theorem Kept.told (hp : Discreet p) (h : l.Kept session) : l.Told := by
  induction h with
  | start => exact ⟨rfl, by simp⟩
  | step _ s ih => exact ih.step hp s
  | meet _ demand ih =>
    cases demand with
    | submit | upload | instruct => exact ⟨ih.faults, ih.dropped⟩
    | submitFirst => exact ih.putFirst _

end Ledger

end Exchange

end ParkingStation
