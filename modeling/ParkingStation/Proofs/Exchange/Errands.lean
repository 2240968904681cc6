import ParkingStation.Proofs.Exchange.Bookkeeping

/-! A peripheral in service: its users make requests and upload files between the calls of its controller, in
any order. What becomes of their commands is entered in a ledger, errand by errand. -/

namespace ParkingStation.Exchange

namespace Fitting

def Request : Fitting → Type
  | antenna _ => Antenna.Request
  | cardReader => CardReader.Request
  | paymentReader _ => PaymentReader.Request

def command? : (f : Fitting) → f.Request → Option f.peripheral.Command
  | antenna _, r => some (Antenna.Request.command r)
  | cardReader, r => CardReader.Request.command? r
  | paymentReader _, r => PaymentReader.Request.command? r

def prepare : (f : Fitting) → f.Request → f.peripheral.Session → f.peripheral.Session
  | antenna _, r => Antenna.Request.prepare r
  | cardReader, r => CardReader.Request.prepare r
  | paymentReader _, r => PaymentReader.Request.prepare r

def submit : (f : Fitting) → f.Request → Controller f.peripheral → Controller f.peripheral
  | antenna _, r => Antenna.Request.submit r
  | cardReader, r => CardReader.Request.submit r
  | paymentReader _, r => PaymentReader.Request.submit r

def blank : (f : Fitting) → f.peripheral.Session
  | antenna _ => ({} : Antenna.Session)
  | cardReader => ({} : CardReader.Session)
  | paymentReader _ => ({} : PaymentReader.Session)

def demands (f : Fitting) (r : f.Request) : List (Demand f.peripheral) := ((f.command? r).map Demand.submit).toList

lemma submit_eq (f : Fitting) (r : f.Request) (c : Controller f.peripheral) :
    f.submit r c = (f.demands r).foldl Controller.meet (c.meet (.instruct (f.prepare r))) := by
  cases f <;> cases r <;> rfl

end Fitting

def Controller.roster {p : Peripheral} (c : Controller p) : List p.Command :=
  (c.command.map (·.item)).toList ++ c.queue.commands

variable {f : Fitting}

inductive Errand (f : Fitting)
  | request (r : f.Request)
  | upload (chunks : List f.peripheral.Chunk)
  | call (now : Nat) (call : Call)

structure Duty (f : Fitting) where
  controller : Controller f.peripheral
  submitted : List f.peripheral.Command := []
  heard : List (Judgement f.peripheral) := []
  events : List Event := []

namespace Duty

def next (d : Duty f) : Errand f → Duty f
  | .request r =>
    { d with controller := f.submit r d.controller, submitted := d.submitted ++ (f.command? r).toList }
  | .upload chunks => { d with controller := (d.controller.submitUpload chunks).2 }
  | .call now call =>
    let (effects, controller) := d.controller.step now call.input
    { d with
      controller := controller
      heard := d.heard ++ d.controller.judged now call.input
      events := d.events ++ reports effects }

/-- The ledger has the commands submitted, those in flight and waiting, the replies and the events reported. -/
structure Entered (d : Duty f) (l : Ledger f.peripheral) : Prop where
  submitted : l.submitted = d.submitted
  heard : l.heard = d.heard
  records : Controller.Records d.events l d.controller
  outbox : d.controller.outbox = []

end Duty

def duty (f : Fitting) (session : f.peripheral.Session) (timing : Settings.Timing) (errands : List (Errand f)) :
    Duty f :=
  errands.foldl Duty.next { controller := .fresh f.peripheral session timing }

def Ledger.Attends (l m : Ledger f.peripheral) : Errand f → Prop
  | .request r => m = (f.demands r).foldl Ledger.meet (l.meet (.instruct (f.prepare r)))
  | .upload _ => m = l
  | .call .. => l.Steps m

section Errands

variable {d : Duty f} {l m : Ledger f.peripheral}

lemma Ledger.Kept.attends {session : f.peripheral.Session} {e : Errand f} (h : l.Kept session) (ha : l.Attends m e) :
    m.Kept session := by
  cases e with
  | request r =>
    have hp := h.meet (.instruct (f.prepare r))
    obtain rfl : m = _ := ha
    cases hc : f.command? r with
    | none => simpa [Fitting.demands, hc] using hp
    | some command => simpa [Fitting.demands, hc] using hp.meet (.submit command)
  | upload chunks =>
    obtain rfl : m = l := ha
    exact h
  | call now call => exact h.steps ha

lemma Duty.Entered.request (h : d.Entered l) (r : f.Request) :
    (d.next (.request r)).Entered ((f.demands r).foldl Ledger.meet (l.meet (.instruct (f.prepare r)))) := by
  have hr := h.records.meet (.instruct (f.prepare r))
  have he : (d.next (.request r)).controller = _ := f.submit_eq r d.controller
  cases hc : f.command? r with
  | none =>
    rw [Fitting.demands, hc] at he ⊢
    exact ⟨by simpa [Duty.next, hc] using! h.submitted, h.heard, he ▸ hr, he ▸ h.outbox⟩
  | some command =>
    rw [Fitting.demands, hc] at he ⊢
    refine ⟨?_, h.heard, he ▸ hr.meet (.submit command), he ▸ h.outbox⟩
    simp [Duty.next, hc, Ledger.meet, Ledger.submit, h.submitted]

lemma Duty.Entered.upload (h : d.Entered l) (chunks : List f.peripheral.Chunk) :
    (d.next (.upload chunks)).Entered l := by
  refine ⟨h.submitted, h.heard, h.records.meet (.upload chunks), ?_⟩
  simp only [Duty.next, Controller.submitUpload]
  split <;> exact h.outbox

lemma Duty.Entered.call (h : d.Entered l) (now : Nat) (call : Call) :
    ∃ m, l.Steps m ∧ (d.next (.call now call)).Entered m := by
  obtain ⟨m, hs, hh, hr⟩ := h.records.call now call
  refine ⟨m, hs, hs.submitted.trans h.submitted, ?_, hr, ?_⟩
  · rw [hh, h.heard]
    rfl
  · cases call <;> rfl

lemma Duty.Entered.next (h : d.Entered l) (e : Errand f) : ∃ m, l.Attends m e ∧ (d.next e).Entered m := by
  cases e with
  | request r => exact ⟨_, rfl, h.request r⟩
  | upload chunks => exact ⟨l, rfl, h.upload chunks⟩
  | call now call =>
    exact h.call now call

lemma Duty.Entered.roster (h : d.Entered l) : l.line.map (·.command) = d.controller.roster := by
  rw [Ledger.line, List.map_append, h.records.waiting, ← Option.toList_map, h.records.current, Controller.roster]

theorem ledgers_of_errands (errands : List (Errand f)) (h : d.Entered l) :
    ∃ ledger : Nat → Ledger f.peripheral, ledger 0 = l ∧
      (∀ n e, errands[n]? = some e → (ledger n).Attends (ledger (n + 1)) e) ∧
      ∀ n ≤ errands.length, ((errands.take n).foldl Duty.next d).Entered (ledger n) := by
  induction errands generalizing d l with
  | nil => exact ⟨fun _ => l, rfl, by simp, fun n _ => by simpa using h⟩
  | cons e errands ih =>
    obtain ⟨m, ha, hm⟩ := h.next e
    obtain ⟨ledger, h0, hn, he⟩ := ih hm
    refine ⟨l.before ledger, rfl, ?_, ?_⟩
    · rintro (_ | n) e' hu
      · obtain rfl : e = e' := by simpa using hu
        change l.Attends (ledger 0) e
        rw [h0]
        exact ha
      · exact hn n e' (by simpa using hu)
    · rintro (_ | n) hl
      · exact h
      · exact he n (by simpa using hl)

theorem ledgers_of_duty (session : f.peripheral.Session) (timing : Settings.Timing) (errands : List (Errand f)) :
    ∃ ledger : Nat → Ledger f.peripheral, ledger 0 = { session := session } ∧
      (∀ n e, errands[n]? = some e → (ledger n).Attends (ledger (n + 1)) e) ∧
      ∀ n ≤ errands.length, (duty f session timing (errands.take n)).Entered (ledger n) :=
  ledgers_of_errands errands ⟨rfl, rfl, ⟨rfl, rfl, rfl, rfl⟩, rfl⟩

lemma duty_take_succ {session : f.peripheral.Session} {timing : Settings.Timing} {errands : List (Errand f)} {n : Nat}
    (hn : n < errands.length) :
    duty f session timing (errands.take (n + 1)) = (duty f session timing (errands.take n)).next errands[n] := by
  rw [duty, List.take_add_one, List.getElem?_eq_getElem hn, Option.toList_some, List.foldl_concat, duty]

lemma Duty.heard_next (d : Duty f) (e : Errand f) : d.heard ⊆ (d.next e).heard := by
  cases e with
  | request | upload => exact List.Subset.refl _
  | call => exact List.subset_append_left _ _

lemma heard_take (session : f.peripheral.Session) (timing : Settings.Timing) (errands : List (Errand f)) (n : Nat) :
    (duty f session timing (errands.take n)).heard ⊆ (duty f session timing errands).heard := by
  have more (d : Duty f) (errands : List (Errand f)) : d.heard ⊆ (errands.foldl Duty.next d).heard := by
    induction errands generalizing d with
    | nil => exact List.Subset.refl _
    | cons e errands ih => exact List.Subset.trans (d.heard_next e) (ih _)
  conv_rhs => rw [← List.take_append_drop n errands, duty, List.foldl_append]
  exact more _ _

end Errands

end ParkingStation.Exchange
