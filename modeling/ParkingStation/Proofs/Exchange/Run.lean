import Mathlib.Data.List.Induction
import Mathlib.Tactic.Lemma
import ParkingStation.Antenna.Request
import ParkingStation.CardReader.Request
import ParkingStation.Exchange.Controller.Step
import ParkingStation.PaymentReader.Request

/-! Runs of a controller: calls, between which others add work and change the session. -/

namespace ParkingStation.Exchange

inductive Fitting
  | antenna (settings : Settings.Antenna)
  | cardReader
  | paymentReader (key : PaymentReader.LoginBlock)

def Fitting.peripheral : Fitting → Peripheral
  | antenna settings => Antenna.peripheral settings
  | cardReader => CardReader.peripheral
  | paymentReader key => PaymentReader.peripheral key

inductive Demand (p : Peripheral)
  | submit (command : p.Command)
  | submitFirst (command : p.Command)
  | upload (chunks : List p.Chunk)
  | instruct (change : p.Session → p.Session)

inductive Call
  | woken
  | bytes (data : Bytes)
  | wrote (result : WriteResult)
  | tick
  deriving DecidableEq

def Call.input : Call → Input
  | woken => .woken
  | bytes data => .bytes data
  | wrote result => .wrote result
  | tick => .tick

lemma Call.input_ne (call : Call) (detail : String) : call.input ≠ .disconnected detail := by
  cases call <;> simp [input]

/-- While the line has writes to take, the end of the first of them is the only reason to call the controller. -/
def Call.InTurn (waiting : List Bytes) : Call → Prop
  | .wrote _ => waiting ≠ []
  | _ => waiting = []

instance (waiting : List Bytes) (call : Call) : Decidable (call.InTurn waiting) :=
  match call with
  | .wrote _ => inferInstanceAs (Decidable (waiting ≠ []))
  | .woken | .bytes _ | .tick => inferInstanceAs (Decidable (waiting = []))

lemma Call.InTurn.of_idle {call : Call} (hw : ∀ result, call ≠ .wrote result) : call.InTurn [] := by
  cases call with
  | wrote result => exact absurd rfl (hw result)
  | woken | bytes | tick => rfl

lemma Call.InTurn.busy {waiting : List Bytes} {result : WriteResult} (h : Call.InTurn waiting (.wrote result)) :
    1 ≤ waiting.length := List.length_pos_iff.mpr h

class Stimulus (I : Type) where
  input : I → Input

instance : Stimulus Call := ⟨Call.input⟩

instance : Stimulus Input := ⟨fun input => input⟩

inductive Turn (p : Peripheral) (I : Type := Call)
  | demand (demand : Demand p)
  | call (now : Nat) (call : I)

abbrev Incident (p : Peripheral) := Turn p Input

namespace Controller

variable {p : Peripheral} {I : Type} [Stimulus I]

def meet (c : Controller p) : Demand p → Controller p
  | .submit command => c.submit command
  | .submitFirst command => c.pushFront command
  | .upload chunks => (c.submitUpload chunks).2
  | .instruct change => { c with session := change c.session }

def turn (c : Controller p) : Turn p I → List Effect × Controller p
  | .demand demand => ([], c.meet demand)
  | .call now call => c.step now (Stimulus.input call)

def run (c : Controller p) : List (Turn p I) → List Effect × Controller p
  | [] => ([], c)
  | t :: ts =>
    let (effects, next) := c.turn t
    let (more, last) := next.run ts
    (effects ++ more, last)

def after (c : Controller p) (ts : List (Turn p I)) : Controller p := (c.run ts).2

lemma run_concat (c : Controller p) (ts : List (Turn p I)) (t : Turn p I) :
    c.run (ts ++ [t]) = ((c.run ts).1 ++ ((c.after ts).turn t).1, ((c.after ts).turn t).2) := by
  induction ts generalizing c with
  | nil => simp [run, after]
  | cons t' ts ih => simp [run, after, ih]

lemma after_concat (c : Controller p) (ts : List (Turn p I)) (t : Turn p I) :
    c.after (ts ++ [t]) = ((c.after ts).turn t).2 := by
  rw [after, run_concat]

theorem after_keep {P : Controller p → Prop} (ht : ∀ c (t : Turn p I), P c → P (c.turn t).2) (c : Controller p)
    (ts : List (Turn p I)) (hc : P c) : P (c.after ts) := by
  induction ts using List.reverseRecOn with
  | nil => exact hc
  | append_singleton ts t ih =>
    rw [after_concat]
    exact ht _ t ih

lemma meet_line (c : Controller p) (demand : Demand p) :
    (c.meet demand).timers = c.timers ∧ (c.meet demand).held = c.held ∧ (c.meet demand).receiver = c.receiver ∧
      (c.meet demand).outbox = c.outbox := by
  cases demand with
  | submit | submitFirst | instruct => exact ⟨rfl, rfl, rfl, rfl⟩
  | upload chunks =>
    simp only [meet, submitUpload]
    split <;> exact ⟨rfl, rfl, rfl, rfl⟩

lemma after_outbox (c : Controller p) (hc : c.outbox = []) (ts : List (Turn p I)) : (c.after ts).outbox = [] := by
  apply after_keep (P := fun c => c.outbox = []) _ c ts hc
  intro c t hc
  cases t with
  | call now call => cases h : Stimulus.input call <;> simp [turn, h, step, flush]
  | demand demand => exact (c.meet_line demand).2.2.2.trans hc

end Controller

def transmissions : List Effect → List Bytes :=
  List.filterMap fun
    | .transmit bytes => some bytes
    | .report _ => none

def reports : List Effect → List Event :=
  List.filterMap fun
    | .report event => some event
    | .transmit _ => none

@[simp] lemma transmissions_nil : transmissions [] = [] := rfl

@[simp] lemma transmissions_cons_transmit (bytes : Bytes) (effects : List Effect) :
    transmissions (.transmit bytes :: effects) = bytes :: transmissions effects := rfl

@[simp] lemma transmissions_cons_report (event : Event) (effects : List Effect) :
    transmissions (.report event :: effects) = transmissions effects := rfl

@[simp] lemma transmissions_append (xs ys : List Effect) :
    transmissions (xs ++ ys) = transmissions xs ++ transmissions ys := List.filterMap_append

@[simp] lemma reports_nil : reports [] = [] := rfl

@[simp] lemma reports_cons_transmit (bytes : Bytes) (effects : List Effect) :
    reports (.transmit bytes :: effects) = reports effects := rfl

@[simp] lemma reports_cons_report (event : Event) (effects : List Effect) :
    reports (.report event :: effects) = event :: reports effects := rfl

@[simp] lemma reports_append (xs ys : List Effect) : reports (xs ++ ys) = reports xs ++ reports ys :=
  List.filterMap_append

@[simp] lemma reports_map_report (events : List Event) : reports (events.map .report) = events := by
  induction events with
  | nil => rfl
  | cons event events ih => exact congrArg (event :: ·) ih

@[simp] lemma transmissions_map_report (events : List Event) : transmissions (events.map .report) = [] := by
  induction events with
  | nil => rfl
  | cons event events ih => exact ih

/-- Turns up to an instant, with the writes that the line has yet to take, oldest first: they are taken or fail one by
one before the controller is called again for another reason. -/
inductive Drive {p : Peripheral} (start : Controller p) : List (Turn p) → Nat → List Bytes → Prop
  | start (now : Nat) : Drive start [] now []
  | later {ts : List (Turn p)} {now later : Nat} {waiting : List Bytes} (h : Drive start ts now waiting)
      (hn : now ≤ later) : Drive start ts later waiting
  | demand {ts : List (Turn p)} {now : Nat} {waiting : List Bytes} (h : Drive start ts now waiting)
      (demand : Demand p) : Drive start (ts ++ [.demand demand]) now waiting
  | call {ts : List (Turn p)} {now : Nat} {waiting : List Bytes} (h : Drive start ts now waiting) (call : Call)
      (hi : call.InTurn waiting) : Drive start (ts ++ [.call now call]) now
        (waiting.tail ++ transmissions ((start.after ts).step now call.input).1)

lemma Drive.awaiting {p : Peripheral} {start : Controller p} {ts : List (Turn p)} {now : Nat} {waiting rest : List Bytes}
    (h : Drive start ts now waiting) (hw : waiting = rest) : Drive start ts now rest := hw ▸ h

def Driven {p : Peripheral} (start : Controller p) (now : Nat) (waiting : List Bytes) (c : Controller p) : Prop :=
  ∃ ts, Drive start ts now waiting ∧ start.after ts = c

variable {p : Peripheral} {origin c : Controller p} {now : Nat} {waiting rest : List Bytes}

lemma Driven.start (now : Nat) : Driven origin now [] origin := ⟨[], .start now, rfl⟩

lemma Driven.later {t : Nat} (h : Driven origin now waiting c) (hn : now ≤ t) : Driven origin t waiting c :=
  h.imp fun _ h => ⟨h.1.later hn, h.2⟩

lemma Driven.meet (h : Driven origin now waiting c) (demand : Demand p) : Driven origin now waiting (c.meet demand) := by
  obtain ⟨ts, h, rfl⟩ := h
  exact ⟨_, h.demand demand, by rw [Controller.after_concat]; rfl⟩

lemma Driven.turn {t : Nat} {call : Call} (h : Driven origin now waiting c) (hn : now ≤ t)
    (hi : call.InTurn waiting) :
    Driven origin t (waiting.tail ++ transmissions (c.step t call.input).1) (c.step t call.input).2 := by
  obtain ⟨ts, h, rfl⟩ := h
  exact ⟨_, (h.later hn).call call hi, by rw [Controller.after_concat]; rfl⟩

lemma Driven.call (h : Driven origin now [] c) (call : Call) (hw : ∀ result, call ≠ .wrote result) :
    Driven origin now (transmissions (c.step now call.input).1) (c.step now call.input).2 :=
  h.turn (Nat.le_refl now) (.of_idle hw)

lemma Driven.wrote {bytes : Bytes} (h : Driven origin now (bytes :: waiting) c) (result : WriteResult) :
    Driven origin now (waiting ++ transmissions (c.step now (.wrote result)).1) (c.step now (.wrote result)).2 :=
  have hi : Call.InTurn (bytes :: waiting) (.wrote result) := List.cons_ne_nil bytes waiting
  h.turn (Nat.le_refl now) hi

lemma Driven.awaiting (h : Driven origin now waiting c) (hw : waiting = rest) : Driven origin now rest c := hw ▸ h

@[elab_as_elim]
theorem Driven.induct {motive : ∀ now waiting c, Driven origin now waiting c → Prop} {now : Nat}
    {waiting : List Bytes} {c : Controller p}
    (start : ∀ now, motive now [] origin (.start now))
    (later : ∀ {now t waiting c} (h : Driven origin now waiting c) (hn : now ≤ t), motive now waiting c h →
      motive t waiting c (h.later hn))
    (meet : ∀ {now waiting c} (h : Driven origin now waiting c) (demand : Demand p), motive now waiting c h →
      motive now waiting (c.meet demand) (h.meet demand))
    (turn : ∀ {now waiting c} (h : Driven origin now waiting c) (call : Call) (hi : call.InTurn waiting),
      motive now waiting c h → motive _ _ _ (h.turn (Nat.le_refl now) hi))
    (h : Driven origin now waiting c) : motive now waiting c h := by
  obtain ⟨ts, h, rfl⟩ := h
  induction h with
  | start now => exact start now
  | later h hn ih => exact later ⟨_, h, rfl⟩ hn ih
  | demand h demand ih =>
    have hm := meet ⟨_, h, rfl⟩ demand ih
    simpa only [Controller.after_concat] using! hm
  | call h call hi ih =>
    have ht := turn ⟨_, h, rfl⟩ call hi ih
    simpa only [Controller.after_concat] using! ht

end ParkingStation.Exchange
