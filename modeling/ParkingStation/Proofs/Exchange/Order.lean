import ParkingStation.Proofs.Exchange.Bookkeeping
import ParkingStation.Proofs.Exchange.Resolution

namespace ParkingStation.Exchange

variable {p : Peripheral}

/-- A ledger agrees with a run: with what was submitted and heard, what is in flight and waits, and what was reported.
The commands submitted left and stand in order, each in one place; those that merged are the only ones missing. -/
structure Tells (c : Controller p) (turns : List (Turn p)) (l : Ledger p) : Prop where
  submitted : l.submitted = turns.filterMap submission?
  heard : l.heard = c.runJudged turns
  current : l.current.map (·.command) = (c.run turns).2.command.map (·.item)
  waiting : l.waiting.map (·.command) = (c.run turns).2.queue.commands
  events : l.events = reports (c.run turns).1
  order : Ledger.own (l.released.map (·.1) ++ l.current.toList ++ l.waiting) =
    (Ledger.numbered l.submitted).filter fun t => !l.gaveWay t
  told : l.Told

/-- Turn by turn, the commands of a run move by the steps of a ledger only, each of which says what is reported. -/
theorem served_in_order (f : Fitting) (session : f.peripheral.Session) (timing : Settings.Timing)
    (turns : List (Turn f.peripheral)) :
    ∃ ledger : Nat → Ledger f.peripheral, ledger 0 = { session := session } ∧
      (∀ n t, turns[n]? = some t → (ledger n).Follows (ledger (n + 1)) t) ∧
      ∀ n ≤ turns.length, Tells (.fresh f.peripheral session timing) (turns.take n) (ledger n) := by
  have hf : Controller.Records [] { session := session } (Controller.fresh f.peripheral session timing) :=
    ⟨rfl, rfl, rfl, rfl⟩
  obtain ⟨ledger, h0, hn, ha⟩ := ledgers_of_run turns hf
  refine ⟨ledger, h0, hn, ?_⟩
  have kept (n : Nat) (hl : n ≤ turns.length) : (ledger n).Kept session := by
    induction n with
    | zero => exact h0 ▸ .start
    | succ n ih => exact (ih (by omega)).follows (hn n turns[n] (List.getElem?_eq_getElem hl))
  intro n hl
  obtain ⟨hs, hh, hr⟩ := ha n hl
  have ho : ((Controller.fresh f.peripheral session timing).run (turns.take n)).2.outbox = [] :=
    Controller.after_outbox _ rfl _
  have he := hr.events
  rw [ho] at he
  exact ⟨hs, hh, hr.current, hr.waiting, by simpa using he, (kept n hl).inOrder.order, (kept n hl).told f.discreet⟩

end ParkingStation.Exchange
