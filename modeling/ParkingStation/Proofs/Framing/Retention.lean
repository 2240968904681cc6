import ParkingStation.Proofs.Framing.Protocols

namespace ParkingStation

namespace Antenna

open Framing Control

variable {algorithm : Checksum.Algorithm}

lemma attempt_escapes (n : Nat) : attempt (scanner algorithm) .afterEscape (List.replicate n dle) = none := by
  induction n with
  | zero => rfl
  | succ n ih => exact ih

lemma rescan_escapes (algorithm : Checksum.Algorithm) (n : Nat) :
    rescan (scanner algorithm) (List.replicate n dle) = ([], List.replicate n dle) := by
  refine rescan_unfinished ?_
  cases n with
  | zero => rfl
  | succ n => exact attempt_escapes n

end Antenna

namespace Framing

def Protocol.Restarts : Protocol → Prop
  | antenna _ => True
  | cardReader | paymentReader _ => False

lemma Protocol.current (p : Protocol) {scan : p.Scan} {seen : Bytes} (h : Candidate p.scanner scan seen) :
    ∃ stale current, seen.reverse = stale ++ current ∧ Candidate p.scanner scan current.reverse ∧
      current.length < p.scanner.limit ∧ (¬ p.Restarts → stale = []) := by
  cases p with
  | antenna algorithm =>
    obtain ⟨stale, hs⟩ := Antenna.read_suffix h
    exact ⟨stale, _, hs.symm, Antenna.candidate_read h, Antenna.length_read_lt h, fun hn => absurd trivial hn⟩
  | cardReader =>
    refine ⟨[], seen.reverse, rfl, by rwa [List.reverse_reverse], ?_, fun _ => rfl⟩
    rw [List.length_reverse]
    exact CardReader.length_seen_lt h
  | paymentReader algorithm =>
    refine ⟨[], seen.reverse, rfl, by rwa [List.reverse_reverse], ?_, fun _ => rfl⟩
    rw [List.length_reverse]
    exact PaymentReader.length_seen_lt h

namespace Receiver

def fed (p : Protocol) (pieces : List Bytes) : Receiver p.Scan :=
  ((fresh p.scanner).readPieces p.scanner pieces).2

lemma fed_current (p : Protocol) (pieces : List Bytes) :
    ∃ stale current, (fed p pieces).buffer = stale ++ current ∧
      Candidate p.scanner (fed p pieces).scan current.reverse ∧ current.length < p.scanner.limit ∧
      (¬ p.Restarts → stale = []) := by
  obtain ⟨hs, -⟩ := readPieces_spec p.scanner_lawful _ (settled_fresh p.scanner) pieces
  obtain ⟨stale, current, hb, h⟩ := p.current hs.candidate
  refine ⟨stale, current, ?_, h⟩
  rw [← hb]
  exact (congrArg ((fed p pieces).seen.reverse ++ ·) hs.ahead).trans (List.append_nil _)

lemma fed_escapes (algorithm : Checksum.Algorithm) (n : Nat) :
    (fed (.antenna algorithm) [List.replicate n Control.dle]).buffer = List.replicate n Control.dle := by
  have hr := readPieces_eq_rescan (.antenna algorithm) [List.replicate n Control.dle]
  rw [List.flatten_singleton] at hr
  exact (Prod.mk.inj (hr.trans (Antenna.rescan_escapes algorithm n))).2

/-- The bytes kept are fewer than the largest frame has where no candidate begins over, and where one does, there is no
bound to them. Only those read before the candidate began over for the last time can be in excess. -/
theorem kept_below_limit_iff (p : Protocol) :
    ((∀ pieces, (fed p pieces).buffer.length < p.scanner.limit) ↔ ¬ p.Restarts) ∧
      ((∃ bound, ∀ pieces, (fed p pieces).buffer.length ≤ bound) ↔ ¬ p.Restarts) ∧
      ∀ pieces, ∃ stale current, (fed p pieces).buffer = stale ++ current ∧
        Candidate p.scanner (fed p pieces).scan current.reverse ∧ current.length < p.scanner.limit := by
  have unbounded (hr : p.Restarts) (n : Nat) : ∃ pieces, (fed p pieces).buffer.length = n := by
    cases p with
    | antenna algorithm =>
      refine ⟨_, (congrArg List.length (fed_escapes algorithm n)).trans List.length_replicate⟩
    | cardReader | paymentReader => exact hr.elim
  have bounded (hr : ¬ p.Restarts) (pieces : List Bytes) : (fed p pieces).buffer.length < p.scanner.limit := by
    obtain ⟨stale, current, hb, -, hl, hs⟩ := fed_current p pieces
    rwa [hb, hs hr]
  refine ⟨⟨fun h hr => ?_, bounded⟩, ⟨?_, fun hr => ⟨p.scanner.limit, fun pieces => ?_⟩⟩, fun pieces => ?_⟩
  · obtain ⟨pieces, hn⟩ := unbounded hr p.scanner.limit
    exact absurd (h pieces) (by omega)
  · rintro ⟨bound, h⟩ hr
    obtain ⟨pieces, hn⟩ := unbounded hr (bound + 1)
    exact absurd (h pieces) (by omega)
  · exact Nat.le_of_lt (bounded hr pieces)
  · obtain ⟨stale, current, hb, hc, hl, -⟩ := fed_current p pieces
    exact ⟨stale, current, hb, hc, hl⟩

theorem escapes_reach_limit :
    (fed (.antenna .forward) [List.replicate 530 Control.dle]).buffer.length = 530 ∧
      ¬ (fed (.antenna .forward) [List.replicate 530 Control.dle]).buffer.length <
        (Protocol.antenna .forward).scanner.limit := by
  have hl : (Protocol.antenna .forward).scanner.limit = 530 := rfl
  rw [fed_escapes, List.length_replicate, hl]
  exact ⟨rfl, Nat.lt_irrefl 530⟩

end Receiver

end Framing

end ParkingStation
