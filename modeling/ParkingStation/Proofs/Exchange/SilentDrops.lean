import ParkingStation.Proofs.Exchange.ScanSwitch
import ParkingStation.Proofs.PaymentReader.Hearing
import ParkingStation.Station.Basic

namespace ParkingStation

namespace Exchange

section Service

variable {f : Fitting} {errands : List (Errand f)} {ledger : Nat → Ledger f.peripheral}

/-- When a ticket had been submitted, the scan was stopped before errand `n` or another command left that put the
switch off, and no poll has been asked for since. -/
def PutOff (errands : List (Errand f)) (ledger : Nat → Ledger f.peripheral) (n : Nat)
    (left : List (Ticket f.peripheral × Fate f.peripheral)) (t : Ticket f.peripheral) : Prop :=
  ∃ serial k, t.serial = some serial ∧ serial < (ledger k).submitted.length ∧ k ≤ n ∧
    (∀ i r, k ≤ i → i < n → errands[i]? = some (.request r) → f.seeks r = false) ∧
    (k < n ∧ errands[k]? = some (.request f.stop) ∨
      ∃ x ∈ left.drop (ledger k).released.length, f.switch.putOffBy x = true ∧ x.1.serial ≠ t.serial)

variable {n : Nat} {l m : Ledger f.peripheral} {left : List (Ticket f.peripheral × Fate f.peripheral)}
  {t : Ticket f.peripheral}

lemma putOff_concat_iff {x : Ticket f.peripheral × Fate f.peripheral} (hl : (ledger n).released.length ≤ left.length)
    (ht : ∃ serial < (ledger n).submitted.length, t.serial = some serial) (hx : x.1.serial ≠ t.serial) :
    PutOff errands ledger n (left ++ [x]) t ↔ PutOff errands ledger n left t ∨ f.switch.putOffBy x = true := by
  constructor
  · rintro ⟨serial, k, hs, hk, hn, hq, hc⟩
    rcases hc with hc | ⟨y, hy, ho⟩
    · exact .inl ⟨serial, k, hs, hk, hn, hq, .inl hc⟩
    · rw [List.drop_append, List.mem_append] at hy
      rcases hy with hy | hy
      · exact .inl ⟨serial, k, hs, hk, hn, hq, .inr ⟨y, hy, ho⟩⟩
      · obtain rfl : y = x := List.mem_singleton.mp (List.mem_of_mem_drop hy)
        exact .inr ho.1
  · rintro (⟨serial, k, hs, hk, hn, hq, hc⟩ | ho)
    · refine ⟨serial, k, hs, hk, hn, hq, hc.imp id ?_⟩
      rintro ⟨y, hy, ho⟩
      exact ⟨y, List.drop_append ▸ List.mem_append_left _ hy, ho⟩
    · obtain ⟨serial, hk, hs⟩ := ht
      refine ⟨serial, n, hs, hk, Nat.le_refl n, fun i r hi hin => absurd hi (Nat.not_le.mpr hin), .inr ⟨x, ?_, ho, hx⟩⟩
      rw [List.drop_append_of_le_length hl]
      exact List.mem_append_right _ (List.mem_singleton_self x)

lemma putOff_succ_iff (hl : (ledger (n + 1)).released = left) :
    PutOff errands ledger (n + 1) left t ↔
      (∀ r, errands[n]? = some (.request r) → f.seeks r = false) ∧
        (PutOff errands ledger n left t ∨
          errands[n]? = some (.request f.stop) ∧ ∃ serial < (ledger n).submitted.length, t.serial = some serial) := by
  constructor
  · rintro ⟨serial, k, hs, hk, hn, hq, hc⟩
    rcases Nat.lt_or_eq_of_le hn with hkn | rfl
    · refine ⟨fun r he => hq n r (Nat.le_of_lt_succ hkn) (Nat.lt_succ_self n) he, ?_⟩
      have hq' : ∀ i r, k ≤ i → i < n → errands[i]? = some (.request r) → f.seeks r = false :=
        fun i r hi hin => hq i r hi (Nat.lt_succ_of_lt hin)
      rcases hc with ⟨-, he⟩ | hx
      · rcases Nat.lt_or_eq_of_le (Nat.le_of_lt_succ hkn) with hlt | rfl
        · exact .inl ⟨serial, k, hs, hk, Nat.le_of_lt hlt, hq', .inl ⟨hlt, he⟩⟩
        · exact .inr ⟨he, serial, hk, hs⟩
      · exact .inl ⟨serial, k, hs, hk, Nat.le_of_lt_succ hkn, hq', .inr hx⟩
    · rcases hc with ⟨hlt, -⟩ | ⟨x, hx, -⟩
      · exact absurd hlt (Nat.lt_irrefl _)
      · simp [hl] at hx
  · rintro ⟨hr, ⟨serial, k, hs, hk, hn, hq, hc⟩ | ⟨he, serial, hk, hs⟩⟩
    · refine ⟨serial, k, hs, hk, Nat.le_succ_of_le hn, fun i r hi hin he => ?_,
        hc.imp (fun ⟨hlt, he⟩ => ⟨Nat.lt_succ_of_lt hlt, he⟩) id⟩
      rcases Nat.lt_or_eq_of_le (Nat.le_of_lt_succ hin) with hlt | rfl
      · exact hq i r hi hlt he
      · exact hr r he
    · refine ⟨serial, n, hs, hk, Nat.le_succ n, fun i r hi hin hi' => ?_, .inl ⟨Nat.lt_succ_self n, he⟩⟩
      exact hr r (Nat.le_antisymm (Nat.le_of_lt_succ hin) hi ▸ hi')

structure Watched (errands : List (Errand f)) (ledger : Nat → Ledger f.peripheral) (n : Nat) (l : Ledger f.peripheral) :
    Prop where
  submitted : ∀ t ∈ l.line, f.switch.polls t.command = true → ∃ serial < l.submitted.length, t.serial = some serial
  off : ∀ t ∈ l.line, f.switch.polls t.command = true →
    (f.switch.isOn l.session = false ↔ PutOff errands ledger n l.released t)

lemma Watched.step (h : Watched errands ledger n l) (hs : l.submitted = (ledger n).submitted)
    (hr : (ledger n).released.length ≤ l.released.length) (hm : m.InOrder) (s : l.Step m) :
    Watched errands ledger n m := by
  have sub : ∀ t ∈ m.line, f.switch.polls t.command = true →
      ∃ serial < m.submitted.length, t.serial = some serial := by
    intro t ht hp
    rw [s.submitted]
    exact h.submitted t (s.line f.switch ht hp) hp
  refine ⟨sub, fun t ht hp => ?_⟩
  have hoff := h.off t (s.line f.switch ht hp) hp
  rcases s.switch f.switch with ⟨he, hk⟩ | ⟨x, he, hk⟩
  · rw [he, hk]
    exact hoff
  · obtain ⟨serial, hl, ht'⟩ := sub t ht hp
    have hn : ∃ serial < (ledger n).submitted.length, t.serial = some serial :=
      ⟨serial, by rwa [← hs, ← s.submitted], ht'⟩
    have hx : x.1.serial ≠ t.serial := hm.apart (by simp [he]) ht (by simp [ht'])
    rw [he, hk, putOff_concat_iff hr hn hx, ← hoff, Bool.and_eq_false_iff, Bool.not_eq_false']

lemma Watched.steps (h : Watched errands ledger n (ledger n)) (ho : (ledger n).InOrder) (s : (ledger n).Steps m) :
    Watched errands ledger n m ∧ m.InOrder ∧ ∃ new, m.released = (ledger n).released ++ new ∧
      ∀ earlier t events later, new = earlier ++ (t, .dropped events) :: later →
        PutOff errands ledger n ((ledger n).released ++ earlier) t := by
  induction s with
  | refl => exact ⟨h, ho, [], by simp, by simp⟩
  | @tail k m hs s ih =>
    obtain ⟨hk, hi, new, hn, hd⟩ := ih
    refine ⟨hk.step hs.submitted (by simp [hn]) (hi.step s) s, hi.step s, ?_⟩
    rcases s.released with he | ⟨u, fate, hu, he, -⟩
    · exact ⟨new, he.trans hn, hd⟩
    · refine ⟨new ++ [(u, fate)], by rw [he, hn, List.append_assoc], fun earlier t events later hl => ?_⟩
      rcases List.eq_nil_or_concat later with rfl | ⟨before, x, rfl⟩
      · obtain ⟨rfl, hx⟩ := List.append_inj' hl rfl
        rw [List.singleton_inj.mp hx] at he
        obtain ⟨ht, hp, hoff⟩ := s.dropped_off f.switch he
        rw [← hn]
        exact (hk.off t ht hp).mp hoff
      · refine hd earlier t events before ?_
        have hl : new ++ [(u, fate)] = (earlier ++ (t, .dropped events) :: before) ++ [x] := by simp [hl]
        exact (List.append_inj' hl rfl).1

lemma attends_request {r : f.Request} (ha : l.Attends m (.request r)) :
    m.session = f.prepare r l.session ∧ m.released = l.released ∧ l.submitted.length ≤ m.submitted.length ∧
      ∀ t ∈ m.line, f.switch.polls t.command = true →
        t ∈ l.line ∨ f.seeks r = true ∧ ∃ serial < m.submitted.length, t.serial = some serial := by
  obtain rfl : m = (f.demands r).foldl Ledger.meet (l.meet (.instruct (f.prepare r))) := ha
  unfold Fitting.demands
  cases hc : f.command? r with
  | none => exact ⟨rfl, rfl, Nat.le_refl _, fun t ht _ => .inl ht⟩
  | some x =>
    have hl : l.submitted.length < (l.submitted ++ [x]).length := by simp
    refine ⟨rfl, rfl, Nat.le_of_lt hl, fun t ht hp => ?_⟩
    have ht : t ∈ l.line ∨ t = ⟨x, some l.submitted.length⟩ := by
      simpa [Ledger.line, Ledger.meet, Ledger.submit, or_assoc] using ht
    refine ht.imp id ?_
    rintro rfl
    exact ⟨by simpa [Fitting.seeks, hc] using hp, _, hl, rfl⟩

lemma Watched.request {r : f.Request} (h : Watched errands ledger n (ledger n)) (he : errands[n]? = some (.request r))
    (ha : (ledger n).Attends (ledger (n + 1)) (.request r)) : Watched errands ledger (n + 1) (ledger (n + 1)) := by
  obtain ⟨hs, hr, hl, hline⟩ := attends_request ha
  refine ⟨fun t ht hp => ?_, fun t ht hp => ?_⟩
  · rcases hline t ht hp with ht | ⟨-, ht⟩
    · obtain ⟨serial, hlt, ht⟩ := h.submitted t ht hp
      exact ⟨serial, Nat.lt_of_lt_of_le hlt hl, ht⟩
    · exact ht
  · rw [hs, hr, putOff_succ_iff hr]
    rcases f.isOn_prepare r (ledger n).session with ⟨hk, hon⟩ | ⟨hk, hother⟩
    · constructor
      · intro hoff
        cases hoff.symm.trans hon
      · rintro ⟨hq, -⟩
        cases hk.symm.trans (hq r he)
    · have ht : t ∈ (ledger n).line := (hline t ht hp).resolve_right fun ⟨hn, _⟩ => by cases hn.symm.trans hk
      have hq : ∀ r', errands[n]? = some (.request r') → f.seeks r' = false := by
        intro r' he'
        cases he.symm.trans he'
        exact hk
      rcases hother with rfl | hkeep
      · exact ⟨fun _ => ⟨hq, .inr ⟨he, h.submitted t ht hp⟩⟩, fun _ => f.isOn_stop _⟩
      · rw [hkeep]
        refine (h.off t ht hp).trans ⟨fun ho => ⟨hq, .inl ho⟩, ?_⟩
        rintro ⟨-, ho | ⟨he', -⟩⟩
        · exact ho
        · cases he.symm.trans he'
          exact (h.off t ht hp).mp (hkeep ▸ f.isOn_stop _)

lemma Watched.pass (h : Watched errands ledger n (ledger (n + 1)))
    (he : ∀ r, errands[n]? ≠ some (.request r)) : Watched errands ledger (n + 1) (ledger (n + 1)) := by
  refine ⟨h.submitted, fun t ht hp => (h.off t ht hp).trans ?_⟩
  rw [putOff_succ_iff rfl]
  refine ⟨fun ho => ⟨fun r hr => absurd hr (he r), .inl ho⟩, ?_⟩
  rintro ⟨-, ho | ⟨hr, -⟩⟩
  · exact ho
  · exact absurd hr (he _)

theorem Watched.attends {e : Errand f} (h : Watched errands ledger n (ledger n)) (ho : (ledger n).InOrder)
    (he : errands[n]? = some e) (ha : (ledger n).Attends (ledger (n + 1)) e) :
    Watched errands ledger (n + 1) (ledger (n + 1)) ∧
      ∀ earlier t events later, (ledger (n + 1)).released =
        (ledger n).released ++ earlier ++ (t, .dropped events) :: later →
          PutOff errands ledger n ((ledger n).released ++ earlier) t := by
  cases e with
  | request r =>
    refine ⟨h.request he ha, fun earlier t events later hd => ?_⟩
    simp [(attends_request ha).2.1] at hd
  | upload chunks =>
    have hm : ledger (n + 1) = ledger n := ha
    refine ⟨Watched.pass (by rwa [hm]) (by simp [he]), fun earlier t events later hd => ?_⟩
    simp [hm] at hd
  | call now call =>
    obtain ⟨hw, -, new, hn, hd⟩ := h.steps ho ha
    refine ⟨hw.pass (by simp [he]), fun earlier t events later hl => ?_⟩
    rw [hn, List.append_assoc] at hl
    exact hd earlier t events later (List.append_cancel_left hl)

end Service

/-- Between the errands of a service the switch is off, for a poll that waits, exactly if it was put off after the poll
was submitted: on request or with another command. Only then is the poll dropped, and nothing is said of it. -/
theorem dropped_after_put_off (f : Fitting) (session : f.peripheral.Session) (timing : Settings.Timing)
    (errands : List (Errand f)) :
    ∃ ledger : Nat → Ledger f.peripheral, ledger 0 = { session := session } ∧
      (∀ n e, errands[n]? = some e → (ledger n).Attends (ledger (n + 1)) e) ∧
      (∀ n ≤ errands.length, (duty f session timing (errands.take n)).Entered (ledger n) ∧
        ∀ t ∈ (ledger n).line, f.switch.polls t.command = true →
          (f.switch.isOn (ledger n).session = false ↔ PutOff errands ledger n (ledger n).released t)) ∧
      ∀ n < errands.length, ∀ earlier t events later,
        (ledger (n + 1)).released = (ledger n).released ++ earlier ++ (t, .dropped events) :: later →
          events = [] ∧ PutOff errands ledger n ((ledger n).released ++ earlier) t := by
  obtain ⟨ledger, h0, ha, he⟩ := ledgers_of_duty session timing errands
  have hg {n : Nat} (hn : n < errands.length) : errands[n]? = some errands[n] := List.getElem?_eq_getElem hn
  have hw (n : Nat) (hn : n ≤ errands.length) : (ledger n).Kept session ∧ Watched errands ledger n (ledger n) := by
    induction n with
    | zero => exact h0 ▸ ⟨.start, nofun, nofun⟩
    | succ n ih =>
      obtain ⟨hk, hw⟩ := ih (Nat.le_of_lt hn)
      exact ⟨hk.attends (ha n _ (hg hn)), (hw.attends hk.inOrder (hg hn) (ha n _ (hg hn))).1⟩
  refine ⟨ledger, h0, ha, fun n hn => ⟨he n hn, (hw n hn).2.off⟩, fun n hn earlier t events later hd => ?_⟩
  obtain ⟨hk, hn'⟩ := hw n (Nat.le_of_lt hn)
  refine ⟨((hw (n + 1) hn).1.told f.discreet).dropped t events (by simp [hd]), ?_⟩
  exact (hn'.attends hk.inOrder (hg hn) (ha n _ (hg hn))).2 earlier t events later hd

end Exchange

open Exchange

namespace PaymentReader

def cardId : Bytes := [0xaa, 0x90, 0x00, 0x10, 0x01, 0x00, 0x80, 0x00, 0x12, 0x34, 0x12, 0x34, 0x12, 0x34, 0xf2, 0xdf]

def noBalance : Bytes := [0xaa, 0x91, 0x00, 0x08, 0x02, 0x01, 0x3a, 0x03]

abbrev reader : Fitting := .paymentReader Station.noKey

def twoPolls : List (Errand reader) :=
  [.request Request.getCardId, .request Request.getCardBalance, .call 0 .woken, .call 0 (.wrote .completed),
    .call 0 (.bytes cardId), .call 0 (.wrote .completed)]

theorem second_poll_dropped :
    ∃ errands : List (Errand reader), (∀ n : Nat, errands[n]? ≠ some (Errand.request reader.stop)) ∧
      let d := duty reader ({} : Session) { interFrameDelay := 0 } errands
      d.submitted = [Command.getCardId, Command.getCardBalance] ∧
        d.events = [.succeeded .paymentReader "GetCardId" [("card_id", "8000123412341234")]] ∧
        d.controller.command = some ⟨Command.getCardBalance, 1⟩ ∧
        (d.controller.step 0 (.bytes noBalance)).1 = [] ∧
        (d.controller.step 0 (.bytes noBalance)).2.command = none ∧
        (d.controller.step 0 (.bytes noBalance)).2.queue.commands = [] := by
  let asked := duty reader ({} : Session) { interFrameDelay := 0 } (twoPolls.take 4)
  let read := hearReply 0 ⟨true, 0x10, (cardId.drop 4).take 10⟩ asked
  have hr : asked.next (.call 0 (.bytes cardId)) = read :=
    next_bytes (receiver_fresh (by decide +kernel)) (by decide +kernel)
  have hd : duty reader ({} : Session) { interFrameDelay := 0 } twoPolls = read.next (.call 0 (.wrote .completed)) := by
    rw [← hr]
    rfl
  refine ⟨twoPolls, ?_, ?_⟩
  · rintro (_ | _ | _ | _ | _ | _ | n) hn <;> cases hn
  have hs : (read.next (.call 0 (.wrote .completed))).controller.step 0 (.bytes noBalance) =
      hearFrame 0 ⟨true, 0x11, [2, 1]⟩ (read.next (.call 0 (.wrote .completed))).controller :=
    step_bytes (receiver_fresh (by decide +kernel)) (by decide +kernel)
  dsimp only
  rw [hd, hs]
  exact ⟨rfl, by decide +kernel⟩

end PaymentReader

end ParkingStation
