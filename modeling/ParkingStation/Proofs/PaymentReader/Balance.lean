import ParkingStation.Proofs.PaymentReader.Hearing
import ParkingStation.Proofs.PaymentReader.Payments
import ParkingStation.Station.Basic

namespace ParkingStation

open Exchange

variable {key : PaymentReader.LoginBlock}

def Exchange.Duty.account (d : Duty (.paymentReader key)) : PaymentReader.Account key where
  heard := d.heard
  events := d.events
  pending := (d.controller.session : PaymentReader.Session).pendingDeduct
  line := d.controller.roster

namespace PaymentReader

section Service

variable {d : Duty (.paymentReader key)} {e : Errand (.paymentReader key)}
  {l m : Ledger (Fitting.paymentReader key).peripheral}

lemma account_entered (h : d.Entered l) : account l = d.account := by
  have he : l.events = d.events := by simpa [h.outbox] using h.records.events
  have hl : line l = d.controller.roster := h.roster
  change (⟨l.heard, l.events, (l.session : Session).pendingDeduct, line l⟩ : Account key) = d.account
  rw [h.heard, he, hl, h.records.session]
  rfl

lemma balanced_fresh : Balanced (account ({ session := {} } : Ledger (peripheral key))) :=
  ⟨rfl, rfl, by simp [account], by simp [account, line], by simp [account]⟩

lemma Balanced.submit {l : Ledger (peripheral key)} {command : Command} (h : Balanced (account l))
    (hc : command ≠ .flush) : Balanced (account (l.meet (.submit command))) := by
  have hl : line (l.meet (.submit command)) = line l ++ [command] := by
    simp [line, Ledger.meet, Ledger.submit, wanted]
  refine ⟨h.count, h.receipts, h.once, fun hp => ?_, fun record hp => ?_⟩
  · have hn := h.settled hp
    simpa [account, hl, hc.symm] using hn
  · obtain ⟨hk, rest, hr, hn⟩ := h.pending record hp
    exact ⟨hk, rest ++ [command], hl.trans (congrArg (· ++ [command]) hr), by simpa [hc.symm] using hn⟩

lemma Balanced.request {r : Request} (h : Balanced (account l)) (ha : l.Attends m (.request r)) :
    Balanced (account m) := by
  have hp : (r.prepare l.session).pendingDeduct = l.session.pendingDeduct := by cases r <;> rfl
  have hi : Balanced (account (l.meet (.instruct r.prepare))) := by
    have he : account (l.meet (.instruct r.prepare)) = account l :=
      congrArg (fun pending => { account l with pending := pending }) hp
    exact he ▸ h
  have hm : m = (((Fitting.command? (.paymentReader key) r).map Demand.submit).toList).foldl Ledger.meet
      (l.meet (.instruct r.prepare)) := ha
  subst hm
  cases hc : Fitting.command? (.paymentReader key) r with
  | none => exact hi
  | some command =>
    have hf : command ≠ Command.flush := by
      rintro rfl
      cases r <;> cases hc
    exact hi.submit hf

lemma Balanced.call {now : Nat} {call : Call} (hb : Balanced (account l)) (h : d.Entered l) (hs : l.Steps m)
    (hm : (d.next (.call now call)).Entered m) (hn : ∀ j ∈ d.heard, ¬ CutFlush j) :
    ((∀ j ∈ m.heard, ¬ CutFlush j) → Balanced (account m)) ∧
      ((∃ j ∈ m.heard, CutFlush j) → Stranded (account m)) := by
  refine balanced_steps hb hs (h.heard ▸ hn) fun (j : Judgement (Fitting.paymentReader key).peripheral) hj hc => ?_
  obtain ⟨reason, detail, hv, -⟩ := cutFlush_judge hc
  rw [hm.heard] at hj
  change j ∈ (d.heard ++ d.controller.judged now call.input).dropLast at hj
  by_cases hj' : d.controller.judged now call.input = []
  · rw [hj', List.append_nil] at hj
    exact hn j (List.dropLast_subset _ hj) hc
  · rw [List.dropLast_append_of_ne_nil hj', List.mem_append] at hj
    rcases hj with hj | hj
    · exact hn j hj hc
    · obtain ⟨detail, hu⟩ := Controller.judged_unrelated hj
      cases hu.symm.trans hv

theorem Balanced.attends (hb : Balanced (account l)) (h : d.Entered l) (ha : l.Attends m e) (hm : (d.next e).Entered m)
    (hn : ∀ j ∈ d.heard, ¬ CutFlush j) :
    ((∀ j ∈ m.heard, ¬ CutFlush j) → Balanced (account m)) ∧
      ((∃ j ∈ m.heard, CutFlush j) → Stranded (account m)) := by
  cases e with
  | request r =>
    refine ⟨fun _ => hb.request ha, fun ⟨j, hj, hc⟩ => absurd hc (hn j ?_)⟩
    rwa [hm.heard] at hj
  | upload chunks =>
    obtain rfl : m = l := ha
    exact ⟨fun _ => hb, fun ⟨j, hj, hc⟩ => absurd hc (hn j (h.heard ▸ hj))⟩
  | call now call => exact hb.call h ha hm hn

end Service

/-- The account balances at every point of a service exactly if none of its flushes is answered by a reply without room
for a status. -/
theorem balanced_throughout_iff (key : LoginBlock) (timing : Settings.Timing)
    (errands : List (Errand (.paymentReader key))) :
    (∀ n, Balanced (duty _ (Fitting.blank (.paymentReader key)) timing (errands.take n)).account) ↔
      ∀ j ∈ (duty _ (Fitting.blank (.paymentReader key)) timing errands).heard, ¬ CutFlush j := by
  obtain ⟨ledger, h0, ha, he⟩ := ledgers_of_duty (Fitting.blank (.paymentReader key)) timing errands
  -- Up to an errand, the account balances as long as nothing is cut short, and the first flush cut short unbalances it.
  have next {n : Nat} (hl : n < errands.length) (hb : Balanced (account (ledger n)))
      (hn : ∀ j ∈ (duty _ (Fitting.blank (.paymentReader key)) timing (errands.take n)).heard, ¬ CutFlush j) :=
    have hm := he (n + 1) hl
    hb.attends (he n (Nat.le_of_lt hl)) (ha n _ (List.getElem?_eq_getElem hl)) (by rwa [duty_take_succ hl] at hm) hn
  have kept (n : Nat) (hl : n ≤ errands.length)
      (hn : ∀ j ∈ (duty _ (Fitting.blank (.paymentReader key)) timing (errands.take n)).heard, ¬ CutFlush j) :
      Balanced (account (ledger n)) := by
    induction n with
    | zero => exact h0 ▸ balanced_fresh
    | succ n ih =>
      have hp : ∀ j ∈ (duty _ (Fitting.blank (.paymentReader key)) timing (errands.take n)).heard, ¬ CutFlush j := by
        intro j hj
        refine hn j ?_
        rw [duty_take_succ hl]
        exact Duty.heard_next _ _ hj
      exact (next hl (ih (Nat.le_of_lt hl) hp) hp).1 ((he (n + 1) hl).heard ▸ hn)
  constructor
  · intro hb
    have uncut (n : Nat) (hl : n ≤ errands.length) :
        ∀ j ∈ (duty _ (Fitting.blank (.paymentReader key)) timing (errands.take n)).heard, ¬ CutFlush j := by
      induction n with
      | zero => simp [duty]
      | succ n ih =>
        have hp := ih (Nat.le_of_lt hl)
        intro j hj hc
        have hm : j ∈ (ledger (n + 1)).heard := by rwa [(he (n + 1) hl).heard]
        have hs := (next hl (kept n (Nat.le_of_lt hl) hp) hp).2 ⟨j, hm, hc⟩
        rw [account_entered (he (n + 1) hl)] at hs
        exact hs.not_balanced (hb (n + 1))
    simpa using uncut errands.length (Nat.le_refl _)
  · intro hn n
    rcases Nat.le_total n errands.length with hl | hl
    · rw [← account_entered (he n hl)]
      exact kept n hl fun j hj => hn j (heard_take _ timing errands n hj)
    · rw [List.take_of_length_le hl]
      have hk := kept errands.length (Nat.le_refl _) (by simpa using hn)
      rwa [account_entered (he _ (Nat.le_refl _)), List.take_length] at hk

def deducted : Bytes := [0xaa, 0x92, 0x00, 0x1c, 0x01, 0x00, 0x80, 0x00, 0x12, 0x34, 0x12, 0x34, 0x12, 0x34, 0x00, 0x00,
  0x64, 0x00, 0x04, 0xe2, 0x00, 0x00, 0x00, 0x3c, 0x28, 0x05, 0xd2, 0xb5]

def cutShort : Bytes := [0xaa, 0x93, 0x00, 0x07, 0x02, 0x99, 0x50]

def cutShortErrands : List (Errand (.paymentReader Station.noKey)) :=
  [.request (Request.deduct 100), .call 0 .woken, .call 0 (.wrote .completed), .call 0 (.bytes deducted),
    .call 0 (.wrote .completed), .call 0 (.bytes cutShort)]

theorem cut_short_flush_unbalances :
    ¬ Balanced (duty _ (Fitting.blank (.paymentReader Station.noKey)) { interFrameDelay := 0 }
      cutShortErrands).account := by
  let serve := duty _ (Fitting.blank (.paymentReader Station.noKey)) { interFrameDelay := 0 }
  let opened := hearReply 0 ⟨true, 0x12, (deducted.drop 4).take 22⟩ (serve (cutShortErrands.take 3))
  have ho : (serve (cutShortErrands.take 3)).next (.call 0 (.bytes deducted)) = opened :=
    next_bytes (receiver_fresh (by decide +kernel)) (by decide +kernel)
  have hc : serve cutShortErrands = hearReply 0 ⟨true, 0x13, [0x02]⟩ (opened.next (.call 0 (.wrote .completed))) := by
    have hs : (opened.next (.call 0 (.wrote .completed))).controller.receiver = .fresh (scanner .forward) :=
      receiver_fresh (by decide +kernel)
    rw [← ho] at hs ⊢
    exact next_bytes hs (by decide +kernel)
  apply Stranded.not_balanced
  change Stranded (serve cutShortErrands).account
  rw [hc]
  decide +kernel

end PaymentReader

end ParkingStation
