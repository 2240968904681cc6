import ParkingStation.Proofs.Exchange.Moves
import ParkingStation.Proofs.PaymentReader.Replies

/-! Every deduction that goes through on a card is reported final, reported lost, or still pending with its
flush next in line. -/

namespace ParkingStation.PaymentReader

open Exchange

variable {key : LoginBlock}

def asked (j : Judgement (peripheral key)) : Command := j.command

def accepted? (j : Judgement (peripheral key)) : Option Record :=
  match asked j with
  | .deduct _ => record? j.frame
  | _ => none

def confirmed (j : Judgement (peripheral key)) : Bool :=
  match asked j with
  | .flush => confirms j.frame
  | _ => false

def CutFlush (j : Judgement (peripheral key)) : Prop := asked j = .flush ∧ CutShort j.frame

structure Books where
  last : Option Record := none
  receipts : List Event := []

def Books.enter (b : Books) (j : Judgement (peripheral key)) : Books :=
  match accepted? j with
  | some record => { b with last := some record }
  | none => if confirmed j then { b with receipts := b.receipts ++ (b.last.map receipt).toList } else b

def booksOf (js : List (Judgement (peripheral key))) : Books := js.foldl Books.enter {}

structure Account (key : LoginBlock) where
  heard : List (Judgement (peripheral key))
  events : List Event
  pending : Option Record
  line : List Command

/-- A deduction is pending exactly while its flush is first in line, and each one completed is reported or pending. -/
structure Balanced (a : Account key) : Prop where
  count : a.heard.countP (fun j => (accepted? j).isSome) =
    a.events.countP isReceipt + a.events.countP isLoss + a.pending.toList.length
  receipts : a.events.filter isReceipt = (booksOf a.heard).receipts
  once : ∀ j ∈ a.heard, (accepted? j).isSome → j.session.pendingDeduct = none
  settled : a.pending = none → .flush ∉ a.line
  pending : ∀ record, a.pending = some record →
    (booksOf a.heard).last = some record ∧ ∃ rest, a.line = .flush :: rest ∧ .flush ∉ rest

def Stranded (a : Account key) : Prop := a.pending.isSome ∧ .flush ∉ a.line

instance (a : Account key) : Decidable (Stranded a) := inferInstanceAs (Decidable (_ ∧ _))

lemma Stranded.not_balanced {a : Account key} (h : Stranded a) : ¬ Balanced a := by
  obtain ⟨hp, hn⟩ := h
  obtain ⟨record, hr⟩ := Option.isSome_iff_exists.mp hp
  intro hb
  obtain ⟨-, rest, hl, -⟩ := hb.pending record hr
  exact hn (by simp [hl])

def Unmoved (j : Judgement (peripheral key)) : Prop := accepted? j = none ∧ confirmed j = false

lemma books_concat (js : List (Judgement (peripheral key))) (j : Judgement (peripheral key)) :
    booksOf (js ++ [j]) = (booksOf js).enter j := by
  simp [booksOf]

lemma books_unmoved {js : List (Judgement (peripheral key))} {j : Option (Judgement (peripheral key))}
    (h : ∀ k ∈ j, Unmoved k) : booksOf (js ++ j.toList) = booksOf js := by
  cases j with
  | none => simp
  | some j =>
    obtain ⟨ha, hc⟩ := h j rfl
    simp [books_concat, Books.enter, ha, hc]

lemma Plain.counts {events : List Event} (h : Plain events) :
    events.countP isReceipt = 0 ∧ events.countP isLoss = 0 ∧ events.filter isReceipt = [] :=
  ⟨List.countP_eq_zero.mpr fun e he => by simp [(h e he).1], List.countP_eq_zero.mpr fun e he => by simp [(h e he).2],
    List.filter_eq_nil_iff.mpr fun e he => by simp [(h e he).1]⟩

section Entries

variable {a b : Account key} {j : Option (Judgement (peripheral key))} {es : List Event} {record : Record}

lemma count_unmoved (hj : ∀ k ∈ j, Unmoved k) : j.toList.countP (fun j => (accepted? j).isSome) = 0 := by
  cases j with
  | none => rfl
  | some j => simp [(hj j rfl).1]

lemma Balanced.once_unmoved (h : Balanced a) (hh : b.heard = a.heard ++ j.toList) (hj : ∀ k ∈ j, Unmoved k) :
    ∀ k ∈ b.heard, (accepted? k).isSome → k.session.pendingDeduct = none := by
  intro k hk ha
  rw [hh, List.mem_append] at hk
  rcases hk with hk | hk
  · exact h.once k hk ha
  · simp [(hj k (by simpa using hk)).1] at ha

lemma Balanced.unmoved (h : Balanced a) (hh : b.heard = a.heard ++ j.toList) (hj : ∀ k ∈ j, Unmoved k)
    (he : b.events = a.events ++ es) (hes : Plain es) (hp : b.pending = a.pending)
    (hl : b.line = a.line ∨ a.pending = none ∧ .flush ∉ b.line) : Balanced b := by
  obtain ⟨hr, hs, hf⟩ := hes.counts
  refine ⟨?_, ?_, h.once_unmoved hh hj, fun hb => ?_, fun record hb => ?_⟩
  · rw [hh, he, hp, List.countP_append, List.countP_append, List.countP_append, count_unmoved hj, hr, hs]
    exact h.count
  · rw [hh, he, books_unmoved hj, List.filter_append, hf, List.append_nil]
    exact h.receipts
  · rcases hl with hl | ⟨-, hl⟩
    · exact hl ▸ h.settled (hp ▸ hb)
    · exact hl
  · rw [hp] at hb
    rcases hl with hl | ⟨hn, -⟩
    · rw [hh, books_unmoved hj, hl]
      exact h.pending record hb
    · cases hn.symm.trans hb

lemma Balanced.unheard (h : Balanced a) (hh : b.heard = a.heard) (he : b.events = a.events ++ es) (hes : Plain es)
    (hp : b.pending = a.pending) (hl : b.line = a.line ∨ a.pending = none ∧ .flush ∉ b.line) : Balanced b :=
  h.unmoved (j := none) (by simp [hh]) (by simp) he hes hp hl

lemma Balanced.heard_unmoved {j : Judgement (peripheral key)} (h : Balanced a) (hh : b.heard = a.heard ++ [j])
    (hj : Unmoved j) (he : b.events = a.events ++ es) (hes : Plain es) (hp : b.pending = a.pending)
    (hl : b.line = a.line ∨ a.pending = none ∧ .flush ∉ b.line) : Balanced b :=
  h.unmoved (j := some j) hh (by simpa using hj) he hes hp hl

lemma Balanced.open {j : Judgement (peripheral key)} (h : Balanced a) (hp : a.pending = none)
    (hj : accepted? j = some record) (hs : j.session.pendingDeduct = none) (hh : b.heard = a.heard ++ [j])
    (he : b.events = a.events) (hb : b.pending = some record)
    (hl : ∃ rest, b.line = .flush :: rest ∧ .flush ∉ rest) : Balanced b := by
  have hk : booksOf b.heard = { booksOf a.heard with last := some record } := by
    rw [hh, books_concat]
    simp [Books.enter, hj]
  refine ⟨?_, ?_, ?_, by simp [hb], fun r hr => ?_⟩
  · have := h.count
    simp [hp] at this
    simp [hh, he, hb, hj, this]
  · rw [hk, he]
    exact h.receipts
  · intro k hm ha
    rw [hh, List.mem_append] at hm
    rcases hm with hm | hm
    · exact h.once k hm ha
    · exact List.mem_singleton.mp hm ▸ hs
  · rw [hb] at hr
    exact ⟨by rw [hk, hr], hl⟩

lemma Balanced.final {j : Judgement (peripheral key)} (h : Balanced a) (hp : a.pending = some record)
    (hj : accepted? j = none) (hc : confirmed j = true) (hh : b.heard = a.heard ++ [j])
    (he : b.events = a.events ++ [receipt record]) (hb : b.pending = none) (hl : .flush ∉ b.line) : Balanced b := by
  obtain ⟨hk, -⟩ := h.pending record hp
  refine ⟨?_, ?_, ?_, fun _ => hl, by simp [hb]⟩
  · have := h.count
    simp [hp] at this
    simp [hh, he, hb, hj, this, isReceipt, isLoss, receipt]
    omega
  · rw [hh, he, books_concat, List.filter_append, h.receipts]
    simp [Books.enter, hj, hc, hk, isReceipt, receipt]
  · intro k hm ha
    rw [hh, List.mem_append] at hm
    rcases hm with hm | hm
    · exact h.once k hm ha
    · simp [List.mem_singleton.mp hm, hj] at ha

lemma Balanced.lose (h : Balanced a) (hp : a.pending = some record)
    (hh : b.heard = a.heard ++ j.toList) (hj : ∀ k ∈ j, Unmoved k)
    (he : ∃ reason detail, b.events = a.events ++ es ++ [loss reason detail]) (hes : Plain es) (hb : b.pending = none)
    (hl : .flush ∉ b.line) : Balanced b := by
  obtain ⟨hr, hf, hn⟩ := hes.counts
  obtain ⟨reason, detail, he⟩ := he
  have hi : isReceipt (loss reason detail) = false := rfl
  have ho : isLoss (loss reason detail) = true := by
    simp [isLoss, loss, blamesFlush, String.toList_append]
  refine ⟨?_, ?_, h.once_unmoved hh hj, fun _ => hl, by simp [hb]⟩
  · have := h.count
    simp [hp] at this
    rw [hh, List.countP_append, count_unmoved hj]
    simp [he, hb, this, hr, hf, hi, ho]
    omega
  · rw [hh, he, books_unmoved hj]
    simp [hn, hi, h.receipts]

end Entries

end ParkingStation.PaymentReader
