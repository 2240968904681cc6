import ParkingStation.CardReader.Frame
import ParkingStation.Proofs.Framing.Delivery

namespace ParkingStation.CardReader

open Framing Control

lemma Frame.body_of_ofBody {bs : Bytes} {f : Frame} (h : Frame.ofBody bs = .ok f) :
    bs = f.kind :: f.cm :: f.pm :: f.data := by
  unfold Frame.ofBody at h
  split at h <;> cases h
  rfl

def Scan.Holds : Scan → Bytes → Prop
  | outside, _ => True
  | inside body check _, seen =>
    stx :: body.reverse <:+ seen.reverse ∧ check = Checksum.block stx body.reverse ∧ body.length ≤ maxBody

lemma conclude_ne_more (body : Bytes) : conclude body ≠ .more := by
  unfold conclude
  grind

lemma step_decided {scan next : Scan} {b : UInt8} {signal : Signal Frame} (h : step scan b = (next, signal))
    (hs : signal ≠ .more) : next = .outside := by
  cases scan <;> grind [step]

lemma Scan.Holds.more {scan next : Scan} {seen : Bytes} {b : UInt8} (hk : scan.Holds seen)
    (h : step scan b = (next, .more)) : next.Holds (b :: seen) := by
  cases scan with
  | outside =>
    simp only [step] at h
    split at h
    · rename_i hb
      cases h
      exact ⟨⟨seen.reverse, by simp [hb]⟩, rfl, Nat.zero_le _⟩
    · split at h
      · cases h
      · split at h <;> cases h
        trivial
  | inside body check pending =>
    obtain ⟨⟨gap, hg⟩, hc, hl⟩ := hk
    simp only [step] at h
    split at h
    · obtain ⟨-, hm⟩ := Prod.mk.inj h
      exact absurd hm (conclude_ne_more _)
    · split at h
      · rename_i hlt
        cases h
        refine ⟨⟨gap, by simp [← hg]⟩, ?_, hlt⟩
        rw [List.reverse_cons, Checksum.block_append, ← hc]
        rfl
      · cases h

lemma Scan.Holds.frame {scan next : Scan} {seen : Bytes} {b : UInt8} {f : Frame} (hk : scan.Holds seen)
    (h : step scan b = (next, .frame f)) : encode f = .ok (wire f) ∧ wire f <:+ (b :: seen).reverse := by
  cases scan with
  | outside => grind [step]
  | inside body check pending =>
    obtain ⟨⟨gap, hg⟩, hc, hl⟩ := hk
    simp only [step] at h
    split at h
    · rename_i he
      obtain ⟨he, rfl⟩ := he
      obtain ⟨rest, rfl⟩ := List.head?_eq_some_iff.mp he
      obtain ⟨-, hf⟩ := Prod.mk.inj h
      simp only [conclude] at hf
      split at hf <;> cases hf
      rename_i hf
      have hb := Frame.body_of_ofBody hf
      have hr : stx :: (etx :: rest).reverse = checked f := by
        rw [List.reverse_cons]
        exact congrArg (stx :: · ++ [etx]) hb
      have hlen : rest.length = f.data.length + 3 := by
        simpa using congrArg List.length hb
      have hw : Checksum.block 0 (checked f) = b := by
        rw [← hr, hc]
        rfl
      rw [encode, if_pos (by simp only [List.length_cons] at hl; omega)]
      exact ⟨rfl, gap, by rw [wire, hw, ← hr, ← List.append_assoc, hg, List.reverse_cons]⟩
    · split at h <;> cases h

lemma scanner_lawful : Lawful scanner where
  idle h := of_decide_eq_true h
  decided := step_decided

lemma holds_seen {scan : Scan} {seen : Bytes} (h : Candidate scanner scan seen) : scan.Holds seen := by
  induction h with
  | start => trivial
  | more _ hs _ ih => exact ih.more hs

def Scan.taken : Scan → Bytes
  | outside => []
  | inside body _ _ => body ++ [stx]

lemma seen_eq {scan : Scan} {seen : Bytes} (h : Candidate scanner scan seen) : seen = scan.taken := by
  induction h with
  | start => rfl
  | @more scan next seen b _ hs hi ih =>
    subst ih
    have hs : step scan b = (next, .more) := hs
    have hn : next ≠ .outside := of_decide_eq_false hi
    cases scan with
    | outside => grind [step, Scan.taken]
    | inside body check pending => grind [step, Scan.taken, conclude_ne_more]

lemma length_seen_lt {scan : Scan} {seen : Bytes} (h : Candidate scanner scan seen) : seen.length < maxFrame := by
  have hk := holds_seen h
  rw [seen_eq h] at hk ⊢
  cases scan with
  | outside => exact Nat.succ_pos _
  | inside body check pending =>
    have := hk.2.2
    simp only [Scan.taken, maxFrame, List.length_append, List.length_singleton]
    omega

lemma scanner_exact : Exact scanner := by
  intro scan next seen b f hc hs
  obtain ⟨he, gap, hg⟩ := (holds_seen hc).frame hs
  exact ⟨gap, wire f, he, hg.symm⟩

end ParkingStation.CardReader
