import Mathlib.Data.List.Induction
import Mathlib.Tactic.Lemma
import ParkingStation.Exchange.Timers

/-! The two timers that guard a reply share the counts of replies, so one whose reply has arrived fires all the
same once the other one has been started. -/

namespace ParkingStation.Exchange

inductive Use
  | start (timer : Timer) (now : Nat)
  | holdWrite (deadline : Nat)
  | stop (timer : Timer)
  | stopAll
  | markAnswered
  | fire (timer : Timer) (now : Nat)
  | heard (now : Nat)

namespace Use

def deadline? (timing : Settings.Timing) (timer : Timer) : Use → Option Nat
  | .start other now => if timer = other then some (now + Timers.duration timer { timing }) else none
  | .holdWrite deadline => if timer = .writeSpacing then some deadline else none
  | _ => none

def Ends (timer : Timer) (deadline : Nat) : Use → Prop
  | .start other _ | .stop other => timer = other
  | .holdWrite _ => timer = .writeSpacing
  | .stopAll => True
  | .fire other now => timer = other ∧ deadline ≤ now
  | .markAnswered | .heard _ => False

def opensReply : Use → Prop
  | .start timer _ => timer.guardsReply = true
  | _ => False

lemma opensReply_of_deadline {timing : Settings.Timing} {timer : Timer} {deadline : Nat} {use : Use}
    (hg : timer.guardsReply = true) (hd : use.deadline? timing timer = some deadline) : use.opensReply := by
  cases use with
  | start other now =>
    simp only [deadline?, Option.ite_none_right_eq_some] at hd
    exact hd.1 ▸ hg
  | holdWrite =>
    simp only [deadline?, Option.ite_none_right_eq_some] at hd
    rw [hd.1] at hg
    cases hg
  | stop | stopAll | markAnswered | fire | heard => cases hd

end Use

/-- The latest use that gave the timer its deadline, with all that has been done since. -/
def Pending (timing : Settings.Timing) (timer : Timer) (uses : List Use) (deadline : Nat) (since : List Use) : Prop :=
  ∃ before use, uses = before ++ use :: since ∧ use.deadline? timing timer = some deadline ∧
    ∀ u ∈ since, ¬ u.Ends timer deadline

/-- A timer that guards a reply has been started, and no reply has arrived from then on. -/
def Unanswered (uses : List Use) : Prop :=
  ∃ earlier use later, uses = earlier ++ use :: later ∧ use.opensReply ∧ .markAnswered ∉ later

section

variable {timing : Settings.Timing} {timer : Timer} {uses since : List Use} {use : Use} {deadline : Nat}

lemma concat_split {before : List Use} {first last : Use} :
    uses ++ [last] = before ++ first :: since ↔
      since = [] ∧ uses = before ∧ last = first ∨ ∃ rest, since = rest ++ [last] ∧ uses = before ++ first :: rest := by
  induction since using List.reverseRecOn with
  | nil => simp
  | append_singleton rest u _ =>
    have hn : rest ++ [u] ≠ [] := by simp
    rw [← List.cons_append, ← List.append_assoc, List.append_singleton_inj]
    constructor
    · rintro ⟨rfl, rfl⟩
      exact .inr ⟨rest, rfl, rfl⟩
    · rintro (⟨h, -⟩ | ⟨ys, h, rfl⟩)
      · exact absurd h hn
      · obtain ⟨rfl, rfl⟩ := List.append_singleton_inj.mp h
        exact ⟨rfl, rfl⟩

lemma pending_concat :
    Pending timing timer (uses ++ [use]) deadline since ↔
      since = [] ∧ use.deadline? timing timer = some deadline ∨
        ∃ rest, since = rest ++ [use] ∧ Pending timing timer uses deadline rest ∧ ¬ use.Ends timer deadline := by
  constructor
  · rintro ⟨before, first, he, hd, hs⟩
    rcases concat_split.mp he with ⟨rfl, rfl, rfl⟩ | ⟨rest, rfl, rfl⟩
    · exact .inl ⟨rfl, hd⟩
    · exact .inr ⟨rest, rfl, ⟨before, first, rfl, hd, fun u hu => hs u (by simp [hu])⟩, hs use (by simp)⟩
  · rintro (⟨rfl, hd⟩ | ⟨rest, rfl, ⟨before, first, rfl, hd, hs⟩, hu⟩)
    · exact ⟨uses, use, rfl, hd, nofun⟩
    · refine ⟨before, first, by simp, hd, fun u hm => ?_⟩
      rcases List.mem_append.mp hm with hm | hm
      · exact hs u hm
      · exact List.mem_singleton.mp hm ▸ hu

lemma unanswered_concat :
    Unanswered (uses ++ [use]) ↔ use.opensReply ∨ use ≠ .markAnswered ∧ Unanswered uses := by
  constructor
  · rintro ⟨earlier, first, later, he, ho, hl⟩
    rcases concat_split.mp he with ⟨rfl, rfl, rfl⟩ | ⟨rest, rfl, rfl⟩
    · exact .inl ho
    · rw [List.mem_append, List.mem_singleton, not_or] at hl
      exact .inr ⟨Ne.symm hl.2, earlier, first, rest, rfl, ho, hl.1⟩
  · rintro (ho | ⟨hu, earlier, first, later, rfl, ho, hl⟩)
    · exact ⟨uses, use, [], rfl, ho, nofun⟩
    · exact ⟨earlier, first, later ++ [use], by simp, ho, by simp [hl, hu.symm]⟩

lemma unanswered_append_cons {before : List Use} (hu : use.opensReply) :
    Unanswered (before ++ use :: since) ↔ .markAnswered ∉ since ∨ Unanswered since := by
  induction since using List.reverseRecOn with
  | nil => simp [unanswered_concat, hu]
  | append_singleton rest last ih =>
    rw [← List.cons_append, ← List.append_assoc, unanswered_concat, unanswered_concat, ih, List.mem_append,
      List.mem_singleton]
    grind

end

namespace Timers

variable {timing : Settings.Timing} {timer : Timer} {uses : List Use} {ts : Timers}

def use (ts : Timers) : Use → Timers
  | .start timer now => ts.start timer now
  | .holdWrite deadline => ts.holdWrite deadline
  | .stop timer => ts.stop timer
  | .stopAll => ts.stopAll
  | .markAnswered => ts.markAnswered
  | .fire timer now => (ts.fire timer now).2
  | .heard now => ts.heard now

def used (timing : Settings.Timing) (uses : List Use) : Timers := uses.foldl use { timing }

lemma used_concat (timing : Settings.Timing) (uses : List Use) (u : Use) :
    used timing (uses ++ [u]) = (used timing uses).use u := by
  rw [used, used, List.foldl_append]
  rfl

@[simp] lemma timing_setDeadline (timer : Timer) (at? : Option Nat) (ts : Timers) :
    (ts.setDeadline timer at?).timing = ts.timing := by
  cases timer <;> rfl

@[simp] lemma counts_setDeadline (timer : Timer) (at? : Option Nat) (ts : Timers) :
    (ts.setDeadline timer at?).opened = ts.opened ∧ (ts.setDeadline timer at?).answered = ts.answered := by
  cases timer <;> exact ⟨rfl, rfl⟩

lemma fire_snd (timer : Timer) (now : Nat) (ts : Timers) :
    (ts.fire timer now).2 = ts ∨ (ts.fire timer now).2 = ts.stop timer := by
  unfold fire
  split
  · exact .inl rfl
  · split
    · exact .inr rfl
    · exact .inl rfl

lemma timing_use (ts : Timers) (u : Use) : (ts.use u).timing = ts.timing := by
  cases u with
  | start timer now => cases timer <;> rfl
  | fire timer now => rcases fire_snd timer now ts with h | h <;> simp [use, h, stop]
  | stop timer => exact timing_setDeadline timer none ts
  | holdWrite | stopAll | markAnswered | heard => rfl

lemma timing_used : (used timing uses).timing = timing := by
  induction uses using List.reverseRecOn with
  | nil => rfl
  | append_singleton uses u ih => rw [used_concat, timing_use, ih]

lemma deadline_use {deadline : Nat} (ts : Timers) (u : Use) :
    (ts.use u).deadline timer = some deadline ↔
      u.deadline? ts.timing timer = some deadline ∨
        ts.deadline timer = some deadline ∧ ¬ u.Ends timer deadline := by
  cases u with
  | start other now =>
    have hs : (ts.use (.start other now)).deadline timer =
        if timer = other then some (now + ts.duration other) else ts.deadline timer := by
      cases other <;> cases timer <;> rfl
    have hd : Timers.duration timer { timing := ts.timing } = ts.duration timer := by cases timer <;> rfl
    by_cases h : timer = other
    · subst h
      simp [hs, Use.deadline?, Use.Ends, hd]
    · simp [hs, Use.deadline?, Use.Ends, h]
  | holdWrite due => by_cases h : timer = .writeSpacing <;> simp [use, holdWrite, Use.deadline?, Use.Ends, h]
  | stop other => by_cases h : timer = other <;> simp [use, stop, Use.deadline?, Use.Ends, h]
  | stopAll => cases timer <;> simp [use, stopAll, Timers.deadline, Use.deadline?, Use.Ends]
  | fire other now =>
    simp only [use, Use.deadline?, Use.Ends, reduceCtorEq, false_or]
    cases hd : ts.deadline other with
    | none => grind [fire]
    | some due =>
      by_cases hn : due ≤ now
      · simp only [fire, hd, hn, if_true, stop, deadline_setDeadline]
        grind
      · simp only [fire, hd, hn, if_false]
        grind
  | markAnswered | heard => cases timer <;> simp [use, markAnswered, heard, Timers.deadline, Use.deadline?, Use.Ends]

lemma deadline_used {deadline : Nat} :
    (used timing uses).deadline timer = some deadline ↔ ∃ since, Pending timing timer uses deadline since := by
  induction uses using List.reverseRecOn with
  | nil => cases timer <;> simp [used, Timers.deadline, Pending]
  | append_singleton uses u ih =>
    rw [used_concat, deadline_use, timing_used, ih]
    simp only [pending_concat]
    grind

lemma isAnswered_use (h : ts.answered ≤ ts.opened) (u : Use) :
    (ts.use u).answered ≤ (ts.use u).opened ∧
      ((ts.use u).isAnswered = false ↔ u.opensReply ∨ u ≠ .markAnswered ∧ ts.isAnswered = false) := by
  cases u with
  | start timer now =>
    cases timer <;> simp [use, start, setDeadline, Timer.guardsReply, isAnswered, Use.opensReply] <;> omega
  | fire timer now =>
    rcases fire_snd timer now ts with hf | hf <;> simp [use, hf, stop, isAnswered, Use.opensReply, h]
  | stop timer => simp [use, stop, isAnswered, Use.opensReply, h]
  | markAnswered => simp [use, markAnswered, isAnswered, Use.opensReply]
  | holdWrite | stopAll | heard => simp [use, holdWrite, stopAll, heard, isAnswered, Use.opensReply, h]

lemma isAnswered_used :
    (used timing uses).answered ≤ (used timing uses).opened ∧
      ((used timing uses).isAnswered = false ↔ Unanswered uses) := by
  induction uses using List.reverseRecOn with
  | nil => simp [used, isAnswered, Unanswered]
  | append_singleton uses u ih =>
    rw [used_concat, unanswered_concat, ← ih.2]
    exact isAnswered_use ih.1 u

lemma fire_fst {now : Nat} :
    (ts.fire timer now).1 = true ↔
      ∃ deadline, ts.deadline timer = some deadline ∧ deadline ≤ now ∧
        (timer.guardsReply = true → ts.isAnswered = false) := by
  cases hd : ts.deadline timer with
  | none => simp [fire, hd]
  | some deadline =>
    by_cases hn : deadline ≤ now
    · cases hg : timer.guardsReply <;> simp [fire, hd, hn, hg]
    · simp [fire, hd, hn]

/-- A timer fires if its deadline stands and has passed, and, where it guards a reply, if that reply has not arrived
or else a reply guarded since is still out. -/
theorem timer_fires_iff (timing : Settings.Timing) (uses : List Use) (timer : Timer) (now : Nat) :
    ((used timing uses).fire timer now).1 = true ↔
      ∃ deadline since, Pending timing timer uses deadline since ∧ deadline ≤ now ∧
        (timer.guardsReply = true → .markAnswered ∉ since ∨ Unanswered since) := by
  have open_iff {deadline : Nat} {since : List Use} (hp : Pending timing timer uses deadline since) :
      (timer.guardsReply = true → (used timing uses).isAnswered = false) ↔
        (timer.guardsReply = true → .markAnswered ∉ since ∨ Unanswered since) := by
    refine imp_congr_right fun hg => ?_
    obtain ⟨before, use, rfl, hd, -⟩ := hp
    have ho : use.opensReply := Use.opensReply_of_deadline hg hd
    rw [isAnswered_used.2, unanswered_append_cons ho]
  rw [fire_fst]
  constructor
  · rintro ⟨deadline, hd, hn, ha⟩
    obtain ⟨since, hp⟩ := deadline_used.mp hd
    exact ⟨deadline, since, hp, hn, (open_iff hp).mp ha⟩
  · rintro ⟨deadline, since, hp, hn, ha⟩
    exact ⟨deadline, deadline_used.mpr ⟨since, hp⟩, hn, (open_iff hp).mpr ha⟩

theorem ack_fires_after_its_reply :
    let timing : Settings.Timing :=
      { ackTimeout := 100, responseTimeout := 500, interFrameDelay := 200, frameGap := 40 }
    let uses : List Use := [.start .ack 0, .markAnswered, .start .response 0]
    ((used timing uses).fire .ack 100).1 = true ∧
      ¬ ∃ deadline since, Pending timing .ack uses deadline since ∧ deadline ≤ 100 ∧ .markAnswered ∉ since := by
  refine ⟨rfl, ?_⟩
  rintro ⟨deadline, since, ⟨before, use, he, hd, -⟩, -, hm⟩
  -- only the first use gives the timer a deadline, and the mark comes after it
  rcases before with _ | ⟨_, _ | ⟨_, _ | ⟨_, before⟩⟩⟩
  · cases he
    exact hm (by simp)
  · cases he
    cases hd
  · cases he
    cases hd
  · simp at he

end Timers

end ParkingStation.Exchange
