import ParkingStation.Proofs.Exchange.Cycles

/-! What was done for each command from when it is taken up until it leaves, and how its cycles ended. -/

namespace ParkingStation.Exchange

variable {p : Peripheral} {now : Nat}

structure Service (p : Peripheral) where
  command : p.Command
  effects : List Effect
  endings : List (Ending p)

def Service.note (effects : List Effect) (ending? : Option (Ending p)) (s : Service p) : Service p :=
  { s with effects := s.effects ++ effects, endings := s.endings ++ ending?.toList }

structure Diary (p : Peripheral) where
  current : Option (Service p) := none
  finished : List (Service p) := []
  others : List Effect := []

namespace Diary

def services (d : Diary p) : List (Service p) := d.finished ++ d.current.toList

def takeUp (command : Option (Ongoing p.Command)) (news : List Effect) (d : Diary p) : Diary p :=
  match command with
  | none => { d with others := d.others ++ news }
  | some o =>
    { d with
      current := some ⟨o.item, (transmissions news).map .transmit, []⟩
      others := d.others ++ (reports news).map .report }

def enter (attended next : Controller p) (ending? : Option (Ending p)) (d : Diary p) : Diary p :=
  let earlier := next.outbox.take attended.outbox.length
  let news := next.outbox.drop attended.outbox.length
  match d.current with
  | none => { d with others := d.others ++ earlier }.takeUp next.command news
  | some s =>
    if attended.command.isSome then { d with current := some (s.note next.outbox ending?) }
    else { d with current := none, finished := d.finished ++ [s.note earlier ending?] }.takeUp next.command news

def call (now : Nat) (c : Controller p) (call : Call) (d : Diary p) : Diary p :=
  d.enter (c.attend now call) (c.during now call.input) (c.ending? now call)

/-- The diary accounts for everything that was done, and what was done for a command is there in order. -/
structure Covers (effects : List Effect) (d : Diary p) : Prop where
  all : (d.services.flatMap (·.effects) ++ d.others).Perm effects
  order : ∀ s ∈ d.services, s.effects.Sublist effects

end Diary

def Controller.diary (D : Diary p) (c : Controller p) : List (Turn p) → Diary p
  | [] => D
  | .demand demand :: turns => diary D (c.meet demand) turns
  | .call now call :: turns => diary (D.call now c call) (c.step now call.input).2 turns

variable {effects : List Effect} {d : Diary p}

lemma diary_demand (d : Diary p) (c : Controller p) (ts : List (Turn p)) (demand : Demand p) :
    c.diary d (ts ++ [.demand demand]) = c.diary d ts := by
  induction ts generalizing c d with
  | nil => rfl
  | cons t ts ih => cases t <;> exact ih _ _

lemma diary_call (d : Diary p) (c : Controller p) (ts : List (Turn p)) (now : Nat) (call : Call) :
    c.diary d (ts ++ [.call now call]) = (c.diary d ts).call now (c.after ts) call := by
  induction ts generalizing c d with
  | nil => rfl
  | cons t ts ih => cases t <;> exact ih _ _

lemma perm_transmissions_reports (effects : List Effect) :
    ((transmissions effects).map Effect.transmit ++ (reports effects).map Effect.report).Perm effects := by
  induction effects with
  | nil => exact .nil
  | cons effect effects ih =>
    cases effect with
    | transmit bytes => exact ih.cons _
    | report event => exact List.perm_middle.trans (ih.cons _)

lemma sublist_transmissions (effects : List Effect) :
    ((transmissions effects).map Effect.transmit).Sublist effects := by
  induction effects with
  | nil => exact .slnil
  | cons effect effects ih =>
    cases effect with
    | transmit bytes => exact ih.cons_cons _
    | report event => exact ih.cons _

namespace Diary

lemma Covers.takeUp (h : d.Covers effects) (hd : d.current = none) (command : Option (Ongoing p.Command))
    (news : List Effect) : (d.takeUp command news).Covers (effects ++ news) := by
  have ho : ∀ s ∈ d.finished, s.effects.Sublist (effects ++ news) := fun s hs =>
    (h.order s (List.mem_append_left _ hs)).trans (List.sublist_append_left effects news)
  cases command with
  | none => exact ⟨by simpa [services, Diary.takeUp, hd] using! h.all.append_right news,
      by simpa [services, Diary.takeUp, hd] using! ho⟩
  | some o =>
    have hn := (sublist_transmissions news).trans (List.sublist_append_right effects news)
    refine ⟨List.perm_iff_count.mpr fun e => ?_, by simpa [services, Diary.takeUp, or_imp, forall_and] using! ⟨ho, hn⟩⟩
    have ha := h.all.count_eq e
    have hs := (perm_transmissions_reports news).count_eq e
    simp only [services, Diary.takeUp, hd, Option.toList_none, Option.toList_some, List.append_nil, List.flatMap_append,
      List.flatMap_cons, List.flatMap_nil, List.count_append] at ha hs ⊢
    omega

lemma Covers.note {s : Service p} (h : d.Covers effects) (hd : d.current = some s) (ending? : Option (Ending p))
    (news : List Effect) : Covers (effects ++ news) { d with current := some (s.note news ending?) } := by
  refine ⟨List.perm_iff_count.mpr fun e => ?_, fun t ht => ?_⟩
  · have ha := h.all.count_eq e
    simp only [services, Service.note, hd, Option.toList_some, List.flatMap_append, List.flatMap_cons, List.flatMap_nil,
      List.append_nil, List.count_append] at ha ⊢
    omega
  · rcases List.mem_append.mp ht with ht | ht
    · exact (h.order t (List.mem_append_left _ ht)).trans (List.sublist_append_left effects news)
    · obtain rfl := List.mem_singleton.mp ht
      exact (h.order s (List.mem_append_right _ (by simp [hd]))).append_right news

lemma Covers.finish {s : Service p} (h : Covers effects { d with current := some s }) :
    Covers effects { d with current := none, finished := d.finished ++ [s] } := by
  refine ⟨?_, ?_⟩
  · simpa [services] using! h.all
  · simpa [services] using! h.order

lemma Covers.enter (h : d.Covers effects) (attended next : Controller p) (ending? : Option (Ending p)) :
    (d.enter attended next ending?).Covers (effects ++ next.outbox) := by
  have hs : effects ++ next.outbox = effects ++ next.outbox.take attended.outbox.length ++
      next.outbox.drop attended.outbox.length := by simp
  unfold Diary.enter
  split
  · rename_i hd
    rw [hs]
    have he : Covers (effects ++ next.outbox.take attended.outbox.length)
        { d with others := d.others ++ next.outbox.take attended.outbox.length } := h.takeUp hd none _
    exact he.takeUp hd _ _
  · rename_i s hd
    split
    · exact h.note hd ending? next.outbox
    · rw [hs]
      exact (h.note hd ending? _).finish.takeUp rfl _ _

end Diary

lemma covers_diary (start : Controller p) (ts : List (Turn p)) : (start.diary {} ts).Covers (start.run ts).1 := by
  induction ts using List.reverseRecOn with
  | nil => exact ⟨.nil, nofun⟩
  | append_singleton ts t ih =>
    rw [Controller.run_concat]
    cases t with
    | demand demand => simpa [diary_demand, Controller.turn] using ih
    | call now call =>
      rw [diary_call, Controller.turn, Controller.step_eq]
      exact ih.enter _ _ _

end ParkingStation.Exchange
