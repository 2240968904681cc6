import ParkingStation.Proofs.Exchange.Bookkeeping
import ParkingStation.Proofs.PaymentReader.Account

namespace ParkingStation.PaymentReader

open Exchange

variable {key : LoginBlock}

inductive Bearing (j : Judgement (peripheral key)) (result : Verdict Command × Session) : Prop
  | neutral (hj : Unmoved j) (hn : Neutral j.session (asked j) result)
      (hw : j.session.pendingDeduct = none ∨ Waits result.1)
  | opened (record : Record) (hp : j.session.pendingDeduct = none) (hj : accepted? j = some record)
      (hv : result.1 = .answered [] [.flush]) (hs : result.2.pendingDeduct = some record)
  | final (record : Record) (hp : j.session.pendingDeduct = some record) (hj : accepted? j = none)
      (hc : confirmed j = true) (hv : result.1 = .answered [receipt record] []) (hs : result.2.pendingDeduct = none)
  | lost (record : Record) (reason : Reason) (detail : String) (hp : j.session.pendingDeduct = some record)
      (hj : Unmoved j)
      (hv : result.1 = .refused reason detail [loss reason detail]) (hs : result.2.pendingDeduct = none)

theorem bearing_judge {j : Judgement (peripheral key)} (hp : j.session.pendingDeduct.isSome ↔ asked j = .flush)
    (hc : ¬ CutFlush j) : Bearing j (Session.judge key j.session (asked j) j.frame) := by
  obtain ⟨s, (command : Command), frame⟩ := j
  by_cases hf : command = .flush
  · subst hf
    obtain ⟨record, hs⟩ := Option.isSome_iff_exists.mp (hp.mpr rfl)
    rcases flushReply_judge key frame hs fun h => hc ⟨rfl, h⟩ with
      ⟨hc, hv, hn⟩ | ⟨reason, detail, hc, hv, hn⟩ | ⟨hc, hw, hn⟩
    · exact .final record hs rfl hc hv hn
    · exact .lost record reason detail hs ⟨rfl, hc⟩ hv hn
    · exact .neutral ⟨rfl, hc⟩ hn (.inr hw)
  · have hs : s.pendingDeduct = none := by simpa using mt hp.mp hf
    by_cases hd : ∃ amount, command = .deduct amount
    · obtain ⟨amount, rfl⟩ := hd
      rcases deductReply_judge key amount frame hs with ⟨record, hr, hv, hn⟩ | ⟨hr, hn⟩
      · exact .opened record hs hr hv hn
      · exact .neutral ⟨hr, rfl⟩ hn (.inl hs)
    · have hd (amount : UInt32) : command ≠ .deduct amount := fun h => hd ⟨amount, h⟩
      refine .neutral ?_ (neutral_judge frame hd hf) (.inl hs)
      cases command <;> first | exact ⟨rfl, rfl⟩ | exact absurd rfl (hd _) | exact absurd rfl hf

def Undecided : Verdict Command → Prop
  | .answered .. | .refused .. => False
  | _ => True

lemma Bearing.undecided {j : Judgement (peripheral key)} {result : Verdict Command × Session} (b : Bearing j result)
    (hu : Undecided result.1) :
    Unmoved j ∧ Neutral j.session (asked j) result ∧ (j.session.pendingDeduct = none ∨ Waits result.1) := by
  cases b with
  | neutral hj hn hw => exact ⟨hj, hn, hw⟩
  | opened record hp hj hv | final record hp hj hc hv | lost record reason detail hp hj hv =>
    rw [hv] at hu
    exact hu.elim

def wanted (t : Ticket (peripheral key)) : Command := t.command

def line (l : Ledger (peripheral key)) : List Command := (l.current.toList ++ l.waiting).map wanted

def account (l : Ledger (peripheral key)) : Account key := ⟨l.heard, l.events, l.session.pendingDeduct, line l⟩

section Steps

variable {l m : Ledger (peripheral key)} {t : Ticket (peripheral key)}

lemma line_current (hc : l.current = some t) : line l = wanted t :: l.waiting.map wanted := by
  simp [line, hc]

lemma Balanced.not_waiting (h : Balanced (account l)) (hc : l.current = some t) : .flush ∉ l.waiting.map wanted := by
  cases hp : (account l).pending with
  | none =>
    have hn := h.settled hp
    rw [account, line_current hc, List.mem_cons, not_or] at hn
    exact hn.2
  | some record =>
    obtain ⟨-, rest, hl, hn⟩ := h.pending record hp
    rw [account, line_current hc, List.cons.injEq] at hl
    exact hl.2 ▸ hn

lemma Balanced.pending_iff (h : Balanced (account l)) (hc : l.current = some t) :
    l.session.pendingDeduct.isSome ↔ wanted t = .flush := by
  cases hp : (account l).pending with
  | none =>
    have hn := h.settled hp
    rw [account, line_current hc, List.mem_cons, not_or] at hn
    have hp : l.session.pendingDeduct = none := hp
    simp [hp, Ne.symm hn.1]
  | some record =>
    obtain ⟨-, rest, hl, -⟩ := h.pending record hp
    rw [account, line_current hc, List.cons.injEq] at hl
    have hp : l.session.pendingDeduct = some record := hp
    simp [hp, hl.1]

lemma plain_failed {name : String} {reason : Reason} {detail : String} {es : List Event}
    (hf : isLoss (.failed .paymentReader name reason detail) = false) (h : Plain es) :
    Plain (.failed .paymentReader name reason detail :: es) := by
  intro event he
  rcases List.mem_cons.mp he with rfl | he
  · exact ⟨rfl, hf⟩
  · exact h event he

lemma line_putAllFirst {followUps : List (peripheral key).Command}
    (hf : (Command.flush : (peripheral key).Command) ∉ followUps) (hn : l.current = none)
    (hw : .flush ∉ l.waiting.map wanted) : .flush ∉ line (l.putAllFirst followUps) := by
  obtain ⟨front, hm, he⟩ := Ledger.putAllFirst_frame followUps l
  rw [he]
  simp only [line, hn, Option.toList_none, List.nil_append, List.map_append, List.mem_append, not_or]
  refine ⟨fun h => ?_, hw⟩
  obtain ⟨t, ht, ha⟩ := List.mem_map.mp h
  exact hf (ha ▸ (hm t ht).2)

lemma line_putAllFirst_flush (hn : l.current = none) (hw : .flush ∉ l.waiting.map wanted) :
    line (l.putAllFirst [(Command.flush : (peripheral key).Command)]) = .flush :: l.waiting.map wanted := by
  change line (l.putFirst ⟨Command.flush, none⟩) = _
  rcases Ledger.putFirst_cases ⟨Command.flush, none⟩ l with ⟨hh, -⟩ | he
  · obtain ⟨t, ht, hf⟩ := Option.map_eq_some_iff.mp hh
    exact absurd (List.mem_map.mpr ⟨t, List.mem_of_mem_head? ht, hf⟩) hw
  · rw [he]
    simp [line, hn, wanted]

lemma account_putAllFirst (followUps : List (peripheral key).Command) (l : Ledger (peripheral key)) :
    account (l.putAllFirst followUps) = { account l with line := line (l.putAllFirst followUps) } := by
  obtain ⟨front, -, he⟩ := Ledger.putAllFirst_frame followUps l
  rw [he]
  rfl

lemma plain_upload {event : Event} (h : event.isUpload = true) : Plain [event] := by
  cases event <;> simp_all [Event.isUpload, Plain, isReceipt, isLoss]

lemma plain_fault (name : String) (reason : Reason) : Plain [.fault .paymentReader name reason] := by
  simp [Plain, isReceipt, isLoss]

lemma Balanced.pending_none (h : Balanced (account l)) (hc : l.current = some t) (hf : wanted t ≠ .flush) :
    l.session.pendingDeduct = none := by
  simpa using mt (h.pending_iff hc).mp hf

lemma Balanced.unsendable {seq : UInt8} {err : Error} (h : Balanced (account l)) (hc : l.current = some t)
    (he : Controller.requestBytes t.command seq = .error err) :
    Balanced (account (l.release t (.failed err.reason err.message []))) := by
  have hf : wanted t ≠ .flush := by
    intro hf
    obtain ⟨bytes, hb⟩ := request_flush key seq
    have ht : t.command = Command.flush := hf
    rw [ht, hb] at he
    cases he
  have hp : Plain [.failed .paymentReader (wanted t).name err.reason err.message] :=
    plain_failed (not_loss (not_blamesFlush_message err)) plain_nil
  exact h.unheard rfl rfl hp rfl (.inr ⟨h.pending_none hc hf, h.not_waiting hc⟩)

lemma Balanced.abandoned (h : Balanced (account l)) (hc : l.current = some t) (reason : Reason) :
    Balanced (account (l.giveUp t reason)) := by
  have he : (account (l.giveUp t reason)).events =
      l.events ++ (.fault .paymentReader (wanted t).name reason :: (l.session.giveUp (wanted t) reason).1) := rfl
  have hs : (account (l.giveUp t reason)).pending = (l.session.giveUp (wanted t) reason).2.pendingDeduct := rfl
  have hp := plain_fault (wanted t).name reason
  by_cases hf : wanted t = .flush
  · obtain ⟨record, hr⟩ := Option.isSome_iff_exists.mp ((h.pending_iff hc).mpr hf)
    rw [hf, giveUp_flush reason hr] at he hs
    refine h.lose (j := none) hr (by simp [account, Ledger.giveUp, Ledger.release]) (by simp) ⟨reason, reason.code, ?_⟩
      (hf ▸ hp) hs (h.not_waiting hc)
    rw [he]
    simp [account]
  · obtain ⟨hn, hk⟩ := giveUp_other l.session reason hf
    rw [hn] at he
    exact h.unheard rfl he hp (hs.trans hk) (.inr ⟨h.pending_none hc hf, h.not_waiting hc⟩)

lemma Balanced.requeued (h : Balanced (account l)) (hc : l.current = some t)
    (ha : (peripheral key).asksAgain l.session t.command = true) :
    Balanced (account ({ l with current := none }.putFirst t)) := by
  have hf : wanted t ≠ .flush := by
    intro hf
    have ht : t.command = Command.flush := hf
    rw [ht] at ha
    cases ha
  have hn := h.pending_none hc hf
  have hw := h.not_waiting hc
  rcases Ledger.putFirst_cases t { l with current := none } with ⟨-, he⟩ | he <;> rw [he]
  · exact h.unheard rfl (List.append_nil _).symm plain_nil rfl (.inr ⟨hn, hw⟩)
  · refine h.unheard rfl (List.append_nil _).symm plain_nil rfl (.inr ⟨hn, ?_⟩)
    simpa [account, line, Ne.symm hf] using hw

lemma Balanced.bearing (h : Balanced (account l)) (hc : l.current = some t) (frame : Frame)
    (hj : ¬ CutFlush ⟨l.session, t.command, frame⟩) :
    Bearing ⟨l.session, t.command, frame⟩ (l.session.judge key (wanted t) frame) :=
  bearing_judge (h.pending_iff hc) hj

lemma Balanced.undecided {frame : Frame} {verdict : Verdict Command} (h : Balanced (account l))
    (hc : l.current = some t) (hv : (l.session.judge key (wanted t) frame).1 = verdict) (hu : Undecided verdict)
    (hm : m.heard = l.heard ++ [⟨l.session, t.command, frame⟩]) (hj : ∀ j ∈ m.heard, ¬ CutFlush j)
    (he : m.events = l.events ++ verdict.events) (hs : m.session = (l.session.judge key (wanted t) frame).2)
    (hl : line m = line l ∨ ¬ Waits verdict ∧ line m = l.waiting.map wanted) : Balanced (account m) := by
  have hb := h.bearing hc frame (hj _ (hm ▸ List.mem_concat_self))
  obtain ⟨hj, hn, hw⟩ := hb.undecided (hv ▸ hu)
  refine h.heard_unmoved hm hj he (hv ▸ hn.plain) ((congrArg (·.pendingDeduct) hs).trans hn.pending) ?_
  refine hl.imp id fun ⟨hk, hl⟩ => ⟨hw.resolve_right (hv ▸ hk), ?_⟩
  have hn := h.not_waiting hc
  rwa [← hl] at hn

lemma Balanced.refused {frame : Frame} {reason : Reason} {detail : String} {events : List Event}
    (h : Balanced (account l)) (hc : l.current = some t)
    (hv : (l.session.judge key (wanted t) frame).1 = .refused reason detail events)
    (hj : ¬ CutFlush ⟨l.session, t.command, frame⟩) :
    Balanced (account ((l.hear t frame).release t (.failed reason detail events))) := by
  cases h.bearing hc frame hj with
  | neutral hj hn hw =>
    have hs : l.session.pendingDeduct = none := by simpa [hv, Waits] using hw
    have hp : Plain events := by simpa [hv, Verdict.events] using hn.plain
    have hp := plain_failed (hn.refused _ _ _ hv) hp
    exact h.heard_unmoved rfl hj rfl hp hn.pending (.inr ⟨hs, h.not_waiting hc⟩)
  | opened record hp hj hv' => cases hv.symm.trans hv'
  | final record hp hj hk hv' => cases hv.symm.trans hv'
  | lost record r d hp hj hv' hs =>
    cases hv.symm.trans hv'
    have hf : wanted t = .flush := (h.pending_iff hc).mp (Option.isSome_iff_exists.mpr ⟨record, hp⟩)
    have hp' : Plain [.failed .paymentReader (wanted t).name reason detail] :=
      plain_failed (by simp [isLoss, hf, Command.name]) plain_nil
    refine h.lose (j := some _) hp rfl (by simpa using hj) ⟨reason, detail, ?_⟩ hp' hs (h.not_waiting hc)
    change l.events ++ (.failed .paymentReader (wanted t).name reason detail :: [loss reason detail]) = _
    simp [account]

lemma Balanced.answered {frame : Frame} {events : List Event} {followUps : List (peripheral key).Command}
    (h : Balanced (account l)) (hc : l.current = some t)
    (hv : (l.session.judge key (wanted t) frame).1 = .answered events followUps)
    (hj : ¬ CutFlush ⟨l.session, t.command, frame⟩) :
    Balanced (account (((l.hear t frame).release t (.answered events followUps)).putAllFirst followUps)) := by
  have hw := h.not_waiting hc
  rw [account_putAllFirst]
  cases h.bearing hc frame hj with
  | neutral hj hn hp =>
    have hs : l.session.pendingDeduct = none := by simpa [hv, Waits] using hp
    have hp : Plain events := by simpa [hv, Verdict.events] using hn.plain
    exact h.heard_unmoved rfl hj rfl hp hn.pending (.inr ⟨hs, line_putAllFirst (hn.followUps _ _ hv) rfl hw⟩)
  | opened record hp hj hv' hs =>
    cases hv.symm.trans hv'
    apply h.open hp hj hp rfl (by simp [account, Ledger.release, Ledger.hear, Fate.events]) hs
    exact ⟨_, line_putAllFirst_flush rfl hw, hw⟩
  | final record hp hj hk hv' hs =>
    cases hv.symm.trans hv'
    exact h.final hp hj hk rfl rfl hs hw
  | lost record r d hp hj hv' => cases hv.symm.trans hv'

theorem Balanced.step (h : Balanced (account l)) (s : l.Step m) (hj : ∀ j ∈ m.heard, ¬ CutFlush j) :
    Balanced (account m) := by
  cases s with
  | @take t rest hc hw =>
    have he : line { l with current := some t, waiting := rest } = line l := by simp [line, hc, hw]
    exact h.unheard rfl (List.append_nil _).symm plain_nil rfl (.inl he)
  | upload event he => exact h.unheard rfl rfl (plain_upload he) rfl (.inl rfl)
  | unsendable hc he => exact h.unsendable hc he
  | abandoned reason hc => exact h.abandoned hc reason
  | requeued hc ha => exact h.requeued hc ha
  | unrelated hc hv | again hc hv =>
    exact h.undecided hc hv trivial rfl hj (List.append_nil _).symm rfl (.inl rfl)
  | unready hc hv => exact h.undecided hc hv trivial rfl hj rfl rfl (.inl rfl)
  | dropped hc hv => exact h.undecided hc hv trivial rfl hj rfl rfl (.inr ⟨id, rfl⟩)
  | refused hc hv => exact h.refused hc hv (hj _ List.mem_concat_self)
  | answered hc hv =>
    rw [Ledger.heard_putAllFirst] at hj
    exact h.answered hc hv (hj _ List.mem_concat_self)

lemma cutFlush_judge {j : Judgement (peripheral key)} (h : CutFlush j) :
    ∃ reason detail, j.verdict = .refused reason detail [] ∧
      (Session.judge key j.session (asked j) j.frame).2 = j.session := by
  have he := cutShort_judge key j.session (asked j) h.2
  exact ⟨_, _, congrArg Prod.fst he, congrArg Prod.snd he⟩

lemma Balanced.cut {j : Judgement (peripheral key)} (h : Balanced (account l)) (s : l.Step m)
    (hm : m.heard = l.heard ++ [j]) (hj : CutFlush j) : Stranded (account m) := by
  obtain ⟨r, d, hv, hs⟩ := cutFlush_judge hj
  have same {t : Ticket (peripheral key)} {frame : Frame} {verdict : Verdict Command}
      (hk : m.heard = l.heard ++ [⟨l.session, t.command, frame⟩])
      (hv' : (Session.judge key l.session t.command frame).1 = verdict) :
      j = ⟨l.session, t.command, frame⟩ ∧ verdict = .refused r d [] := by
    obtain rfl : j = ⟨l.session, t.command, frame⟩ := by simpa [hm] using hk
    exact ⟨rfl, hv'.symm.trans hv⟩
  cases s with
  | take | unsendable | abandoned | upload => simp [Ledger.release, Ledger.giveUp] at hm
  | requeued => simp at hm
  | unrelated hl hv' => cases (same rfl hv').2
  | again hl hv' => cases (same rfl hv').2
  | unready hl hv' => cases (same rfl hv').2
  | dropped hl hv' => cases (same rfl hv').2
  | answered hl hv' => cases (same (Ledger.heard_putAllFirst _ _) hv').2
  | @refused t frame reason detail events hl hv' =>
    obtain ⟨rfl, -⟩ := same rfl hv'
    refine ⟨?_, h.not_waiting hl⟩
    change (Session.judge key l.session (wanted t) frame).2.pendingDeduct.isSome
    rw [show (Session.judge key l.session (wanted t) frame).2 = l.session from hs]
    exact (h.pending_iff hl).mpr hj.1

lemma Stranded.step (h : Stranded (account l)) (s : l.Step m) (hm : m.heard = l.heard) : Stranded (account m) := by
  obtain ⟨hp, hn⟩ := h
  cases s with
  | unrelated | again | unready | dropped | refused | answered => simp [Ledger.hear, Ledger.release] at hm
  | @take t rest hl hw => exact ⟨hp, by simpa [account, line, hl, hw] using hn⟩
  | upload => exact ⟨hp, hn⟩
  | @unsendable t seq err hl he =>
    rw [account, line_current hl, List.mem_cons, not_or] at hn
    exact ⟨hp, hn.2⟩
  | @abandoned t reason hl =>
    rw [account, line_current hl, List.mem_cons, not_or] at hn
    obtain ⟨-, he⟩ := giveUp_other l.session reason (Ne.symm hn.1)
    refine ⟨?_, hn.2⟩
    change (l.session.giveUp (wanted t) reason).2.pendingDeduct.isSome
    rw [he]
    exact hp
  | @requeued t hl ha =>
    rw [account, line_current hl, List.mem_cons, not_or] at hn
    rcases Ledger.putFirst_cases t { l with current := none } with ⟨-, he⟩ | he <;> rw [he]
    · exact ⟨hp, hn.2⟩
    · exact ⟨hp, by simpa [account, line] using hn⟩

theorem balanced_steps (h : Balanced (account l)) (s : l.Steps m) (hl : ∀ j ∈ l.heard, ¬ CutFlush j)
    (hm : ∀ j ∈ m.heard.dropLast, ¬ CutFlush j) :
    ((∀ j ∈ m.heard, ¬ CutFlush j) → Balanced (account m)) ∧
      ((∃ j ∈ m.heard, CutFlush j) → Stranded (account m)) := by
  induction s with
  | refl => exact ⟨fun _ => h, fun ⟨j, hj, hc⟩ => absurd hc (hl j hj)⟩
  | @tail m n _ s ih =>
    rcases s.heard_cases with he | ⟨k, he⟩
    · rw [he] at hm ⊢
      obtain ⟨hb, hs⟩ := ih hm
      exact ⟨fun hn => (hb hn).step s (he ▸ hn), fun hn => (hs hn).step s he⟩
    · rw [he, List.dropLast_concat] at hm
      obtain ⟨hb, -⟩ := ih fun j hj => hm j (List.dropLast_subset _ hj)
      refine ⟨fun hn => (hb hm).step s hn, fun ⟨j, hj, hc⟩ => ?_⟩
      rw [he] at hj
      rcases List.mem_append.mp hj with hj | hj
      · exact absurd hc (hm j hj)
      · exact (hb hm).cut s he (List.mem_singleton.mp hj ▸ hc)

end Steps

end ParkingStation.PaymentReader
