import ParkingStation.Proofs.Exchange.Errands
import ParkingStation.Proofs.Exchange.PollCeiling

/-! A request for a poll puts the switch on; the request to stop puts it off, and so do answers to some commands
and a poll that is given up. -/

namespace ParkingStation

namespace Exchange

variable {p : Peripheral}

def Spares {C S : Type} (isOn : S → Bool) (polls ends : C → Bool) (session : S) (command : C) : Verdict C × S → Prop
  | (.answered _ followUps, next) =>
    (∀ x ∈ followUps, polls x = false) ∧ isOn next = (isOn session && !ends command)
  | (.unready _, next) => polls command = true ∧ isOn next = isOn session
  | (.refused .., next) | (.again .., next) | (.unrelated _, next) => isOn next = isOn session

lemma Resolution.spares {C S : Type} {isOn : S → Bool} {polls ends : C → Bool} {follows : C → Prop} {session : S}
    {command : C} {result : Verdict C × S} (h : Resolution isOn polls ends follows session command result)
    (hf : ∀ x, follows x → polls x = false) : Spares isOn polls ends session command result := by
  cases h with
  | answered _ hx hs => exact ⟨fun x hm => hf x (hx x hm), hs⟩
  | unready hp hs => exact ⟨hp, hs⟩
  | refused _ hs => exact hs
  | busy | unrelated => rfl

structure Switch (p : Peripheral) where
  isOn : p.Session → Bool
  polls : p.Command → Bool
  ends : p.Command → Bool
  asksAgain : ∀ {session command}, polls command = true → isOn session = true → p.asksAgain session command = true
  judge : ∀ session command frame, Spares isOn polls ends session command (p.judge session command frame)
  giveUp : ∀ session command reason, isOn (p.giveUp session command reason).2 = (isOn session && !polls command)

namespace Switch

def putOffBy (σ : Switch p) (x : Ticket p × Fate p) : Bool :=
  match x.2 with
  | .answered .. => σ.ends x.1.command
  | .abandoned .. => σ.polls x.1.command
  | .failed .. | .dropped _ => false

variable (σ : Switch p) {session : p.Session} {command : p.Command} {frame : p.Frame}

lemma judged {verdict : Verdict p.Command} (h : (p.judge session command frame).1 = verdict) :
    Spares σ.isOn σ.polls σ.ends session command (verdict, (p.judge session command frame).2) := by
  rw [← h]
  exact σ.judge session command frame

lemma isOn_judge (h : ∀ events followUps, (p.judge session command frame).1 ≠ .answered events followUps) :
    σ.isOn (p.judge session command frame).2 = σ.isOn session := by
  cases hv : (p.judge session command frame).1 with
  | answered events followUps => exact absurd hv (h events followUps)
  | unready => exact (σ.judged hv).2
  | refused | again | unrelated => exact σ.judged hv

end Switch

namespace Ledger

variable {l m : Ledger p}

lemma line_putFirst {t u : Ticket p} (h : u ∈ (l.putFirst t).line) : u = t ∨ u ∈ l.line := by
  rcases putFirst_cases t l with ⟨-, he⟩ | he <;> rw [he] at h
  · exact .inr h
  · simp only [line, List.mem_append, List.mem_cons] at h ⊢
    tauto

lemma Step.line (σ : Switch p) (s : Step l m) {t : Ticket p} (ht : t ∈ m.line) (hp : σ.polls t.command = true) :
    t ∈ l.line := by
  cases s with
  | take hc hw => simpa [Ledger.line, hc, hw] using ht
  | unrelated | again | unready | upload => exact ht
  | unsendable | refused | dropped | abandoned => exact List.mem_append_right _ ht
  | requeued hc ha =>
    rcases line_putFirst ht with rfl | ht
    · simp [Ledger.line, hc]
    · exact List.mem_append_right _ ht
  | @answered u frame events followUps hc hv =>
    obtain ⟨front, hf, he⟩ := putAllFirst_frame followUps ((l.hear u frame).release u (.answered events followUps))
    rw [he] at ht
    rcases List.mem_append.mp ht with ht | ht
    · cases ht
    · rcases List.mem_append.mp ht with ht | ht
      · cases hp.symm.trans ((σ.judged hv).1 _ (hf t ht).2)
      · exact List.mem_append_right _ ht

lemma Step.released (s : Step l m) :
    m.released = l.released ∨ ∃ t fate, t ∈ l.line ∧ m.released = l.released ++ [(t, fate)] ∧
      ∀ events, fate = .dropped events → ∃ frame, (p.judge l.session t.command frame).1 = .unready events ∧
        p.asksAgain (p.judge l.session t.command frame).2 t.command = false := by
  have hm {t : Ticket p} (hc : l.current = some t) : t ∈ l.line := by simp [Ledger.line, hc]
  cases s with
  | take | unrelated | again | unready | upload => exact .inl rfl
  | unsendable hc | refused hc | abandoned _ hc =>
    refine .inr ⟨_, _, hm hc, rfl, ?_⟩
    rintro _ ⟨⟩
  | dropped hc hv ha =>
    refine .inr ⟨_, _, hm hc, rfl, ?_⟩
    rintro _ ⟨⟩
    exact ⟨_, hv, ha⟩
  | requeued => exact .inl (released_putFirst _ _)
  | answered hc hv =>
    refine .inr ⟨_, .answered .., hm hc, released_putAllFirst _ _, ?_⟩
    rintro _ ⟨⟩

lemma Step.switch (σ : Switch p) (s : Step l m) :
    m.released = l.released ∧ σ.isOn m.session = σ.isOn l.session ∨
      ∃ x, m.released = l.released ++ [x] ∧ σ.isOn m.session = (σ.isOn l.session && !σ.putOffBy x) := by
  cases s with
  | take | upload => exact .inl ⟨rfl, rfl⟩
  | unrelated hc hv | again hc hv | unready hc hv => exact .inl ⟨rfl, σ.isOn_judge (by simp [hv])⟩
  | unsendable => exact .inr ⟨_, rfl, (Bool.and_true _).symm⟩
  | dropped hc hv | refused hc hv => exact .inr ⟨_, rfl, (σ.isOn_judge (by simp [hv])).trans (Bool.and_true _).symm⟩
  | requeued => exact .inl ⟨released_putFirst _ _, congrArg σ.isOn (session_putFirst _ _)⟩
  | @abandoned t reason hc => exact .inr ⟨_, rfl, σ.giveUp l.session t.command reason⟩
  | @answered t frame events followUps hc hv =>
    refine .inr ⟨(t, .answered events followUps), released_putAllFirst _ _, ?_⟩
    rw [session_putAllFirst]
    exact (σ.judged hv).2

lemma Step.dropped_off (σ : Switch p) (s : Step l m) {t : Ticket p} {events : List Event}
    (hr : m.released = l.released ++ [(t, .dropped events)]) :
    t ∈ l.line ∧ σ.polls t.command = true ∧ σ.isOn l.session = false := by
  rcases s.released with he | ⟨u, fate, hu, he, hd⟩
  · simp [he] at hr
  · obtain ⟨rfl, rfl⟩ : u = t ∧ fate = .dropped events := by simpa [he] using hr
    obtain ⟨frame, hv, ha⟩ := hd events rfl
    refine ⟨hu, (σ.judged hv).1, ?_⟩
    by_contra hn
    have hs : σ.isOn (p.judge l.session u.command frame).2 = σ.isOn l.session := σ.isOn_judge (by simp [hv])
    cases ha.symm.trans (σ.asksAgain (σ.judged hv).1 (hs.trans (by simpa using hn)))

lemma InOrder.apart (h : l.InOrder) {x : Ticket p × Fate p} (hx : x ∈ l.released) {t : Ticket p} (ht : t ∈ l.line)
    (hs : t.serial.isSome) : x.1.serial ≠ t.serial := by
  intro he
  have hn := h.nodup
  rw [tickets, List.append_assoc, own_append, List.map_append] at hn
  have hm {u : Ticket p} {us : List (Ticket p)} (hu : u ∈ us) (hs : u.serial.isSome) :
      u.serial ∈ (own us).map (·.serial) := List.mem_map_of_mem (List.mem_filter.mpr ⟨hu, hs⟩)
  exact (List.nodup_append.mp hn).2.2 _ (hm (List.mem_map_of_mem hx) (he ▸ hs)) _ (hm ht hs) he

end Ledger

end Exchange

open Exchange

namespace Antenna

def switch (settings : Settings.Antenna) : Switch (peripheral settings) where
  isOn := Session.scanning
  polls := Command.isPoll
  ends := Command.endsScan
  asksAgain {s command} hp hs := by
    obtain rfl : command = Command.forceGetUnit := by cases command <;> first | rfl | cases hp
    exact decide_eq_true ⟨rfl, hs⟩
  judge s command frame := (resolved_judge settings.minOkTimes s command frame).spares nofun
  giveUp s command reason := by
    cases command with
    | forceGetUnit => exact (Bool.and_false _).symm
    | setAntennaData | getStatus | stopUnit => exact (Bool.and_true _).symm

end Antenna

namespace CardReader

def switch : Switch peripheral where
  isOn := Session.scanning
  polls := Command.isPoll
  ends := Command.isPoll
  asksAgain {s command} hp hs := by
    obtain rfl : command = Command.detectCard := by cases command <;> first | rfl | cases hp
    exact decide_eq_true ⟨rfl, hs⟩
  judge s command frame := (resolved_judge s command frame).spares nofun
  giveUp s command reason := by
    cases command with
    | detectCard => exact (Bool.and_false _).symm
    | _ => exact (Bool.and_true _).symm

end CardReader

namespace PaymentReader

def switch (key : LoginBlock) : Switch (peripheral key) where
  isOn := Session.scanning
  polls := Command.needsCard
  ends := Command.needsCard
  asksAgain hp hs := by
    change (Command.needsCard _ && _) = true
    rw [hp]
    exact hs
  judge s command frame := by
    refine (resolved_judge key s command frame).spares fun x hx => ?_
    rcases hx with rfl | ⟨response, rfl⟩ <;> rfl
  giveUp s command reason := by
    cases command with
    | getCardId | getCardBalance | deduct => exact (Bool.and_false _).symm
    | flush => exact (scanning_dropPending ..).trans (Bool.and_true _).symm
    | _ => exact (Bool.and_true _).symm

end PaymentReader

namespace Exchange

namespace Fitting

def switch : (f : Fitting) → Switch f.peripheral
  | antenna settings => Antenna.switch settings
  | cardReader => CardReader.switch
  | paymentReader key => PaymentReader.switch key

def stop : (f : Fitting) → f.Request
  | antenna _ => Antenna.Request.stopScanning
  | cardReader => CardReader.Request.stopDetect
  | paymentReader _ => PaymentReader.Request.stopScanning

def seeks (f : Fitting) (r : f.Request) : Bool := (f.command? r).any f.switch.polls

lemma isOn_stop (f : Fitting) (s : f.peripheral.Session) : f.switch.isOn (f.prepare f.stop s) = false := by
  cases f <;> rfl

lemma isOn_prepare (f : Fitting) (r : f.Request) (s : f.peripheral.Session) :
    f.seeks r = true ∧ f.switch.isOn (f.prepare r s) = true ∨
      f.seeks r = false ∧ (r = f.stop ∨ f.switch.isOn (f.prepare r s) = f.switch.isOn s) := by
  cases f with
  | antenna settings =>
    cases r with
    | startScanning => exact .inl ⟨rfl, rfl⟩
    | stopScanning => exact .inr ⟨rfl, .inl rfl⟩
    | setAntennaData | getStatus => exact .inr ⟨rfl, .inr rfl⟩
  | cardReader =>
    cases r with
    | detectCard => exact .inl ⟨rfl, rfl⟩
    | stopDetect => exact .inr ⟨rfl, .inl rfl⟩
    | init | getStatus | readCard | ejectCard | captureCard | getVersion => exact .inr ⟨rfl, .inr rfl⟩
  | paymentReader key =>
    cases r with
    | getCardId | getCardBalance | deduct => exact .inl ⟨rfl, rfl⟩
    | stopScanning => exact .inr ⟨rfl, .inl rfl⟩
    | getStatus | login | logout | getTime | setTime | getFileVersions | uploadFile => exact .inr ⟨rfl, .inr rfl⟩

end Fitting

end Exchange

end ParkingStation
