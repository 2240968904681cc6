import ParkingStation.Proofs.Exchange.Requests
import ParkingStation.Proofs.Station.Occasions
import ParkingStation.Settings.Validity

namespace ParkingStation

open Exchange

namespace Settings

variable {s : Settings}

def isEnabled (s : Settings) : Device → Bool
  | .antenna => s.antenna.enabled
  | .cardReader => s.cardReader.enabled
  | .paymentReader => s.paymentReader.enabled

lemma ensure_ok {condition : Bool} {cause : Misconfiguration} (h : ensure condition cause = .ok ()) :
    condition = true := by
  unfold ensure at h
  split at h
  · assumption
  · cases h

lemma PaymentReader.check_ok {r : Settings.PaymentReader} (h : r.check = .ok ()) :
    (∃ key, r.key = .ok key) ∧ 0 < r.chunkSize ∧ r.chunkSize ≤ ParkingStation.PaymentReader.maxChunkSize := by
  obtain ⟨_, -, h⟩ := of_bind_ok h
  obtain ⟨_, -, h⟩ := of_bind_ok h
  obtain ⟨_, hk, h⟩ := of_bind_ok h
  refine ⟨?_, by simpa using ensure_ok h⟩
  cases hr : r.key with
  | ok key => exact ⟨key, rfl⟩
  | error err =>
    rw [hr] at hk
    cases hk

lemma check_paymentReader (h : s.check = .ok ()) (he : s.paymentReader.enabled = true) :
    s.paymentReader.check = .ok () := by
  have rest {x : Except Error Unit} (h : (do x; s.paymentReader.check) = .ok ()) : s.paymentReader.check = .ok () := by
    obtain ⟨_, -, h⟩ := of_bind_ok h
    exact h
  simp only [check, he, if_true] at h
  split at h
  · obtain ⟨_, -, h⟩ := of_bind_ok h
    split at h
    · exact rest h
    · exact h
  · split at h
    · exact rest h
    · exact h

end Settings

namespace Exchange.Fitting

def Splits (size : Nat) : Fitting → Prop
  | antenna _ | cardReader => True
  | paymentReader _ => 0 < size ∧ size ≤ PaymentReader.maxChunkSize

structure Able (f : Fitting) (c : Controller f.peripheral) : Prop where
  commands : ∀ x ∈ c.roster, ¬ f.IllDated x → Sendable x
  pieces : ∀ k ∈ c.pieces, SendablePiece k
  illDated : ∀ o, c.command = some o → f.IllDated o.item →
    ∃ err, ∀ now, c.FailsUnsent now o err ((c.advance .commandEnqueued).sendRequest now)

variable {size : Nat} {f : Fitting} {c : Controller f.peripheral}

structure Equipped (size : Nat) (f : Fitting) (c : Controller f.peripheral) : Prop where
  ready : c.Ready f.Asked SendablePiece
  splits : f.Splits size

lemma able_of_stocked (h : c.Stocked f.Asked SendablePiece) : f.Able c := by
  refine ⟨h.commands, h.pieces, fun o hc hd => ?_⟩
  obtain ⟨err, he⟩ := f.frameless hd (nextSequence c.seq)
  exact ⟨err, fun now => c.failsUnsent now (h.unsent o hc (f.frameless hd)) hc he⟩

lemma Equipped.submit (h : f.Equipped size c) (r : f.Request) : f.Equipped size (f.submit r c) := by
  refine ⟨?_, h.splits⟩
  have hp : Controller.Ready f.Asked SendablePiece { c with session := f.prepare r c.session } := h.ready.instruct _
  rw [f.submit_eq, demands]
  cases hc : f.command? r with
  | none => exact hp
  | some x => exact hp.submit (f.asked_of_request hc)

lemma Equipped.upload {key : PaymentReader.LoginBlock} {c : Controller (PaymentReader.peripheral key)}
    (h : (paymentReader key).Equipped size c) (kind : PaymentReader.FileKind) (data : Bytes) :
    (paymentReader key).Equipped size (PaymentReader.Request.upload kind data size c).2 := by
  refine ⟨?_, h.splits⟩
  unfold PaymentReader.Request.upload
  split
  · rename_i chunks hs
    exact h.ready.submitUpload fun _ hk => PaymentReader.sendablePiece_of_splitFile h.splits.1 h.splits.2 hs hk
  · exact h.ready

lemma equipped_lasting (size : Nat) : Station.Lasting size (Equipped size) where
  step h now input := ⟨h.ready.step (followedUp _) now input, h.splits⟩
  notice h := ⟨h.ready.notice, h.splits⟩
  submit h r := h.submit r
  upload h kind data := h.upload kind data

end Exchange.Fitting

namespace Station

variable {s : Settings} {hasLine : Device → Bool} {line : Line} {st : Station}
  {R : (f : Fitting) → Controller f.peripheral → Prop}

def staffed (s : Settings) (key : PaymentReader.LoginBlock) (line : Line) : Station :=
  bare s key |>.attachIf s.antenna.enabled .antenna line |>.attachIf s.cardReader.enabled .cardReader line
    |>.attachIf s.paymentReader.enabled .paymentReader line

lemma requireLine_ok {device : Device} {enabled given : Bool} (h : enabled = true → given = true) :
    requireLine device enabled given = .ok () := by
  cases enabled with
  | false => rfl
  | true => rw [h rfl]; rfl

lemma start_ok (hl : ∀ device, s.isEnabled device = true → hasLine device = true)
    (hk : s.paymentReader.enabled = true → ∃ key, s.paymentReader.key = .ok key) (line : Line) :
    ∃ key, (s.paymentReader.enabled = true → s.paymentReader.key = .ok key) ∧
      start s hasLine line = .ok (staffed s key line) := by
  have ha : requireLine .antenna s.antenna.enabled (hasLine .antenna) = .ok () := requireLine_ok (hl .antenna)
  have hc : requireLine .cardReader s.cardReader.enabled (hasLine .cardReader) = .ok () := requireLine_ok (hl .cardReader)
  have hp : requireLine .paymentReader s.paymentReader.enabled (hasLine .paymentReader) = .ok () :=
    requireLine_ok (hl .paymentReader)
  rw [start, ha, hc, hp]
  cases he : s.paymentReader.enabled with
  | false => exact ⟨noKey, nofun, by rw [staffed, he]; rfl⟩
  | true =>
    obtain ⟨key, hk⟩ := hk he
    exact ⟨key, fun _ => hk, by rw [staffed, he, hk]; rfl⟩

lemma Keeps.attachIf (h : st.Keeps s R) {enabled : Bool} (device : Device) (line : Line)
    (hf : enabled = true → ∀ f : Fitting, f.peripheral.device = device →
      ∀ session timing, R f (.fresh f.peripheral session timing)) :
    (st.attachIf enabled device line).Keeps s R := by
  obtain ⟨hs, ha, hc, hp⟩ := h
  cases enabled with
  | false => exact ⟨hs, ha, hc, hp⟩
  | true =>
    have started {f : Fitting} (hd : f.peripheral.device = device) {session timing}
        (w : Worker f.peripheral) (hw : some (.start (.fresh f.peripheral session timing) line) = some w) :
        R f w.controller := by
      obtain rfl := Option.some.inj hw
      exact hf rfl f hd session timing
    cases device with
    | antenna => exact ⟨hs, started (f := .antenna _) rfl, hc, hp⟩
    | cardReader => exact ⟨hs, ha, started (f := .cardReader) rfl, hp⟩
    | paymentReader => exact ⟨hs, ha, hc, started (f := .paymentReader _) rfl⟩

lemma keeps_staffed (key : PaymentReader.LoginBlock) (line : Line)
    (hz : s.paymentReader.enabled = true → ∀ f : Fitting, f.Splits s.paymentReader.chunkSize) :
    (staffed s key line).Keeps s (Fitting.Equipped s.paymentReader.chunkSize) := by
  have vacant : (bare s key).Keeps s (Fitting.Equipped s.paymentReader.chunkSize) := by
    refine ⟨rfl, ?_, ?_, ?_⟩
    all_goals
      intro w hw
      cases hw
  have unfilled {f : Fitting} (hd : f.peripheral.device ≠ .paymentReader) : f.Splits s.paymentReader.chunkSize := by
    cases f with
    | antenna | cardReader => trivial
    | paymentReader => exact absurd rfl hd
  refine Keeps.attachIf (Keeps.attachIf (Keeps.attachIf vacant .antenna line ?_) .cardReader line ?_) .paymentReader line ?_
  · exact fun _ f hd _ _ => ⟨Controller.ready_fresh _ _, unfilled (by simp [hd])⟩
  · exact fun _ f hd _ _ => ⟨Controller.ready_fresh _ _, unfilled (by simp [hd])⟩
  · exact fun he f _ _ _ => ⟨Controller.ready_fresh _ _, hz he f⟩

lemma isSome_staffed (key : PaymentReader.LoginBlock) (line : Line) (device : Device) :
    ((staffed s key line).inspect device fun _ _ => ()).isSome = s.isEnabled device := by
  unfold staffed attachIf
  cases device <;> (split <;> split <;> split <;> simp_all [Settings.isEnabled, inspect, attach, bare])

/-- With settings that pass the check a station starts, and no request but an ill-dated one and no upload ever fails for
want of a frame. An ill-dated one has none: it fails whenever it is taken up, before anything is written. -/
theorem checked_station_can_send (hs : s.check = .ok ())
    (hl : ∀ device, s.isEnabled device = true → hasLine device = true) (line : Line) :
    ∃ st, start s hasLine line = .ok st ∧
      (∀ device, (st.inspect device fun _ _ => ()).isSome = s.isEnabled device) ∧
      (s.paymentReader.enabled = true → s.paymentReader.key = .ok st.key ∧ ∀ kind data chunks,
        PaymentReader.splitFile kind data s.paymentReader.chunkSize = .ok chunks →
          ∀ chunk ∈ chunks, SendablePiece (p := PaymentReader.peripheral st.key) chunk) ∧
      (∀ (f : Fitting) (r : f.Request) x, f.command? r = some x → ¬ f.IllDated x → Sendable x) ∧
      (∀ time seq, ¬ FourDigits time.date.year →
        Controller.requestBytes (p := PaymentReader.peripheral st.key) (.setTime time) seq =
          .error (.invalidFrame (.bcdDigits time.digits))) ∧
      ∀ occasions, (st.after occasions).Holds fun f c =>
        (∀ o, c.command = some o → ¬ f.IllDated o.item) ∧
          ∀ now xs d, Controller.Moves (Controller.LineMove now) c xs d → f.Able d := by
  have hp (he : s.paymentReader.enabled = true) := Settings.PaymentReader.check_ok (Settings.check_paymentReader hs he)
  obtain ⟨key, hk, hst⟩ := start_ok hl (fun he => (hp he).1) line
  have hz (he : s.paymentReader.enabled = true) (f : Fitting) : f.Splits s.paymentReader.chunkSize := by
    cases f with
    | antenna | cardReader => trivial
    | paymentReader => exact (hp he).2
  have hkey : (staffed s key line).key = key := by
    unfold staffed attachIf
    split <;> split <;> split <;> rfl
  refine ⟨_, hst, isSome_staffed key line, fun he => ⟨by rw [hkey]; exact hk he, ?_⟩, ?_, ?_, fun occasions => ?_⟩
  · exact fun _ _ _ h _ => PaymentReader.sendablePiece_of_splitFile (hp he).2.1 (hp he).2.2 h
  · exact fun f _ _ h => f.asked_of_request h
  · exact fun _ seq h => PaymentReader.requestBytes_illDated h seq
  · refine ((keeps_staffed key line hz).after (Fitting.equipped_lasting _) occasions).holds.mono ?_
    intro f c h
    refine ⟨fun o hc hd => h.ready.sent o hc (f.frameless hd), fun now xs d hm => ?_⟩
    exact Fitting.able_of_stocked (hm.stocked f.followedUp h.ready.toStocked)

def largeChunks : Settings where
  antenna := { serial := { port := "COM1" } }
  cardReader := { serial := { port := "COM2" } }
  paymentReader := { serial := { port := "COM3" }, loginKey := " 0123456789abcdef ", chunkSize := 1014 }

theorem large_chunks_can_be_sent :
    largeChunks.check = .ok () ∧ ∃ st, start largeChunks (fun _ => true) {} = .ok st ∧ ∀ occasions,
      (st.after occasions).Holds fun f c =>
        ∀ now xs d, Controller.Moves (Controller.LineMove now) c xs d → f.Able d := by
  have hs : largeChunks.check = .ok () := by decide +kernel
  have hl : ∀ device, largeChunks.isEnabled device = true → (fun _ => true) device = true := fun _ _ => rfl
  obtain ⟨st, hst, -, -, -, -, h⟩ := checked_station_can_send hs hl {}
  exact ⟨hs, st, hst, fun occasions => (h occasions).mono fun h => h.2⟩

end Station

end ParkingStation
