import ParkingStation.Proofs.Antenna.Wire
import ParkingStation.Proofs.Dates
import ParkingStation.Proofs.Exchange.Sendable
import ParkingStation.Proofs.PaymentReader.Splitting

namespace ParkingStation

open Exchange

namespace Antenna

lemma encode_within {algorithm : Checksum.Algorithm} {f : Frame} {bytes : Bytes} (h : encode algorithm f = .ok bytes) :
    bytes.length ≤ maxFrame := by
  unfold encode at h
  split at h
  · rename_i hf
    obtain rfl : wire algorithm f = bytes := Except.ok.inj h
    have hd := length_doubled_le f.body
    have hb : f.body.length = 7 + f.data.length := by
      simp only [Frame.body, List.length_append, List.length_cons, List.length_nil]
    simp only [wire, lowFirst, List.length_append, List.length_cons, List.length_nil, maxFrame, maxBody, headerLength]
    omega
  · cases h

end Antenna

namespace CardReader

lemma encode_within {f : Frame} {bytes : Bytes} (h : encode f = .ok bytes) : bytes.length ≤ maxFrame := by
  unfold encode at h
  split at h
  · rename_i hf
    obtain rfl : wire f = bytes := Except.ok.inj h
    simp only [wire, checked, List.length_append, List.length_cons, List.length_nil, maxFrame]
    omega
  · cases h

end CardReader

namespace PaymentReader

lemma encode_within {algorithm : Checksum.Algorithm} {f : Frame} {bytes : Bytes} (h : encode algorithm f = .ok bytes) :
    bytes.length ≤ maxFrame := by
  simp only [encode] at h
  split at h
  · rename_i hf
    obtain rfl : wire algorithm f = bytes := Except.ok.inj h
    simp only [minFrame] at hf
    simp only [wire, checked, highFirst, List.length_append, List.length_cons, List.length_nil]
    omega
  · cases h

end PaymentReader

namespace Exchange.Fitting

lemma encode_within (f : Fitting) {frame : Except Error f.peripheral.Frame} {bytes : Bytes}
    (h : frame >>= f.peripheral.scanner.encode = .ok bytes) : bytes.length ≤ f.peripheral.scanner.limit := by
  obtain ⟨frame, -, he⟩ := of_bind_ok h
  cases f with
  | antenna settings => exact Antenna.encode_within he
  | cardReader => exact CardReader.encode_within he
  | paymentReader key => exact PaymentReader.encode_within he

lemma sendable_iff (f : Fitting) (x : f.peripheral.Command) :
    Sendable x ↔ ∀ seq, ∃ bytes, Controller.requestBytes x seq = .ok bytes :=
  ⟨fun h seq => (h seq).imp fun _ hb => hb.1, fun h seq => (h seq).imp fun _ hb => ⟨hb, f.encode_within hb⟩⟩

lemma sendablePiece_iff (f : Fitting) (k : f.peripheral.Chunk) :
    SendablePiece k ↔ ∀ seq, ∃ bytes, Controller.chunkBytes k seq = .ok bytes :=
  ⟨fun h seq => (h seq).imp fun _ hb => hb.1, fun h seq => (h seq).imp fun _ hb => ⟨hb, f.encode_within hb⟩⟩

end Exchange.Fitting

namespace PaymentReader

variable {key : LoginBlock} {time : DateTime}

def Command.IllDated : Command → Prop
  | setTime time => ¬ FourDigits time.date.year
  | _ => False

lemma payload_ok {x : Command} (hd : ¬ x.IllDated) (hu : ∀ kind data, x ≠ .uploadFile kind data) :
    ∃ payload, x.payload = .ok payload ∧ payload.length ≤ 8 := by
  cases x with
  | login2 response => exact ⟨response.val, rfl, response.property.le⟩
  | deduct amount => exact ⟨_, rfl, by simp [Bytes.length_ofNat]⟩
  | setTime time =>
    obtain ⟨bs, hb, hl⟩ := Bcd.packDateTime_ok (not_not.mp hd)
    exact ⟨bs, hb, by omega⟩
  | uploadFile kind data => exact absurd rfl (hu kind data)
  | getStatus | login1 | logout | getCardId | getCardBalance | flush | getTime | getFileVersions =>
    exact ⟨[], rfl, Nat.zero_le _⟩

lemma sendable_of_payload {x : (peripheral key).Command} {payload : Bytes} (hp : Command.payload x = .ok payload)
    (hl : payload.length ≤ 8) : Sendable x := by
  refine (Fitting.sendable_iff (.paymentReader key) x).mpr fun seq => ?_
  have hf : Command.toFrame seq x = .ok ⟨false, Command.kind x, seq :: payload⟩ :=
    congrArg (Except.map fun payload => (⟨false, Command.kind x, seq :: payload⟩ : Frame)) hp
  have hb : Controller.requestBytes x seq = encode .forward ⟨false, Command.kind x, seq :: payload⟩ := by
    change Command.toFrame seq x >>= encode .forward = _
    rw [hf]
    rfl
  refine ⟨_, hb.trans (if_pos ?_)⟩
  simp only [minFrame, maxFrame, List.length_cons]
  omega

theorem requestBytes_illDated (h : ¬ FourDigits time.date.year) (seq : UInt8) :
    Controller.requestBytes (p := peripheral key) (.setTime time) seq =
      .error (.invalidFrame (.bcdDigits time.digits)) := by
  change Command.toFrame seq (.setTime time) >>= encode .forward = _
  rw [Command.toFrame, Command.payload, Bcd.packDateTime_error h]
  rfl

lemma sendablePiece {chunk : Chunk} (h : chunk.data.length ≤ maxChunkSize) :
    SendablePiece (p := peripheral key) chunk :=
  (Fitting.sendablePiece_iff (.paymentReader key) chunk).mpr fun seq => ⟨_, encode_toFrame .forward seq h⟩

lemma sendablePiece_of_splitFile {kind : FileKind} {data : Bytes} {size : Nat} {chunks : List Chunk} (hs : 0 < size)
    (hm : size ≤ maxChunkSize) (h : splitFile kind data size = .ok chunks) {chunk : Chunk} (hc : chunk ∈ chunks) :
    SendablePiece (p := peripheral key) chunk := by
  rw [splitFile_eq hs] at h
  split at h
  · obtain rfl : pieces kind data size = chunks := Except.ok.inj h
    obtain ⟨i, hi⟩ := List.mem_iff_getElem?.mp hc
    obtain ⟨-, -, -, hl, -⟩ := getElem?_pieces_spec hs hi
    exact sendablePiece (hl.trans hm)
  · cases h

end PaymentReader

namespace Exchange.Fitting

def IllDated : (f : Fitting) → f.peripheral.Command → Prop
  | paymentReader _, x => PaymentReader.Command.IllDated x
  | antenna _, _ | cardReader, _ => False

def Asked (f : Fitting) (x : f.peripheral.Command) : Prop := ¬ f.IllDated x → Sendable x

lemma asked_paymentReader {key : PaymentReader.LoginBlock} {x : PaymentReader.Command}
    (hu : ∀ kind data, x ≠ .uploadFile kind data) : (paymentReader key).Asked x := by
  intro hd
  obtain ⟨payload, hp, hl⟩ := PaymentReader.payload_ok hd hu
  exact PaymentReader.sendable_of_payload hp hl

lemma asked_antenna {settings : Settings.Antenna} (x : Antenna.Command) : (antenna settings).Asked x := by
  refine fun _ => ((antenna settings).sendable_iff x).mpr fun seq => ⟨_, if_pos ?_⟩
  cases x <;> simp [Antenna.Command.toFrame, Antenna.Command.data, Antenna.maxData]

lemma asked_cardReader (x : CardReader.Command) : cardReader.Asked x :=
  fun _ => (cardReader.sendable_iff x).mpr fun _ => ⟨CardReader.wire x.toFrame, rfl⟩

theorem asked_of_request (f : Fitting) {r : f.Request} {x : f.peripheral.Command} (h : f.command? r = some x) :
    f.Asked x := by
  cases f with
  | antenna settings => exact asked_antenna x
  | cardReader => exact asked_cardReader x
  | paymentReader key =>
    refine asked_paymentReader ?_
    rintro kind data rfl
    cases r <;> cases h

theorem followedUp (f : Fitting) : FollowedUpBy f.Asked := by
  intro session command frame events followUps h x hx
  cases f with
  | antenna settings => exact asked_antenna x
  | cardReader => exact asked_cardReader x
  | paymentReader key =>
    refine asked_paymentReader ?_
    rintro kind data rfl
    rcases ((PaymentReader.resolved_judge key session command frame).of_answered h).1 _ hx with h | ⟨_, h⟩ <;> cases h

lemma frameless (f : Fitting) {x : f.peripheral.Command} (h : f.IllDated x) : Frameless x := by
  cases f with
  | antenna | cardReader => exact h.elim
  | paymentReader key =>
    cases (x : PaymentReader.Command) with
    | setTime time => exact fun seq => ⟨_, PaymentReader.requestBytes_illDated h seq⟩
    | _ => exact h.elim

end Exchange.Fitting

end ParkingStation
