import Mathlib.Data.List.Forall2
import Mathlib.Data.List.TakeDrop
import Mathlib.Data.List.TakeWhile
import ParkingStation.Proofs.Bcd
import ParkingStation.Proofs.PaymentReader.Replies

namespace ParkingStation

lemma required_ok_iff {n : Nat} {data : Bytes} : required n data = .ok () ↔ n ≤ data.length := by
  simp [required]

lemma Card.parse_ok {data : Bytes} {card : Card} (h : Card.parse data = .ok card) :
    Card.length ≤ data.length ∧ Bcd.Packed (data.take 8) ∧ Bcd.SpellsDate ((data.drop 12).take 4) card.expiry := by
  obtain ⟨_, hl, h⟩ := of_bind_ok h
  obtain ⟨id, hi, h⟩ := of_bind_ok h
  obtain ⟨expiry, hx, h⟩ := of_bind_ok h
  cases h
  exact ⟨required_ok_iff.mp hl, (Bcd.unpack_ok_iff.mp hi).1, Bcd.unpackDate_ok_iff.mp hx⟩

namespace PaymentReader

open Exchange

variable {key : LoginBlock} {s next : Session} {command : Command} {frame : Frame} {data : Bytes}

lemma Record.parse_ok {record : Record} (h : Record.parse data = .ok record) :
    Record.length ≤ data.length ∧ Bcd.Packed (data.take 8) := by
  obtain ⟨_, hl, h⟩ := of_bind_ok h
  obtain ⟨_, hi, -⟩ := of_bind_ok h
  exact ⟨required_ok_iff.mp hl, (Bcd.unpack_ok_iff.mp hi).1⟩

lemma readCardId_ok_iff {id : String} :
    readCardId data = .ok id ↔ 8 ≤ data.length ∧ Bcd.Packed (data.take 8) ∧
      id = String.ofList ((data.take 8).flatMap Bcd.pairOf) := by
  constructor
  · intro h
    obtain ⟨_, hl, h⟩ := of_bind_ok h
    exact ⟨required_ok_iff.mp hl, Bcd.unpack_ok_iff.mp h⟩
  · rintro ⟨hl, h⟩
    simp only [readCardId, required_ok_iff.mpr hl]
    exact Bcd.unpack_ok_iff.mpr h

lemma readTime_ok_iff {time : DateTime} :
    readTime data = .ok time ↔ 7 ≤ data.length ∧ Bcd.SpellsTime (data.take 7) time := by
  constructor
  · intro h
    obtain ⟨_, hl, h⟩ := of_bind_ok h
    exact ⟨required_ok_iff.mp hl, Bcd.unpackDateTime_ok_iff.mp h⟩
  · rintro ⟨hl, h⟩
    simp only [readTime, required_ok_iff.mpr hl]
    exact Bcd.unpackDateTime_ok_iff.mpr h

def SpellsVersion (entry : List Char) (version : String × String) : Prop :=
  ∃ name number, entry = name ++ '=' :: number ∧ '=' ∉ name ∧ version = (String.ofList name, String.ofList number)

lemma readVersionEntry_ok_iff {entry : List Char} {version : String × String} :
    readVersionEntry entry = .ok version ↔ SpellsVersion entry version := by
  simp only [readVersionEntry, List.span_eq_takeWhile_dropWhile]
  constructor
  · intro h
    cases hd : entry.dropWhile (· ≠ '=') with
    | nil =>
      simp only [hd] at h
      cases h
    | cons sign number =>
      simp only [hd, Except.ok.injEq] at h
      obtain rfl : sign = '=' := by
        have hn := List.head?_dropWhile_not (· ≠ '=') entry
        rw [hd] at hn
        simpa using hn
      refine ⟨entry.takeWhile (· ≠ '='), number, ?_, fun hm => ?_, h.symm⟩
      · rw [← hd, List.takeWhile_append_dropWhile]
      · simpa using List.mem_takeWhile_imp hm
  · rintro ⟨name, number, rfl, hn, rfl⟩
    have hp : ∀ c ∈ name, decide (c ≠ '=') = true := fun c hc => decide_eq_true fun he => hn (he ▸ hc)
    rw [List.takeWhile_append_of_pos hp, List.dropWhile_append_of_pos hp]
    simp

lemma mapM_ok_iff {α β : Type} {f : α → Except Error β} {xs : List α} {ys : List β} :
    xs.mapM f = .ok ys ↔ List.Forall₂ (fun x y => f x = .ok y) xs ys := by
  induction xs generalizing ys with
  | nil => simp [pure, Except.pure, eq_comm]
  | cons x xs ih =>
    rw [List.mapM_cons]
    constructor
    · intro h
      obtain ⟨y, hy, h⟩ := of_bind_ok h
      obtain ⟨rest, hr, h⟩ := of_bind_ok h
      cases h
      exact .cons hy (ih.mp hr)
    · intro h
      cases h with
      | cons hy hr =>
        rw [hy, ih.mpr hr]
        rfl

def versionEntries (text : String) : List (List Char) :=
  ((splitAt ';' text.toList).map Text.trimChars).filter (¬ ·.isEmpty)

lemma readFileVersions_ok_iff {versions : Fields} :
    readFileVersions data = .ok versions ↔
      ∃ text, Text.Utf8.decode? data = some text ∧ List.Forall₂ SpellsVersion (versionEntries text) versions := by
  simp only [readFileVersions]
  cases hu : Text.Utf8.decode? data with
  | none => simp
  | some text =>
    have hm : (versionEntries text).mapM readVersionEntry = .ok versions ↔ _ := mapM_ok_iff
    simp only [readVersionEntry_ok_iff] at hm
    simpa [versionEntries] using hm

inductive Accepted (s : Session) : Command → Bytes → Session → Prop
  | getStatus {data : Bytes} (hl : 1 ≤ data.length) : Accepted s .getStatus data s
  | login1 {data : Bytes} (hl : 8 ≤ data.length) : Accepted s .login1 data s
  | login2 {response : LoginBlock} {data : Bytes} : Accepted s (.login2 response) data { s with loggedIn := true }
  | logout {data : Bytes} : Accepted s .logout data { s with loggedIn := false }
  | getCardId {data : Bytes} (hl : 8 ≤ data.length) (hi : Bcd.Packed (data.take 8)) :
      Accepted s .getCardId data { s with scanning := false }
  | getCardBalance {data : Bytes} {card : Card} (hl : 16 ≤ data.length) (hi : Bcd.Packed (data.take 8))
      (hx : Bcd.SpellsDate ((data.drop 12).take 4) card.expiry) (hc : Card.parse data = .ok card) :
      Accepted s .getCardBalance data { s with scanning := false, lastBalance := some card }
  | deduct {amount : UInt32} {data : Bytes} {record : Record} (hl : 20 ≤ data.length) (hi : Bcd.Packed (data.take 8))
      (hr : Record.parse data = .ok record) :
      Accepted s (.deduct amount) data { s with scanning := false, pendingDeduct := some record }
  | flush {data : Bytes} : Accepted s .flush data { s with pendingDeduct := none }
  | getTime {data : Bytes} {time : DateTime} (hl : 7 ≤ data.length) (ht : Bcd.SpellsTime (data.take 7) time) :
      Accepted s .getTime data { s with readerTime := some time }
  | setTime {time : DateTime} {data : Bytes} : Accepted s (.setTime time) data s
  | getFileVersions {data : Bytes} {text : String} {versions : Fields} (hu : Text.Utf8.decode? data = some text)
      (hv : List.Forall₂ SpellsVersion (versionEntries text) versions) :
      Accepted s .getFileVersions data { s with fileVersions := versions }

lemma flushed (s : Session) (h : s.pendingDeduct = none) : { s with pendingDeduct := none } = s := by
  cases s
  simp_all

lemma accept_cases {result : Verdict Command × Session} (h : s.accept key command data = .ok result) :
    (∃ events followUps next, result = (.answered events followUps, next) ∧ Accepted s command data next) ∨
      ∃ detail, result = (.unrelated detail, s) := by
  cases command with
  | getStatus =>
    cases data with
    | nil => cases h
    | cons state data =>
      cases h
      exact .inl ⟨_, _, _, rfl, .getStatus (Nat.succ_pos _)⟩
  | login1 =>
    obtain ⟨response, hf, h⟩ := of_bind_ok h
    cases h
    simp only [foldKey] at hf
    split at hf
    · exact .inl ⟨_, _, _, rfl, .login1 ‹_›⟩
    · cases hf
  | login2 response =>
    cases h
    exact .inl ⟨_, _, _, rfl, .login2⟩
  | logout =>
    cases h
    exact .inl ⟨_, _, _, rfl, .logout⟩
  | getCardId =>
    obtain ⟨id, hi, h⟩ := of_bind_ok h
    cases h
    obtain ⟨hl, hp, -⟩ := readCardId_ok_iff.mp hi
    exact .inl ⟨_, _, _, rfl, .getCardId hl hp⟩
  | getCardBalance =>
    obtain ⟨card, hc, h⟩ := of_bind_ok h
    cases h
    obtain ⟨hl, hi, hx⟩ := Card.parse_ok hc
    exact .inl ⟨_, _, _, rfl, .getCardBalance hl hi hx hc⟩
  | deduct amount =>
    obtain ⟨record, hr, h⟩ := of_bind_ok h
    cases h
    obtain ⟨hl, hi⟩ := Record.parse_ok hr
    exact .inl ⟨_, _, _, rfl, .deduct hl hi hr⟩
  | flush =>
    simp only [Session.accept] at h
    cases hp : s.pendingDeduct with
    | some record =>
      rw [hp] at h
      cases h
      exact .inl ⟨_, _, _, rfl, .flush⟩
    | none =>
      rw [hp] at h
      cases h
      exact .inl ⟨_, _, _, rfl, flushed s hp ▸ .flush⟩
  | getTime =>
    obtain ⟨time, ht, h⟩ := of_bind_ok h
    cases h
    obtain ⟨hl, ht⟩ := readTime_ok_iff.mp ht
    exact .inl ⟨_, _, _, rfl, .getTime hl ht⟩
  | setTime time =>
    cases h
    exact .inl ⟨_, _, _, rfl, .setTime⟩
  | getFileVersions =>
    obtain ⟨versions, hv, h⟩ := of_bind_ok h
    cases h
    obtain ⟨text, hu, hv⟩ := readFileVersions_ok_iff.mp hv
    exact .inl ⟨_, _, _, rfl, .getFileVersions hu hv⟩
  | uploadFile =>
    cases h
    exact .inr ⟨_, rfl⟩

lemma Accepted.accept (key : LoginBlock) (h : Accepted s command data next) :
    ∃ events followUps, s.accept key command data = .ok (.answered events followUps, next) := by
  cases h with
  | getStatus hl =>
    cases data with
    | nil => cases hl
    | cons state data => exact ⟨_, _, rfl⟩
  | login1 hl =>
    simp only [Session.accept, foldKey, dif_pos hl]
    exact ⟨_, _, rfl⟩
  | login2 => exact ⟨_, _, rfl⟩
  | logout => exact ⟨_, _, rfl⟩
  | getCardId hl hi =>
    simp only [Session.accept, readCardId_ok_iff.mpr ⟨hl, hi, rfl⟩]
    exact ⟨_, _, rfl⟩
  | getCardBalance hl hi hx hc =>
    simp only [Session.accept, hc]
    exact ⟨_, _, rfl⟩
  | deduct hl hi hr =>
    simp only [Session.accept, hr]
    exact ⟨_, _, rfl⟩
  | flush =>
    simp only [Session.accept]
    cases hp : s.pendingDeduct with
    | some record => exact ⟨_, _, rfl⟩
    | none =>
      rw [flushed s hp]
      exact ⟨_, _, rfl⟩
  | getTime hl ht =>
    simp only [Session.accept, readTime_ok_iff.mpr ⟨hl, ht⟩]
    exact ⟨_, _, rfl⟩
  | setTime => exact ⟨_, _, rfl⟩
  | getFileVersions hu hv =>
    simp only [Session.accept, readFileVersions_ok_iff.mpr ⟨_, hu, hv⟩]
    exact ⟨_, _, rfl⟩

def IsAnswer : Verdict Command → Prop
  | .answered .. => True
  | _ => False

/-- What a reply does to the session: an answer is accepted, and any other reply keeps the session and has nothing to
report, unless it fails a deduction that is not final yet. -/
inductive Atomic (s : Session) (command : Command) (frame : Frame) : Verdict Command × Session → Prop
  | answered {reply : Reply} {events : List Event} {followUps : List Command} {next : Session}
      (hr : Reply.parse frame = .ok reply) (hk : reply.kind = command.kind) (hs : reply.status = .ok)
      (ha : Accepted s command reply.data next) : Atomic s command frame (.answered events followUps, next)
  | kept {verdict : Verdict Command} (hv : ¬ IsAnswer verdict) (he : verdict.events = []) :
      Atomic s command frame (verdict, s)
  | dropped {record : Record} {reason : Reason} {detail : String}
      (hc : command = .flush ∨ ∃ amount, command = .deduct amount) (hp : s.pendingDeduct = some record) :
      Atomic s command frame
        (.refused reason detail [.failed .paymentReader "CardDeduct" reason ("flush failed: " ++ detail)],
          { s with pendingDeduct := none })

lemma atomic_ofError (e : Error) : Atomic s command frame (.ofError e, s) := by
  simp only [Verdict.ofError]
  split
  · exact .kept id rfl
  · exact .kept id rfl

lemma atomic_answer {reply : Reply} (hr : Reply.parse frame = .ok reply) (hk : reply.kind = command.kind) :
    Atomic s command frame (s.answer key command reply) := by
  simp only [Session.answer]
  split
  case h_1 hs =>
    cases ha : s.accept key command reply.data with
    | error e => exact atomic_ofError e
    | ok result =>
      rcases accept_cases ha with ⟨events, followUps, next, rfl, hn⟩ | ⟨detail, rfl⟩
      · exact .answered hr hk hs hn
      · exact .kept id rfl
  case h_2 => exact .kept id rfl
  case h_3 =>
    split
    · exact .kept id rfl
    · exact .kept id rfl
  case h_4 => exact .kept id rfl
  case h_5 => exact .kept id rfl

lemma Atomic.settle {result : Verdict Command × Session} (h : Atomic s command frame result) :
    Atomic s command frame (Session.settle command result) := by
  cases h with
  | answered hr hk hs ha => exact .answered hr hk hs ha
  | dropped hc hp =>
    rw [settle_none rfl]
    exact .dropped hc hp
  | @kept verdict hv he =>
    cases hp : s.pendingDeduct with
    | none =>
      rw [settle_none hp]
      exact .kept hv he
    | some record =>
      cases verdict with
      | refused reason detail events =>
        obtain rfl : events = [] := he
        by_cases hc : command = .flush ∨ ∃ amount, command = .deduct amount
        · have hd : Session.settle command (.refused reason detail [], s) =
              (.refused reason detail [loss reason detail], { s with pendingDeduct := none }) := by
            rcases hc with rfl | ⟨amount, rfl⟩ <;> simp [Session.settle, dropPending_some _ _ hp]
          rw [hd]
          exact .dropped hc hp
        · rw [settle_other (fun amount ha => hc (.inr ⟨amount, ha⟩)) fun hf => hc (.inl hf)]
          exact .kept hv rfl
      | answered | unready | again | unrelated => exact .kept hv he

lemma atomic_judge (key : LoginBlock) (s : Session) (command : Command) (frame : Frame) :
    Atomic s command frame (s.judge key command frame) := by
  simp only [Session.judge]
  split
  case h_1 e he => exact atomic_ofError e
  case h_2 reply hr =>
    split
    case isTrue hk => exact (atomic_answer hr hk).settle
    case isFalse => exact .kept id rfl

lemma Accepted.judge {reply : Reply} (key : LoginBlock) (hr : Reply.parse frame = .ok reply)
    (hk : reply.kind = command.kind) (hs : reply.status = .ok) (h : Accepted s command reply.data next) :
    ∃ events followUps, s.judge key command frame = (.answered events followUps, next) := by
  obtain ⟨events, followUps, ha⟩ := h.accept key
  refine ⟨events, followUps, ?_⟩
  simp only [Session.judge, hr, hk, if_true, Session.answer, hs, ha]
  rfl

/-- A reply changes what it answers for, or nothing but a deduction that fails; and the replies that are taken for
answers are those whose data is all there. -/
theorem judge_atomic (key : LoginBlock) (s : Session) (command : Command) (frame : Frame) :
    Atomic s command frame (s.judge key command frame) ∧
      (IsAnswer (s.judge key command frame).1 ↔
        ∃ reply next, Reply.parse frame = .ok reply ∧ reply.kind = command.kind ∧ reply.status = .ok ∧
          Accepted s command reply.data next) := by
  have ha := atomic_judge key s command frame
  refine ⟨ha, fun hv => ?_, ?_⟩
  · generalize s.judge key command frame = result at ha hv
    cases ha with
    | answered hr hk hs ha => exact ⟨_, _, hr, hk, hs, ha⟩
    | kept hn => exact absurd hv hn
    | dropped => cases hv
  · rintro ⟨reply, next, hr, hk, hs, h⟩
    obtain ⟨events, followUps, hj⟩ := h.judge key hr hk hs
    rw [hj]
    trivial

end PaymentReader

end ParkingStation
