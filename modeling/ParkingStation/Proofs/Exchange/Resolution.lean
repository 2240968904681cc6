import ParkingStation.Proofs.Exchange.Ledger

/-! What a reply comes to, one case analysis for each peripheral. -/

namespace ParkingStation

namespace Exchange

def Routine (events : List Event) : Prop := ∀ event ∈ events, event.isFault = false ∧ event.isUpload = false

lemma routine_nil : Routine [] := List.forall_mem_nil _

lemma Routine.power {device : Device} {on : Bool} {events : List Event} (h : Routine events) :
    Routine (.power device on :: events) := List.forall_mem_cons.mpr ⟨⟨rfl, rfl⟩, h⟩

lemma routine_succeeded {device : Device} {name : String} {fields : Fields} :
    Routine [.succeeded device name fields] := List.forall_mem_singleton.mpr ⟨rfl, rfl⟩

lemma Routine.append {events more : List Event} (h : Routine events) (hm : Routine more) : Routine (events ++ more) :=
  List.forall_mem_append.mpr ⟨h, hm⟩

lemma Routine.discreet {events : List Event} (h : Routine events) : events.all (!·.isFault) = true := by
  simpa using fun event he => (h event he).1

lemma Routine.isUpload {events : List Event} (h : Routine events) : ∀ event ∈ events, event.isUpload = false :=
  fun event he => (h event he).2

/-- How a reply settles a command, where all polls share the switch `isOn` and the results of `ends` put it off. -/
inductive Resolution {C S : Type} (isOn : S → Bool) (polls ends : C → Bool) (follows : C → Prop) (session : S)
    (command : C) : Verdict C × S → Prop
  | answered {events followUps next} (he : Routine events) (hf : ∀ x ∈ followUps, follows x)
      (hs : isOn next = (isOn session && !ends command)) :
      Resolution isOn polls ends follows session command (.answered events followUps, next)
  | unready {next} (hp : polls command = true) (hs : isOn next = isOn session) :
      Resolution isOn polls ends follows session command (.unready [], next)
  | refused {reason detail events next} (he : Routine events) (hs : isOn next = isOn session) :
      Resolution isOn polls ends follows session command (.refused reason detail events, next)
  | busy {detail} : Resolution isOn polls ends follows session command (.again .busy detail, session)
  | unrelated {detail} : Resolution isOn polls ends follows session command (.unrelated detail, session)

namespace Resolution

variable {C S : Type} {isOn : S → Bool} {polls ends : C → Bool} {follows : C → Prop} {session : S} {command : C}
  {result : Verdict C × S}

lemma done {events : List Event} {next : S} (he : Routine events) (hs : isOn next = (isOn session && !ends command)) :
    Resolution isOn polls ends follows session command (.done events, next) := .answered he (List.forall_mem_nil _) hs

lemma ofError (e : Error) : Resolution isOn polls ends follows session command (Verdict.ofError e, session) := by
  unfold Verdict.ofError
  split
  · exact .unrelated
  · exact .refused routine_nil rfl

lemma routine (h : Resolution isOn polls ends follows session command result) : Routine result.1.events := by
  cases h with
  | answered he | refused he => exact he
  | unready | busy | unrelated => exact routine_nil

lemma discreet (h : Resolution isOn polls ends follows session command result) : result.1.discreet = true := by
  cases h with
  | answered he | refused he => exact he.discreet
  | unready | busy | unrelated => rfl

lemma of_answered (h : Resolution isOn polls ends follows session command result) {events : List Event}
    {followUps : List C} (hv : result.1 = .answered events followUps) :
    (∀ x ∈ followUps, follows x) ∧ isOn result.2 = (isOn session && !ends command) := by
  cases h with
  | answered he hf hs =>
    cases hv
    exact ⟨hf, hs⟩
  | unready | refused | busy | unrelated => cases hv

end Resolution

end Exchange

open Exchange

namespace Antenna

def Command.isPoll : Command → Bool
  | forceGetUnit => true
  | _ => false

def Command.endsScan : Command → Bool
  | forceGetUnit | stopUnit => true
  | _ => false

def Reply.answers : Reply → Command → Bool
  | done, .setAntennaData .. | done, .stopUnit | status .., .getStatus | unit _, .forceGetUnit | noUnit, .forceGetUnit
  | rejected _, _ => true
  | _, _ => false

lemma answers_of_parse {command : Command} {frame : Frame} {reply : Reply}
    (h : Reply.parse command frame = .ok reply) : reply.answers command = true := by
  unfold Reply.parse at h
  split at h
  · cases h
  · split at h
    · split at h
      · cases h
      · split at h
        · rename_i hc
          cases h
          rw [hc.1]
          rfl
        · split at h
          · cases command with
            | setAntennaData | stopUnit =>
              cases h
              rfl
            | getStatus =>
              simp only [Reply.ofData] at h
              split at h <;> cases h
              rfl
            | forceGetUnit =>
              obtain ⟨_, -, h⟩ := of_bind_ok h
              obtain ⟨_, -, h⟩ := of_bind_ok h
              obtain ⟨_, -, h⟩ := of_bind_ok h
              cases h
              rfl
          · cases h
            rfl
    · cases h

lemma scanning_count {minOkTimes : Nat} {number : UnitNumber} {enough : Bool} {s next : Session}
    (h : s.count minOkTimes number = (enough, next)) : next.scanning = (s.scanning && !enough) := by
  simp only [Session.count] at h
  generalize (if s.lastUnit = some number then s.reads + 1 else 1) = reads at h
  split at h <;> cases h <;> simp

lemma answer_unit {minOkTimes : Nat} {number : UnitNumber} {enough : Bool} {s next : Session} (command : Command)
    (h : s.count minOkTimes number = (enough, next)) :
    s.answer minOkTimes command (.unit number) =
      (if enough then .done [.unitArrived number] else .unready [], next) := by
  unfold Session.answer
  dsimp only
  rw [h]
  cases enough <;> rfl

abbrev Resolved (s : Session) (command : Command) : Verdict Command × Session → Prop :=
  Resolution Session.scanning Command.isPoll Command.endsScan (fun _ => False) s command

lemma resolved_answer (minOkTimes : Nat) (s : Session) {command : Command} {reply : Reply}
    (hr : reply.answers command = true) : Resolved s command (s.answer minOkTimes command reply) := by
  cases reply with
  | done =>
    cases command with
    | stopUnit => exact .done routine_succeeded (Bool.and_false _).symm
    | setAntennaData => exact .done routine_succeeded.power (Bool.and_true _).symm
    | getStatus | forceGetUnit => cases hr
  | rejected =>
    cases command with
    | setAntennaData => exact .refused routine_nil.power rfl
    | getStatus | stopUnit | forceGetUnit => exact .refused routine_nil rfl
  | status =>
    cases command with
    | getStatus => exact .done routine_succeeded (Bool.and_true _).symm
    | setAntennaData | stopUnit | forceGetUnit => cases hr
  | noUnit =>
    cases command with
    | forceGetUnit => exact .unready rfl rfl
    | setAntennaData | getStatus | stopUnit => cases hr
  | unit number =>
    cases command with
    | forceGetUnit =>
      rcases hc : s.count minOkTimes number with ⟨enough, next⟩
      rw [answer_unit _ hc]
      cases enough with
      | false => exact .unready rfl ((scanning_count hc).trans (Bool.and_true _))
      | true => exact .done (List.forall_mem_singleton.mpr ⟨rfl, rfl⟩) (scanning_count hc)
    | setAntennaData | getStatus | stopUnit => cases hr

theorem resolved_judge (minOkTimes : Nat) (s : Session) (command : Command) (frame : Frame) :
    Resolved s command (s.judge minOkTimes command frame) := by
  unfold Session.judge
  split
  · exact .ofError _
  · rename_i hp
    exact resolved_answer minOkTimes s (answers_of_parse hp)

lemma discreet (settings : Settings.Antenna) : Discreet (peripheral settings) where
  judge s command frame := (resolved_judge settings.minOkTimes s command frame).discreet
  giveUp s command reason := by cases command <;> rfl

end Antenna

namespace CardReader

def Command.isPoll : Command → Bool
  | detectCard => true
  | _ => false

abbrev Resolved (s : Session) (command : Command) : Verdict Command × Session → Prop :=
  Resolution Session.scanning Command.isPoll Command.isPoll (fun _ => False) s command

lemma resolved_accept {s : Session} {command : Command} {status : UInt8} {data : Bytes}
    {result : Verdict Command × Session} (h : s.accept command status data = .ok result) :
    Resolved s command result := by
  cases command with
  | init =>
    cases h
    exact .done routine_succeeded.power (Bool.and_true _).symm
  | ejectCard | captureCard | getVersion =>
    cases h
    exact .done routine_succeeded (Bool.and_true _).symm
  | getStatus | readCard =>
    obtain ⟨_, -, h⟩ := of_bind_ok h
    cases h
    exact .done routine_succeeded (Bool.and_true _).symm
  | detectCard =>
    obtain ⟨presence, -, h⟩ := of_bind_ok h
    split at h <;> cases h
    · exact .done routine_succeeded (Bool.and_false _).symm
    · exact .unready rfl rfl

theorem resolved_judge (s : Session) (command : Command) (frame : Frame) :
    Resolved s command (s.judge command frame) := by
  unfold Session.judge Session.answer
  split
  · exact .ofError _
  · split
    · split
      · cases command with
        | init => exact .refused routine_nil.power rfl
        | _ => exact .refused routine_nil rfl
      · split
        · rename_i h
          exact resolved_accept h
        · exact .ofError _
    · exact .unrelated

lemma discreet : Discreet peripheral where
  judge s command frame := (resolved_judge s command frame).discreet
  giveUp s command reason := by cases command <;> rfl

end CardReader

namespace PaymentReader

def SecondStep (x : Command) : Prop := x = .flush ∨ ∃ response, x = .login2 response

abbrev Resolved (s : Session) (command : Command) : Verdict Command × Session → Prop :=
  Resolution Session.scanning Command.needsCard Command.needsCard SecondStep s command

lemma routine_dropPending (reason : Reason) (detail : String) (s : Session) :
    Routine (s.dropPending reason detail).1 := by
  unfold Session.dropPending
  split <;> simp [Routine, Event.isFault, Event.isUpload]

lemma scanning_dropPending (reason : Reason) (detail : String) (s : Session) :
    (s.dropPending reason detail).2.scanning = s.scanning := by
  unfold Session.dropPending
  split <;> rfl

lemma resolved_accept {key : LoginBlock} {s : Session} {command : Command} {data : Bytes}
    {result : Verdict Command × Session} (h : s.accept key command data = .ok result) : Resolved s command result := by
  cases command with
  | getStatus =>
    cases data <;> cases h
    exact .done routine_succeeded (Bool.and_true _).symm
  | login2 | logout | setTime =>
    cases h
    exact .done routine_succeeded (Bool.and_true _).symm
  | uploadFile =>
    cases h
    exact .unrelated
  | flush =>
    simp only [Session.accept] at h
    split at h <;> cases h <;> exact .done routine_succeeded (Bool.and_true _).symm
  | login1 =>
    obtain ⟨response, -, h⟩ := of_bind_ok h
    cases h
    exact .answered routine_nil (fun x hx => .inr ⟨response, List.mem_singleton.mp hx⟩) (Bool.and_true _).symm
  | deduct =>
    obtain ⟨_, -, h⟩ := of_bind_ok h
    cases h
    exact .answered routine_nil (fun x hx => .inl (List.mem_singleton.mp hx)) (Bool.and_false _).symm
  | getCardId | getCardBalance =>
    obtain ⟨_, -, h⟩ := of_bind_ok h
    cases h
    exact .done routine_succeeded (Bool.and_false _).symm
  | getTime | getFileVersions =>
    obtain ⟨_, -, h⟩ := of_bind_ok h
    cases h
    exact .done routine_succeeded (Bool.and_true _).symm

lemma resolved_answer (key : LoginBlock) (s : Session) (command : Command) (reply : Reply) :
    Resolved s command (s.answer key command reply) := by
  unfold Session.answer
  split
  · split
    · rename_i h
      exact resolved_accept h
    · exact .ofError _
  · exact .busy
  · split
    · rename_i h
      exact .unready h rfl
    · exact .refused routine_nil rfl
  · exact .refused routine_nil rfl
  · exact .refused routine_nil rfl

lemma resolved_settle {s : Session} {command : Command} {result : Verdict Command × Session}
    (h : Resolved s command result) : Resolved s command (Session.settle command result) := by
  cases h with
  | @refused reason detail events next he hs =>
    have dropped : Resolved s command
        (.refused reason detail (events ++ (next.dropPending reason detail).1), (next.dropPending reason detail).2) :=
      .refused (he.append (routine_dropPending reason detail next)) ((scanning_dropPending reason detail next).trans hs)
    cases command with
    | flush | deduct => exact dropped
    | _ => exact .refused he hs
  | answered he hf hs => exact .answered he hf hs
  | unready hp hs => exact .unready hp hs
  | busy => exact .busy
  | unrelated => exact .unrelated

theorem resolved_judge (key : LoginBlock) (s : Session) (command : Command) (frame : Frame) :
    Resolved s command (s.judge key command frame) := by
  unfold Session.judge
  split
  · exact .ofError _
  · split
    · exact resolved_settle (resolved_answer key s command _)
    · exact .unrelated

lemma discreet (key : LoginBlock) : Discreet (peripheral key) where
  judge s command frame := (resolved_judge key s command frame).discreet
  giveUp s command reason := by
    cases command with
    | flush => exact (routine_dropPending reason reason.code s).discreet
    | _ => rfl

end PaymentReader

lemma Exchange.Fitting.discreet (f : Fitting) : Discreet f.peripheral := by
  cases f with
  | antenna settings => exact Antenna.discreet settings
  | cardReader => exact CardReader.discreet
  | paymentReader key => exact PaymentReader.discreet key

end ParkingStation
