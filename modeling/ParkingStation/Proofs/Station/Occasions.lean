import ParkingStation.Proofs.Exchange.Errands
import ParkingStation.Station.Basic

/-! A property of controllers that requests, uploads and calls keep is kept by all that the workers do, so it
holds of every worker for good. -/

namespace ParkingStation

open Exchange

namespace Station

inductive Occasion
  | settle
  | sleep (duration : Nat)
  | call (c : Call)
  | send (device : Device) (bs : Bytes)
  | changeLine (device : Device) (change : Line → Line)
  | close (device : Device)
  | report

def meet (st : Station) : Occasion → Station
  | .settle => st.settle
  | .sleep duration => st.sleep duration
  | .call c => (st.call c).2
  | .send device bs => (st.send device bs).2
  | .changeLine device change => st.changeLine device change
  | .close device => st.close device
  | .report => st.reported

def after (st : Station) (occasions : List Occasion) : Station := occasions.foldl meet st

structure Holds (R : (f : Fitting) → Controller f.peripheral → Prop) (st : Station) : Prop where
  antenna : ∀ w, st.antenna = some w → R (.antenna st.settings.antenna) w.controller
  cardReader : ∀ w, st.cardReader = some w → R .cardReader w.controller
  paymentReader : ∀ w, st.paymentReader = some w → R (.paymentReader st.key) w.controller

lemma Holds.mono {R S : (f : Fitting) → Controller f.peripheral → Prop} {st : Station} (h : st.Holds R)
    (hRS : ∀ {f c}, R f c → S f c) : st.Holds S :=
  ⟨fun w hw => hRS (h.antenna w hw), fun w hw => hRS (h.cardReader w hw), fun w hw => hRS (h.paymentReader w hw)⟩

/-- A property of controllers that is kept by all that is done to them. Files are split into chunks of a size. -/
structure Lasting (size : Nat) (R : (f : Fitting) → Controller f.peripheral → Prop) : Prop where
  step : ∀ {f c}, R f c → ∀ now input, R f (c.step now input).2
  notice : ∀ {f c}, R f c → R f { c with queue := c.queue.takeNotice.2 }
  submit : ∀ {f c}, R f c → ∀ r, R f (f.submit r c)
  upload : ∀ {key c}, R (.paymentReader key) c → ∀ kind data,
    R (.paymentReader key) (PaymentReader.Request.upload kind data size c).2

variable {size now limit taken : Nat} {R : (f : Fitting) → Controller f.peripheral → Prop} {f : Fitting}
  {w next : Worker f.peripheral}

section Worker

lemma Lasting.tell (h : Lasting size R) (now : Nat) (input : Input) (hw : R f w.controller) :
    R f (w.tell now input).controller :=
  h.step hw now input

lemma Lasting.goOnWriting (h : Lasting size R) {write : Write} (hw : R f w.controller)
    (hg : w.goOnWriting now write = some (taken, next)) : R f next.controller := by
  simp only [Worker.goOnWriting] at hg
  split at hg
  · cases hg
    exact h.tell now _ (by exact hw)
  · split at hg
    · cases hg
      exact h.tell now _ (by exact hw)
    · split at hg
      · cases hg
        exact h.tell now _ (by exact hw)
      · split at hg <;> cases hg
        exact hw

lemma Lasting.lookAround (h : Lasting size R) (hw : R f w.controller)
    (hl : w.lookAround now = some (taken, next)) : R f next.controller := by
  simp only [Worker.lookAround] at hl
  split at hl
  · cases hl
    exact h.tell now _ (h.notice hw)
  · split at hl
    · cases hl
      exact h.tell now _ (by exact hw)
    · split at hl
      · cases hl
        exact h.step hw now (.disconnected "end of stream")
      · split at hl
        · split at hl <;> cases hl
          exact h.tell now _ (by exact hw)
        · cases hl

lemma Lasting.act (h : Lasting size R) (hw : R f w.controller) (ha : w.act now limit = some (taken, next)) :
    R f next.controller := by
  unfold Worker.act at ha
  split at ha
  · exact h.goOnWriting hw ha
  · split at ha <;> cases ha
    exact hw
  · cases ha
    exact hw
  · split at ha
    · cases ha
    · exact h.lookAround hw ha

lemma Lasting.actFor (h : Lasting size R) (n moves : Nat) (hw : R f w.controller) :
    R f (w.actFor now limit n moves).controller := by
  induction n generalizing w moves with
  | zero => exact hw
  | succ n ih =>
    unfold Worker.actFor
    split
    · exact hw
    · split
      · rename_i taken next ha
        exact ih _ (h.act hw ha)
      · exact hw

end Worker

variable {s : Settings} {st : Station}

structure Keeps (s : Settings) (R : (f : Fitting) → Controller f.peripheral → Prop) (st : Station) : Prop where
  settings : st.settings = s
  holds : st.Holds R

lemma forall_map {o : Option (Worker f.peripheral)} {change : Worker f.peripheral → Worker f.peripheral}
    (hc : ∀ w, R f w.controller → R f (change w).controller) (ho : ∀ w, o = some w → R f w.controller)
    (w : Worker f.peripheral) (hw : o.map change = some w) : R f w.controller := by
  obtain ⟨v, hv, rfl⟩ := Option.map_eq_some_iff.mp hw
  exact hc v (ho v hv)

namespace Keeps

lemma modify (h : st.Keeps s R) (device : Device) {change : (p : Peripheral) → Worker p → Worker p}
    (hc : ∀ (f : Fitting) w, R f w.controller → R f (change f.peripheral w).controller) :
    (st.modify device change).Keeps s R := by
  obtain ⟨hs, ha, hr, hp⟩ := h
  cases device with
  | antenna => exact ⟨hs, forall_map (f := .antenna _) (hc _) ha, hr, hp⟩
  | cardReader => exact ⟨hs, ha, forall_map (f := .cardReader) (hc _) hr, hp⟩
  | paymentReader => exact ⟨hs, ha, hr, forall_map (f := .paymentReader _) (hc _) hp⟩

lemma toBack (h : st.Keeps s R) (device : Device) : (st.toBack device).Keeps s R :=
  ⟨h.settings, h.holds.antenna, h.holds.cardReader, h.holds.paymentReader⟩

lemma later (h : st.Keeps s R) (now : Nat) : Keeps s R { st with now := now } :=
  ⟨h.settings, h.holds.antenna, h.holds.cardReader, h.holds.paymentReader⟩

lemma onLine (h : st.Keeps s R) (device : Device) (change : Line → Line) :
    (st.modify device fun _ w => w.onLine change).Keeps s R :=
  h.modify device fun _ _ hw => hw

lemma modifyAll (h : st.Keeps s R) {change : (p : Peripheral) → Worker p → Worker p}
    (hc : ∀ (f : Fitting) w, R f w.controller → R f (change f.peripheral w).controller) :
    (st.modifyAll change).Keeps s R :=
  ((h.modify .antenna hc).modify .cardReader hc).modify .paymentReader hc

lemma run (hR : Lasting size R) (h : st.Keeps s R) (device : Device) : (st.run device).Keeps s R := by
  unfold Station.run
  split
  · exact (h.modify device fun _ _ hw => hR.actFor _ _ hw).toBack device
  · exact h

lemma runAll (hR : Lasting size R) (h : st.Keeps s R) : st.runAll.Keeps s R := by
  unfold Station.runAll
  induction st.turns generalizing st with
  | nil => exact h
  | cons device devices ih => exact ih (run hR h device)

lemma turnAll (h : st.Keeps s R) : st.turnAll.Keeps s R := h.modifyAll fun _ _ hw => hw

lemma settleFor (hR : Lasting size R) (n : Nat) (h : st.Keeps s R) : (st.settleFor n).Keeps s R := by
  induction n generalizing st with
  | zero => exact h
  | succ n ih =>
    unfold Station.settleFor
    split
    · exact ih (runAll hR h).turnAll
    · exact h

lemma settle (hR : Lasting size R) (h : st.Keeps s R) : st.settle.Keeps s R := settleFor hR st.effort h

lemma sleepFor (hR : Lasting size R) (last n : Nat) (h : st.Keeps s R) : (st.sleepFor last n).Keeps s R := by
  induction n generalizing st with
  | zero => exact h
  | succ n ih =>
    unfold Station.sleepFor
    split
    · split
      · exact ih (settle hR (h.later _))
      · exact h
    · exact h

lemma rouse (h : st.Keeps s R) (device : Device) : (st.rouse device).Keeps s R := by
  unfold Station.rouse
  split
  · exact h
  · exact h.toBack device

lemma changeLine (hR : Lasting size R) (h : st.Keeps s R) (device : Device) (change : Line → Line) :
    (st.changeLine device change).Keeps s R :=
  settle hR ((h.rouse device).onLine device change)

lemma call (hR : Lasting s.paymentReader.chunkSize R) (h : st.Keeps s R) (c : Call) : (st.call c).2.Keeps s R := by
  obtain ⟨hs, ha, hr, hp⟩ := h.rouse c.device
  unfold Station.call
  split
  · exact ⟨hs, forall_map (f := .antenna _) (fun _ hw => hR.submit hw _) ha, hr, hp⟩
  · exact ⟨hs, ha, forall_map (f := .cardReader) (fun _ hw => hR.submit hw _) hr, hp⟩
  · rename_i kind data
    dsimp only
    split
    · rename_i w hw
      refine ⟨hs, ha, hr, fun v hv => ?_⟩
      obtain rfl := Option.some.inj hv
      -- the chunks are of the size that the station's own settings say
      have hu := hR.upload (hp w hw) kind data
      rw [← hs] at hu
      exact hu
    · exact ⟨hs, ha, hr, hp⟩
  · exact ⟨hs, ha, hr, forall_map (f := .paymentReader _) (fun _ hw => hR.submit hw _) hp⟩

lemma meet (hR : Lasting s.paymentReader.chunkSize R) (h : st.Keeps s R) (o : Occasion) : (st.meet o).Keeps s R := by
  cases o with
  | settle => exact settle hR h
  | sleep duration => exact (sleepFor hR _ _ (settle hR h)).later _
  | call c => exact call hR h c
  | send device bs => exact changeLine hR h device _
  | changeLine device change => exact changeLine hR h device change
  | close device =>
    refine changeLine hR ?_ device _
    split
    · exact h
    · exact runAll hR h
  | report => exact h.modifyAll fun _ _ hw => hw

theorem after (hR : Lasting s.paymentReader.chunkSize R) (h : st.Keeps s R) (occasions : List Occasion) :
    (st.after occasions).Keeps s R := by
  unfold Station.after
  induction occasions generalizing st with
  | nil => exact h
  | cons o occasions ih => exact ih (meet hR h o)

end Keeps

end Station

end ParkingStation
