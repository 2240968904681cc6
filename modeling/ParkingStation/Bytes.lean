namespace ParkingStation

abbrev Bytes := List UInt8

namespace Bytes

def weight : Nat → Nat
  | 0 => 1
  | w + 1 => 256 * weight w

def toNat : Bytes → Nat
  | [] => 0
  | b :: bs => b.toNat * weight bs.length + toNat bs

def ofNat : Nat → Nat → Bytes
  | 0, _ => []
  | w + 1, n => UInt8.ofNat (n / weight w) :: ofNat w n

def toInt (bs : Bytes) : Int :=
  if 2 * toNat bs < weight bs.length then toNat bs else toNat bs - (weight bs.length : Nat)

theorem weight_pos (w : Nat) : 0 < weight w := by
  induction w with
  | zero => exact Nat.one_pos
  | succ w ih => exact Nat.mul_pos (by decide) ih

@[simp] theorem toNat_nil : toNat [] = 0 := rfl

@[simp] theorem length_ofNat (w n : Nat) : (ofNat w n).length = w := by
  induction w with
  | zero => rfl
  | succ w ih => simp only [ofNat, List.length_cons, ih]

theorem toNat_lt (bs : Bytes) : toNat bs < weight bs.length := by
  induction bs with
  | nil => exact Nat.one_pos
  | cons b bs ih =>
    have hb : b.toNat + 1 ≤ 256 := b.toNat_lt
    calc toNat (b :: bs) < (b.toNat + 1) * weight bs.length := by simp only [toNat, Nat.add_mul]; omega
      _ ≤ 256 * weight bs.length := Nat.mul_le_mul_right _ hb

theorem toNat_ofNat (w n : Nat) : toNat (ofNat w n) = n % weight w := by
  induction w with
  | zero => simp only [ofNat, toNat, weight, Nat.mod_one]
  | succ w ih =>
    simp only [ofNat, toNat, weight, length_ofNat, ih, UInt8.toNat_ofNat', Nat.reducePow]
    rw [Nat.mul_comm 256, Nat.mod_mul, Nat.mul_comm, Nat.add_comm]

theorem ofNat_toNat (bs : Bytes) : ofNat bs.length (toNat bs) = bs := by
  suffices h : ∀ (bs : Bytes) (k : Nat), ofNat bs.length (k * weight bs.length + toNat bs) = bs by
    simpa using h bs 0
  intro bs
  induction bs with
  | nil => intro k; rfl
  | cons b bs ih =>
    intro k
    have hb : b.toNat < 256 := b.toNat_lt
    have ht := toNat_lt bs
    have he : k * weight (bs.length + 1) + toNat (b :: bs) = (k * 256 + b.toNat) * weight bs.length + toNat bs := by
      simp only [toNat, weight, Nat.add_mul, Nat.mul_assoc, Nat.add_assoc]
    have hp := weight_pos bs.length
    rw [List.length_cons, he, ofNat, ih]
    rw [Nat.mul_comm, Nat.mul_add_div hp, Nat.div_eq_of_lt ht, Nat.add_zero]
    congr 1
    apply UInt8.toNat_inj.mp
    rw [UInt8.toNat_ofNat']
    omega

def word (high low : UInt8) : UInt16 := (high.toUInt16 <<< 8) ||| low.toUInt16

theorem toNat_word (high low : UInt8) : (word high low).toNat = 256 * high.toNat + low.toNat := by
  have hh : high.toNat < 256 := high.toNat_lt
  have hl : low.toNat < 2 ^ 8 := low.toNat_lt
  have hs : (8 : UInt16).toNat % 16 = 8 := rfl
  have hm : high.toNat <<< 8 % 2 ^ 16 = high.toNat <<< 8 := by
    rw [Nat.shiftLeft_eq]
    omega
  rw [word, UInt16.toNat_or, UInt16.toNat_shiftLeft, UInt8.toNat_toUInt16, UInt8.toNat_toUInt16, hs, hm]
  rw [← Nat.shiftLeft_add_eq_or_of_lt hl, Nat.shiftLeft_eq]
  omega

theorem low_word (high low : UInt8) : (word high low).toUInt8 = low := by
  have hl : low.toNat < 256 := low.toNat_lt
  apply UInt8.toNat_inj.mp
  rw [UInt16.toNat_toUInt8, toNat_word]
  omega

theorem high_word (high low : UInt8) : (word high low >>> 8).toUInt8 = high := by
  have hh : high.toNat < 256 := high.toNat_lt
  have hl : low.toNat < 256 := low.toNat_lt
  have hs : (8 : UInt16).toNat % 16 = 8 := rfl
  apply UInt8.toNat_inj.mp
  rw [UInt16.toNat_toUInt8, UInt16.toNat_shiftRight, toNat_word, hs, Nat.shiftRight_eq_div_pow]
  omega

theorem word_halves (w : UInt16) : word (w >>> 8).toUInt8 w.toUInt8 = w := by
  have hw : w.toNat < 65536 := w.toNat_lt
  have hs : (8 : UInt16).toNat % 16 = 8 := rfl
  apply UInt16.toNat_inj.mp
  rw [toNat_word, UInt16.toNat_toUInt8, UInt16.toNat_toUInt8, UInt16.toNat_shiftRight, hs, Nat.shiftRight_eq_div_pow]
  omega

end Bytes

end ParkingStation

namespace ParkingStation.Control

def stx : UInt8 := 0x02
def etx : UInt8 := 0x03
def enq : UInt8 := 0x05
def ack : UInt8 := 0x06
def dle : UInt8 := 0x10
def nak : UInt8 := 0x15

end ParkingStation.Control
