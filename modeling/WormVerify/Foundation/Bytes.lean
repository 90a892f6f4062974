import WormVerify.Foundation.Checked
import Mathlib.Data.List.Induction

/-! # Byte arrays and big-endian words -/

namespace WormVerify

abbrev Bytes (length : Nat) := { data : List UInt8 // data.length = length }

namespace Bytes

/-- Copy a slice into a fresh array, aborting when the lengths differ. -/
def copyFromSlice (length : Nat) (data : List UInt8) : Checked ε (Bytes length) :=
  if proper : data.length = length then .ok ⟨data, proper⟩ else Checked.panic

@[simp] theorem copyFromSlice_eq_ok {length : Nat} {data : List UInt8} {array : Bytes length} :
    (copyFromSlice length data : Checked ε (Bytes length)) = .ok array ↔ data = array.val := by
  by_cases proper : data.length = length
  · simp [copyFromSlice, proper, Subtype.ext_iff]
  · simp only [copyFromSlice, dif_neg proper, Checked.panic, reduceCtorEq, false_iff]
    intro equal
    exact proper (equal ▸ array.property)

theorem copyFromSlice_of_eq {length : Nat} {data : List UInt8} (proper : data.length = length) :
    (copyFromSlice length data : Checked ε (Bytes length)) = .ok ⟨data, proper⟩ := by
  simp [copyFromSlice, proper]

theorem settles_copyFromSlice {values slice : List UInt8} {start width : Nat}
    (positive : 0 < width) (read : Checked.getRange values start (start + width) = some slice) :
    Checked.Settles (copyFromSlice width slice : Checked ε (Bytes width)) := by
  have length :=
    ((Checked.getRange_eq_some (Nat.lt_add_of_pos_right positive)).mp read).1
  rw [Nat.add_sub_cancel_left] at length
  rw [copyFromSlice_of_eq length]
  exact Checked.settles_ok _

def replicate (length : Nat) (byte : UInt8) : Bytes length :=
  ⟨List.replicate length byte, List.length_replicate⟩

def lastBytes (kept : Nat) {length : Nat} (array : Bytes length)
    (fits : kept ≤ length) : Bytes kept :=
  ⟨array.val.drop (length - kept), by simp [array.property]; omega⟩

end Bytes

/-! ## Positional notation -/

/-- The low `width` base-256 digits of a natural number, most significant
first. -/
def toBigEndian : (width value : Nat) → List UInt8
  | 0, _ => []
  | width + 1, value => toBigEndian width (value / 256) ++ [UInt8.ofNat value]

def ofBigEndian (bytes : List UInt8) : Nat :=
  bytes.foldl (fun value byte => value * 256 + byte.toNat) 0

@[simp] theorem toBigEndian_length (width value : Nat) :
    (toBigEndian width value).length = width := by
  induction width generalizing value with
  | zero => rfl
  | succ width induction => simp [toBigEndian, induction]

theorem ofBigEndian_concat (bytes : List UInt8) (byte : UInt8) :
    ofBigEndian (bytes ++ [byte]) = ofBigEndian bytes * 256 + byte.toNat := by
  simp [ofBigEndian]

theorem ofBigEndian_toBigEndian (width value : Nat) :
    ofBigEndian (toBigEndian width value) = value % 256 ^ width := by
  induction width generalizing value with
  | zero => simp [toBigEndian, ofBigEndian, Nat.mod_one]
  | succ width induction =>
      rw [toBigEndian, ofBigEndian_concat, induction, Nat.pow_succ', Nat.mod_mul]
      simp [Nat.mul_comm, Nat.add_comm]

theorem ofBigEndian_lt (bytes : List UInt8) : ofBigEndian bytes < 256 ^ bytes.length := by
  induction bytes using List.reverseRecOn with
  | nil => simp [ofBigEndian]
  | append_singleton bytes byte induction =>
      rw [ofBigEndian_concat, List.length_append, List.length_singleton, Nat.pow_succ]
      have small := byte.toNat_lt
      omega

theorem toBigEndian_ofBigEndian (bytes : List UInt8) :
    toBigEndian bytes.length (ofBigEndian bytes) = bytes := by
  induction bytes using List.reverseRecOn with
  | nil => rfl
  | append_singleton bytes byte induction =>
      have small := byte.toNat_lt
      have quotient : (ofBigEndian bytes * 256 + byte.toNat) / 256 = ofBigEndian bytes := by
        omega
      have digit : UInt8.ofNat (ofBigEndian bytes * 256 + byte.toNat) = byte := by
        apply UInt8.toNat_inj.mp
        simp only [UInt8.toNat_ofNat']
        omega
      rw [List.length_append, List.length_singleton, toBigEndian, ofBigEndian_concat,
        quotient, digit, induction]

def Bytes.ofNat (length value : Nat) : Bytes length :=
  ⟨toBigEndian length value, toBigEndian_length length value⟩

/-! ## Machine words -/

class MachineWord (α : Type) where
  width : Nat
  width_pos : 0 < width
  toNat : α → Nat
  ofNat : Nat → α
  ofNat_toNat : ∀ word, ofNat (toNat word) = word
  toNat_ofNat : ∀ value, toNat (ofNat value) = value % 256 ^ width

instance : MachineWord UInt16 where
  width := 2
  width_pos := by decide
  toNat := UInt16.toNat
  ofNat := UInt16.ofNat
  ofNat_toNat _ := UInt16.ofNat_toNat
  toNat_ofNat value := by simp

instance : MachineWord UInt32 where
  width := 4
  width_pos := by decide
  toNat := UInt32.toNat
  ofNat := UInt32.ofNat
  ofNat_toNat _ := UInt32.ofNat_toNat
  toNat_ofNat value := by simp

instance : MachineWord UInt64 where
  width := 8
  width_pos := by decide
  toNat := UInt64.toNat
  ofNat := UInt64.ofNat
  ofNat_toNat _ := UInt64.ofNat_toNat
  toNat_ofNat value := by simp

section Words

variable [MachineWord α]

def toBeBytes (word : α) : List UInt8 :=
  toBigEndian (MachineWord.width α) (MachineWord.toNat word)

def toLeBytes (word : α) : List UInt8 := (toBeBytes word).reverse

def fromBeBytes (bytes : List UInt8) : α :=
  MachineWord.ofNat (ofBigEndian bytes)

@[simp] theorem toBeBytes_length (word : α) :
    (toBeBytes word).length = MachineWord.width α :=
  toBigEndian_length _ _

@[simp] theorem fromBeBytes_toBeBytes (word : α) : fromBeBytes (toBeBytes word) = word := by
  have bounded : MachineWord.toNat word < 256 ^ MachineWord.width α := by
    have reduced : MachineWord.toNat (MachineWord.ofNat (MachineWord.toNat word) : α) =
        MachineWord.toNat word % 256 ^ MachineWord.width α := MachineWord.toNat_ofNat _
    rw [MachineWord.ofNat_toNat] at reduced
    rw [reduced]
    exact Nat.mod_lt _ (Nat.pow_pos (by decide))
  rw [fromBeBytes, toBeBytes, ofBigEndian_toBigEndian, Nat.mod_eq_of_lt bounded,
    MachineWord.ofNat_toNat]

theorem toLeBytes_injective : Function.Injective (toLeBytes : α → List UInt8) := by
  intro left right equal
  have same : toBeBytes left = toBeBytes right := List.reverse_injective equal
  rw [← fromBeBytes_toBeBytes left, same, fromBeBytes_toBeBytes]

theorem toBeBytes_fromBeBytes (bytes : List UInt8)
    (length : bytes.length = MachineWord.width α) :
    toBeBytes (fromBeBytes bytes : α) = bytes := by
  have bounded := ofBigEndian_lt bytes
  rw [length] at bounded
  rw [toBeBytes, fromBeBytes, MachineWord.toNat_ofNat, Nat.mod_eq_of_lt bounded, ← length,
    toBigEndian_ofBigEndian]

end Words

end WormVerify
