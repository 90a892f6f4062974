import Mathlib.Data.List.Basic
import Mathlib.Tactic.IntervalCases

/-! # Hexadecimal text

Bytes are written with two lower-case digits each. Text is read back whatever
the case of its letters, and only text of that form is read. The reader goes
through the UTF-8 bytes of the text and counts them.
-/

namespace WormVerify.Hexadecimal

def digit (value : Nat) : Char := Char.ofNat (if value < 10 then 48 + value else 87 + value)

def value? (char : Char) : Option Nat :=
  if 48 ≤ char.toNat ∧ char.toNat ≤ 57 then some (char.toNat - 48)
  else if 97 ≤ char.toNat ∧ char.toNat ≤ 102 then some (char.toNat - 87)
  else if 65 ≤ char.toNat ∧ char.toNat ≤ 70 then some (char.toNat - 55)
  else none

def lowercase (text : List Char) : List Char := text.map Char.toLower

inductive Error
  | oddLength
  | invalidHexCharacter (char : Char) (index : Nat)
  deriving DecidableEq

def byteDigits (byte : UInt8) : List Char := [digit (byte.toNat / 16), digit (byte.toNat % 16)]

def encode (bytes : List UInt8) : List Char := bytes.flatMap byteDigits

def valueAt (char : Char) (index : Nat) : Except Error Nat :=
  match value? char with
  | some value => .ok value
  | none => .error (.invalidHexCharacter char index)

def decodePairs (index : Nat) : List Char → Except Error (List UInt8)
  | high :: low :: rest => do
      let highValue ← valueAt high index
      let lowValue ← valueAt low (index + 1)
      let bytes ← decodePairs (index + 2) rest
      return UInt8.ofNat (16 * highValue + lowValue) :: bytes
  | [_] => .error .oddLength
  | [] => .ok []

/-- The UTF-8 bytes of the text, each as the character with its code. -/
def octets (text : List Char) : List Char :=
  text.flatMap fun char => (String.utf8EncodeChar char).map fun byte => Char.ofNat byte.toNat

def decodeOctets (octets : List Char) : Except Error (List UInt8) :=
  if octets.length % 2 = 1 then .error .oddLength else decodePairs 0 octets

def decode (text : List Char) : Except Error (List UInt8) := decodeOctets (octets text)

/-! ## Digits -/

theorem toLower_eq_self {char : Char} (low : char.toNat < 65 ∨ 90 < char.toNat) :
    char.toLower = char := by
  have outside : ¬(char.val ≥ 'A'.val ∧ char.val ≤ 'Z'.val) := by
    simp only [ge_iff_le, UInt32.le_iff_toNat_le]
    have code : char.val.toNat = char.toNat := rfl
    change ¬(65 ≤ char.val.toNat ∧ char.val.toNat ≤ 90)
    omega
  exact dif_neg outside

theorem value?_lt {char : Char} {value : Nat} (found : value? char = some value) :
    value < 16 := by
  simp only [value?] at found
  split at found
  · cases found
    omega
  · split at found
    · cases found
      omega
    · split at found
      · cases found
        omega
      · cases found

theorem digit_toNat_lt {value : Nat} (small : value < 16) : (digit value).toNat < 128 := by
  interval_cases value <;> decide

theorem value?_ascii : ∀ code < 128, ∀ value < 16,
    value? (Char.ofNat code) = some value ↔ (Char.ofNat code).toLower = digit value := by
  decide +kernel

theorem value?_eq_some {char : Char} {value : Nat} :
    value? char = some value ↔ value < 16 ∧ char.toLower = digit value := by
  by_cases ascii : char.toNat < 128
  · have table := value?_ascii char.toNat ascii value
    rw [Char.ofNat_toNat] at table
    constructor
    · intro found
      exact ⟨value?_lt found, (table (value?_lt found)).mp found⟩
    · intro parts
      exact (table parts.1).mpr parts.2
  · have unread : value? char = none := by
      rw [value?, if_neg (by omega), if_neg (by omega), if_neg (by omega)]
    rw [unread, toLower_eq_self (by omega)]
    constructor
    · intro found
      cases found
    · intro parts
      have small := digit_toNat_lt parts.1
      rw [← parts.2] at small
      exact absurd small ascii

theorem digit_toLower {value : Nat} (small : value < 16) :
    (digit value).toLower = digit value := by
  interval_cases value <;> decide

theorem digit_ne_x {value : Nat} (small : value < 16) : digit value ≠ 'x' := by
  interval_cases value <;> decide

/-! ## Text -/

@[simp] theorem lowercase_nil : lowercase [] = [] := rfl

@[simp] theorem lowercase_cons (char : Char) (text : List Char) :
    lowercase (char :: text) = char.toLower :: lowercase text := rfl

@[simp] theorem encode_nil : encode [] = [] := rfl

@[simp] theorem encode_cons (byte : UInt8) (bytes : List UInt8) :
    encode (byte :: bytes) =
      digit (byte.toNat / 16) :: digit (byte.toNat % 16) :: encode bytes := rfl

@[simp] theorem encode_length (bytes : List UInt8) : (encode bytes).length = 2 * bytes.length := by
  induction bytes with
  | nil => rfl
  | cons byte bytes induction =>
      simp only [encode_cons, List.length_cons, induction]
      omega

theorem mem_encode {bytes : List UInt8} {char : Char} (member : char ∈ encode bytes) :
    ∃ value < 16, char = digit value := by
  rcases List.mem_flatMap.mp member with ⟨byte, _, written⟩
  have small := byte.toNat_lt
  rcases List.mem_cons.mp written with high | low
  · exact ⟨byte.toNat / 16, by omega, high⟩
  · exact ⟨byte.toNat % 16, by omega, List.mem_singleton.mp low⟩

theorem valueAt_eq_ok {char : Char} {index value : Nat} :
    valueAt char index = .ok value ↔ value < 16 ∧ char.toLower = digit value := by
  rw [← value?_eq_some, valueAt]
  cases value? char <;> simp

theorem byte_of_halves {high low : Nat} (highSmall : high < 16) (lowSmall : low < 16)
    {byte : UInt8} :
    UInt8.ofNat (16 * high + low) = byte ↔ high = byte.toNat / 16 ∧ low = byte.toNat % 16 := by
  rw [← UInt8.toNat_inj, UInt8.toNat_ofNat']
  have small := byte.toNat_lt
  omega

theorem decodePairs_cons_eq_ok {high low : Char} {rest : List Char} {index : Nat}
    {bytes : List UInt8} :
    decodePairs index (high :: low :: rest) = .ok bytes ↔
      ∃ highValue lowValue tail, valueAt high index = .ok highValue ∧
        valueAt low (index + 1) = .ok lowValue ∧ decodePairs (index + 2) rest = .ok tail ∧
        UInt8.ofNat (16 * highValue + lowValue) :: tail = bytes := by
  rw [decodePairs]
  cases valueAt high index with
  | error error => simp [bind, Except.bind]
  | ok highValue =>
      cases valueAt low (index + 1) with
      | error error => simp [bind, Except.bind]
      | ok lowValue =>
          cases decodePairs (index + 2) rest <;>
            simp [bind, Except.bind, pure, Except.pure]

theorem decodePairs_eq_ok {text : List Char} {index : Nat} {bytes : List UInt8} :
    decodePairs index text = .ok bytes ↔ lowercase text = encode bytes := by
  induction index, text using decodePairs.induct generalizing bytes with
  | case1 index high low rest induction =>
      simp only [decodePairs_cons_eq_ok, valueAt_eq_ok, induction, lowercase_cons]
      constructor
      · intro read
        rcases read with ⟨highValue, lowValue, tail, highAt, lowAt, restAt, rfl⟩
        have halves := (byte_of_halves highAt.1 lowAt.1).mp rfl
        rw [encode_cons, ← halves.1, ← halves.2, highAt.2, lowAt.2, restAt]
      · intro same
        cases bytes with
        | nil => cases same
        | cons byte bytes =>
            rw [encode_cons] at same
            rcases List.cons.inj same with ⟨highAt, same⟩
            rcases List.cons.inj same with ⟨lowAt, restAt⟩
            have small := byte.toNat_lt
            have highSmall : byte.toNat / 16 < 16 := by omega
            have lowSmall : byte.toNat % 16 < 16 := by omega
            have joined := (byte_of_halves highSmall lowSmall).mpr ⟨rfl, rfl⟩
            exact ⟨_, _, _, ⟨highSmall, highAt⟩, ⟨lowSmall, lowAt⟩, restAt, by rw [joined]⟩
  | case2 index char => cases bytes <;> simp [decodePairs]
  | case3 index => cases bytes <;> simp [decodePairs]

theorem decodeOctets_eq_ok {text : List Char} {bytes : List UInt8} :
    decodeOctets text = .ok bytes ↔ lowercase text = encode bytes := by
  rw [decodeOctets]
  split
  · rename_i odd
    constructor
    · intro read
      cases read
    · intro same
      have length := congrArg List.length same
      rw [lowercase, List.length_map, encode_length] at length
      omega
  · exact decodePairs_eq_ok

/-! ## Bytes of the text -/

theorem octets_of_ascii {text : List Char} (ascii : ∀ char ∈ text, char.toNat < 128) :
    octets text = text := by
  induction text with
  | nil => rfl
  | cons char rest induction =>
      rw [List.forall_mem_cons] at ascii
      have code : char.val.toNat = char.toNat := rfl
      have single : String.utf8EncodeChar char = [UInt8.ofNat char.toNat] := by
        rw [String.utf8EncodeChar]
        exact if_pos (by omega)
      have value : (UInt8.ofNat char.toNat).toNat = char.toNat := by
        rw [UInt8.toNat_ofNat']
        omega
      rw [octets, List.flatMap_cons, single, ← octets, induction ascii.2, List.map_singleton,
        value, Char.ofNat_toNat]
      rfl

theorem ascii_of_octets {text : List Char} (ascii : ∀ octet ∈ octets text, octet.toNat < 128) :
    ∀ char ∈ text, char.toNat < 128 := by
  intro char member
  by_contra beyond
  have code : char.val.toNat = char.toNat := rfl
  have leads : ∃ byte ∈ String.utf8EncodeChar char, 128 ≤ byte.toNat := by
    rw [String.utf8EncodeChar, if_neg (by omega)]
    split
    · refine ⟨_, List.mem_cons_self, ?_⟩
      rw [UInt8.toNat_ofNat']
      omega
    · split <;>
      · refine ⟨_, List.mem_cons_self, ?_⟩
        rw [UInt8.toNat_ofNat']
        omega
  rcases leads with ⟨byte, byteMem, large⟩
  have bounded := byte.toNat_lt
  have valid : (Char.ofNat byte.toNat).toNat = byte.toNat := by
    rw [Char.ofNat, dif_pos (.inl (by omega))]
    rfl
  have small := ascii (Char.ofNat byte.toNat)
    (List.mem_flatMap.mpr ⟨char, member, List.mem_map_of_mem byteMem⟩)
  omega

theorem ascii_of_lowercase {text : List Char} {bytes : List UInt8}
    (same : lowercase text = encode bytes) : ∀ char ∈ text, char.toNat < 128 := by
  intro char member
  by_contra beyond
  have lowered : char.toLower ∈ encode bytes := same ▸ List.mem_map_of_mem member
  rcases mem_encode lowered with ⟨value, small, written⟩
  rw [toLower_eq_self (by omega)] at written
  exact beyond (written ▸ digit_toNat_lt small)

/-- What is read is the text of the bytes, with its letters in either case. -/
theorem decode_eq_ok {text : List Char} {bytes : List UInt8} :
    decode text = .ok bytes ↔ lowercase text = encode bytes := by
  rw [decode, decodeOctets_eq_ok]
  constructor
  · intro same
    rwa [octets_of_ascii (ascii_of_octets (ascii_of_lowercase same))] at same
  · intro same
    rwa [octets_of_ascii (ascii_of_lowercase same)]

end WormVerify.Hexadecimal
