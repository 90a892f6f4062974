import WormVerify.Foundation.Hexadecimal
import WormVerify.Types.Vaa

/-! # Hexadecimal fields

Ids, addresses and byte strings are printed in hexadecimal and read back from
it. The readers drop any number of `0x` prefixes first.
-/

namespace WormVerify.Types

structure Hex where
  Error : Type
  display : Error → String
  encode : List UInt8 → String
  decode : String → Except Error (List UInt8)

def lowercase (text : String) : String := .ofList (Hexadecimal.lowercase text.toList)

/-- The crate writes lower-case digits, and reads digits of either case. -/
structure Hex.Lawful (hex : Hex) : Prop where
  digits : ∀ bytes, ∀ char ∈ (hex.encode bytes).toList, ∃ value < 16,
    char = Hexadecimal.digit value
  decode_eq_ok : ∀ text bytes, hex.decode text = .ok bytes ↔ lowercase text = hex.encode bytes

/-- Drop every leading `0x`. -/
def trimPrefixes : List Char → List Char
  | '0' :: 'x' :: rest => trimPrefixes rest
  | text => text

def trimStartMatches (text : String) : String := .ofList (trimPrefixes text.toList)

def prefixed : Nat → String → String
  | 0, text => text
  | count + 1, text => "0x" ++ prefixed count text

section

variable (hex : Hex)

/-- The text is the hexadecimal spelling of the bytes, up to the case of its
letters and behind any number of `0x`. -/
def Spells (text : String) (bytes : List UInt8) : Prop :=
  ∃ count spelling, text = prefixed count spelling ∧ lowercase spelling = hex.encode bytes

def decodeBytes (text : String) : Except String (List UInt8) :=
  (hex.decode (trimStartMatches text)).mapError hex.display

def decodeFixed (length : Nat) (mismatch : String) (text : String) :
    Except String (Bytes length) := do
  let bytes ← decodeBytes hex text
  if proper : bytes.length = length then .ok ⟨bytes, proper⟩ else .error mismatch

/-! ## Fields -/

def hexArray20.serialize (bytes : Bytes 20) : String := hex.encode bytes.val

def hexArray20.deserialize : String → Except String (Bytes 20) :=
  decodeFixed hex 20 "expected 20 bytes"

def hexArray32.serialize (bytes : Bytes 32) : String := hex.encode bytes.val

def hexArray32.deserialize : String → Except String (Bytes 32) :=
  decodeFixed hex 32 "unexpected length"

def hexArray64.serialize (bytes : Bytes 64) : String := hex.encode bytes.val

def hexArray64.deserialize : String → Except String (Bytes 64) :=
  decodeFixed hex 64 "unexpected length"

def hexVec.serialize (bytes : List UInt8) : String := hex.encode bytes

def hexVec.deserialize : String → Except String (List UInt8) := decodeBytes hex

def EmitterAddress.toHex (address : Bytes 32) : String := hex.encode address.val

def GuardianAddress.toHex (address : GuardianAddress) : String := "0x" ++ hex.encode address.val

end

def VaaError.display : VaaError → String
  | .malformed => "VAA bytes are truncated or malformed"
  | .unsupportedVersion version => s!"unsupported VAA version {version.toNat}"
  | .signaturesOutOfOrder =>
      "signatures must be strictly ordered by ascending guardian index"
  | .payloadTooLarge got max => s!"payload of {got} bytes exceeds the maximum of {max}"
  | .emptyGuardianSet => "guardian set is empty"
  | .guardianIndexOutOfRange index =>
      s!"a signature references guardian index {index.toNat} outside the set"
  | .recoveryFailed => "secp256k1 signature recovery failed"
  | .invalidGuardianSignature index =>
      s!"a recovered signer is not the expected guardian at index {index.toNat}"
  | .quorumNotMet got needed => s!"only {got} valid signatures; quorum requires {needed}"
  | .overflow => "numeric overflow while parsing"

/-! ## What is read -/

@[simp] theorem prefixed_zero (text : String) : prefixed 0 text = text := rfl

theorem toList_prefixed_succ (count : Nat) (text : String) :
    (prefixed (count + 1) text).toList = '0' :: 'x' :: (prefixed count text).toList := by
  rw [prefixed, String.toList_append]
  rfl

theorem trimPrefixes_eq_self {text : List Char} (unprefixed : ∀ rest, text ≠ '0' :: 'x' :: rest) :
    trimPrefixes text = text := by
  unfold trimPrefixes
  split
  · rename_i rest
    exact absurd rfl (unprefixed rest)
  · rfl

theorem exists_prefixed (text : List Char) :
    ∃ count, text = (prefixed count (.ofList (trimPrefixes text))).toList := by
  induction text using trimPrefixes.induct with
  | case1 rest induction =>
      rcases induction with ⟨count, same⟩
      refine ⟨count + 1, ?_⟩
      rw [toList_prefixed_succ, trimPrefixes, ← same]
  | case2 text unprefixed =>
      refine ⟨0, ?_⟩
      rw [trimPrefixes_eq_self unprefixed, prefixed_zero, String.toList_ofList]

theorem trimPrefixes_prefixed (count : Nat) (text : String) :
    trimPrefixes (prefixed count text).toList = trimPrefixes text.toList := by
  induction count with
  | zero => rfl
  | succ count induction => rw [toList_prefixed_succ, trimPrefixes, induction]

namespace Hex.Lawful

variable {hex : Hex} (lawful : hex.Lawful)

include lawful

theorem unprefixed {text : String} {bytes : List UInt8}
    (spelled : lowercase text = hex.encode bytes) : trimStartMatches text = text := by
  rw [trimStartMatches, trimPrefixes_eq_self, String.ofList_toList]
  intro rest starts
  have written : 'x' ∈ (hex.encode bytes).toList := by
    rw [← spelled, lowercase, String.toList_ofList, starts]
    simp [Hexadecimal.lowercase, show ('x' : Char).toLower = 'x' by decide]
  rcases lawful.digits bytes 'x' written with ⟨value, small, same⟩
  exact Hexadecimal.digit_ne_x small same.symm

theorem decodeBytes_eq_ok {text : String} {bytes : List UInt8} :
    decodeBytes hex text = .ok bytes ↔ Spells hex text bytes := by
  have read : decodeBytes hex text = .ok bytes ↔
      lowercase (trimStartMatches text) = hex.encode bytes := by
    rw [← lawful.decode_eq_ok, decodeBytes]
    cases hex.decode (trimStartMatches text) <;> simp [Except.mapError]
  rw [read]
  constructor
  · intro spelled
    rcases exists_prefixed text.toList with ⟨count, same⟩
    exact ⟨count, _, String.toList_injective same, spelled⟩
  · intro parts
    rcases parts with ⟨count, spelling, rfl, spelled⟩
    have trimmed : trimStartMatches (prefixed count spelling) = trimStartMatches spelling := by
      rw [trimStartMatches, trimStartMatches, trimPrefixes_prefixed]
    rw [trimmed, lawful.unprefixed spelled, spelled]

theorem decodeFixed_eq_ok {length : Nat} {mismatch text : String} {array : Bytes length} :
    decodeFixed hex length mismatch text = .ok array ↔ Spells hex text array.val := by
  rw [← lawful.decodeBytes_eq_ok, decodeFixed]
  cases decodeBytes hex text with
  | error error => simp [bind, Except.bind]
  | ok bytes =>
      simp only [bind, Except.bind, Except.ok.injEq]
      split
      · simp [Subtype.ext_iff]
      · rename_i improper
        simp only [reduceCtorEq, false_iff]
        intro same
        exact improper (same ▸ array.property)

theorem lowercase_encode (bytes : List UInt8) :
    lowercase (hex.encode bytes) = hex.encode bytes := by
  have same : Hexadecimal.lowercase (hex.encode bytes).toList = (hex.encode bytes).toList := by
    refine (List.map_congr_left ?_).trans (List.map_id _)
    intro char member
    rcases lawful.digits bytes char member with ⟨value, small, rfl⟩
    exact Hexadecimal.digit_toLower small
  rw [lowercase, same, String.ofList_toList]

theorem spells_encode (bytes : List UInt8) : Spells hex (hex.encode bytes) bytes :=
  ⟨0, _, rfl, lawful.lowercase_encode bytes⟩

end Hex.Lawful

/-! ## Standard text -/

namespace Sample

/-- A byte that is not a digit, as the debug format of its character. -/
def debugged (char : Char) : String :=
  let code := char.toNat
  if code = 0 then "'\\0'"
  else if code = 9 then "'\\t'"
  else if code = 10 then "'\\n'"
  else if code = 13 then "'\\r'"
  else if code = 39 then "'\\''"
  else if code = 92 then "'\\\\'"
  else if code < 32 ∨ 127 ≤ code ∧ code ≤ 160 ∨ code = 173 then
    "'\\u\x7b" ++ .ofList (Nat.toDigits 16 code) ++ "\x7d'"
  else "'" ++ char.toString ++ "'"

def hex : Hex where
  Error := Hexadecimal.Error
  display
    | .oddLength => "Odd number of digits"
    | .invalidHexCharacter char index =>
        s!"Invalid character {debugged char} at position {index}"
  encode bytes := .ofList (Hexadecimal.encode bytes)
  decode text := Hexadecimal.decode text.toList

theorem hex_lawful : hex.Lawful where
  digits bytes char member := by
    change char ∈ (String.ofList (Hexadecimal.encode bytes)).toList at member
    rw [String.toList_ofList] at member
    exact Hexadecimal.mem_encode member
  decode_eq_ok text bytes := by
    change Hexadecimal.decode text.toList = .ok bytes ↔
      String.ofList (Hexadecimal.lowercase text.toList) =
        String.ofList (Hexadecimal.encode bytes)
    rw [Hexadecimal.decode_eq_ok, String.ofList_inj]

end Sample

end WormVerify.Types
