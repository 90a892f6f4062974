import WormVerify.Types.Verification

/-! # Simulated guardians

A set of keys derived from a seed, with which the service signs for itself.
-/

namespace WormVerify.Infra

open WormVerify.Types Checked

/-- The functions of the secp256k1 crate that only the simulated guardians
call. -/
structure Signing (crypto : Crypto) where
  SecretKey : Type
  parse : Bytes 32 → Option SecretKey
  fromSecretKey : SecretKey → crypto.PublicKey
  sign : crypto.Message → SecretKey → crypto.Signature × crypto.RecoveryId
  serializeSignature : crypto.Signature → Bytes 64
  serializeRecoveryId : crypto.RecoveryId → UInt8

def curveOrder : Nat := 0xfffffffffffffffffffffffffffffffebaaedce6af48a03bbfd25e8cd0364141

/-- Every scalar of the curve is a key, and a signature with a key is read back
and recovers to its public key. -/
structure Signing.Lawful {crypto : Crypto} (signing : Signing crypto) : Prop where
  parse : ∀ seed : Bytes 32, 0 < ofBigEndian seed.val → ofBigEndian seed.val < curveOrder →
    (signing.parse seed).isSome
  signature : ∀ message key,
    crypto.parseStandardSlice (signing.serializeSignature (signing.sign message key).1) =
      some (signing.sign message key).1
  recoveryId : ∀ message key,
    crypto.parseRecoveryId (signing.serializeRecoveryId (signing.sign message key).2) =
      some (signing.sign message key).2
  recover : ∀ message key,
    crypto.recover message (signing.sign message key).1 (signing.sign message key).2 =
      some (signing.fromSecretKey key)

section

variable {crypto : Crypto} (signing : Signing crypto)

def guardianAddress (key : signing.SecretKey) : GuardianAddress :=
  fromPubkey crypto
    ((crypto.serialize (signing.fromSecretKey key)).lastBytes 64 key_le_serialized)

structure SimulatedGuardians where
  index : UInt32
  secretKeys : List signing.SecretKey
  addresses : List GuardianAddress
  matching : addresses = secretKeys.map (guardianAddress signing)

/-- The seed of one key: the base in its first byte, the position in its last. -/
def keySeed (seedBase : UInt8) (position : Nat) : Bytes 32 :=
  ⟨seedBase :: List.replicate 30 0 ++ [UInt8.ofNat position + 1], by simp⟩

/-- The keys at the positions. A seed that is no key aborts. -/
def deriveKeys (seedBase : UInt8) : List Nat → Checked Empty (List signing.SecretKey)
  | [] => .ok []
  | position :: rest =>
      match signing.parse (keySeed seedBase position) with
      | none => panic
      | some key => do
          let keys ← deriveKeys seedBase rest
          return key :: keys

namespace SimulatedGuardians

def derive (index : UInt32) (count : Nat) (seedBase : UInt8) :
    Checked Empty (SimulatedGuardians signing) := do
  if 0 < count ∧ count < 255 then
    let secretKeys ← deriveKeys signing seedBase (List.range count)
    return ⟨index, secretKeys, secretKeys.map (guardianAddress signing), rfl⟩
  else
    panic

variable {signing} (guardians : SimulatedGuardians signing)

def len : Nat := guardians.secretKeys.length

def isEmpty : Bool := guardians.secretKeys.isEmpty

def guardianSet : GuardianSet where
  index := guardians.index
  keys := guardians.addresses
  expirationTime := 0

def sign (guardianIndex : UInt8) (digest : Bytes 32) : Option GuardianSignature := do
  let key ← guardians.secretKeys[guardianIndex.toNat]?
  let signed := signing.sign (crypto.parseMessage digest) key
  return {
    guardianIndex
    rs := signing.serializeSignature signed.1
    recoveryId := signing.serializeRecoveryId signed.2 }

end SimulatedGuardians

end

/-! ## Derivation -/

section

variable {crypto : Crypto} {signing : Signing crypto}

theorem ofBigEndian_zeros (first : UInt8) (zeros : Nat) :
    ofBigEndian (first :: List.replicate zeros 0) = first.toNat * 256 ^ zeros := by
  induction zeros with
  | zero => simp [ofBigEndian]
  | succ zeros induction =>
      rw [List.replicate_succ', ← List.cons_append, ofBigEndian_concat, induction, Nat.pow_succ,
        Nat.mul_assoc]
      rfl

theorem keySeed_range (seedBase : UInt8) {position : Nat} (inside : position < 254) :
    0 < ofBigEndian (keySeed seedBase position).val ∧
      ofBigEndian (keySeed seedBase position).val < curveOrder := by
  have value : ofBigEndian (keySeed seedBase position).val =
      seedBase.toNat * 256 ^ 30 * 256 + (UInt8.ofNat position + 1).toNat := by
    rw [keySeed, ofBigEndian_concat, ofBigEndian_zeros]
  have base := seedBase.toNat_lt
  have last : (UInt8.ofNat position + 1).toNat = position + 1 := by
    simp only [UInt8.toNat_add, UInt8.toNat_ofNat', UInt8.toNat_one]
    omega
  rw [value, last, curveOrder]
  omega

theorem length_of_deriveKeys {seedBase : UInt8} {positions : List Nat}
    {keys : List signing.SecretKey}
    (derived : deriveKeys signing seedBase positions = .ok keys) :
    keys.length = positions.length := by
  induction positions generalizing keys with
  | nil =>
      cases derived
      rfl
  | cons position rest induction =>
      rw [deriveKeys] at derived
      split at derived
      · cases derived
      · rcases bind_eq_ok.mp derived with ⟨tail, derivedTail, returned⟩
        cases returned
        exact congrArg (· + 1) (induction derivedTail)

theorem exists_deriveKeys {seedBase : UInt8} {positions : List Nat}
    (parses : ∀ position ∈ positions, (signing.parse (keySeed seedBase position)).isSome) :
    ∃ keys, deriveKeys signing seedBase positions = .ok keys := by
  induction positions with
  | nil => exact ⟨[], rfl⟩
  | cons position rest induction =>
      rw [List.forall_mem_cons] at parses
      rcases induction parses.2 with ⟨keys, derived⟩
      rcases Option.isSome_iff_exists.mp parses.1 with ⟨key, parsed⟩
      refine ⟨key :: keys, ?_⟩
      rw [deriveKeys, parsed, derived]
      rfl

namespace SimulatedGuardians

theorem exists_derive (lawful : signing.Lawful) (index : UInt32) {count : Nat} (seedBase : UInt8)
    (inside : 0 < count ∧ count < 255) :
    ∃ guardians, derive signing index count seedBase = .ok guardians := by
  have parses : ∀ position ∈ List.range count,
      (signing.parse (keySeed seedBase position)).isSome := by
    intro position member
    have small := List.mem_range.mp member
    have range := keySeed_range seedBase (show position < 254 by omega)
    exact lawful.parse _ range.1 range.2
  rcases exists_deriveKeys parses with ⟨keys, derived⟩
  refine ⟨⟨index, keys, keys.map (guardianAddress signing), rfl⟩, ?_⟩
  rw [derive, if_pos inside, derived]
  rfl

theorem spec_of_derive {index : UInt32} {count : Nat} {seedBase : UInt8}
    {guardians : SimulatedGuardians signing}
    (derived : derive signing index count seedBase = .ok guardians) :
    (0 < count ∧ count < 255) ∧ guardians.index = index ∧ guardians.len = count := by
  rw [derive] at derived
  split at derived
  · rename_i inside
    rcases bind_eq_ok.mp derived with ⟨keys, derivedKeys, returned⟩
    cases returned
    refine ⟨inside, rfl, ?_⟩
    rw [len, length_of_deriveKeys derivedKeys, List.length_range]
  · cases derived

variable {guardians : SimulatedGuardians signing} {guardianIndex : UInt8} {digest : Bytes 32}

theorem guardianSet_length : guardians.guardianSet.keys.length = guardians.len := by
  rw [guardianSet, guardians.matching, List.length_map, len]

/-! ## Signatures -/

theorem sign_isSome : (guardians.sign guardianIndex digest).isSome ↔
    guardianIndex.toNat < guardians.len := by
  rw [sign, len]
  cases found : guardians.secretKeys[guardianIndex.toNat]? with
  | none =>
      have beyond := List.getElem?_eq_none_iff.mp found
      simp [beyond]
  | some key =>
      have inside := (List.getElem?_eq_some_iff.mp found).1
      simp [inside]

/-- What a simulated guardian signs recovers to its own address. -/
theorem signedBy_of_sign (lawful : signing.Lawful) {signature : GuardianSignature}
    (signed : guardians.sign guardianIndex digest = some signature) :
    signature.guardianIndex = guardianIndex ∧
      SignedBy crypto digest guardians.guardianSet.keys signature := by
  rw [sign] at signed
  rcases Option.bind_eq_some_iff.mp signed with ⟨key, found, built⟩
  cases built
  refine ⟨rfl, guardianAddress signing key, ?_, ?_⟩
  · rw [guardianSet, guardians.matching, List.getElem?_map]
    exact congrArg (Option.map (guardianAddress signing)) found
  · simp only [recoverGuardian, recoverAddress, bind_eq_ok, okOr_eq_ok]
    exact ⟨_, lawful.signature _ key, _, lawful.recoveryId _ key, _, lawful.recover _ key, rfl⟩

end SimulatedGuardians

end

/-! ## Two guardians

The keys of the first two guardians with the seed base 1, and their signatures of
one message. Keys and signatures of other inputs are stand-ins, from which the
signing key can be read back.
-/

namespace Sample

def firstSecret : Bytes 32 := keySeed 1 0

def secondSecret : Bytes 32 := keySeed 1 1

def firstPublic : Bytes 64 :=
  Types.Sample.halves
    0xe4dbb4350d84eabec1d67e40a398a78a8e6d719d86914393fca83b88dbe927af
    0xb80fe66bf659859889a544623c945d0bd80d855f649e8c197be3aa41fe0390f8

def secondPublic : Bytes 64 :=
  Types.Sample.halves
    0x7a9fde3d4bbf403f6297519e9c94eafcd016b8668956ffc9e9746439477a28dd
    0x7dac579639136d82b26cde656fe41f538cfea231c2dbb93f43c8e4a5e9a7c42e

def announcement : VaaBody where
  timestamp := 1700000000
  nonce := 7
  emitterChain := 1
  emitterAddress := .replicate 32 0x11
  sequence := 1
  consistencyLevel := 1
  payload := "wormverify-demo".toUTF8.toList

def announcementHash : Bytes 32 :=
  Bytes.ofNat 32 0x31b35ac3119078bdc5c43ffc4ce7632198451067b74a334565a825ab7465d156

def announcementDigest : Bytes 32 :=
  Bytes.ofNat 32 0x0f2610151ac425cc32265a8f300588eb87b98a004417122af2d2998e4d93ba83

def firstSignature : Bytes 64 :=
  Types.Sample.halves
    0x6af530cc6b6571fc08e926ca0f637006bfd95051d01467a69052cbe86684ebeb
    0x2082a28ab92a38ac98a280e89f3aaa11ab780a8ab01b19e0f02959883516b0aa

def secondSignature : Bytes 64 :=
  Types.Sample.halves
    0xe303d1d821d7178a7b54702b014f13dcc8b1b1a6d67fa5f708cae185609fba9c
    0x642aa1f81a934e19f805588f4af4b2a251ef3d39875162cf7694a3063198a5d0

def simulationHash (data : List UInt8) : Bytes 32 :=
  let entries : List (List UInt8 × Bytes 32) :=
    [(announcement.encode, announcementHash), (announcementHash.val, announcementDigest),
     (firstPublic.val,
      Bytes.ofNat 32 0x815664546d40cb5371fa614a7691ee0343b9a529675e1a8a70197b3b704f90b7),
     (secondPublic.val,
      Bytes.ofNat 32 0x5df583fad9adedfb390ddf0b864f7fbd2494383b1360bf792e8b40ec1c6c552c)]
  (entries.lookup data).getD (Bytes.ofNat 32 0)

/-- The key followed by as many zeros. -/
def standIn (key : Bytes 32) : Bytes 64 :=
  ⟨key.val ++ List.replicate 32 0, by simp [key.property]⟩

def publicKey (key : Bytes 32) : Bytes 64 :=
  if key = firstSecret then firstPublic
  else if key = secondSecret then secondPublic
  else standIn key

def simulationSign (message key : Bytes 32) : Bytes 64 × UInt8 :=
  if message = announcementDigest ∧ key = firstSecret then (firstSignature, 1)
  else if message = announcementDigest ∧ key = secondSecret then (secondSignature, 0)
  else (standIn key, 0)

def simulationRecover (message : Bytes 32) (rs : Bytes 64) (recoveryId : UInt8) :
    Option (Bytes 64) :=
  if message = announcementDigest ∧ rs = firstSignature ∧ recoveryId = 1 then some firstPublic
  else if message = announcementDigest ∧ rs = secondSignature ∧ recoveryId = 0 then
    some secondPublic
  else if proper : (rs.val.take 32).length = 32 then some (publicKey ⟨rs.val.take 32, proper⟩)
  else none

def simulationCrypto : Crypto where
  Message := Bytes 32
  Signature := Bytes 64
  RecoveryId := UInt8
  PublicKey := Bytes 64
  keccak256 := simulationHash
  parseMessage := id
  parseStandardSlice := some
  parseRecoveryId id := if id < 4 then some id else none
  recover := simulationRecover
  serialize key := ⟨4 :: key.val, congrArg Nat.succ key.property⟩

def simulation : Signing simulationCrypto where
  SecretKey := Bytes 32
  parse seed :=
    if 0 < ofBigEndian seed.val ∧ ofBigEndian seed.val < curveOrder then some seed else none
  fromSecretKey := publicKey
  sign := simulationSign
  serializeSignature := id
  serializeRecoveryId := id

theorem standIn_ne {rs : Bytes 64} (last : rs.val.getLast? ≠ some 0) (key : Bytes 32) :
    standIn key ≠ rs := by
  intro same
  subst same
  apply last
  simp [standIn, List.getLast?_append]

theorem simulationRecover_standIn (message key : Bytes 32) (recoveryId : UInt8) :
    simulationRecover message (standIn key) recoveryId = some (publicKey key) := by
  have first := standIn_ne (show firstSignature.val.getLast? ≠ some 0 by decide +kernel) key
  have second := standIn_ne (show secondSignature.val.getLast? ≠ some 0 by decide +kernel) key
  have front : (standIn key).val.take 32 = key.val := by
    simp [standIn, key.property]
  simp [simulationRecover, first, second, front, key.property]

theorem simulation_lawful : simulation.Lawful where
  parse seed positive below := by
    simp [simulation, positive, below]
  signature message key := rfl
  recoveryId message key := by
    change (if (simulationSign message key).2 < 4 then some (simulationSign message key).2
      else none) = some (simulationSign message key).2
    unfold simulationSign
    split
    · rfl
    · split <;> rfl
  recover message key := by
    change simulationRecover message (simulationSign message key).1
      (simulationSign message key).2 = some (publicKey key)
    unfold simulationSign
    split
    · rename_i chosen
      simp [simulationRecover, chosen.1, chosen.2, publicKey]
    · split
      · rename_i chosen
        have distinct : secondSecret ≠ firstSecret := by decide +kernel
        have different : secondSignature ≠ firstSignature := by decide +kernel
        simp [simulationRecover, chosen.1, chosen.2, publicKey, distinct, different]
      · exact simulationRecover_standIn message key 0

def simulated : SimulatedGuardians simulation where
  index := 0
  secretKeys := [firstSecret, secondSecret]
  addresses := [firstSecret, secondSecret].map (guardianAddress simulation)
  matching := rfl

example : SimulatedGuardians.derive simulation 0 2 1 = .ok simulated := rfl

example : announcement.digest simulationCrypto = announcementDigest := by decide +kernel

end Sample

end WormVerify.Infra
