import WormVerify.Types.Codec

/-! # Which VAAs the verifier accepts -/

namespace WormVerify.Types

open Checked

section

variable {crypto : Crypto}

/-- The signature recovers over the digest to the guardian at its index. -/
def SignedBy (crypto : Crypto) (digest : Bytes 32) (guardians : List GuardianAddress)
    (signature : GuardianSignature) : Prop :=
  ∃ guardian, guardians[signature.position]? = some guardian ∧
    recoverGuardian crypto digest signature = .ok guardian

theorem verifySignatures_eq_ok {digest : Bytes 32} {guardians : List GuardianAddress}
    {signatures : List GuardianSignature} {valid total : Nat} {lastIndex : Option UInt8} :
    verifySignatures crypto (crypto.parseMessage digest) guardians signatures valid lastIndex =
        .ok total ↔
      total = valid + signatures.length ∧
        Ascending.After GuardianSignature.position (lastPosition lastIndex) signatures ∧
        ∀ signature ∈ signatures, SignedBy crypto digest guardians signature := by
  induction signatures generalizing valid lastIndex with
  | nil => simp [verifySignatures, Ascending.After, eq_comm]
  | cons signature rest induction =>
      simp only [verifySignatures, bind_eq_ok, requireAscending_eq_ok, okOr_eq_ok,
        require_eq_ok, induction, List.forall_mem_cons, List.length_cons]
      constructor
      · intro accepted
        rcases accepted with ⟨_, ordered, expected, found, recovered, recovers, _, rfl, totalIs,
          ascending, signed⟩
        exact ⟨by omega, ⟨ordered, ascending⟩, ⟨recovered, found, recovers⟩, signed⟩
      · intro parts
        rcases parts with ⟨totalIs, ⟨ordered, ascending⟩, ⟨guardian, found, recovers⟩, signed⟩
        exact ⟨⟨⟩, ordered, guardian, found, guardian, recovers, ⟨⟩, rfl, by omega, ascending,
          signed⟩

theorem Vaa.verify_eq_ok {vaa : Vaa} {guardians : List GuardianAddress} {result : Unit} :
    vaa.verify crypto guardians = .ok result ↔
      guardians ≠ [] ∧ Ascending GuardianSignature.position vaa.signatures ∧
        (∀ signature ∈ vaa.signatures,
          SignedBy crypto (vaa.body.digest crypto) guardians signature) ∧
        quorum guardians.length ≤ vaa.signatures.length := by
  simp only [Vaa.verify, bind_eq_ok, require_eq_ok, verifySignatures_eq_ok, lastPosition,
    Option.map_none, Ascending.after_none_iff, Nat.zero_add]
  constructor
  · intro accepted
    rcases accepted with ⟨_, nonempty, valid, ⟨rfl, ascending, signed⟩, enough⟩
    exact ⟨nonempty, ascending, signed, enough⟩
  · intro parts
    rcases parts with ⟨nonempty, ascending, signed, enough⟩
    exact ⟨⟨⟩, nonempty, _, ⟨rfl, ascending, signed⟩, enough⟩

/-! ## Which error the verifier reports -/

theorem requireAscending_eq_fail {lastIndex : Option UInt8} {guardianIndex : UInt8}
    {error : VaaError} :
    requireAscending lastIndex guardianIndex = fail error ↔
      (∃ previous, lastPosition lastIndex = some previous ∧ guardianIndex.toNat ≤ previous) ∧
        error = .signaturesOutOfOrder := by
  cases lastIndex with
  | none => simp [requireAscending, lastPosition, fail]
  | some previous =>
      by_cases behind : guardianIndex ≤ previous
      · simp [requireAscending, lastPosition, fail, behind, UInt8.le_iff_toNat_le.mp behind,
          eq_comm]
      · have ahead : ¬guardianIndex.toNat ≤ previous.toNat := fun below =>
          behind (UInt8.le_iff_toNat_le.mpr below)
        simp [requireAscending, lastPosition, fail, behind, ahead]

theorem recoverGuardian_eq_fail {digest : Bytes 32} {signature : GuardianSignature}
    {error : VaaError} :
    recoverGuardian crypto digest signature = fail error ↔
      (∀ guardian, recoverGuardian crypto digest signature ≠ .ok guardian) ∧
        error = .recoveryFailed := by
  simp only [recoverGuardian, recoverAddress]
  cases crypto.parseStandardSlice signature.rs with
  | none => simp [okOr, fail, eq_comm]
  | some parsed =>
      cases crypto.parseRecoveryId signature.recoveryId with
      | none => simp [okOr, fail, eq_comm]
      | some recoveryId =>
          simp only [okOr, ok_bind]
          cases crypto.recover (crypto.parseMessage digest) parsed recoveryId with
          | none => simp [fail, eq_comm]
          | some key => simp [fail]

/-- The first check that a signature breaks, given the position of the signature
before it: order, then range, then recovery, then the address. -/
inductive Breaks (crypto : Crypto) (digest : Bytes 32) (guardians : List GuardianAddress)
    (last : Option Nat) (signature : GuardianSignature) : VaaError → Prop
  | order (previous : Nat) (before : last = some previous)
      (behind : signature.position ≤ previous) :
      Breaks crypto digest guardians last signature .signaturesOutOfOrder
  | range (ordered : ∀ previous, last = some previous → previous < signature.position)
      (outside : guardians.length ≤ signature.position) :
      Breaks crypto digest guardians last signature
        (.guardianIndexOutOfRange signature.guardianIndex)
  | recovery (ordered : ∀ previous, last = some previous → previous < signature.position)
      (inside : signature.position < guardians.length)
      (unrecovered : ∀ guardian, recoverGuardian crypto digest signature ≠ .ok guardian) :
      Breaks crypto digest guardians last signature .recoveryFailed
  | address (ordered : ∀ previous, last = some previous → previous < signature.position)
      (expected recovered : GuardianAddress)
      (found : guardians[signature.position]? = some expected)
      (recovers : recoverGuardian crypto digest signature = .ok recovered)
      (differs : recovered ≠ expected) :
      Breaks crypto digest guardians last signature
        (.invalidGuardianSignature signature.guardianIndex)

theorem verifySignatures_cons_eq_fail {digest : Bytes 32} {guardians : List GuardianAddress}
    {signature : GuardianSignature} {rest : List GuardianSignature} {valid : Nat}
    {lastIndex : Option UInt8} {error : VaaError} :
    verifySignatures crypto (crypto.parseMessage digest) guardians (signature :: rest) valid
        lastIndex = fail error ↔
      Breaks crypto digest guardians (lastPosition lastIndex) signature error ∨
        (∀ previous, lastPosition lastIndex = some previous → previous < signature.position) ∧
          SignedBy crypto digest guardians signature ∧
          verifySignatures crypto (crypto.parseMessage digest) guardians rest (valid + 1)
            (some signature.guardianIndex) = fail error := by
  have recovering : recoverAddress crypto (crypto.parseMessage digest) signature.rs
      signature.recoveryId = recoverGuardian crypto digest signature := rfl
  simp only [verifySignatures, recovering, bind_eq_fail, requireAscending_eq_ok,
    requireAscending_eq_fail, okOr_eq_ok, okOr_eq_fail, recoverGuardian_eq_fail, require_eq_ok,
    require_eq_fail]
  constructor
  · intro stopped
    rcases stopped with ⟨⟨previous, before, behind⟩, rfl⟩ | ⟨_, ordered,
      ⟨outside, rfl⟩ | ⟨expected, found, ⟨unrecovered, rfl⟩ | ⟨recovered, recovers,
        ⟨differs, rfl⟩ | ⟨_, rfl, stopped⟩⟩⟩⟩
    · exact .inl (.order previous before behind)
    · exact .inl (.range ordered (List.getElem?_eq_none_iff.mp outside))
    · exact .inl (.recovery ordered (List.getElem?_eq_some_iff.mp found).1 unrecovered)
    · exact .inl (.address ordered expected recovered found recovers differs)
    · exact .inr ⟨ordered, ⟨recovered, found, recovers⟩, stopped⟩
  · intro stopped
    rcases stopped with broken | ⟨ordered, ⟨guardian, found, recovers⟩, stopped⟩
    · cases broken with
      | order previous before behind => exact .inl ⟨⟨previous, before, behind⟩, rfl⟩
      | range ordered outside =>
          exact .inr ⟨⟨⟩, ordered, .inl ⟨List.getElem?_eq_none_iff.mpr outside, rfl⟩⟩
      | recovery ordered inside unrecovered =>
          exact .inr ⟨⟨⟩, ordered, .inr ⟨_, List.getElem?_eq_getElem inside,
            .inl ⟨unrecovered, rfl⟩⟩⟩
      | address ordered expected recovered found recovers differs =>
          exact .inr ⟨⟨⟩, ordered, .inr ⟨expected, found, .inr ⟨recovered, recovers,
            .inl ⟨differs, rfl⟩⟩⟩⟩
    · exact .inr ⟨⟨⟩, ordered, .inr ⟨guardian, found, .inr ⟨guardian, recovers,
        .inr ⟨⟨⟩, rfl, stopped⟩⟩⟩⟩

def positionAfter (last : Option Nat) (earlier : List GuardianSignature) : Option Nat :=
  (earlier.getLast?.map GuardianSignature.position).or last

@[simp] theorem positionAfter_cons (last : Option Nat) (signature : GuardianSignature)
    (earlier : List GuardianSignature) :
    positionAfter last (signature :: earlier) =
      positionAfter (some signature.position) earlier := by
  cases earlier with
  | nil => rfl
  | cons next rest => simp [positionAfter, List.getLast?_cons]

/-- The loop stops at the first signature that breaks a check. -/
theorem verifySignatures_eq_fail {digest : Bytes 32} {guardians : List GuardianAddress}
    {signatures : List GuardianSignature} {valid : Nat} {lastIndex : Option UInt8}
    {error : VaaError} :
    verifySignatures crypto (crypto.parseMessage digest) guardians signatures valid lastIndex =
        fail error ↔
      ∃ earlier signature later, signatures = earlier ++ signature :: later ∧
        Ascending.After GuardianSignature.position (lastPosition lastIndex) earlier ∧
        (∀ good ∈ earlier, SignedBy crypto digest guardians good) ∧
        Breaks crypto digest guardians (positionAfter (lastPosition lastIndex) earlier)
          signature error := by
  induction signatures generalizing valid lastIndex with
  | nil => simp [verifySignatures, fail]
  | cons head tail induction =>
      rw [verifySignatures_cons_eq_fail, induction]
      constructor
      · intro stopped
        rcases stopped with broken | ⟨ordered, signed, earlier, signature, later, rfl, ascending,
          good, broken⟩
        · exact ⟨[], head, tail, rfl, trivial, by simp, broken⟩
        · refine ⟨head :: earlier, signature, later, rfl, ⟨ordered, ascending⟩,
            List.forall_mem_cons.mpr ⟨signed, good⟩, ?_⟩
          rw [positionAfter_cons]
          exact broken
      · intro stopped
        rcases stopped with ⟨earlier, signature, later, split, ascending, good, broken⟩
        cases earlier with
        | nil =>
            cases split
            exact .inl broken
        | cons first earlier =>
            cases split
            rw [positionAfter_cons] at broken
            exact .inr ⟨ascending.1, good head List.mem_cons_self, earlier, signature, later,
              rfl, ascending.2, fun other member => good other (List.mem_cons_of_mem _ member),
              broken⟩

/-- The error that the verifier returns for a VAA it does not accept. -/
inductive Vaa.Rejected (crypto : Crypto) (vaa : Vaa) (guardians : List GuardianAddress) :
    VaaError → Prop
  | emptyGuardianSet (empty : guardians = []) : Rejected crypto vaa guardians .emptyGuardianSet
  | signature (nonempty : guardians ≠ []) (earlier later : List GuardianSignature)
      (signature : GuardianSignature) (split : vaa.signatures = earlier ++ signature :: later)
      (ascending : Ascending GuardianSignature.position earlier)
      (signed : ∀ good ∈ earlier, SignedBy crypto (vaa.body.digest crypto) guardians good)
      (error : VaaError)
      (broken : Breaks crypto (vaa.body.digest crypto) guardians
        (earlier.getLast?.map GuardianSignature.position) signature error) :
      Rejected crypto vaa guardians error
  | quorum (nonempty : guardians ≠ [])
      (ascending : Ascending GuardianSignature.position vaa.signatures)
      (signed : ∀ good ∈ vaa.signatures,
        SignedBy crypto (vaa.body.digest crypto) guardians good)
      (short : vaa.signatures.length < Types.quorum guardians.length) :
      Rejected crypto vaa guardians
        (.quorumNotMet vaa.signatures.length (Types.quorum guardians.length))

theorem Vaa.verify_eq_fail {vaa : Vaa} {guardians : List GuardianAddress} {error : VaaError} :
    vaa.verify crypto guardians = fail error ↔ vaa.Rejected crypto guardians error := by
  simp only [Vaa.verify, bind_eq_fail, require_eq_ok, require_eq_fail, verifySignatures_eq_ok,
    verifySignatures_eq_fail, lastPosition, Option.map_none, Ascending.after_none_iff,
    Nat.zero_add, positionAfter, Option.or_none, not_not]
  constructor
  · intro stopped
    rcases stopped with ⟨empty, rfl⟩ | ⟨_, nonempty, ⟨earlier, signature, later, split,
      ascending, signed, broken⟩ | ⟨_, ⟨rfl, ascending, signed⟩, short, rfl⟩⟩
    · exact .emptyGuardianSet empty
    · exact .signature nonempty earlier later signature split ascending signed error broken
    · exact .quorum nonempty ascending signed (Nat.lt_of_not_le short)
  · intro rejected
    cases rejected with
    | emptyGuardianSet empty => exact .inl ⟨empty, rfl⟩
    | signature nonempty earlier later signature split ascending signed _ broken =>
        exact .inr ⟨⟨⟩, nonempty, .inl ⟨earlier, signature, later, split, ascending, signed,
          broken⟩⟩
    | quorum nonempty ascending signed short =>
        exact .inr ⟨⟨⟩, nonempty, .inr ⟨_, ⟨rfl, ascending, signed⟩, Nat.not_le_of_lt short,
          rfl⟩⟩

theorem settles_recoverAddress (message : crypto.Message) (rs : Bytes 64)
    (recoveryId : UInt8) : Settles (recoverAddress crypto message rs recoveryId) :=
  settles_okOr.bind fun _ _ => settles_okOr.bind fun _ _ => settles_okOr.bind fun _ _ =>
    settles_ok _

theorem settles_verifySignatures (message : crypto.Message) (guardians : List GuardianAddress)
    (signatures : List GuardianSignature) (valid : Nat) (lastIndex : Option UInt8) :
    Settles (verifySignatures crypto message guardians signatures valid lastIndex) := by
  induction signatures generalizing valid lastIndex with
  | nil => exact settles_ok _
  | cons signature rest induction =>
      refine (settles_requireAscending _ _).bind fun _ _ => ?_
      refine settles_okOr.bind fun _ _ => ?_
      refine (settles_recoverAddress _ _ _).bind fun _ _ => ?_
      exact settles_require.bind fun _ _ => induction _ _

theorem Vaa.settles_verify (vaa : Vaa) (guardians : List GuardianAddress) :
    Settles (vaa.verify crypto guardians) :=
  settles_require.bind fun _ _ =>
    (settles_verifySignatures _ _ _ _ _).bind fun _ _ => settles_require

theorem SignedBy.position_lt {digest : Bytes 32} {guardians : List GuardianAddress}
    {signature : GuardianSignature} (signed : SignedBy crypto digest guardians signature) :
    signature.position < guardians.length := by
  rcases signed with ⟨guardian, found, -⟩
  exact (List.getElem?_eq_some_iff.mp found).1

/-- The verifier decides its specification: it accepts exactly the VAAs that a
supermajority signed in ascending order, and any other VAA with the error of the
first broken check. -/
theorem Vaa.verify_meets_specification (crypto : Crypto) (vaa : Vaa)
    (guardians : List GuardianAddress) :
    (vaa.verify crypto guardians = .ok () ↔
      0 < guardians.length ∧
        Ascending GuardianSignature.position vaa.signatures ∧
        (∀ signature ∈ vaa.signatures, signature.position < guardians.length) ∧
        (∀ signature ∈ vaa.signatures, ∃ guardian,
          guardians[signature.position]? = some guardian ∧
            recoverGuardian crypto (bodyDigest crypto vaa.body.encode) signature =
              .ok guardian) ∧
        2 * guardians.length / 3 + 1 ≤ vaa.signatures.length) ∧
    ∀ fault, vaa.verify crypto guardians = .error fault ↔
      ∃ error, fault = .returned error ∧ vaa.Rejected crypto guardians error := by
  constructor
  · rw [Vaa.verify_eq_ok, quorum, Nat.mul_comm, ← List.length_pos_iff]
    constructor
    · intro accepted
      rcases accepted with ⟨nonempty, ascending, signed, enough⟩
      exact ⟨nonempty, ascending, fun _ member => (signed _ member).position_lt, signed, enough⟩
    · intro parts
      rcases parts with ⟨nonempty, ascending, -, signed, enough⟩
      exact ⟨nonempty, ascending, signed, enough⟩
  · intro fault
    constructor
    · intro rejected
      cases fault with
      | returned error => exact ⟨error, rfl, Vaa.verify_eq_fail.mp rejected⟩
      | panicked => exact absurd rejected (vaa.settles_verify guardians)
    · intro rejected
      rcases rejected with ⟨error, rfl, rejected⟩
      exact Vaa.verify_eq_fail.mpr rejected

end

/-! ## A signed message

Two guardians, a short and an oversized message, and their signatures. The
functions of the crates are tabulated where these inputs need them.
-/

namespace Sample

/-- The two coordinates of a key, or `r` and `s` of a signature. -/
def halves (first second : Nat) : Bytes 64 := Bytes.ofNat 64 (first * 2 ^ 256 + second)

def guardianKey : Bytes 64 :=
  halves
    0x9d1abaec9f5715a15c7628244170951e0f85e87f68ca5393d3f9fc3fa23a69c8
    0xf21ee70050dbb61c238c89e62942353871b010e798867bdd149ad28b3f28cadf

def otherKey : Bytes 64 :=
  halves
    0x9cbf013d04ca50ba852816c2802b06ca5ed37b44be9597fc0f95360e209afa97
    0xfd92b02bfb9da099b5954b706baa27f08b009636f8450888125e70418893846c

def guardian : GuardianAddress := Bytes.ofNat 20 0x5935897a39afabbeda5a599d38236e7df151c8b8

def otherGuardian : GuardianAddress := Bytes.ofNat 20 0x8c36830398659c303e4aedb691af8c526290452a

def body : VaaBody where
  timestamp := 1700000000
  nonce := 7
  emitterChain := 1
  emitterAddress := Bytes.ofNat 32 5
  sequence := 42
  consistencyLevel := 1
  payload := [0x68, 0x69]

def oversizedBody : VaaBody :=
  { body with sequence := 43, payload := List.replicate 1025 0 }

def bodyHash : Bytes 32 :=
  Bytes.ofNat 32 0x6ea996043cb27ab4918b62eda0a3cfeb27c98ce6d93e9f1b01428f8a867eda38

def digest : Bytes 32 :=
  Bytes.ofNat 32 0xdb17e06658ae5ba8db5de2bb75b3574f09de7e366eb8cc08ec32e5c53c63d03e

def oversizedHash : Bytes 32 :=
  Bytes.ofNat 32 0x3e8833378228c6eaf8d5aed52ecbfa28e5e784b6cb944adb5743a692072545cc

def oversizedDigest : Bytes 32 :=
  Bytes.ofNat 32 0xf620b07bba70ed5dbd1ffcb017b5fd7a0351976280b8114eeefe9cbeb2d4241d

def signatureBytes : Bytes 64 :=
  halves
    0xe5648161e95dbf2bfc687b72b745269fa906031e2108118050aba59524a23c40
    0x7178f40cd70c7d212b86ff6a49afa36569bdff7def27387f1e8806363ab88156

def otherSignatureBytes : Bytes 64 :=
  halves
    0xe9a2463c5ecaaaac49dc3ac382cae02cec513d342ee9a6c18e842c344f7b2bfb
    0x688c88f2e27fa1ad16e4d1726dafb4841389d5a3eaa6050b0c4690f3978ee56d

def oversizedSignatureBytes : Bytes 64 :=
  halves
    0xe5648161e95dbf2bfc687b72b745269fa906031e2108118050aba59524a23c40
    0x305853b5024a0bd3126f7dc5760b1a542ed91042d29c4a1991351e9a6681b011

def hash (data : List UInt8) : Bytes 32 :=
  let entries : List (List UInt8 × Bytes 32) :=
    [(body.encode, bodyHash), (bodyHash.val, digest),
     (oversizedBody.encode, oversizedHash), (oversizedHash.val, oversizedDigest),
     (guardianKey.val,
      Bytes.ofNat 32 0x1980c3fbb7ae97d1ce7cd98f5935897a39afabbeda5a599d38236e7df151c8b8),
     (otherKey.val,
      Bytes.ofNat 32 0x2aae817bc6f012f40e8c3f518c36830398659c303e4aedb691af8c526290452a)]
  (entries.lookup data).getD (Bytes.ofNat 32 0)

def recoverKey (digest : Bytes 32) (rs : Bytes 64) (recoveryId : UInt8) :
    Option (Bytes 64) :=
  let entries : List ((Bytes 32 × Bytes 64 × UInt8) × Bytes 64) :=
    [((Sample.digest, signatureBytes, 0), guardianKey),
     ((Sample.digest, otherSignatureBytes, 0), otherKey),
     ((oversizedDigest, oversizedSignatureBytes, 1), guardianKey)]
  entries.lookup (digest, rs, recoveryId)

def crypto : Crypto where
  Message := Bytes 32
  Signature := Bytes 64
  RecoveryId := UInt8
  PublicKey := Bytes 64
  keccak256 := hash
  parseMessage := id
  parseStandardSlice := some
  parseRecoveryId id := if id < 4 then some id else none
  recover := recoverKey
  serialize key := ⟨4 :: key.val, by simp [key.property]⟩

def signature : GuardianSignature := ⟨0, signatureBytes, 0⟩

def otherSignature : GuardianSignature := ⟨1, otherSignatureBytes, 0⟩

def vaa : Vaa where
  version := supportedVersion
  guardianSetIndex := 0
  signatures := [signature, otherSignature]
  body := body

example : vaa.verify crypto [guardian, otherGuardian] = .ok () := by decide +kernel

end Sample

end WormVerify.Types
