import WormVerify.Types.Vaa

/-! # The wire format is the image of the encoder

Every reader of the parser has one lemma that says exactly which bytes it
accepts and what it returns. Together they describe the parser as the inverse
of the encoder on well-formed VAAs.
-/

namespace WormVerify.Types

open Checked

theorem readWord_eq_ok [MachineWord α] {bytes : List UInt8} {cur next : Nat} {word : α}
    (fits : cur + MachineWord.width α < usizeLimit) :
    readWord α bytes cur = .ok (word, next) ↔
      ChunkAt bytes cur (toBeBytes word) ∧ next = cur + MachineWord.width α := by
  have proper : cur < cur + MachineWord.width α :=
    Nat.lt_add_of_pos_right MachineWord.width_pos
  simp only [readWord, addUsize_of_lt fits, ok_bind, bind_eq_ok, okOr_eq_ok,
    getRange_eq_some proper, Nat.add_sub_cancel_left, Bytes.copyFromSlice_eq_ok, pure_eq_ok,
    Except.ok.injEq, Prod.mk.injEq]
  constructor
  · intro read
    rcases read with ⟨slice, ⟨length, held⟩, array, rfl, rfl, rfl⟩
    rw [toBeBytes_fromBeBytes _ length]
    exact ⟨held, rfl⟩
  · intro parts
    rcases parts with ⟨held, rfl⟩
    refine ⟨toBeBytes word, ⟨toBeBytes_length word, held⟩,
      ⟨toBeBytes word, toBeBytes_length word⟩, rfl, fromBeBytes_toBeBytes word, rfl⟩

/-! ## The body -/

def VaaBody.encodeHeader (body : VaaBody) : List UInt8 :=
  toBeBytes body.timestamp ++ toBeBytes body.nonce ++ toBeBytes body.emitterChain ++
    body.emitterAddress.val ++ toBeBytes body.sequence ++ [body.consistencyLevel]

theorem VaaBody.encode_eq (body : VaaBody) :
    body.encode = body.encodeHeader ++ body.payload := rfl

@[simp] theorem VaaBody.encodeHeader_length (body : VaaBody) :
    body.encodeHeader.length = bodyHeaderLen := by
  simp [encodeHeader, body.emitterAddress.property, MachineWord.width, bodyHeaderLen]

@[simp] theorem VaaBody.encode_length (body : VaaBody) :
    body.encode.length = bodyHeaderLen + body.payload.length := by
  simp [encode_eq]

theorem VaaBody.chunkAt_encodeHeader {body : VaaBody} {bytes : List UInt8} :
    ChunkAt bytes 0 body.encodeHeader ↔
      ChunkAt bytes 0 (toBeBytes body.timestamp) ∧ ChunkAt bytes 4 (toBeBytes body.nonce) ∧
        ChunkAt bytes 8 (toBeBytes body.emitterChain) ∧
        ChunkAt bytes 10 body.emitterAddress.val ∧
        ChunkAt bytes 42 (toBeBytes body.sequence) ∧
        ChunkAt bytes 50 [body.consistencyLevel] := by
  simp [encodeHeader, -List.append_assoc, chunkAt_append, body.emitterAddress.property,
    MachineWord.width, and_assoc]

theorem parseBody_eq_ok {bytes : List UInt8} {body : VaaBody} :
    parseBody bytes = .ok body ↔
      bytes = body.encode ∧ body.payload.length ≤ maxPayloadLen := by
  rw [VaaBody.encode_eq, eq_append_iff, VaaBody.chunkAt_encodeHeader,
    VaaBody.encodeHeader_length]
  constructor
  · intro parsed
    simp only [parseBody, readU16, readU32, readU64, bind_eq_ok, require_eq_ok] at parsed
    rcases parsed with ⟨_, long, ⟨timestamp, cur⟩, read, parsed⟩
    rcases (readWord_eq_ok (by simp [MachineWord.width, usizeLimit])).mp read with
      ⟨timestampAt, rfl⟩
    rcases parsed with ⟨⟨nonce, cur⟩, read, parsed⟩
    rcases (readWord_eq_ok (by simp [MachineWord.width, usizeLimit])).mp read with ⟨nonceAt, rfl⟩
    rcases parsed with ⟨⟨emitterChain, cur⟩, read, stop, stopIs, parsed⟩
    rcases (readWord_eq_ok (by simp [MachineWord.width, usizeLimit])).mp read with
      ⟨emitterChainAt, rfl⟩
    rcases addUsize_eq_ok.mp stopIs with ⟨-, rfl⟩
    rcases parsed with ⟨found, sliced, emitterAddress, copied, cur, curIs, parsed⟩
    rcases addUsize_eq_ok.mp curIs with ⟨-, rfl⟩
    rw [Bytes.copyFromSlice_eq_ok] at copied
    have emitterAddressAt := ((getRange_eq_some (by simp)).mp (slice_eq_ok.mp sliced)).2
    rcases parsed with ⟨⟨sequence, cur⟩, read, consistencyLevel, levelRead, parsed⟩
    rcases (readWord_eq_ok (by simp [MachineWord.width, usizeLimit])).mp read with ⟨sequenceAt, rfl⟩
    have levelAt := index_eq_ok.mp levelRead
    rcases parsed with ⟨cur, curIs, payload, payloadRead, _, short, finished⟩
    rcases addUsize_eq_ok.mp curIs with ⟨-, rfl⟩
    have payloadIs := (sliceFrom_eq_ok.mp payloadRead).2
    cases finished
    exact ⟨⟨⟨timestampAt, nonceAt, emitterChainAt, copied ▸ emitterAddressAt, sequenceAt,
      levelAt⟩, payloadIs⟩, short⟩
  · intro parts
    rcases parts with ⟨⟨⟨timestampAt, nonceAt, emitterChainAt, emitterAddressAt, sequenceAt,
      levelAt⟩, payloadIs⟩, short⟩
    have long : bodyHeaderLen ≤ bytes.length := levelAt.length_le (by simp)
    have addressSlice : (slice bytes 10 42 : Checked VaaError (List UInt8)) =
        .ok body.emitterAddress.val := by
      rw [slice_eq_ok, getRange_eq_some (by decide)]
      exact ⟨body.emitterAddress.property, emitterAddressAt⟩
    have addressCopy : (Bytes.copyFromSlice 32 body.emitterAddress.val :
        Checked VaaError (Bytes 32)) = .ok body.emitterAddress := by simp
    have payloadRead : (sliceFrom bytes 51 : Checked VaaError (List UInt8)) =
        .ok body.payload := sliceFrom_eq_ok.mpr ⟨long, payloadIs⟩
    rw [parseBody, require_of long, ok_bind, readU32,
      (readWord_eq_ok (by decide)).mpr ⟨timestampAt, rfl⟩, ok_bind]
    change readU32 bytes 4 >>= _ = _
    rw [readU32, (readWord_eq_ok (by decide)).mpr ⟨nonceAt, rfl⟩, ok_bind]
    change readU16 bytes 8 >>= _ = _
    rw [readU16, (readWord_eq_ok (by decide)).mpr ⟨emitterChainAt, rfl⟩, ok_bind]
    change slice bytes 10 42 >>= _ = _
    rw [addressSlice, ok_bind, addressCopy, ok_bind]
    change readU64 bytes 42 >>= _ = _
    rw [readU64, (readWord_eq_ok (by decide)).mpr ⟨sequenceAt, rfl⟩, ok_bind]
    change index bytes 50 >>= _ = _
    rw [index_eq_ok.mpr levelAt, ok_bind]
    change sliceFrom bytes 51 >>= _ = _
    rw [payloadRead, ok_bind, require_of short, ok_bind]
    rfl

/-! ## The signatures -/

/-- The key of the last index seen, as `Ascending.After` takes it. -/
def lastPosition (lastIndex : Option UInt8) : Option Nat := lastIndex.map UInt8.toNat

@[simp] theorem requireAscending_eq_ok {lastIndex : Option UInt8} {guardianIndex : UInt8}
    {result : Unit} :
    requireAscending lastIndex guardianIndex = .ok result ↔
      ∀ previous, lastPosition lastIndex = some previous → previous < guardianIndex.toNat := by
  cases lastIndex with
  | none => simp [requireAscending, lastPosition]
  | some previous =>
      simp [requireAscending, lastPosition, fail, UInt8.le_iff_toNat_le]

theorem parseSignatures_succ_eq_ok {bytes : List UInt8} {remaining cur : Nat}
    {lastIndex : Option UInt8} {signatures : List GuardianSignature}
    {result : List GuardianSignature × Nat} (fits : cur + signatureEntryLen < usizeLimit) :
    parseSignatures bytes (remaining + 1) cur lastIndex signatures = .ok result ↔
      ∃ signature : GuardianSignature, ChunkAt bytes cur signature.encode ∧
        (∀ previous, lastPosition lastIndex = some previous →
          previous < signature.position) ∧
        parseSignatures bytes remaining (cur + signatureEntryLen)
          (some signature.guardianIndex) (signatures ++ [signature]) = .ok result := by
  have proper : cur < cur + signatureEntryLen := by
    rw [signatureEntryLen]
    omega
  simp only [parseSignatures, addUsize_of_lt fits, ok_bind, bind_eq_ok, okOr_eq_ok,
    getRange_eq_some proper, Nat.add_sub_cancel_left, index_eq_ok, requireAscending_eq_ok,
    slice_eq_ok, getRange_eq_some (show 1 < 65 by decide), Bytes.copyFromSlice_eq_ok]
  constructor
  · intro parsed
    rcases parsed with ⟨entry, ⟨length, held⟩, guardianIndex, indexAt, _, ordered, slice,
      ⟨_, rsAt⟩, rs, rfl, recoveryId, recoveryIdAt, rest⟩
    have shape : entry = GuardianSignature.encode ⟨guardianIndex, rs, recoveryId⟩ :=
      GuardianSignature.eq_encode_iff.mpr ⟨length, indexAt, rsAt, recoveryIdAt⟩
    exact ⟨⟨guardianIndex, rs, recoveryId⟩, shape ▸ held, ordered, rest⟩
  · intro parts
    rcases parts with ⟨signature, held, ordered, rest⟩
    rcases GuardianSignature.eq_encode_iff.mp (Eq.refl signature.encode) with
      ⟨length, indexAt, rsAt, recoveryIdAt⟩
    exact ⟨signature.encode, ⟨length, held⟩, signature.guardianIndex, indexAt, ⟨⟩, ordered,
      signature.rs.val, ⟨signature.rs.property, rsAt⟩, signature.rs, rfl,
      signature.recoveryId, recoveryIdAt, rest⟩

/-- The signature loop reads as many entries as it is told to, in strictly
ascending order, and appends them to what it has. -/
theorem parseSignatures_eq_ok {bytes : List UInt8} {remaining cur stop : Nat}
    {lastIndex : Option UInt8} {signatures result : List GuardianSignature}
    (fits : cur + signatureEntryLen * remaining < usizeLimit) :
    parseSignatures bytes remaining cur lastIndex signatures = .ok (result, stop) ↔
      ∃ read : List GuardianSignature, read.length = remaining ∧
        result = signatures ++ read ∧ stop = cur + signatureEntryLen * remaining ∧
        ChunkAt bytes cur (encodeSignatures read) ∧
        Ascending.After GuardianSignature.position (lastPosition lastIndex) read := by
  induction remaining generalizing cur lastIndex signatures with
  | zero =>
      simp only [parseSignatures, Except.ok.injEq, Prod.mk.injEq, List.length_eq_zero_iff]
      constructor
      · intro finished
        rcases finished with ⟨rfl, rfl⟩
        exact ⟨[], rfl, by simp, rfl, by simp [ChunkAt], trivial⟩
      · intro finished
        rcases finished with ⟨read, rfl, resultIs, stopIs, -, -⟩
        exact ⟨by simp [resultIs], by simp [stopIs]⟩
  | succ remaining induction =>
      have advance : cur + signatureEntryLen + signatureEntryLen * remaining =
          cur + signatureEntryLen * (remaining + 1) := by
        rw [Nat.mul_succ]
        omega
      rw [parseSignatures_succ_eq_ok (by rw [signatureEntryLen] at *; omega)]
      constructor
      · intro parsed
        rcases parsed with ⟨signature, held, ordered, rest⟩
        rcases (induction (by omega)).mp rest with
          ⟨read, rfl, resultIs, stopIs, readAt, ascending⟩
        refine ⟨signature :: read, rfl, by simp [resultIs], by omega, ?_, ordered, ascending⟩
        rw [encodeSignatures_cons, chunkAt_append, GuardianSignature.encode_length]
        exact ⟨held, readAt⟩
      · intro parts
        rcases parts with ⟨read, length, resultIs, stopIs, readAt, ascending⟩
        cases read with
        | nil => cases length
        | cons signature read =>
            rw [encodeSignatures_cons, chunkAt_append, GuardianSignature.encode_length]
              at readAt
            refine ⟨signature, readAt.1, ascending.1, (induction (by omega)).mpr ?_⟩
            exact ⟨read, Nat.succ.inj length, by simp [resultIs], by omega, readAt.2,
              ascending.2⟩

/-! ## The whole VAA -/

/-- What the wire format can carry: the one supported version, a count that
fits its byte, signatures in order and a payload of admissible length. -/
structure Vaa.WellFormed (vaa : Vaa) : Prop where
  version : vaa.version = supportedVersion
  count : vaa.signatures.length ≤ 255
  ascending : Ascending GuardianSignature.position vaa.signatures
  payload : vaa.body.payload.length ≤ maxPayloadLen

def Vaa.encodeHeader (vaa : Vaa) : List UInt8 :=
  [vaa.version] ++ toBeBytes vaa.guardianSetIndex ++ [UInt8.ofNat vaa.signatures.length] ++
    encodeSignatures vaa.signatures

theorem Vaa.encode_eq (vaa : Vaa) : vaa.encode = vaa.encodeHeader ++ vaa.body.encode := rfl

@[simp] theorem Vaa.encodeHeader_length (vaa : Vaa) :
    vaa.encodeHeader.length = 6 + signatureEntryLen * vaa.signatures.length := by
  simp [encodeHeader, MachineWord.width, signatureEntryLen]
  omega

theorem Vaa.chunkAt_encodeHeader {vaa : Vaa} {bytes : List UInt8} :
    ChunkAt bytes 0 vaa.encodeHeader ↔
      ChunkAt bytes 0 [vaa.version] ∧ ChunkAt bytes 1 (toBeBytes vaa.guardianSetIndex) ∧
        ChunkAt bytes 5 [UInt8.ofNat vaa.signatures.length] ∧
        ChunkAt bytes 6 (encodeSignatures vaa.signatures) := by
  simp only [encodeHeader, chunkAt_append, List.length_append, List.length_singleton,
    toBeBytes_length, MachineWord.width, and_assoc]

theorem head?_eq_some {bytes : List UInt8} {byte : UInt8} :
    bytes.head? = some byte ↔ ChunkAt bytes 0 [byte] := by
  rw [List.head?_eq_getElem?, getElem?_eq_some]

theorem Vaa.parse_eq_ok {bytes : List UInt8} {vaa : Vaa} :
    Vaa.parse bytes = .ok vaa ↔ bytes = vaa.encode ∧ vaa.WellFormed := by
  rw [Vaa.encode_eq, eq_append_iff, Vaa.chunkAt_encodeHeader, Vaa.encodeHeader_length]
  have countFits (count : UInt8) : 6 + signatureEntryLen * count.toNat < usizeLimit := by
    have := count.toNat_lt
    rw [signatureEntryLen, usizeLimit]
    omega
  constructor
  · intro parsed
    simp only [Vaa.parse, readU32, bind_eq_ok, require_eq_ok, okOr_eq_ok] at parsed
    rcases parsed with ⟨version, versionAt, _, supported, parsed⟩
    rcases parsed with ⟨cur, curIs, ⟨guardianSetIndex, cur⟩, read, parsed⟩
    rcases addUsize_eq_ok.mp curIs with ⟨-, rfl⟩
    rcases (readWord_eq_ok (by simp [MachineWord.width, usizeLimit])).mp read with
      ⟨guardianSetIndexAt, rfl⟩
    rcases parsed with ⟨numSigs, numSigsAt, cur, curIs, ⟨signatures, stop⟩, loop, parsed⟩
    rcases addUsize_eq_ok.mp curIs with ⟨-, rfl⟩
    rcases (parseSignatures_eq_ok (by simpa [MachineWord.width] using countFits numSigs)).mp
      loop with ⟨_, length, rfl, rfl, signaturesAt, ascending⟩
    rcases parsed with ⟨bodyBytes, bodyRead, body, bodyParsed, finished⟩
    rcases parseBody_eq_ok.mp bodyParsed with ⟨bodyIs, short⟩
    have countIs : UInt8.ofNat signatures.length = numSigs := by
      rw [length, UInt8.ofNat_toNat]
    cases finished
    refine ⟨⟨⟨head?_eq_some.mp versionAt, guardianSetIndexAt, ?_, signaturesAt⟩, ?_⟩,
      supported, ?_, (Ascending.after_none_iff _ _).mp ascending, short⟩
    · rw [countIs]
      exact getElem?_eq_some.mp numSigsAt
    · rw [← bodyIs, length]
      exact (getFrom_eq_some.mp bodyRead).2
    · change signatures.length ≤ 255
      have := numSigs.toNat_lt
      omega
  · intro parts
    rcases parts with ⟨⟨⟨versionAt, guardianSetIndexAt, countAt, signaturesAt⟩, bodyIs⟩,
      wellFormed⟩
    have countIs : (UInt8.ofNat vaa.signatures.length).toNat = vaa.signatures.length := by
      have := wellFormed.count
      simp only [UInt8.toNat_ofNat']
      omega
    have loop : parseSignatures bytes (UInt8.ofNat vaa.signatures.length).toNat 6 none [] =
        .ok (vaa.signatures, 6 + signatureEntryLen * vaa.signatures.length) := by
      rw [parseSignatures_eq_ok (countFits _), countIs]
      exact ⟨vaa.signatures, rfl, rfl, rfl, signaturesAt,
        (Ascending.after_none_iff _ _).mpr wellFormed.ascending⟩
    have bodyInside : 6 + signatureEntryLen * vaa.signatures.length ≤ bytes.length := by
      have total := congrArg List.length bodyIs
      simp only [List.length_drop, VaaBody.encode_length, bodyHeaderLen] at total
      omega
    have bodyRead : (okOr (getFrom bytes (6 + signatureEntryLen * vaa.signatures.length))
        .malformed : Checked VaaError (List UInt8)) = .ok vaa.body.encode :=
      okOr_eq_ok.mpr (getFrom_eq_some.mpr ⟨bodyInside, bodyIs⟩)
    have body : parseBody vaa.body.encode = .ok vaa.body :=
      parseBody_eq_ok.mpr ⟨rfl, wellFormed.payload⟩
    rw [Vaa.parse, head?_eq_some.mpr versionAt]
    change require (vaa.version = supportedVersion) _ >>= _ = _
    rw [require_of wellFormed.version, ok_bind]
    change readU32 bytes 1 >>= _ = _
    rw [readU32, (readWord_eq_ok (by decide)).mpr ⟨guardianSetIndexAt, rfl⟩, ok_bind]
    change okOr bytes[5]? _ >>= _ = _
    rw [getElem?_eq_some.mpr countAt]
    change parseSignatures bytes _ 6 none [] >>= _ = _
    rw [loop, ok_bind]
    change okOr (getFrom bytes _) _ >>= _ = _
    rw [bodyRead, ok_bind, body, ok_bind]
    rfl

/-! ## Parsing never aborts -/

theorem settles_readWord [MachineWord α] {bytes : List UInt8} {cur : Nat}
    (fits : cur + MachineWord.width α < usizeLimit) : Settles (readWord α bytes cur) := by
  rw [readWord, addUsize_of_lt fits, ok_bind]
  apply settles_okOr.bind
  intro slice read
  rw [ok_bind]
  apply (Bytes.settles_copyFromSlice MachineWord.width_pos (okOr_eq_ok.mp read)).bind
  intro array _
  exact settles_ok _

theorem settles_parseBody (bytes : List UInt8) : Settles (parseBody bytes) := by
  rw [parseBody, readU32, readU16, readU64]
  apply settles_require.bind
  intro _ long
  rw [require_eq_ok, bodyHeaderLen] at long
  apply (settles_readWord (by decide)).bind
  intro pair read
  rcases pair with ⟨timestamp, cur⟩
  rcases (readWord_eq_ok (by decide)).mp read with ⟨-, rfl⟩
  apply (settles_readWord (by decide)).bind
  intro pair read
  rcases pair with ⟨nonce, cur⟩
  rcases (readWord_eq_ok (by decide)).mp read with ⟨-, rfl⟩
  apply (settles_readWord (by decide)).bind
  intro pair read
  rcases pair with ⟨emitterChain, cur⟩
  rcases (readWord_eq_ok (by decide)).mp read with ⟨-, rfl⟩
  change Settles (slice bytes 10 42 >>= _)
  rw [slice_of_le (by decide) (by omega), ok_bind, Bytes.copyFromSlice_of_eq (by simp; omega),
    ok_bind]
  change Settles (readWord UInt64 bytes 42 >>= _)
  apply (settles_readWord (by decide)).bind
  intro pair read
  rcases pair with ⟨sequence, cur⟩
  rcases (readWord_eq_ok (by decide)).mp read with ⟨-, rfl⟩
  change Settles (index bytes 50 >>= _)
  rw [index_of_lt (by omega), ok_bind]
  change Settles (sliceFrom bytes 51 >>= _)
  rw [sliceFrom_of_le long, ok_bind]
  apply settles_require.bind
  intro _ _
  exact settles_ok _

theorem settles_requireAscending (lastIndex : Option UInt8) (guardianIndex : UInt8) :
    Settles (requireAscending lastIndex guardianIndex) := by
  cases lastIndex with
  | none => exact settles_ok _
  | some previous =>
      rw [requireAscending]
      split
      · exact settles_fail _
      · exact settles_ok _

theorem settles_parseSignatures {bytes : List UInt8} {remaining cur : Nat}
    {lastIndex : Option UInt8} {signatures : List GuardianSignature}
    (fits : cur + signatureEntryLen * remaining < usizeLimit) :
    Settles (parseSignatures bytes remaining cur lastIndex signatures) := by
  induction remaining generalizing cur lastIndex signatures with
  | zero => exact settles_ok _
  | succ remaining induction =>
      rw [signatureEntryLen] at *
      have here : cur + 66 < usizeLimit := by omega
      rw [parseSignatures, signatureEntryLen, addUsize_of_lt here, ok_bind]
      apply settles_okOr.bind
      intro entry read
      have length : entry.length = 66 := by
        have := ((getRange_eq_some (by omega)).mp (okOr_eq_ok.mp read)).1
        omega
      rw [index_of_lt (by omega), ok_bind]
      apply (settles_requireAscending _ _).bind
      intro _ _
      rw [slice_of_le (by decide) (by omega), ok_bind,
        Bytes.copyFromSlice_of_eq (by simp; omega), ok_bind, index_of_lt (by omega), ok_bind,
        ok_bind]
      exact induction (by omega)

theorem Vaa.settles_parse (bytes : List UInt8) : Settles (Vaa.parse bytes) := by
  rw [Vaa.parse]
  apply settles_okOr.bind
  intro version _
  apply settles_require.bind
  intro _ _
  rw [addUsize_of_lt (by decide), ok_bind, readU32]
  apply (settles_readWord (by decide)).bind
  intro pair read
  rcases pair with ⟨guardianSetIndex, cur⟩
  rcases (readWord_eq_ok (by decide)).mp read with ⟨-, rfl⟩
  apply settles_okOr.bind
  intro numSigs _
  rw [addUsize_of_lt (by simp [MachineWord.width, usizeLimit]), ok_bind]
  have fits : 6 + signatureEntryLen * numSigs.toNat < usizeLimit := by
    have := numSigs.toNat_lt
    rw [signatureEntryLen, usizeLimit]
    omega
  apply Settles.bind (settles_parseSignatures fits)
  intro pair _
  rcases pair with ⟨signatures, stop⟩
  apply settles_okOr.bind
  intro bodyBytes _
  apply (settles_parseBody bodyBytes).bind
  intro body _
  exact settles_ok _

/-- The wire format is the image of the encoder: parsing and encoding undo each
other, and every other byte string is rejected with an error. -/
theorem Vaa.parse_inverts_encode :
    (∀ bytes vaa, Vaa.parse bytes = .ok vaa ↔ vaa.encode = bytes ∧ vaa.WellFormed) ∧
      (∀ vaa : Vaa, vaa.WellFormed → Vaa.parse vaa.encode = .ok vaa) ∧
      (∀ bytes vaa, Vaa.parse bytes = .ok vaa → vaa.encode = bytes) ∧
      ∀ bytes, (¬∃ vaa : Vaa, vaa.WellFormed ∧ vaa.encode = bytes) →
        ∃ error, Vaa.parse bytes = fail error := by
  refine ⟨?_, ?_, ?_, ?_⟩
  · intro bytes vaa
    rw [Vaa.parse_eq_ok, eq_comm]
  · intro vaa wellFormed
    exact Vaa.parse_eq_ok.mpr ⟨rfl, wellFormed⟩
  · intro bytes vaa parsed
    exact (Vaa.parse_eq_ok.mp parsed).1.symm
  · intro bytes outside
    apply (Vaa.settles_parse bytes).exists_fail
    intro vaa parsed
    rcases Vaa.parse_eq_ok.mp parsed with ⟨encoded, wellFormed⟩
    exact outside ⟨vaa, wellFormed, encoded.symm⟩

end WormVerify.Types
