import WormVerify.OnChain.Vaa
import WormVerify.Types.Codec

/-! # The program reads the service's wire format

The program's parser is specified against the service's encoder, so that every
fact about the wire format is proved once.
-/

namespace WormVerify.OnChain

open Checked

theorem readWord_eq_ok [MachineWord α] {data : List UInt8} {offset : Nat} {word : α}
    (fits : offset + MachineWord.width α < usizeLimit) :
    readWord α data offset = .ok word ↔ ChunkAt data offset (toBeBytes word) := by
  have proper : offset < offset + MachineWord.width α :=
    Nat.lt_add_of_pos_right MachineWord.width_pos
  simp only [readWord, addUsize_of_lt fits, ok_bind, bind_eq_ok, okOr_eq_ok,
    getRange_eq_some proper, Nat.add_sub_cancel_left, Bytes.copyFromSlice_eq_ok, pure_eq_ok,
    Except.ok.injEq]
  constructor
  · intro read
    rcases read with ⟨slice, ⟨length, held⟩, buf, rfl, rfl⟩
    rw [toBeBytes_fromBeBytes _ length]
    exact held
  · intro held
    exact ⟨toBeBytes word, ⟨toBeBytes_length word, held⟩,
      ⟨toBeBytes word, toBeBytes_length word⟩, rfl, fromBeBytes_toBeBytes word⟩

theorem requireAscending_eq_ok {lastIndex : Option UInt8} {guardianIndex : UInt8}
    {result : Unit} :
    requireAscending lastIndex guardianIndex = .ok result ↔
      ∀ previous, Types.lastPosition lastIndex = some previous →
        previous < guardianIndex.toNat := by
  cases lastIndex with
  | none => simp [requireAscending, Types.lastPosition]
  | some previous => simp [requireAscending, Types.lastPosition, UInt8.lt_iff_toNat_lt]

theorem parseSignatures_succ_eq_ok {data : List UInt8} {remaining i : Nat}
    {lastIndex : Option UInt8} {signatures result : List GuardianSignature}
    (fits : 6 + 66 * (i + 1) < usizeLimit) :
    parseSignatures data (remaining + 1) i lastIndex signatures = .ok result ↔
      ∃ signature : GuardianSignature, ChunkAt data (6 + 66 * i) signature.encode ∧
        (∀ previous, Types.lastPosition lastIndex = some previous →
          previous < signature.position) ∧
        parseSignatures data remaining (i + 1) (some signature.guardianIndex)
          (signatures ++ [signature]) = .ok result := by
  have offset : i * signatureEntryLen = 66 * i := by
    rw [signatureEntryLen]
    omega
  rw [parseSignatures, mulUsize_of_lt (by omega), ok_bind, offset, addUsize_of_lt (by omega),
    ok_bind]
  simp only [addUsize_of_lt (show 6 + 66 * i + 1 < usizeLimit by omega),
    addUsize_of_lt (show 6 + 66 * i + 65 < usizeLimit by omega), ok_bind, bind_eq_ok,
    index_eq_ok, requireAscending_eq_ok, slice_eq_ok, Bytes.copyFromSlice_eq_ok,
    getRange_eq_some (show 6 + 66 * i + 1 < 6 + 66 * i + 65 by omega)]
  constructor
  · intro parsed
    rcases parsed with ⟨guardianIndex, indexAt, _, ordered, slice, ⟨_, rsAt⟩, rs, rfl,
      recoveryId, recoveryIdAt, rest⟩
    exact ⟨⟨guardianIndex, rs, recoveryId⟩,
      GuardianSignature.chunkAt_encode.mpr ⟨indexAt, rsAt, recoveryIdAt⟩, ordered, rest⟩
  · intro parts
    rcases parts with ⟨signature, held, ordered, rest⟩
    rcases GuardianSignature.chunkAt_encode.mp held with ⟨indexAt, rsAt, recoveryIdAt⟩
    have width : signature.rs.val.length = 6 + 66 * i + 65 - (6 + 66 * i + 1) := by
      rw [signature.rs.property]
      omega
    exact ⟨signature.guardianIndex, indexAt, ⟨⟩, ordered, signature.rs.val, ⟨width, rsAt⟩,
      signature.rs, rfl, signature.recoveryId, recoveryIdAt, rest⟩

theorem parseSignatures_eq_ok {data : List UInt8} {remaining i : Nat}
    {lastIndex : Option UInt8} {signatures result : List GuardianSignature}
    (fits : 6 + 66 * (i + remaining) < usizeLimit) :
    parseSignatures data remaining i lastIndex signatures = .ok result ↔
      ∃ read : List GuardianSignature, read.length = remaining ∧
        result = signatures ++ read ∧ ChunkAt data (6 + 66 * i) (encodeSignatures read) ∧
        Ascending.After GuardianSignature.position (Types.lastPosition lastIndex) read := by
  induction remaining generalizing i lastIndex signatures with
  | zero =>
      simp only [parseSignatures, Except.ok.injEq, List.length_eq_zero_iff]
      constructor
      · intro finished
        exact ⟨[], rfl, by simp [finished], by simp [ChunkAt], trivial⟩
      · intro finished
        rcases finished with ⟨read, rfl, resultIs, -, -⟩
        simp [resultIs]
  | succ remaining induction =>
      have next : 6 + 66 * i + 66 = 6 + 66 * (i + 1) := by omega
      rw [parseSignatures_succ_eq_ok (by omega)]
      constructor
      · intro parsed
        rcases parsed with ⟨signature, held, ordered, rest⟩
        rcases (induction (by omega)).mp rest with ⟨read, rfl, resultIs, readAt, ascending⟩
        refine ⟨signature :: read, rfl, by simp [resultIs], ?_, ordered, ascending⟩
        rw [encodeSignatures_cons, chunkAt_append, GuardianSignature.encode_length, next]
        exact ⟨held, readAt⟩
      · intro parts
        rcases parts with ⟨read, length, resultIs, readAt, ascending⟩
        cases read with
        | nil => cases length
        | cons signature read =>
            rw [encodeSignatures_cons, chunkAt_append, GuardianSignature.encode_length, next]
              at readAt
            refine ⟨signature, readAt.1, ascending.1, (induction (by omega)).mpr ?_⟩
            exact ⟨read, Nat.succ.inj length, by simp [resultIs], readAt.2, ascending.2⟩

/-! ## The whole VAA -/

theorem eq_encodeBody_iff {data : List UInt8} {body : Types.VaaBody} :
    data = body.encode ↔
      readU32 data 0 = .ok body.timestamp ∧ readU32 data 4 = .ok body.nonce ∧
        readU16 data 8 = .ok body.emitterChain ∧
        getRange data 10 42 = some body.emitterAddress.val ∧
        readU64 data 42 = .ok body.sequence ∧
        ChunkAt data 50 [body.consistencyLevel] ∧
        getFrom data bodyHeaderLen = some body.payload := by
  rw [Types.VaaBody.encode_eq, eq_append_iff, Types.VaaBody.chunkAt_encodeHeader,
    Types.VaaBody.encodeHeader_length, readU32, readU16, readU64, readWord_eq_ok (by decide),
    readWord_eq_ok (by decide), readWord_eq_ok (by decide), readWord_eq_ok (by decide),
    getRange_eq_some (by decide), getFrom_eq_some]
  constructor
  · intro parts
    rcases parts with ⟨⟨timestamp, nonce, chain, address, sequence, level⟩, payload⟩
    have long : bodyHeaderLen ≤ data.length := level.length_le (by simp)
    exact ⟨timestamp, nonce, chain, ⟨body.emitterAddress.property, address⟩, sequence, level,
      long, payload⟩
  · intro parts
    rcases parts with ⟨timestamp, nonce, chain, ⟨_, address⟩, sequence, level, _, payload⟩
    exact ⟨⟨timestamp, nonce, chain, address, sequence, level⟩, payload⟩

namespace ParsedVaa

def ofVaa (syscalls : Syscalls) (vaa : Types.Vaa) : ParsedVaa where
  version := vaa.version
  guardianSetIndex := vaa.guardianSetIndex
  signatures := vaa.signatures
  timestamp := vaa.body.timestamp
  nonce := vaa.body.nonce
  emitterChain := vaa.body.emitterChain
  emitterAddress := vaa.body.emitterAddress
  sequence := vaa.body.sequence
  consistencyLevel := vaa.body.consistencyLevel
  payload := vaa.body.payload
  hash := bodyDigest syscalls vaa.body.encode

variable {syscalls : Syscalls}

theorem bodyStart_lt (count : UInt8) : 6 + 66 * count.toNat < usizeLimit := by
  have := count.toNat_lt
  rw [usizeLimit]
  omega

theorem sigsLen_eq (count : UInt8) :
    (mulUsize count.toNat signatureEntryLen : Checked WormError Nat) =
      .ok (66 * count.toNat) := by
  have small := bodyStart_lt count
  rw [signatureEntryLen, mulUsize_of_lt (by omega), Nat.mul_comm]

theorem bodyStart_eq (count : UInt8) :
    checkedAddUsize 6 (66 * count.toNat) = some (6 + 66 * count.toNat) :=
  checkedAddUsize_of_lt (bodyStart_lt count)

theorem parse_eq_ok {data : List UInt8} {parsed : ParsedVaa} :
    ParsedVaa.parse syscalls data = .ok parsed ↔
      ∃ vaa : Types.Vaa, data = vaa.encode ∧ vaa.WellFormed ∧
        parsed = ofVaa syscalls vaa := by
  simp only [ParsedVaa.parse, bind_eq_ok, require_eq_ok, okOr_eq_ok, sigsLen_eq,
    bodyStart_eq, Except.ok.injEq, Option.some.injEq, exists_eq_left', index_eq_ok,
    slice_eq_ok, sliceFrom_eq_ok, getElem?_eq_some, Types.head?_eq_some,
    Bytes.copyFromSlice_eq_ok, ← getFrom_eq_some]
  constructor
  · intro parsing
    rcases parsing with ⟨version, versionAt, _, supported, guardianSetIndex, indexRead,
      numSignatures, countAt, _, long, signatures, loop, body, bodyRead, _, bodyLong,
      timestamp, timestampRead, nonce, nonceRead, emitterChain, chainRead, addressSlice,
      addressRead, emitterAddress, rfl, sequence, sequenceRead, consistencyLevel, levelAt,
      payload, payloadRead, _, short, finished⟩
    let vaa : Types.Vaa := ⟨version, guardianSetIndex, signatures, ⟨timestamp, nonce,
      emitterChain, emitterAddress, sequence, consistencyLevel, payload⟩⟩
    have bodyAt : body = vaa.body.encode := eq_encodeBody_iff.mpr ⟨timestampRead, nonceRead,
      chainRead, addressRead, sequenceRead, levelAt, payloadRead⟩
    rcases (parseSignatures_eq_ok (by simpa using bodyStart_lt numSignatures)).mp loop with
      ⟨_, length, rfl, signaturesAt, ascending⟩
    have countIs : UInt8.ofNat signatures.length = numSignatures := by
      rw [length, UInt8.ofNat_toNat]
    have few : signatures.length ≤ 255 := by
      have := numSignatures.toNat_lt
      omega
    refine ⟨vaa, ?_, ⟨supported, few, (Ascending.after_none_iff _ _).mp ascending, short⟩, ?_⟩
    · rw [Types.Vaa.encode_eq, eq_append_iff, Types.Vaa.chunkAt_encodeHeader,
        Types.Vaa.encodeHeader_length]
      refine ⟨⟨versionAt, (readWord_eq_ok (by decide)).mp indexRead, ?_, signaturesAt⟩, ?_⟩
      · change ChunkAt data 5 [UInt8.ofNat signatures.length]
        rw [countIs]
        exact countAt
      · rw [← bodyAt, ← (getFrom_eq_some.mp bodyRead).2, ← length]
        rfl
    · rw [ofVaa, ← bodyAt]
      exact (Except.ok.inj finished).symm
  · intro parts
    rcases parts with ⟨vaa, shape, wellFormed, rfl⟩
    rw [Types.Vaa.encode_eq, eq_append_iff, Types.Vaa.chunkAt_encodeHeader,
      Types.Vaa.encodeHeader_length] at shape
    rcases shape with ⟨⟨versionAt, indexAt, countAt, signaturesAt⟩, bodyIs⟩
    have countIs : (UInt8.ofNat vaa.signatures.length).toNat = vaa.signatures.length := by
      have := wellFormed.count
      simp only [UInt8.toNat_ofNat']
      omega
    have loop : parseSignatures data (UInt8.ofNat vaa.signatures.length).toNat 0 none [] =
        .ok vaa.signatures := by
      rw [parseSignatures_eq_ok (by rw [Nat.zero_add]; exact bodyStart_lt _), countIs]
      exact ⟨vaa.signatures, rfl, rfl, signaturesAt,
        (Ascending.after_none_iff _ _).mpr wellFormed.ascending⟩
    have bodyInside : 6 + 66 * vaa.signatures.length ≤ data.length := by
      have total := congrArg List.length bodyIs
      simp only [List.length_drop, Types.VaaBody.encode_length, Types.bodyHeaderLen,
        Types.signatureEntryLen] at total
      omega
    have bodyLong : bodyHeaderLen ≤ vaa.body.encode.length := by
      rw [Types.VaaBody.encode_length]
      exact Nat.le_add_right _ _
    rcases eq_encodeBody_iff.mp (Eq.refl vaa.body.encode) with
      ⟨timestampRead, nonceRead, chainRead, addressRead, sequenceRead, levelAt, payloadRead⟩
    refine ⟨vaa.version, versionAt, ⟨⟩, wellFormed.version, vaa.guardianSetIndex,
      (readWord_eq_ok (by decide)).mpr indexAt, UInt8.ofNat vaa.signatures.length, countAt,
      ⟨⟩, ?_, vaa.signatures, loop, vaa.body.encode, ?_, ⟨⟩, bodyLong, vaa.body.timestamp,
      timestampRead, vaa.body.nonce, nonceRead, vaa.body.emitterChain, chainRead,
      vaa.body.emitterAddress.val, addressRead, vaa.body.emitterAddress, rfl,
      vaa.body.sequence, sequenceRead, vaa.body.consistencyLevel, levelAt, vaa.body.payload,
      payloadRead, ⟨⟩, wellFormed.payload, rfl⟩
    · rw [countIs]
      exact bodyInside
    · rw [countIs, getFrom_eq_some]
      exact ⟨bodyInside, bodyIs⟩

/-- The signed bytes of a VAA: all that follows its header. -/
def bodyBytes (data : List UInt8) : List UInt8 :=
  match data[5]? with
  | some numSignatures => data.drop (6 + 66 * numSignatures.toNat)
  | none => []

theorem bodyBytes_encode {vaa : Types.Vaa} (wellFormed : vaa.WellFormed) :
    bodyBytes vaa.encode = vaa.body.encode := by
  have shape := Types.Vaa.encode_eq vaa
  rw [eq_append_iff, Types.Vaa.chunkAt_encodeHeader, Types.Vaa.encodeHeader_length] at shape
  rcases shape with ⟨⟨_, _, countAt, _⟩, bodyIs⟩
  have countIs : (UInt8.ofNat vaa.signatures.length).toNat = vaa.signatures.length := by
    have := wellFormed.count
    simp only [UInt8.toNat_ofNat']
    omega
  rw [bodyBytes, getElem?_eq_some.mpr countAt]
  simp only [countIs]
  exact bodyIs

/-- The cached digest is the digest of the signed bytes, whatever the header
holds. -/
theorem hash_eq {data : List UInt8} {parsed : ParsedVaa}
    (parsing : ParsedVaa.parse syscalls data = .ok parsed) :
    parsed.hash = bodyDigest syscalls (bodyBytes data) := by
  rcases parse_eq_ok.mp parsing with ⟨vaa, rfl, wellFormed, rfl⟩
  rw [bodyBytes_encode wellFormed]
  rfl

theorem ascending {data : List UInt8} {parsed : ParsedVaa}
    (parsing : ParsedVaa.parse syscalls data = .ok parsed) :
    Ascending GuardianSignature.position parsed.signatures := by
  rcases parse_eq_ok.mp parsing with ⟨vaa, rfl, wellFormed, rfl⟩
  exact wellFormed.ascending

end ParsedVaa

/-! ## Parsing never aborts -/

theorem settles_readWord [MachineWord α] {data : List UInt8} {offset : Nat}
    (fits : offset + MachineWord.width α < usizeLimit) : Settles (readWord α data offset) := by
  rw [readWord, addUsize_of_lt fits, ok_bind]
  apply settles_okOr.bind
  intro slice read
  apply (Bytes.settles_copyFromSlice MachineWord.width_pos (okOr_eq_ok.mp read)).bind
  intro buf _
  exact settles_ok _

theorem settles_requireAscending (lastIndex : Option UInt8) (guardianIndex : UInt8) :
    Settles (requireAscending lastIndex guardianIndex) := by
  cases lastIndex with
  | none => exact settles_ok _
  | some previous => exact settles_require

theorem settles_parseSignatures {data : List UInt8} {remaining i : Nat}
    {lastIndex : Option UInt8} {signatures : List GuardianSignature}
    (fits : 6 + 66 * (i + remaining) < usizeLimit)
    (inside : 6 + 66 * (i + remaining) ≤ data.length) :
    Settles (parseSignatures data remaining i lastIndex signatures) := by
  induction remaining generalizing i lastIndex signatures with
  | zero => exact settles_ok _
  | succ remaining induction =>
      have offset : i * signatureEntryLen = 66 * i := by
        rw [signatureEntryLen]
        omega
      rw [parseSignatures, mulUsize_of_lt (by omega), ok_bind, offset,
        addUsize_of_lt (by omega), ok_bind, index_of_lt (by omega), ok_bind]
      apply (settles_requireAscending _ _).bind
      intro _ _
      rw [addUsize_of_lt (by omega), ok_bind, addUsize_of_lt (by omega), ok_bind,
        slice_of_le (by omega) (by omega), ok_bind, Bytes.copyFromSlice_of_eq (by simp; omega),
        ok_bind, ok_bind, index_of_lt (by omega), ok_bind]
      exact induction (by omega) (by omega)

theorem ParsedVaa.settles_parse (syscalls : Syscalls) (data : List UInt8) :
    Settles (ParsedVaa.parse syscalls data) := by
  rw [parse]
  apply settles_okOr.bind
  intro version _
  apply settles_require.bind
  intro _ _
  rw [readU32]
  apply (settles_readWord (by decide)).bind
  intro guardianSetIndex _
  apply settles_okOr.bind
  intro numSignatures _
  rw [sigsLen_eq, ok_bind]
  apply settles_okOr.bind
  intro bodyStart bodyStartIs
  rw [okOr_eq_ok, bodyStart_eq] at bodyStartIs
  cases bodyStartIs
  apply settles_require.bind
  intro _ long
  rw [require_eq_ok] at long
  have small := bodyStart_lt numSignatures
  apply (settles_parseSignatures (by omega) (by omega)).bind
  intro signatures _
  apply settles_okOr.bind
  intro body _
  apply settles_require.bind
  intro _ bodyLong
  rw [require_eq_ok, bodyHeaderLen] at bodyLong
  rw [readU16, readU64]
  apply (settles_readWord (by decide)).bind
  intro timestamp _
  apply (settles_readWord (by decide)).bind
  intro nonce _
  apply (settles_readWord (by decide)).bind
  intro emitterChain _
  rw [slice_of_le (by decide) (by omega), ok_bind, Bytes.copyFromSlice_of_eq (by simp; omega),
    ok_bind]
  apply (settles_readWord (by decide)).bind
  intro sequence _
  rw [index_of_lt (by omega), ok_bind, bodyHeaderLen, sliceFrom_of_le bodyLong, ok_bind]
  apply settles_require.bind
  intro _ _
  exact settles_ok _

/-- Neither parser aborts: whatever the bytes are, it returns a value or one of
its own errors, and an error unless they encode a well-formed VAA. -/
theorem parsers_settle (syscalls : Syscalls) (bytes : List UInt8) :
    Settles (ParsedVaa.parse syscalls bytes) ∧ Settles (Types.Vaa.parse bytes) ∧
      Settles (Types.parseBody bytes) ∧
      ((¬∃ vaa : Types.Vaa, vaa.WellFormed ∧ vaa.encode = bytes) →
        (∃ error, ParsedVaa.parse syscalls bytes = fail error) ∧
          ∃ error, Types.Vaa.parse bytes = fail error) := by
  refine ⟨ParsedVaa.settles_parse syscalls bytes, Types.Vaa.settles_parse bytes,
    Types.settles_parseBody bytes, ?_⟩
  intro malformed
  refine ⟨(ParsedVaa.settles_parse syscalls bytes).exists_fail ?_,
    (Types.Vaa.settles_parse bytes).exists_fail ?_⟩
  · intro parsed accepted
    rcases ParsedVaa.parse_eq_ok.mp accepted with ⟨vaa, encoded, wellFormed, _⟩
    exact malformed ⟨vaa, wellFormed, encoded.symm⟩
  · intro vaa accepted
    rcases Types.Vaa.parse_eq_ok.mp accepted with ⟨encoded, wellFormed⟩
    exact malformed ⟨vaa, wellFormed, encoded.symm⟩

end WormVerify.OnChain
