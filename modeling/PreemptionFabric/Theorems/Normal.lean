import PreemptionFabric.Theorems.Codec
import PreemptionFabric.Theorems.Validation

/-! How far an image is determined by its state. The decoder takes every byte but zero for true and the encoder writes
    1, so that an accepted image need not be the one its state is saved as. It is that image up to those bytes: same
    length, and every byte of the payload that differs was a boolean, which is now 1. -/

namespace PreemptionFabric
open Parser

/-- A byte as it was read, and as it is written again. -/
def Settles (read written : UInt8) : Prop := written = read ∨ written = 1 ∧ 1 < read

theorem settles_self (bytes : List UInt8) : List.Forall₂ Settles bytes bytes :=
  List.forall₂_same.mpr fun _ _ => .inl rfl

theorem settles_bool (b : UInt8) : Settles b (if (b != 0) = true then 1 else 0) := by
  by_cases zero : b = 0
  · rw [zero]
    exact .inl rfl
  · rw [if_pos (bne_iff_ne.mpr zero)]
    have positive : b.toNat ≠ 0 := fun value => zero (UInt8.toNat_inj.mp value)
    rcases Nat.lt_or_ge 1 b.toNat with above | below
    · exact .inr ⟨rfl, UInt8.lt_iff_toNat_lt.mpr above⟩
    · exact .inl (UInt8.toNat_inj.mp (by rw [UInt8.toNat_one]; omega))

/-! ### Fields -/

/-- The bytes read for a value settle as the bytes it is written as. -/
abbrev Renders {α : Type} (p : ImageParser α) (write : α → List UInt8) : Prop :=
  Rewrites Settles p fun x written => written = write x

theorem readU32_renders : Renders readU32 ByteWriter.u32 :=
  Rewrites.sticky fun found => ⟨_, _, ByteReader.eq_of_u32 found, settles_self _, rfl⟩

theorem readU64_renders : Renders readU64 ByteWriter.u64 :=
  Rewrites.sticky fun found => ⟨_, _, ByteReader.eq_of_u64 found, settles_self _, rfl⟩

theorem readBool_renders : Renders readBool ByteWriter.bool := by
  have byte : Renders readU8 fun b => ByteWriter.bool (b != 0) :=
    Rewrites.sticky fun found => ⟨_, _, ByteReader.eq_of_u8 found, .cons (settles_bool _) .nil, rfl⟩
  exact byte.next fun b => Rewrites.pure (List.append_nil _)

theorem readEnum_renders {α : Type} [DecidableEq α] [Enumeration α] :
    Renders (readEnum (α := α)) fun a => ByteWriter.u32 (Enumeration.code a) := by
  refine readU32_renders.next fun e => ?_
  split
  next a found =>
    have same := Enumeration.code_of_ofCode found
    exact Rewrites.pure (by simp only [same, List.append_nil])
  next => exact Rewrites.throw _ _

theorem decodeSafePoint_renders : Renders decodeSafePoint encodeSafePoint := by
  iterate 7 refine readU64_renders.next fun _ => ?_
  iterate 2 refine readBool_renders.next fun _ => ?_
  refine readEnum_renders.next fun _ => readU64_renders.next fun _ => Rewrites.pure ?_
  simp only [encodeSafePoint, List.append_assoc, List.append_nil]

theorem decodeReceipt_renders : Renders decodeReceipt encodeReceipt := by
  refine readEnum_renders.next fun _ => ?_
  iterate 5 refine readU64_renders.next fun _ => ?_
  refine Rewrites.pure ?_
  simp only [encodeReceipt, List.append_assoc, List.append_nil]

theorem decodeSuperseded_renders : Renders decodeSuperseded encodeSuperseded := by
  iterate 2 refine readU64_renders.next fun _ => ?_
  refine readEnum_renders.next fun _ => Rewrites.pure ?_
  simp only [encodeSuperseded, List.append_assoc, List.append_nil]

/-- The encoder writes the version of the format, whatever the state says. -/
theorem decodeFields_rewrites :
    Rewrites Settles decodeFields fun s written => s.formatVersion = persistenceVersion → written = encodeFields s := by
  refine readU32_renders.next fun _ => ?_
  iterate 11 refine readU64_renders.next fun _ => ?_
  refine readEnum_renders.next fun _ => ?_
  iterate 2 refine readU64_renders.next fun _ => ?_
  refine readBool_renders.next fun _ => ?_
  refine readU64_renders.next fun _ => ?_
  refine readBool_renders.next fun _ => ?_
  iterate 3 refine readU64_renders.next fun _ => ?_
  refine readBool_renders.next fun _ => ?_
  refine readU64_renders.next fun _ => ?_
  refine readBool_renders.next fun _ => ?_
  iterate 3 refine readU64_renders.next fun _ => ?_
  refine Rewrites.pure ?_
  rintro rfl
  unfold encodeFields
  simp only [List.append_assoc, List.append_nil]

/-! ### Images -/

theorem decodeList_renders {α : Type} {element : ImageParser α} {write : α → List UInt8} (h : Renders element write)
    {c c' : Cursor} {xs : List α} (ran : runFrom (decodeList element) c = (.ok xs, c')) :
    c.ok = true ∧ ∃ bytes, c.rest = bytes ++ c'.rest ∧ List.Forall₂ Settles bytes (encodeList write xs) := by
  obtain ⟨present, count, c₁, counted, looped⟩ := decodeList_ok ran
  obtain ⟨present₁, bytes, _, consumed, related, length, rfl⟩ := h.many count.toNat looped present
  obtain ⟨present₀, front, _, consumed₀, related₀, rfl⟩ := readU32_renders counted present₁
  refine ⟨present₀, front ++ bytes, ?_, ?_⟩
  · rw [consumed₀, consumed, List.append_assoc]
  · rw [encodeList, length, UInt32.ofNat_toNat]
    exact List.rel_append related₀ related

/-- The fixed fields are written the same, whatever the lists hold. -/
theorem encodeFields_lists (s : PersistentState) (points : List PersistentSafePoint)
    (receipts : List PersistentReleaseReceipt) (history : List PersistentSuperseded) :
    encodeFields { s with safePoints := points, releaseReceipts := receipts, history := history } =
      encodeFields s := by
  unfold encodeFields
  rfl

theorem decodePayload_settles {payload : List UInt8} {st : PersistentState} {c : Cursor}
    (read : runFrom decodePayload ⟨payload, true⟩ = (.ok st, c)) (version : st.formatVersion = persistenceVersion) :
    List.Forall₂ Settles payload (encodePayload st) := by
  obtain ⟨s, c₁, c₂, c₃, fields, readPoints, readReceipts, readHistory, empty, same⟩ := decodePayload_ok read
  obtain ⟨_, bytes₃, consumed₃, settled₃⟩ := decodeList_renders decodeSuperseded_renders readHistory
  obtain ⟨_, bytes₂, consumed₂, settled₂⟩ := decodeList_renders decodeReceipt_renders readReceipts
  obtain ⟨present, bytes₁, consumed₁, settled₁⟩ := decodeList_renders decodeSafePoint_renders readPoints
  obtain ⟨_, bytes₀, _, consumed₀, settled₀, written⟩ := decodeFields_rewrites fields present
  have payload_eq : payload = bytes₀ ++ bytes₁ ++ bytes₂ ++ bytes₃ := by
    rw [show payload = _ from consumed₀, consumed₁, consumed₂, consumed₃, empty]
    simp only [List.append_assoc, List.append_nil]
  have current : s.formatVersion = persistenceVersion := by
    rw [← version, same]
  have front : encodeFields st = encodeFields s := by
    rw [same, encodeFields_lists]
  rw [written current, ← front] at settled₀
  rw [payload_eq]
  exact List.rel_append (List.rel_append (List.rel_append settled₀ settled₁) settled₂) settled₃

/-- An accepted image is, up to the spelling of true and the checksum, the image that its state is saved as, and that
    image is accepted as the same state. -/
theorem accepted_settles (bytes : List UInt8) (st : PersistentState) (accepted : decode bytes = .ok st) :
    decode (encode st) = .ok st ∧ ∃ payload, bytes = checksummed (encodeSealed payload) ∧
      encode st = checksummed (encodeSealed (encodePayload st)) ∧ List.Forall₂ Settles payload (encodePayload st) := by
  have valid := validImage_of_decode accepted
  obtain ⟨payload, c, opened, read⟩ := opened_of_decode accepted
  obtain ⟨short, rfl⟩ := eq_of_sealedPayload opened
  have settled := decodePayload_settles read valid.version
  have fits : (encodePayload st).length < 2 ^ 32 := by
    rw [← settled.length_eq]
    exact short
  have versioned : st.versioned = st := by
    rw [PersistentState.versioned, ← valid.version]
  refine ⟨?_, payload, rfl, encode_eq fits, settled⟩
  have kept := decode_encode_of_valid fits (by rw [versioned]; exact validateState_ok.mpr valid)
  rwa [versioned] at kept

/-- The payload of an image at RESOURCES_RELEASED whose first boolean is spelled 2. -/
def loosePayload : List UInt8 := (encodePayload releasedImage).set 112 2

theorem decode_loosePayload : decode (checksummed (encodeSealed loosePayload)) = .ok releasedImage.versioned := by
  have opened : sealedPayload (checksummed (encodeSealed loosePayload)) = .ok loosePayload := by
    refine sealedPayload_encodeSealed ?_
    rw [loosePayload, List.length_set, length_encodePayload]
    decide
  have read : (decodePayload.runFrom ⟨loosePayload, true⟩).1 = .ok releasedImage.versioned := by decide +kernel
  rw [decode, opened]
  simp only [read]
  exact if_pos (by decide)

theorem accepted_settles_loose :
    loosePayload ≠ encodePayload releasedImage.versioned ∧
      ∃ payload, checksummed (encodeSealed loosePayload) = checksummed (encodeSealed payload) ∧
        List.Forall₂ Settles payload (encodePayload releasedImage.versioned) := by
  obtain ⟨_, payload, sealed, _, settled⟩ := accepted_settles _ _ decode_loosePayload
  exact ⟨by decide +kernel, payload, sealed, settled⟩

end PreemptionFabric
