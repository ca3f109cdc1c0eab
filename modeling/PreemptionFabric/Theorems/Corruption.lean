import PreemptionFabric.Theorems.Checksum
import PreemptionFabric.Theorems.Codec
import PreemptionFabric.Theorems.Framing

/-! Corruption is detected. The checksum is a cyclic redundancy check of 32 bits, so two checksummed byte strings that
    differ inside four consecutive bytes only are equal; and both formats state their own length, so no accepted byte
    string is a proper prefix of another. -/

namespace PreemptionFabric

/-! ### Checksummed byte strings -/

/-- All checksummed byte strings leave the same register. -/
theorem feed_checksummed (data : List UInt8) :
    Crc.feed crc32Word crc32Mask (checksummed data) = (Crc.shift crc32Word)^[32] crc32Mask := by
  rw [checksummed, Crc.feed_append, ByteWriter.u32, crc32_toBitVec]
  exact Crc.feed_split _ _ rfl (by decide)

/-! ### Damage -/

/-- The bytes `b` damaged: cut short, extended, or changed inside four consecutive bytes. -/
inductive Damaged (b : List UInt8) : List UInt8 → Prop
  | cut {n : Nat} (short : n < b.length) : Damaged b (b.take n)
  | extended {more : List UInt8} (some : more ≠ []) : Damaged b (b ++ more)
  | changed {b' : List UInt8} (start : Nat) (length : b'.length = b.length) (other : b' ≠ b)
      (outside : ∀ i, i < start ∨ start + 4 ≤ i → b'[i]? = b[i]?) : Damaged b b'

section
variable {b b' : List UInt8}

theorem eq_of_changed {data data' : List UInt8} (sealed : b = checksummed data) (sealed' : b' = checksummed data')
    (start : Nat) (length : b'.length = b.length) (outside : ∀ i, i < start ∨ start + 4 ≤ i → b'[i]? = b[i]?) :
    b' = b := by
  have front : b'.take start = b.take start := by
    refine List.ext_getElem? fun i => ?_
    rw [List.getElem?_take, List.getElem?_take]
    split
    next before => exact outside i (.inl before)
    next => rfl
  have back : b'.drop (start + 4) = b.drop (start + 4) := by
    refine List.ext_getElem? fun i => ?_
    rw [List.getElem?_drop, List.getElem?_drop]
    exact outside _ (.inr (Nat.le_add_right _ _))
  have parts (c : List UInt8) : c = c.take start ++ ((c.drop start).take 4 ++ c.drop (start + 4)) := by
    rw [← List.drop_drop, List.take_append_drop, List.take_append_drop]
  have size : ((b'.drop start).take 4).length = ((b.drop start).take 4).length := by
    simp only [List.length_take, List.length_drop, length]
  have bound : ((b.drop start).take 4).length * 8 ≤ 32 := by
    rw [List.length_take]
    omega
  have same : Crc.feed crc32Word crc32Mask b = Crc.feed crc32Word crc32Mask b' := by
    rw [sealed, sealed', feed_checksummed, feed_checksummed]
  rw [parts b, parts b', front, back] at same
  have window := Crc.eq_of_burst crc32Word_msb size bound same
  rw [parts b, parts b', front, back, window]

/-- A format of checksummed byte strings with a word at `offset` that states their length, less `overhead`. -/
structure SelfDescribing (accepts : List UInt8 → Prop) (offset overhead : Nat) : Prop where
  sealed : ∀ {b}, accepts b → ∃ data, b = checksummed data
  length : ∀ {b}, accepts b → ∃ size rest, b.drop offset = ByteWriter.u32 size ++ rest ∧ b.length = overhead + size.toNat

variable {accepts : List UInt8 → Prop} {offset overhead : Nat} {more : List UInt8}

/-- No byte string of the format is a proper prefix of another. -/
theorem SelfDescribing.alone (format : SelfDescribing accepts offset overhead) (accepted : accepts b)
    (accepted' : accepts (b ++ more)) : more = [] := by
  obtain ⟨size, rest, field, length⟩ := format.length accepted
  obtain ⟨size', rest', field', length'⟩ := format.length accepted'
  have reach : offset ≤ b.length := by
    have count := congrArg List.length field
    rw [List.length_drop, List.length_append, ByteWriter.length_u32] at count
    omega
  rw [List.drop_append_of_le_length reach, field, List.append_assoc] at field'
  have same : size = size' := u32_inj (List.append_inj field' (by simp)).1
  rw [List.length_append, ← same, ← length] at length'
  exact List.length_eq_zero_iff.mp (by omega)

/-- No byte string of the format is damaged into another. -/
theorem SelfDescribing.rejects (format : SelfDescribing accepts offset overhead) (intact : accepts b)
    (damaged : Damaged b b') : ¬accepts b' := by
  intro accepted
  cases damaged with
  | @cut n short =>
    rw [← List.take_append_drop n b] at intact
    have all : b.length ≤ n := List.drop_eq_nil_iff.mp (format.alone accepted intact)
    omega
  | extended some => exact some (format.alone intact accepted)
  | changed start length other outside =>
    obtain ⟨data, front⟩ := format.sealed intact
    obtain ⟨data', front'⟩ := format.sealed accepted
    exact other (eq_of_changed front front' start length outside)

end

/-! ### Images and frames -/

theorem images_selfDescribing : SelfDescribing (fun b => ∃ st, decode b = .ok st) 8 (headerSize + trailerSize) where
  sealed := by
    rintro b ⟨st, accepted⟩
    obtain ⟨payload, _, opened, _⟩ := opened_of_decode accepted
    exact ⟨encodeSealed payload, (eq_of_sealedPayload opened).2⟩
  length := by
    rintro b ⟨st, accepted⟩
    obtain ⟨payload, _, opened, _⟩ := opened_of_decode accepted
    obtain ⟨fits, image⟩ := eq_of_sealedPayload opened
    refine ⟨UInt32.ofNat payload.length, payload ++ ByteWriter.u32 (crc32 (encodeSealed payload)), ?_, ?_⟩
    · rw [image, checksummed, drop_eight_encodeSealed]
    · rw [image, length_checksummed, length_encodeSealed, UInt32.toNat_ofNat', Nat.mod_eq_of_lt fits]
      simp only [trailerSize]
      omega

theorem frames_selfDescribing : SelfDescribing (fun b => ∃ m, decodeFrame b = .ok m) 16 (frameHeaderSize + 4) where
  sealed := by
    rintro b ⟨m, accepted⟩
    obtain ⟨h, body, _, frame, _⟩ := decodeFrame_ok accepted
    exact ⟨h.bytes ++ body, frame⟩
  length := by
    rintro b ⟨m, accepted⟩
    obtain ⟨h, body, _, frame, size, _⟩ := decodeFrame_ok accepted
    refine ⟨h.bodyLen, body ++ ByteWriter.u32 (crc32 (h.bytes ++ body)), ?_, ?_⟩
    · rw [frame, checksummed_frame, h.drop_bodyLen]
    · rw [frame, length_checksummed, List.length_append, h.length_bytes, size]
      omega

/-- Damage to the image of a state, or to the frame of a message, that is read back is detected. -/
theorem damage_rejected :
    (∀ s st b, decode (encode s) = .ok st → Damaged (encode s) b → ∃ e, decode b = .error e) ∧
    ∀ m frame b, encodeFrame m = .ok frame → decodeFrame frame = .ok m → Damaged frame b →
      ∃ e, decodeFrame b = .error e := by
  constructor
  · intro s st b read damaged
    have rejected := images_selfDescribing.rejects ⟨st, read⟩ damaged
    cases result : decode b with
    | error e => exact ⟨e, rfl⟩
    | ok st' => exact absurd ⟨st', result⟩ rejected
  · intro m frame b _ read damaged
    have rejected := frames_selfDescribing.rejects ⟨m, read⟩ damaged
    cases result : decodeFrame b with
    | error e => exact ⟨e, rfl⟩
    | ok m' => exact absurd ⟨m', result⟩ rejected

/-- The image of a release with its first byte changed, and the frame of a cancellation cut after its header. -/
theorem damage_rejected_released :
    (∃ e, decode ((encode releasedImage).set 0 0) = .error e) ∧
      ∃ frame, encodeFrame cancelMessage = .ok frame ∧ ∃ e, decodeFrame (frame.take frameHeaderSize) = .error e := by
  have begins : (encode releasedImage)[0]? = some 0x50 := by
    rcases encode_cases releasedImage with empty | whole
    · have read := decode_releasedImage
      rw [empty] at read
      cases read
    · rw [whole]
      rfl
  have size : 0 < (encode releasedImage).length := by
    by_contra none
    rw [List.getElem?_eq_none (by omega)] at begins
    cases begins
  obtain ⟨frame, encoded, decoded, _⟩ := cancelMessage_sendable.received
  refine ⟨damage_rejected.1 releasedImage _ _ decode_releasedImage (.changed 0 ?_ ?_ ?_), frame, encoded,
    damage_rejected.2 cancelMessage frame _ encoded decoded (.cut ?_)⟩
  · rw [List.length_set]
  · intro same
    have first := congrArg (fun b => b[0]?) same
    simp only [begins, List.getElem?_set_self size] at first
    cases first
  · rintro i (before | after)
    · cases before
    · exact List.getElem?_set_ne (by omega)
  · obtain ⟨h, body, _, whole, _⟩ := decodeFrame_ok decoded
    rw [whole, length_checksummed, List.length_append, h.length_bytes]
    omega

end PreemptionFabric
