import PreemptionFabric.Theorems.Validation

/-! The round trip of the persisted image: the decoder reads back the fields, the lists and the seal that the
    encoder wrote, and then answers what the validation says. -/

namespace PreemptionFabric
open Parser

/-! ### Fields -/

theorem readU8_reads (v : UInt8) : Reads readU8 (ByteWriter.u8 v) v := Reads.sticky (ByteReader.u8_u8 v)

theorem readU32_reads (v : UInt32) : Reads readU32 (ByteWriter.u32 v) v := Reads.sticky (ByteReader.u32_u32 v)

theorem readU64_reads (v : UInt64) : Reads readU64 (ByteWriter.u64 v) v := Reads.sticky (ByteReader.u64_u64 v)

theorem readBool_reads (v : Bool) : Reads readBool (ByteWriter.bool v) v := by
  refine (readU8_reads _).last ?_
  cases v with
  | false => exact Reads.pure false
  | true => exact Reads.pure true

theorem readEnum_reads {α : Type} [DecidableEq α] [Enumeration α] (a : α) :
    Reads readEnum (ByteWriter.u32 (Enumeration.code a)) a := by
  refine (readU32_reads _).last ?_
  rw [Enumeration.ofCode_code]
  exact Reads.pure a

/-! ### Elements -/

theorem decodeSafePoint_reads (sp : PersistentSafePoint) : Reads decodeSafePoint (encodeSafePoint sp) sp := by
  simp only [encodeSafePoint, List.append_assoc]
  iterate 7 refine (readU64_reads _).bind ?_
  iterate 2 refine (readBool_reads _).bind ?_
  refine (readEnum_reads _).bind ?_
  exact (readU64_reads _).last (Reads.pure _)

theorem decodeReceipt_reads (rcpt : PersistentReleaseReceipt) : Reads decodeReceipt (encodeReceipt rcpt) rcpt := by
  simp only [encodeReceipt, List.append_assoc]
  refine (readEnum_reads _).bind ?_
  iterate 4 refine (readU64_reads _).bind ?_
  exact (readU64_reads _).last (Reads.pure _)

theorem decodeSuperseded_reads (h : PersistentSuperseded) : Reads decodeSuperseded (encodeSuperseded h) h := by
  simp only [encodeSuperseded, List.append_assoc]
  iterate 2 refine (readU64_reads _).bind ?_
  exact (readEnum_reads _).last (Reads.pure _)

/-- The state that the fixed fields of an image stand for. -/
def PersistentState.fields (s : PersistentState) : PersistentState :=
  { s with formatVersion := persistenceVersion, safePoints := [], releaseReceipts := [], history := [] }

theorem decodeFields_reads (s : PersistentState) : Reads decodeFields (encodeFields s) s.fields := by
  unfold encodeFields
  simp only [List.append_assoc]
  refine (readU32_reads _).bind ?_
  iterate 11 refine (readU64_reads _).bind ?_
  refine (readEnum_reads _).bind ?_
  iterate 2 refine (readU64_reads _).bind ?_
  refine (readBool_reads _).bind ?_
  refine (readU64_reads _).bind ?_
  refine (readBool_reads _).bind ?_
  iterate 3 refine (readU64_reads _).bind ?_
  refine (readBool_reads _).bind ?_
  refine (readU64_reads _).bind ?_
  refine (readBool_reads _).bind ?_
  iterate 2 refine (readU64_reads _).bind ?_
  exact (readU64_reads _).last (Reads.pure _)

/-! ### Lists -/

section Lists
variable {α : Type} {element : ImageParser α} {write : α → List UInt8}

theorem decodeList_reads {xs : List α} (h : ∀ x, Reads element (write x) x) (fits : xs.length < 2 ^ 32) :
    Reads (decodeList element) (encodeList write xs) xs := by
  have count : (UInt32.ofNat xs.length).toNat = xs.length := by
    rw [UInt32.toNat_ofNat']
    exact Nat.mod_eq_of_lt fits
  have elements : Reads (Parser.many element (UInt32.ofNat xs.length).toNat) (xs.flatMap write) xs := by
    rw [count]
    exact Reads.many fun x _ => h x
  refine (readU32_reads _).bind (elements.last ?_)
  exact Reads.isOk (Reads.pure xs)

theorem length_encodeList {k : Nat} (xs : List α) (h : ∀ x, (write x).length = k) :
    (encodeList write xs).length = 4 + xs.length * k := by
  have elements : (xs.flatMap write).length = xs.length * k := by
    induction xs with
    | nil => simp
    | cons x xs ih => rw [List.flatMap_cons, List.length_append, ih, h, List.length_cons, Nat.succ_mul, Nat.add_comm]
  rw [encodeList, List.length_append, ByteWriter.length_u32, elements]

end Lists

/-! ### The payload -/

/-- The image that a state is read back as: the same state under the current version. -/
def PersistentState.versioned (s : PersistentState) : PersistentState := { s with formatVersion := persistenceVersion }

theorem length_encodeFields (s : PersistentState) : (encodeFields s).length = 180 := by
  unfold encodeFields
  simp only [List.length_append, ByteWriter.length_u32, ByteWriter.length_u64, ByteWriter.length_bool]

/-- The size of a payload: the fixed fields, and 70, 44 and 20 bytes for the elements of its lists. -/
theorem length_encodePayload (s : PersistentState) :
    (encodePayload s).length =
      192 + s.safePoints.length * 70 + s.releaseReceipts.length * 44 + s.history.length * 20 := by
  have points := length_encodeList s.safePoints fun sp => show (encodeSafePoint sp).length = 70 by simp [encodeSafePoint]
  have receipts := length_encodeList s.releaseReceipts fun rcpt =>
    show (encodeReceipt rcpt).length = 44 by simp [encodeReceipt]
  have entries := length_encodeList s.history fun h => show (encodeSuperseded h).length = 20 by simp [encodeSuperseded]
  rw [encodePayload, List.length_append, List.length_append, List.length_append, length_encodeFields, points, receipts,
    entries]
  omega

theorem lengths_lt {s : PersistentState} (fits : (encodePayload s).length < 2 ^ 32) :
    s.safePoints.length < 2 ^ 32 ∧ s.releaseReceipts.length < 2 ^ 32 ∧ s.history.length < 2 ^ 32 := by
  rw [length_encodePayload] at fits
  omega

theorem decodePayload_encodePayload {s : PersistentState} (fits : (encodePayload s).length < 2 ^ 32) :
    decodePayload.runFrom ⟨encodePayload s, true⟩ = (.ok s.versioned, ⟨[], true⟩) := by
  obtain ⟨points, receipts, entries⟩ := lengths_lt fits
  have fields := decodeFields_reads s
  have readPoints := decodeList_reads decodeSafePoint_reads points
  have readReceipts := decodeList_reads decodeReceipt_reads receipts
  have readHistory := decodeList_reads decodeSuperseded_reads entries []
  rw [List.append_nil] at readHistory
  rw [decodePayload, encodePayload, List.append_assoc, List.append_assoc, runFrom_bind, fields]
  simp only
  rw [runFrom_bind, readPoints]
  simp only
  rw [runFrom_bind, readReceipts]
  simp only
  rw [runFrom_bind, readHistory]
  rfl

/-! ### The size of a payload -/

theorem readU8_takes : Takes readU8 1 := by
  refine Takes.sticky fun found => ?_
  rw [ByteReader.eq_of_u8 found, List.length_append, ByteWriter.length_u8]

theorem readU32_takes : Takes readU32 4 := by
  refine Takes.sticky fun found => ?_
  rw [ByteReader.eq_of_u32 found, List.length_append, ByteWriter.length_u32]

theorem readU64_takes : Takes readU64 8 := by
  refine Takes.sticky fun found => ?_
  rw [ByteReader.eq_of_u64 found, List.length_append, ByteWriter.length_u64]

theorem readBool_takes : Takes readBool 1 := readU8_takes.bind (by decide) fun _ => Takes.pure _

theorem readEnum_takes {α : Type} [DecidableEq α] [Enumeration α] : Takes (readEnum (α := α)) 4 := by
  refine readU32_takes.bind (by decide) fun e => ?_
  cases Enumeration.ofCode (α := α) e with
  | none => exact Takes.throw _ _
  | some a => exact Takes.pure a

theorem decodeSafePoint_takes : Takes decodeSafePoint 70 := by
  iterate 7 refine readU64_takes.bind (by decide) fun _ => ?_
  iterate 2 refine readBool_takes.bind (by decide) fun _ => ?_
  refine readEnum_takes.bind (by decide) fun _ => ?_
  exact readU64_takes.bind (by decide) fun _ => Takes.pure _

theorem decodeReceipt_takes : Takes decodeReceipt 44 := by
  refine readEnum_takes.bind (by decide) fun _ => ?_
  iterate 4 refine readU64_takes.bind (by decide) fun _ => ?_
  exact readU64_takes.bind (by decide) fun _ => Takes.pure _

theorem decodeSuperseded_takes : Takes decodeSuperseded 20 := by
  iterate 2 refine readU64_takes.bind (by decide) fun _ => ?_
  exact readEnum_takes.bind (by decide) fun _ => Takes.pure _

theorem decodeFields_takes : Takes decodeFields 180 := by
  refine readU32_takes.bind (by decide) fun _ => ?_
  iterate 11 refine readU64_takes.bind (by decide) fun _ => ?_
  refine readEnum_takes.bind (by decide) fun _ => ?_
  iterate 2 refine readU64_takes.bind (by decide) fun _ => ?_
  refine readBool_takes.bind (by decide) fun _ => ?_
  refine readU64_takes.bind (by decide) fun _ => ?_
  refine readBool_takes.bind (by decide) fun _ => ?_
  iterate 3 refine readU64_takes.bind (by decide) fun _ => ?_
  refine readBool_takes.bind (by decide) fun _ => ?_
  refine readU64_takes.bind (by decide) fun _ => ?_
  refine readBool_takes.bind (by decide) fun _ => ?_
  iterate 2 refine readU64_takes.bind (by decide) fun _ => ?_
  exact readU64_takes.bind (by decide) fun _ => Takes.pure _

/-- A list that is read to its end leaves the flag set. -/
theorem decodeList_ok {α : Type} {element : ImageParser α} {c c' : Cursor} {xs : List α}
    (ran : runFrom (decodeList element) c = (.ok xs, c')) :
    c'.ok = true ∧ ∃ count c₁, runFrom readU32 c = (.ok count, c₁) ∧
      runFrom (Parser.many element count.toNat) c₁ = (.ok xs, c') := by
  obtain ⟨count, c₁, counted, looping⟩ := runFrom_bind_ok ran
  obtain ⟨ys, c₂, looped, checking⟩ := runFrom_bind_ok looping
  obtain ⟨flag, c₃, asked, done⟩ := runFrom_bind_ok checking
  cases asked
  split at done
  next present =>
    cases done
    exact ⟨present, count, c₁, counted, looped⟩
  next => cases done

/-- A payload that is read to its end is its fields and its three lists, one after the other. -/
theorem decodePayload_ok {c c' : Cursor} {st : PersistentState} (read : runFrom decodePayload c = (.ok st, c')) :
    ∃ s c₁ c₂ c₃, runFrom decodeFields c = (.ok s, c₁) ∧
      runFrom (decodeList decodeSafePoint) c₁ = (.ok st.safePoints, c₂) ∧
      runFrom (decodeList decodeReceipt) c₂ = (.ok st.releaseReceipts, c₃) ∧
      runFrom (decodeList decodeSuperseded) c₃ = (.ok st.history, c') ∧ c'.rest = [] ∧
      st = { s with safePoints := st.safePoints, releaseReceipts := st.releaseReceipts, history := st.history } := by
  obtain ⟨s, c₁, fields, read⟩ := runFrom_bind_ok read
  obtain ⟨points, c₂, readPoints, read⟩ := runFrom_bind_ok read
  obtain ⟨receipts, c₃, readReceipts, read⟩ := runFrom_bind_ok read
  obtain ⟨history, c₄, readHistory, read⟩ := runFrom_bind_ok read
  obtain ⟨ended, c₅, asked, done⟩ := runFrom_bind_ok read
  cases asked
  split at done
  next empty =>
    cases done
    exact ⟨s, c₁, c₂, c₃, fields, readPoints, readReceipts, readHistory, List.isEmpty_iff.mp empty, rfl⟩
  next => cases done

theorem decodeList_takes {α : Type} {element : ImageParser α} {k : Nat} (h : Takes element k) {c c' : Cursor}
    {xs : List α} (ran : runFrom (decodeList element) c = (.ok xs, c')) :
    c.ok = true ∧ c.rest.length = 4 + xs.length * k + c'.rest.length := by
  obtain ⟨present, count, c₁, counted, looped⟩ := decodeList_ok ran
  obtain ⟨present₁, length₁⟩ := h.many _ looped present
  obtain ⟨present₀, length₀⟩ := readU32_takes counted present₁
  exact ⟨present₀, by omega⟩

/-- A payload that the decoder reads has the size of the payload of what it reads. -/
theorem length_of_decodePayload {payload : List UInt8} {st : PersistentState} {c : Cursor}
    (read : runFrom decodePayload ⟨payload, true⟩ = (.ok st, c)) : payload.length = (encodePayload st).length := by
  obtain ⟨s, c₁, c₂, c₃, fields, readPoints, readReceipts, readHistory, empty, _⟩ := decodePayload_ok read
  obtain ⟨_, length₃⟩ := decodeList_takes decodeSuperseded_takes readHistory
  obtain ⟨_, length₂⟩ := decodeList_takes decodeReceipt_takes readReceipts
  obtain ⟨present, length₁⟩ := decodeList_takes decodeSafePoint_takes readPoints
  obtain ⟨_, length₀⟩ := decodeFields_takes fields present
  have nothing : c.rest.length = 0 := List.length_eq_zero_iff.mpr empty
  rw [length_encodePayload]
  simp only at length₀ ⊢
  omega

/-! ### The seal -/

theorem length_encodeSealed (payload : List UInt8) : (encodeSealed payload).length = headerSize + payload.length := by
  simp [encodeSealed, magic, headerSize]
  omega

theorem drop_four_encodeSealed (payload trailer : List UInt8) :
    (encodeSealed payload ++ trailer).drop 4 = ByteWriter.u32 persistenceVersion ++
      (ByteWriter.u32 (UInt32.ofNat payload.length) ++ (payload ++ trailer)) := by
  simp [encodeSealed, magic]

theorem drop_eight_encodeSealed (payload trailer : List UInt8) :
    (encodeSealed payload ++ trailer).drop 8 =
      ByteWriter.u32 (UInt32.ofNat payload.length) ++ (payload ++ trailer) := by
  have later : (encodeSealed payload ++ trailer).drop 8 = ((encodeSealed payload ++ trailer).drop 4).drop 4 := by
    rw [List.drop_drop]
  rw [later, drop_four_encodeSealed, List.drop_left' (ByteWriter.length_u32 _)]

theorem drop_header_encodeSealed (payload trailer : List UInt8) :
    (encodeSealed payload ++ trailer).drop headerSize = payload ++ trailer := by
  have later : (encodeSealed payload ++ trailer).drop headerSize =
      ((encodeSealed payload ++ trailer).drop 8).drop 4 := by
    rw [List.drop_drop]
    rfl
  rw [later, drop_eight_encodeSealed, List.drop_left' (ByteWriter.length_u32 _)]

theorem sealedPayload_encodeSealed {payload : List UInt8} (fits : payload.length < 2 ^ 32) :
    sealedPayload (encodeSealed payload ++ ByteWriter.u32 (crc32 (encodeSealed payload))) = .ok payload := by
  have count : (UInt32.ofNat payload.length).toNat = payload.length := by
    rw [UInt32.toNat_ofNat']
    exact Nat.mod_eq_of_lt fits
  have front := length_encodeSealed payload
  generalize crc : crc32 (encodeSealed payload) = c
  have total : (encodeSealed payload ++ ByteWriter.u32 c).length = headerSize + payload.length + trailerSize := by
    rw [List.length_append, front, ByteWriter.length_u32]
    rfl
  have long : ¬(encodeSealed payload ++ ByteWriter.u32 c).length < headerSize + trailerSize := by
    rw [total]
    omega
  have begins : (encodeSealed payload ++ ByteWriter.u32 c).take 4 = magic := rfl
  have trailer : (encodeSealed payload ++ ByteWriter.u32 c).drop (headerSize + payload.length) =
      ByteWriter.u32 c ++ [] := by
    rw [← front, List.drop_left, List.append_nil]
  have covered : (encodeSealed payload ++ ByteWriter.u32 c).take (headerSize + payload.length) =
      encodeSealed payload := by
    rw [← front, List.take_left]
  rw [sealedPayload, if_neg long, if_neg (not_not_intro begins), drop_four_encodeSealed, drop_eight_encodeSealed]
  simp only [ByteReader.u32_u32, ne_eq, not_true_eq_false, if_false, count, total, Nat.add_sub_cancel, trailer,
    covered, crc, drop_header_encodeSealed, List.take_left]

/-- An image whose seal is intact is the seal of its payload. -/
theorem eq_of_sealedPayload {bytes payload : List UInt8} (opened : sealedPayload bytes = .ok payload) :
    payload.length < 2 ^ 32 ∧ bytes = checksummed (encodeSealed payload) := by
  rw [sealedPayload] at opened
  split_ifs at opened with short foreign
  split at opened
  next version r₁ size r₂ readVersion readSize =>
    simp only at opened
    split_ifs at opened with outdated wrong
    split at opened
    next crc r₃ readCrc =>
      split_ifs at opened with damaged
      have total : headerSize + size.toNat + trailerSize = bytes.length := not_not.mp wrong
      have front : headerSize + size.toNat + trailerSize - trailerSize = headerSize + size.toNat := Nat.add_sub_cancel ..
      rw [front] at readCrc damaged
      have taken : (bytes.drop headerSize).take size.toNat = payload := Except.ok.inj opened
      have count : payload.length = size.toNat := by
        rw [← taken, List.length_take, List.length_drop, ← total]
        omega
      -- Every word that was read stands in the image at its offset.
      have begins : bytes = magic ++ bytes.drop 4 := by
        rw [← not_not.mp foreign, List.take_append_drop]
      have atVersion : bytes.drop 4 = ByteWriter.u32 version ++ bytes.drop 8 := ByteReader.drop_of_u32 readVersion
      have atSize : bytes.drop 8 = ByteWriter.u32 size ++ bytes.drop headerSize := ByteReader.drop_of_u32 readSize
      have atPayload : bytes.drop headerSize = payload ++ bytes.drop (headerSize + size.toNat) := by
        rw [← taken, ← List.drop_drop, List.take_append_drop]
      have atCrc : bytes.drop (headerSize + size.toNat) = ByteWriter.u32 crc := by
        have ends : bytes.drop (headerSize + size.toNat + 4) = [] := List.drop_eq_nil_of_le (Nat.le_of_eq total.symm)
        rw [ByteReader.drop_of_u32 readCrc, ends, List.append_nil]
      have image : bytes = encodeSealed payload ++ ByteWriter.u32 crc := by
        rw [encodeSealed, count, UInt32.ofNat_toNat, ← not_not.mp outdated]
        simp only [List.append_assoc]
        rw [← atCrc, ← atPayload, ← atSize, ← atVersion]
        exact begins
      have covered : bytes.take (headerSize + size.toNat) = encodeSealed payload := by
        rw [image, ← count, ← length_encodeSealed, List.take_left]
      refine ⟨count ▸ size.toNat_lt, ?_⟩
      rw [checksummed, ← covered, not_not.mp damaged, covered]
      exact image
    next => cases opened
  next => cases opened

/-! ### The round trip -/

theorem encode_eq {s : PersistentState} (fits : (encodePayload s).length < 2 ^ 32) :
    encode s = encodeSealed (encodePayload s) ++ ByteWriter.u32 (crc32 (encodeSealed (encodePayload s))) := by
  obtain ⟨points, receipts, entries⟩ := lengths_lt fits
  have fitPoints : fitsU32 s.safePoints.length = true := fitsU32_iff.mpr (by omega)
  have fitReceipts : fitsU32 s.releaseReceipts.length = true := fitsU32_iff.mpr (by omega)
  have fitHistory : fitsU32 s.history.length = true := fitsU32_iff.mpr (by omega)
  simp only [encode, fitPoints, fitReceipts, fitHistory, Bool.not_true, Bool.false_eq_true, if_false]

theorem decode_encode {s : PersistentState} (fits : (encodePayload s).length < 2 ^ 32) :
    decode (encode s) =
      if validateState s.versioned = .ok then .ok s.versioned else .error (validateState s.versioned) := by
  rw [decode, encode_eq fits, sealedPayload_encodeSealed fits]
  simp only [decodePayload_encodePayload fits]

theorem decode_encode_of_valid {s : PersistentState} (fits : (encodePayload s).length < 2 ^ 32)
    (valid : validateState s.versioned = .ok) : decode (encode s) = .ok s.versioned :=
  (decode_encode fits).trans (if_pos valid)

theorem opened_of_decode {bytes : List UInt8} {st : PersistentState} (accepted : decode bytes = .ok st) :
    ∃ payload c, sealedPayload bytes = .ok payload ∧ decodePayload.runFrom ⟨payload, true⟩ = (.ok st, c) := by
  rw [decode] at accepted
  split at accepted
  · cases accepted
  next payload opened =>
    split at accepted
    · cases accepted
    next s read =>
      split at accepted
      next =>
        cases accepted
        exact ⟨payload, _, opened, Prod.ext read rfl⟩
      next => cases accepted

theorem encode_cases (s : PersistentState) : encode s = [] ∨ encode s = checksummed (encodeSealed (encodePayload s)) := by
  rw [encode]
  split_ifs with points receipts entries
  · exact .inl rfl
  · exact .inl rfl
  · exact .inl rfl
  · exact .inr rfl

/-- The length that is cast to 32 bits has to be the whole length, so an accepted payload fits. -/
theorem fits_of_decode {s st : PersistentState} (accepted : decode (encode s) = .ok st) :
    (encodePayload s).length < 2 ^ 32 := by
  obtain ⟨payload, _, opened, _⟩ := opened_of_decode accepted
  obtain ⟨fits, image⟩ := eq_of_sealedPayload opened
  have length := congrArg List.length image
  rw [length_checksummed, length_encodeSealed] at length
  rcases encode_cases s with empty | whole
  · rw [empty, List.length_nil] at length
    omega
  · rw [whole, length_checksummed, length_encodeSealed] at length
    omega

/-- Saving a state and reading it back gives the state under the current version when that is valid, and
    exactly the error of its validation when it is not. -/
theorem persistence_round_trip (s : PersistentState) (fits : (encodePayload s).length < 2 ^ 32) :
    (validateState { s with formatVersion := persistenceVersion } = .ok →
      decode (encode s) = .ok { s with formatVersion := persistenceVersion }) ∧
    (validateState { s with formatVersion := persistenceVersion } ≠ .ok →
      decode (encode s) = .error (validateState { s with formatVersion := persistenceVersion })) := by
  constructor
  · intro valid
    exact (decode_encode fits).trans (if_pos valid)
  · intro invalid
    exact (decode_encode fits).trans (if_neg invalid)

/-- A state at RESOURCES_RELEASED with an element in each list. -/
def releasedImage : PersistentState where
  executionId := ⟨2⟩
  attemptId := ⟨3⟩
  workerBootId := ⟨5⟩
  lifecycle := .resourcesReleased
  quiesced := true
  stateDurable := true
  checkpointRef := ⟨1⟩
  checkpointGeneration := ⟨1⟩
  resourcesReleased := true
  durableProgress := 10
  safePoints := [{ id := ⟨7⟩, state := .valid }, { id := ⟨9⟩, state := .declared }]
  releaseReceipts := [{ resource := .hostMemory, units := 4, contractGeneration := ⟨1⟩, releaseGeneration := ⟨1⟩ }]
  history := [{ requestId := ⟨6⟩, generation := ⟨1⟩, finalState := .cancelled }]

theorem decode_releasedImage : decode (encode releasedImage) = .ok releasedImage.versioned := by
  refine decode_encode_of_valid ?_ (by decide)
  rw [length_encodePayload]
  decide

/-- The image is read back; with a receipt of no units it is rejected for that receipt. -/
theorem persistence_round_trip_released :
    decode (encode releasedImage) = .ok { releasedImage with formatVersion := persistenceVersion } ∧
    decode (encode { releasedImage with releaseReceipts := [{}] }) = .error .invalidResourceObligation := by
  constructor
  · refine (persistence_round_trip releasedImage ?_).1 (by decide)
    rw [length_encodePayload]
    decide
  · refine (persistence_round_trip { releasedImage with releaseReceipts := [{}] } ?_).2 (by decide)
    rw [length_encodePayload]
    decide

/-! ### The length field -/

/-- The length field of an image, read as a number, is the size of its payload, and the decoder does not reject the
    image for its length; `[]` stands for no image. -/
def LengthStated (image : List UInt8) : Prop :=
  image = [] ∨
    (∃ size rest, ByteReader.u32 (image.drop 8) = some (size, rest) ∧
      image.length = headerSize + size.toNat + trailerSize) ∧
    decode image ≠ .error .truncated

theorem encode_eq_nil_iff (s : PersistentState) :
    encode s = [] ↔
      2 ^ 32 ≤ s.safePoints.length ∨ 2 ^ 32 ≤ s.releaseReceipts.length ∨ 2 ^ 32 ≤ s.history.length := by
  have counted (n : Nat) : (!fitsU32 n) = true ↔ 2 ^ 32 ≤ n := by
    rw [Bool.not_eq_true', ← Bool.not_eq_true, fitsU32_iff, Nat.not_lt]
  rw [encode]
  split_ifs with points receipts entries
  · exact iff_of_true rfl (.inl ((counted _).mp points))
  · exact iff_of_true rfl (.inr (.inl ((counted _).mp receipts)))
  · exact iff_of_true rfl (.inr (.inr ((counted _).mp entries)))
  · rw [counted] at points receipts entries
    refine iff_of_false (fun empty => ?_) (by omega)
    have length := congrArg List.length empty
    rw [List.length_append, length_encodeSealed, List.length_nil] at length
    simp [headerSize] at length

/-- The length field of a sealed image holds the size of the payload modulo `2 ^ 32`. -/
theorem u32_length_checksummed (payload : List UInt8) :
    ∃ rest, ByteReader.u32 ((checksummed (encodeSealed payload)).drop 8) =
      some (UInt32.ofNat payload.length, rest) := by
  rw [checksummed, drop_eight_encodeSealed]
  exact ⟨_, ByteReader.u32_u32 _ _⟩

theorem sealedPayload_oversized {payload : List UInt8} (large : 2 ^ 32 ≤ payload.length) :
    sealedPayload (checksummed (encodeSealed payload)) = .error .truncated := by
  have size := length_encodeSealed payload
  have count : (UInt32.ofNat payload.length).toNat < 2 ^ 32 := UInt32.toNat_lt _
  have long : ¬(checksummed (encodeSealed payload)).length < headerSize + trailerSize := by
    rw [length_checksummed, size, trailerSize]
    omega
  have begins : (checksummed (encodeSealed payload)).take 4 = magic := rfl
  have wrong : headerSize + (UInt32.ofNat payload.length).toNat + trailerSize ≠
      (checksummed (encodeSealed payload)).length := by
    rw [length_checksummed, size, trailerSize]
    omega
  rw [sealedPayload, if_neg long, if_neg (not_not_intro begins)]
  rw [checksummed] at wrong ⊢
  rw [drop_four_encodeSealed, drop_eight_encodeSealed]
  simp only [ByteReader.u32_u32, ne_eq, not_true_eq_false, if_false]
  rw [if_pos wrong]

/-- The counts of the lists are checked, and the size of the payload is cast: the length field of an image states
    the size of its payload exactly when some list cannot be counted, so that there is no image, or the payload is
    shorter than `2 ^ 32` bytes. -/
theorem encode_lengthStated_iff (s : PersistentState) :
    LengthStated (encode s) ↔
      (2 ^ 32 ≤ s.safePoints.length ∨ 2 ^ 32 ≤ s.releaseReceipts.length ∨ 2 ^ 32 ≤ s.history.length) ∨
        192 + s.safePoints.length * 70 + s.releaseReceipts.length * 44 + s.history.length * 20 < 2 ^ 32 := by
  rw [← encode_eq_nil_iff, ← length_encodePayload]
  rcases encode_cases s with empty | image
  · exact iff_of_true (.inl empty) (.inl empty)
  · obtain ⟨rest, field⟩ := u32_length_checksummed (encodePayload s)
    have total : (encode s).length = headerSize + (encodePayload s).length + trailerSize := by
      rw [image, length_checksummed, length_encodeSealed]
      rfl
    rw [← image] at field
    constructor
    · rintro (empty | ⟨⟨size, rest', stated, length⟩, _⟩)
      · exact .inl empty
      · have bound := size.toNat_lt
        exact .inr (by omega)
    · rintro (empty | fits)
      · exact .inl empty
      · refine .inr ⟨⟨_, rest, field, ?_⟩, ?_⟩
        · rw [total, UInt32.toNat_ofNat', Nat.mod_eq_of_lt fits]
        · rw [decode_encode fits]
          split
          · intro refused
            cases refused
          · intro refused
            exact validateState_ne_truncated _ (Except.error.inj refused)

/-- A state with so many safe points that their bytes cannot be counted in 32 bits, although they can. -/
def oversizedState : PersistentState := { safePoints := List.replicate 61356676 { id := ⟨1⟩ } }

/-- The length of its payload is truncated, and the decoder rejects the image. -/
theorem oversizedState_truncated :
    ¬LengthStated (encode oversizedState) ∧ encode oversizedState ≠ [] ∧
      decode (encode oversizedState) = .error .truncated := by
  have points : oversizedState.safePoints.length = 61356676 := List.length_replicate
  have large : 2 ^ 32 ≤ (encodePayload oversizedState).length := by
    rw [length_encodePayload, points]
    exact Nat.le_add_right_of_le (Nat.le_add_right_of_le (by decide))
  have image : encode oversizedState = checksummed (encodeSealed (encodePayload oversizedState)) := by
    rcases encode_cases oversizedState with empty | image
    · rw [encode_eq_nil_iff, points] at empty
      have none : oversizedState.releaseReceipts.length = 0 ∧ oversizedState.history.length = 0 := ⟨rfl, rfl⟩
      omega
    · exact image
  have present : encode oversizedState ≠ [] := by
    intro empty
    have length := congrArg List.length empty
    rw [image, length_checksummed, List.length_nil] at length
    omega
  have rejected : decode (encode oversizedState) = .error .truncated := by
    rw [decode, image, sealedPayload_oversized large]
  refine ⟨?_, present, rejected⟩
  rintro (empty | ⟨_, accepted⟩)
  · exact present empty
  · exact accepted rejected

end PreemptionFabric
