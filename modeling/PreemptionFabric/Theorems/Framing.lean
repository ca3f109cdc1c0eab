import PreemptionFabric.Theorems.Bodies

/-! Frames. A frame is seen as the words of its header, its body and its trailer; both decoders are computed on that
    view, and the round trip, the size limits and the agreement of the decoders are read off it. -/

namespace PreemptionFabric
open Parser

/-! ### Headers -/

/-- The words of a header. -/
structure FrameHeader where
  magic : UInt32
  version : UInt32
  type : UInt32
  seq : UInt32
  bodyLen : UInt32

def FrameHeader.bytes (h : FrameHeader) : List UInt8 :=
  ByteWriter.u32 h.magic ++ ByteWriter.u32 h.version ++ ByteWriter.u32 h.type ++ ByteWriter.u32 h.seq ++
    ByteWriter.u32 h.bodyLen

@[simp] theorem FrameHeader.length_bytes (h : FrameHeader) : h.bytes.length = frameHeaderSize := by
  simp [bytes, frameHeaderSize]

theorem FrameHeader.take_start (h : FrameHeader) (rest : List UInt8) :
    (h.bytes ++ rest).take 8 = ByteWriter.u32 h.magic ++ ByteWriter.u32 h.version := by
  rw [bytes, List.append_assoc, List.append_assoc, List.append_assoc]
  exact List.take_left' (by simp)

theorem FrameHeader.take_type (h : FrameHeader) (rest : List UInt8) :
    ((h.bytes ++ rest).drop 8).take 4 = ByteWriter.u32 h.type := by
  rw [bytes, List.append_assoc, List.append_assoc, List.append_assoc, List.drop_left' (by simp)]
  exact List.take_left' (by simp)

theorem FrameHeader.drop_bodyLen (h : FrameHeader) (rest : List UInt8) :
    (h.bytes ++ rest).drop 16 = ByteWriter.u32 h.bodyLen ++ rest := by
  rw [bytes, List.append_assoc]
  exact List.drop_left' (by simp)

/-- The header that announces a body. -/
def Message.header (m : Message) (size : Nat) : FrameHeader where
  magic := frameMagic
  version := protocolVersion
  type := Enumeration.code m.type
  seq := m.seq
  bodyLen := UInt32.ofNat size

theorem exists_u32 (bytes : List UInt8) (long : 4 ≤ bytes.length) : ∃ v rest, bytes = ByteWriter.u32 v ++ rest := by
  have read : ByteReader.u32 bytes = some (UInt32.ofBitVec (LittleEndian.join 4 bytes), bytes.drop 4) := by
    rw [ByteReader.u32, if_neg (by omega)]
  exact ⟨_, _, ByteReader.eq_of_u32 read⟩

/-- Bytes that are long enough start with the words of a header. -/
theorem exists_header {bytes : List UInt8} (long : frameHeaderSize ≤ bytes.length) :
    ∃ (h : FrameHeader) (rest : List UInt8), bytes = h.bytes ++ rest := by
  rw [frameHeaderSize] at long
  obtain ⟨magic, r₁, rfl⟩ := exists_u32 bytes (by omega)
  rw [List.length_append, ByteWriter.length_u32] at long
  obtain ⟨version, r₂, rfl⟩ := exists_u32 r₁ (by omega)
  rw [List.length_append, ByteWriter.length_u32] at long
  obtain ⟨type, r₃, rfl⟩ := exists_u32 r₂ (by omega)
  rw [List.length_append, ByteWriter.length_u32] at long
  obtain ⟨seq, r₄, rfl⟩ := exists_u32 r₃ (by omega)
  rw [List.length_append, ByteWriter.length_u32] at long
  obtain ⟨bodyLen, r₅, rfl⟩ := exists_u32 r₄ (by omega)
  refine ⟨⟨magic, version, type, seq, bodyLen⟩, r₅, ?_⟩
  simp only [FrameHeader.bytes, List.append_assoc]

theorem words_of_long {buffer : List UInt8} (long : ¬buffer.length < frameHeaderSize + 4) :
    ∃ (h : FrameHeader) (rest : List UInt8), buffer = h.bytes ++ rest ∧ 4 ≤ rest.length := by
  obtain ⟨h, rest, rfl⟩ := exists_header (show frameHeaderSize ≤ buffer.length by omega)
  rw [List.length_append, h.length_bytes] at long
  exact ⟨h, rest, rfl, by omega⟩

/-! ### The decoders over the words of a frame -/

/-- Reading the header gives its words back, one after the other. -/
theorem take_header (h : FrameHeader) (rest : List UInt8) :
    (h.bytes ++ rest).take frameHeaderSize =
      ByteWriter.u32 h.magic ++ (ByteWriter.u32 h.version ++ (ByteWriter.u32 h.type ++ (ByteWriter.u32 h.seq ++
        (ByteWriter.u32 h.bodyLen ++ [])))) := by
  rw [List.take_left' h.length_bytes]
  simp only [FrameHeader.bytes, List.append_assoc, List.append_nil]

theorem drop_body_end (h : FrameHeader) (rest : List UInt8) (n : Nat) :
    (h.bytes ++ rest).drop (frameHeaderSize + n) = rest.drop n := by
  rw [← List.drop_drop, List.drop_left' h.length_bytes]

theorem take_body_end (h : FrameHeader) (rest : List UInt8) (n : Nat) :
    (h.bytes ++ rest).take (frameHeaderSize + n) = h.bytes ++ rest.take n := by
  rw [← h.length_bytes, List.take_length_add_append]

/-- The word of a trailer. -/
theorem u32_trailer {rest : List UInt8} {n : Nat} (long : n + 4 ≤ rest.length) :
    ∃ crc, (rest.drop n).take 4 = ByteWriter.u32 crc ∧ ByteReader.u32 ((rest.drop n).take 4) = some (crc, []) := by
  have size : ((rest.drop n).take 4).length = 4 := by
    rw [List.length_take, List.length_drop]
    omega
  obtain ⟨crc, tail, word⟩ := exists_u32 ((rest.drop n).take 4) (by omega)
  have none : tail = [] := by
    rw [word, List.length_append, ByteWriter.length_u32] at size
    exact List.length_eq_zero_iff.mp (by omega)
  rw [none, List.append_nil] at word
  refine ⟨crc, word, ?_⟩
  rw [word]
  exact ByteReader.u32_u32 crc []

/-- What is left to check of a frame whose header is right: its checksum, then its body. -/
def checkBody (h : FrameHeader) (body trailer : List UInt8) : Except FrameError Message :=
  if trailer ≠ ByteWriter.u32 (crc32 (h.bytes ++ body)) then .error .checksum
  else required .malformedBody (decodeBody body)

theorem u32_inj {v w : UInt32} (same : ByteWriter.u32 v = ByteWriter.u32 w) : v = w := by
  have read := ByteReader.u32_u32 v []
  rw [same, ByteReader.u32_u32] at read
  exact (congrArg Prod.fst (Option.some.inj read)).symm

/-- The checks of the checksum and the body, as the decoders make them. -/
theorem checkBody_eq (h : FrameHeader) {body trailer : List UInt8} {crc : UInt32} (word : trailer = ByteWriter.u32 crc) :
    checkBody h body trailer =
      if crc32 (h.bytes ++ body) ≠ crc then .error .checksum else required .malformedBody (decodeBody body) := by
  rw [checkBody, word]
  by_cases same : crc32 (h.bytes ++ body) = crc
  · rw [same]
    simp
  · have other : ByteWriter.u32 crc ≠ ByteWriter.u32 (crc32 (h.bytes ++ body)) := fun equal => same (u32_inj equal).symm
    rw [if_pos other, if_pos same]

theorem decodeFrame_words (h : FrameHeader) {rest : List UInt8} (long : 4 ≤ rest.length) :
    decodeFrame (h.bytes ++ rest) =
      if h.magic ≠ frameMagic then .error .badMagic
      else if h.version ≠ protocolVersion then .error .badVersion
      else if h.bodyLen > maxFrameBody then .error .badLength
      else if rest.length < h.bodyLen.toNat + 4 then .error .truncated
      else if rest.length > h.bodyLen.toNat + 4 then .error .trailingGarbage
      else
        (checkBody h (rest.take h.bodyLen.toNat) ((rest.drop h.bodyLen.toNat).take 4)).bind fun msg =>
          if Enumeration.code msg.type ≠ h.type then .error .malformedBody else .ok { msg with seq := h.seq } := by
  have whole : (h.bytes ++ rest).length = frameHeaderSize + rest.length := by
    rw [List.length_append, h.length_bytes]
  have enough : ¬rest.length < 4 := Nat.not_lt.mpr long
  unfold decodeFrame
  simp only [bind, Except.bind, throw, throwThe, MonadExceptOf.throw, pure, Except.pure, whole, if_neg enough,
    take_header, ByteReader.u32_u32, required, drop_body_end, take_body_end, List.drop_left' h.length_bytes,
    Nat.add_assoc, Nat.add_lt_add_iff_left, gt_iff_lt]
  by_cases magic : h.magic ≠ frameMagic
  · rw [if_pos magic, if_pos magic]
  rw [if_neg magic, if_neg magic]
  by_cases version : h.version ≠ protocolVersion
  · rw [if_pos version, if_pos version]
  rw [if_neg version, if_neg version]
  by_cases size : maxFrameBody < h.bodyLen
  · rw [if_pos size, if_pos size]
  rw [if_neg size, if_neg size]
  by_cases short : rest.length < h.bodyLen.toNat + 4
  · rw [if_pos short, if_pos short]
  rw [if_neg short, if_neg short]
  by_cases extra : h.bodyLen.toNat + 4 < rest.length
  · rw [if_pos extra, if_pos extra]
  rw [if_neg extra, if_neg extra]
  obtain ⟨crc, word, read⟩ := u32_trailer (n := h.bodyLen.toNat) (Nat.le_of_not_lt short)
  rw [read, checkBody_eq h word]
  simp only
  split_ifs with damaged
  · rfl
  · cases decodeBody (rest.take h.bodyLen.toNat) with
    | none => rfl
    | some msg => rfl

theorem scanFrame_words (h : FrameHeader) {rest : List UInt8} (long : 4 ≤ rest.length) :
    scanFrame (h.bytes ++ rest) =
      if h.magic ≠ frameMagic then .error .malformed
      else if h.version ≠ protocolVersion then .error .malformed
      else if h.bodyLen > maxFrameBody then .error .malformed
      else if rest.length < h.bodyLen.toNat + 4 then .error .incomplete
      else
        match checkBody h (rest.take h.bodyLen.toNat) ((rest.drop h.bodyLen.toNat).take 4) with
        | .error _ => .error .malformed
        | .ok msg => .ok ({ msg with seq := h.seq }, frameHeaderSize + h.bodyLen.toNat + 4) := by
  have whole : (h.bytes ++ rest).length = frameHeaderSize + rest.length := by
    rw [List.length_append, h.length_bytes]
  have enough : ¬rest.length < 4 := Nat.not_lt.mpr long
  unfold scanFrame
  simp only [bind, Except.bind, throw, throwThe, MonadExceptOf.throw, pure, Except.pure, whole, if_neg enough,
    take_header, ByteReader.u32_u32, required, drop_body_end, take_body_end, List.drop_left' h.length_bytes,
    Nat.add_assoc, Nat.add_lt_add_iff_left, gt_iff_lt]
  split_ifs with magic version size short
  · rfl
  · rfl
  · rfl
  · rfl
  · obtain ⟨crc, word, read⟩ := u32_trailer (n := h.bodyLen.toNat) (Nat.le_of_not_lt short)
    rw [read, checkBody_eq h word]
    simp only
    split_ifs with damaged
    · rfl
    · cases decodeBody (rest.take h.bodyLen.toNat) with
      | none => rfl
      | some msg => rfl

theorem scanFrame_short {buffer : List UInt8} (short : buffer.length < frameHeaderSize + 4) :
    scanFrame buffer = .error .incomplete := by
  rw [scanFrame, if_pos short]
  rfl

/-! ### Sealed frames -/

section
variable {h : FrameHeader} {body : List UInt8}

theorem checksummed_frame (h : FrameHeader) (body : List UInt8) :
    checksummed (h.bytes ++ body) = h.bytes ++ (body ++ ByteWriter.u32 (crc32 (h.bytes ++ body))) := by
  rw [checksummed, List.append_assoc]

theorem checkBody_sealed (h : FrameHeader) (body more : List UInt8) :
    checkBody h ((body ++ ByteWriter.u32 (crc32 (h.bytes ++ body)) ++ more).take body.length)
      (((body ++ ByteWriter.u32 (crc32 (h.bytes ++ body)) ++ more).drop body.length).take 4) =
        required .malformedBody (decodeBody body) := by
  rw [List.append_assoc, List.take_left, List.drop_left, List.take_left' (ByteWriter.length_u32 _), checkBody_eq h rfl]
  simp

/-- A sealed frame whose header has the right words is decoded as its body. -/
theorem decodeFrame_sealed (magic : h.magic = frameMagic) (version : h.version = protocolVersion)
    (size : body.length = h.bodyLen.toNat) (small : h.bodyLen ≤ maxFrameBody) :
    decodeFrame (checksummed (h.bytes ++ body)) =
      (required .malformedBody (decodeBody body)).bind fun msg =>
        if Enumeration.code msg.type ≠ h.type then .error .malformedBody else .ok { msg with seq := h.seq } := by
  have exact : (body ++ ByteWriter.u32 (crc32 (h.bytes ++ body))).length = h.bodyLen.toNat + 4 := by
    rw [List.length_append, ByteWriter.length_u32, size]
  have check := checkBody_sealed h body []
  rw [List.append_nil, size] at check
  rw [checksummed_frame, decodeFrame_words h (by omega), check, exact]
  simp [magic, version, UInt32.not_lt.mpr small]

/-- A sealed frame whose header has the right words is scanned as its body, whatever follows it. -/
theorem scanFrame_sealed (magic : h.magic = frameMagic) (version : h.version = protocolVersion)
    (size : body.length = h.bodyLen.toNat) (small : h.bodyLen ≤ maxFrameBody) (more : List UInt8) :
    scanFrame (checksummed (h.bytes ++ body) ++ more) =
      match decodeBody body with
      | none => .error .malformed
      | some msg => .ok ({ msg with seq := h.seq }, (checksummed (h.bytes ++ body)).length) := by
  have enough : h.bodyLen.toNat + 4 ≤ (body ++ ByteWriter.u32 (crc32 (h.bytes ++ body)) ++ more).length := by
    rw [List.length_append, List.length_append, ByteWriter.length_u32, size]
    omega
  have check := checkBody_sealed h body more
  rw [size] at check
  have total : (checksummed (h.bytes ++ body)).length = frameHeaderSize + h.bodyLen.toNat + 4 := by
    rw [length_checksummed, List.length_append, h.length_bytes, size]
  rw [total, checksummed_frame, List.append_assoc, scanFrame_words h (by omega), check]
  simp only [magic, version, ne_eq, not_true_eq_false, if_false, if_neg (UInt32.not_lt.mpr small),
    if_neg (Nat.not_lt.mpr enough), gt_iff_lt]
  cases decodeBody body with
  | none => rfl
  | some msg => rfl

theorem decodeFrame_short {bytes : List UInt8} (short : bytes.length < frameHeaderSize + 4) :
    decodeFrame bytes = .error .truncated := by
  rw [decodeFrame, if_pos short]
  rfl

theorem checkBody_ok {trailer : List UInt8} {msg : Message} (checked : checkBody h body trailer = .ok msg) :
    trailer = ByteWriter.u32 (crc32 (h.bytes ++ body)) ∧ decodeBody body = some msg := by
  rw [checkBody] at checked
  split at checked
  · cases checked
  next same =>
    refine ⟨not_not.mp same, ?_⟩
    cases decoded : decodeBody body with
    | none =>
      rw [decoded] at checked
      cases checked
    | some msg' =>
      rw [decoded] at checked
      cases checked
      rfl

/-- What is accepted is a sealed frame with the right words and a body of the stated length; the message is that of the
    body with the sequence number of the header. -/
theorem decodeFrame_ok {bytes : List UInt8} {m : Message} (accepted : decodeFrame bytes = .ok m) :
    ∃ (h : FrameHeader) (body : List UInt8) (msg : Message), bytes = checksummed (h.bytes ++ body) ∧
      body.length = h.bodyLen.toNat ∧ (h.magic = frameMagic ∧ h.version = protocolVersion) ∧
      decodeBody body = some msg ∧ Enumeration.code msg.type = h.type ∧ m = { msg with seq := h.seq } := by
  by_cases short : bytes.length < frameHeaderSize + 4
  · rw [decodeFrame_short short] at accepted
    cases accepted
  · obtain ⟨h, rest, rfl, long⟩ := words_of_long short
    rw [decodeFrame_words h long] at accepted
    split_ifs at accepted with magic version size part extra
    cases checked : checkBody h (rest.take h.bodyLen.toNat) ((rest.drop h.bodyLen.toNat).take 4) with
    | error e =>
      rw [checked] at accepted
      cases accepted
    | ok msg =>
      obtain ⟨trailer, decoded⟩ := checkBody_ok checked
      rw [List.take_of_length_le (by rw [List.length_drop]; omega)] at trailer
      rw [checked, Except.bind] at accepted
      split_ifs at accepted with relabelled
      refine ⟨h, rest.take h.bodyLen.toNat, msg, ?_, ?_, ⟨not_not.mp magic, not_not.mp version⟩, decoded,
        not_not.mp relabelled, (Except.ok.inj accepted).symm⟩
      · rw [checksummed_frame, ← trailer, List.take_append_drop]
      · rw [List.length_take]
        omega

end

/-! ### Encoded frames -/

section
variable {m : Message} {body frame : List UInt8}

theorem encodeFrame_of_body (encoded : encodeBody m = .ok body) (fits : body.length < 2 ^ 32) :
    encodeFrame m = .ok (checksummed ((m.header body.length).bytes ++ body)) := by
  rw [encodeFrame, encoded]
  simp only [bind, Except.bind, fitsU32_iff.mpr fits]
  rfl

theorem encodeFrame_ok (encoded : encodeFrame m = .ok frame) :
    ∃ body, encodeBody m = .ok body ∧ body.length < 2 ^ 32 ∧
      frame = checksummed ((m.header body.length).bytes ++ body) := by
  cases written : encodeBody m with
  | error e =>
    rw [encodeFrame, written] at encoded
    cases encoded
  | ok body =>
    have fits : body.length < 2 ^ 32 := by
      by_contra long
      have beyond : fitsU32 body.length = false := Bool.eq_false_iff.mpr (mt fitsU32_iff.mp long)
      rw [encodeFrame, written] at encoded
      simp only [bind, Except.bind, beyond] at encoded
      cases encoded
    rw [encodeFrame_of_body written fits] at encoded
    exact ⟨body, rfl, fits, (Except.ok.inj encoded).symm⟩

theorem bodyLen_toNat {size : Nat} (fits : size < 2 ^ 32) : (m.header size).bodyLen.toNat = size := by
  rw [Message.header, UInt32.toNat_ofNat']
  exact Nat.mod_eq_of_lt fits

/-- A message that a peer can receive: it has a type, and its body is within the limit of the decoders. -/
structure Sendable (m : Message) : Prop where
  declared : m.type ≠ .invalid
  small : ∃ body, encodeBody m = .ok body ∧ body.length ≤ maxFrameBody.toNat

theorem maxFrameBody_lt : maxFrameBody.toNat < 2 ^ 32 := maxFrameBody.toNat_lt

/-- The frame of a message that can be received is decoded as the message, alone and at the front of a stream. -/
theorem Sendable.received (sendable : Sendable m) :
    ∃ frame, encodeFrame m = .ok frame ∧ decodeFrame frame = .ok m ∧
      ∀ more, scanFrame (frame ++ more) = .ok (m, frame.length) := by
  obtain ⟨body, encoded, small⟩ := sendable.small
  have fits : body.length < 2 ^ 32 := Nat.lt_of_le_of_lt small maxFrameBody_lt
  have decoded := decodeBody_encodeBody sendable.declared encoded
  have size : body.length = (m.header body.length).bodyLen.toNat := (bodyLen_toNat fits).symm
  have bound : (m.header body.length).bodyLen ≤ maxFrameBody := by
    rw [UInt32.le_iff_toNat_le, ← size]
    exact small
  refine ⟨_, encodeFrame_of_body encoded fits, ?_, fun more => ?_⟩
  · rw [decodeFrame_sealed rfl rfl size bound, decoded]
    simp only [required, Except.bind, Message.header, ne_eq, not_true_eq_false, if_false]
  · rw [scanFrame_sealed rfl rfl size bound, decoded]
    rfl

theorem sendable_of_bodySize (declared : m.type ≠ .invalid) (small : m.bodySize ≤ maxFrameBody.toNat) :
    Sendable m := by
  obtain ⟨body, encoded⟩ := encodeBody_of_fits (Nat.lt_of_le_of_lt small maxFrameBody_lt)
  refine ⟨declared, body, encoded, ?_⟩
  rw [length_encodeBody encoded]
  exact small

end

/-- A message within the limit is encoded, and decoding its frame gives it back. -/
theorem decodeFrame_encodeFrame (m : Message) (sendable : Sendable m) :
    ∃ frame, encodeFrame m = .ok frame ∧ decodeFrame frame = .ok m := by
  obtain ⟨frame, encoded, decoded, _⟩ := sendable.received
  exact ⟨frame, encoded, decoded⟩

/-- A cancellation with an authority context and both strings. -/
def cancelMessage : Message where
  type := .cancel
  seq := 9
  coordinatorEpoch := ⟨7⟩
  executionId := ⟨2⟩
  safePointCaptureRequired := true
  reason := .drain
  detail := [0, 255]
  extra := [65]

theorem cancelMessage_sendable : Sendable cancelMessage := sendable_of_bodySize (by decide) (by decide)

theorem decodeFrame_encodeFrame_cancel :
    ∃ frame, encodeFrame cancelMessage = .ok frame ∧ decodeFrame frame = .ok cancelMessage :=
  decodeFrame_encodeFrame cancelMessage cancelMessage_sendable

/-! ### The size limits -/

theorem FrameDecoder.pop_item {d : FrameDecoder} {m : Message} {n : Nat} (live : d.fatal = false)
    (found : scanFrame d.buffer = .ok (m, n)) : d.pop = (some m, { d with buffer := d.buffer.drop n }) := by
  rw [pop, live, found]
  rfl

/-- Every frame that the message is encoded as is accepted by the decoder of frames and by a new streaming one. -/
def Deliverable (m : Message) : Prop :=
  ∀ frame, encodeFrame m = .ok frame →
    (∃ m', decodeFrame frame = .ok m') ∧ (FrameDecoder.feed {} frame).pop.2.fatal = false

section
variable {m : Message}

theorem Sendable.deliverable (sendable : Sendable m) : Deliverable m := by
  intro frame encoded
  obtain ⟨frame', encoded', decoded, scanned⟩ := sendable.received
  rw [encoded'] at encoded
  cases encoded
  have found := scanned []
  rw [List.append_nil] at found
  refine ⟨⟨m, decoded⟩, ?_⟩
  rw [FrameDecoder.pop_item rfl found]
  rfl

/-- A body between the limit of the decoders and the one of the encoder is sent and rejected. -/
theorem not_deliverable (large : maxFrameBody.toNat < m.bodySize) (fits : m.bodySize < 2 ^ 32) : ¬Deliverable m := by
  intro deliverable
  obtain ⟨body, encoded⟩ := encodeBody_of_fits fits
  have size := length_encodeBody encoded
  rw [← size] at large fits
  obtain ⟨⟨m', decoded⟩, _⟩ := deliverable _ (encodeFrame_of_body encoded fits)
  have beyond : (m.header body.length).bodyLen > maxFrameBody := by
    rw [gt_iff_lt, UInt32.lt_iff_toNat_lt, bodyLen_toNat fits]
    exact large
  have magic : (m.header body.length).magic = frameMagic := rfl
  have version : (m.header body.length).version = protocolVersion := rfl
  rw [checksummed_frame, decodeFrame_words _ (by simp), if_neg (not_not_intro magic), if_neg (not_not_intro version),
    if_pos beyond] at decoded
  cases decoded

end

/-- The sender and the receiver agree on a message exactly when its body is within the limit of the decoders, or
    beyond the one of the encoder. -/
theorem deliverable_iff (m : Message) (declared : m.type ≠ .invalid) :
    Deliverable m ↔ m.bodySize ≤ maxFrameBody.toNat ∨ 2 ^ 32 ≤ m.bodySize := by
  constructor
  · intro deliverable
    by_contra between
    rw [not_or, Nat.not_le, Nat.not_le] at between
    exact not_deliverable between.1 between.2 deliverable
  · rintro (small | large)
    · exact (sendable_of_bodySize declared small).deliverable
    · intro frame encoded
      obtain ⟨body, written, fits, _⟩ := encodeFrame_ok encoded
      rw [length_encodeBody written] at fits
      omega

theorem deliverable_cancel : Deliverable cancelMessage :=
  (deliverable_iff cancelMessage (by decide)).mpr (.inl (by decide))

/-- An error with a text of `n` bytes. -/
def errorMessage (n : Nat) : Message := { type := .error, detail := List.replicate n 0 }

theorem errorMessage_bodySize (n : Nat) : (errorMessage n).bodySize = 245 + n := by
  simp [Message.bodySize, errorMessage]

/-- An error whose body lies between the limits is encoded, and its frame is rejected. -/
theorem errorMessage_not_deliverable {n : Nat} (large : maxFrameBody.toNat < 245 + n) (fits : 245 + n < 2 ^ 32) :
    (∃ frame, encodeFrame (errorMessage n) = .ok frame) ∧ ¬Deliverable (errorMessage n) := by
  rw [← errorMessage_bodySize] at large fits
  obtain ⟨body, encoded⟩ := encodeBody_of_fits fits
  have size := length_encodeBody encoded
  exact ⟨⟨_, encodeFrame_of_body encoded (size ▸ fits)⟩, not_deliverable large fits⟩

/-- The text alone has the size of a whole body. -/
theorem oversized_message_not_delivered :
    (errorMessage 65536).type ≠ .invalid ∧ (∃ frame, encodeFrame (errorMessage 65536) = .ok frame) ∧
      ¬Deliverable (errorMessage 65536) := by
  have declared (n : Nat) : (errorMessage n).type ≠ .invalid := fun h => nomatch h
  exact ⟨declared 65536, errorMessage_not_deliverable (by decide) (by decide)⟩

end PreemptionFabric
