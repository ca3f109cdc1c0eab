import PreemptionFabric.Theorems.Streaming

/-! How far a frame is determined by its message. The decoder compares the two types of a frame, but drops the sequence
    number of the body for that of the header, and takes every byte but zero for true: a frame is the encoding of its
    message exactly when it repeats its sequence number and spells its boolean as 0 or 1. -/

namespace PreemptionFabric

/-- The body of the frame repeats the sequence number of the header, and its boolean is 0 or 1. -/
structure Plain (b : List UInt8) : Prop where
  seq : (b.drop 24).take 4 = (b.drop 12).take 4
  flag : b.getD 152 0 ≤ 1

/-! ### Bytes of a frame -/

section
variable {h : FrameHeader} {msg : Message} {seq seq' : UInt32} {flag flag' : UInt8} {texts : List UInt8}

theorem length_spelledBody (msg : Message) (seq : UInt32) (flag : UInt8) (texts : List UInt8) :
    (spelledBody msg seq flag texts).length = 133 + (bodyBack msg texts).length := by
  rw [spelledBody, bodyFront_eq]
  simp only [List.length_append, ByteWriter.length_u32, ByteWriter.length_u8, length_bodyFront]
  omega

theorem spelledBody_inj :
    spelledBody msg seq flag texts = spelledBody msg seq' flag' texts ↔ seq = seq' ∧ flag = flag' := by
  constructor
  · intro same
    rw [spelledBody, spelledBody, bodyFront_eq, bodyFront_eq msg (ByteWriter.u8 flag' ++ _)] at same
    obtain ⟨number, rest⟩ := List.append_inj (List.append_cancel_left same) (by simp)
    obtain ⟨byte, _⟩ := List.append_inj (List.append_cancel_left rest) rfl
    exact ⟨u32_inj number, (List.cons.inj byte).1⟩
  · rintro ⟨rfl, rfl⟩
    rfl

theorem FrameHeader.take_seq (h : FrameHeader) (rest : List UInt8) :
    ((h.bytes ++ rest).drop 12).take 4 = ByteWriter.u32 h.seq := by
  rw [bytes, List.append_assoc, List.append_assoc, List.drop_left' (by simp)]
  exact List.take_left' (by simp)

theorem take_body_seq (rest : List UInt8) :
    ((h.bytes ++ (spelledBody msg seq flag texts ++ rest)).drop 24).take 4 = ByteWriter.u32 seq := by
  have offset := drop_body_end h (spelledBody msg seq flag texts ++ rest) 4
  rw [show 24 = frameHeaderSize + 4 by rfl, offset, spelledBody, List.append_assoc, List.append_assoc,
    List.drop_left' (ByteWriter.length_u32 _)]
  exact List.take_left' (ByteWriter.length_u32 _)

theorem getD_flag (rest : List UInt8) :
    (h.bytes ++ (spelledBody msg seq flag texts ++ rest)).getD 152 0 = flag := by
  have front : (ByteWriter.u32 (Enumeration.code msg.type) ++ (ByteWriter.u32 seq ++ bodyFront msg [])).length = 132 := by
    simp only [List.length_append, ByteWriter.length_u32, length_bodyFront]
  have offset := drop_body_end h (spelledBody msg seq flag texts ++ rest) 132
  have byte : (spelledBody msg seq flag texts ++ rest).drop 132 = flag :: (bodyBack msg texts ++ rest) := by
    rw [spelledBody, bodyFront_eq]
    simp only [← List.append_assoc] at front ⊢
    rw [List.append_assoc _ (ByteWriter.u8 flag), List.append_assoc _ (ByteWriter.u8 flag ++ _),
      List.drop_left' front]
    rfl
  rw [byte] at offset
  have found := congrArg (fun bytes => bytes[0]?) offset
  rw [List.getElem?_drop] at found
  rw [List.getD, show 152 = frameHeaderSize + 132 + 0 by rfl, found]
  rfl

theorem plain_iff (rest : List UInt8) :
    Plain (h.bytes ++ (spelledBody msg seq flag texts ++ rest)) ↔ seq = h.seq ∧ flag ≤ 1 := by
  constructor
  · rintro ⟨number, byte⟩
    rw [take_body_seq, h.take_seq] at number
    rw [getD_flag] at byte
    exact ⟨u32_inj number, byte⟩
  · rintro ⟨rfl, byte⟩
    refine ⟨?_, ?_⟩
    · rw [take_body_seq, h.take_seq]
    · rw [getD_flag]
      exact byte

end

/-- A byte that is the number of its own boolean is 0 or 1. -/
theorem flag_normal_iff (flag : UInt8) : flag = (if (flag != 0) = true then 1 else 0) ↔ flag ≤ 1 := by
  rw [← UInt8.toNat_inj, UInt8.le_iff_toNat_le]
  by_cases zero : flag = 0
  · rw [zero]
    decide
  · have positive : flag.toNat ≠ 0 := fun value => zero (UInt8.toNat_inj.mp value)
    rw [if_pos (bne_iff_ne.mpr zero)]
    show flag.toNat = 1 ↔ flag.toNat ≤ 1
    omega

theorem checksummed_inj {data data' : List UInt8} (same : checksummed data = checksummed data') : data = data' :=
  (List.append_inj' same (by simp)).1

/-! ### Frames -/

/-- The frame of the message of an accepted frame has the header of that frame. -/
theorem encodeFrame_of_decoded {h : FrameHeader} {msg : Message} {flag : UInt8} {detail extra : List UInt8}
    (right : h.magic = frameMagic ∧ h.version = protocolVersion) (type : Enumeration.code msg.type = h.type)
    (size : (spelledBody msg msg.seq flag (detail ++ extra)).length = h.bodyLen.toNat)
    (writtenDetail : ByteWriter.string msg.detail = .ok detail)
    (writtenExtra : ByteWriter.string msg.extra = .ok extra) :
    encodeFrame { msg with seq := h.seq } = .ok (checksummed (h.bytes ++
      spelledBody msg h.seq (if msg.safePointCaptureRequired then 1 else 0) (detail ++ extra))) := by
  have body : encodeBody { msg with seq := h.seq } =
      .ok (spelledBody msg h.seq (if msg.safePointCaptureRequired then 1 else 0) (detail ++ extra)) := by
    have spelled := encodeBodyFields_append { msg with seq := h.seq } (detail ++ extra)
    rw [← List.append_assoc] at spelled
    rw [encodeBody]
    simp only [writtenDetail, writtenExtra]
    exact congrArg Except.ok spelled
  have length : (spelledBody msg h.seq (if msg.safePointCaptureRequired then 1 else 0) (detail ++ extra)).length =
      h.bodyLen.toNat := by
    rw [← size, length_spelledBody, length_spelledBody]
  have header : Message.header { msg with seq := h.seq } h.bodyLen.toNat = h := by
    rw [Message.header, type, ← right.1, ← right.2, UInt32.ofNat_toNat]
  rw [encodeFrame_of_body body (by rw [length]; exact h.bodyLen.toNat_lt), length, header]

/-- An accepted frame is the encoding of its message exactly when it is plain, and no two plain frames are decoded as
    the same message. -/
theorem encodeFrame_decodeFrame_iff (b : List UInt8) (m : Message) (decoded : decodeFrame b = .ok m) :
    (encodeFrame m = .ok b ↔ Plain b) ∧
      (Plain b → ∀ b', decodeFrame b' = .ok m → (b' = b ↔ Plain b')) := by
  have canonical {b : List UInt8} (decoded : decodeFrame b = .ok m) : encodeFrame m = .ok b ↔ Plain b := by
    obtain ⟨h, body, msg, rfl, size, right, decodes, type, rfl⟩ := decodeFrame_ok decoded
    obtain ⟨flag, detail, extra, value, writtenDetail, writtenExtra, rfl⟩ := isBody_of_decodeBody decodes
    have plain : Plain (checksummed (h.bytes ++ spelledBody msg msg.seq flag (detail ++ extra))) ↔
        msg.seq = h.seq ∧ flag = if (flag != 0) = true then 1 else 0 := by
      rw [checksummed_frame, plain_iff, flag_normal_iff]
    rw [encodeFrame_of_decoded right type size writtenDetail writtenExtra, plain, ← value]
    constructor
    · intro same
      have bodies := List.append_cancel_left (checksummed_inj (Except.ok.inj same))
      obtain ⟨number, byte⟩ := spelledBody_inj.mp bodies
      exact ⟨number.symm, byte.symm⟩
    · rintro ⟨number, byte⟩
      rw [← number, ← byte]
  refine ⟨canonical decoded, fun plain b' decoded' => ?_⟩
  have encoded := (canonical decoded).mpr plain
  constructor
  · rintro rfl
    exact plain
  · intro plain'
    have encoded' := (canonical decoded').mpr plain'
    rw [encoded] at encoded'
    exact (Except.ok.inj encoded').symm

theorem encodeFrame_decodeFrame_cancel : ∃ frame, encodeFrame cancelMessage = .ok frame ∧ Plain frame := by
  obtain ⟨frame, encoded, decoded, _⟩ := cancelMessage_sendable.received
  exact ⟨frame, encoded, (encodeFrame_decodeFrame_iff frame cancelMessage decoded).1.mp encoded⟩

/-- The frame of the cancellation, sealed around a body that has another sequence number than the header. -/
def renumberedFrame : List UInt8 :=
  checksummed (FrameHeader.bytes ⟨frameMagic, protocolVersion, Enumeration.code MessageType.cancel, 9, 248⟩ ++
    (encodeBodyFields { cancelMessage with seq := 8 } ++ (ByteWriter.u32 2 ++ cancelMessage.detail) ++
      (ByteWriter.u32 1 ++ cancelMessage.extra)))

/-- It is decoded as the cancellation, like the frame of the cancellation itself, which is another one. -/
theorem renumberedFrame_decoded :
    decodeFrame renumberedFrame = .ok cancelMessage ∧ encodeFrame cancelMessage ≠ .ok renumberedFrame ∧
      ∃ frame, decodeFrame frame = .ok cancelMessage ∧ frame ≠ renumberedFrame := by
  have body : encodeBody { cancelMessage with seq := 8 } = .ok (encodeBodyFields { cancelMessage with seq := 8 } ++
      (ByteWriter.u32 2 ++ cancelMessage.detail) ++ (ByteWriter.u32 1 ++ cancelMessage.extra)) := rfl
  have declared : ({ cancelMessage with seq := 8 } : Message).type ≠ .invalid := by decide
  have decodes := decodeBody_encodeBody declared body
  have decoded : decodeFrame renumberedFrame = .ok cancelMessage := by
    rw [renumberedFrame, decodeFrame_sealed rfl rfl (length_encodeBody body) cancelBody_small, decodes]
    rfl
  have other : encodeFrame cancelMessage ≠ .ok renumberedFrame := by
    intro same
    obtain ⟨body', encoded, _, frame⟩ := encodeFrame_ok same
    have bodies := List.append_inj (checksummed_inj frame) (by rw [FrameHeader.length_bytes, FrameHeader.length_bytes])
    have decodes' := decodeBody_encodeBody cancelMessage_sendable.declared encoded
    rw [← bodies.2, decodes] at decodes'
    exact absurd (congrArg Message.seq (Option.some.inj decodes')) (by decide)
  obtain ⟨frame, encoded, decoded', _⟩ := cancelMessage_sendable.received
  refine ⟨decoded, other, frame, decoded', ?_⟩
  rintro rfl
  exact other encoded

end PreemptionFabric
