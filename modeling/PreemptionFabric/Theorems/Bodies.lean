import PreemptionFabric.Framing

/-! The bodies of frames. The decoder reads back the message that the encoder wrote, and a body that it reads is the
    encoding of the message up to the byte of its boolean, which the decoder takes for true whatever it is but zero. -/

namespace PreemptionFabric
open Parser

/-! ### Fields -/

namespace BodyParser

theorem u8_reads (v : UInt8) : Reads u8 (ByteWriter.u8 v) v := Reads.required (ByteReader.u8_u8 v)

theorem u32_reads (v : UInt32) : Reads u32 (ByteWriter.u32 v) v := Reads.required (ByteReader.u32_u32 v)

theorem u64_reads (v : UInt64) : Reads u64 (ByteWriter.u64 v) v := Reads.required (ByteReader.u64_u64 v)

theorem string_reads {s bytes : List UInt8} (written : ByteWriter.string s = .ok bytes) : Reads string bytes s :=
  Reads.required (ByteReader.string_string written)

theorem bool_reads (v : Bool) : Reads bool (ByteWriter.bool v) v := by
  refine (u8_reads _).last ?_
  cases v with
  | false => exact Reads.pure false
  | true => exact Reads.pure true

theorem ofCode_reads {α : Type} [DecidableEq α] [Enumeration α] (a : α) : Reads (ofCode (Enumeration.code a)) [] a := by
  rw [ofCode, Enumeration.ofCode_code]
  exact Reads.pure a

theorem enum_reads {α : Type} [DecidableEq α] [Enumeration α] (a : α) :
    Reads enum (ByteWriter.u32 (Enumeration.code a)) a :=
  (u32_reads _).last (ofCode_reads a)

theorem code_ne_zero {type : MessageType} (declared : type ≠ .invalid) : Enumeration.code type ≠ 0 := by
  intro zero
  have decoded := Enumeration.ofCode_code type
  rw [zero] at decoded
  exact declared (Option.some.inj decoded).symm

theorem messageType_reads {type : MessageType} (declared : type ≠ .invalid) :
    Reads (messageType (Enumeration.code type)) [] type := by
  rw [messageType, if_neg (code_ne_zero declared)]
  exact ofCode_reads type

theorem u8_spells : Spells u8 fun v bytes => bytes = ByteWriter.u8 v :=
  Spells.required fun found => ⟨_, ByteReader.eq_of_u8 found, rfl⟩

theorem u32_spells : Spells u32 fun v bytes => bytes = ByteWriter.u32 v :=
  Spells.required fun found => ⟨_, ByteReader.eq_of_u32 found, rfl⟩

theorem u64_spells : Spells u64 fun v bytes => bytes = ByteWriter.u64 v :=
  Spells.required fun found => ⟨_, ByteReader.eq_of_u64 found, rfl⟩

theorem string_spells : Spells string fun s bytes => ByteWriter.string s = .ok bytes := by
  refine Spells.required fun {data s rest} found => ?_
  rw [ByteReader.string] at found
  split at found
  · cases found
  next n tail read =>
    split_ifs at found with wide short
    cases found
    have count : (tail.take n.toNat).length = n.toNat := by
      rw [List.length_take]
      omega
    refine ⟨ByteWriter.u32 n ++ tail.take n.toNat, ?_, ?_⟩
    · rw [ByteReader.eq_of_u32 read, List.append_assoc, List.take_append_drop]
    · rw [ByteWriter.string_ok_iff, count, UInt32.ofNat_toNat]
      exact ⟨n.toNat_lt, rfl⟩

theorem bool_spells : Spells bool fun v bytes => ∃ b : UInt8, (b != 0) = v ∧ bytes = ByteWriter.u8 b := by
  refine u8_spells.next fun b => Spells.pure ⟨b, rfl, ?_⟩
  rw [List.append_nil]

theorem ofCode_spells {α : Type} [DecidableEq α] [Enumeration α] (t : UInt32) :
    Spells (ofCode (α := α) t) fun a bytes => bytes = [] ∧ Enumeration.code a = t := by
  intro c c' a ran
  rw [ofCode] at ran
  split at ran
  next a' found =>
    cases ran
    exact ⟨[], rfl, rfl, Enumeration.code_of_ofCode found⟩
  next => cases ran

theorem messageType_spells (t : UInt32) :
    Spells (messageType t) fun type bytes => bytes = [] ∧ Enumeration.code type = t := by
  intro c c' type ran
  rw [messageType] at ran
  split at ran
  next => cases ran
  next => exact ofCode_spells t ran

theorem enum_spells {α : Type} [DecidableEq α] [Enumeration α] :
    Spells (enum (α := α)) fun a bytes => bytes = ByteWriter.u32 (Enumeration.code a) := by
  refine u32_spells.next fun t => (ofCode_spells t).mono ?_
  rintro a _ ⟨rfl, rfl⟩
  exact List.append_nil _

end BodyParser

/-! ### The layout of a body -/

open ByteWriter in
/-- The fields of a body between its sequence number and its boolean, and what follows them. -/
def bodyFront (m : Message) (rest : List UInt8) : List UInt8 :=
  u64 m.coordinatorEpoch.value ++ (u64 m.workerId.value ++ (u64 m.workerBootId.value ++ (u64 m.executionId.value ++
    (u64 m.executionGeneration.value ++ (u64 m.attemptId.value ++ (u64 m.attemptGeneration.value ++
    (u64 m.requestId.value ++ (u64 m.requestGeneration.value ++ (u64 m.workerB.value ++ (u64 m.progressPosition ++
    (u64 m.progressGeneration.value ++ (u32 (Enumeration.code m.progressKind) ++ (u64 m.safePointId.value ++
    (u64 m.safePointGeneration.value ++ (u64 m.safePointPosition ++ rest)))))))))))))))

open ByteWriter in
/-- The fields of a body between its boolean and its strings, and the strings. -/
def bodyBack (m : Message) (texts : List UInt8) : List UInt8 :=
  u64 m.checkpointRef.value ++ (u64 m.checkpointGeneration.value ++ (u64 m.captureId.value ++
    (u64 m.captureGeneration.value ++ (u64 m.resumeId.value ++ (u64 m.resumeGeneration.value ++
    (u32 (Enumeration.code m.resource) ++ (u64 m.units ++ (u64 m.contractId.value ++
    (u64 m.contractGeneration.value ++ (u32 (Enumeration.code m.reason) ++ (u32 (Enumeration.code m.outcome) ++
    (u32 (Enumeration.code m.lifecycle) ++ (u32 (Enumeration.code m.preemptibility) ++
    (u32 (Enumeration.code m.resumeOutcome) ++ (u32 (Enumeration.code m.depStatus) ++
    (u32 (Enumeration.code m.preservationOutcome) ++ texts))))))))))))))))

/-- A body of the message `m` with the sequence number `seq`, the byte `flag` for the boolean and the encoded strings
    `texts`. -/
def spelledBody (m : Message) (seq : UInt32) (flag : UInt8) (texts : List UInt8) : List UInt8 :=
  ByteWriter.u32 (Enumeration.code m.type) ++ (ByteWriter.u32 seq ++
    bodyFront m (ByteWriter.u8 flag ++ bodyBack m texts))

/-- The encoder writes the sequence number of the message, and 0 or 1. -/
theorem encodeBodyFields_append (m : Message) (texts : List UInt8) :
    encodeBodyFields m ++ texts = spelledBody m m.seq (if m.safePointCaptureRequired then 1 else 0) texts := by
  unfold encodeBodyFields
  iterate 35 refine (List.append_assoc _ _ _).trans ?_
  rfl

/-! ### The round trip -/

section
variable {m : Message} {body : List UInt8}

theorem encodeBody_ok (encoded : encodeBody m = .ok body) :
    ∃ detail extra, ByteWriter.string m.detail = .ok detail ∧ ByteWriter.string m.extra = .ok extra ∧
      body = encodeBodyFields m ++ detail ++ extra := by
  rw [encodeBody] at encoded
  cases detail : ByteWriter.string m.detail with
  | error e =>
    rw [detail] at encoded
    cases encoded
  | ok written =>
    cases extra : ByteWriter.string m.extra with
    | error e =>
      rw [detail, extra] at encoded
      cases encoded
    | ok written' =>
      rw [detail, extra] at encoded
      have same : encodeBodyFields m ++ written ++ written' = body := Except.ok.inj encoded
      exact ⟨written, written', rfl, rfl, same.symm⟩

open BodyParser in
theorem readFields_reads (declared : m.type ≠ .invalid) (encoded : encodeBody m = .ok body) :
    Reads readFields body m := by
  obtain ⟨detail, extra, writtenDetail, writtenExtra, same⟩ := encodeBody_ok encoded
  rw [same, List.append_assoc, encodeBodyFields_append, spelledBody, bodyFront, bodyBack]
  refine (u32_reads _).bind ?_
  refine (u32_reads _).bind ?_
  refine (messageType_reads declared).after ?_
  iterate 12 refine (u64_reads _).bind ?_
  refine (enum_reads _).bind ?_
  iterate 3 refine (u64_reads _).bind ?_
  refine (bool_reads _).bind ?_
  iterate 6 refine (u64_reads _).bind ?_
  refine (enum_reads _).bind ?_
  iterate 3 refine (u64_reads _).bind ?_
  iterate 7 refine (enum_reads _).bind ?_
  refine (string_reads writtenDetail).bind ?_
  exact (string_reads writtenExtra).last (Reads.pure _)

theorem decodeBody_encodeBody (declared : m.type ≠ .invalid) (encoded : encodeBody m = .ok body) :
    decodeBody body = some m := by
  have read := readFields_reads declared encoded []
  rw [List.append_nil] at read
  rw [decodeBody, readBody, runFrom_bind, read]
  rfl

/-- The size of a body: the fixed fields, the lengths of the strings and the strings. -/
def Message.bodySize (m : Message) : Nat := 245 + m.detail.length + m.extra.length

theorem length_encodeBodyFields (m : Message) : (encodeBodyFields m).length = 237 := by
  unfold encodeBodyFields
  simp only [List.length_append, ByteWriter.length_u32, ByteWriter.length_u64, ByteWriter.length_bool]

theorem length_encodeBody (encoded : encodeBody m = .ok body) : body.length = m.bodySize := by
  obtain ⟨detail, extra, writtenDetail, writtenExtra, same⟩ := encodeBody_ok encoded
  obtain ⟨_, sameDetail⟩ := ByteWriter.string_ok_iff.mp writtenDetail
  obtain ⟨_, sameExtra⟩ := ByteWriter.string_ok_iff.mp writtenExtra
  rw [same, sameDetail, sameExtra]
  simp only [List.length_append, length_encodeBodyFields, ByteWriter.length_u32, Message.bodySize]
  omega

theorem encodeBody_of_fits (fits : m.bodySize < 2 ^ 32) : ∃ body, encodeBody m = .ok body := by
  rw [Message.bodySize] at fits
  have detail := ByteWriter.string_ok_iff.mpr ⟨show m.detail.length < 2 ^ 32 by omega, rfl⟩
  have extra := ByteWriter.string_ok_iff.mpr ⟨show m.extra.length < 2 ^ 32 by omega, rfl⟩
  rw [encodeBody, detail, extra]
  exact ⟨_, rfl⟩

end

/-! ### Spellings -/

/-- The bytes that are decoded as the message. -/
def IsBody (m : Message) (body : List UInt8) : Prop :=
  ∃ flag detail extra, (flag != 0) = m.safePointCaptureRequired ∧ ByteWriter.string m.detail = .ok detail ∧
    ByteWriter.string m.extra = .ok extra ∧ body = spelledBody m m.seq flag (detail ++ extra)

open BodyParser in
theorem readFields_spells : Spells readFields IsBody := by
  refine u32_spells.next fun t => ?_
  refine u32_spells.next fun seq => ?_
  refine (messageType_spells t).bind ?_
  rintro type _ ⟨rfl, rfl⟩
  iterate 12 refine u64_spells.next fun _ => ?_
  refine enum_spells.next fun _ => ?_
  iterate 3 refine u64_spells.next fun _ => ?_
  refine bool_spells.bind ?_
  rintro _ _ ⟨flag, rfl, rfl⟩
  iterate 6 refine u64_spells.next fun _ => ?_
  refine enum_spells.next fun _ => ?_
  iterate 3 refine u64_spells.next fun _ => ?_
  iterate 7 refine enum_spells.next fun _ => ?_
  refine string_spells.bind fun _ detail writtenDetail => ?_
  refine string_spells.bind fun _ extra writtenExtra => ?_
  refine Spells.pure ⟨flag, detail, extra, rfl, writtenDetail, writtenExtra, ?_⟩
  rw [List.append_nil]
  rfl

/-- A body that is decoded is read to its end. -/
theorem decodeBody_ok {m : Message} {body : List UInt8} (decoded : decodeBody body = some m) :
    ∃ c, runFrom readFields ⟨body, true⟩ = (.ok m, c) ∧ c.rest = [] := by
  have read : (runFrom readBody ⟨body, true⟩).1 = .ok m := by
    rw [decodeBody] at decoded
    cases ran : (runFrom readBody ⟨body, true⟩).1 with
    | error e =>
      rw [ran] at decoded
      cases decoded
    | ok m' =>
      rw [ran] at decoded
      cases decoded
      rfl
  obtain ⟨m', c, fields, rest⟩ := runFrom_bind_ok (Prod.ext read rfl)
  obtain ⟨ended, c', asked, done⟩ := runFrom_bind_ok rest
  cases asked
  split at done
  next empty =>
    cases done
    exact ⟨_, fields, List.isEmpty_iff.mp empty⟩
  next => cases done

theorem isBody_of_decodeBody {m : Message} {body : List UInt8} (decoded : decodeBody body = some m) :
    IsBody m body := by
  obtain ⟨c, read, ended⟩ := decodeBody_ok decoded
  obtain ⟨bytes, consumed, spelled⟩ := readFields_spells read
  rw [ended, List.append_nil] at consumed
  rw [show body = bytes from consumed]
  exact spelled

/-- A message has the type that its body begins with. -/
theorem decodeBody_type {m : Message} {body : List UInt8} (decoded : decodeBody body = some m) :
    ∃ rest, body = ByteWriter.u32 (Enumeration.code m.type) ++ rest := by
  obtain ⟨flag, detail, extra, _, _, _, spelled⟩ := isBody_of_decodeBody decoded
  exact ⟨_, spelled⟩

theorem bodyFront_eq (m : Message) (rest : List UInt8) : bodyFront m rest = bodyFront m [] ++ rest := by
  simp only [bodyFront, List.append_assoc, List.nil_append]

theorem length_bodyFront (m : Message) : (bodyFront m []).length = 124 := by
  simp [bodyFront]

end PreemptionFabric
