import PreemptionFabric.Theorems.Framing

/-! The streaming decoder. What it has decided about the front of its buffer more bytes do not change, so the frames
    are a scanner, and the messages that are popped depend on the bytes alone and not on how they arrive. -/

namespace PreemptionFabric

/-! ### Frames as items of a stream -/

section
variable {buffer : List UInt8} {m : Message} {n : Nat}

theorem scanFrame_bounded (found : scanFrame buffer = .ok (m, n)) : 0 < n ∧ n ≤ buffer.length := by
  by_cases short : buffer.length < frameHeaderSize + 4
  · rw [scanFrame_short short] at found
    cases found
  · obtain ⟨h, rest, rfl, long⟩ := words_of_long short
    rw [scanFrame_words h long] at found
    split_ifs at found with magic version size part
    split at found
    · cases found
    · cases found
      rw [List.length_append, h.length_bytes]
      omega

/-- A decision about the front of the buffer is not changed by the bytes that follow. -/
theorem scanFrame_append (decided : scanFrame buffer ≠ .error .incomplete) (more : List UInt8) :
    scanFrame (buffer ++ more) = scanFrame buffer := by
  by_cases short : buffer.length < frameHeaderSize + 4
  · exact absurd (scanFrame_short short) decided
  · obtain ⟨h, rest, rfl, long⟩ := words_of_long short
    have longer : 4 ≤ (rest ++ more).length := by
      rw [List.length_append]
      omega
    rw [scanFrame_words h long] at decided
    rw [List.append_assoc, scanFrame_words h longer, scanFrame_words h long]
    split_ifs at decided with magic version size part
    · rw [if_pos magic, if_pos magic]
    · rw [if_neg magic, if_neg magic, if_pos version, if_pos version]
    · rw [if_neg magic, if_neg magic, if_neg version, if_neg version, if_pos size, if_pos size]
    · exact absurd rfl decided
    · have whole : ¬(rest ++ more).length < h.bodyLen.toNat + 4 := by
        rw [List.length_append]
        omega
      have body : (rest ++ more).take h.bodyLen.toNat = rest.take h.bodyLen.toNat :=
        List.take_append_of_le_length (by omega)
      have trailer : ((rest ++ more).drop h.bodyLen.toNat).take 4 = (rest.drop h.bodyLen.toNat).take 4 := by
        rw [List.drop_append_of_le_length (by omega), List.take_append_of_le_length]
        rw [List.length_drop]
        omega
      rw [body, trailer, if_neg whole, if_neg part]

/-- The frames of a stream. -/
def frameScanner : Scanner UInt8 Message where
  scan := scanFrame
  bounded := scanFrame_bounded
  item_append {xs m n} found ys := by
    have decided : scanFrame xs ≠ .error .incomplete := by
      rw [found]
      nofun
    rw [scanFrame_append decided ys, found]
  malformed_append {xs} bad ys := by
    have decided : scanFrame xs ≠ .error .incomplete := by
      rw [bad]
      nofun
    rw [scanFrame_append decided ys, bad]

end

/-! ### Runs of the decoder -/

namespace FrameDecoder

/-- What the decoder has not parsed yet, unless a frame was malformed. -/
def pending (d : FrameDecoder) : Option (List UInt8) := if d.fatal then none else some d.buffer

/-- One call of the decoder. -/
inductive Call
  | feed (data : List UInt8) | pop

/-- The bytes that are fed by a run. -/
def fed : List Call → List UInt8
  | [] => []
  | .feed data :: calls => data ++ fed calls
  | .pop :: calls => fed calls

/-- A run of calls: the messages that are popped, and the decoder that is left. -/
def serve (d : FrameDecoder) : List Call → List Message × FrameDecoder
  | [] => ([], d)
  | .feed data :: calls => (d.feed data).serve calls
  | .pop :: calls => (d.pop.1.toList ++ (d.pop.2.serve calls).1, (d.pop.2.serve calls).2)

section
variable {d : FrameDecoder}

theorem pop_malformed (live : d.fatal = false) (bad : scanFrame d.buffer = .error .malformed) :
    d.pop = (none, d.setFatal) := by
  rw [pop, live, bad]
  rfl

theorem pop_incomplete (live : d.fatal = false) (needs : scanFrame d.buffer = .error .incomplete) :
    d.pop = (none, d) := by
  rw [pop, live, needs]
  rfl

theorem pop_fatal (dead : d.fatal = true) : d.pop = (none, d) := by
  rw [pop, dead]
  rfl

theorem pending_of_live (live : d.fatal = false) : d.pending = some d.buffer := by
  rw [pending, live]
  rfl

/-- What a pop can do: yield the frame at the front, find it malformed, or leave the decoder as it is. -/
theorem pop_cases (d : FrameDecoder) :
    (∃ m n, d.fatal = false ∧ scanFrame d.buffer = .ok (m, n) ∧
      d.pop = (some m, { d with buffer := d.buffer.drop n })) ∨
    (d.fatal = false ∧ scanFrame d.buffer = .error .malformed ∧ d.pop = (none, d.setFatal)) ∨
    (d.fatal = false → scanFrame d.buffer = .error .incomplete) ∧ d.pop = (none, d) := by
  by_cases live : d.fatal = false
  · match scanned : scanFrame d.buffer with
    | .ok (m, n) => exact .inl ⟨m, n, live, rfl, pop_item live scanned⟩
    | .error .malformed => exact .inr (.inl ⟨live, rfl, pop_malformed live scanned⟩)
    | .error .incomplete => exact .inr (.inr ⟨fun _ => rfl, pop_incomplete live scanned⟩)
  · exact .inr (.inr ⟨fun alive => absurd alive live, pop_fatal (eq_true_of_ne_false live)⟩)

end

/-- The messages that are popped from here on when `more` is all that follows, and what is left then. -/
def remaining (d : FrameDecoder) (more : List UInt8) : List Message × Option (List UInt8) :=
  frameScanner.resume d.pending more

theorem remaining_feed (d : FrameDecoder) (data more : List UInt8) :
    (d.feed data).remaining more = d.remaining (data ++ more) := by
  cases live : d.fatal with
  | true =>
    have dead : (d.feed data).fatal = true := live
    simp only [remaining, pending, dead, live]
    rfl
  | false =>
    rw [remaining, remaining, pending_of_live live, pending_of_live (d := d.feed data) live]
    exact frameScanner.resume_append d.buffer data more

/-- A pop takes the next message off what remains. -/
theorem remaining_pop (d : FrameDecoder) (more : List UInt8) :
    d.remaining more = (d.pop.1.toList ++ (d.pop.2.remaining more).1, (d.pop.2.remaining more).2) := by
  rcases d.pop_cases with ⟨m, n, live, found, popped⟩ | ⟨live, bad, popped⟩ | ⟨_, popped⟩
  · have later : pending { d with buffer := d.buffer.drop n } = some (d.buffer.drop n) := pending_of_live live
    rw [popped, remaining, pending_of_live live, frameScanner.resume_item found, remaining, later]
    rfl
  · rw [popped, remaining, pending_of_live live, frameScanner.resume_malformed bad]
    rfl
  · rw [popped]
    rfl

/-- What is popped in a run comes off the front of the messages that remain. -/
theorem remaining_serve (d : FrameDecoder) (calls : List Call) (more : List UInt8) :
    d.remaining (fed calls ++ more) =
      ((d.serve calls).1 ++ ((d.serve calls).2.remaining more).1, ((d.serve calls).2.remaining more).2) := by
  induction calls generalizing d with
  | nil => rfl
  | cons call calls ih =>
    cases call with
    | feed data =>
      rw [fed, List.append_assoc, ← remaining_feed]
      exact ih (d.feed data)
    | pop =>
      rw [fed, remaining_pop, ih d.pop.2, serve, List.append_assoc]

theorem pop_shorter {d : FrameDecoder} {m : Message} (popped : d.pop.1 = some m) :
    d.pop.2.buffer.length < d.buffer.length := by
  rcases d.pop_cases with ⟨m', n, _, found, item⟩ | ⟨_, _, nothing⟩ | ⟨_, nothing⟩
  · obtain ⟨positive, bounded⟩ := scanFrame_bounded found
    rw [item]
    simp only [List.length_drop]
    omega
  · rw [nothing] at popped
    cases popped
  · rw [nothing] at popped
    cases popped

/-- Popping until there is no message. -/
def drain (d : FrameDecoder) : List Message × FrameDecoder :=
  match _popped : d.pop.1 with
  | none => ([], d.pop.2)
  | some m => (m :: d.pop.2.drain.1, d.pop.2.drain.2)
termination_by d.buffer.length
decreasing_by
  all_goals exact pop_shorter _popped

theorem drain_none {d : FrameDecoder} (none : d.pop.1 = none) : d.drain = ([], d.pop.2) := by
  rw [drain]
  split
  · rfl
  next m popped =>
    rw [none] at popped
    cases popped

theorem drain_some {d : FrameDecoder} {m : Message} (some : d.pop.1 = some m) :
    d.drain = (m :: d.pop.2.drain.1, d.pop.2.drain.2) := by
  rw [drain]
  split
  next popped =>
    rw [some] at popped
    cases popped
  next m' popped =>
    rw [some] at popped
    cases popped
    rfl

theorem remaining_of_none {d : FrameDecoder} (none : d.pop.1 = none) : d.remaining [] = ([], d.pop.2.pending) := by
  rcases d.pop_cases with ⟨m, n, _, _, item⟩ | ⟨live, bad, nothing⟩ | ⟨needs, nothing⟩
  · rw [item] at none
    cases none
  · rw [nothing, remaining, pending_of_live live, frameScanner.resume_malformed bad]
    rfl
  · rw [nothing, remaining]
    cases live : d.fatal with
    | true =>
      rw [pending, live]
      rfl
    | false =>
      rw [pending_of_live live, Scanner.resume, List.append_nil]
      exact frameScanner.parse_incomplete (needs live)

/-- Draining yields what remains when nothing follows. -/
theorem drain_eq (d : FrameDecoder) : (d.drain.1, d.drain.2.pending) = d.remaining [] := by
  induction d using drain.induct with
  | case1 d none =>
    rw [drain_none none, remaining_of_none none]
  | case2 d m some ih =>
    rw [drain_some some, remaining_pop, ← ih, some]
    rfl

theorem fatal_eq (d : FrameDecoder) : d.fatal = d.pending.isNone := by
  cases dead : d.fatal <;> simp [pending, dead]

theorem of_pending {d : FrameDecoder} {rest : List UInt8} (left : d.pending = some rest) :
    d.fatal = false ∧ d.buffer = rest := by
  cases dead : d.fatal with
  | true =>
    rw [pending, dead] at left
    cases left
  | false =>
    rw [pending_of_live dead] at left
    exact ⟨rfl, Option.some.inj left⟩

/-- Whatever the chunks and the pops in between, a run and the pops after it read the bytes that were fed. -/
theorem serve_drain (calls : List Call) :
    ((serve {} calls).1 ++ (serve {} calls).2.drain.1, (serve {} calls).2.drain.2.pending) =
      frameScanner.parse (fed calls) := by
  have run := remaining_serve {} calls []
  rw [← drain_eq, List.append_nil] at run
  exact run.symm

/-- The frames of messages that can be received, one after the other, are read as the messages. -/
theorem parse_frames {msgs : List Message} {frames : List (List UInt8)}
    (encoded : List.Forall₂ (fun m frame => encodeFrame m = .ok frame) msgs frames)
    (sendable : ∀ m ∈ msgs, Sendable m) : frameScanner.parse frames.flatten = (msgs, some []) := by
  induction encoded with
  | nil =>
    have empty : scanFrame [] = .error .incomplete := scanFrame_short (by decide)
    exact frameScanner.parse_incomplete empty
  | @cons m frame msgs frames first _ ih =>
    obtain ⟨frame', encoded', _, scanned⟩ := (sendable m List.mem_cons_self).received
    rw [first] at encoded'
    cases encoded'
    rw [List.flatten_cons, frameScanner.parse_item (scanned frames.flatten), List.drop_left,
      ih fun m member => sendable m (List.mem_cons_of_mem _ member)]

end FrameDecoder

open FrameDecoder in
/-- The messages that a new decoder yields, and whether it ends up fatal, depend only on the bytes that it is fed;
    and when these are the frames of messages that can be received, it yields exactly the messages and has no bytes
    left. -/
theorem serve_chunk_independent (calls : List Call) :
    ((serve {} calls).1 ++ (serve {} calls).2.drain.1 = (feed {} (fed calls)).drain.1 ∧
      (serve {} calls).2.drain.2.fatal = (feed {} (fed calls)).drain.2.fatal) ∧
    ∀ msgs frames, List.Forall₂ (fun m frame => encodeFrame m = .ok frame) msgs frames →
      (∀ m ∈ msgs, Sendable m) → fed calls = frames.flatten →
        (serve {} calls).1 ++ (serve {} calls).2.drain.1 = msgs ∧ (serve {} calls).2.drain.2.fatal = false ∧
          (serve {} calls).2.drain.2.buffered = 0 := by
  have run := serve_drain calls
  have atOnce := serve_drain [.feed (fed calls)]
  rw [fed, fed, List.append_nil, serve, serve, List.nil_append, ← run] at atOnce
  constructor
  · rw [fatal_eq, fatal_eq]
    exact ⟨(congrArg Prod.fst atOnce).symm, congrArg (fun p => p.2.isNone) atOnce.symm⟩
  · intro msgs frames encoded sendable bytes
    rw [bytes, parse_frames encoded sendable] at run
    obtain ⟨live, empty⟩ := of_pending (congrArg Prod.snd run)
    refine ⟨congrArg Prod.fst run, live, ?_⟩
    rw [buffered, empty]
    rfl

open FrameDecoder in
/-- A frame arrives in two pieces, with a pop in between, and another one right behind it. -/
theorem serve_chunk_independent_split :
    ∃ frame, encodeFrame cancelMessage = .ok frame ∧
      let calls : List Call := [.feed (frame.take 7), .pop, .feed (frame.drop 7 ++ frame), .pop]
      (serve {} calls).1 ++ (serve {} calls).2.drain.1 = [cancelMessage, cancelMessage] ∧
        (serve {} calls).2.drain.2.fatal = false ∧ (serve {} calls).2.drain.2.buffered = 0 := by
  obtain ⟨frame, encoded, _⟩ := cancelMessage_sendable.received
  refine ⟨frame, encoded, ?_⟩
  refine (serve_chunk_independent _).2 [cancelMessage, cancelMessage] [frame, frame] ?_ ?_ ?_
  · exact .cons encoded (.cons encoded .nil)
  · intro m member
    have same : m = cancelMessage := by simpa using member
    rw [same]
    exact cancelMessage_sendable
  · simp [fed, ← List.append_assoc]

/-! ### The two decoders -/

/-- The length field of the header describes exactly the bytes. -/
def Describes (b : List UInt8) : Prop :=
  ∃ bodyLen rest, ByteReader.u32 (b.drop 16) = some (bodyLen, rest) ∧ bodyLen ≤ maxFrameBody ∧
    b.length = frameHeaderSize + bodyLen.toNat + 4

/-- A new streaming decoder pops what the decoder of frames returns, and is fatal where that fails. -/
def DecodersAgree (b : List UInt8) : Prop :=
  (∀ m, (FrameDecoder.feed {} b).pop.1 = some m ↔ decodeFrame b = .ok m) ∧
    ((FrameDecoder.feed {} b).pop.2.fatal = true ↔ ∃ e, decodeFrame b = .error e)

/-- The bytes begin with the magic and the version, end with their checksum, and hold a body that can be decoded. -/
structure Intact (b : List UInt8) : Prop where
  start : b.take 8 = ByteWriter.u32 frameMagic ++ ByteWriter.u32 protocolVersion
  sealed : b = checksummed (b.take (b.length - 4))
  body : (decodeBody ((b.drop frameHeaderSize).take (b.length - (frameHeaderSize + 4)))).isSome = true

/-- Bytes that their length field describes are a header, a body of that length and a trailer. -/
theorem Describes.words {b : List UInt8} (described : Describes b) :
    ∃ (h : FrameHeader) (body : List UInt8) (crc : UInt32), b = h.bytes ++ (body ++ ByteWriter.u32 crc) ∧
      body.length = h.bodyLen.toNat ∧ h.bodyLen ≤ maxFrameBody := by
  obtain ⟨bodyLen, more, stated, small, total⟩ := described
  obtain ⟨h, rest, rfl⟩ := exists_header (show frameHeaderSize ≤ b.length by omega)
  have same : h.bodyLen = bodyLen := by
    rw [h.drop_bodyLen, ByteReader.u32_u32] at stated
    exact congrArg Prod.fst (Option.some.inj stated)
  subst same
  rw [List.length_append, h.length_bytes] at total
  obtain ⟨crc, word, _⟩ := u32_trailer (show h.bodyLen.toNat + 4 ≤ rest.length by omega)
  refine ⟨h, rest.take h.bodyLen.toNat, crc, ?_, ?_, small⟩
  · have last : (rest.drop h.bodyLen.toNat).take 4 = rest.drop h.bodyLen.toNat := by
      refine List.take_of_length_le ?_
      rw [List.length_drop]
      omega
    rw [← word, last, List.take_append_drop]
  · rw [List.length_take]
    omega

section
variable {h : FrameHeader} {body : List UInt8} {crc : UInt32}

theorem intact_iff (h : FrameHeader) (body : List UInt8) (crc : UInt32) :
    Intact (h.bytes ++ (body ++ ByteWriter.u32 crc)) ↔
      (h.magic = frameMagic ∧ h.version = protocolVersion) ∧ crc32 (h.bytes ++ body) = crc ∧
        (decodeBody body).isSome = true := by
  have total : (h.bytes ++ (body ++ ByteWriter.u32 crc)).length = frameHeaderSize + body.length + 4 := by
    simp only [List.length_append, h.length_bytes, ByteWriter.length_u32]
    omega
  have front : (h.bytes ++ (body ++ ByteWriter.u32 crc)).take (frameHeaderSize + body.length + 4 - 4) =
      h.bytes ++ body := by
    rw [Nat.add_sub_cancel, take_body_end, List.take_left]
  have inner : ((h.bytes ++ (body ++ ByteWriter.u32 crc)).drop frameHeaderSize).take
      (frameHeaderSize + body.length + 4 - (frameHeaderSize + 4)) = body := by
    rw [List.drop_left' h.length_bytes, show frameHeaderSize + body.length + 4 - (frameHeaderSize + 4) = body.length by
      omega, List.take_left]
  constructor
  · rintro ⟨start, sealed, decodes⟩
    rw [h.take_start] at start
    rw [total, front] at sealed
    rw [total, inner] at decodes
    refine ⟨?_, ?_, decodes⟩
    · obtain ⟨magic, version⟩ := List.append_inj start (by simp)
      exact ⟨u32_inj magic, u32_inj version⟩
    · rw [checksummed, ← List.append_assoc] at sealed
      exact (u32_inj (List.append_cancel_left sealed)).symm
  · rintro ⟨⟨magic, version⟩, sum, decodes⟩
    refine ⟨?_, ?_, ?_⟩
    · rw [h.take_start, magic, version]
    · rw [total, front, checksummed, sum, List.append_assoc]
    · rw [total, inner]
      exact decodes

theorem checkBody_failed (damaged : ¬(crc32 (h.bytes ++ body) = crc ∧ (decodeBody body).isSome = true)) :
    ∃ e, checkBody h body (ByteWriter.u32 crc) = .error e := by
  rw [checkBody_eq h rfl]
  by_cases sum : crc32 (h.bytes ++ body) = crc
  · cases decoded : decodeBody body with
    | none => exact ⟨.malformedBody, by simp [sum, required]⟩
    | some msg => exact absurd ⟨sum, by simp [decoded]⟩ damaged
  · exact ⟨.checksum, if_pos sum⟩

/-- Bytes that are not intact are rejected by both decoders. -/
theorem rejected_of_not_intact (size : body.length = h.bodyLen.toNat) (small : h.bodyLen ≤ maxFrameBody)
    (damaged : ¬Intact (h.bytes ++ (body ++ ByteWriter.u32 crc))) :
    scanFrame (h.bytes ++ (body ++ ByteWriter.u32 crc)) = .error .malformed ∧
      ∃ e, decodeFrame (h.bytes ++ (body ++ ByteWriter.u32 crc)) = .error e := by
  have exact : (body ++ ByteWriter.u32 crc).length = h.bodyLen.toNat + 4 := by
    rw [List.length_append, ByteWriter.length_u32, size]
  rw [intact_iff, not_and] at damaged
  rw [scanFrame_words h (by omega), decodeFrame_words h (by omega), exact, ← size, List.take_left, List.drop_left,
    List.take_of_length_le (by simp)]
  by_cases magic : h.magic = frameMagic
  · by_cases version : h.version = protocolVersion
    · obtain ⟨e, failed⟩ := checkBody_failed (damaged ⟨magic, version⟩)
      rw [failed]
      simp only [magic, version, ne_eq, not_true_eq_false, if_false, gt_iff_lt, UInt32.not_lt.mpr small, Nat.lt_irrefl]
      exact ⟨trivial, e, rfl⟩
    · rw [if_neg (not_not_intro magic), if_neg (not_not_intro magic), if_pos version, if_pos version]
      exact ⟨rfl, _, rfl⟩
  · rw [if_pos magic, if_pos magic]
    exact ⟨rfl, _, rfl⟩

/-- On intact bytes the streaming decoder does not compare the types. -/
theorem decoded_of_intact (size : body.length = h.bodyLen.toNat) (small : h.bodyLen ≤ maxFrameBody)
    (intact : Intact (h.bytes ++ (body ++ ByteWriter.u32 crc))) :
    ∃ msg : Message, body.take 4 = ByteWriter.u32 (Enumeration.code msg.type) ∧
      (∃ n, scanFrame (h.bytes ++ (body ++ ByteWriter.u32 crc)) = .ok ({ msg with seq := h.seq }, n)) ∧
      decodeFrame (h.bytes ++ (body ++ ByteWriter.u32 crc)) =
        if Enumeration.code msg.type ≠ h.type then .error .malformedBody else .ok { msg with seq := h.seq } := by
  obtain ⟨⟨magic, version⟩, sum, decodes⟩ := (intact_iff h body crc).mp intact
  obtain ⟨msg, decoded⟩ := Option.isSome_iff_exists.mp decodes
  obtain ⟨tail, begins⟩ := decodeBody_type decoded
  have frame : h.bytes ++ (body ++ ByteWriter.u32 crc) = checksummed (h.bytes ++ body) := by
    rw [checksummed, sum, List.append_assoc]
  refine ⟨msg, ?_, ⟨(checksummed (h.bytes ++ body)).length, ?_⟩, ?_⟩
  · rw [begins]
    exact List.take_left' (ByteWriter.length_u32 _)
  · have scanned := scanFrame_sealed magic version size small []
    rw [List.append_nil, decoded] at scanned
    rw [frame]
    exact scanned
  · rw [frame, decodeFrame_sealed magic version size small, decoded]
    rfl

end

theorem pop_feed_of_scan {b : List UInt8} {m : Message} {n : Nat} (found : scanFrame b = .ok (m, n)) :
    (FrameDecoder.feed {} b).pop = (some m, { buffer := b.drop n }) :=
  FrameDecoder.pop_item rfl found

theorem pop_feed_of_malformed {b : List UInt8} (bad : scanFrame b = .error .malformed) :
    (FrameDecoder.feed {} b).pop = (none, { fatal := true }) :=
  FrameDecoder.pop_malformed rfl bad

/-- The type in the body follows the header. -/
theorem take_body_type {h : FrameHeader} {body : List UInt8} {crc type : UInt32}
    (begins : body.take 4 = ByteWriter.u32 type) :
    ((h.bytes ++ (body ++ ByteWriter.u32 crc)).drop frameHeaderSize).take 4 = ByteWriter.u32 type := by
  have long : 4 ≤ body.length := by
    have size := congrArg List.length begins
    rw [List.length_take, ByteWriter.length_u32] at size
    omega
  rw [List.drop_left' h.length_bytes, List.take_append_of_le_length long, begins]

/-- The decoders agree on bytes that their length field describes exactly when these are not intact, or the type in
    the header is the type in the body. -/
theorem decodersAgree_iff (b : List UInt8) (described : Describes b) :
    DecodersAgree b ↔ (Intact b → (b.drop 8).take 4 = (b.drop frameHeaderSize).take 4) := by
  obtain ⟨h, body, crc, rfl, size, small⟩ := described.words
  by_cases intact : Intact (h.bytes ++ (body ++ ByteWriter.u32 crc))
  · obtain ⟨msg, begins, ⟨n, scanned⟩, decoded⟩ := decoded_of_intact size small intact
    rw [DecodersAgree, pop_feed_of_scan scanned, decoded, h.take_type, take_body_type begins]
    by_cases same : Enumeration.code msg.type = h.type
    · rw [if_neg (not_not_intro same), same]
      simp
    · rw [if_pos same]
      refine ⟨fun agree => ?_, fun equal => absurd (u32_inj (equal intact)).symm same⟩
      cases (agree.1 _).mp rfl
  · obtain ⟨scanned, e, decoded⟩ := rejected_of_not_intact size small intact
    rw [DecodersAgree, pop_feed_of_malformed scanned, decoded]
    simp [intact]

theorem describes_sealed {h : FrameHeader} {body : List UInt8} (size : body.length = h.bodyLen.toNat)
    (small : h.bodyLen ≤ maxFrameBody) : Describes (checksummed (h.bytes ++ body)) := by
  rw [checksummed_frame]
  refine ⟨h.bodyLen, body ++ ByteWriter.u32 (crc32 (h.bytes ++ body)), ?_, small, ?_⟩
  · rw [h.drop_bodyLen, ByteReader.u32_u32]
  · simp only [List.length_append, h.length_bytes, ByteWriter.length_u32, size, Nat.add_assoc]

def cancelBody : List UInt8 :=
  encodeBodyFields cancelMessage ++ (ByteWriter.u32 2 ++ cancelMessage.detail) ++
    (ByteWriter.u32 1 ++ cancelMessage.extra)

theorem encodeBody_cancel : encodeBody cancelMessage = .ok cancelBody := rfl

theorem length_cancelBody : cancelBody.length = 248 := length_encodeBody encodeBody_cancel

/-- The body of the cancellation under the type `type`, sealed like any frame. -/
def labelledFrame (type : MessageType) : List UInt8 :=
  checksummed (FrameHeader.bytes ⟨frameMagic, protocolVersion, Enumeration.code type, cancelMessage.seq, 248⟩ ++
    cancelBody)

theorem cancelBody_small : (248 : UInt32) ≤ maxFrameBody := by decide

theorem labelledFrame_describes (type : MessageType) : Describes (labelledFrame type) :=
  describes_sealed length_cancelBody cancelBody_small

theorem decodersAgree_cancel : DecodersAgree (labelledFrame .cancel) := by
  refine (decodersAgree_iff (labelledFrame .cancel) (labelledFrame_describes .cancel)).mpr fun _ => ?_
  obtain ⟨tail, begins⟩ := decodeBody_type (decodeBody_encodeBody (by decide) encodeBody_cancel)
  have type : cancelBody.take 4 = ByteWriter.u32 (Enumeration.code MessageType.cancel) := by
    rw [begins]
    exact List.take_left' (ByteWriter.length_u32 _)
  rw [labelledFrame, checksummed_frame, FrameHeader.take_type, take_body_type type]

/-- A cancellation whose header says RESUMED is popped from a stream and rejected as a frame. -/
theorem relabelled_frame_not_agreed :
    Describes (labelledFrame .resumed) ∧ ¬DecodersAgree (labelledFrame .resumed) ∧
      (FrameDecoder.feed {} (labelledFrame .resumed)).pop.1 = some cancelMessage ∧
      decodeFrame (labelledFrame .resumed) = .error .malformedBody := by
  have decoded : decodeBody cancelBody = some cancelMessage := decodeBody_encodeBody (by decide) encodeBody_cancel
  have popped : (FrameDecoder.feed {} (labelledFrame .resumed)).pop.1 = some cancelMessage := by
    have scanned := scanFrame_sealed
      (h := ⟨frameMagic, protocolVersion, Enumeration.code MessageType.resumed, cancelMessage.seq, 248⟩)
      rfl rfl length_cancelBody cancelBody_small []
    rw [List.append_nil, decoded] at scanned
    rw [labelledFrame, pop_feed_of_scan scanned]
  have rejected : decodeFrame (labelledFrame .resumed) = .error .malformedBody := by
    rw [labelledFrame, decodeFrame_sealed rfl rfl length_cancelBody cancelBody_small, decoded]
    rfl
  refine ⟨labelledFrame_describes .resumed, fun agree => ?_, popped, rejected⟩
  rw [DecodersAgree, rejected] at agree
  cases (agree.1 cancelMessage).mp popped

end PreemptionFabric
