import PreemptionFabric.Coordinator
import PreemptionFabric.Theorems.Streaming
import PreemptionFabric.Transport

/-! The transport delivers in order. However the sockets cut the stream, what is received is a prefix of what was sent,
    and the connection that the coordinator reads from is the one of its model: the messages that the bytes spell, one
    after the other, until a close. -/

namespace PreemptionFabric
namespace TcpConnection

/-! ### Sending -/

section Sending
variable {conn : TcpConnection} {m : Message}

/-- The bytes that the socket takes are all of them if `write_all` returns true, and else some are missing. -/
theorem writeAll_cases (bytes : List UInt8) (answers : List Nat) :
    writeAll bytes answers = (some true, bytes) ∨
      (writeAll bytes answers).1 ≠ some true ∧ ∃ rest ≠ [], (writeAll bytes answers).2 ++ rest = bytes := by
  induction answers generalizing bytes with
  | nil =>
    cases bytes with
    | nil => exact .inl rfl
    | cons byte bytes => exact .inr ⟨nofun, byte :: bytes, nofun, rfl⟩
  | cons r answers ih =>
    cases bytes with
    | nil => exact .inl rfl
    | cons byte bytes =>
      generalize whole : byte :: bytes = frame at ih
      have filled : frame.isEmpty = false := by simp [← whole]
      rw [writeAll, filled]
      by_cases fails : r = 0
      · rw [if_neg Bool.false_ne_true, if_pos fails]
        exact .inr ⟨nofun, frame, by simp [← whole], rfl⟩
      · rw [if_neg Bool.false_ne_true, if_neg fails]
        generalize min r (min frame.length chunkLimit) = sent
        dsimp only
        rcases ih (frame.drop sent) with all | ⟨returned, rest, missing, part⟩
        · rw [all]
          exact .inl (Prod.ext rfl (List.take_append_drop sent frame))
        · refine .inr ⟨returned, rest, missing, ?_⟩
          rw [List.append_assoc, part, List.take_append_drop]

/-- Sending a message that can be received puts its frame on the wire, or a part of it that ends within the frame. -/
theorem send_cases (sendable : Sendable m) (up : conn.isOpen = true) (answers : List Nat) :
    ∃ r bytes, conn.send m answers = .ok (r, bytes) ∧
      (r = some true ∧ (∀ more, scanFrame (bytes ++ more) = .ok (m, bytes.length)) ∨
        r ≠ some true ∧ scanFrame bytes = .error .incomplete) := by
  obtain ⟨frame, encoded, _, scanned⟩ := sendable.received
  refine ⟨(writeAll frame answers).1, (writeAll frame answers).2, ?_, ?_⟩
  · rw [send, up, encoded]
    rfl
  · rcases writeAll_cases frame answers with all | ⟨returned, rest, missing, part⟩
    · rw [all]
      exact .inl ⟨rfl, scanned⟩
    · refine .inr ⟨returned, ?_⟩
      have found := scanned []
      rw [List.append_nil, ← part] at found
      refine frameScanner.scan_short found ?_
      rw [List.length_append]
      have := List.length_pos_iff.mpr missing
      omega

/-- A sender that gives up at the first message whose `send` does not return true, or whose socket takes nothing after
    it: the messages that it has sent, and the bytes that the socket has taken. -/
def sendAll (conn : TcpConnection) : List (Message × List Nat) → List Message × List UInt8
  | [] => ([], [])
  | (m, answers) :: sends =>
    match conn.send m answers with
    | .ok (some true, bytes) => (m :: (conn.sendAll sends).1, bytes ++ (conn.sendAll sends).2)
    | .ok (_, bytes) => ([], bytes)
    | .error _ => ([], [])

/-- The bytes on the wire spell the messages that were sent, and perhaps a part of another one. -/
theorem parse_sendAll (conn : TcpConnection) (up : conn.isOpen = true) {sends : List (Message × List Nat)}
    (sendable : ∀ s ∈ sends, Sendable s.1) :
    ∃ part, frameScanner.parse (conn.sendAll sends).2 = ((conn.sendAll sends).1, some part) := by
  induction sends with
  | nil =>
    have empty : scanFrame [] = .error .incomplete := scanFrame_short (by decide)
    exact ⟨[], frameScanner.parse_incomplete empty⟩
  | cons s sends ih =>
    obtain ⟨m, answers⟩ := s
    obtain ⟨rest, later⟩ := ih fun s member => sendable s (List.mem_cons_of_mem _ member)
    obtain ⟨r, bytes, sent, whole | ⟨returned, part⟩⟩ := send_cases (sendable _ List.mem_cons_self) up answers
    · obtain ⟨rfl, found⟩ := whole
      refine ⟨rest, ?_⟩
      simp only [sendAll, sent]
      rw [frameScanner.parse_item (found _), List.drop_left, later]
    · refine ⟨bytes, ?_⟩
      have stops : conn.sendAll ((m, answers) :: sends) = ([], bytes) := by
        rw [sendAll, sent]
        match r with
        | some true => exact absurd rfl returned
        | some false => rfl
        | none => rfl
      rw [stops]
      exact frameScanner.parse_incomplete part

end Sending

/-! ### Receiving -/

/-- The bytes of the reads. -/
def stream (reads : List Read) : List UInt8 := (reads.map Read.bytes).flatten

theorem remaining_new (bytes : List UInt8) : FrameDecoder.remaining {} bytes = frameScanner.parse bytes := rfl

theorem stream_cons (read : Read) (reads : List Read) : stream (read :: reads) = read.bytes ++ stream reads := rfl

section Receiving
variable {conn : TcpConnection} {reads : List Read}

/-- A call takes at most one message off what remains, and nothing else gets lost. -/
theorem remaining_receiveLoop (conn : TcpConnection) (reads : List Read) :
    conn.decoder.remaining (stream reads) =
      ((conn.receiveLoop reads).1.message?.toList ++
          ((conn.receiveLoop reads).2.1.decoder.remaining (stream (conn.receiveLoop reads).2.2)).1,
        ((conn.receiveLoop reads).2.1.decoder.remaining (stream (conn.receiveLoop reads).2.2)).2) := by
  fun_induction receiveLoop conn reads with
  | case1 reads conn dead => rfl
  | case2 conn live m reads popped =>
    rw [FrameDecoder.remaining_pop, popped]
    rfl
  | case3 conn live none =>
    rw [FrameDecoder.remaining_pop, none]
    rfl
  | case4 conn live read reads none closed =>
    rw [FrameDecoder.remaining_pop, none, stream_cons, List.isEmpty_iff.mp closed]
    rfl
  | case5 conn live read reads none filled ih =>
    rw [FrameDecoder.remaining_pop, none, stream_cons, ← FrameDecoder.remaining_feed]
    exact ih

theorem remaining_receive (conn : TcpConnection) (reads : List Read) :
    conn.decoder.remaining (stream reads) =
      ((conn.receive reads).1.message?.toList ++
          ((conn.receive reads).2.1.decoder.remaining (stream (conn.receive reads).2.2)).1,
        ((conn.receive reads).2.1.decoder.remaining (stream (conn.receive reads).2.2)).2) := by
  rw [receive]
  split_ifs
  · rfl
  · exact remaining_receiveLoop conn reads

/-- A call waits only when all the reads are used up and there is no message in them. -/
theorem remaining_of_waiting (waits : (conn.receiveLoop reads).1 = .waiting) :
    (conn.decoder.remaining (stream reads)).1 = [] := by
  fun_induction receiveLoop conn reads with
  | case1 reads conn dead => cases waits
  | case2 conn live m reads popped => cases waits
  | case3 conn live none => exact congrArg Prod.fst (FrameDecoder.remaining_of_none none)
  | case4 conn live read reads none closed => cases waits
  | case5 conn live read reads none filled ih =>
    rw [FrameDecoder.remaining_pop, none, stream_cons, ← FrameDecoder.remaining_feed]
    exact ih waits

/-! ### Calls of `receive` -/

/-- What `n` calls come to, one after the other. -/
def receives (conn : TcpConnection) : Nat → List Read → List Received × TcpConnection × List Read
  | 0, reads => ([], conn, reads)
  | n + 1, reads =>
    let later := (conn.receive reads).2.1.receives n (conn.receive reads).2.2
    ((conn.receive reads).1 :: later.1, later.2)

/-- The messages that the calls return. -/
def messages (results : List Received) : List Message := results.filterMap Received.message?

theorem messages_cons (r : Received) (results : List Received) :
    messages (r :: results) = r.message?.toList ++ messages results := by
  cases r <;> rfl

theorem remaining_receives (conn : TcpConnection) (n : Nat) (reads : List Read) :
    conn.decoder.remaining (stream reads) =
      (messages (conn.receives n reads).1 ++
          ((conn.receives n reads).2.1.decoder.remaining (stream (conn.receives n reads).2.2)).1,
        ((conn.receives n reads).2.1.decoder.remaining (stream (conn.receives n reads).2.2)).2) := by
  induction n generalizing conn reads with
  | zero => rfl
  | succ n ih =>
    rw [remaining_receive, ih, receives, messages_cons, List.append_assoc]

/-- Once a call waits, all that arrived has been received. -/
theorem remaining_of_mem_waiting {n : Nat} (waits : .waiting ∈ (conn.receives n reads).1) :
    (conn.decoder.remaining (stream reads)).1 = messages (conn.receives n reads).1 := by
  induction n generalizing conn reads with
  | zero => cases waits
  | succ n ih =>
    rw [receives, messages_cons]
    rcases List.mem_cons.mp waits with here | later
    · have loop : (conn.receive reads).1 = (conn.receiveLoop reads).1 := by
        rw [receive] at here ⊢
        split_ifs at here ⊢
        rfl
      have nothing := remaining_of_waiting (loop.symm.trans here.symm)
      have split := congrArg Prod.fst (remaining_receive conn reads)
      have rest := congrArg Prod.fst (remaining_receives (conn.receive reads).2.1 n (conn.receive reads).2.2)
      rw [nothing] at split ⊢
      have empty := (List.append_eq_nil_iff.mp split.symm)
      rw [empty.2] at rest
      rw [empty.1, (List.append_eq_nil_iff.mp rest.symm).1]
      rfl
    · rw [remaining_receive, ih later]

end Receiving

/-! ### From end to end -/

/-- What is received is a prefix of what was sent, whatever the sockets take and yield, and the receiver finds no
    violation of the protocol. Once all the bytes have arrived and a call waits for more, all that was sent has been
    received. -/
theorem received_in_order (sends : List (Message × List Nat)) (sendable : ∀ s ∈ sends, Sendable s.1)
    (reads : List Read) (arrived : stream reads <+: (sendAll {} sends).2) (n : Nat) :
    messages (receives {} n reads).1 <+: (sendAll {} sends).1 ∧
      (receives {} n reads).2.1.protocolFailed = false ∧
      (stream reads = (sendAll {} sends).2 → .waiting ∈ (receives {} n reads).1 →
        messages (receives {} n reads).1 = (sendAll {} sends).1) := by
  obtain ⟨part, spelled⟩ := parse_sendAll {} rfl sendable
  have taken := remaining_receives {} n reads
  rw [remaining_new] at taken
  obtain ⟨missing, whole⟩ := arrived
  have continued := frameScanner.parse_append (stream reads) missing
  rw [whole, spelled] at continued
  refine ⟨?_, ?_, fun all waits => ?_⟩
  · have received : messages (receives {} n reads).1 <+: (frameScanner.parse (stream reads)).1 := by
      rw [taken]
      exact List.prefix_append _ _
    have spelling : (frameScanner.parse (stream reads)).1 <+: (sendAll {} sends).1 := by
      rw [congrArg Prod.fst continued]
      exact List.prefix_append _ _
    exact received.trans spelling
  · by_contra violated
    have dead : (receives {} n reads).2.1.decoder.pending = none := if_pos (eq_true_of_ne_false violated)
    have left : (frameScanner.parse (stream reads)).2 = none := by
      rw [taken, FrameDecoder.remaining, dead]
      rfl
    rw [left] at continued
    cases congrArg Prod.snd continued
  · have received := remaining_of_mem_waiting waits
    rw [remaining_new, all, spelled] at received
    exact received.symm

/-- A cancellation is sent, and another one begun. -/
def twoSends : List (Message × List Nat) := [(cancelMessage, [7, 1000]), (cancelMessage, [5])]

/-- They arrive in two pieces, of which the first ends within the first frame. -/
def twoReads : List Read :=
  let wire := (sendAll {} twoSends).2
  [⟨(wire.take 100).take 4096, List.length_take_le _ _⟩, ⟨(wire.drop 100).take 4096, List.length_take_le _ _⟩]

theorem twoSends_sendable : ∀ s ∈ twoSends, Sendable s.1 := by
  intro s member
  rcases List.mem_cons.mp member with rfl | member
  · exact cancelMessage_sendable
  · rw [List.mem_singleton.mp member]
    exact cancelMessage_sendable

theorem stream_twoReads : stream twoReads = (sendAll {} twoSends).2 := by decide +kernel

theorem received_in_order_cancel :
    messages (receives {} 2 twoReads).1 = (sendAll {} twoSends).1 ∧ (sendAll {} twoSends).1 = [cancelMessage] := by
  have ordered := received_in_order twoSends twoSends_sendable twoReads (stream_twoReads ▸ List.prefix_rfl) 2
  exact ⟨ordered.2.2 stream_twoReads (by decide +kernel), by decide +kernel⟩

/-! ### The connection of the model -/

/-- Once a socket has yielded nothing, it yields nothing any more. -/
def ClosedForGood (reads : List Read) : Prop := reads.Pairwise fun r r' => r.bytes = [] → r'.bytes = []

theorem stream_of_closed {reads : List Read} (closed : ∀ read ∈ reads, read.bytes = []) : stream reads = [] := by
  rw [stream, List.flatten_eq_nil_iff]
  intro bytes member
  obtain ⟨read, listed, rfl⟩ := List.mem_map.mp member
  exact closed read listed

theorem receiveLoop_isOpen (conn : TcpConnection) (reads : List Read) :
    (conn.receiveLoop reads).2.1.isOpen = conn.isOpen := by
  fun_induction receiveLoop conn reads with
  | case5 conn live read reads none filled ih => exact ih
  | _ => rfl

/-- A call returns the next message that remains, if there is one. -/
theorem receiveLoop_head (conn : TcpConnection) {reads : List Read} (lasting : ClosedForGood reads) :
    (conn.receiveLoop reads).1.message? = (conn.decoder.remaining (stream reads)).1.head? ∧
      ClosedForGood (conn.receiveLoop reads).2.2 := by
  fun_induction receiveLoop conn reads with
  | case1 reads conn dead =>
    rw [FrameDecoder.remaining, FrameDecoder.pending, if_pos dead]
    exact ⟨rfl, lasting⟩
  | case2 conn live m reads popped =>
    rw [FrameDecoder.remaining_pop, popped]
    exact ⟨rfl, lasting⟩
  | case3 conn live none =>
    have nothing := congrArg Prod.fst (FrameDecoder.remaining_of_none none)
    rw [stream, List.map_nil, List.flatten_nil, nothing]
    exact ⟨rfl, lasting⟩
  | case4 conn live read reads none closed =>
    obtain ⟨later, rest⟩ := List.pairwise_cons.mp lasting
    have empty : read.bytes = [] := List.isEmpty_iff.mp closed
    have nothing := congrArg Prod.fst (FrameDecoder.remaining_of_none none)
    rw [stream_cons, stream_of_closed fun r member => later r member empty, empty, List.append_nil, nothing]
    exact ⟨rfl, rest⟩
  | case5 conn live read reads none filled ih =>
    rw [FrameDecoder.remaining_pop, none, stream_cons, ← FrameDecoder.remaining_feed]
    exact ih (List.pairwise_cons.mp lasting).2

/-! ### When a call fails -/

/-- The reads up to some point hold no message, and the call cannot go on from there: the next read yields nothing, or
    what arrived so far is malformed and another read follows. -/
def StopsWithin (conn : TcpConnection) (reads : List Read) : Prop :=
  ∃ front read back, reads = front ++ read :: back ∧ (∀ r ∈ front, r.bytes ≠ []) ∧
    (scanFrame (conn.decoder.buffer ++ stream front) = .error .malformed ∨
      scanFrame (conn.decoder.buffer ++ stream front) = .error .incomplete ∧ read.bytes = [])

theorem not_stopsWithin_of_item {conn : TcpConnection} {reads : List Read} {m : Message} {n : Nat}
    (found : scanFrame conn.decoder.buffer = .ok (m, n)) : ¬conn.StopsWithin reads := by
  rintro ⟨front, read, back, _, _, bad | ⟨needs, _⟩⟩
  · cases bad.symm.trans (frameScanner.item_append found (stream front))
  · cases needs.symm.trans (frameScanner.item_append found (stream front))

/-- A read that yields something is looked at together with what is in the buffer. -/
theorem stopsWithin_cons {conn : TcpConnection} {read : Read} {reads : List Read}
    (needs : scanFrame conn.decoder.buffer = .error .incomplete) (filled : read.bytes ≠ []) :
    conn.StopsWithin (read :: reads) ↔
      StopsWithin { conn with decoder := conn.decoder.feed read.bytes } reads := by
  have joined (front : List Read) :
      conn.decoder.buffer ++ stream (read :: front) = (conn.decoder.feed read.bytes).buffer ++ stream front := by
    rw [stream_cons, ← List.append_assoc]
    rfl
  constructor
  · rintro ⟨front, next, back, split, yields, stops⟩
    cases front with
    | nil =>
      obtain ⟨rfl, rfl⟩ := List.cons_eq_cons.mp split
      rw [stream, List.map_nil, List.flatten_nil, List.append_nil, needs] at stops
      rcases stops with bad | ⟨_, empty⟩
      · cases bad
      · exact absurd empty filled
    | cons first front =>
      obtain ⟨rfl, rfl⟩ := List.cons_eq_cons.mp split
      rw [joined] at stops
      exact ⟨front, next, back, rfl, fun r member => yields r (List.mem_cons_of_mem _ member), stops⟩
  · rintro ⟨front, next, back, rfl, yields, stops⟩
    refine ⟨read :: front, next, back, rfl, ?_, ?_⟩
    · rw [List.forall_mem_cons]
      exact ⟨filled, yields⟩
    · rw [joined]
      exact stops

theorem receiveLoop_failed_iff (conn : TcpConnection) (reads : List Read) :
    (conn.receiveLoop reads).1 = .failed ↔ conn.protocolFailed = true ∨ conn.StopsWithin reads := by
  fun_induction receiveLoop conn reads with
  | case1 reads conn dead => exact iff_of_true rfl (.inl dead)
  | case2 conn live m reads popped =>
    rcases conn.decoder.pop_cases with ⟨m', n, _, found, _⟩ | ⟨_, _, nothing⟩ | ⟨_, nothing⟩
    · refine iff_of_false nofun ?_
      rintro (dead | stops)
      · exact live dead
      · exact not_stopsWithin_of_item found stops
    · cases popped.symm.trans (congrArg Prod.fst nothing)
    · cases popped.symm.trans (congrArg Prod.fst nothing)
  | case3 conn live none =>
    refine iff_of_false nofun ?_
    rintro (dead | ⟨front, read, back, split, _⟩)
    · exact live dead
    · cases (List.append_eq_nil_iff.mp split.symm).2
  | case4 conn live read reads none closed =>
    refine iff_of_true rfl (.inr ⟨[], read, reads, rfl, by simp, ?_⟩)
    rw [stream, List.map_nil, List.flatten_nil, List.append_nil]
    rcases conn.decoder.pop_cases with ⟨_, _, _, _, popped⟩ | ⟨_, bad, _⟩ | ⟨needs, _⟩
    · cases none.symm.trans (congrArg Prod.fst popped)
    · exact .inl bad
    · exact .inr ⟨needs (eq_false_of_ne_true live), List.isEmpty_iff.mp closed⟩
  | case5 conn live read reads none filled ih =>
    rw [ih]
    rcases conn.decoder.pop_cases with ⟨_, _, _, _, popped⟩ | ⟨_, bad, nothing⟩ | ⟨needs, nothing⟩
    · cases none.symm.trans (congrArg Prod.fst popped)
    · -- The decoder is fatal now, and the read that follows is all that the call waited for.
      refine iff_of_true (.inl ?_) (.inr ⟨[], read, reads, rfl, by simp, .inl ?_⟩)
      · rw [nothing]
        rfl
      · rw [stream, List.map_nil, List.flatten_nil, List.append_nil, bad]
    · have incomplete := needs (eq_false_of_ne_true live)
      rw [nothing, stopsWithin_cons incomplete (mt List.isEmpty_iff.mpr filled)]
      rfl

/-- `receive` returns false exactly on a connection that is closed here, after a violation of the protocol, when the
    socket yields nothing before the next message is complete, and when what arrives for it is malformed; and then not
    before one more read. -/
theorem receive_failed_iff (conn : TcpConnection) (reads : List Read) :
    (conn.receive reads).1 = .failed ↔
      conn.isOpen = false ∨ conn.protocolFailed = true ∨ conn.StopsWithin reads := by
  rw [receive]
  cases conn.isOpen with
  | false => exact iff_of_true rfl (.inl rfl)
  | true =>
    rw [Bool.not_true, if_neg Bool.false_ne_true, receiveLoop_failed_iff]
    simp

end TcpConnection

/-- What `n` calls return, one after the other. -/
def Connection.receives (conn : Connection) : Nat → List (Option Message)
  | 0 => []
  | n + 1 => conn.receive.1 :: conn.receive.2.receives n

theorem Connection.receive_head (conn : Connection) :
    conn.receive.1 = conn.inbox.head? ∧ conn.receive.2.inbox = conn.inbox.tail := by
  rw [receive]
  split
  next empty => simp [empty]
  next m inbox filled => simp [filled]

open TcpConnection in
/-- The connection that the coordinator is modelled with, whose inbox holds the messages that arrive in all: calls on
    an open socket return what its calls return. -/
theorem receives_refines (conn : TcpConnection) (up : conn.isOpen = true) (reads : List Read)
    (lasting : ClosedForGood reads) (model : Connection)
    (holds : model.inbox = (conn.decoder.remaining (stream reads)).1) (n : Nat) :
    (conn.receives n reads).1.map Received.message? = model.receives n := by
  induction n generalizing conn reads model with
  | zero => rfl
  | succ n ih =>
    have loop : conn.receive reads = conn.receiveLoop reads := by rw [receive, up]; rfl
    obtain ⟨returned, lasts⟩ := receiveLoop_head conn lasting
    have split := congrArg Prod.fst (remaining_receiveLoop conn reads)
    obtain ⟨head, tail⟩ := model.receive_head
    have rest : model.receive.2.inbox =
        ((conn.receiveLoop reads).2.1.decoder.remaining (stream (conn.receiveLoop reads).2.2)).1 := by
      rw [tail, holds]
      rw [returned] at split
      generalize (conn.decoder.remaining (stream reads)).1 = inbox at split
      cases inbox with
      | nil => exact (List.append_eq_nil_iff.mp split.symm).2.symm
      | cons m inbox => exact (List.cons_eq_cons.mp split).2
    rw [TcpConnection.receives, Connection.receives, loop, List.map_cons, head, holds, returned,
      ih _ ((receiveLoop_isOpen conn reads).trans up) _ lasts _ rest]

open TcpConnection in
theorem receives_refines_cancel :
    (receives {} 3 twoReads).1.map Received.message? = [some cancelMessage, none, none] := by
  have lasting : ClosedForGood twoReads := by
    refine List.pairwise_cons.mpr ⟨fun r _ empty => ?_, List.pairwise_singleton _ _⟩
    exact absurd (congrArg List.length empty) (by decide +kernel)
  obtain ⟨part, spelled⟩ := parse_sendAll {} rfl twoSends_sendable
  have holds : (sendAll {} twoSends).1 = (FrameDecoder.remaining {} (stream twoReads)).1 := by
    rw [stream_twoReads, remaining_new, spelled]
  have refined := receives_refines {} rfl twoReads lasting ⟨_, false⟩ holds 3
  rw [refined]
  decide +kernel

end PreemptionFabric
