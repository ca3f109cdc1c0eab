import Mathlib.Data.List.Induction
import PreemptionFabric.Theorems.Streaming

/-! What the streaming decoder holds. A decoder that is drained after each chunk and has not met a malformed frame
    holds less than the largest frame. One that has met it holds nothing at first, but everything that is fed
    afterwards: a fatal decoder takes in bytes and never lets go of them. -/

namespace PreemptionFabric

/-- The size of the largest frame. -/
def frameLimit : Nat := frameHeaderSize + maxFrameBody.toNat + 4

/-- The decoder waits for more bytes only while it has less than a frame. -/
theorem short_of_incomplete {buffer : List UInt8} (needs : scanFrame buffer = .error .incomplete) :
    buffer.length < frameLimit := by
  by_cases short : buffer.length < frameHeaderSize + 4
  · rw [frameLimit]
    omega
  · obtain ⟨h, rest, rfl, long⟩ := words_of_long short
    rw [scanFrame_words h long] at needs
    split_ifs at needs with magic version size part
    · cases needs
    · cases needs
    · cases needs
    · have small : h.bodyLen.toNat ≤ maxFrameBody.toNat := UInt32.le_iff_toNat_le.mp (UInt32.not_lt.mp size)
      rw [List.length_append, h.length_bytes, frameLimit]
      omega
    · split at needs
      · cases needs
      · cases needs

namespace FrameDecoder
variable {d : FrameDecoder}

theorem drain_fatal (dead : d.fatal = true) : d.drain.2 = d := by
  have nothing := pop_fatal dead
  rw [drain_none (congrArg Prod.fst nothing), nothing]

/-- A live decoder that is drained stays live with less than a frame, or becomes fatal with nothing. -/
theorem drain_live (live : d.fatal = false) :
    d.drain.2.fatal = false ∧ d.drain.2.buffered < frameLimit ∨ d.drain.2.fatal = true ∧ d.drain.2.buffer = [] := by
  induction d using drain.induct with
  | case1 d none =>
    rw [drain_none none]
    rcases d.pop_cases with ⟨m, n, _, _, item⟩ | ⟨_, _, nothing⟩ | ⟨needs, nothing⟩
    · rw [item] at none
      cases none
    · rw [nothing]
      exact .inr ⟨rfl, rfl⟩
    · rw [nothing]
      exact .inl ⟨live, short_of_incomplete (needs live)⟩
  | case2 d m some ih =>
    rw [drain_some some]
    refine ih ?_
    rcases d.pop_cases with ⟨m', n, _, _, item⟩ | ⟨_, _, nothing⟩ | ⟨_, nothing⟩
    · rw [item]
      exact live
    · rw [nothing] at some
      cases some
    · rw [nothing] at some
      cases some

/-- A decoder that is drained after each of the chunks. -/
def drained (d : FrameDecoder) (chunks : List (List UInt8)) : FrameDecoder :=
  chunks.foldl (fun d chunk => (d.feed chunk).drain.2) d

theorem drained_append (d : FrameDecoder) (front back : List (List UInt8)) :
    d.drained (front ++ back) = (d.drained front).drained back :=
  List.foldl_append

/-- A fatal decoder keeps all that it is fed. -/
theorem drained_fatal (dead : d.fatal = true) (chunks : List (List UInt8)) :
    d.drained chunks = d.feed chunks.flatten := by
  induction chunks generalizing d with
  | nil =>
    rw [feed, List.flatten_nil, List.append_nil]
    rfl
  | cons chunk chunks ih =>
    have still : (d.feed chunk).fatal = true := dead
    calc d.drained (chunk :: chunks)
        = (d.feed chunk).drained chunks := by
          rw [← drain_fatal still]
          rfl
      _ = d.feed (chunk :: chunks).flatten := by
          rw [ih still, feed, feed, feed, List.flatten_cons, List.append_assoc]

/-- What a drained decoder holds: less than a frame, or what it was fed since it became fatal. -/
theorem drained_cases (chunks : List (List UInt8)) :
    (drained {} chunks).fatal = false ∧ (drained {} chunks).buffered < frameLimit ∨
      ∃ front back, front ++ back = chunks ∧ (drained {} front).fatal = true ∧
        (drained {} chunks).buffer = back.flatten := by
  induction chunks using List.reverseRecOn with
  | nil => exact .inl ⟨rfl, by decide⟩
  | append_singleton chunks chunk ih =>
    have last : drained {} (chunks ++ [chunk]) = ((drained {} chunks).feed chunk).drain.2 := by
      rw [drained_append]
      rfl
    rcases ih with ⟨live, _⟩ | ⟨front, back, rfl, dead, held⟩
    · have fed : ((drained {} chunks).feed chunk).fatal = false := live
      rw [last]
      rcases drain_live fed with bounded | ⟨dead, empty⟩
      · exact .inl bounded
      · refine .inr ⟨chunks ++ [chunk], [], List.append_nil _, ?_, empty⟩
        rw [last]
        exact dead
    · refine .inr ⟨front, back ++ [chunk], (List.append_assoc _ _ _).symm, dead, ?_⟩
      have before : (drained {} (front ++ back)).fatal = true := by
        rw [drained_append, drained_fatal dead]
        exact dead
      rw [drained_append, drained_fatal before, feed, held]
      simp

end FrameDecoder

open FrameDecoder in
/-- A new decoder that is drained after each chunk holds less than the largest frame at all times exactly when the
    chunks that follow a fatal error have fewer bytes than that together. -/
theorem drained_bounded_iff (chunks : List (List UInt8)) :
    (∀ front, front <+: chunks → (drained {} front).buffered < frameHeaderSize + maxFrameBody.toNat + 4) ↔
      ∀ front back, front ++ back = chunks → (drained {} front).fatal = true →
        back.flatten.length < frameHeaderSize + maxFrameBody.toNat + 4 := by
  constructor
  · rintro bounded front back rfl dead
    have whole := bounded (front ++ back) (List.prefix_refl _)
    rw [drained_append, drained_fatal dead, buffered, feed, List.length_append] at whole
    omega
  · rintro few front ⟨later, rfl⟩
    rcases drained_cases front with ⟨_, bounded⟩ | ⟨front, back, rfl, dead, held⟩
    · exact bounded
    · have fewer := few front (back ++ later) (List.append_assoc _ _ _).symm dead
      rw [List.flatten_append, List.length_append] at fewer
      rw [buffered, held]
      omega

open FrameDecoder in
/-- A header with a bad magic makes the decoder fatal; the bytes of a largest frame that follow are all kept. -/
theorem drained_fatal_unbounded :
    (drained {} [List.replicate 24 0, List.replicate 65560 0]).fatal = true ∧
      ¬(drained {} [List.replicate 24 0, List.replicate 65560 0]).buffered <
        frameHeaderSize + maxFrameBody.toNat + 4 := by
  have bad : scanFrame (List.replicate 24 0) = .error .malformed := by decide
  have first : drained {} [List.replicate 24 0] = { fatal := true } := by
    have popped := pop_feed_of_malformed bad
    have emptied := drain_none (congrArg Prod.fst popped)
    rw [popped] at emptied
    exact congrArg Prod.snd emptied
  have second : drained {} ([List.replicate 24 0] ++ [List.replicate 65560 0]) =
      { buffer := List.replicate 65560 0, fatal := true } := by
    rw [drained_append, first, drained_fatal rfl, List.flatten_cons, List.flatten_nil, List.append_nil]
    rfl
  rw [List.singleton_append] at second
  rw [second, buffered, List.length_replicate]
  decide

end PreemptionFabric
