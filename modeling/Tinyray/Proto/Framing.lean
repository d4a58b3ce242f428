import Tinyray.Foundation.Stream
import Tinyray.Proto.Wire

/-!
# Frames in pieces

The loops that write a frame and read one back, a few bytes at a time.  What
they do does not depend on how the stream is cut: a frame is written as its
bytes, and reading is the reading of frames off the bytes that are to come.
-/

namespace Tinyray.Proto.Framing

open Tinyray.Foundation

/-! ## Writing -/

/-- How writing a frame fails. -/
inductive WriteError where
  | frame (error : FrameError)
  /-- A write took nothing. -/
  | writeZero
deriving DecidableEq

/-- The slices of a vectored write while the length is not out, or the body. -/
def offered (lengthBytes body : Bytes) (lengthOffset bodyOffset : Nat) : Bytes :=
  if lengthOffset < lengthBytes.length then lengthBytes.drop lengthOffset ++ body.drop bodyOffset
  else body.drop bodyOffset

/-- The loop of `write_frame_bytes`. -/
def writeLoop (takes : Nat → Nat) (lengthBytes body : Bytes)
    (lengthOffset bodyOffset : Nat) (sink : Sink UInt8) :
    Except WriteError Unit × Sink UInt8 :=
  if lengthOffset < lengthBytes.length ∨ bodyOffset < body.length then
    let wrote := sink.write takes (offered lengthBytes body lengthOffset bodyOffset)
    if wrote.1 = 0 then (.error .writeZero, wrote.2)
    else
      let ofLength := min wrote.1 (lengthBytes.length - lengthOffset)
      writeLoop takes lengthBytes body (lengthOffset + ofLength)
        (bodyOffset + (wrote.1 - ofLength)) wrote.2
  else (.ok (), sink)
termination_by
  (lengthBytes.length - lengthOffset) + (body.length - bodyOffset)
decreasing_by
  have taken : wrote.1 ≠ 0 := by assumption
  change
    lengthBytes.length - (lengthOffset + ofLength) +
        (body.length - (bodyOffset + (wrote.1 - ofLength))) <
      lengthBytes.length - lengthOffset + (body.length - bodyOffset)
  omega

/-- `write_frame_bytes` -/
def writeFrameBytes (takes : Nat → Nat) (body : Bytes) (maximum : Nat)
    (sink : Sink UInt8) : Except WriteError Unit × Sink UInt8 :=
  if body.isEmpty then (.error (.frame .emptyFrame), sink)
  else if body.length > maximum || body.length > 2 ^ 32 - 1 then
    (.error (.frame (.frameTooLarge body.length (min maximum (2 ^ 32 - 1)))), sink)
  else writeLoop takes (toBeBytes lengthPrefixBytes body.length) body 0 0 sink

/-- One frame after another, until a write fails. -/
def writeFrames (takes : Nat → Nat) (maximum : Nat) :
    List Bytes → Sink UInt8 → Except WriteError Unit × Sink UInt8
  | [], sink => (.ok (), sink)
  | body :: later, sink =>
    match writeFrameBytes takes body maximum sink with
    | (.ok (), next) => writeFrames takes maximum later next
    | (.error error, next) => (.error error, next)

theorem offered_eq (lengthBytes body : Bytes)
    (lengthOffset bodyOffset : Nat) :
    offered lengthBytes body lengthOffset bodyOffset =
      lengthBytes.drop lengthOffset ++ body.drop bodyOffset := by
  unfold offered
  split_ifs with unsent
  · rfl
  · rw [List.drop_eq_nil_of_le (Nat.le_of_not_lt unsent), List.nil_append]

theorem offered_drop (lengthBytes body : Bytes)
    (lengthOffset bodyOffset written : Nat) :
    (offered lengthBytes body lengthOffset bodyOffset).drop written =
      lengthBytes.drop (lengthOffset + min written (lengthBytes.length - lengthOffset)) ++
        body.drop (bodyOffset + (written - min written (lengthBytes.length - lengthOffset))) := by
  rw [offered_eq, List.drop_append, List.drop_drop, List.drop_drop, List.length_drop]
  by_cases whole : written ≤ lengthBytes.length - lengthOffset
  · rw [Nat.min_eq_left whole, Nat.sub_self, Nat.sub_eq_zero_of_le whole]
  · rw [Nat.min_eq_right (by omega), List.drop_eq_nil_of_le (by omega : lengthBytes.length ≤ _),
      List.drop_eq_nil_of_le (by omega : lengthBytes.length ≤ lengthOffset + (_ - lengthOffset))]

variable {takes : Nat → Nat} {maximum : Nat}

/-- Whatever writes take, all is sent. -/
theorem writeLoop_sends
    (positive : ∀ write, 0 < takes write)
    (lengthBytes body : Bytes) (lengthOffset bodyOffset : Nat) (sink : Sink UInt8) :
    ∃ last,
      writeLoop takes lengthBytes body lengthOffset bodyOffset sink = (.ok (), last) ∧
        last.sent = sink.sent ++ (lengthBytes.drop lengthOffset ++ body.drop bodyOffset) := by
  fun_induction writeLoop takes lengthBytes body lengthOffset bodyOffset sink with
  | case1 lengthOffset bodyOffset sink unsent wrote nothing =>
    have taken := positive sink.writes
    have left : 0 < (offered lengthBytes body lengthOffset bodyOffset).length := by
      rw [offered_eq, List.length_append, List.length_drop, List.length_drop]
      omega
    have zero :
        min (takes sink.writes) (offered lengthBytes body lengthOffset bodyOffset).length = 0 :=
      nothing
    omega
  | case2 lengthOffset bodyOffset sink unsent wrote _ ofLength
      hypothesis =>
      rcases hypothesis with ⟨last, wrotes, sent⟩
      refine ⟨last, wrotes, ?_⟩
      have remaining := offered_drop lengthBytes body lengthOffset bodyOffset wrote.1
      have written :
          wrote.2.sent =
            sink.sent ++
              (offered lengthBytes body lengthOffset bodyOffset).take
                wrote.1 :=
        rfl
      rw [sent, ← remaining, written, List.append_assoc, List.take_append_drop, offered_eq]
  | case3 lengthOffset bodyOffset sink done =>
    refine ⟨sink, rfl, ?_⟩
    rw [List.drop_eq_nil_of_le (by omega), List.drop_eq_nil_of_le (by omega), List.append_nil,
      List.append_nil]

/-- A frame is sent whole. -/
theorem writeFrameBytes_sends
    (positive : ∀ write, 0 < takes write)
    {body : Bytes} (sendable : Sendable maximum body) (sink : Sink UInt8) :
    ∃ last,
      writeFrameBytes takes body maximum sink = (.ok (), last) ∧
        last.sent = sink.sent ++ frameBytes body := by
  have nonempty := sendable.nonempty
  have fits := sendable.fits
  have counted := sendable.prefixed
  have some : ¬body.isEmpty = true := by
    rw [List.isEmpty_iff]
    exact List.ne_nil_of_length_pos nonempty
  have small : ¬(body.length > maximum || body.length > 2 ^ 32 - 1) = true := by
    simp only [Bool.or_eq_true, decide_eq_true_eq]
    omega
  rw [writeFrameBytes, if_neg some, if_neg small]
  exact writeLoop_sends positive _ body 0 0 sink

/-- Frames are sent in order. -/
theorem writeFrames_sends
    (positive : ∀ write, 0 < takes write) {bodies : List Bytes}
    (sendable : ∀ body ∈ bodies, Sendable maximum body) (sink : Sink UInt8) :
    ∃ last,
      writeFrames takes maximum bodies sink = (.ok (), last) ∧
        last.sent = sink.sent ++ bodies.flatMap frameBytes := by
  induction bodies generalizing sink with
  | nil => exact ⟨sink, rfl, (List.append_nil _).symm⟩
  | cons body later hypothesis =>
    rcases writeFrameBytes_sends positive (sendable body List.mem_cons_self) sink with
      ⟨next, wrote, sent⟩
    rcases hypothesis (fun other listed => sendable other (List.mem_cons_of_mem _ listed)) next with
      ⟨last, rest, all⟩
    refine ⟨last, ?_, ?_⟩
    · rw [writeFrames, wrote]
      exact rest
    · rw [all, sent, List.append_assoc, List.flatMap_cons]

/-! ## Reading -/

/-- The number in four bytes. -/
def lengthOf : Bytes → Nat
  | [first, second, third, fourth] => fromBeBytes first second third fourth
  | _ => 0

/-- A length that a frame may have. -/
def checkedLength (maximum length : Nat) : Except FrameError Nat :=
  if length = 0 then .error .emptyFrame
  else if length > maximum then .error (.frameTooLarge length maximum)
  else .ok length

/-- `read_frame_length` -/
def readFrameLength (maximum : Nat) (source : Source UInt8) :
    Except FrameError (Option Nat) × Source UInt8 :=
  match source.fill lengthPrefixBytes [] with
  | (.error received, next) =>
    if received = 0 then (.ok none, next)
    else (.error (.truncatedPrefix received), next)
  | (.ok found, next) => ((checkedLength maximum (lengthOf found)).map some, next)

/-- `read_frame_body` -/
def readFrameBody (length : Nat) (source : Source UInt8) : Except FrameError Bytes × Source UInt8 :=
  match source.fill length [] with
  | (.error received, next) => (.error (.truncatedBody length received), next)
  | (.ok body, next) => (.ok body, next)

/-- `read_frame` -/
def readFrame (maximum : Nat) (source : Source UInt8) :
    Except FrameError (Option Bytes) × Source UInt8 :=
  match readFrameLength maximum source with
  | (.error error, next) => (.error error, next)
  | (.ok none, next) => (.ok none, next)
  | (.ok (some length), next) =>
    match readFrameBody length next with
    | (.error error, last) => (.error error, last)
    | (.ok body, last) => (.ok (some body), last)

/--
What is left of a stream after one frame: nothing if the stream ended, and
what follows the length if the length is refused.
-/
def afterFrame (maximum : Nat) (stream : Bytes) : Bytes :=
  match Proto.readFrame maximum stream with
  | .ok (some (_, rest)) => rest
  | .error .emptyFrame | .error (.frameTooLarge ..) => stream.drop lengthPrefixBytes
  | _ => []

/-- A read of one frame is that of the bytes to come, however they come. -/
def ReadsFrame (maximum : Nat) (stream : Bytes)
    (outcome : Except FrameError (Option Bytes)) (left : Bytes) : Prop :=
  outcome = (Proto.readFrame maximum stream).map (Option.map Prod.fst) ∧
    left = afterFrame maximum stream

/-- A stream too short for a length. -/
theorem readsFrame_short
    {stream : Bytes} (started : stream ≠ []) (short : stream.length < lengthPrefixBytes) :
    ReadsFrame maximum stream (.error (.truncatedPrefix stream.length)) [] := by
  have length : Proto.readFrameLength maximum stream = .error (.truncatedPrefix stream.length) := by
    unfold Proto.readFrameLength
    split
    · exact absurd rfl started
    · simp only [lengthPrefixBytes, List.length_cons] at short
      omega
    · rfl
  have read : Proto.readFrame maximum stream = .error (.truncatedPrefix stream.length) := by
    rw [Proto.readFrame, length]
    rfl
  unfold ReadsFrame afterFrame
  rw [read]
  exact ⟨rfl, rfl⟩

section

variable {maximum : Nat} {first second third fourth : UInt8} {rest : Bytes}

/-- The length of a frame, read. -/
theorem readFrameLength_eq :
    Proto.readFrameLength maximum (first :: second :: third :: fourth :: rest) =
      (checkedLength maximum (fromBeBytes first second third fourth)).map
        fun length => some (length, rest) := by
  rw [Proto.readFrameLength, checkedLength]
  by_cases zero : fromBeBytes first second third fourth = 0
  · rw [if_pos zero, if_pos zero]
    rfl
  · rw [if_neg zero, if_neg zero]
    by_cases large : fromBeBytes first second third fourth > maximum
    · rw [if_pos large, if_pos large]
      rfl
    · rw [if_neg large, if_neg large]
      rfl

variable {error : FrameError}

theorem readFrame_of_error {stream : Bytes}
    (refused : Proto.readFrameLength maximum stream = .error error) :
    Proto.readFrame maximum stream = .error error := by
  rw [Proto.readFrame, refused]
  rfl

theorem readFrame_of_length {stream : Bytes} {length : Nat}
    (accepted : Proto.readFrameLength maximum stream = .ok (some (length, rest))) :
    Proto.readFrame maximum stream = (Proto.readFrameBody length rest).map some := by
  rw [Proto.readFrame, accepted]
  dsimp only [bind, Except.bind]
  cases Proto.readFrameBody length rest with
  | error error => rfl
  | ok body => rfl

theorem checkedLength_eq_error {length : Nat}
    (refused : checkedLength maximum length = .error error) :
    error = .emptyFrame ∨ error = .frameTooLarge length maximum := by
  unfold checkedLength at refused
  split_ifs at refused
  · exact .inl (Except.error.inj refused).symm
  · exact .inr (Except.error.inj refused).symm

/-- A length that is refused. -/
theorem readsFrame_refused
    (refused : checkedLength maximum (fromBeBytes first second third fourth) = .error error) :
    ReadsFrame maximum (first :: second :: third :: fourth :: rest) (.error error) rest := by
  have read :
      Proto.readFrame maximum (first :: second :: third :: fourth :: rest) = .error error := by
    apply readFrame_of_error
    rw [readFrameLength_eq, refused]
    rfl
  rw [ReadsFrame, afterFrame, read]
  rcases checkedLength_eq_error refused with rfl | rfl
  · exact ⟨rfl, rfl⟩
  · exact ⟨rfl, rfl⟩

variable {length : Nat}

theorem readFrame_accepted
    (accepted : checkedLength maximum (fromBeBytes first second third fourth) = .ok length) :
    Proto.readFrame maximum (first :: second :: third :: fourth :: rest) =
      (Proto.readFrameBody length rest).map some := by
  apply readFrame_of_length
  rw [readFrameLength_eq, accepted]
  rfl

theorem readsFrame_body
    (accepted : checkedLength maximum (fromBeBytes first second third fourth) = .ok length)
    (enough : length ≤ rest.length) :
    ReadsFrame maximum (first :: second :: third :: fourth :: rest)
      (.ok (some (rest.take length))) (rest.drop length) := by
  rw [ReadsFrame, afterFrame, readFrame_accepted accepted,
    Proto.readFrameBody, if_neg (Nat.not_lt_of_le enough)]
  exact ⟨rfl, rfl⟩

theorem readsFrame_cut
    (accepted : checkedLength maximum (fromBeBytes first second third fourth) = .ok length)
    (short : rest.length < length) :
    ReadsFrame maximum (first :: second :: third :: fourth :: rest)
      (.error (.truncatedBody length rest.length)) [] := by
  rw [ReadsFrame, afterFrame, readFrame_accepted accepted, Proto.readFrameBody, if_pos short]
  exact ⟨rfl, rfl⟩

end

/-- Four bytes and a rest. -/
theorem exists_four {stream : Bytes} (four : 4 ≤ stream.length) :
    ∃ first second third fourth rest, stream = first :: second :: third :: fourth :: rest := by
  rcases stream with _ | ⟨first, _ | ⟨second, _ | ⟨third, _ | ⟨fourth, rest⟩⟩⟩⟩
  · simp only [List.length_nil] at four
    omega
  · simp only [List.length_cons, List.length_nil] at four
    omega
  · simp only [List.length_cons, List.length_nil] at four
    omega
  · simp only [List.length_cons, List.length_nil] at four
    omega
  · exact ⟨first, second, third, fourth, rest, rfl⟩

/-- Reading the length, in any pieces. -/
theorem fill_length
    (received : Bytes) (source : Source UInt8) (fits : received.length ≤ lengthPrefixBytes) :
    ((received ++ source.items).length < lengthPrefixBytes ∧
        ∃ last,
          source.fill lengthPrefixBytes received =
              (.error (received ++ source.items).length, last) ∧
            last.items = []) ∨
      ∃ first second third fourth last,
        received ++ source.items = first :: second :: third :: fourth :: last.items ∧
          source.fill lengthPrefixBytes received = (.ok [first, second, third, fourth], last) := by
  have length : (received ++ source.items).length = received.length + source.items.length :=
    List.length_append
  by_cases short : received.length + source.items.length < lengthPrefixBytes
  · rw [length]
    exact .inl ⟨short, Source.fill_short short⟩
  · rcases Source.fill_enough fits (Nat.le_of_not_lt short) with ⟨last, filled, rest⟩
    have front :
        received ++ source.items.take (lengthPrefixBytes - received.length) =
          (received ++ source.items).take lengthPrefixBytes := by
      rw [List.take_append, List.take_of_length_le fits]
    have back : last.items = (received ++ source.items).drop lengthPrefixBytes := by
      rw [rest, List.drop_append, List.drop_eq_nil_of_le fits, List.nil_append]
    rw [front] at filled
    generalize received ++ source.items = stream at filled back length
    have four : 4 ≤ stream.length := by
      unfold lengthPrefixBytes at short
      omega
    rcases exists_four four with ⟨first, second, third, fourth, more, rfl⟩
    exact .inr ⟨first, second, third, fourth, last, by rw [back]; rfl, filled⟩

/-- Reading the body, in any pieces. -/
theorem readFrameBody_reads
    {length : Nat} {first second third fourth : UInt8}
    (accepted : checkedLength maximum (fromBeBytes first second third fourth) = .ok length)
    (source : Source UInt8) :
    ∃ outcome last,
      readFrameBody length source = (outcome, last) ∧
        ReadsFrame maximum
          (first :: second :: third :: fourth :: source.items)
          (outcome.map some) last.items := by
  unfold readFrameBody
  by_cases short : source.items.length < length
  · have cut : ([] : Bytes).length + source.items.length < length := by
      rwa [List.length_nil, Nat.zero_add]
    rcases Source.fill_short cut with ⟨last, filled, rest⟩
    rw [filled, List.length_nil, Nat.zero_add]
    refine ⟨_, last, rfl, ?_⟩
    rw [rest]
    exact readsFrame_cut accepted short
  · have enough : length ≤ ([] : Bytes).length + source.items.length := by
      rw [List.length_nil, Nat.zero_add]
      exact Nat.le_of_not_lt short
    rcases Source.fill_enough (Nat.zero_le length) enough with ⟨last, filled, rest⟩
    rw [filled]
    refine ⟨_, last, rfl, ?_⟩
    rw [rest]
    exact readsFrame_body accepted (Nat.le_of_not_lt short)

/-- Reading a frame, in any pieces. -/
theorem readFrame_reads (maximum : Nat) (source : Source UInt8) :
    ∃ outcome last,
      readFrame maximum source = (outcome, last) ∧
        ReadsFrame maximum source.items outcome last.items := by
  rcases fill_length [] source (Nat.zero_le lengthPrefixBytes) with
    ⟨short, last, filled, rest⟩ |
    ⟨first, second, third, fourth, last, stream, filled⟩
  · rw [List.nil_append] at short filled
    by_cases empty : source.items = []
    · refine ⟨.ok none, last, ?_, ?_⟩
      · rw [readFrame, readFrameLength, filled, empty]
        rfl
      · rw [rest, empty]
        exact ⟨rfl, rfl⟩
    · have started : source.items.length ≠ 0 := fun zero => empty (List.length_eq_zero_iff.1 zero)
      refine ⟨.error (.truncatedPrefix source.items.length), last, ?_, ?_⟩
      · rw [readFrame, readFrameLength, filled]
        dsimp only
        rw [if_neg started]
      · rw [rest]
        exact readsFrame_short empty short
  · rw [List.nil_append] at stream
    have length :
        readFrameLength maximum source =
          ((checkedLength maximum (fromBeBytes first second third fourth)).map some, last) := by
      rw [readFrameLength, filled]
      rfl
    rw [readFrame, length, stream]
    cases checked : checkedLength maximum (fromBeBytes first second third fourth) with
    | error error => exact ⟨_, last, rfl, readsFrame_refused checked⟩
    | ok length =>
      rcases readFrameBody_reads checked last with ⟨outcome, final, body, reads⟩
      dsimp only [Except.map]
      rw [body]
      cases outcome with
      | error error => exact ⟨_, final, rfl, reads⟩
      | ok found => exact ⟨_, final, rfl, reads⟩

end Tinyray.Proto.Framing
