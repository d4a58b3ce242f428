import Mathlib.Algebra.Ring.Nat
import Tinyray.Foundation.Reading

/-!
# Messages and frames on the wire

A message is packed as MessagePack, structures as maps with named fields, and
goes over a stream behind its length in four bytes, the most significant
first.  A frame is written front to back, so a write that stops part-way
leaves a front part of the frame.
-/

namespace Tinyray.Proto

open Tinyray.Foundation

/-- A byte string. -/
abbrev Bytes := List UInt8

/-- `LENGTH_PREFIX_BYTES` -/
def lengthPrefixBytes : Nat := 4

/-- `FrameError` -/
inductive FrameError where
  | truncatedPrefix (received : Nat)
  | emptyFrame
  | frameTooLarge (length maximum : Nat)
  | truncatedBody (expected received : Nat)
deriving DecidableEq

/-! ## MessagePack -/

/-- What the messages of the protocol are made of. -/
inductive Pack where
  | bool (value : Bool)
  | uint (value : Nat)
  | str (text : String)
  | bin (bytes : Bytes)
  | map (fields : List (String × Pack))

/-- The last bytes of a number, the most significant first. -/
def toBeBytes : Nat → Nat → Bytes
  | 0, _ => []
  | width + 1, value => UInt8.ofNat (value / 256 ^ width) :: toBeBytes width value

namespace Pack

/-- The shortest marker that can tell the length, with the length. -/
def header (length : Nat) (short : Option (Nat × Nat))
    (byte : Option Nat) (word long : Nat) : Bytes :=
  let longer :=
    match byte.filter fun _ => length < 2 ^ 8 with
    | some marker => UInt8.ofNat marker :: toBeBytes 1 length
    | none =>
      if length < 2 ^ 16 then UInt8.ofNat word :: toBeBytes 2 length
      else UInt8.ofNat long :: toBeBytes 4 length
  match short with
  | none => longer
  | some (limit, marker) => if length < limit then [UInt8.ofNat (marker + length)] else longer

/-- A packed number. -/
def uintBytes (value : Nat) : Bytes :=
  if value < 128 then [UInt8.ofNat value]
  else if value < 2 ^ 8 then 0xcc :: toBeBytes 1 value
  else if value < 2 ^ 16 then 0xcd :: toBeBytes 2 value
  else if value < 2 ^ 32 then 0xce :: toBeBytes 4 value
  else 0xcf :: toBeBytes 8 value

/-- A packed text. -/
def strBytes (text : String) : Bytes :=
  header text.utf8ByteSize (some (32, 0xa0)) (some 0xd9) 0xda 0xdb ++ text.toByteArray.data.toList

/-- Packed bytes. -/
def binBytes (bytes : Bytes) : Bytes := header bytes.length none (some 0xc4) 0xc5 0xc6 ++ bytes

mutual

/-- A packed message. -/
def encode : Pack → Bytes
  | .bool false => [0xc2]
  | .bool true => [0xc3]
  | .uint value => uintBytes value
  | .str text => strBytes text
  | .bin bytes => binBytes bytes
  | .map fields => header fields.length (some (16, 0x80)) none 0xde 0xdf ++ encodeFields fields

def encodeFields : List (String × Pack) → Bytes
  | [] => []
  | (name, value) :: rest => strBytes name ++ value.encode ++ encodeFields rest

end

end Pack

/-! ## Frames -/

/-- `encode_message` -/
def encodeMessage (message : Pack) (maximum : Nat) : Except FrameError Bytes :=
  let bytes := message.encode
  if bytes.isEmpty then .error .emptyFrame
  else if bytes.length > maximum || bytes.length > 2 ^ 32 - 1 then
    .error (.frameTooLarge bytes.length (min maximum (2 ^ 32 - 1)))
  else .ok bytes

/-- What `write_frame_bytes` puts on the stream when nothing stops it. -/
def frameBytes (body : Bytes) : Bytes := toBeBytes lengthPrefixBytes body.length ++ body

/-- `u32::from_be_bytes` -/
def fromBeBytes (first second third fourth : UInt8) : Nat :=
  first.toNat * 256 ^ 3 + second.toNat * 256 ^ 2 + third.toNat * 256 + fourth.toNat

/-- `read_frame_length`, with what is left of the stream -/
def readFrameLength (maximum : Nat) : Bytes → Except FrameError (Option (Nat × Bytes))
  | [] => .ok none
  | first :: second :: third :: fourth :: rest =>
    let length := fromBeBytes first second third fourth
    if length = 0 then .error .emptyFrame
    else if length > maximum then .error (.frameTooLarge length maximum)
    else .ok (some (length, rest))
  | short => .error (.truncatedPrefix short.length)

/-- `read_frame_body`, with what is left of the stream -/
def readFrameBody (length : Nat) (stream : Bytes) : Except FrameError (Bytes × Bytes) :=
  if stream.length < length then .error (.truncatedBody length stream.length)
  else .ok (stream.take length, stream.drop length)

/-- Read one frame. -/
def readFrame (maximum : Nat) (stream : Bytes) : Except FrameError (Option (Bytes × Bytes)) := do
  match ← readFrameLength maximum stream with
  | none => .ok none
  | some (length, rest) =>
    let found ← readFrameBody length rest
    .ok (some found)

/-- Read all frames. -/
def readFrames (maximum : Nat) (stream : Bytes) : List Bytes :=
  (readAll (readFrame maximum) stream.length stream).1

/-! ## Frames delimit themselves -/

/-- A body that can be sent in one frame. -/
structure Sendable (maximum : Nat) (body : Bytes) : Prop where
  nonempty : 0 < body.length
  fits : body.length ≤ maximum
  prefixed : body.length < 2 ^ 32

variable {maximum : Nat} {body front : Bytes}

theorem encodeMessage_sendable
    {message : Pack} (encoded : encodeMessage message maximum = .ok body) :
    Sendable maximum body := by
  unfold encodeMessage at encoded
  simp only [Bool.or_eq_true, decide_eq_true_eq] at encoded
  split_ifs at encoded with empty large
  cases encoded
  rw [List.isEmpty_iff] at empty
  exact ⟨List.length_pos_iff.mpr empty, by omega, by omega⟩

theorem fromBeBytes_toBeBytes {length : Nat} (prefixed : length < 2 ^ 32) :
    fromBeBytes (UInt8.ofNat (length / 256 ^ 3))
        (UInt8.ofNat (length / 256 ^ 2)) (UInt8.ofNat (length / 256 ^ 1))
        (UInt8.ofNat (length / 256 ^ 0)) =
      length := by
  simp only [fromBeBytes, UInt8.toNat_ofNat']
  omega

@[simp]
theorem length_toBeBytes (width value : Nat) : (toBeBytes width value).length = width := by
  induction width with
  | zero => rfl
  | succ width hypothesis =>
    rw [toBeBytes, List.length_cons, hypothesis]

theorem length_frameBytes (body : Bytes) :
    (frameBytes body).length = lengthPrefixBytes + body.length := by
  rw [frameBytes, List.length_append, length_toBeBytes]

theorem readFrameLength_frameBytes
    (sendable : Sendable maximum body) (rest : Bytes) :
    readFrameLength maximum (toBeBytes lengthPrefixBytes body.length ++ rest) =
      .ok (some (body.length, rest)) := by
  have length := fromBeBytes_toBeBytes sendable.prefixed
  have nonempty := sendable.nonempty
  have fits := sendable.fits
  simp only [lengthPrefixBytes, toBeBytes, List.cons_append,
    List.nil_append, readFrameLength, length]
  rw [if_neg (by omega), if_neg (by omega)]

theorem readFrameLength_short
    {maximum : Nat} {front : Bytes}
    (short : front.length < lengthPrefixBytes) (found : Nat × Bytes) :
    readFrameLength maximum front ≠ .ok (some found) := by
  intro read
  unfold readFrameLength at read
  split at read
  · cases read
  · simp only [lengthPrefixBytes, List.length_cons] at short
    omega
  · cases read

/-- Part of a frame is no frame. -/
theorem readFrame_broken
    (sendable : Sendable maximum body) (start : front <+: frameBytes body)
    (short : front.length < (frameBytes body).length) (found : Bytes × Bytes) :
    readFrame maximum front ≠ .ok (some found) := by
  by_cases within : front.length < lengthPrefixBytes
  · have unread := @readFrameLength_short maximum front within
    unfold readFrame
    cases read : readFrameLength maximum front with
    | error error => simp [bind, Except.bind]
    | ok length =>
      cases length with
      | none => simp [bind, Except.bind]
      | some length => exact absurd read (unread length)
  · have whole : toBeBytes lengthPrefixBytes body.length <+: front := by
      refine List.prefix_of_prefix_length_le (List.prefix_append _ _) start ?_
      rw [length_toBeBytes]
      omega
    rcases whole with ⟨rest, rfl⟩
    have cut : rest.length < body.length := by
      rw [length_frameBytes, List.length_append, length_toBeBytes] at short
      omega
    rw [readFrame, readFrameLength_frameBytes sendable]
    simp [bind, Except.bind, readFrameBody, cut]

/-- Frames show where they end. -/
theorem readFrame_delimiting (maximum : Nat) :
    SelfDelimiting (readFrame maximum) frameBytes (Sendable maximum) where
  whole := by
    intro body rest sendable
    have length := readFrameLength_frameBytes sendable (body ++ rest)
    have enough : ¬(body ++ rest).length < body.length := by
      rw [List.length_append]
      omega
    rw [frameBytes, List.append_assoc, readFrame, length]
    simp only [bind, Except.bind, readFrameBody, if_neg enough, List.take_left, List.drop_left]
  broken := fun sendable start short found => readFrame_broken sendable start short found

/-- The front part of a frame, or nothing. -/
def Cut (maximum : Nat) (front : Bytes) : Prop :=
  front = [] ∨
    ∃ body, Sendable maximum body ∧ front <+: frameBytes body ∧
      front.length < (frameBytes body).length

/-- Frames before a cut are read. -/
theorem readFrames_cut
    {bodies : List Bytes} (sendable : ∀ body ∈ bodies, Sendable maximum body)
    (cut : Cut maximum front) :
    readFrames maximum (bodies.flatMap frameBytes ++ front) = bodies := by
  have enough : bodies.length ≤ (bodies.flatMap frameBytes ++ front).length := by
    clear sendable
    induction bodies with
    | nil => exact Nat.zero_le _
    | cons body rest hypothesis =>
      simp only [List.flatMap_cons, List.length_append, length_frameBytes, lengthPrefixBytes,
        List.length_cons] at hypothesis ⊢
      omega
  refine (readFrame_delimiting maximum).readAll_broken sendable enough ?_
  intro found
  rcases cut with rfl | ⟨body, sound, start, short⟩
  · simp [readFrame, readFrameLength, bind, Except.bind]
  · exact readFrame_broken sound start short found

end Tinyray.Proto
