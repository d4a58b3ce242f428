import Tinyray.Proto.Framing
import Tinyray.Proto.Rpc

/-!
# Frames of a connection

A server takes the first byte of a frame by itself and reads the rest before a
deadline, once the budgets admit the length.  As long as they do and nothing is
late, it reads what a client would.  So frames come out at the other end as
they were written, whatever the writes take and the reads find.
-/

namespace Tinyray.Transport

open Tinyray.Foundation
open Tinyray.Proto
open Tinyray.Proto.Framing

/-! ## The server -/

/-- How reading a frame fails. -/
inductive ServerFrameError where
  | frame (error : FrameError)
  | timedOut
  | admission (length : Nat)

/-- What a server meets while it reads a frame. -/
structure ServerReading where
  /-- The deadline passes while there are so many bytes of the length. -/
  late : Nat → Bool
  /-- The budgets have room for so many bytes. -/
  admits : Nat → Bool
  /-- The deadline passes while the body is read. -/
  lateInBody : Bool

/-- Read the rest of the length. -/
def fillLength (reading : ServerReading) (received : Bytes)
    (source : Source UInt8) :
    Except ServerFrameError Bytes × Source UInt8 :=
  if received.length < lengthPrefixBytes then
    if reading.late received.length then (.error .timedOut, source)
    else
      match source.read (lengthPrefixBytes - received.length) with
      | ([], next) => (.error (.frame (.truncatedPrefix received.length)), next)
      | (first :: found, next) => fillLength reading (received ++ first :: found) next
  else (.ok received, source)
termination_by lengthPrefixBytes - received.length
decreasing_by
  simp only [List.length_append, List.length_cons]
  omega

/-- `read_server_frame_after_first` -/
def readServerFrameAfterFirst (reading : ServerReading) (first : UInt8)
    (source : Source UInt8) :
    Except ServerFrameError Bytes × Source UInt8 :=
  match fillLength reading [first] source with
  | (.error error, next) => (.error error, next)
  | (.ok found, next) =>
    match checkedLength maxRpcFrameBytes (lengthOf found) with
    | .error error => (.error (.frame error), next)
    | .ok length =>
      if !reading.admits length then (.error (.admission length), next)
      else if reading.lateInBody then (.error .timedOut, next)
      else
        match Framing.readFrameBody length next with
        | (.error error, last) => (.error (.frame error), last)
        | (.ok body, last) => (.ok body, last)

/-- The first byte by itself, and the rest; nothing at the end. -/
def readServerFrame (reading : ServerReading) (source : Source UInt8) :
    Except ServerFrameError (Option Bytes) × Source UInt8 :=
  match source.read 1 with
  | ([], next) => (.ok none, next)
  | (first :: _, next) =>
    match readServerFrameAfterFirst reading first next with
    | (.error error, last) => (.error error, last)
    | (.ok body, last) => (.ok (some body), last)

/-- Every frame is admitted and nothing is late. -/
structure ServerReading.Granted (reading : ServerReading) : Prop where
  late : ∀ received, reading.late received = false
  admits : ∀ length, reading.admits length = true
  lateInBody : reading.lateInBody = false

section

variable {reading : ServerReading}

/-- The length is filled as by a client. -/
theorem fillLength_eq (granted : reading.Granted) (received : Bytes)
    (source : Source UInt8) :
    fillLength reading received source =
      ((source.fill lengthPrefixBytes received).1.mapError
          fun count => .frame (.truncatedPrefix count),
        (source.fill lengthPrefixBytes received).2) := by
  fun_induction fillLength reading received source with
  | case1 received source short late =>
    rw [granted.late] at late
    cases late
  | case2 received source short _ next nothing =>
    rw [Source.fill, if_pos short, nothing]
    rfl
  | case3 received source short _ first found next read
      hypothesis =>
      rw [hypothesis, Source.fill.eq_def _ received, if_pos short, read]
  | case4 received source full =>
    rw [Source.fill, if_neg full]
    rfl

/-- One byte, or none. -/
theorem read_one (source : Source UInt8) :
    (source.items = [] ∧ ∃ next, source.read 1 = ([], next) ∧ next.items = []) ∨
      ∃ first next, source.read 1 = ([first], next) ∧ source.items = first :: next.items := by
  have items := source.read_items 1
  have room := source.length_read_le 1
  rcases read : source.read 1 with ⟨_ | ⟨first, more⟩, next⟩
  · have nothing : (source.read 1).1 = [] := by rw [read]
    have ended := Source.items_of_read_eq_nil 1 Nat.one_pos nothing
    rw [read, ended] at items
    exact .inl ⟨ended, next, rfl, items⟩
  · rw [read] at items room
    have single : more = [] := by
      rw [← List.length_eq_zero_iff]
      simp only [List.length_cons] at room
      omega
    subst single
    exact .inr ⟨first, next, rfl, items.symm⟩

variable {first : UInt8} {source next : Source UInt8} {found : Bytes}

theorem readServerFrameAfterFirst_refused
    {error : FrameError} (filled : fillLength reading [first] source = (.ok found, next))
    (refused : checkedLength maxRpcFrameBytes (lengthOf found) = .error error) :
    readServerFrameAfterFirst reading first source = (.error (.frame error), next) := by
  rw [readServerFrameAfterFirst, filled]
  dsimp only
  rw [refused]

/-- The body is read as by a client. -/
theorem readServerFrameAfterFirst_accepted (granted : reading.Granted)
    {length : Nat} (filled : fillLength reading [first] source = (.ok found, next))
    (accepted : checkedLength maxRpcFrameBytes (lengthOf found) = .ok length) :
    readServerFrameAfterFirst reading first source =
      ((Framing.readFrameBody length next).1.mapError .frame,
        (Framing.readFrameBody length next).2) := by
  rw [readServerFrameAfterFirst, filled]
  dsimp only
  rw [accepted]
  dsimp only
  rw [granted.admits, granted.lateInBody]
  rcases Framing.readFrameBody length next with ⟨_ | _, last⟩
  · rfl
  · rfl

/-- The rest of a frame is read whole. -/
theorem readServerFrameAfterFirst_reads (granted : reading.Granted)
    (first : UInt8) (source : Source UInt8) :
    ∃ (outcome : Except FrameError Bytes) (last : Source UInt8),
      readServerFrameAfterFirst reading first source = (outcome.mapError .frame, last) ∧
        ReadsFrame maxRpcFrameBytes (first :: source.items) (outcome.map some) last.items := by
  have length := fillLength_eq granted [first] source
  have one : [first].length ≤ lengthPrefixBytes := by
    rw [List.length_singleton]
    decide
  rcases fill_length [first] source one with
    ⟨short, last, filled, rest⟩ |
    ⟨first', second, third, fourth, last, stream, filled⟩
  · rw [filled] at length
    refine ⟨.error (.truncatedPrefix ([first] ++ source.items).length), last, ?_, ?_⟩
    · rw [readServerFrameAfterFirst, length]
      rfl
    · rw [rest]
      exact readsFrame_short (List.cons_ne_nil _ _) short
  · rw [filled] at length
    rw [List.singleton_append] at stream
    rw [stream]
    cases checked : checkedLength maxRpcFrameBytes (lengthOf [first', second, third, fourth]) with
    | error error =>
      exact
        ⟨.error error, last, readServerFrameAfterFirst_refused length checked,
          readsFrame_refused checked⟩
    | ok count =>
      rcases readFrameBody_reads checked last with ⟨outcome, final, body, reads⟩
      refine ⟨outcome, final, ?_, reads⟩
      rw [readServerFrameAfterFirst_accepted granted length checked, body]

/-- A frame is read whole. -/
theorem readServerFrame_reads (granted : reading.Granted)
    (source : Source UInt8) :
    ∃ (outcome : Except FrameError (Option Bytes)) (last : Source UInt8),
      readServerFrame reading source = (outcome.mapError .frame, last) ∧
        ReadsFrame maxRpcFrameBytes source.items outcome last.items := by
  rcases read_one source with ⟨ended, next, read, rest⟩ | ⟨first, next, read, stream⟩
  · refine ⟨.ok none, next, ?_, ?_⟩
    · rw [readServerFrame, read]
      rfl
    · rw [ended, rest]
      exact ⟨rfl, rfl⟩
  · rcases readServerFrameAfterFirst_reads granted first next with ⟨outcome, last, after, reads⟩
    rw [stream, readServerFrame, read]
    dsimp only
    rw [after]
    cases outcome with
    | error error => exact ⟨.error error, last, rfl, reads⟩
    | ok body => exact ⟨.ok (some body), last, rfl, reads⟩

end

/-! ## Whole streams -/

/--
How a stream goes on where no frame follows: it ends, it is cut off within a
length or a body, or it has a length that no frame may have.  With the error,
and with what is left unread.
-/
inductive Stops (maximum : Nat) : Bytes → Option FrameError → Bytes → Prop
  | ended : Stops maximum [] none []
  | cutLength {front : Bytes} (started : front ≠ [])
      (short : front.length < lengthPrefixBytes) :
      Stops maximum front (some (.truncatedPrefix front.length)) []
  | cutBody {length : Nat} {front : Bytes} (nonzero : 0 < length)
      (fits : length ≤ maximum) (counted : length < 2 ^ 32)
      (short : front.length < length) :
      Stops maximum (toBeBytes lengthPrefixBytes length ++ front)
        (some (.truncatedBody length front.length)) []
  | zero {rest : Bytes} :
      Stops maximum (toBeBytes lengthPrefixBytes 0 ++ rest) (some .emptyFrame) rest
  | tooLarge {length : Nat} {rest : Bytes} (large : maximum < length)
      (counted : length < 2 ^ 32) :
      Stops maximum (toBeBytes lengthPrefixBytes length ++ rest)
        (some (.frameTooLarge length maximum)) rest

section

variable {maximum : Nat}

theorem checkedLength_of_fits {length : Nat} (nonzero : 0 < length)
    (fits : length ≤ maximum) :
    checkedLength maximum length = .ok length := by
  rw [checkedLength, if_neg (by omega), if_neg (by omega)]

variable {tail left : Bytes} {error : Option FrameError}

/-- Where a stream stops. -/
theorem Stops.reads
    (stops : Stops maximum tail error left) :
    ReadsFrame maximum tail (stop error) left := by
  cases stops with
  | ended => exact ⟨rfl, rfl⟩
  | cutLength started short => exact readsFrame_short started short
  | cutBody nonzero fits counted short =>
    refine readsFrame_cut ?_ short
    rw [fromBeBytes_toBeBytes counted]
    exact checkedLength_of_fits nonzero fits
  | zero =>
    refine readsFrame_refused ?_
    rw [fromBeBytes_toBeBytes (by omega), checkedLength, if_pos rfl]
  | tooLarge large counted =>
    refine readsFrame_refused ?_
    rw [fromBeBytes_toBeBytes counted, checkedLength, if_neg (by omega), if_pos large]

theorem readsFrame_whole {body : Bytes} (sendable : Sendable maximum body)
    (rest : Bytes) :
    ReadsFrame maximum (frameBytes body ++ rest) (.ok (some body))
      rest := by
  rw [ReadsFrame, afterFrame, (readFrame_delimiting maximum).whole rest sendable]
  exact ⟨rfl, rfl⟩

theorem readsFrame_unique {stream left' : Bytes}
    {outcome outcome' : Except FrameError (Option Bytes)}
    (reads : ReadsFrame maximum stream outcome left)
    (reads' : ReadsFrame maximum stream outcome' left') :
    outcome = outcome' ∧ left = left' :=
  ⟨reads.1.trans reads'.1.symm, reads.2.trans reads'.2.symm⟩

/-- A stream is read to its end. -/
theorem reads_stream {ε : Type} {wrap : FrameError → ε}
    {read : Source UInt8 → Except ε (Option Bytes) × Source UInt8}
    (reads :
      ∀ source, ∃ (outcome : Except FrameError (Option Bytes)) (last : _),
        read source = (outcome.mapError wrap, last) ∧
          ReadsFrame maximum source.items outcome last.items)
    {bodies : List Bytes}
    (sendable : ∀ body ∈ bodies, Sendable maximum body)
    (stops : Stops maximum tail error left) {source : Source UInt8}
    (shows : source.items = bodies.flatMap frameBytes ++ tail) :
    ∃ last, Reads read source bodies (error.map wrap) last ∧ last.items = left := by
  have whole :
      ∀ (state : Source UInt8) body rest, Sendable maximum body →
        state.items = frameBytes body ++ rest →
          ∃ later, read state = (.ok (some body), later) ∧ later.items = rest := by
    intro state body rest sound stream
    rcases reads state with ⟨outcome, last, result, found⟩
    rw [stream] at found
    rcases readsFrame_unique found (readsFrame_whole sound rest) with ⟨rfl, left⟩
    exact ⟨last, result, left⟩
  refine Reads.of_flatMap whole ?_ sendable shows
  intro state stream
  rcases reads state with ⟨outcome, last, result, found⟩
  rw [stream] at found
  rcases readsFrame_unique found stops.reads with ⟨rfl, rest⟩
  refine ⟨last, ?_, rest⟩
  rw [result]
  cases error with
  | none => rfl
  | some error => rfl

end

/--
Frames that are written, whatever the writes take, are read back by a client
and by a server, whatever the reads find.  A stream that stops within a frame,
or at a length that no frame may have, gives all frames before it and then the
error; after such a length nothing more is read.
-/
theorem frames_survive_any_cut
    (takes : Nat → Nat) (positive : ∀ write, 0 < takes write)
    (maximum : Nat) (counted : maximum < 2 ^ 32) (bodies : List Bytes)
    (sized : ∀ body ∈ bodies, 1 ≤ body.length ∧ body.length ≤ maximum) :
    ∃ written,
      writeFrames takes maximum bodies {} = (.ok (), written) ∧
        (∀ tail error left, Stops maximum tail error left →
          ∀ source : Source UInt8, source.items = written.sent ++ tail →
            ∃ last, Reads (Framing.readFrame maximum) source bodies error last ∧
              last.items = left) ∧
        (maximum ≤ maxRpcFrameBytes →
          ∀ reading : ServerReading, reading.Granted →
            ∀ tail error left, Stops maxRpcFrameBytes tail error left →
              ∀ source : Source UInt8,
                source.items = written.sent ++ tail →
                  ∃ last,
                    Reads (readServerFrame reading) source bodies (error.map .frame) last ∧
                      last.items = left) := by
  have sendable : ∀ body ∈ bodies, Sendable maximum body := by
    intro body listed
    rcases sized body listed with ⟨nonempty, fits⟩
    exact ⟨nonempty, fits, by omega⟩
  rcases writeFrames_sends positive sendable {} with ⟨written, wrote, sent⟩
  rw [List.nil_append] at sent
  refine ⟨written, wrote, ?_, ?_⟩
  · intro tail error left stops source shows
    rw [sent] at shows
    have reads :
        ∀ source, ∃ (outcome : Except FrameError (Option Bytes)) (last : _),
          Framing.readFrame maximum source = (outcome.mapError id, last) ∧
            ReadsFrame maximum source.items outcome last.items := by
      intro source
      rcases readFrame_reads maximum source with ⟨outcome, last, result, found⟩
      refine ⟨outcome, last, ?_, found⟩
      rw [result]
      cases outcome with
      | error error => rfl
      | ok body => rfl
    rcases reads_stream reads sendable stops shows with ⟨last, all, rest⟩
    rw [Option.map_id] at all
    exact ⟨last, all, rest⟩
  · intro fits reading granted tail error left stops source shows
    rw [sent] at shows
    refine reads_stream (readServerFrame_reads granted) ?_ stops shows
    intro body listed
    have sound := sendable body listed
    exact ⟨sound.nonempty, Nat.le_trans sound.fits fits, sound.prefixed⟩

/-- Two frames, one byte at a time, and the first byte of a third. -/
theorem frames_survive_any_cut_bytewise :
    ∃ written,
      writeFrames (fun _ => 1) 1 [[0xc0], [0xc2]] {} = (.ok (), written) ∧
        ∀ source : Source UInt8, source.items = written.sent ++ [7] →
          (∃ last,
            Reads (Framing.readFrame 1) source [[0xc0], [0xc2]] (some (.truncatedPrefix 1)) last ∧
              last.items = []) ∧
            ∃ last,
              Reads
                  (readServerFrame ⟨fun _ => false, fun _ => true, false⟩)
                  source [[0xc0], [0xc2]]
                  (some (.frame (.truncatedPrefix 1))) last ∧
                last.items = [] := by
  rcases
      frames_survive_any_cut (fun _ => 1) (fun _ => Nat.one_pos) 1 (by decide)
        [[0xc0], [0xc2]] (by decide) with
    ⟨written, wrote, client, server⟩
  have stops (maximum : Nat) : Stops maximum [7] (some (.truncatedPrefix 1)) [] :=
    .cutLength (List.cons_ne_nil _ _) (by decide)
  refine ⟨written, wrote, fun source shows => ⟨?_, ?_⟩⟩
  · exact client _ _ _ (stops 1) source shows
  · exact server (by decide) _ ⟨fun _ => rfl, fun _ => rfl, rfl⟩ _ _ _ (stops _) source shows

end Tinyray.Transport
