import Tinyray.Foundation.Digits
import Tinyray.Foundation.Splitting
import Tinyray.Membership.Calls

/-!
# Fencing tokens

The identity `pool/key#tenure` of a caller rides on every call.  The key is
the seat, or the member's own id if it has no seat.  Three readers take the
text apart: the context of a call and `_seat_of` cut at the first `/`, the
native parser at the last one.
-/

namespace Tinyray

open Tinyray.Foundation

/-! ## Writing -/

/-- How an identity is written. -/
def identityText (pool : String) (key incarnation : Nat) : String :=
  pool ++ "/" ++ toString key ++ "#" ++ toString incarnation

/-- Which pool, which seat, which tenure; without a seat, which member. -/
def identity (pool : String) (slot : Option Nat) (ident incarnation : Nat) : String :=
  identityText pool (slot.getD ident) incarnation

/-- `member_identity` -/
def memberIdentity (pool : String) (member : Member) : String :=
  identityText pool (member.slot.getD member.id) member.incarnation

/-! ## Reading -/

/-- `str::parse` for a 64-bit number, which allows a plus sign. -/
def parseU64 (text : List Char) : Option Nat :=
  let digits :=
    match text with
    | '+' :: rest => rest
    | _ => text
  if isDigits digits && digitsValue digits < 2 ^ 64 then some (digitsValue digits)
  else none

/-- `CallContext` -/
structure CallContext where
  identity : String
  pool : String
  slot : Option Nat
  incarnation : Nat
  requestId : String

/-- The context that an identity gives. -/
def CallContext.new (identity : String) (requestId : String := "") : CallContext :=
  let named := partition '/' identity.toList
  let seat := partition '#' named.2
  { identity
    pool := String.ofList named.1
    slot := if isDigits seat.1 then some (digitsValue seat.1) else none
    incarnation := if isDigits seat.2 then digitsValue seat.2 else 0
    requestId }

/-- A token that names no numbered seat. -/
structure SeatRefusal where
  identity : String
deriving DecidableEq

/-- The text of the error; `repr` quotes a string as `!r` does. -/
def SeatRefusal.text (repr : String → String) (refusal : SeatRefusal) : String :=
  repr refusal.identity ++ " does not name a numbered seat"

/-- The seat number out of `pool/slot#tenure`. -/
def seatOf (identity : String) : Except SeatRefusal Nat :=
  let seat := (partition '#' (partition '/' identity.toList).2).1
  if isDigits seat then .ok (digitsValue seat) else .error ⟨identity⟩

/-- Pool, key and tenure of a token. -/
def identityParts (identity : String) : Option (String × Nat × Nat) := do
  let (head, incarnation) ← rsplitOnce '#' identity.toList
  let (pool, key) ← rsplitOnce '/' head
  let key ← parseU64 key
  let incarnation ← parseU64 incarnation
  some (String.ofList pool, key, incarnation)

/-- `identity_matches` -/
def identityMatches (pool : String) (member : Member)
    (identity : String) : Bool :=
  (identityParts identity).any fun parts =>
    parts.1 == pool && parts.2.1 == member.slot.getD member.id && parts.2.2 == member.incarnation

/-! ## Round trips -/

/-- A number is read back. -/
theorem parseU64_digitsOf {number : Nat} (bound : number < 2 ^ 64) :
    parseU64 (digitsOf number) = some number := by
  have unsigned :
      (match digitsOf number with
        | '+' :: rest => rest
        | _ => digitsOf number) = digitsOf number := by
    split
    · rename_i rest plus
      have absent : '+' ∉ digitsOf number := not_mem_digitsOf rfl number
      rw [plus] at absent
      exact absurd List.mem_cons_self absent
    · rfl
  unfold parseU64
  simp only [unsigned, isDigits_digitsOf, digitsValue_digitsOf, bound,
    decide_true, Bool.and_self, if_true]

theorem toList_identityText (pool : String) (key incarnation : Nat) :
    (identityText pool key incarnation).toList =
      pool.toList ++ '/' :: (digitsOf key ++ '#' :: digitsOf incarnation) := by
  have digits (number : Nat) : (toString number).toList = digitsOf number := Nat.toList_repr
  unfold identityText
  simp only [String.toList_append, digits, List.append_assoc]
  rfl

/-- An identity is read back. -/
theorem identityParts_identityText
    (pool : String) {key incarnation : Nat} (keyBound : key < 2 ^ 64)
    (incarnationBound : incarnation < 2 ^ 64) :
    identityParts (identityText pool key incarnation) = some (pool, key, incarnation) := by
  have tenure :
      (identityText pool key incarnation).toList =
        (pool.toList ++ '/' :: digitsOf key) ++ '#' :: digitsOf incarnation := by
    rw [toList_identityText]
    simp
  have named :
      rsplitOnce '/' (pool.toList ++ '/' :: digitsOf key) = some (pool.toList, digitsOf key) :=
    rsplitOnce_append (not_mem_digitsOf rfl key) _
  unfold identityParts
  rw [tenure, rsplitOnce_append (not_mem_digitsOf rfl incarnation)]
  simp only [Option.bind_eq_bind, Option.bind_some, named,
    parseU64_digitsOf keyBound, parseU64_digitsOf incarnationBound, String.ofList_toList]

theorem partition_identityText
    {pool : String} (unslashed : '/' ∉ pool.toList) (key incarnation : Nat) :
    partition '/' (identityText pool key incarnation).toList =
        (pool.toList, digitsOf key ++ '#' :: digitsOf incarnation) ∧
      partition '#' (digitsOf key ++ '#' :: digitsOf incarnation) =
        (digitsOf key, digitsOf incarnation) := by
  rw [toList_identityText]
  exact ⟨partition_append unslashed _, partition_append (not_mem_digitsOf rfl key) _⟩

theorem seatOf_identityText
    {pool : String} (unslashed : '/' ∉ pool.toList) (key incarnation : Nat) :
    seatOf (identityText pool key incarnation) = .ok key := by
  rcases partition_identityText unslashed key incarnation with ⟨named, seat⟩
  unfold seatOf
  simp only [named, seat, isDigits_digitsOf, digitsValue_digitsOf, if_true]

theorem callContext_identityText
    {pool : String} (unslashed : '/' ∉ pool.toList)
    (key incarnation : Nat) (requestId : String) :
    CallContext.new (identityText pool key incarnation) requestId =
      ⟨identityText pool key incarnation, pool, some key, incarnation, requestId⟩ := by
  rcases partition_identityText unslashed key incarnation with ⟨named, seat⟩
  unfold CallContext.new
  simp only [named, seat, isDigits_digitsOf, digitsValue_digitsOf, if_true, String.ofList_toList]

theorem callContext_pool_unslashed (identity requestId : String) :
    '/' ∉ (CallContext.new identity requestId).pool.toList := by
  change '/' ∉ (String.ofList _).toList
  rw [String.toList_ofList]
  exact not_mem_partition '/' identity.toList

/-! ## What survives the trip -/

/-- A member that calls another, as it knows itself. -/
structure Caller where
  pool : String
  slot : Option UInt64
  ident : UInt64
  incarnation : UInt64

/-- The identity of a caller. -/
def Caller.identity (caller : Caller) : String :=
  Tinyray.identity caller.pool (caller.slot.map UInt64.toNat)
    caller.ident.toNat caller.incarnation.toNat

/-- The receiving side sees the caller as the caller sees itself. -/
structure Caller.Survives (caller : Caller) (requestId : String) : Prop where
  pool : (CallContext.new caller.identity requestId).pool = caller.pool
  incarnation : (CallContext.new caller.identity requestId).incarnation = caller.incarnation.toNat
  slot : (CallContext.new caller.identity requestId).slot = caller.slot.map UInt64.toNat
  key :
    ∃ key, seatOf caller.identity = .ok key ∧
      (identityParts caller.identity).map (fun parts => parts.2.1) = some key

/--
An identity survives the trip exactly if the member has a seat and the name
of its pool has no separator in it.
-/
theorem caller_survives_iff (caller : Caller) (requestId : String) :
    caller.Survives requestId ↔ caller.slot.isSome = true ∧ '/' ∉ caller.pool.toList := by
  obtain ⟨pool, slot, ident, incarnation⟩ := caller
  constructor
  · intro survives
    have unslashed : '/' ∉ pool.toList := by
      have shown := survives.pool
      change _ = pool at shown
      rw [← shown]
      exact callContext_pool_unslashed _ _
    refine ⟨?_, unslashed⟩
    have seat := survives.slot
    unfold Caller.identity Tinyray.identity at seat
    rw [callContext_identityText unslashed] at seat
    cases slot with
    | none => cases seat
    | some slot => rfl
  · rintro ⟨seated, unslashed⟩
    cases slot with
    | none => cases seated
    | some slot =>
      have context := callContext_identityText unslashed slot.toNat incarnation.toNat requestId
      have parts := identityParts_identityText pool slot.toNat_lt incarnation.toNat_lt
      refine ⟨?_, ?_, ?_, slot.toNat, ?_, ?_⟩
      · exact congrArg CallContext.pool context
      · exact congrArg CallContext.incarnation context
      · exact congrArg CallContext.slot context
      · exact seatOf_identityText unslashed _ _
      · exact congrArg (Option.map fun parts => parts.2.1) parts

/-- A member without a seat is shown in the seat its id numbers. -/
theorem seatless_caller_does_not_survive :
    Membership.checkedPoolName "worker" = .ok () ∧
      (CallContext.new (Caller.identity ⟨"worker", none, 7, 1⟩)).slot = some 7 ∧
      ¬Caller.Survives ⟨"worker", none, 7, 1⟩ "" := by
  have unslashed : '/' ∉ "worker".toList := by decide
  have shown : (CallContext.new (Caller.identity ⟨"worker", none, 7, 1⟩)).slot = some 7 :=
    congrArg CallContext.slot (callContext_identityText unslashed 7 1 "")
  refine ⟨by decide +kernel, shown, ?_⟩
  intro survives
  have seat := survives.slot
  rw [shown] at seat
  cases seat

end Tinyray
