import Tinyray.Proto.Value

/-!
# Wire types of the registry protocol

Members as other processes see them, the beat a member sends, and the answer
of the registry with one delta for each watched pool that has moved.

Identifiers, tenures (`incarnation`), publication numbers, versions and
cursors are natural numbers; hash maps are finite maps.  The roster
fingerprint is a 64-bit word, since its hash multiplies modulo `2 ^ 64`.
-/

namespace Tinyray

open Std

/-! ## Members -/

/-- `Member` -/
structure Member where
  id : Nat
  slot : Option Nat
  incarnation : Nat
  url : Option String
  state : Value
  ready : Bool

/-- A number's eight bytes. -/
def leBytes (number : Nat) : List (BitVec 64) :=
  (List.range 8).map fun index => BitVec.ofNat 64 (number / 256 ^ index % 256)

/-- Fold the bytes of seat and tenure into a word. -/
def rosterHash (id incarnation : Nat) : BitVec 64 :=
  (leBytes id ++ leBytes incarnation).foldl
    (fun hash byte => (hash ^^^ byte) * 1099511628211#64)
    1469598103934665603#64

/-- Contribution to the roster fingerprint: only seat and tenure take part. -/
def Member.rosterHash (member : Member) : BitVec 64 :=
  Tinyray.rosterHash member.id member.incarnation

/-! ## Beats -/

/-- How many pools one member may subscribe to. -/
def maxWatch : Nat := 64

/-- `Beat` -/
structure Beat where
  pool : String
  slot : Option Nat := none
  id : Nat
  incarnation : Nat
  /-- Covers state, readiness and url; missing for a legacy client. -/
  publication : Option Nat := none
  policy : String := ""
  size : Option Nat := none
  url : Option String := none
  state : Value := .null
  ready : Bool := false
  leaving : Bool := false
  /-- Take the seat only if it is free. -/
  exclusive : Bool := false
  methods : List String := []
  /-- Pools this process wants to hear about. -/
  watch : List String := []
  /-- Version of each watched pool already held locally. -/
  seen : ExtTreeMap String Nat := ∅
  holdMs : Nat := 0

/-! ## Answers -/

/-- What changed in a pool, or the whole of it when `full` is set. -/
structure PoolDelta where
  version : Nat
  roster : BitVec 64
  policy : String
  methods : List String
  size : Option Nat
  changed : List Member
  removed : List Nat
  full : Bool

/-- What a beat says about its pool that the pool does not say of itself. -/
inductive Disagreement where
  | policy (pool running claimed : String)
  | size (pool : String) (held : Option Nat) (claimed : Nat)
deriving DecidableEq

/-- The text sent back; `debug` quotes a string as `{:?}` does. -/
def Disagreement.text (debug : String → String) : Disagreement → String
  | .policy pool running claimed =>
    "pool " ++ debug pool ++ " is running as " ++ debug running ++
      ", this member says " ++ debug claimed
  | .size pool held claimed =>
    "pool " ++ debug pool ++ " was opened with size " ++ (held.map toString).getD "no size" ++
      ", this member says " ++ toString claimed

/-- What this build of the registry can do. -/
def protocol : Nat := 3

/-- The version of the package. -/
def packageVersion : String := "0.18.0"

/-- `BeatAck` -/
structure BeatAck where
  epoch : Nat
  protocol : Nat := Tinyray.protocol
  version : String := packageVersion
  ttlMs : Nat
  accepted : Bool
  refused : Option Disagreement := none
  pools : ExtTreeMap String PoolDelta := ∅

end Tinyray
