import Mathlib.Algebra.Ring.Int.Defs
import Mathlib.Algebra.Ring.Nat
import Tinyray.Foundation.Assembly
import Tinyray.Foundation.Digits

/-!
# Application values

Values of Python as they are packed for a call and read back.  MessagePack has
integers of 64 bits, arrays and maps; an integer that is larger goes into an
extension, and so does a mapping or a set that would have one as a key or item.

A set is given by its items in the order in which they are iterated, and a
copy of it is iterated in the same order.  Bytes that were packed are given by
what they say.
-/

namespace Tinyray.Codec

open Tinyray.Foundation

/-- What packed bytes say; an extension, what its payload says. -/
inductive Wire where
  | nil
  | bool (value : Bool)
  | int (value : Int)
  | str (text : String)
  | bin (bytes : List UInt8)
  | array (items : List Wire)
  | map (entries : List (Wire × Wire))
  /-- `_EXT_BIG_INT` -/
  | bigInt (text : List Char)
  /-- `_EXT_BIG_DICT` -/
  | bigDict (pairs : List (Wire × Wire))
  /-- `_EXT_BIG_SET` -/
  | bigSet (items : List Wire)
  /-- `_EXT_TUPLE_KEY` -/
  | tupleKey (items : Wire)
  /-- `_EXT_FROZENSET_KEY` -/
  | frozensetKey (items : Wire)

/-- Values of Python. -/
inductive Py where
  | none
  | bool (value : Bool)
  | int (value : Int)
  | str (text : String)
  | bytes (bytes : List UInt8)
  | list (items : List Py)
  | tuple (items : List Py)
  | set (items : List Py)
  | frozenset (items : List Py)
  | dict (entries : List (Py × Py))
  /-- `msgspec.msgpack.Ext` -/
  | ext (wire : Wire)

namespace Py

/-! ## Hashable values -/

mutual

/-- `hash` succeeds. -/
def hashable : Py → Bool
  | .list _ | .set _ | .dict _ | .ext _ => false
  | .tuple items => allHashable items
  | _ => true

def allHashable : List Py → Bool
  | [] => true
  | item :: rest => item.hashable && allHashable rest

end

mutual

/-- Equality of hashable values; `True` equals 1 and `False` equals 0. -/
def same : Py → Py → Bool
  | .none, .none => true
  | .bool left, .bool right => left == right
  | .bool left, .int right => left.toInt == right
  | .int left, .bool right => left == right.toInt
  | .int left, .int right => left == right
  | .str left, .str right => left == right
  | .bytes left, .bytes right => left == right
  | .tuple left, .tuple right => sameItems left right
  | .frozenset left, .frozenset right =>
    left.length == right.length && sameAmong left right
  | _, _ => false

def sameItems : List Py → List Py → Bool
  | [], [] => true
  | left :: lefts, right :: rights => same left right && sameItems lefts rights
  | _, _ => false

/-- Each of the items is among the others. -/
def sameAmong : List Py → List Py → Bool
  | [], _ => true
  | item :: rest, others => others.any (same item) && sameAmong rest others

end

mutual

/-- What a value has that is not a container. -/
def leaves : Py → List Py
  | .list items | .tuple items | .set items | .frozenset items => leavesOf items
  | .dict entries => leavesOfEntries entries
  | leaf => [leaf]

def leavesOf : List Py → List Py
  | [] => []
  | item :: rest => item.leaves ++ leavesOf rest

def leavesOfEntries : List (Py × Py) → List Py
  | [] => []
  | (key, value) :: rest => key.leaves ++ value.leaves ++ leavesOfEntries rest

end

end Py

/-- An integer that MessagePack has. -/
def fits64 (value : Int) : Bool := -(2 ^ 63) ≤ value && value < 2 ^ 64

/-- An integer that it does not have. -/
def Py.large : Py → Bool
  | .int value => !fits64 value
  | _ => false

/-! ## Packing -/

mutual

/-- What the encoder of `msgspec` makes of a value it does not refuse. -/
def Py.wire : Py → Wire
  | .none => .nil
  | .bool value => .bool value
  | .int value => .int value
  | .str text => .str text
  | .bytes bytes => .bin bytes
  | .list items | .tuple items | .set items | .frozenset items => .array (wires items)
  | .dict entries => .map (wirePairs entries)
  | .ext wire => wire

def wires : List Py → List Wire
  | [] => []
  | item :: rest => item.wire :: wires rest

def wirePairs : List (Py × Py) → List (Wire × Wire)
  | [] => []
  | (key, value) :: rest => (key.wire, value.wire) :: wirePairs rest

end

/-- `Encoder.encode`; `none` is an `OverflowError`. -/
def encode (value : Py) : Option Wire := if value.leaves.any Py.large then none else some value.wire

/-- `str` of an integer -/
def intText (value : Int) : List Char := (if value < 0 then ['-'] else []) ++ digitsOf value.natAbs

mutual

/--
`_prepare_bigints`, or `_prepare_hashable` with the flag set: a tuple or a
frozenset then goes into an extension of its own.
-/
def prepare (asKey : Bool) : Py → Py
  | .int value => if fits64 value then .int value else .ext (.bigInt (intText value))
  | .list items => .list (prepareItems false items)
  | .tuple items =>
    if asKey then .ext (.tupleKey (Py.list (prepareItems true items)).wire)
    else .tuple (prepareItems false items)
  | .set items =>
    let converted := prepareItems false items
    if Py.allHashable converted then .set (gather Py.same converted)
    else .ext (.bigSet (wires (prepareItems true items)))
  | .frozenset items =>
    if asKey then .ext (.frozensetKey (Py.list (prepareItems true items)).wire)
    else
      let converted := prepareItems false items
      if Py.allHashable converted then .frozenset (gather Py.same converted)
      else .ext (.bigSet (wires (prepareItems true items)))
  | .dict entries =>
    let converted := prepareEntries false entries
    if Py.allHashable (converted.map Prod.fst) then .dict (assemble Py.same converted)
    else .ext (.bigDict (wirePairs (prepareEntries true entries)))
  | value => value

def prepareItems (asKey : Bool) : List Py → List Py
  | [] => []
  | item :: rest => prepare asKey item :: prepareItems asKey rest

/-- The flag is for the keys. -/
def prepareEntries (asKey : Bool) : List (Py × Py) → List (Py × Py)
  | [] => []
  | (key, value) :: rest => (prepare asKey key, prepare false value) :: prepareEntries asKey rest

end

/-- `_prepare_bigints` -/
def prepareBigints (value : Py) : Py := prepare false value

/-- `_prepare_hashable` -/
def prepareHashable (value : Py) : Py := prepare true value

/-- `sys.get_int_max_str_digits`; 0 is no limit. -/
structure Interpreter where
  maxStrDigits : Nat

namespace Interpreter

variable (interpreter : Interpreter)

/-- `int` and `str` take so many digits. -/
def converts (digits : List Char) : Bool :=
  interpreter.maxStrDigits == 0 || digits.length ≤ interpreter.maxStrDigits

/-- `str` does not raise for this leaf; only large integers are written. -/
def writes : Py → Bool
  | .int value => fits64 value || interpreter.converts (digitsOf value.natAbs)
  | _ => true

/-- `int` of a text of digits -/
def readDigits (digits : List Char) : Option Nat :=
  if isDigits digits && interpreter.converts digits then some (digitsValue digits)
  else none

/-- `int` of a text, as `str` writes it. -/
def readInt : List Char → Option Int
  | '-' :: digits => (interpreter.readDigits digits).map fun value => -Int.ofNat value
  | digits => (interpreter.readDigits digits).map Int.ofNat

/--
`dumps`: the integers are looked at only where the encoder refuses one, and
then every one of them is written; `none` is an error.
-/
def dumps (value : Py) : Option Wire :=
  match encode value with
  | some wire => some wire
  | none =>
    if value.leaves.all interpreter.writes then encode (prepareBigints value)
    else none

end Interpreter

/-! ## Reading -/

/-- The items of what can be iterated. -/
def iterate : Py → Option (List Py)
  | .list items | .tuple items | .set items | .frozenset items => some items
  | .dict entries => some (entries.map Prod.fst)
  | .str text => some (text.toList.map fun char => .str (String.singleton char))
  | .bytes bytes => some (bytes.map fun byte => .int byte.toNat)
  | _ => none

/-- A mapping of entries with hashable keys. -/
def toDict (entries : List (Py × Py)) : Option Py :=
  if Py.allHashable (entries.map Prod.fst) then some (.dict (assemble Py.same entries))
  else none

mutual

/--
The decoder with `_decode_ext`.  An array is a list, or a tuple where a key
stands; `none` is an error.
-/
def decode (interpreter : Interpreter) (inKey : Bool) : Wire → Option Py
  | .nil => some .none
  | .bool value => some (.bool value)
  | .int value => some (.int value)
  | .str text => some (.str text)
  | .bin bytes => some (.bytes bytes)
  | .array items => do
    let items ← decodeItems interpreter inKey items
    some (if inKey then .tuple items else .list items)
  | .map entries =>
    if inKey then none
    else do toDict (← decodeEntries interpreter true entries)
  | .bigInt text => (interpreter.readInt text).map .int
  | .bigDict pairs => do toDict (← decodeEntries interpreter false pairs)
  | .bigSet items => do
    let items ← decodeItems interpreter false items
    if Py.allHashable items then some (.set (gather Py.same items))
    else none
  | .tupleKey items => do
    let items ← iterate (← decode interpreter false items)
    some (.tuple items)
  | .frozensetKey items => do
    let items ← iterate (← decode interpreter false items)
    if Py.allHashable items then some (.frozenset (gather Py.same items))
    else none

def decodeItems (interpreter : Interpreter) (inKey : Bool) : List Wire → Option (List Py)
  | [] => some []
  | item :: rest => do
    let first ← decode interpreter inKey item
    let later ← decodeItems interpreter inKey rest
    some (first :: later)

/-- The flag is for the keys. -/
def decodeEntries (interpreter : Interpreter) (inKey : Bool) :
    List (Wire × Wire) → Option (List (Py × Py))
  | [] => some []
  | (key, value) :: rest => do
    let key ← decode interpreter inKey key
    let value ← decode interpreter false value
    let later ← decodeEntries interpreter inKey rest
    some ((key, value) :: later)

end

/-- `loads` -/
def Interpreter.loads (interpreter : Interpreter) (wire : Wire) : Option Py :=
  decode interpreter false wire

/-- A message on its way there. -/
def Interpreter.sends (interpreter : Interpreter) (value : Py) : Option Py :=
  (interpreter.dumps value).bind interpreter.loads

end Tinyray.Codec
