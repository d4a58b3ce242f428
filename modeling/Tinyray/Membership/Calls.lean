import Tinyray.Foundation.Run
import Tinyray.Membership.Shared
import Tinyray.Registry.State

/-!
# The calls of a member

A member joins through one of the two SDKs and then looks up pools, watches
them and publishes.  Each call checks its arguments and either returns an
error or changes what the next beats say; a beat beyond the registry's own
limits is refused, after which the member beats no more.

`join` returns only after an accepted beat, so everything it put into beats
is within the limits.  The checks of the later calls leave out the length of a
watched name and the size of a published state.
-/

namespace Tinyray.Membership

open Tinyray.Foundation

/-- Which package joins. -/
inductive Sdk where
  | python
  | rust
deriving DecidableEq

/-- Why a call returns an error. -/
inductive CallRefusal where
  | unnamedPool
  | unprintablePool (name : String)
  | unknownPolicy (policy : String)
  | noSeat (policy : String)
  | seatRange (slot : Nat)
  | worldRange (size : Nat)
  | seatOutside (slot size : Nat)
  /-- The registry did not answer in time. -/
  | unreachable
  | refused (why : Option Disagreement)
  | tooManyPools
  /-- The state has no JSON text. -/
  | unserializable (message : String)
deriving DecidableEq

/-- The largest number of a seat. -/
def maxSeat : Nat := 2 ^ 63 - 1

/-- The policies there are. -/
def policies : List String := ["churn", "serving", "stateful", "collective"]

/-- `_checked_pool_name`: only the bytes of printable ASCII occur. -/
def checkedPoolName (name : String) : Except CallRefusal Unit :=
  if name = "" then .error .unnamedPool
  else if name.toByteArray.data.toList.all (fun byte => 0x20 ≤ byte && byte ≤ 0x7e) then .ok ()
  else .error (.unprintablePool name)

/-! ## Joining -/

/-- What a member joins with. -/
structure Joining where
  sdk : Sdk
  pool : String
  policy : String := "churn"
  id : Nat
  incarnation : Nat
  slot : Option Nat := none
  size : Option Nat := none
  exclusive : Bool := false
  /-- The methods of the served object, empty if none is served. -/
  methods : List String := []
  /-- Where the member is reached, if it is. -/
  endpoint : Option String := none

namespace Joining

variable (joining : Joining)

/-- A seat beyond the size of its world. -/
def outside : Option (Nat × Nat) :=
  match joining.slot, joining.size with
  | some slot, some size => if slot ≥ size then some (slot, size) else none
  | _, _ => none

/-- The checks of the Python `join`, in its order. -/
def checkPython : Except CallRefusal Unit :=
  match checkedPoolName joining.pool with
  | .error refusal => .error refusal
  | .ok () =>
    if !policies.contains joining.policy then .error (.unknownPolicy joining.policy)
    else if ["stateful", "collective"].contains joining.policy ∧ joining.slot = none then
      .error (.noSeat joining.policy)
    else
      match joining.slot.filter (fun slot => slot > maxSeat),
        joining.size.filter (fun size => size = 0 || size > maxSeat), joining.outside with
      | some slot, _, _ => .error (.seatRange slot)
      | none, some size, _ => .error (.worldRange size)
      | none, none, some (slot, size) => .error (.seatOutside slot size)
      | none, none, none => .ok ()

/-- The checks of `MemberBuilder::join`, in its order. -/
def checkRust : Except CallRefusal Unit :=
  if joining.pool = "" then .error .unnamedPool
  else if joining.size = some 0 then .error (.worldRange 0)
  else
    match joining.outside with
    | some (slot, size) => .error (.seatOutside slot size)
    | none => .ok ()

/-- The checks before joining. -/
def check : Except CallRefusal Unit :=
  match joining.sdk with
  | .python => joining.checkPython
  | .rust => joining.checkRust

/-- The client that joining makes. -/
def shared : Shared :=
  match joining.sdk with
  | .python =>
    (Shared.new joining.pool joining.id joining.incarnation
      joining.policy joining.slot joining.size joining.endpoint
      joining.methods joining.exclusive).watchPools [joining.pool]
  | .rust =>
    let fresh :=
      Shared.new joining.pool joining.id joining.incarnation
        joining.policy joining.slot joining.size none joining.methods
        joining.exclusive
    let serving :=
      match joining.endpoint with
      | none => fresh
      | some endpoint => fresh.advertise endpoint
    { serving with watch := serving.watch ++ [joining.pool] }

end Joining

/-- The registry that the first beat meets. -/
structure FirstAnswer where
  registry : Registry
  now : Nat
  order : String → IterationOrder

/-- A member that has joined. -/
structure MemberClient where
  sdk : Sdk
  shared : Shared

section

variable [FloatFormat]

/-- `join` of both SDKs: the first beat has to be answered and accepted. -/
def Joining.join (joining : Joining) (answer : Option FirstAnswer) :
    Except CallRefusal MemberClient :=
  match joining.check with
  | .error refusal => .error refusal
  | .ok () =>
    match answer with
    | none => .error .unreachable
    | some first =>
      let (beat, showing) := joining.shared.compose
      let ack := (first.registry.beatShared first.now first.order beat).ack
      let joined := joining.shared.handle ack showing
      if joined.accepted then .ok { sdk := joining.sdk, shared := joined }
      else .error (.refused joined.refused)

end

/-! ## Calls of a member -/

/-- What a member does, and the answers that come in meanwhile. -/
inductive MemberCall where
  /-- `pool` and `apool` of Python, and `Member::pool` -/
  | pool (name : String)
  /-- `Member::watch` -/
  | watch (pools : List String)
  /-- `Member::publish`; the state may have no JSON text. -/
  | publish (state : Except String Value) (ready : Option Bool)
  /-- `Member::ready` -/
  | ready (state : Except String Value)
  | answer (ack : BeatAck) (showing : Nat)

/-- Watch more pools; an error if one does not fit any more. -/
def tryWatch : Shared → List String → Except CallRefusal Shared
  | shared, [] => .ok shared
  | shared, name :: rest =>
    if name ∈ shared.watch then tryWatch shared rest
    else if shared.watch.length ≥ maxWatch then .error .tooManyPools
    else tryWatch { shared with watch := shared.watch ++ [name] } rest

namespace MemberClient

/-- The check of a name before it is looked up. -/
def checkName (sdk : Sdk) (name : String) : Except CallRefusal Unit :=
  match sdk with
  | .python => checkedPoolName name
  | .rust => if name = "" then .error .unnamedPool else .ok ()

/-- `Member::publish`; no more than the form of the state is checked. -/
def publish (member : MemberClient) (state : Except String Value)
    (ready : Option Bool) : Except CallRefusal MemberClient :=
  match state with
  | .error message => .error (.unserializable message)
  | .ok value =>
    .ok
      { member with
        shared := member.shared.setState value (ready.getD member.shared.published.ready) }

/-- One call; what only the Rust SDK has is not possible in the other. -/
def call (member : MemberClient) : MemberCall → Option (Except CallRefusal MemberClient)
  | .pool name =>
    some do
      checkName member.sdk name
      let watching ← tryWatch member.shared [name]
      .ok { member with shared := watching }
  | .watch pools =>
    if member.sdk = .rust then
      some do
        let watching ← tryWatch member.shared pools
        .ok { member with shared := watching }
    else none
  | .publish state ready =>
    if member.sdk = .rust then some (member.publish state ready)
    else none
  | .ready state =>
    if member.sdk = .rust then some (member.publish state (some true))
    else none
  | .answer ack showing => some (.ok { member with shared := member.shared.handle ack showing })

/-- A call that returns without an error. -/
def step (member : MemberClient) (call : MemberCall) : Option MemberClient :=
  (member.call call).bind Except.toOption

end MemberClient

theorem ok_of_bind_eq_ok {Failure First Second : Type}
    {first : Except Failure First} {next : First → Except Failure Second}
    {result : Second} (returned : first >>= next = .ok result) :
    ∃ value, first = .ok value ∧ next value = .ok result := by
  cases first with
  | error failure => cases returned
  | ok value => exact ⟨value, rfl, returned⟩

/-! ## What an answer leaves -/

theorem handle_keeps (shared : Shared) (ack : BeatAck) (showing : Nat) :
    (shared.handle ack showing).pool = shared.pool ∧
      (shared.handle ack showing).watch = shared.watch ∧
      (shared.handle ack showing).methods = shared.methods ∧
      (shared.handle ack showing).published = shared.published := by
  unfold Shared.handle Shared.apply
  simp only
  split <;> split <;> exact ⟨rfl, rfl, rfl, rfl⟩

variable {ack : BeatAck}

theorem apply_refused {shared : Shared}
    (refused : ack.accepted = false) :
    (shared.apply ack).1.accepted = false := by
  unfold Shared.apply
  simp only [refused, Bool.not_false, if_true]

theorem handle_accepted {shared : Shared} {showing : Nat}
    (accepted : (shared.handle ack showing).accepted = true) :
    ack.accepted = true := by
  by_contra refused
  rw [Bool.not_eq_true] at refused
  unfold Shared.handle at accepted
  simp only at accepted
  split at accepted <;> rw [apply_refused refused] at accepted <;>
    cases accepted

/-! ## The limits of the registry -/

section

variable [FloatFormat]

/--
A beat with harmless values where the calls here have no say: the tenure, the
address, and the state of a member of the Python SDK.
-/
def concerning (sdk : Sdk) (beat : Beat) : Beat :=
  { beat with
    incarnation := 0
    url := none
    state := if sdk = .rust then beat.state else .null }

/-- What a member beats with is within the limits. -/
structure Within (member : MemberClient) : Prop where
  pool : member.shared.pool.utf8ByteSize ≤ maxName
  watching : member.shared.watch.length ≤ maxWatch
  watched : ∀ name ∈ member.shared.watch, name.utf8ByteSize ≤ maxName
  serving : member.shared.methods.length ≤ maxMethods
  served : ∀ name ∈ member.shared.methods, name.utf8ByteSize ≤ maxName
  state : member.sdk = .rust → (serializedLen member.shared.published.state maxState).isSome

theorem serializedLen_null : (serializedLen .null maxState).isSome := by
  simp [serializedLen, Value.jsonLength, maxState]

/-- When a beat is admissible. -/
theorem admissible_isSome_iff (beat : Beat) :
    (Registry.admissible beat).isSome ↔
      (beat.pool.utf8ByteSize ≤ maxName ∧ beat.incarnation ≤ maxIncarnation ∧
        beat.watch.length ≤ maxWatch ∧ (∀ name ∈ beat.watch, name.utf8ByteSize ≤ maxName) ∧
        (∀ url ∈ beat.url, url.utf8ByteSize ≤ maxName) ∧ beat.methods.length ≤ maxMethods ∧
        ∀ name ∈ beat.methods, name.utf8ByteSize ≤ maxName) ∧
      (serializedLen beat.state maxState).isSome := by
  unfold Registry.admissible
  split
  · rename_i limits
    exact ⟨fun fits => ⟨limits, fits⟩, And.right⟩
  · rename_i outside
    constructor
    · intro absent
      cases absent
    · rintro ⟨limits, _⟩
      exact absurd limits outside

theorem serializedLen_concerning (sdk : Sdk) (state : Value) :
    (serializedLen (if sdk = .rust then state else .null) maxState).isSome ↔
      (sdk = .rust → (serializedLen state maxState).isSome) := by
  by_cases rust : sdk = .rust
  · simp [rust]
  · simp [rust, serializedLen_null]

/-- A client's beat is, within the limits. -/
theorem admissible_concerning_iff (member : MemberClient) :
    (Registry.admissible
      (concerning member.sdk member.shared.compose.1)).isSome ↔ Within member := by
  rw [admissible_isSome_iff]
  constructor
  · rintro ⟨⟨pool, _, watching, watched, _, serving, served⟩, state⟩
    exact ⟨pool, watching, watched, serving, served, (serializedLen_concerning _ _).mp state⟩
  · intro within
    exact
      ⟨⟨within.pool, Nat.zero_le _, within.watching, within.watched,
        (fun _ absent => nomatch absent), within.serving, within.served⟩,
        (serializedLen_concerning _ _).mpr within.state⟩

variable {beat : Beat} {sdk : Sdk} {member next : MemberClient}

theorem admissible_of_accepted {registry : Registry} {now : Nat}
    {order : String → IterationOrder}
    (accepted : (registry.beatShared now order beat).ack.accepted = true) :
    (Registry.admissible beat).isSome := by
  rw [Registry.beatShared] at accepted
  cases admitted : Registry.admissible beat with
  | none =>
    rw [admitted] at accepted
    cases accepted
  | some bytes => rfl

theorem admissible_concerning
    (admitted : (Registry.admissible beat).isSome) :
    (Registry.admissible (concerning sdk beat)).isSome := by
  rw [admissible_isSome_iff] at admitted ⊢
  obtain ⟨⟨pool, _, watching, watched, _, serving, served⟩, state⟩ := admitted
  exact
    ⟨⟨pool, Nat.zero_le _, watching, watched, (fun _ absent => nomatch absent), serving, served⟩,
      (serializedLen_concerning _ _).mpr fun _ => state⟩

/-- Answers keep a client within the limits. -/
theorem Within.handle (within : Within member)
    (ack : BeatAck) (showing : Nat) :
    Within
      { member with shared := member.shared.handle ack showing } := by
  obtain ⟨pool, watch, methods, published⟩ := handle_keeps member.shared ack showing
  constructor
  · exact pool ▸ within.pool
  · exact watch ▸ within.watching
  · exact watch ▸ within.watched
  · exact methods ▸ within.serving
  · exact methods ▸ within.served
  · intro rust
    change (serializedLen (member.shared.handle ack showing).published.state maxState).isSome
    rw [published]
    exact within.state rust

/-- A client starts within the limits. -/
theorem join_within {joining : Joining} {answer : Option FirstAnswer}
    (joined : joining.join answer = .ok member) :
    Within member := by
  unfold Joining.join at joined
  split at joined
  · cases joined
  · split at joined
    · cases joined
    · simp only at joined
      split at joined
      · rename_i accepted
        cases joined
        have admitted := admissible_of_accepted (handle_accepted accepted)
        have within :=
          (admissible_concerning_iff ⟨joining.sdk, joining.shared⟩).mp
            (admissible_concerning admitted)
        exact within.handle _ _
      · cases joined

/-! ## What a call has to respect -/

/-- The names and the state of a call are within the registry's limits. -/
def modest (_ : MemberClient) : MemberCall → Bool
  | .pool name => decide (name.utf8ByteSize ≤ maxName)
  | .watch pools => pools.all fun name => name.utf8ByteSize ≤ maxName
  | .publish (.ok state) _ | .ready (.ok state) => (serializedLen state maxState).isSome
  | _ => true

/-- Watching short names keeps the limits. -/
theorem Within.tryWatch {shared watching : Shared}
    {pools : List String} (within : Within ⟨sdk, shared⟩)
    (watched : tryWatch shared pools = .ok watching)
    (short : ∀ name ∈ pools, name.utf8ByteSize ≤ maxName) :
    Within ⟨sdk, watching⟩ := by
  induction pools generalizing shared with
  | nil =>
    cases watched
    exact within
  | cons name rest hypothesis =>
    have later : ∀ name ∈ rest, name.utf8ByteSize ≤ maxName :=
      fun other found => short other (List.mem_cons_of_mem name found)
    rw [Membership.tryWatch] at watched
    split at watched
    · exact hypothesis within watched later
    · split at watched
      · cases watched
      · rename_i room
        refine hypothesis ?_ watched later
        refine ⟨within.pool, ?_, ?_, within.serving, within.served, within.state⟩
        · rw [List.length_append]
          exact Nat.lt_of_not_ge room
        · intro other found
          rcases List.mem_append.mp found with old | new
          · exact within.watched other old
          · rw [List.mem_singleton.mp new]
            exact short name List.mem_cons_self

theorem Within.setState (within : Within member)
    {value : Value} {ready : Bool} (fits : (serializedLen value maxState).isSome) :
    Within
      { member with shared := member.shared.setState value ready } := by
  unfold Shared.setState
  split
  · exact within
  · exact ⟨within.pool, within.watching, within.watched, within.serving,
      within.served, fun _ => fits⟩

theorem Within.publish
    (within : Within member) {state : Except String Value} {ready : Option Bool}
    (published : member.publish state ready = .ok next)
    (fits : ∀ value, state = .ok value → (serializedLen value maxState).isSome) :
    Within next := by
  cases state with
  | error message => cases published
  | ok value =>
    cases published
    exact within.setState (fits value rfl)

/-- A modest call keeps the limits. -/
theorem Within.step (within : Within member)
    {call : MemberCall} (stepped : member.step call = some next)
    (respected : modest member call = true) :
    Within next := by
  simp only [MemberClient.step, Option.bind_eq_some_iff] at stepped
  obtain ⟨outcome, called, returned⟩ := stepped
  cases outcome with
  | error refusal => cases returned
  | ok after =>
    cases returned
    cases call with
    | pool name =>
      simp only [MemberClient.call, Option.some.injEq] at called
      obtain ⟨_, _, called⟩ := ok_of_bind_eq_ok called
      obtain ⟨watching, watched, same⟩ := ok_of_bind_eq_ok called
      cases same
      refine within.tryWatch watched ?_
      simpa [modest] using respected
    | watch pools =>
      simp only [MemberClient.call] at called
      split at called
      · obtain ⟨watching, watched, same⟩ := ok_of_bind_eq_ok (Option.some.inj called)
        cases same
        refine within.tryWatch watched ?_
        simpa [modest] using respected
      · cases called
    | publish state ready | ready state =>
      simp only [MemberClient.call] at called
      split at called
      · refine within.publish (Option.some.inj called) ?_
        rintro value rfl
        exact respected
      · cases called
    | answer ack showing =>
      cases called
      exact within.handle ack showing

/--
After a successful `join`, every beat is within the limits of the registry,
in every run of successful calls whose names and states are.
-/
theorem beats_stay_admissible (joining : Joining)
    (answer : Option FirstAnswer) (joined final : MemberClient)
    (calls : List MemberCall) (started : joining.join answer = .ok joined)
    (ran : execute MemberClient.step joined calls = some final)
    (respected : obeys MemberClient.step modest joined calls) :
    (Registry.admissible (concerning final.sdk final.shared.compose.1)).isSome := by
  rw [admissible_concerning_iff]
  exact
    execute_invariant
      (fun stepped modest within => Within.step within stepped modest) ran
      respected (join_within started)

end

private def lone (sdk : Sdk) : Joining where
  sdk := sdk
  pool := "p"
  id := 1
  incarnation := 1

private def freshRegistry : FirstAnswer where
  registry := Registry.new 30000000000 8
  now := 5
  order := fun _ => .ascending

section

attribute [local instance] FloatFormat.widest

/-- What becomes of the limits when a lone member makes these calls. -/
private def admitted (sdk : Sdk) (calls : List MemberCall) : Option Bool :=
  (((lone sdk).join (some freshRegistry)).toOption.bind fun joined =>
    execute MemberClient.step joined calls).map fun final =>
      (Registry.admissible (concerning final.sdk final.shared.compose.1)).isSome

theorem beats_stay_admissible_published :
    ∃ joined final, (lone .rust).join (some freshRegistry) = .ok joined ∧
      execute MemberClient.step joined [.pool "q", .publish (.ok (.bool true)) none] = some final ∧
      (Registry.admissible (concerning final.sdk final.shared.compose.1)).isSome := by
  refine ⟨_, _, by rfl, by rfl, ?_⟩
  exact
    beats_stay_admissible (lone .rust) (some freshRegistry) _ _
      [.pool "q", .publish (.ok (.bool true)) none] (by rfl) (by rfl)
      (by decide +kernel)

/--
A name of 513 bytes is looked up without an error in Python, and a state of
16501 bytes is published without one in Rust.
-/
theorem inadmissible_beat_after_calls :
    admitted .python [.pool (String.ofList (List.replicate 513 'x'))] = some false ∧
      admitted .rust [.publish (.ok (.array (List.replicate 3300 (.bool true)))) none] =
        some false := by
  decide +kernel

end

end Tinyray.Membership
