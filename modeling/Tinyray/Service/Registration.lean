import Tinyray.Foundation.MapFold
import Tinyray.Service.Batch

/-!
# Registering handlers

A router keeps a handler for each method and the list of methods it
advertises.  Handlers are registered as they are or with a codec around them;
all four ways go through `insert`, which refuses names that are not public
and names that are taken.

A handler may do anything, so it runs in an arbitrary monad.  Contexts,
decoding sessions and the owners of blobs are only passed on.

The router of `Batch` knows this one by the names of its handlers only.  With
their answers it does for every item what the loop of `batch` does with `call`
(`names_item`).
-/

namespace Tinyray.Service

open Std Foundation
open Tinyray.Proto

/-! ## Handlers -/

/-- `ServicePayload` -/
structure ServicePayload (Owner : Type) where
  bytes : Bytes
  blobOwners : List Owner
deriving DecidableEq

/-- What a decoder makes of a payload, or the text of its error. -/
class DeserializeOwned (Session Req : Type) where
  decode : Bytes → Session → Except String Req

/-- The bytes of a response and the blobs they refer to, or an error. -/
class Serialize (Owner Res : Type) where
  encode : Res → Except String (Bytes × List Owner)

/-- Values of keyword arguments are ignored. -/
structure OneArg (Req : Type) where
  args : List Req
  kwargs : List String

/-- `NoArgs` -/
structure NoArgs where
  args : List Unit
  kwargs : List String

section Handlers

variable (m : Type → Type) (Context Session Owner : Type)

/-- A registered handler. -/
abbrev Handler := Context → Bytes → Session → ExceptT ServiceError m (ServicePayload Owner)

/-- One call that registers. -/
inductive Registration where
  | raw (name : String) (handler : Context → Bytes → ExceptT ServiceError m Bytes)
  | typed {Req Res : Type} [DeserializeOwned Session Req]
      [Serialize Owner Res] (name : String)
      (handler : Context → Req → ExceptT ServiceError m Res)
  | typedArg {Req Res : Type} [DeserializeOwned Session (OneArg Req)]
      [Serialize Owner Res] (name : String)
      (handler : Context → Req → ExceptT ServiceError m Res)
  | typedNoArgs {Res : Type} [DeserializeOwned Session NoArgs]
      [Serialize Owner Res] (name : String)
      (handler : Context → ExceptT ServiceError m Res)

/-- `Router`, with its handlers -/
structure MethodRouter where
  handlers : ExtTreeMap String (Handler m Context Session Owner) := ∅
  methods : List String := []

end Handlers

variable {m : Type → Type} {Context Session Owner : Type}

section Wrapping

variable [Monad m]

/-- An error text as a fault. -/
def orFail {α : Type} (result : Except String α)
    (fault : String → ServiceError) : ExceptT ServiceError m α :=
  match result with
  | .ok value => pure value
  | .error message => throw (fault message)

/-- The response as a payload. -/
def encodeResponse {Res : Type} [Serialize Owner Res] (response : Res) :
    ExceptT ServiceError m (ServicePayload Owner) := do
  let (bytes, blobOwners) ← orFail (Serialize.encode response) .internal
  pure ⟨bytes, blobOwners⟩

/-- The wrapper of `raw`. -/
def rawHandler
    (handler : Context → Bytes → ExceptT ServiceError m Bytes) :
    Handler m Context Session Owner :=
  fun context payload _ => do
    let bytes ← handler context payload
    pure ⟨bytes, []⟩

/-- The wrapper of `typed`. -/
def typedHandler {Req Res : Type} [DeserializeOwned Session Req]
    [Serialize Owner Res] (handler : Context → Req → ExceptT ServiceError m Res) :
    Handler m Context Session Owner :=
  fun context payload session => do
    let request : Req ← orFail (DeserializeOwned.decode payload session) .callerFault
    let response ← handler context request
    encodeResponse response

/-- The wrapper of `typed_arg`. -/
def typedArgHandler {Req Res : Type}
    [DeserializeOwned Session (OneArg Req)] [Serialize Owner Res]
    (handler : Context → Req → ExceptT ServiceError m Res) :
    Handler m Context Session Owner :=
  fun context payload session => do
    let request : OneArg Req ← orFail (DeserializeOwned.decode payload session) .callerFault
    match request.args, request.kwargs with
    | [argument], [] =>
      let response ← handler context argument
      encodeResponse response
    | _, _ =>
      throw
        (.callerFault ("expected exactly one positional argument and " ++ "no keyword arguments"))

/-- The wrapper of `typed_no_args`. -/
def typedNoArgsHandler {Res : Type} [DeserializeOwned Session NoArgs]
    [Serialize Owner Res] (handler : Context → ExceptT ServiceError m Res) :
    Handler m Context Session Owner :=
  fun context payload session => do
    let request : NoArgs ← orFail (DeserializeOwned.decode payload session) .callerFault
    match request.args, request.kwargs with
    | [], [] =>
      let response ← handler context
      encodeResponse response
    | _, _ => throw (.callerFault "expected no positional or keyword arguments")

namespace Registration

/-- The name it asks for. -/
def name : Registration m Context Session Owner → String
  | raw name _ => name
  | @typed _ _ _ _ _ _ _ _ name _ => name
  | @typedArg _ _ _ _ _ _ _ _ name _ => name
  | @typedNoArgs _ _ _ _ _ _ _ name _ => name

/-- The handler it wraps. -/
def handler : Registration m Context Session Owner → Handler m Context Session Owner
  | raw _ handler => rawHandler handler
  | @typed _ _ _ _ _ _ _ _ _ handler => typedHandler handler
  | @typedArg _ _ _ _ _ _ _ _ _ handler => typedArgHandler handler
  | @typedNoArgs _ _ _ _ _ _ _ _ handler => typedNoArgsHandler handler

end Registration

end Wrapping

/-! ## The router -/

namespace MethodRouter

section Calls

-- how `{:?}` quotes a name
variable (debug : String → String)

/--
`Router::insert`: whether it succeeds, and the router it leaves.  The handler
is written before it is known whether the name was taken.
-/
def insert (router : MethodRouter m Context Session Owner) (name : String)
    (handler : Handler m Context Session Owner) :
    Except ServiceError Unit × MethodRouter m Context Session Owner :=
  if !publicMethod name then
    (.error (.callerFault ("method " ++ debug name ++ " is not a public ASCII identifier")), router)
  else
    let written :=
      { router with handlers := router.handlers.insert name handler }
    if router.handlers.contains name then
      (.error (.callerFault ("method " ++ debug name ++ " was registered twice")), written)
    else (.ok (), { written with methods := written.handlers.keys })

/-- `raw`, `typed`, `typed_arg` and `typed_no_args` -/
def register [Monad m] (router : MethodRouter m Context Session Owner)
    (registration : Registration m Context Session Owner) :
    Except ServiceError Unit × MethodRouter m Context Session Owner :=
  router.insert debug registration.name registration.handler

/-- `Router::call` -/
def call [Monad m] (router : MethodRouter m Context Session Owner)
    (context : Context) (method : String) (payload : Bytes) (session : Session) :
    ExceptT ServiceError m (ServicePayload Owner) :=
  match router.handlers[method]? with
  | none => throw (.methodNotFound ("no method " ++ debug method))
  | some handler => handler context payload session

variable [Monad m]

/-- Register all, ignoring errors. -/
def registerAll (router : MethodRouter m Context Session Owner)
    (registrations : List (Registration m Context Session Owner)) :
    MethodRouter m Context Session Owner :=
  registrations.foldl
    (fun router registration => (router.register debug registration).2)
    router

/-- Those that succeed. -/
def successful :
    MethodRouter m Context Session Owner → List (Registration m Context Session Owner) →
      List (Registration m Context Session Owner)
  | _, [] => []
  | router, registration :: rest =>
    let (result, next) := router.register debug registration
    if result.isOk then registration :: next.successful rest
    else next.successful rest

end Calls

/-- The handlers that are registered under a name, in their order. -/
def handlersFor [Monad m] (name : String)
    (registrations : List (Registration m Context Session Owner)) :
    List (Handler m Context Session Owner) :=
  (registrations.filter fun registration => registration.name = name).map Registration.handler

/-! ## What registering leaves -/

/-- The advertised methods are those with a handler. -/
def Listed (router : MethodRouter m Context Session Owner) : Prop :=
  router.methods = router.handlers.keys

theorem listed_new : Listed ({} : MethodRouter m Context Session Owner) :=
  (ExtTreeMap.keys_eq_nil_iff.2 rfl).symm

variable [Monad m] {debug : String → String}
  {router : MethodRouter m Context Session Owner}

variable (debug router) in
/-- The ways to register. -/
theorem register_cases
    (registration : Registration m Context Session Owner) :
    (publicMethod registration.name = false ∧ (router.register debug registration).1.isOk = false ∧
        (router.register debug registration).2 = router) ∨
      publicMethod registration.name = true ∧
        (router.register debug registration).1.isOk = !router.handlers.contains registration.name ∧
        (router.register debug registration).2.handlers =
          router.handlers.insert registration.name registration.handler ∧
        (router.register debug registration).2.methods =
          if router.handlers.contains registration.name then router.methods
          else (router.handlers.insert registration.name registration.handler).keys := by
  rw [register, insert]
  cases publicMethod registration.name with
  | false => exact .inl ⟨rfl, rfl, rfl⟩
  | true =>
    refine .inr ⟨rfl, ?_⟩
    cases router.handlers.contains registration.name with
    | false => exact ⟨rfl, rfl, rfl⟩
    | true => exact ⟨rfl, rfl, rfl⟩

/-- The handlers after one attempt. -/
theorem register_handlers
    (registration : Registration m Context Session Owner) (name : String) :
    (router.register debug registration).2.handlers[name]? =
      if publicMethod name ∧ registration.name = name then some registration.handler
      else router.handlers[name]? := by
  rcases register_cases debug router registration with
    ⟨refused, -, after⟩ | ⟨permitted, -, after, -⟩
  · rw [after, if_neg]
    rintro ⟨permitted, rfl⟩
    rw [refused] at permitted
    cases permitted
  · rw [after]
    by_cases same : registration.name = name
    · subst same
      rw [if_pos ⟨permitted, rfl⟩, ExtTreeMap.getElem?_insert_self]
    · rw [if_neg fun both => same both.2, getElem?_insert_ne same]

/-- One attempt keeps the list right. -/
theorem Listed.register
    (listed : router.Listed) (registration : Registration m Context Session Owner) :
    (router.register debug registration).2.Listed := by
  rcases register_cases debug router registration with ⟨-, -, after⟩ | ⟨-, -, handlers, methods⟩
  · rw [after]
    exact listed
  · rw [Listed, methods, handlers]
    split_ifs with taken
    · -- the name was listed already
      refine listed.trans (keys_of_isSome fun name => ?_)
      by_cases same : registration.name = name
      · subst same
        rw [ExtTreeMap.getElem?_insert_self, ExtTreeMap.isSome_getElem?_eq_contains, taken]
        rfl
      · rw [getElem?_insert_ne same]
    · rfl

theorem Listed.registerAll
    (listed : router.Listed) (registrations : List (Registration m Context Session Owner)) :
    (router.registerAll debug registrations).Listed :=
  List.foldlRecOn registrations _ listed fun _ kept registration _ => kept.register registration

theorem handlersFor_cons
    (name : String) (registration : Registration m Context Session Owner)
    (rest : List (Registration m Context Session Owner)) :
    handlersFor name (registration :: rest) =
      if registration.name = name then registration.handler :: handlersFor name rest
      else handlersFor name rest := by
  rw [handlersFor, List.filter_cons]
  split_ifs <;> simp_all [handlersFor]

/-- The last attempt has the handler. -/
theorem registerAll_handlers
    (registrations : List (Registration m Context Session Owner))
    {name : String} (permitted : publicMethod name) :
    (router.registerAll debug registrations).handlers[name]? =
      (handlersFor name registrations).getLast?.or router.handlers[name]? := by
  induction registrations generalizing router with
  | nil => rfl
  | cons registration rest hypothesis =>
    rw [MethodRouter.registerAll, List.foldl_cons]
    refine hypothesis.trans ?_
    rw [register_handlers, handlersFor_cons]
    by_cases same : registration.name = name
    · rw [if_pos ⟨permitted, same⟩, if_pos same, List.getLast?_cons]
      cases (handlersFor name rest).getLast? <;> rfl
    · rw [if_neg fun both => same both.2, if_neg same]

theorem registerAll_refused
    (registrations : List (Registration m Context Session Owner))
    {name : String} (refused : ¬publicMethod name) :
    (router.registerAll debug registrations).handlers[name]? = router.handlers[name]? := by
  induction registrations generalizing router with
  | nil => rfl
  | cons registration rest hypothesis =>
    rw [MethodRouter.registerAll, List.foldl_cons]
    refine hypothesis.trans ?_
    rw [register_handlers, if_neg fun both => refused both.1]

/-- Successes, one by one. -/
theorem handlersFor_successful_cons
    (name : String) (registration : Registration m Context Session Owner)
    (rest : List (Registration m Context Session Owner)) :
    handlersFor name (router.successful debug (registration :: rest)) =
      (if (router.register debug registration).1.isOk = true ∧
          registration.name = name then [registration.handler]
        else []) ++
        handlersFor name ((router.register debug registration).2.successful debug rest) := by
  rw [successful]
  cases succeeded : (router.register debug registration).1.isOk with
  | false => simp [succeeded]
  | true =>
    simp only [succeeded, if_true, handlersFor_cons, true_and]
    split_ifs <;> rfl

/-- The first attempt succeeds. -/
theorem handlersFor_successful
    (registrations : List (Registration m Context Session Owner))
    {name : String} (permitted : publicMethod name) :
    handlersFor name (router.successful debug registrations) =
      if router.handlers[name]?.isSome then []
      else (handlersFor name registrations).head?.toList := by
  induction registrations generalizing router with
  | nil => simp [successful, handlersFor]
  | cons registration rest hypothesis =>
    rw [handlersFor_successful_cons, handlersFor_cons, hypothesis, register_handlers]
    by_cases same : registration.name = name
    · rcases register_cases debug router registration with ⟨refused, -⟩ | ⟨-, succeeds, -⟩
      · rw [same, permitted] at refused
        cases refused
      · rw [succeeds, same, ExtTreeMap.isSome_getElem?_eq_contains]
        cases router.handlers.contains name <;> simp [permitted]
    · simp [same]

section

variable (debug)
  (registrations : List (Registration m Context Session Owner))

/-- After all attempts. -/
def attempted : MethodRouter m Context Session Owner := registerAll debug {} registrations

/-- After those that succeed. -/
def succeeded : MethodRouter m Context Session Owner :=
  registerAll debug {} (successful debug {} registrations)

theorem attempted_listed : (attempted debug registrations).Listed :=
  listed_new.registerAll registrations

theorem succeeded_listed : (succeeded debug registrations).Listed := listed_new.registerAll _

theorem attempted_handlers {name : String}
    (permitted : publicMethod name) :
    (attempted debug registrations).handlers[name]? =
      (handlersFor name registrations).getLast? := by
  rw [attempted, registerAll_handlers registrations permitted]
  simp

theorem succeeded_handlers {name : String}
    (permitted : publicMethod name) :
    (succeeded debug registrations).handlers[name]? = (handlersFor name registrations).head? := by
  rw [succeeded, registerAll_handlers _ permitted, handlersFor_successful registrations permitted]
  cases handlersFor name registrations <;> simp

end

/--
Failed registrations leave no trace, neither in what a method is dispatched to
nor in the advertised methods, exactly if the last handler that was registered
under a public name is always the first one.
-/
theorem failed_registrations_traceless_iff
    (debug : String → String) (registrations : List (Registration m Context Session Owner)) :
    ((∀ context method payload session,
          (attempted debug registrations).call debug context method payload session =
            (succeeded debug registrations).call debug context method payload session) ∧
        (attempted debug registrations).methods = (succeeded debug registrations).methods) ↔
      ∀ name, publicMethod name →
        (handlersFor name registrations).getLast? = (handlersFor name registrations).head? := by
  have refused {name : String} (refused : ¬publicMethod name) :
      (attempted debug registrations).handlers[name]? = none ∧
        (succeeded debug registrations).handlers[name]? = none := by
    rw [attempted, succeeded, registerAll_refused _ refused, registerAll_refused _ refused]
    exact ⟨ExtTreeMap.getElem?_empty, ExtTreeMap.getElem?_empty⟩
  constructor
  · rintro ⟨dispatched, -⟩ name permitted
    have last := attempted_handlers debug registrations permitted
    have first := succeeded_handlers debug registrations permitted
    cases handlers : handlersFor name registrations with
    | nil => rfl
    | cons handler rest =>
      rw [handlers, List.getLast?_cons] at last
      rw [handlers, List.head?_cons] at first
      rw [List.getLast?_cons, List.head?_cons, Option.some.injEq]
      funext context payload session
      have same := dispatched context name payload session
      rw [call, call, last, first] at same
      exact same
  · intro alike
    have handlers (name : String) :
        (attempted debug registrations).handlers[name]? =
          (succeeded debug registrations).handlers[name]? := by
      by_cases permitted : publicMethod name = true
      · rw [attempted_handlers debug registrations permitted,
          succeeded_handlers debug registrations permitted, alike name permitted]
      · rw [(refused permitted).1, (refused permitted).2]
    refine ⟨?_, ?_⟩
    · intro context method payload session
      rw [call, call, handlers]
    · rw [attempted_listed debug registrations, succeeded_listed debug registrations]
      exact keys_of_isSome fun name => by rw [handlers]

/-! ## The same router in batches -/

section Batches

variable (debug : String → String)
  (router : MethodRouter Id Context Session Owner) (context : Nat → Context)
  (session : Session)

/-- The router as `Batch` has it. -/
def names : Router where
  handlers := router.handlers.keys

/-- `call` for the item of a batch, up to the blobs of its result. -/
def answer (index : Nat) (method : String) (payload : Bytes) : Except ServiceError Bytes :=
  (Id.run (router.call debug (context index) method payload session).run).map ServicePayload.bytes

/-- The body of the loop of `batch`. -/
def batchItem (cancelled : Nat → Bool) (index : Nat) (item : BatchCall) :
    Except ServiceError Bytes :=
  if cancelled index then .error .cancelled
  else if !publicMethod item.method then .error (.callerFault "invalid batch method")
  else
    match item.payload with
    | .error message => .error (.callerFault message)
    | .ok payload => router.answer debug context session index item.method payload

/-- What the items of a batch meet that this router serves. -/
def handling (cancelled : Nat → Bool) (calls : List BatchCall) : Handling where
  cancelled := cancelled
  answer := fun index payload =>
    match calls[index]? with
    | some item => router.answer debug context session index item.method payload
    | none => .error .cancelled

/-- The two routers do the same for every item of every batch. -/
theorem names_item
    (quoted : ∀ name, publicMethod name → debug name = "\"" ++ name ++ "\"")
    (cancelled : Nat → Bool) {calls : List BatchCall} {index : Nat}
    {item : BatchCall} (found : calls[index]? = some item) :
    router.names.item (router.handling debug context session cancelled calls) index item =
      router.batchItem debug context session cancelled index item := by
  rcases item with ⟨method, packed⟩
  simp only [Router.item, attempt, Router.check, batchItem, handling]
  cases cancelled index with
  | true => rfl
  | false =>
    cases permitted : publicMethod method with
    | false => rfl
    | true =>
      cases packed with
      | error message => rfl
      | ok payload =>
        have named : router.names.handlers.contains method = router.handlers[method]?.isSome := by
          rw [ExtTreeMap.isSome_getElem?_eq_contains, Bool.eq_iff_iff,
            ExtTreeMap.contains_iff_mem, List.contains_iff_mem]
          exact ExtTreeMap.mem_keys
        cases present : router.handlers[method]? with
        | none =>
          simp only [named, present, answer, call, quoted method permitted]
          rfl
        | some handler =>
          simp only [named, present, Router.invoke, found]
          rfl

end Batches

/-- Answers one byte. -/
private def answering (byte : UInt8) : Registration Id Unit Unit Unit :=
  .raw "take" fun _ _ => pure [byte]

theorem duplicate_replaces_handler :
    (successful id {} [answering 1, answering 2]).length = 1 ∧
      Id.run ((attempted id [answering 1, answering 2]).call id () "take"
        [] ()).run = .ok ⟨[2], []⟩ ∧
      Id.run ((succeeded id [answering 1, answering 2]).call id () "take"
        [] ()).run = .ok ⟨[1], []⟩ := by
  decide +kernel

end MethodRouter

end Tinyray.Service
