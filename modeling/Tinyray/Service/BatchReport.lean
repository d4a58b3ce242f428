import Mathlib.Data.List.Forall2
import Tinyray.Service.BatchReply

/-!
# The report of a batch

The calls of a batch are entered one after another, up to the first failure.
The reply has the results of the calls before it as one array, whose items are
packed already.  The client reads each of them back and says which call it was
that failed.
-/

namespace Tinyray.Service

open Tinyray.Foundation
open Tinyray.Proto
open Tinyray.Transport (RequestTask)

universe u v w

variable {V : Type u}

/-! ## Arrays of packed values -/

/-- The length of an array, with what follows. -/
def readArrayHeader : Bytes → Option (Nat × Bytes)
  | [] => none
  | marker :: rest =>
    if 0x90 ≤ marker.toNat ∧ marker.toNat < 0xa0 then some (marker.toNat - 0x90, rest)
    else if marker = 0xdc then
      match rest with
      | third :: fourth :: items => some (fromBeBytes 0 0 third fourth, items)
      | _ => none
    else if marker = 0xdd then
      match rest with
      | first :: second :: third :: fourth :: items =>
        some (fromBeBytes first second third fourth, items)
      | _ => none
    else none

/-- `loads`, where `read` takes one value off the front of the bytes. -/
def loadsWith (read : Bytes → Option (V × Bytes)) (payload : Bytes) : Loaded V :=
  match readArrayHeader payload with
  | some (count, items) =>
    match readExactly read count items with
    | some (values, []) => .list values
    | _ => .undecoded
  | none =>
    match read payload with
    | some (_, []) => .other
    | _ => .undecoded

/-- The header says how many. -/
theorem readArrayHeader_rawArray
    {items : List Bytes} (counted : items.length < 2 ^ 32) :
    readArrayHeader (rawArray items) = some (items.length, items.flatten) := by
  rw [rawArray, Pack.header]
  by_cases short : items.length < 16
  · have marker : (UInt8.ofNat (0x90 + items.length)).toNat = 0x90 + items.length := by
      rw [UInt8.toNat_ofNat']
      omega
    simp only [short, if_true, List.cons_append, List.nil_append, readArrayHeader, marker]
    rw [if_pos (by omega), Nat.add_sub_cancel_left]
  · have length := fromBeBytes_toBeBytes counted
    by_cases word : items.length < 2 ^ 16
    · have high : UInt8.ofNat (items.length / 256 ^ 3) = 0 := by
        rw [Nat.div_eq_of_lt (by omega)]
        rfl
      have next : UInt8.ofNat (items.length / 256 ^ 2) = 0 := by
        rw [Nat.div_eq_of_lt (by omega)]
        rfl
      rw [high, next] at length
      simp only [short, if_false, Option.filter_none, word, if_true,
        toBeBytes, List.cons_append, List.nil_append]
      simp only [readArrayHeader, length]
      rfl
    · simp only [short, if_false, Option.filter_none, word, toBeBytes,
        List.cons_append, List.nil_append]
      simp only [readArrayHeader, length]
      rfl

variable {values : List V} {reply : RpcReply} {loads : Bytes → Loaded V}

theorem loadsWith_rawArray
    {read : Bytes → Option (V × Bytes)} {results : List Bytes}
    (encodes : List.Forall₂ (Encodes read) results values) (counted : results.length < 2 ^ 32) :
    loadsWith read (rawArray results) = .list values := by
  have items := readExactly_flatten encodes []
  rw [List.append_nil, ← encodes.length_eq] at items
  simp only [loadsWith, readArrayHeader_rawArray counted, items]

/-! ## What the client makes of it -/

/-- The failures that are put down to one call. -/
def blames : RpcStatus → Bool
  | .methodNotFound | .callerFault | .fenced | .remoteError => true
  | _ => false

theorem raiseReply_atItem
    (blamed : blames reply.status = true) (target : String) (index : Nat) (values : List V) :
    ∃ cause, (raiseReply reply target).atItem index values = .batchError index values cause := by
  unfold raiseReply
  cases status : reply.status <;> rw [status] at blamed <;>
    first
    | exact ⟨_, rfl⟩
    | cases blamed

theorem decodeBatch_of_success
    (success : reply.status = .success)
    (loaded : loads reply.payload = .list values) (target : String) :
    decodeBatch loads reply target values.length = .ok values := by
  rw [decodeBatch, if_pos success]
  exact loadsExactly_eq_ok_iff.mpr ⟨loaded, rfl⟩

/-- The error names the failed call. -/
theorem decodeBatch_of_blames
    {expected : Nat} (blamed : blames reply.status = true)
    (index : reply.batchIndex = some values.length)
    (completed : reply.completed = some values.length) (inside : values.length < expected)
    (loaded : loads reply.payload = .list values) (target : String) :
    ∃ cause,
      decodeBatch loads reply target expected =
        .error (.batchError values.length values cause) := by
  rcases raiseReply_atItem blamed target values.length values with ⟨cause, raised⟩
  have failed : reply.status ≠ .success := by
    intro success
    rw [success] at blamed
    cases blamed
  have results : loadsExactly loads reply.payload target values.length = .ok values :=
    loadsExactly_eq_ok_iff.mpr ⟨loaded, rfl⟩
  refine ⟨cause, ?_⟩
  rw [decodeBatch, if_neg failed, index, completed]
  simp only
  rw [if_neg (by omega), results]
  exact congrArg Except.error raised

/-! ## A faithful report -/

/-- What `_decode_batch` makes of a run without blobs. -/
def BatchRun.decoded (run : BatchRun) (read : Bytes → Option (V × Bytes))
    (requestId target : String) (expected : Nat) :
    Except (Raised V) (List V) :=
  decodeBatch (loadsWith read)
    (RequestTask.reply { requestId := requestId } run.response) target expected

/-- Why a batch of the dispatcher ended early, as a status. -/
def DispatchFailure.status : DispatchFailure → RpcStatus
  | .reply status _ => status
  | .escaped _ => .internal

section

variable {Item : Type v} {Failure : Type w}

/--
The calls that succeed up to the first failure are entered once each and in
order, and nothing after it is.  The client returns all results, or raises
`BatchError` with the position of the failure and the results before it.
-/
inductive Report (step : Nat → Item → Except Failure Bytes)
    (status : Failure → RpcStatus) (items : List Item) (run : BatchRun)
    (decoded : Except (Raised V) (List V))
    (read : Bytes → Option (V × Bytes)) : Prop
  | finished {results : List Bytes}
      (completes : Completes step 0 items results [])
      (completed : run.completed = results)
      (invoked : run.invoked = List.range items.length)
      (returned : ∀ values, List.Forall₂ (Encodes read) results values → decoded = .ok values)
  | stopped {results : List Bytes} {item : Item} {remaining : List Item}
      {failure : Failure}
      (completes : Completes step 0 items results (item :: remaining))
      (fails : step results.length item = .error failure)
      (completed : run.completed = results)
      (invoked : Reaches run.invoked results.length)
      (raised :
        ∀ values, List.Forall₂ (Encodes read) results values →
          blames (status failure) = true →
            ∃ cause, decoded = .error (.batchError results.length values cause))

variable {step : Nat → Item → Except Failure Bytes}
  {status : Failure → RpcStatus} {items : List Item} {run : BatchRun}
  {read : Bytes → Option (V × Bytes)} {requestId target : String}
  {results : List Bytes}

/-- A success is reported as it was. -/
theorem Report.of_success
    (counted : items.length < 2 ^ 16) (completes : Completes step 0 items results [])
    (ran : run = ⟨.success (rawArray results), results, List.range results.length⟩) :
    Report step status items run (run.decoded read requestId target items.length) read := by
  have length : items.length = results.length := completes.length_eq
  subst ran
  refine .finished completes rfl (by rw [length]) ?_
  intro values encodes
  have loaded := loadsWith_rawArray encodes (by omega)
  rw [length, encodes.length_eq]
  exact decodeBatch_of_success rfl loaded target

/-- A failure is reported as it was. -/
theorem Report.of_failure {item : Item}
    {remaining : List Item} {failure : Failure} (counted : items.length < 2 ^ 16)
    (completes : Completes step 0 items results (item :: remaining))
    (fails : step results.length item = .error failure) (completed : run.completed = results)
    (invoked : Reaches run.invoked results.length)
    (answered :
      blames (status failure) = true →
        run.response.status = status failure ∧ run.response.payload = rawArray results ∧
          run.response.batchIndex = some results.length ∧
          run.response.completed = some results.length) :
    Report step status items run (run.decoded read requestId target items.length) read := by
  have length := completes.length_eq
  rw [List.length_cons] at length
  refine .stopped completes fails completed invoked ?_
  intro values encodes blamed
  rcases answered blamed with ⟨failed, payload, index, counted⟩
  have loaded := loadsWith_rawArray encodes (by omega)
  have count := encodes.length_eq
  rw [← payload] at loaded
  rw [count] at index counted ⊢
  refine decodeBatch_of_blames ?_ index counted (by omega) loaded target
  change blames run.response.status = true
  rw [failed]
  exact blamed

end

/-- A Rust batch is reported as it was. -/
theorem Router.reports
    (router : Router) (handling : Handling) {batchLen : Option UInt16} {calls : List BatchCall}
    (length : calls.length = (batchLen.getD 0).toNat)
    (read : Bytes → Option (V × Bytes)) (requestId target : String) :
    Report (router.item handling) ServiceError.status calls
      (router.batch handling batchLen (.ok calls))
      ((router.batch handling batchLen (.ok calls)).decoded read requestId target calls.length)
      read := by
  have counted : calls.length < 2 ^ 16 := by
    rw [length]
    exact UInt16.toNat_lt _
  rcases completes_or_fails (router.item handling) 0 calls with
    ⟨results, completes⟩ |
    ⟨results, item, remaining, error, completes, fails⟩
  · refine .of_success counted completes ?_
    simp [batch, length, sequentially_of_all _ _ completes]
  · rw [Nat.zero_add] at fails
    rcases batch_of_fails length completes fails with ⟨response, completed, invoked⟩
    refine .of_failure counted completes fails completed invoked ?_
    intro _
    have position := (position_mod length completes).1
    rw [response, batchError, position]
    exact ⟨rfl, rfl, rfl, rfl⟩

/-- So is a Python batch. -/
theorem Dispatch.reports
    (dispatch : Dispatch) (handling : DispatchHandling) {batchLen : UInt16}
    {items : List DispatchItem} (length : items.length = batchLen.toNat)
    (small : items.length ≤ maxRpcBatch) (wellFormed : ∀ item ∈ items, itemFault item = none)
    (read : Bytes → Option (V × Bytes)) (requestId target : String) :
    Report (attempt (dispatch.check handling) (invoke handling))
      DispatchFailure.status items
      (dispatch.batch handling (some batchLen) (.calls items))
      ((dispatch.batch handling (some batchLen) (.calls items)).decoded read
        requestId target items.length)
      read := by
  have counted : items.length < 2 ^ 16 := by
    rw [length]
    exact batchLen.toNat_lt
  have taken :
      dispatch.batch handling (some batchLen) (.calls items) = dispatch.run handling items := by
    have checked : items.findSome? itemFault = none := List.findSome?_eq_none_iff.mpr wellFormed
    rw [batch, if_neg (by simp [length]), if_neg (by omega), checked]
  rw [taken]
  rcases completes_or_fails (attempt (dispatch.check handling) (invoke handling)) 0 items with
    ⟨results, completes⟩ |
    ⟨results, item, remaining, failure, completes, fails⟩
  · refine .of_success counted completes ?_
    rw [run, sequentially_of_all _ _ completes]
  · rw [Nat.zero_add] at fails
    obtain ⟨invoked, ends, reaches⟩ := sequentially_of_fails _ _ completes fails
    have ran :
        dispatch.run handling items =
          ⟨failure.response results results.length, results, invoked⟩ := by
      rw [run, ends]
    rw [ran]
    refine .of_failure counted completes fails rfl reaches ?_
    intro blamed
    cases failure with
    | reply status error => exact ⟨rfl, rfl, rfl, rfl⟩
    | escaped message => cases blamed

/--
Every batch with a well-formed envelope is executed call by call, by the
router and by the dispatcher, and the client learns how far it came.
-/
theorem batch_is_sequential
    (read : Bytes → Option (V × Bytes)) (requestId target : String) :
    (∀ (router : Router) (handling : Handling) (batchLen : Option UInt16) (calls : List BatchCall),
      calls.length = (batchLen.getD 0).toNat →
        Report (router.item handling) ServiceError.status calls
          (router.batch handling batchLen (.ok calls))
          ((router.batch handling batchLen (.ok calls)).decoded read requestId target calls.length)
          read) ∧
      ∀ (dispatch : Dispatch) (handling : DispatchHandling)
          (batchLen : UInt16) (items : List DispatchItem),
        items.length = batchLen.toNat → items.length ≤ maxRpcBatch →
          (∀ item ∈ items, Dispatch.itemFault item = none) →
            Report
              (attempt (dispatch.check handling) (Dispatch.invoke handling))
              DispatchFailure.status items
              (dispatch.batch handling (some batchLen) (.calls items))
              ((dispatch.batch handling (some batchLen)
                (.calls items)).decoded read requestId target items.length)
              read := by
  constructor
  · intro router handling batchLen calls length
    exact router.reports handling length read requestId target
  · intro dispatch handling batchLen items length small wellFormed
    exact dispatch.reports handling length small wellFormed read requestId target

/-- Two calls: the first returns `nil` and the second raises. -/
private def raisingSecond : Handling where
  cancelled := fun _ => false
  answer := fun index _ =>
    if index = 0 then .ok [0xc0]
    else .error (.remote "ValueError" "no" "")

/-- Reads one nil. -/
private def readNil : Bytes → Option (Unit × Bytes)
  | 0xc0 :: rest => some ((), rest)
  | _ => none

/-- The second call raises. -/
private def raisingSecondHere : DispatchHandling where
  owned := .ok true
  stillOurs := fun _ => .ok true
  invoke := fun index _ => if index = 0 then .returned [0xc0] else .raised "ValueError" "no" ""
  unread := none

/-- The same two calls on a router and on a Python object. -/
theorem batch_is_sequential_raising :
    Report ((⟨["take"]⟩ : Router).item raisingSecond) ServiceError.status
        [⟨"take", .ok [0x80]⟩, ⟨"take", .ok [0x80]⟩]
        ((⟨["take"]⟩ : Router).batch raisingSecond (some 2)
          (.ok [⟨"take", .ok [0x80]⟩, ⟨"take", .ok [0x80]⟩]))
        (.error (.batchError 1 [()] (.remoteError "ValueError" "no" "")))
        readNil ∧
      Report
        (attempt
          ((⟨"pool/0", ["take"]⟩ : Dispatch).check raisingSecondHere)
          (Dispatch.invoke raisingSecondHere))
        DispatchFailure.status
        [.call (some "take") true, .call (some "take") true]
        ((⟨"pool/0", ["take"]⟩ : Dispatch).batch raisingSecondHere (some 2)
          (.calls [.call (some "take") true, .call (some "take") true]))
        (.error (.batchError 1 [()] (.remoteError "ValueError" "no" "")))
        readNil := by
  rcases batch_is_sequential readNil "r" "pool/0" with ⟨router, dispatch⟩
  constructor
  · exact router ⟨["take"]⟩ raisingSecond (some 2) [⟨"take", .ok [0x80]⟩, ⟨"take", .ok [0x80]⟩] rfl
  · exact
      dispatch ⟨"pool/0", ["take"]⟩ raisingSecondHere 2
        [.call (some "take") true, .call (some "take") true] rfl
        (by decide) (by decide)

end Tinyray.Service
