import Mathlib.Data.List.Infix
import Tinyray.Membership.System
import Tinyray.Registry.Publication

/-!
# Publishing, end to end

A client counts its publications and remembers the highest one the registry
acknowledged.  `System.Accounted` follows a number from the call that
published it over the beats that carry it to the answer that confirms it.

Only the client itself beats for its tenure: `System.own` excludes other
senders that use the same pool, id and incarnation.
-/

namespace Tinyray

open Std Foundation

/-- What is published. -/
def Published.content (published : Published) : Content where
  url := published.url
  state := published.state
  ready := published.ready

namespace Shared

/-- Who the client beats for. -/
def tenure (shared : Shared) : Tenure where
  pool := shared.pool
  id := shared.id
  incarnation := shared.incarnation

/-! ## What calls and answers do to a publication -/

/-- A call publishes one version at most. -/
theorem call_published (shared : Shared) (call : Call) :
    (shared.call call).tenure = shared.tenure ∧ (shared.call call).confirmed = shared.confirmed ∧
      ((shared.call call).published = shared.published ∨
        (shared.call call).published.version = shared.published.version + 1) := by
  rcases shared.call_cases call with ⟨watch, called⟩ | called | called | ⟨state, ready, url, called⟩
  · rw [called]
    exact ⟨rfl, rfl, Or.inl rfl⟩
  · rw [called]
    exact ⟨rfl, rfl, Or.inl rfl⟩
  · rw [called]
    exact ⟨rfl, rfl, Or.inl rfl⟩
  · rw [called]
    exact ⟨rfl, rfl, Or.inr rfl⟩

theorem apply_tenure (shared : Shared) (ack : BeatAck) :
    (shared.apply ack).1.tenure = shared.tenure := by
  unfold apply
  simp only
  split <;> rfl

theorem handle_tenure (shared : Shared) (ack : BeatAck) (showing : Nat) :
    (shared.handle ack showing).tenure = shared.tenure := by
  unfold handle
  simp only
  split <;> exact apply_tenure _ _

theorem handle_published (shared : Shared) (ack : BeatAck) (showing : Nat) :
    (shared.handle ack showing).published = shared.published := by
  unfold handle
  simp only
  split <;> exact apply_published _ _

theorem handle_confirmed (shared : Shared) (ack : BeatAck) (showing : Nat) :
    (shared.handle ack showing).confirmed = if ack.accepted then max shared.confirmed showing
      else shared.confirmed := by
  unfold handle
  simp only [apply_alive]
  split
  · rw [apply_confirmed]
    rfl
  · exact apply_confirmed _ _

end Shared

section

variable [FloatFormat]

/-! ## Accepted beats -/

/-- The process has accepted the beat at some time. -/
def Process.Accepted (process : Process) (beat : Beat) : Prop :=
  ∃ prior now order later,
    process.events = prior ++ Event.beat now order beat :: later ∧
      (process.start.run prior).accepts now order beat = true

variable {beat : Beat}

theorem Process.Accepted.later
    {earlier later : Process} (accepted : earlier.Accepted beat)
    (precedes : earlier.Precedes later) :
    later.Accepted beat := by
  rcases accepted with ⟨prior, now, order, rest, split, accepts⟩
  rcases precedes with ⟨start, more, events⟩
  refine ⟨prior, now, order, rest ++ more, ?_, ?_⟩
  · rw [← events, split, List.append_assoc, List.cons_append]
  · rw [start]
    exact accepts

/-- Some registry process has accepted the beat. -/
def AcceptedBy (processes : ExtTreeMap Nat Process) (beat : Beat) : Prop :=
  ∃ (epoch : Nat) (process : Process), processes[epoch]? = some process ∧ process.Accepted beat

theorem AcceptedBy.grow
    {before after : ExtTreeMap Nat Process}
    (accepted : AcceptedBy before beat) (grown : Grown before after) :
    AcceptedBy after beat := by
  rcases accepted with ⟨epoch, process, running, accepts⟩
  rcases grown epoch process running with ⟨later, found, precedes⟩
  exact ⟨epoch, later, found, accepts.later precedes⟩

theorem acceptedBy_deliver
    {processes : ExtTreeMap Nat Process} {epoch : Nat}
    (process : Process) (now : Nat) (order : String → IterationOrder)
    (accepts : process.registry.accepts now order beat = true) :
    AcceptedBy
      (processes.insert epoch (process.extend (.beat now order beat)))
      beat :=
  ⟨epoch, _, ExtTreeMap.getElem?_insert_self, process.events, now, order, [], rfl, accepts⟩

namespace System

/-! ## The invariant -/

omit [FloatFormat] in
/-- A beat of the tenure among the steps of a process is the client's. -/
def OwnBeats (tenure : Tenure) (processes : ExtTreeMap Nat Process)
    (requests : List Request) : Prop :=
  ∀ (epoch : Nat) (process : Process),
    processes[epoch]? = some process →
      ∀ now order sent, Event.beat now order sent ∈ process.events →
        sent.tenure = tenure → ∃ request ∈ requests, request.beat = sent

/-- Every number can be accounted for. -/
structure Accounted (tenure : Tenure) (system : System) : Prop where
  identity : system.client.tenure = tenure
  shows :
    ∀ sent ∈ system.requests, sent.beat.publication = some sent.showing ∧ sent.beat.tenure = tenure
  published :
    ∀ sent ∈ system.requests,
      sent.showing ≤ system.client.published.version ∧
        (sent.showing = system.client.published.version →
          sent.beat.content = system.client.published.content)
  fixed :
    ∀ left ∈ system.requests, ∀ right ∈ system.requests,
      left.showing = right.showing → left.beat.content = right.beat.content
  own : OwnBeats tenure system.processes system.requests
  replies :
    ∀ reply ∈ system.replies, reply.ack.accepted = true →
      ∃ sent, system.requests[reply.request]? = some sent ∧ AcceptedBy system.processes sent.beat
  confirmed :
    system.client.confirmed = 0 ∨
      ∃ sent ∈ system.requests,
        sent.showing = system.client.confirmed ∧ AcceptedBy system.processes sent.beat

/-- A new client has an account. -/
theorem new_accounted
    {client : Shared} {tenure : Tenure} (identity : client.tenure = tenure)
    (unconfirmed : client.confirmed = 0) :
    (System.new client).Accounted tenure where
  identity := identity
  shows := by simp [System.new]
  published := by simp [System.new]
  fixed := by simp [System.new]
  own := by simp [System.new, OwnBeats]
  replies := by simp [System.new]
  confirmed := Or.inl unconfirmed

variable {tenure : Tenure} {system : System}
  {processes : ExtTreeMap Nat Process} {requests : List Request}
  {epoch : Nat} {process : Process}

/-- More events keep the account. -/
theorem Accounted.grow
    (accounted : system.Accounted tenure) (fresh : List Reply)
    (grown : Grown system.processes processes) (own : OwnBeats tenure processes system.requests)
    (answered :
      ∀ reply ∈ fresh, reply.ack.accepted = true →
        ∃ sent, system.requests[reply.request]? = some sent ∧ AcceptedBy processes sent.beat) :
    Accounted tenure
      { system with
        processes := processes
        replies := system.replies ++ fresh } where
  identity := accounted.identity
  shows := accounted.shows
  published := accounted.published
  fixed := accounted.fixed
  own := own
  replies := by
    intro reply listed accepted
    rcases List.mem_append.mp listed with old | new
    · rcases accounted.replies reply old accepted with ⟨sent, found, acceptance⟩
      exact ⟨sent, found, acceptance.grow grown⟩
    · exact answered reply new accepted
  confirmed := by
    rcases accounted.confirmed with zero | ⟨sent, listed, showing, acceptance⟩
    · exact Or.inl zero
    · exact Or.inr ⟨sent, listed, showing, acceptance.grow grown⟩

omit [FloatFormat] in
theorem OwnBeats.insert
    (own : OwnBeats tenure processes requests) (epoch : Nat) (process : Process)
    (added :
      ∀ now order sent, Event.beat now order sent ∈ process.events →
        sent.tenure = tenure → ∃ request ∈ requests, request.beat = sent) :
    OwnBeats tenure (processes.insert epoch process) requests := by
  intro other held present
  rcases getElem?_insert_cases present with ⟨_, rfl⟩ | ⟨_, before⟩
  · exact added
  · exact own other held before

omit [FloatFormat] in
/-- Own beats stay own. -/
theorem OwnBeats.extend
    (own : OwnBeats tenure processes requests)
    (running : processes[epoch]? = some process) {event : Event}
    (added :
      ∀ now order sent, event = Event.beat now order sent →
        sent.tenure = tenure → ∃ request ∈ requests, request.beat = sent) :
    OwnBeats tenure (processes.insert epoch (process.extend event))
      requests := by
  apply own.insert
  intro now order sent listed
  rcases List.mem_append.mp listed with old | new
  · exact own epoch process running now order sent old
  · exact added now order sent (List.mem_singleton.mp new).symm

/-- A call keeps the account. -/
theorem Accounted.call
    (accounted : system.Accounted tenure) (call : Shared.Call) :
    Accounted tenure
      { system with client := system.client.call call } := by
  rcases system.client.call_published call with ⟨sameTenure, confirmed, published⟩
  refine
    { identity := sameTenure.trans accounted.identity
      shows := accounted.shows
      published := ?_
      fixed := accounted.fixed
      own := accounted.own
      replies := accounted.replies
      confirmed := ?_ }
  · intro sent listed
    rcases accounted.published sent listed with ⟨bound, same⟩
    rcases published with unchanged | next
    · simp only [unchanged]
      exact ⟨bound, same⟩
    · simp only [next]
      exact ⟨Nat.le_succ_of_le bound, fun new => by omega⟩
  · simp only [confirmed]
    exact accounted.confirmed

/-- Sending keeps the account. -/
theorem Accounted.send
    (accounted : system.Accounted tenure) (loop parked : Bool) :
    (system.send loop parked).Accounted tenure where
  identity := accounted.identity
  shows := by
    intro sent listed
    rcases List.mem_append.mp listed with old | new
    · exact accounted.shows sent old
    · rw [List.mem_singleton] at new
      subst new
      exact ⟨rfl, accounted.identity⟩
  published := by
    intro sent listed
    rcases List.mem_append.mp listed with old | new
    · exact accounted.published sent old
    · rw [List.mem_singleton] at new
      subst new
      exact ⟨Nat.le_refl _, fun _ => rfl⟩
  fixed := by
    -- the newest request shows the present publication
    intro left leftListed right rightListed same
    rcases List.mem_append.mp leftListed with leftOld | leftNew <;>
      rcases List.mem_append.mp rightListed with rightOld | rightNew
    · exact accounted.fixed left leftOld right rightOld same
    · rw [List.mem_singleton] at rightNew
      subst rightNew
      exact (accounted.published left leftOld).2 same
    · rw [List.mem_singleton] at leftNew
      subst leftNew
      exact ((accounted.published right rightOld).2 same.symm).symm
    · rw [List.mem_singleton] at leftNew rightNew
      rw [leftNew, rightNew]
  own := by
    intro epoch process running now order sent listed same
    rcases accounted.own epoch process running now order sent listed
      same with ⟨request, known, beat⟩
    exact ⟨request, List.mem_append_left _ known, beat⟩
  replies := by
    intro reply listed accepted
    rcases accounted.replies reply listed accepted with ⟨sent, found, acceptance⟩
    exact ⟨sent, getElem?_append_some found _, acceptance⟩
  confirmed := by
    rcases accounted.confirmed with zero | ⟨sent, listed, showing, acceptance⟩
    · exact Or.inl zero
    · exact Or.inr ⟨sent, List.mem_append_left _ listed, showing, acceptance⟩

/-- An answer keeps the account. -/
theorem Accounted.receive
    (accounted : system.Accounted tenure) {reply : Reply}
    {sent : Request} (listed : reply ∈ system.replies)
    (found : system.requests[reply.request]? = some sent) :
    (system.receive reply sent).Accounted tenure := by
  have published := system.client.handle_published reply.ack sent.showing
  have confirmed := system.client.handle_confirmed reply.ack sent.showing
  refine
    { identity := (system.client.handle_tenure reply.ack sent.showing).trans accounted.identity
      shows := accounted.shows
      published := ?_
      fixed := accounted.fixed
      own := accounted.own
      replies := accounted.replies
      confirmed := ?_ }
  · simp only [System.receive, published]
    exact accounted.published
  · simp only [System.receive, confirmed]
    split_ifs with accepted
    · rcases accounted.replies reply listed accepted with ⟨asker, same, acceptance⟩
      rw [found] at same
      cases same
      rcases le_total system.client.confirmed sent.showing with newer | older
      · rw [max_eq_right newer]
        exact Or.inr ⟨sent, List.mem_of_getElem? found, rfl, acceptance⟩
      · rw [max_eq_left older]
        exact accounted.confirmed
    · exact accounted.confirmed

/-- Nobody else beats for the tenure of the client. -/
def own (system : System) : Action → Bool
  | .other _ (.beat _ _ sent) => sent.tenure != system.client.tenure
  | _ => true

/-- One step keeps the account. -/
theorem step_accounted
    {next : System} {action : Action} (stepped : system.step action = some next)
    (owned : system.own action = true) (accounted : system.Accounted tenure) :
    next.Accounted tenure := by
  cases action with
  | call call =>
    cases stepped
    exact accounted.call call
  | launch ttl nanos =>
    rcases step_launch stepped with ⟨fresh, rfl⟩
    have grown :=
      accounted.grow []
        (grown_insert_fresh fresh { ttl := ttl, nanos := nanos })
        (accounted.own.insert _ _ (by simp)) (by simp)
    simpa using grown
  | compose loop parked =>
    rw [step_compose stepped]
    exact accounted.send loop parked
  | other epoch event =>
    rcases step_other stepped with ⟨process, running, rfl⟩
    have others :
        ∀ now order sent, event = Event.beat now order sent →
          sent.tenure = tenure → ∃ request ∈ system.requests, request.beat = sent := by
      rintro now order sent rfl same
      simp [System.own, accounted.identity, same] at owned
    have grown :=
      accounted.grow [] (grown_extend running event) (accounted.own.extend running others) (by simp)
    simpa using grown
  | deliver epoch request now order =>
    rcases step_deliver stepped with ⟨process, sent, running, found, rfl⟩
    refine accounted.grow _ (grown_extend running _) (accounted.own.extend running ?_) ?_
    · intro time order beat same _
      cases same
      exact ⟨sent, List.mem_of_getElem? found, rfl⟩
    · intro reply new accepted
      rw [List.mem_singleton] at new
      subst new
      exact ⟨sent, found, acceptedBy_deliver process now order accepted⟩
  | refresh index order =>
    rcases step_refresh stepped with ⟨reply, process, sent, listed, running, found, rfl⟩
    refine accounted.grow _ (grown_extend running _) (accounted.own.extend running ?_) ?_
    · intro time order beat same _
      cases same
    · intro answer new accepted
      rw [List.mem_singleton] at new
      subst new
      rcases accounted.replies reply listed accepted with ⟨asker, same, acceptance⟩
      exact ⟨asker, same, acceptance.grow (grown_extend running _)⟩
  | apply index =>
    rcases step_apply stepped with ⟨reply, sent, listed, found, _, rfl⟩
    exact accounted.receive (List.mem_of_getElem? listed) found
  | drop request =>
    cases stepped
    exact
      { identity := accounted.identity
        shows := accounted.shows
        published := accounted.published
        fixed := accounted.fixed
        own := accounted.own
        replies := accounted.replies
        confirmed := accounted.confirmed }

/-! ## What a confirmed publication means -/

/-- The content some request showed under a number. -/
def Showed (requests : List Request) (number : Nat) (content : Content) : Prop :=
  ∃ sent ∈ requests, sent.showing = number ∧ sent.beat.content = content

variable {sent : Request} {now : Nat} {order : String → IterationOrder}

omit [FloatFormat] in
theorem brings_showed
    (listed : sent ∈ requests) (publication : sent.beat.publication = some sent.showing) :
    sent.beat.Brings (Showed requests) sent.showing :=
  ⟨publication, sent, listed, rfl, rfl⟩

theorem Accounted.numbered
    (accounted : system.Accounted tenure) (running : system.processes[epoch]? = some process) :
    Registry.Numbered (Showed system.requests) tenure process.events := by
  intro now order sent listed same
  rcases accounted.own epoch process running now order sent listed same with ⟨request, known, rfl⟩
  exact ⟨_, brings_showed known (accounted.shows request known).1⟩

omit [FloatFormat] in
theorem start_vacant (process : Process) (tenure : Tenure) :
    process.start.record tenure = none := by
  simp [Registry.record, Process.start, Registry.pool_new]

/-- What was accepted is shown since. -/
theorem Accounted.shown
    (accounted : system.Accounted tenure) (running : system.processes[epoch]? = some process)
    {prior later : List Event} (known : sent ∈ system.requests)
    (split : process.events = prior ++ Event.beat now order sent.beat :: later)
    (accepts : (process.start.run prior).accepts now order sent.beat = true)
    (stays : ((process.start.run prior).step (.beat now order sent.beat)).Stays tenure later) :
    ∃ record number,
      process.registry.record tenure = some record ∧
        record.StandsAt (Showed system.requests) number ∧ sent.showing ≤ number := by
  have numbered := accounted.numbered running
  rw [split] at numbered
  rcases accounted.shows sent known with ⟨publication, identity⟩
  rcases stays.now with ⟨record, present⟩
  have accepted :
      (process.start.run prior).acceptedBeat tenure.pool tenure.id (.beat now order sent.beat) =
        some (now, sent.beat) := by
    rw [← identity]
    simp [Registry.acceptedBeat, Beat.tenure, accepts]
  have before :
      ∀ held,
        (process.start.run prior).record tenure = some held →
          ∃ number, held.StandsAt (Showed system.requests) number := by
    intro held
    apply Registry.run_standsAt (numbered.of_subset (List.subset_append_left _ _))
    intro held absent
    rw [start_vacant] at absent
    cases absent
  rcases Registry.accepted_standsAt (brings_showed known publication)
    before accepted present with ⟨number, stands, reached⟩
  have remaining :=
    (numbered.of_subset (List.subset_append_right _ _)).of_subset (List.subset_cons_self _ _)
  rcases Registry.stays_standsAt remaining stays present stands with
    ⟨last, highest, final, shows, greatest⟩
  refine ⟨last, highest, ?_, shows, ?_⟩
  · unfold Process.registry
    rw [split, Registry.run_append]
    exact final
  · exact reached.trans (greatest.2 (Set.mem_insert _ _))

/-- A confirmed number has been brought by a beat that was accepted. -/
theorem Accounted.arrived
    (accounted : system.Accounted tenure) {number : Nat}
    (positive : 1 ≤ number) (confirmed : number ≤ system.client.confirmed) :
    ∃ (epoch : Nat) (process : Process) (prior : List Event) (now : Nat)
        (order : String → IterationOrder) (beat : Beat)
        (later : List Event) (shown : Nat),
      system.processes[epoch]? = some process ∧
        process.events = prior ++ Event.beat now order beat :: later ∧
        beat.tenure = tenure ∧ beat.publication = some shown ∧ number ≤ shown ∧
        (process.start.run prior).accepts now order beat = true ∧
        (((process.start.run prior).step (.beat now order beat)).Stays tenure later →
          ∃ record : Record, ∃ request ∈ system.requests,
            process.registry.record tenure = some record ∧ number ≤ request.showing ∧
              record.publication = some request.showing ∧ record.Carries request.beat.content) := by
  rcases accounted.confirmed with
    zero | ⟨sent, known, showing, epoch, process, running, prior, now, order, later, split, accepts⟩
  · rw [zero] at confirmed
    exact absurd (positive.trans confirmed) (Nat.not_succ_le_zero 0)
  · rcases accounted.shows sent known with ⟨publication, identity⟩
    rw [← showing] at confirmed
    refine
      ⟨epoch, process, prior, now, order, sent.beat, later, sent.showing,
        running, split, identity, publication, confirmed, accepts, ?_⟩
    intro stays
    rcases accounted.shown running known split accepts stays with
      ⟨record, highest, present, stands, reached⟩
    rcases stands.carries with ⟨_, ⟨request, listed, rfl, rfl⟩, carries⟩
    exact ⟨record, request, listed, present, confirmed.trans reached, stands.publication, carries⟩

theorem Accounted.confirmed_le (accounted : system.Accounted tenure) :
    system.client.confirmed ≤ system.client.published.version := by
  rcases accounted.confirmed with zero | ⟨sent, known, showing, _⟩
  · rw [zero]
    exact Nat.zero_le _
  · rw [← showing]
    exact (accounted.published sent known).1

/-- A record that stays shows the highest number accepted for it. -/
theorem created_shows
    {registry : Registry} {meaning : Nat → Content} {first : Beat} {later : List Event}
    (numbered :
      Registry.Numbered (fun number content => content = meaning number)
        first.tenure (.beat now order first :: later))
    (vacant : registry.record first.tenure = none)
    (accepts : registry.accepts now order first = true)
    (stays : (registry.step (.beat now order first)).Stays first.tenure later) :
    ∃ record highest,
      ((registry.step (.beat now order first)).run later).record
          first.tenure = some record ∧
        IsGreatest
          (registry.acceptedNumbers first.tenure (.beat now order first :: later)) highest ∧
        record.publication = some highest ∧ record.Carries (meaning highest) := by
  have accepted :
      registry.acceptedBeat first.tenure.pool first.tenure.id (.beat now order first) =
        some (now, first) := by
    simp [Registry.acceptedBeat, Beat.tenure, accepts]
  rcases Registry.created_standsAt numbered vacant accepted stays with
    ⟨record, highest, present, stands, greatest⟩
  rcases stands.carries with ⟨content, rfl, carries⟩
  exact ⟨record, highest, present, greatest, stands.publication, carries⟩

/--
Publications are ordered, and a confirmed one has arrived.

While a record stays in its seat it shows the content of the highest number
that was accepted since it was created.  A client that counts a number as
confirmed has had a beat with this number or a higher one accepted, and a
record that stayed since shows such a publication.
-/
theorem publication_ordering :
    (∀ (registry : Registry) (meaning : Nat → Content) (now : Nat)
        (order : String → IterationOrder) (first : Beat)
        (later : List Event),
      Registry.Numbered (fun number content => content = meaning number)
          first.tenure (.beat now order first :: later) →
        registry.record first.tenure = none → registry.accepts now order first = true →
        (registry.step (.beat now order first)).Stays first.tenure
          later →
          ∃ record highest,
            ((registry.step (.beat now order first)).run later).record
                first.tenure = some record ∧
              IsGreatest
                (registry.acceptedNumbers first.tenure (.beat now order first :: later)) highest ∧
              record.publication = some highest ∧ record.Carries (meaning highest)) ∧
    ∀ (pool : String) (id incarnation : Nat) (policy : String)
        (slot size : Option Nat) (url : Option String)
        (methods : List String) (exclusive : Bool)
        (actions : List Action) (final : System),
      execute System.step
          (System.new
            (Shared.new pool id incarnation policy slot size url methods
              exclusive)) actions = some final →
        obeys System.step System.own
            (System.new
              (Shared.new pool id incarnation policy slot size url
                methods exclusive)) actions = true →
          (∀ number, 1 ≤ number → number ≤ final.client.confirmed →
            ∃ (epoch : Nat) (process : Process) (prior : List Event)
                (now : Nat) (order : String → IterationOrder)
                (beat : Beat) (later : List Event) (shown : Nat),
              final.processes[epoch]? = some process ∧
                process.events = prior ++ Event.beat now order beat :: later ∧
                beat.tenure = ⟨pool, id, incarnation⟩ ∧ beat.publication = some shown ∧
                number ≤ shown ∧ (process.start.run prior).accepts now order beat = true ∧
                (((process.start.run prior).step
                    (.beat now order beat)).Stays ⟨pool, id, incarnation⟩ later →
                  ∃ record : Record, ∃ request ∈ final.requests,
                    process.registry.record ⟨pool, id, incarnation⟩ = some record ∧
                      number ≤ request.showing ∧ record.publication = some request.showing ∧
                      record.Carries request.beat.content)) ∧
          (∀ left ∈ final.requests, ∀ right ∈ final.requests,
            left.showing = right.showing → left.beat.content = right.beat.content) ∧
          final.client.confirmed ≤ final.client.published.version ∧
          ∀ (ack : BeatAck) (showing : Nat), ack.accepted = false →
            (final.client.handle ack showing).confirmed = final.client.confirmed := by
  constructor
  · intro registry meaning now order first later numbered vacant accepts stays
    exact created_shows numbered vacant accepts stays
  · intro pool id incarnation policy slot size url methods exclusive actions final ran owned
    have accounted : final.Accounted ⟨pool, id, incarnation⟩ :=
      execute_invariant step_accounted ran owned (new_accounted rfl rfl)
    refine ⟨?_, accounted.fixed, accounted.confirmed_le, ?_⟩
    · intro number positive confirmed
      exact accounted.arrived positive confirmed
    · intro ack showing refused
      rw [Shared.handle_confirmed, refused]
      rfl

omit [FloatFormat] in
/--
A beat that overtakes an earlier one is not undone by it, in the registry and
in what the client counts as confirmed.
-/
theorem publication_ordering_overtaken :
    letI := FloatFormat.widest
    let beat (number : Nat) : Beat :=
      { pool := "p", id := 0, incarnation := 1, publication := some number, ready := number == 3 }
    let sent (number : Nat) : Event := .beat number (fun _ => .ascending) (beat number)
    (∃ record highest,
      (((Registry.new 1000000000 8).step (sent 1)).run
          [sent 3, sent 2]).record (beat 1).tenure = some record ∧
        IsGreatest
          ((Registry.new 1000000000 8).acceptedNumbers (beat 1).tenure
            [sent 1, sent 3, sent 2]) highest ∧
        record.publication = some highest ∧ record.Carries (beat highest).content) ∧
    ∃ final : System,
      execute System.step
          (System.new (Shared.new "p" 0 1 "" none none none [] false))
          [.launch 1000000000 8, .call (.setReady true),
            .compose true false, .call (.setReady false), .compose false false,
            .deliver 9 1 0 (fun _ => .ascending), .deliver 9 0 1 (fun _ => .ascending), .apply 0] =
        some final ∧ final.client.confirmed = 2 ∧
        final.client.confirmed ≤ final.client.published.version ∧
        ((final.processes[9]?).bind fun process =>
          (process.registry.record ⟨"p", 0, 1⟩).map fun record =>
            (record.publication, record.member.ready)) =
          some (some 2, false) := by
  let := FloatFormat.widest
  intro beat sent
  constructor
  · refine
      publication_ordering.1 (Registry.new 1000000000 8)
        (fun number => (beat number).content) 1 (fun _ => .ascending)
        (beat 1) [sent 3, sent 2] ?_ ?_ ?_ ?_
    · intro now order brought listed _
      rcases List.mem_cons.mp listed with same | listed
      · cases same
        exact ⟨1, rfl, rfl⟩
      · rcases List.mem_pair.mp listed with same | same <;> cases same <;>
          exact ⟨_, rfl, rfl⟩
    · decide
    · decide +kernel +zetaReduce
    · have held :
          ∀ prior ∈ [sent 3, sent 2].inits,
            ((((Registry.new 1000000000 8).step (sent 1)).run
              prior).record (beat 1).tenure).isSome = true := by
        decide +kernel +zetaReduce
      intro prior rest split
      exact held prior ((List.mem_inits _ _).mpr ⟨rest, split.symm⟩)
  · refine ⟨Option.get _ ?_, (Option.some_get _).symm, ?_, ?_, ?_⟩
    · decide
    · decide
    · exact
        (publication_ordering.2 "p" 0 1 "" none none none [] false _ _
          (Option.some_get _).symm (by decide)).2.2.1
    · decide

omit [FloatFormat] in
/--
A refused beat leaves its publication nowhere, however high its number; and
number `0` counts as confirmed before anything was sent.
-/
theorem refused_publication_is_lost :
    letI := FloatFormat.widest
    let first : Beat :=
      { pool := "p", id := 0, incarnation := 1, publication := some 1 }
    let second : Beat :=
      { first with
        publication := some 2
        ready := true
        url := some (String.ofList (List.replicate 513 'x')) }
    let registry :=
      (Registry.new 1000 8).run
        [.beat 0 (fun _ => .ascending) first, .beat 1 (fun _ => .ascending) second]
    let fresh := System.new (Shared.new "p" 0 1 "" none none none [] false)
    second.publication = some 2 ∧
      ((registry.record first.tenure).map fun record => (record.publication, record.member.ready)) =
        some (some 1, false) ∧
      fresh.client.confirmed = 0 ∧ fresh.processes.isEmpty := by
  decide +kernel

end System

end

end Tinyray
