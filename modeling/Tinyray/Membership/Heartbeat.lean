import Tinyray.Membership.Shared
import Tinyray.Registry.Hold

/-!
# The pace of the beats

The registry parks the answer to a beat for as long as the beat asks, plus a
jitter.  The client waits a little longer than that before it gives a beat up,
and between two beats it keeps a gap.  All these times come from the lease, so
that a beat that gets lost can be repeated while the lease still runs.

Times are in milliseconds.  Sums and products are those of 64-bit numbers, and
`none` is one that does not fit.
-/

namespace Tinyray

/-! ## Times -/

/-- A sum that fits 64 bits. -/
def add64 (left right : Nat) : Option Nat :=
  if left + right < 2 ^ 64 then some (left + right) else none

/-- A product that fits 64 bits. -/
def mul64 (left right : Nat) : Option Nat :=
  if left * right < 2 ^ 64 then some (left * right) else none

/-- A lease shorter than this expires between beats. -/
def minTtlMs : Nat := 200

/-- Leave the rest of the lease for a request that times out and a retry. -/
def coalesceGap (requestedMs intervalMs : Nat) : Nat := min (min requestedMs intervalMs) 30000

/-- How long the loop waits for the answer to a beat. -/
def beatTimeout (intervalMs holdMs : Nat) : Option Nat :=
  if holdMs = 0 then do
    let tripled ← mul64 (min (max intervalMs 50) 30000) 3
    some (tripled / 4)
  else do
    -- the network margin is bounded by the hold at short leases
    let held ← add64 holdMs (holdMs / 2)
    add64 held (min (holdMs / 2) 200)

/-- The longest time the registry parks a beat: the budget and the jitter. -/
def longestPark (registry : Registry) (beat : Beat) : Option Nat := do
  let budget := RegistryServer.budget registry beat
  let spread ← add64 (budget / 8) 1
  add64 budget (beat.id % spread)

/-! ## The loop -/

/-- How one request of the loop ends. -/
inductive BeatOutcome where
  | answered (ack : BeatAck) (showing : Nat)
  | failed
  /-- A publication came up while the request was held. -/
  | cancelled

/-- A request, and whether a wake-up cuts the pause after it short. -/
structure BeatRound where
  elapsedMs : Nat
  outcome : BeatOutcome
  wokenMs : Option Nat := none

/-- The heartbeat loop. -/
structure BeatLoop where
  shared : Shared
  coalesceMs : Nat
  startedMs : Nat
  cancelledLast : Bool := false

namespace BeatLoop

/-- What the next request asks for; one after a cancelled one is not held. -/
def hold (loop : BeatLoop) : Nat := if loop.cancelledLast then 0 else loop.shared.holdMs

/-- The pause that is left of the gap. -/
def coalesce (loop : BeatLoop) (elapsedMs : Nat) : Nat :=
  coalesceGap loop.coalesceMs loop.shared.intervalMs - elapsedMs

/-- A pause that a wake-up may cut short, and the next request. -/
def pause (loop : BeatLoop) (round : BeatRound) : BeatLoop :=
  let delay :=
    if loop.shared.holdMs = 0 then min (max loop.shared.intervalMs 50) 30000
    else loop.coalesce round.elapsedMs
  { loop with startedMs := loop.startedMs + round.elapsedMs + min delay (round.wokenMs.getD delay) }

/--
From one request to the next; `none` if the loop ends, or if no request can
end so: an exchange is given up at its timeout, and one that asks for no hold
is not cancelled.
-/
def next (loop : BeatLoop) (round : BeatRound) : Option BeatLoop := do
  let timeout ← beatTimeout loop.shared.intervalMs loop.hold
  if timeout < round.elapsedMs then none
  else
    match round.outcome with
    | .answered ack showing =>
      if ack.accepted then
        some
          (pause
            { loop with
              shared := loop.shared.handle ack showing
              cancelledLast := false }
            round)
      else none
    | .failed => some (pause { loop with cancelledLast := false } round)
    | .cancelled =>
      if loop.hold = 0 then none
      else
        some
          { loop with
            startedMs := loop.startedMs + round.elapsedMs + loop.coalesce round.elapsedMs
            cancelledLast := true }

end BeatLoop

/-! ## Within one lease -/

theorem Shared.handle_pace (shared : Shared) (ack : BeatAck)
    (showing : Nat) :
    (shared.handle ack showing).intervalMs = ack.ttlMs / 4 ∧
      (shared.handle ack showing).holdMs = min (max (ack.ttlMs / 4) 50) 30000 := by
  unfold Shared.handle Shared.apply Shared.noteRegistry
  simp only
  split <;> split <;> exact ⟨rfl, rfl⟩

/-- The client beats as the lease asks for. -/
structure Shared.Paced (shared : Shared) (ttlMs : Nat) : Prop where
  interval : shared.intervalMs = ttlMs / 4
  hold : shared.holdMs = min (max (ttlMs / 4) 50) 30000

theorem Shared.handle_paced (shared : Shared) (ack : BeatAck)
    (showing : Nat) :
    (shared.handle ack showing).Paced ack.ttlMs :=
  ⟨(shared.handle_pace ack showing).1, (shared.handle_pace ack showing).2⟩

theorem Shared.Paced.hold_bounds
    {shared : Shared} {ttlMs : Nat} (paced : shared.Paced ttlMs) (floor : minTtlMs ≤ ttlMs) :
    50 ≤ shared.holdMs ∧ shared.holdMs ≤ 30000 ∧ 4 * shared.holdMs ≤ ttlMs ∧
      min shared.intervalMs 30000 = shared.holdMs := by
  have interval := paced.interval
  have hold := paced.hold
  unfold minTtlMs at floor
  omega

/-- How long a held beat may take. -/
theorem beatTimeout_of_held
    (intervalMs : Nat) {holdMs : Nat} (held : 0 < holdMs) (bound : holdMs ≤ 30000) :
    beatTimeout intervalMs holdMs = some (holdMs + holdMs / 2 + min (holdMs / 2) 200) := by
  have first : add64 holdMs (holdMs / 2) = some (holdMs + holdMs / 2) := if_pos (by omega)
  have second :
      add64 (holdMs + holdMs / 2) (min (holdMs / 2) 200) =
        some (holdMs + holdMs / 2 + min (holdMs / 2) 200) :=
    if_pos (by omega)
  unfold beatTimeout
  rw [if_neg (by omega), first]
  exact second

/-- How long a beat is parked. -/
theorem longestPark_of_held
    {registry : Registry} {beat : Beat} (bound : beat.holdMs ≤ 30000)
    (within : 2 * beat.holdMs ≤ registry.ttlMs) :
    ∃ park, longestPark registry beat = some park ∧ park ≤ beat.holdMs + beat.holdMs / 8 := by
  have budget : RegistryServer.budget registry beat = beat.holdMs := by
    unfold RegistryServer.budget
    omega
  have spread : add64 (beat.holdMs / 8) 1 = some (beat.holdMs / 8 + 1) := if_pos (by omega)
  have jitter : beat.id % (beat.holdMs / 8 + 1) < beat.holdMs / 8 + 1 :=
    Nat.mod_lt _ (Nat.succ_pos _)
  have park :
      add64 beat.holdMs (beat.id % (beat.holdMs / 8 + 1)) =
        some (beat.holdMs + beat.id % (beat.holdMs / 8 + 1)) :=
    if_pos (by omega)
  refine ⟨beat.holdMs + beat.id % (beat.holdMs / 8 + 1), ?_, ?_⟩
  · unfold longestPark
    simp only [budget, spread]
    exact park
  · omega

namespace BeatLoop

variable {loop : BeatLoop} {ttlMs : Nat}

/-- A request that is held as long as the last answer allows. -/
structure Held (loop : BeatLoop) (ttlMs : Nat) : Prop where
  paced : loop.shared.Paced ttlMs
  fresh : loop.cancelledLast = false

theorem Held.hold_eq (held : loop.Held ttlMs) : loop.hold = loop.shared.holdMs := by
  unfold hold
  rw [held.fresh]
  rfl

theorem Held.timeout (held : loop.Held ttlMs) (floor : minTtlMs ≤ ttlMs) :
    beatTimeout loop.shared.intervalMs loop.hold =
      some (loop.shared.holdMs + loop.shared.holdMs / 2 + min (loop.shared.holdMs / 2) 200) := by
  rcases held.paced.hold_bounds floor with ⟨least, most, -, -⟩
  rw [held.hold_eq]
  exact beatTimeout_of_held _ (by omega) most

theorem Held.pause_startedMs
    (held : loop.Held ttlMs) (floor : minTtlMs ≤ ttlMs) (round : BeatRound) :
    (loop.pause round).startedMs ≤ loop.startedMs + max round.elapsedMs loop.shared.holdMs := by
  rcases held.paced.hold_bounds floor with ⟨least, most, -, gap⟩
  unfold pause coalesce coalesceGap
  simp only
  rw [if_neg (by omega)]
  omega

/-- An answer leads to the next beat in time. -/
theorem Held.next_answered
    (held : loop.Held ttlMs) (floor : minTtlMs ≤ ttlMs) {ack : BeatAck}
    (lease : ack.ttlMs = ttlMs) (accepted : ack.accepted = true)
    (showing : Nat) {elapsedMs : Nat}
    (inTime : elapsedMs ≤ loop.shared.holdMs + loop.shared.holdMs / 2) (wokenMs : Option Nat) :
    ∃ second,
      loop.next ⟨elapsedMs, .answered ack showing, wokenMs⟩ = some second ∧ second.Held ttlMs ∧
        second.startedMs ≤ loop.startedMs + max elapsedMs loop.shared.holdMs := by
  have paced : (loop.shared.handle ack showing).Paced ttlMs := by
    rw [← lease]
    exact Shared.handle_paced _ _ _
  let answered : BeatLoop :=
    { loop with
      shared := loop.shared.handle ack showing
      cancelledLast := false }
  have acked : answered.Held ttlMs := ⟨paced, rfl⟩
  have same : (loop.shared.handle ack showing).holdMs = loop.shared.holdMs := by
    rw [paced.hold, held.paced.hold]
  refine ⟨answered.pause ⟨elapsedMs, .answered ack showing, wokenMs⟩, ?_, ⟨paced, rfl⟩, ?_⟩
  · unfold next
    rw [held.timeout floor]
    simp only [Option.bind_eq_bind, Option.bind_some]
    rw [if_neg (by omega), if_pos accepted]
  · have started := acked.pause_startedMs floor ⟨elapsedMs, .answered ack showing, wokenMs⟩
    rw [show answered.shared.holdMs = loop.shared.holdMs from same] at started
    exact started

/-- A lost beat is followed in time. -/
theorem Held.next_lost
    (held : loop.Held ttlMs) (floor : minTtlMs ≤ ttlMs) (wokenMs : Option Nat) {timeout : Nat}
    (timeoutEq : beatTimeout loop.shared.intervalMs loop.hold = some timeout) :
    ∃ third,
      loop.next ⟨timeout, .failed, wokenMs⟩ = some third ∧
        third.startedMs ≤ loop.startedMs + max timeout loop.shared.holdMs := by
  have again : Held { loop with cancelledLast := false } ttlMs := ⟨held.paced, rfl⟩
  refine ⟨_, ?_, again.pause_startedMs floor ⟨timeout, .failed, wokenMs⟩⟩
  unfold next
  rw [timeoutEq]
  simp only [Option.bind_eq_bind, Option.bind_some, Nat.lt_irrefl, if_false]

end BeatLoop

/--
For every lease the registry runs with, a beat is parked for less than the
client waits for it.  After an answer that comes as late as it may and a
request that is lost, the next request starts while the lease of the first
one still runs.  No sum or product on the way is too large.
-/
theorem one_lost_beat_keeps_lease
    (registry : Registry) (floor : minTtlMs ≤ registry.ttlMs)
    (loop : BeatLoop) (held : loop.Held registry.ttlMs) (beat : Beat)
    (asked : beat.holdMs = loop.hold) (ack : BeatAck)
    (lease : ack.ttlMs = registry.ttlMs) (accepted : ack.accepted = true) (showing : Nat) :
    ∃ park timeout,
      longestPark registry beat = some park ∧
        beatTimeout loop.shared.intervalMs loop.hold = some timeout ∧ park < timeout ∧
        ∀ elapsedMs ≤ park, ∀ wokenMs wokenLaterMs : Option Nat,
          ∃ second lost third,
            loop.next ⟨elapsedMs, .answered ack showing, wokenMs⟩ = some second ∧
              beatTimeout second.shared.intervalMs second.hold = some lost ∧
              second.next ⟨lost, .failed, wokenLaterMs⟩ = some third ∧
              third.startedMs < loop.startedMs + registry.ttlMs := by
  rcases held.paced.hold_bounds floor with ⟨least, most, quarter, -⟩
  have holdEq : beat.holdMs = loop.shared.holdMs := asked.trans held.hold_eq
  have within : 2 * beat.holdMs ≤ registry.ttlMs := by omega
  rcases longestPark_of_held (by omega) within with ⟨park, parkEq, parkBound⟩
  refine ⟨park, _, parkEq, held.timeout floor, by omega, ?_⟩
  intro elapsedMs inTime wokenMs wokenLaterMs
  have answeredInTime : elapsedMs ≤ loop.shared.holdMs + loop.shared.holdMs / 2 := by
    omega
  rcases held.next_answered floor lease accepted showing answeredInTime wokenMs with
    ⟨second, secondEq, secondHeld, secondStarted⟩
  have lost := secondHeld.timeout floor
  rcases secondHeld.next_lost floor wokenLaterMs lost with ⟨third, thirdEq, thirdStarted⟩
  refine ⟨second, _, third, secondEq, lost, thirdEq, ?_⟩
  have same : second.shared.holdMs = loop.shared.holdMs := by
    rw [secondHeld.paced.hold, held.paced.hold]
  omega

private def shortLease : Registry := .new (200 * 1000000) 1

private def shortAck : BeatAck where
  epoch := 1
  ttlMs := 200
  accepted := true

private def shortLoop : BeatLoop where
  shared := (Shared.new "env" 7 1 "churn" none none none [] false).handle shortAck 0
  coalesceMs := 50
  startedMs := 0

private def shortBeat : Beat where
  pool := "env"
  id := 7
  incarnation := 1
  holdMs := 50

/-- At the shortest lease a beat is parked for less than its timeout. -/
theorem shortest_lease_survives_lost_beat :
    minTtlMs ≤ shortLease.ttlMs ∧
      ∃ park timeout,
        longestPark shortLease shortBeat = some park ∧
          beatTimeout shortLoop.shared.intervalMs shortLoop.hold = some timeout ∧
          park < timeout := by
  have lease : shortAck.ttlMs = shortLease.ttlMs := by decide
  have held : shortLoop.Held shortLease.ttlMs := by
    rw [← lease]
    exact
      ⟨Shared.handle_paced (Shared.new "env" 7 1 "churn" none none none [] false) shortAck 0, rfl⟩
  have floor : minTtlMs ≤ shortLease.ttlMs := by decide
  rcases one_lost_beat_keeps_lease shortLease floor shortLoop held
      shortBeat (by decide) shortAck lease rfl 0 with
    ⟨park, timeout, parked, waited, shorter, -⟩
  exact ⟨floor, park, timeout, parked, waited, shorter⟩

end Tinyray
