import Tinyray.Membership.Sync

/-!
# A client that follows one registry process

A client asks from versions it holds and drops answers that are older than
what it has.  Whatever it applies in between, its copy of a pool is always
the pool as it was at some moment, and so its fingerprint is that of the
members it holds.
-/

namespace Tinyray

open Std Foundation

theorem Pool.Remembers.of_current
    {pool past : Pool} (version : past.version = pool.version) (roll : past.roll = pool.roll) :
    pool.Remembers past := by
  refine ⟨version.le, ?_⟩
  rw [roll]
  exact Recalls.refl _ _ _

theorem CachedPool.empty_shows : Shows {} {} := by
  refine ⟨?_, rfl, rfl⟩
  apply ExtTreeMap.ext_getElem?
  intro id
  simp

namespace Registry

variable [FloatFormat]

/--
The copies of a pool a client comes to hold by applying answers of one
registry process.  The cursor of an answer was sent earlier, when the copy
had that version or none; the answer may be any number of steps old.
-/
inductive Follows (start : Registry) (name : String)
    (events : List Event) : CachedPool → Prop where
  | empty : Follows start name events {}
  | apply
      {cached : CachedPool} (follows : Follows start name events cached)
      (before after : List Event) (prior : events = before ++ after)
      (order : IterationOrder) (seen : Option Nat) (delta : PoolDelta)
      (answered : (((start.run before).pool name).delta order seen).1 = some delta)
      (sent : ∀ cursor, seen = some cursor → cursor ≤ cached.version)
      (notOlder : cached.version ≤ delta.version) :
      Follows start name events (cached.apply delta)

/-- A later pool remembers an earlier one. -/
theorem remembers_of_version_le
    {ttl nanos : Nat} {name : String} {events : List Event} {pool past : Pool}
    (visited : pool ∈ (Registry.new ttl nanos).history name events)
    (pastVisited : past ∈ (Registry.new ttl nanos).history name events)
    (notOlder : past.version ≤ pool.version) :
    pool.Remembers past := by
  have journaled := (history_new_leads visited).1.journaled Pool.journaled_empty
  have pastJournaled := (history_new_leads pastVisited).1.journaled Pool.journaled_empty
  rcases history_comparable pastVisited visited with before | after
  · exact before.remembers pastJournaled
  · have remembers := after.remembers journaled
    have current : pool.version = past.version := Nat.le_antisymm remembers.behind notOlder
    exact Pool.Remembers.of_current current.symm (remembers.roll_eq pastJournaled current).symm

/-- A copy that follows shows a past state. -/
theorem Follows.shows
    {ttl nanos : Nat} {name : String} {events : List Event} {cached : CachedPool}
    (follows : Follows (Registry.new ttl nanos) name events cached) :
    ∃ past ∈ (Registry.new ttl nanos).history name events, cached.Shows past := by
  induction follows with
  | empty =>
    refine ⟨{}, ?_, CachedPool.empty_shows⟩
    have start := mem_history_self (Registry.new ttl nanos) name events
    rw [pool_new] at start
    exact start
  | @apply cached _ before after prior order seen delta answered sent
      notOlder hypothesis =>
      rcases hypothesis with ⟨past, pastVisited, shows⟩
      subst prior
      have visited := mem_history_run (Registry.new ttl nanos) name before after
      have leads := run_new_leads ttl nanos before name
      have sound := (run_cachesSound (new_cachesSound ttl nanos) before).getD name
      rcases Pool.delta_answers sound answered with ⟨_, answers⟩
      refine ⟨_, visited, ?_⟩
      apply answers.shows (leads.charted Pool.charted_empty) (leads.journaled Pool.journaled_empty)
      cases seen with
      | none => exact Or.inl (answers.full_iff.mpr rfl)
      | some cursor =>
        rw [answers.version, shows.version] at notOlder
        have since := sent cursor rfl
        rw [shows.version] at since
        exact
          Or.inr
            ⟨past, cursor, rfl, since, remembers_of_version_le visited pastVisited notOlder,
              shows.members⟩

/--
The fingerprint of a pool is the exclusive or over its members, in the
registry and in every client, and a change of members moves the version.
-/
theorem roster_is_fingerprint
    (ttl nanos : Nat) (events : List Event) (name : String) :
    let start := Registry.new ttl nanos
    let pool := (start.run events).pool name
    pool.roster = rosterOf pool.roll ∧ (pool.members = ∅ → pool.roster = 0) ∧
      (∀ (ttl' nanos' : Nat) (events' : List Event) (name' : String),
        let other := ((Registry.new ttl' nanos').run events').pool name'
        tenures other.roll = tenures pool.roll → other.roster = pool.roster) ∧
      (∀ event, let next := ((start.run events).step event).pool name
        (tenures next.roll = tenures pool.roll → next.roster = pool.roster) ∧
          (next.roll ≠ pool.roll → pool.version < next.version)) ∧
      (∀ cached, Follows start name events cached →
        cached.roster = rosterOf cached.members ∧
          ∀ members : List Member,
            members.Perm (cached.members.toList.map Prod.snd) →
              (FrozenMembers.new members).roster = cached.roster) := by
  intro start pool
  have leads : Pool.Leads {} pool := run_new_leads ttl nanos events name
  have charted := leads.charted Pool.charted_empty
  have journaled := leads.journaled Pool.journaled_empty
  refine ⟨charted.fingerprinted, ?_, ?_, ?_, ?_⟩
  · intro noMembers
    have noRoll : pool.roll = ∅ := by
      apply ExtTreeMap.ext_getElem?
      intro id
      simp [noMembers]
    rw [charted.fingerprinted, noRoll, rosterOf_empty]
  · intro ttl' nanos' events' name' other same
    have otherCharted : other.Charted :=
      (run_new_leads ttl' nanos' events' name').charted Pool.charted_empty
    rw [otherCharted.roster_eq, charted.roster_eq, same]
  · intro event next
    have stepLeads : pool.Leads next := step_leads (start.run events) event name
    constructor
    · intro same
      rw [(stepLeads.charted charted).roster_eq, charted.roster_eq, same]
    · intro changed
      have remembers := stepLeads.remembers journaled
      refine Nat.lt_of_le_of_ne remembers.behind ?_
      intro current
      have nextJournaled := stepLeads.journaled journaled
      exact changed (remembers.roll_eq nextJournaled current).symm
  · intro cached follows
    rcases follows.shows with ⟨past, visited, shows⟩
    have pastCharted := (history_new_leads visited).1.charted Pool.charted_empty
    have fingerprint : cached.roster = rosterOf cached.members := by
      rw [shows.roster, shows.members]
      exact pastCharted.fingerprinted
    refine ⟨fingerprint, ?_⟩
    intro members perm
    rw [FrozenMembers.new_roster_of_perm perm, fingerprint, rosterOf,
      combine, ExtTreeMap.foldl_eq_foldl_toList, List.foldl_map]

end Registry

end Tinyray
