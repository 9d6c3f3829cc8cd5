import Mediation.Coordinator.Turn
import Mediation.Proofs.Handoff.Accounts

/-!
# The books of a coordinator

A coordinator keeps books on its registrations: the requests that wait in its registry, and the two
halves of every suspension. Most of its moves leave the books alone (`SameBooks`). The books are
sound when every registration is either a request that waits or is being handed back, with its
continuation untouched, or is settled: its continuation is gone and there is a verdict (`Sound`).
-/

set_option autoImplicit false

namespace Mediation

open scoped List

/-- A reply that waits for its request waits under the id it carries. -/
def Job.Keyed : Job → Prop
  | .early message id _ => message.correlationId? = some id
  | _ => True

namespace Coordinator

/-- Every reply that waits for its request waits under the id it carries. -/
def Keyed (c : Coordinator) : Prop := ∀ entry ∈ c.tasks, entry.2.Keyed

/-- What there is to collect for a registration. -/
def verdict? (c : Coordinator) (ticket : Ticket) : Option Verdict :=
  (c.handoffs[ticket]?).bind (·.verdict)

theorem Keyed.job? {c : Coordinator} (keyed : c.Keyed) {task : TaskId} {job : Job}
    (standing : c.job? task = some job) : job.Keyed := by
  obtain ⟨entry, found, rfl⟩ := Option.map_eq_some_iff.mp standing
  exact keyed entry (List.mem_of_find?_eq_some found)

/-! ## Moves that leave the books alone -/

/-- The books of `d` are those of `c`. -/
structure SameBooks (c d : Coordinator) : Prop where
  entries : d.registry.entries = c.registry.entries
  handoffs : d.handoffs = c.handoffs
  held : d.held = c.held
  keyed : c.Keyed → d.Keyed

/-- Besides, the coordinator runs as before, with the same settings, and no time has passed. -/
structure Quiet (c d : Coordinator) : Prop extends SameBooks c d where
  lifecycle : d.lifecycle = c.lifecycle
  config : d.config = c.config
  now : d.now = c.now

variable {c d e : Coordinator}

theorem Quiet.refl (c : Coordinator) : Quiet c c := ⟨⟨rfl, rfl, rfl, id⟩, rfl, rfl, rfl⟩

theorem Quiet.trans (first : Quiet c d) (second : Quiet d e) : Quiet c e where
  entries := second.entries.trans first.entries
  handoffs := second.handoffs.trans first.handoffs
  held := second.held.trans first.held
  keyed := second.keyed ∘ first.keyed
  lifecycle := second.lifecycle.trans first.lifecycle
  config := second.config.trans first.config
  now := second.now.trans first.now

theorem keyed_append {tasks : List (TaskId × Job)} (keyed : ∀ entry ∈ tasks, entry.2.Keyed)
    {task : TaskId} {job : Job} (new : job.Keyed) : ∀ entry ∈ tasks ++ [(task, job)],
      entry.2.Keyed := by
  intro entry member
  rcases List.mem_append.mp member with old | fresh
  · exact keyed entry old
  · rw [List.mem_singleton.mp fresh]
    exact new

theorem quiet_spawn (c : Coordinator) {job : Job} (keyed : job.Keyed) :
    Quiet c (c.spawn job).1 :=
  ⟨⟨rfl, rfl, rfl, fun known => keyed_append known keyed⟩, rfl, rfl, rfl⟩

theorem quiet_spawnAsleep (c : Coordinator) {job : Job} (keyed : job.Keyed) :
    Quiet c (c.spawnAsleep job) :=
  ⟨⟨rfl, rfl, rfl, fun known => keyed_append known keyed⟩, rfl, rfl, rfl⟩

theorem quiet_park (c : Coordinator) (task : TaskId) {job : Job} (keyed : job.Keyed) :
    Quiet c (c.park task job) := by
  refine ⟨⟨rfl, rfl, rfl, fun known entry member => ?_⟩, rfl, rfl, rfl⟩
  obtain ⟨old, inside, rfl⟩ := List.mem_map.mp member
  split
  · exact keyed
  · exact known old inside

theorem quiet_discard (c : Coordinator) (gone : List TaskId) : Quiet c (c.discard gone) :=
  ⟨⟨rfl, rfl, rfl, fun known entry member => known entry (List.mem_filter.mp member).1⟩, rfl, rfl,
    rfl⟩

theorem quiet_finish (c : Coordinator) (task : TaskId) (report : Report) :
    Quiet c (c.finish task report) :=
  (c.quiet_discard [task]).trans ⟨⟨rfl, rfl, rfl, id⟩, rfl, rfl, rfl⟩

theorem quiet_carry (c : Coordinator) (reply : Option (Message × Duration)) :
    Quiet c (c.carry reply) := by
  cases reply with
  | none => exact .refl c
  | some carried =>
      obtain ⟨message, time⟩ := carried
      simp only [carry]
      split
      · exact c.quiet_spawn (show Job.Keyed (.deliver message) from trivial)
      · exact c.quiet_spawnAsleep (show Job.Keyed (.carried message _) from trivial)

/-- As long as someone outside holds it, a coordinator is not let go. -/
theorem letGo_eq_self (held : c.held = true) : c.letGo = c := by
  simp [letGo, held]

/-! ## Sound books -/

/-- Every registration is a request that waits or is in hand, or is settled. `hand` are the requests
that were taken out of the registry and not handed back yet. -/
structure Sound (c : Coordinator) (registered : List (Exchange × Duration)) (hand : List Pending) :
    Prop where
  held : c.held = true
  keyed : c.Keyed
  keys : c.registry.KeysDistinct
  balanced : ∃ settled : List Account,
    Balanced registered c.handoffs ((hand ++ c.registry.entries).map Pending.account ++ settled) ∧
      ∀ account ∈ settled, account.handoff.armed = false ∧ account.handoff.verdict.isSome

variable {registered : List (Exchange × Duration)} {hand : List Pending}

theorem sound_create (config : CoordinatorConfig) (transport : Transport)
    (naming : Nat → String) : (create config transport naming).Sound [] [] where
  held := rfl
  keyed := by simp [Keyed, create]
  keys := Registry.keysDistinct_empty
  balanced := ⟨[], .nil, by simp⟩

theorem Sound.of_sameBooks (sound : c.Sound registered hand) (same : SameBooks c d) :
    d.Sound registered hand where
  held := same.held.trans sound.held
  keyed := same.keyed sound.keyed
  keys := sound.keys.of_sublist (by rw [same.entries])
  balanced := by
    rw [same.entries, same.handoffs]
    exact sound.balanced

theorem Sound.size (sound : c.Sound registered hand) : c.handoffs.length = registered.length := by
  obtain ⟨_, balanced, _⟩ := sound.balanced
  exact balanced.size

/-- A request that waits or is in hand can be resumed, and nothing was registered in its place. -/
theorem Sound.agrees (sound : c.Sound registered hand) {entry : Pending}
    (member : entry ∈ hand ++ c.registry.entries) :
    registered[entry.ticket]? = some (entry.exchange, entry.timeout) ∧
      c.handoffs[entry.ticket]? = some Handoff.fresh := by
  obtain ⟨_, balanced, _⟩ := sound.balanced
  exact balanced.agrees entry.account (List.mem_append_left _ (List.mem_map_of_mem member))

/-- Different requests have different tickets. -/
theorem Sound.tickets (sound : c.Sound registered hand) :
    ((hand ++ c.registry.entries).map (·.ticket)).Nodup := by
  obtain ⟨_, balanced, _⟩ := sound.balanced
  have distinct := balanced.nodup
  rw [List.map_append, List.map_map] at distinct
  exact (List.nodup_append.mp distinct).1

theorem Sound.eq_of_ticket (sound : c.Sound registered hand) {entry other : Pending}
    (member : entry ∈ hand ++ c.registry.entries) (inside : other ∈ hand ++ c.registry.entries)
    (same : entry.ticket = other.ticket) : entry = other :=
  List.inj_on_of_nodup_map sound.tickets member inside same

/-- **A registration without a verdict waits or is in hand.** -/
theorem Sound.exists_entry (sound : c.Sound registered hand) {ticket : Ticket}
    (given : ticket < registered.length) (unsettled : c.verdict? ticket = none) :
    ∃ entry ∈ hand ++ c.registry.entries, entry.ticket = ticket := by
  obtain ⟨settled, balanced, closed⟩ := sound.balanced
  obtain ⟨account, member, rfl⟩ := balanced.exists_of_lt given
  rcases List.mem_append.mp member with waiting | gone
  · obtain ⟨entry, inside, rfl⟩ := List.mem_map.mp waiting
    exact ⟨entry, inside, rfl⟩
  · have known := (balanced.agrees account member).2
    have verdict := (closed account gone).2
    rw [verdict?, known, Option.bind_some] at unsettled
    simp [unsettled] at verdict

end Coordinator

end Mediation
