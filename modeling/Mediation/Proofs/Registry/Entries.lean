import Mathlib.Data.List.Nodup
import Mathlib.Data.List.Perm.Basic
import Mediation.Registry

/-!
# What the operations of a registry do to its entries

No two requests wait under one id (`KeysDistinct`), and every operation keeps it that way. Under
this condition an id finds at most one request, so taking it out splits the entries into that
request and the rest (`perm_without`). Putting a request under an id adds it and gives up whoever
was there (`perm_place`), and a sweep splits the entries at its instant (`perm_sweep`).
-/

set_option autoImplicit false

namespace Mediation.Registry

open scoped List

/-- No two requests wait under one id. -/
def KeysDistinct (registry : Registry) : Prop :=
  (registry.entries.map (·.correlationId)).Nodup

variable {registry : Registry} {id : String} {entry : Pending}

theorem keysDistinct_empty : empty.KeysDistinct := List.nodup_nil

/-! ## Finding -/

theorem mem_of_find? (found : registry.find? id = some entry) : entry ∈ registry.entries :=
  List.mem_of_find?_eq_some found

theorem correlationId_of_find? (found : registry.find? id = some entry) :
    entry.correlationId = id := by
  have holds := List.find?_some found
  simpa using holds

theorem find?_eq_none_iff :
    registry.find? id = none ↔ ∀ entry ∈ registry.entries, entry.correlationId ≠ id := by
  simp [find?]

theorem mem_without :
    entry ∈ (registry.without id).entries ↔
      entry ∈ registry.entries ∧ entry.correlationId ≠ id := by
  simp [without]

/-- There is nothing to take out under an id that finds nothing. -/
theorem without_entries_of_find? (missing : registry.find? id = none) :
    (registry.without id).entries = registry.entries :=
  List.filter_eq_self.mpr (by simpa using find?_eq_none_iff.mp missing)

/-- Whoever is under another id stays. -/
theorem find?_without_of_ne (registry : Registry) {other : String} (different : other ≠ id) :
    (registry.without id).find? other = registry.find? other := by
  have same : (fun entry : Pending =>
      !decide (entry.correlationId = id) && decide (entry.correlationId = other)) =
        fun entry => decide (entry.correlationId = other) := by
    funext entry
    by_cases under : entry.correlationId = other
    · simp [under, different]
    · simp [under]
  simp [find?, without, List.find?_filter, same]

/-- Under distinct ids a request is found under its own id. -/
theorem KeysDistinct.find?_of_mem (keys : registry.KeysDistinct)
    (member : entry ∈ registry.entries) : registry.find? entry.correlationId = some entry := by
  cases found : registry.find? entry.correlationId with
  | none => exact absurd rfl (find?_eq_none_iff.mp found entry member)
  | some other =>
      have same := List.inj_on_of_nodup_map keys (mem_of_find? found) member
        (correlationId_of_find? found)
      rw [same]

theorem KeysDistinct.find?_eq_some_iff (keys : registry.KeysDistinct) :
    registry.find? id = some entry ↔ entry ∈ registry.entries ∧ entry.correlationId = id := by
  constructor
  · intro found
    exact ⟨mem_of_find? found, correlationId_of_find? found⟩
  · rintro ⟨member, rfl⟩
    exact keys.find?_of_mem member

/-- Under distinct ids no two requests wait under the same one. -/
theorem KeysDistinct.eq_of_mem (keys : registry.KeysDistinct) {other : Pending}
    (member : entry ∈ registry.entries) (inside : other ∈ registry.entries)
    (same : entry.correlationId = other.correlationId) : entry = other :=
  List.inj_on_of_nodup_map keys member inside same

theorem KeysDistinct.filter_eq (keys : registry.KeysDistinct) (id : String) :
    registry.entries.filter (fun entry => decide (entry.correlationId = id)) =
      (registry.find? id).toList := by
  cases found : registry.find? id with
  | none => simpa using find?_eq_none_iff.mp found
  | some entry =>
      have distinct : registry.entries.Nodup := List.Nodup.of_map _ keys
      refine List.perm_singleton.mp ?_
      refine (List.perm_ext_iff_of_nodup (distinct.filter _) (List.nodup_singleton entry)).mpr ?_
      intro other
      rw [List.mem_filter, List.mem_singleton, decide_eq_true_iff, ← keys.find?_eq_some_iff, found,
        Option.some_inj]
      exact eq_comm

/-! ## Taking out and putting in -/

/-- **An id splits the entries into the request under it and the rest.** -/
theorem KeysDistinct.perm_without (keys : registry.KeysDistinct) (id : String) :
    registry.entries ~ (registry.find? id).toList ++ (registry.without id).entries := by
  have rest : registry.entries.filter (fun entry => !decide (entry.correlationId = id)) =
      (registry.without id).entries := by
    simp [without]
  have split := List.filter_append_perm (fun entry => decide (entry.correlationId = id))
    registry.entries
  rw [rest, keys.filter_eq] at split
  exact split.symm

theorem KeysDistinct.perm_of_find? (keys : registry.KeysDistinct)
    (found : registry.find? id = some entry) :
    registry.entries ~ entry :: (registry.without id).entries := by
  have split := keys.perm_without id
  rw [found] at split
  exact split

theorem KeysDistinct.of_sublist {other : Registry} (keys : registry.KeysDistinct)
    (sublist : other.entries.Sublist registry.entries) : other.KeysDistinct :=
  List.Nodup.sublist (sublist.map _) keys

theorem KeysDistinct.without (keys : registry.KeysDistinct) (id : String) :
    (registry.without id).KeysDistinct :=
  keys.of_sublist List.filter_sublist

theorem place_entries (registry : Registry) (entry : Pending) :
    (registry.place entry).registry.entries =
      (registry.without entry.correlationId).entries ++ [entry] := rfl

theorem place_displaced (registry : Registry) (entry : Pending) :
    (registry.place entry).displaced = registry.find? entry.correlationId := rfl

theorem KeysDistinct.place (keys : registry.KeysDistinct) (entry : Pending) :
    (registry.place entry).registry.KeysDistinct := by
  have rest := keys.without entry.correlationId
  unfold KeysDistinct at rest ⊢
  rw [place_entries, List.map_append, List.nodup_append]
  refine ⟨rest, List.nodup_singleton _, ?_⟩
  intro first inRest second inNew
  obtain ⟨other, member, rfl⟩ := List.mem_map.mp inRest
  obtain rfl : second = entry.correlationId := by simpa using inNew
  exact (mem_without.mp member).2

/-- **Putting a request under an id adds it and gives up whoever was there.** -/
theorem KeysDistinct.perm_place (keys : registry.KeysDistinct) (entry : Pending) :
    entry :: registry.entries ~
      (registry.place entry).displaced.toList ++ (registry.place entry).registry.entries := by
  rw [place_displaced, place_entries, ← List.append_assoc]
  exact ((keys.perm_without entry.correlationId).cons entry).trans
    (List.perm_append_singleton entry _).symm

/-! ## The operations -/

theorem register?_eq_some {now : Instant} {timeout : Duration} {x : Exchange} {ticket : Ticket}
    {placement : Placement}
    (registers : registry.register? now id timeout x ticket = some placement) :
    ∃ deadline, now.after? timeout = some deadline ∧
      placement.registry.entries = (registry.without id).entries ++
        [{ correlationId := id, firstId := none, createdAt := now, deadline, timeout, exchange := x,
           ticket }] ∧
      placement.displaced = registry.find? id := by
  unfold register? at registers
  cases fits : now.after? timeout with
  | none => simp [fits] at registers
  | some deadline =>
      rw [fits, Option.map_some, Option.some_inj] at registers
      subst registers
      exact ⟨deadline, rfl, rfl, rfl⟩

/-- **Registering adds a request** and gives up whoever was under its id. -/
theorem KeysDistinct.register? (keys : registry.KeysDistinct) {now : Instant} {timeout : Duration}
    {x : Exchange} {ticket : Ticket} {placement : Placement}
    (registers : registry.register? now id timeout x ticket = some placement) :
    ∃ entry : Pending, entry.ticket = ticket ∧ entry.exchange = x ∧ entry.timeout = timeout ∧
      placement.registry.KeysDistinct ∧
      entry :: registry.entries ~ placement.displaced.toList ++ placement.registry.entries := by
  obtain ⟨deadline, _, entries, displaced⟩ := register?_eq_some registers
  let entry : Pending :=
    { correlationId := id, firstId := none, createdAt := now, deadline, timeout, exchange := x,
      ticket }
  have added : placement.registry.entries = (registry.place entry).registry.entries := entries
  have split := keys.perm_place entry
  rw [place_displaced, ← displaced, ← added] at split
  exact ⟨entry, rfl, rfl, rfl, (keys.place entry).of_sublist (by rw [added]), split⟩

/-- What a move does: nothing if there is no such request or if it moves nowhere; otherwise it takes
the request out and puts it under the other id. -/
theorem rekey_cases (registry : Registry) (source target : String) :
    (registry.find? source = none ∨ source = target) ∧
        (registry.rekey source target).1 = { registry, displaced := none, woken := [] } ∨
      ∃ entry, registry.find? source = some entry ∧ source ≠ target ∧
        (registry.rekey source target).1 =
          (registry.without source).place (entry.moveTo target) := by
  cases found : registry.find? source with
  | none => exact .inl ⟨.inl rfl, by simp [rekey, found]⟩
  | some entry =>
      by_cases same : source = target
      · subst same
        exact .inl ⟨.inr rfl, by simp [rekey, found]⟩
      · exact .inr ⟨entry, rfl, same, by simp [rekey, found, same]⟩

theorem KeysDistinct.rekey (keys : registry.KeysDistinct) (source target : String) :
    (registry.rekey source target).1.registry.KeysDistinct := by
  rcases rekey_cases registry source target with ⟨_, unchanged⟩ | ⟨entry, _, _, moved⟩
  · rw [unchanged]
    exact keys
  · rw [moved]
    exact (keys.without source).place _

/-- The requests that a sweep at an instant takes out. -/
def expired (registry : Registry) (now : Instant) : List Pending :=
  registry.entries.filter fun entry => entry.deadline ≤ now

theorem mem_expired {now : Instant} :
    entry ∈ registry.expired now ↔ entry ∈ registry.entries ∧ entry.deadline ≤ now := by
  simp [expired]

theorem sweep_holders (registry : Registry) (now : Instant) :
    (registry.sweep now).2 = (registry.expired now).map (·.release none true) := by
  simp [sweep, expired, List.partition_eq_filter_filter]

theorem sweep_entries (registry : Registry) (now : Instant) :
    (registry.sweep now).1.entries =
      registry.entries.filter fun entry => !decide (entry.deadline ≤ now) := by
  simp only [sweep, List.partition_eq_filter_filter]
  split <;> simp [report, Function.comp_def]

/-- A sweep that finds nobody whose deadline has come does nothing, and any other one reports. -/
theorem sweep_cases (registry : Registry) (now : Instant) :
    registry.expired now = [] ∧ registry.sweep now = (registry, []) ∨
      registry.expired now ≠ [] ∧ (registry.sweep now).1 =
        { registry with
          entries := registry.entries.filter fun entry => !decide (entry.deadline ≤ now) }.report := by
  by_cases nobody : registry.expired now = []
  · refine .inl ⟨nobody, ?_⟩
    have everyone : (registry.sweep now).1.entries = registry.entries := by
      rw [sweep_entries, List.filter_eq_self]
      simpa [expired] using nobody
    have holders : (registry.sweep now).2 = [] := by rw [sweep_holders, nobody, List.map_nil]
    refine Prod.ext ?_ holders
    simp only [expired] at nobody
    simp only [sweep, List.partition_eq_filter_filter, nobody, List.isEmpty_nil] at everyone ⊢
    exact congrArg (fun entries => { registry with entries }) everyone
  · refine .inr ⟨nobody, ?_⟩
    simp only [expired] at nobody
    simp only [sweep, List.partition_eq_filter_filter, List.isEmpty_eq_false_iff.mpr nobody]
    rfl

/-- **A sweep splits the entries at its instant.** -/
theorem perm_sweep (registry : Registry) (now : Instant) :
    registry.entries ~ registry.expired now ++ (registry.sweep now).1.entries := by
  rw [sweep_entries]
  exact (List.filter_append_perm _ _).symm

theorem KeysDistinct.sweep (keys : registry.KeysDistinct) (now : Instant) :
    (registry.sweep now).1.KeysDistinct :=
  keys.of_sublist (by rw [sweep_entries]; exact List.filter_sublist)

theorem drain_holders (registry : Registry) :
    registry.drain.2 = registry.entries.map (·.release none false) := rfl

theorem drain_entries (registry : Registry) : registry.drain.1.entries = [] := rfl

theorem keysDistinct_drain (registry : Registry) : registry.drain.1.KeysDistinct := List.nodup_nil

theorem resolve_cases (registry : Registry) (id : String) (reply : Message) :
    registry.find? id = none ∧ registry.resolve id reply = (registry, none) ∨
      ∃ entry, registry.find? id = some entry ∧
        registry.resolve id reply =
          ((registry.without id).report, some (entry.release (some reply) false)) := by
  cases found : registry.find? id with
  | none => exact .inl ⟨rfl, by simp [resolve, found]⟩
  | some entry => exact .inr ⟨entry, rfl, by simp [resolve, found]⟩

theorem remove_cases (registry : Registry) (id : String) :
    registry.find? id = none ∧ registry.remove id = (registry, none) ∨
      ∃ entry, registry.find? id = some entry ∧
        registry.remove id = ((registry.without id).report, some (entry.release none false)) := by
  cases found : registry.find? id with
  | none => exact .inl ⟨rfl, by simp [remove, found]⟩
  | some entry => exact .inr ⟨entry, rfl, by simp [remove, found]⟩

/-! ## Fewer requests -/

theorem without_subset (registry : Registry) (id : String) :
    (registry.without id).entries ⊆ registry.entries := List.filter_subset_self _

theorem resolve_subset (registry : Registry) (id : String) (reply : Message) :
    (registry.resolve id reply).1.entries ⊆ registry.entries := by
  rcases registry.resolve_cases id reply with ⟨_, same⟩ | ⟨entry, _, taken⟩
  · rw [same]
    exact List.Subset.refl _
  · rw [taken]
    exact registry.without_subset id

theorem remove_subset (registry : Registry) (id : String) :
    (registry.remove id).1.entries ⊆ registry.entries := by
  rcases registry.remove_cases id with ⟨_, same⟩ | ⟨entry, _, taken⟩
  · rw [same]
    exact List.Subset.refl _
  · rw [taken]
    exact registry.without_subset id

theorem sweep_subset (registry : Registry) (now : Instant) :
    (registry.sweep now).1.entries ⊆ registry.entries := by
  rw [sweep_entries]
  exact List.filter_subset_self _

end Mediation.Registry
