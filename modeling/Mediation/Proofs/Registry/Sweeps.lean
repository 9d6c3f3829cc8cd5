import Mathlib.Data.List.Perm.Subperm
import Mediation.Proofs.Registry.Trails

/-!
# Sweeps

A sweep takes out the requests whose deadline has come and leaves the others as they are. The
deadline of a request is the one that its registration has set, however often the request has moved
(`Ledger.dated_run`). The sweep may as well go through the ids of these requests in any order and
take them out one by one (`Registry.KeysDistinct.sweepUnder`). Two sweeps in turn take out what the
later one takes out alone, each request once, and leave the same registry
(`Registry.perm_sweep_sweep`, `Registry.sweep_sweep`); an earlier sweep after a later one finds
nobody (`Registry.sweep_behind`).
-/

set_option autoImplicit false

namespace Mediation

open scoped List

namespace Registry

variable {registry : Registry} {now first second : Instant} {id : String} {ids : List String}

/-! ## One sweep after another -/

/-- Whoever a sweep leaves is found under the same id as before. -/
theorem KeysDistinct.find?_sweep (keys : registry.KeysDistinct) (now : Instant) (id : String) :
    (registry.sweep now).1.find? id =
      (registry.find? id).filter fun entry => now < entry.deadline := by
  refine Option.ext fun entry => ?_
  rw [(keys.sweep now).find?_eq_some_iff, sweep_entries, List.mem_filter,
    Option.filter_eq_some_iff, keys.find?_eq_some_iff]
  simp only [Bool.not_eq_true', decide_eq_false_iff_not, Nat.not_le, decide_eq_true_eq]
  tauto

/-- What a second sweep finds was left by the first one. -/
theorem expired_sweep (registry : Registry) (first second : Instant) :
    (registry.sweep first).1.expired second =
      (registry.expired second).filter fun entry => !decide (entry.deadline ≤ first) := by
  rw [expired, sweep_entries, expired, List.filter_filter, List.filter_filter]
  simp only [Bool.and_comm]

/-- What is due at an instant is due later. -/
theorem filter_expired (between : first ≤ second) :
    (registry.expired second).filter (fun entry => decide (entry.deadline ≤ first)) =
      registry.expired first := by
  rw [expired, expired, List.filter_filter]
  refine List.filter_congr fun entry _ => ?_
  rw [← Bool.decide_and, decide_eq_decide]
  exact and_iff_left_of_imp fun due => Nat.le_trans due between

/-- **Two sweeps in turn** take out what the later one takes out alone. -/
theorem perm_sweep_sweep (between : first ≤ second) :
    (registry.sweep first).2 ++ ((registry.sweep first).1.sweep second).2 ~
      (registry.sweep second).2 := by
  rw [sweep_holders, sweep_holders, sweep_holders, expired_sweep, ← List.map_append,
    ← filter_expired between]
  exact (List.filter_append_perm _ _).map _

/-- **Two sweeps in turn** leave what the later one leaves. -/
theorem sweep_sweep (between : first ≤ second) :
    ((registry.sweep first).1.sweep second).1 = (registry.sweep second).1 := by
  rcases registry.sweep_cases first with ⟨_, same⟩ | ⟨early, swept⟩
  · rw [same]
  · have later : registry.expired second ≠ [] := fun nobody => by
      rw [← filter_expired between, nobody] at early
      exact early rfl
    have left : ((registry.sweep first).1.sweep second).1.entries =
        registry.entries.filter fun entry => !decide (entry.deadline ≤ second) := by
      rw [sweep_entries, sweep_entries, List.filter_filter]
      refine List.filter_congr fun entry _ => ?_
      by_cases due : entry.deadline ≤ second
      · simp [due]
      · have early : ¬entry.deadline ≤ first := fun soon => due (Nat.le_trans soon between)
        simp only [due, early, decide_false, Bool.not_false, Bool.and_self]
    rcases registry.sweep_cases second with ⟨nobody, _⟩ | ⟨_, once⟩
    · exact absurd nobody later
    · rcases (registry.sweep first).1.sweep_cases second with ⟨_, same⟩ | ⟨_, again⟩
      · rw [same, swept] at left
        rw [same, swept, once]
        exact congrArg (fun entries => { registry with entries }.report) left
      · rw [again, swept] at left
        rw [again, swept, once]
        exact congrArg (fun entries => { registry with entries }.report) left

/-- **A sweep leaves nothing** for another one at the same instant or before. -/
theorem sweep_behind (between : first ≤ second) :
    (registry.sweep second).1.sweep first = ((registry.sweep second).1, []) := by
  have nobody : (registry.sweep second).1.expired first = [] := by
    rw [expired_sweep, List.filter_eq_nil_iff]
    intro entry inside
    have due : entry.deadline ≤ second := Nat.le_trans (mem_expired.mp inside).2 between
    simp only [due, decide_true, Bool.not_true, Bool.false_eq_true, not_false_eq_true]
  rcases (registry.sweep second).1.sweep_cases first with ⟨_, same⟩ | ⟨someone, _⟩
  · exact same
  · exact absurd nobody someone

/-! ## One request after another -/

/-- Takes out the request under an id if its deadline is at or before an instant. -/
def expire (registry : Registry) (now : Instant) (id : String) : Registry × Option Holder :=
  match (registry.find? id).filter fun entry => entry.deadline ≤ now with
  | none => (registry, none)
  | some entry => (registry.without id, some (entry.release none true))

/-- Takes out the requests under some ids, one after the other, whose deadline is at or before an
instant. -/
def expireEach (registry : Registry) (now : Instant) : List String → Registry × List Holder
  | [] => (registry, [])
  | id :: rest =>
    let one := registry.expire now id
    let others := one.1.expireEach now rest
    (others.1, one.2.toList ++ others.2)

/-- Goes through some ids and takes out the requests whose deadline is at or before an instant. The
number of requests is reported only if there were some. -/
def sweepUnder (registry : Registry) (now : Instant) (ids : List String) :
    Registry × List Holder :=
  let taken := registry.expireEach now ids
  (if taken.2.isEmpty then taken.1 else taken.1.report, taken.2)

/-- What is handed out of the request under an id. -/
def due? (registry : Registry) (now : Instant) (id : String) : Option Holder :=
  ((registry.find? id).filter fun entry => entry.deadline ≤ now).map (·.release none true)

/-- The registry without those requests under some ids whose deadline has come. -/
def spare (registry : Registry) (now : Instant) (ids : List String) : Registry :=
  { registry with
    entries := registry.entries.filter fun entry =>
      !(decide (entry.correlationId ∈ ids) && decide (entry.deadline ≤ now)) }

theorem expire_holder (registry : Registry) (now : Instant) (id : String) :
    (registry.expire now id).2 = registry.due? now id := by
  unfold expire due?
  cases (registry.find? id).filter fun entry => decide (entry.deadline ≤ now) <;> rfl

/-- Taking out one request leaves the others where they are. -/
theorem find?_expire (registry : Registry) (now : Instant) {other : String} (apart : other ≠ id) :
    (registry.expire now id).1.find? other = registry.find? other := by
  unfold expire
  split
  · rfl
  · exact registry.find?_without_of_ne apart

theorem KeysDistinct.expire (keys : registry.KeysDistinct) (now : Instant) (id : String) :
    (registry.expire now id).1.KeysDistinct := by
  unfold Registry.expire
  split
  · exact keys
  · exact keys.without id

theorem KeysDistinct.expire_eq (keys : registry.KeysDistinct) (now : Instant) (id : String) :
    (registry.expire now id).1 = registry.spare now [id] := by
  unfold Registry.expire spare
  split
  · next nobody =>
      have everyone : registry.entries.filter (fun entry =>
          !(decide (entry.correlationId ∈ [id]) && decide (entry.deadline ≤ now))) =
          registry.entries := by
        refine List.filter_eq_self.mpr fun entry inside => ?_
        have spared := Option.filter_eq_none_iff.mp nobody entry
        rw [keys.find?_eq_some_iff] at spared
        by_cases under : entry.correlationId = id
        · simpa [under] using spared ⟨inside, under⟩
        · simp [under]
      rw [everyone]
  · next entry someone =>
      obtain ⟨found, due⟩ := Option.filter_eq_some_iff.mp someone
      refine congrArg (fun entries => { registry with entries }) (List.filter_congr ?_)
      intro other inside
      by_cases under : other.correlationId = id
      · have same : other = entry :=
          keys.eq_of_mem inside (mem_of_find? found)
            (under.trans (correlationId_of_find? found).symm)
        rw [same] at under ⊢
        simpa [under] using due
      · simp [under]

/-- **Going through ids one by one** takes out what is due under them, once each. -/
theorem KeysDistinct.expireEach_eq (keys : registry.KeysDistinct) (now : Instant)
    (different : ids.Nodup) :
    registry.expireEach now ids =
      (registry.spare now ids, ids.filterMap (registry.due? now)) := by
  induction ids generalizing registry with
  | nil => simp [expireEach, spare]
  | cons id rest ih =>
      obtain ⟨apart, different⟩ := List.nodup_cons.mp different
      have left : (registry.spare now [id]).spare now rest = registry.spare now (id :: rest) := by
        simp only [spare, List.filter_filter]
        refine congrArg (fun entries => { registry with entries }) (List.filter_congr ?_)
        intro entry _
        simp only [List.mem_cons, List.not_mem_nil, or_false, Bool.decide_or]
        grind
      have others : rest.filterMap ((registry.expire now id).1.due? now) =
          rest.filterMap (registry.due? now) := by
        refine List.filterMap_congr fun other inside => ?_
        have elsewhere : other ≠ id := fun same => apart (same ▸ inside)
        rw [due?, registry.find?_expire now elsewhere, due?]
      rw [expireEach, ih (keys.expire now id) different, others, expire_holder, keys.expire_eq,
        left, List.filterMap_cons]
      cases registry.due? now id <;> rfl

/-- **A sweep is the same in whatever order** it goes through the ids of those who are due. -/
theorem KeysDistinct.sweepUnder (keys : registry.KeysDistinct)
    (each : ids ~ (registry.expired now).map (·.correlationId)) :
    (registry.sweepUnder now ids).1 = (registry.sweep now).1 ∧
      (registry.sweepUnder now ids).2 ~ (registry.sweep now).2 := by
  have different : ids.Nodup :=
    each.nodup_iff.mpr (List.Nodup.sublist (List.filter_sublist.map _) keys)
  have handedOut : ids.filterMap (registry.due? now) ~ (registry.sweep now).2 := by
    have one : ∀ entry ∈ registry.expired now,
        registry.due? now entry.correlationId = some (entry.release none true) := by
      intro entry inside
      obtain ⟨member, due⟩ := mem_expired.mp inside
      simp [due?, keys.find?_of_mem member, due]
    have all : (registry.expired now).filterMap (fun entry =>
        registry.due? now entry.correlationId) =
          (registry.expired now).map (·.release none true) := by
      rw [List.filterMap_congr one, ← List.filterMap_eq_map]
      rfl
    rw [sweep_holders, ← all, ← Function.comp_def, ← List.filterMap_map]
    exact each.filterMap _
  have left : registry.spare now ids =
      { registry with
        entries := registry.entries.filter fun entry => !decide (entry.deadline ≤ now) } := by
    refine congrArg (fun entries => { registry with entries }) (List.filter_congr ?_)
    intro entry member
    by_cases due : entry.deadline ≤ now
    · have inside : entry.correlationId ∈ ids :=
        each.mem_iff.mpr (List.mem_map_of_mem (mem_expired.mpr ⟨member, due⟩))
      simp [due, inside]
    · simp [due]
  rw [Registry.sweepUnder, keys.expireEach_eq now different]
  refine ⟨?_, handedOut⟩
  rcases registry.sweep_cases now with ⟨nobody, same⟩ | ⟨someone, swept⟩
  · rw [same] at handedOut ⊢
    have none_due : ids.filterMap (registry.due? now) = [] := handedOut.eq_nil
    simp only [none_due, List.isEmpty_nil, if_true, left]
    rw [← sweep_entries, same]
  · have some_due : (ids.filterMap (registry.due? now)).isEmpty = false := by
      rw [List.isEmpty_eq_false_iff]
      intro nothing
      rw [nothing, sweep_holders] at handedOut
      exact someone (List.map_eq_nil_iff.mp handedOut.symm.eq_nil)
    simp only [some_due, left, swept]
    rfl

/-- What a sweep at an instant makes of a registry. -/
structure Splits (registry : Registry) (now : Instant) (swept : Registry) (holders : List Holder) :
    Prop where
  /-- Whoever is due is handed out once, as timed out, without a reply and with its own data. -/
  handedOut : ∀ entry ∈ registry.entries, entry.deadline ≤ now →
    holders.filter (fun holder => holder.ticket = entry.ticket) = [entry.release none true]
  /-- Nobody else is handed out. -/
  due : ∀ holder ∈ holders, ∃ entry ∈ registry.entries, entry.deadline ≤ now ∧
    holder = entry.release none true
  /-- Everyone else stays as it was, in its place. -/
  entries : swept.entries = registry.entries.filter fun entry => now < entry.deadline
  /-- An id finds whom it found, unless that one was due. -/
  found : ∀ id, swept.find? id = (registry.find? id).filter fun entry => now < entry.deadline
  /-- Whoever waits for a registration goes on waiting. -/
  waits : swept.notifiers = registry.notifiers ∧ swept.waits = registry.waits

theorem KeysDistinct.splits (keys : registry.KeysDistinct)
    (tickets : (registry.entries.map (·.ticket)).Nodup) (now : Instant) :
    registry.Splits now (registry.sweep now).1 (registry.sweep now).2 where
  handedOut := by
    intro entry inside due
    rw [sweep_holders, List.filter_map]
    refine List.map_eq_singleton_iff.mpr ⟨entry, ?_, rfl⟩
    have distinct : (registry.expired now).Nodup :=
      (List.Nodup.of_map _ tickets).sublist List.filter_sublist
    refine List.perm_singleton.mp ?_
    refine (List.perm_ext_iff_of_nodup (distinct.filter _) (List.nodup_singleton entry)).mpr ?_
    intro other
    rw [List.mem_filter, List.mem_singleton]
    constructor
    · rintro ⟨among, same⟩
      have waits := (mem_expired.mp among).1
      exact List.inj_on_of_nodup_map tickets waits inside (of_decide_eq_true same)
    · rintro rfl
      exact ⟨mem_expired.mpr ⟨inside, due⟩, decide_eq_true rfl⟩
  due := by
    intro holder inside
    rw [sweep_holders] at inside
    obtain ⟨entry, among, rfl⟩ := List.mem_map.mp inside
    obtain ⟨member, due⟩ := mem_expired.mp among
    exact ⟨entry, member, due, rfl⟩
  entries := by
    rw [sweep_entries]
    refine List.filter_congr fun entry _ => ?_
    rw [← decide_not, decide_eq_decide, Nat.not_le]
  found := keys.find?_sweep now
  waits := by
    rcases registry.sweep_cases now with ⟨_, same⟩ | ⟨_, swept⟩
    · rw [same]
      exact ⟨rfl, rfl⟩
    · rw [swept]
      exact ⟨rfl, rfl⟩

/-- Two sweeps in turn are one, and nothing is left for a third. -/
structure Composes (registry : Registry) (first second : Instant) : Prop where
  /-- Nobody is handed out by both. -/
  apart : ∀ early ∈ (registry.sweep first).2,
    ∀ late ∈ ((registry.sweep first).1.sweep second).2, early.ticket ≠ late.ticket
  together : (registry.sweep first).2 ++ ((registry.sweep first).1.sweep second).2 ~
    (registry.sweep second).2
  left : ((registry.sweep first).1.sweep second).1 = (registry.sweep second).1
  behind : ∀ instant ≤ second,
    (registry.sweep second).1.sweep instant = ((registry.sweep second).1, [])

theorem composes (tickets : (registry.entries.map (·.ticket)).Nodup) (between : first ≤ second) :
    registry.Composes first second where
  apart := by
    have once : ((registry.sweep second).2.map (·.ticket)).Nodup := by
      rw [sweep_holders, List.map_map]
      exact List.Nodup.sublist (List.filter_sublist.map _) tickets
    rw [← ((perm_sweep_sweep between).map _).nodup_iff, List.map_append, List.nodup_append] at once
    intro early inFirst late inSecond
    exact once.2.2 _ (List.mem_map_of_mem inFirst) _ (List.mem_map_of_mem inSecond)
  together := perm_sweep_sweep between
  left := sweep_sweep between
  behind := fun _ before => sweep_behind before

end Registry

/-! ## Deadlines -/

/-- When a registration is made and for how long, if an operation makes one. -/
def Registry.Operation.date? : Registry.Operation → Option (Instant × Duration)
  | .register now _ timeout _ => if (now.after? timeout).isSome then some (now, timeout) else none
  | .rekey _ _ | .resolve _ _ | .remove _ | .sweep _ | .drain => none

/-- A request waits as long after its registration as was asked for. -/
structure Pending.Dated (entry : Pending) (dates : List (Instant × Duration)) : Prop where
  date : dates[entry.ticket]? = some (entry.createdAt, entry.timeout)
  deadline : entry.deadline = entry.createdAt.plus entry.timeout

namespace Ledger

open Registry (Operation)

variable {ledger : Ledger} {dates : List (Instant × Duration)}

/-- The dates of a ledger are those of its requests, one for each registration. -/
structure Dated (ledger : Ledger) (dates : List (Instant × Duration)) : Prop where
  size : dates.length = ledger.registered.length
  dated : ∀ entry ∈ ledger.registry.entries, entry.Dated dates

/-- Fewer requests have the dates they had. -/
theorem Dated.fewer (keeps : ledger.Dated dates) {after : Ledger}
    (same : after.registered = ledger.registered)
    (subset : after.registry.entries ⊆ ledger.registry.entries) : after.Dated (dates ++ []) := by
  rw [List.append_nil]
  refine ⟨keeps.size.trans (congrArg List.length same.symm), fun entry inside => ?_⟩
  exact keeps.dated entry (subset inside)

/-- **Every operation** leaves the deadlines of requests alone. -/
theorem Dated.step (keeps : ledger.Dated dates) (operation : Operation) :
    (ledger.step operation).Dated (dates ++ operation.date?.toList) := by
  have ⟨size, dated⟩ := keeps
  cases operation with
  | register now id timeout x =>
      cases registers : ledger.registry.register? now id timeout x ledger.registered.length with
      | none =>
          have unfit : (now.after? timeout).isSome = false := by
            simpa [Registry.register?] using registers
          simpa [Ledger.step, Operation.date?, registers, unfit] using ⟨size, dated⟩
      | some placement =>
          obtain ⟨deadline, fits, entries, _⟩ := Registry.register?_eq_some registers
          have date : (Operation.register now id timeout x).date? = some (now, timeout) := by
            simp [Operation.date?, fits]
          simp only [Ledger.step, registers, date, Option.toList_some]
          refine ⟨?_, ?_⟩
          · rw [adopt_registered, List.length_append, List.length_append, size]
            rfl
          · intro entry inside
            rw [adopt_registry, entries] at inside
            rcases List.mem_append.mp inside with old | new
            · obtain ⟨known, timed⟩ := dated entry (Registry.mem_without.mp old).1
              refine ⟨?_, timed⟩
              rw [List.getElem?_append_left (List.getElem?_eq_some_iff.mp known).1]
              exact known
            · obtain rfl := List.mem_singleton.mp new
              refine ⟨?_, Instant.after?_eq fits⟩
              rw [← size]
              exact List.getElem?_concat_length
  | rekey source target =>
      rw [Operation.date?, Option.toList_none, List.append_nil]
      refine ⟨?_, ?_⟩
      · change _ = (ledger.adopt _).registered.length
        rw [adopt_registered, size]
      · intro entry inside
        change entry ∈ (ledger.adopt _).registry.entries at inside
        rw [adopt_registry] at inside
        rcases ledger.registry.rekey_cases source target with
          ⟨_, unchanged⟩ | ⟨moved, found, _, moves⟩
        · rw [unchanged] at inside
          exact dated entry inside
        · rw [moves, Registry.place_entries] at inside
          rcases List.mem_append.mp inside with old | new
          · exact dated entry (Registry.mem_without.mp (Registry.mem_without.mp old).1).1
          · obtain rfl := List.mem_singleton.mp new
            obtain ⟨known, timed⟩ := dated moved (Registry.mem_of_find? found)
            exact ⟨known, timed⟩
  | resolve id reply => exact keeps.fewer rfl (ledger.registry.resolve_subset id reply)
  | remove id => exact keeps.fewer rfl (ledger.registry.remove_subset id)
  | sweep now => exact keeps.fewer rfl (ledger.registry.sweep_subset now)
  | drain => exact keeps.fewer rfl (List.nil_subset _)

theorem Dated.run (keeps : ledger.Dated dates) (operations : List Operation) :
    (ledger.run operations).Dated (dates ++ operations.filterMap Operation.date?) := by
  induction operations generalizing ledger dates with
  | nil =>
      rw [List.filterMap_nil, List.append_nil]
      exact keeps
  | cons operation rest ih =>
      have after := ih (keeps.step operation)
      rw [List.append_assoc] at after
      rw [List.filterMap_cons]
      cases dated : operation.date? with
      | none =>
          rw [dated] at after
          exact after
      | some date =>
          rw [dated] at after
          exact after

/-- **A request keeps the deadline that its registration has set**, whatever ids it is moved to. -/
theorem dated_run (operations : List Operation) :
    (empty.run operations).Dated (operations.filterMap Operation.date?) := by
  have start : empty.Dated [] := ⟨rfl, fun entry inside => absurd inside List.not_mem_nil⟩
  exact start.run operations

/-- **Sweeps partition and compose.** After any sequence of operations on a new registry, whoever
waits for registrations in the meantime, the deadline of a request is the requested time after its
registration. A sweep hands out those whose deadline is at or before its instant and leaves the
others alone, and it does so in whatever order it goes through their ids. Two sweeps in turn are one
sweep at the later instant, and behind that there is nothing left to sweep. -/
theorem sweeps_partition (operations : List Operation) (notifiers : List (String × Nat))
    (waits : List Wait) :
    let registry : Registry := { (empty.run operations).registry with notifiers, waits }
    (∀ entry ∈ registry.entries, entry.Dated (operations.filterMap Operation.date?)) ∧
      (∀ now, registry.Splits now (registry.sweep now).1 (registry.sweep now).2 ∧
        ∀ ids, ids ~ (registry.expired now).map (·.correlationId) →
          (registry.sweepUnder now ids).1 = (registry.sweep now).1 ∧
            (registry.sweepUnder now ids).2 ~ (registry.sweep now).2) ∧
      ∀ first second, first ≤ second → registry.Composes first second := by
  intro registry
  have sound : (empty.run operations).Sound := sound_empty.run operations
  have keys : registry.KeysDistinct := sound.keys
  have tickets : (registry.entries.map (·.ticket)).Nodup := sound.tickets
  refine ⟨(dated_run operations).dated, fun now => ⟨keys.splits tickets now, ?_⟩, ?_⟩
  · intro ids each
    exact keys.sweepUnder each
  · intro first second between
    exact Registry.composes tickets between

end Ledger

end Mediation
