import Mathlib.Data.List.Induction
import Mediation.Proofs.Registry.Ledger

/-!
# What the gauge shows

The gauge of a registry shows the number of outstanding requests as of the last report. Every
operation that changes this number reports it, but for one: a request that is moved onto another one
displaces it, and no number is reported (`collides`). So the gauge is ahead of the registry by the
requests that were displaced in this way since the last report (`Ledger.gauge_run`). It shows the
number of outstanding requests exactly if every such move has been followed by a report
(`Ledger.gauge_tells`).
-/

set_option autoImplicit false

namespace Mediation

namespace Registry

variable {registry : Registry}

/-- Whether an operation reports the number of outstanding requests. -/
def reports (registry : Registry) : Operation → Bool
  | .register now _ timeout _ => (now.after? timeout).isSome
  | .rekey _ _ => false
  | .resolve id _ | .remove id => registry.contains id
  | .sweep now => !(registry.expired now).isEmpty
  | .drain => true

/-- Whether an operation moves a request onto another one. -/
def collides (registry : Registry) : Operation → Bool
  | .rekey source target =>
    decide (source ≠ target) && registry.contains source && registry.contains target
  | .register _ _ _ _ | .resolve _ _ | .remove _ | .sweep _ | .drain => false

/-- By how many requests the gauge is ahead after an operation, from what it was before. -/
def leadAfter (registry : Registry) (lead : Nat) (operation : Operation) : Nat :=
  if registry.reports operation then 0
  else if registry.collides operation then lead + 1
  else lead

/-- The gauge of a registry is ahead of it by so many requests. -/
def Ahead (registry : Registry) (lead : Nat) : Prop := registry.gauge = registry.size + lead

theorem not_collides_of_reports {operation : Operation}
    (reports : registry.reports operation = true) : registry.collides operation = false := by
  cases operation with
  | rekey source target => simp [Registry.reports] at reports
  | _ => rfl

/-- A report brings the gauge up to date. -/
theorem ahead_report (registry : Registry) : registry.report.Ahead 0 := rfl

theorem ahead_register? {now : Instant} {id : String} {timeout : Duration} {x : Exchange}
    {ticket : Ticket} {placement : Placement}
    (registers : registry.register? now id timeout x ticket = some placement) :
    placement.registry.Ahead 0 := by
  unfold register? at registers
  obtain ⟨deadline, _, rfl⟩ := Option.map_eq_some_iff.mp registers
  exact ahead_report _

/-- **A move that displaces someone** leaves one request fewer, and the gauge as it was. -/
theorem KeysDistinct.size_rekey (keys : registry.KeysDistinct) (source target : String) :
    registry.size = (registry.rekey source target).1.registry.size +
      if registry.collides (.rekey source target) then 1 else 0 := by
  rcases registry.rekey_cases source target with ⟨idle, unchanged⟩ | ⟨entry, found, apart, moved⟩
  · have still : registry.collides (.rekey source target) = false := by
      rcases idle with missing | same
      · simp [collides, contains, missing]
      · simp [collides, same]
    simp [unchanged, still]
  · have out := (keys.perm_of_find? found).length_eq
    have put := ((keys.without source).perm_place (entry.moveTo target)).length_eq
    have there : (registry.without source).find? (entry.moveTo target).correlationId =
        registry.find? target := registry.find?_without_of_ne apart.symm
    rw [place_displaced, there] at put
    simp only [List.length_cons, List.length_append] at out put
    rw [moved, size, size, out, put]
    cases taken : registry.find? target with
    | none => simp [collides, contains, taken]
    | some other => simp [collides, contains, apart, found, taken, Nat.add_comm]

theorem gauge_rekey (registry : Registry) (source target : String) :
    (registry.rekey source target).1.registry.gauge = registry.gauge := by
  rcases registry.rekey_cases source target with ⟨_, unchanged⟩ | ⟨entry, _, _, moved⟩
  · rw [unchanged]
  · rw [moved]
    rfl

end Registry

namespace Ledger

open Registry (Operation)

variable {ledger : Ledger} {lead : Nat}

/-- By how many requests the gauge is ahead after some operations, from what it was before. -/
def leadAfter (ledger : Ledger) (lead : Nat) : List Operation → Nat
  | [] => lead
  | operation :: rest =>
    (ledger.step operation).leadAfter (ledger.registry.leadAfter lead operation) rest

/-- **One operation** changes what the gauge shows and how many requests there are. -/
theorem Sound.ahead_step (sound : ledger.Sound) (ahead : ledger.registry.Ahead lead)
    (operation : Operation) :
    (ledger.step operation).registry.Ahead (ledger.registry.leadAfter lead operation) := by
  cases operation with
  | register now id timeout x =>
      simp only [Ledger.step, Registry.leadAfter, Registry.reports, Registry.collides]
      cases registers :
          ledger.registry.register? now id timeout x ledger.registered.length with
      | none =>
          have unfit : now.after? timeout = none := Option.map_eq_none_iff.mp registers
          simpa [unfit] using ahead
      | some placement =>
          obtain ⟨deadline, fits, _⟩ := Registry.register?_eq_some registers
          simpa [fits, adopt_registry] using Registry.ahead_register? registers
  | rekey source target =>
      have fewer := sound.keys.size_rekey source target
      have shown := ledger.registry.gauge_rekey source target
      change (ledger.adopt _).registry.Ahead _
      rw [adopt_registry, Registry.Ahead, shown, show ledger.registry.gauge = _ from ahead, fewer]
      simp only [Registry.leadAfter, Registry.reports, Bool.false_eq_true, if_false]
      split <;> omega
  | resolve id reply =>
      change (ledger.registry.resolve id reply).1.Ahead _
      rcases ledger.registry.resolve_cases id reply with ⟨missing, same⟩ | ⟨entry, found, taken⟩
      · simpa [same, Registry.leadAfter, Registry.reports, Registry.collides, Registry.contains,
          missing] using ahead
      · simpa [taken, Registry.leadAfter, Registry.reports, Registry.contains, found] using
          (ledger.registry.without id).ahead_report
  | remove id =>
      change (ledger.registry.remove id).1.Ahead _
      rcases ledger.registry.remove_cases id with ⟨missing, same⟩ | ⟨entry, found, taken⟩
      · simpa [same, Registry.leadAfter, Registry.reports, Registry.collides, Registry.contains,
          missing] using ahead
      · simpa [taken, Registry.leadAfter, Registry.reports, Registry.contains, found] using
          (ledger.registry.without id).ahead_report
  | sweep now =>
      change (ledger.registry.sweep now).1.Ahead _
      rcases ledger.registry.sweep_cases now with ⟨nobody, same⟩ | ⟨late, swept⟩
      · simpa [Registry.leadAfter, Registry.reports, Registry.collides, nobody, same] using ahead
      · simpa [Registry.leadAfter, Registry.reports, late, swept] using Registry.ahead_report _
  | drain => exact Registry.ahead_report _

/-- **The gauge is ahead by the requests that moves have displaced since the last report.** -/
theorem Sound.ahead_run (sound : ledger.Sound) (ahead : ledger.registry.Ahead lead)
    (operations : List Operation) :
    (ledger.run operations).registry.Ahead (ledger.leadAfter lead operations) := by
  induction operations generalizing ledger lead with
  | nil => exact ahead
  | cons operation rest ih => exact ih (sound.step operation) (sound.ahead_step ahead operation)

theorem leadAfter_concat (operations : List Operation) (operation : Operation) :
    ledger.leadAfter lead (operations ++ [operation]) =
      (ledger.run operations).registry.leadAfter (ledger.leadAfter lead operations) operation := by
  induction operations generalizing ledger lead with
  | nil => rfl
  | cons first rest ih => exact ih

/-- The `n`-th of some operations is of a certain kind when it comes. -/
def KindAt (kind : Registry → Operation → Bool) (operations : List Operation) (n : Nat) : Prop :=
  ∃ operation, operations[n]? = some operation ∧
    kind (empty.run (operations.take n)).registry operation = true

section KindAt

variable {kind : Registry → Operation → Bool} {operations : List Operation}
  {operation : Operation} {n : Nat}

theorem KindAt.lt_length (here : KindAt kind operations n) : n < operations.length := by
  obtain ⟨operation, there, _⟩ := here
  exact (List.getElem?_eq_some_iff.mp there).1

theorem kindAt_concat_of_lt (before : n < operations.length) :
    KindAt kind (operations ++ [operation]) n ↔ KindAt kind operations n := by
  rw [KindAt, KindAt, List.getElem?_append_left before,
    List.take_append_of_le_length (Nat.le_of_lt before)]

theorem kindAt_concat_length :
    KindAt kind (operations ++ [operation]) operations.length ↔
      kind (empty.run operations).registry operation = true := by
  simp [KindAt]

theorem KindAt.concat (here : KindAt kind operations n) (operation : Operation) :
    KindAt kind (operations ++ [operation]) n :=
  (kindAt_concat_of_lt here.lt_length).mpr here

theorem KindAt.of_concat (here : KindAt kind (operations ++ [operation]) n) :
    KindAt kind operations n ∨
      n = operations.length ∧ kind (empty.run operations).registry operation = true := by
  have bound := here.lt_length
  rw [List.length_append, List.length_singleton, Nat.lt_succ_iff] at bound
  rcases Nat.lt_or_eq_of_le bound with before | rfl
  · exact .inl ((kindAt_concat_of_lt before).mp here)
  · exact .inr ⟨rfl, kindAt_concat_length.mp here⟩

end KindAt

/-- Every move of a request onto another one is followed by a report. -/
def Settled (operations : List Operation) : Prop :=
  ∀ n, KindAt Registry.collides operations n →
    ∃ m, n < m ∧ KindAt Registry.reports operations m

/-- **Nothing is left over exactly if every displacement was followed by a report.** -/
theorem leadAfter_eq_zero_iff (operations : List Operation) :
    empty.leadAfter 0 operations = 0 ↔ Settled operations := by
  induction operations using List.reverseRecOn with
  | nil => exact iff_of_true rfl fun n here => absurd here.lt_length (Nat.not_lt_zero n)
  | append_singleton operations operation ih =>
      rw [leadAfter_concat, Registry.leadAfter]
      split
      · next reports =>
          refine iff_of_true rfl ?_
          intro n here
          refine ⟨operations.length, ?_, kindAt_concat_length.mpr reports⟩
          rcases here.of_concat with before | ⟨_, collides⟩
          · exact before.lt_length
          · simp [Registry.not_collides_of_reports reports] at collides
      · next silent =>
          split
          · next collides =>
              refine iff_of_false (Nat.succ_ne_zero _) fun settled => ?_
              obtain ⟨m, after, here⟩ := settled _ (kindAt_concat_length.mpr collides)
              have bound := here.lt_length
              rw [List.length_append, List.length_singleton] at bound
              omega
          · next apart =>
              rw [ih]
              constructor
              · intro settled n here
                rcases here.of_concat with before | ⟨_, collides⟩
                · obtain ⟨m, after, reports⟩ := settled n before
                  exact ⟨m, after, reports.concat operation⟩
                · exact absurd collides apart
              · intro settled n here
                obtain ⟨m, after, reports⟩ := settled n (here.concat operation)
                rcases reports.of_concat with before | ⟨_, reports⟩
                · exact ⟨m, after, before⟩
                · exact absurd reports silent

/-- **What the gauge shows.** After any sequence of operations on a new registry the gauge shows the
number of outstanding requests and, on top of it, how many were displaced since the last report by
others that were moved onto them. So it shows the number of outstanding requests exactly if every
such move was followed by a report. -/
theorem gauge_tells (operations : List Operation) :
    let registry := (empty.run operations).registry
    registry.gauge = registry.size + empty.leadAfter 0 operations ∧
      (registry.gauge = registry.size ↔ Settled operations) := by
  intro registry
  have start : empty.registry.Ahead 0 := rfl
  have ahead : registry.gauge = registry.size + empty.leadAfter 0 operations :=
    sound_empty.ahead_run start operations
  refine ⟨ahead, ?_⟩
  rw [← leadAfter_eq_zero_iff, ahead, Nat.add_eq_left]

/-- Of two requests one is moved onto the other. -/
example :
    let registry := (empty.run
      [.register 0 "a" (Duration.ofSeconds 1) default,
       .register 0 "b" (Duration.ofSeconds 1) default, .rekey "a" "b"]).registry
    registry.gauge = 2 ∧ registry.size = 1 :=
  ⟨rfl, rfl⟩

end Ledger

end Mediation
