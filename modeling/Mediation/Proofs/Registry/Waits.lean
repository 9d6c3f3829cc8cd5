import Mediation.Proofs.Registry.Entries

/-!
# Waits for registrations

A wait has a token, an id and a deadline, which never change while it goes on (`windows`). Whoever
puts a request under an id notifies the waits for it, so a wait whose id is registered has been
notified, and its task is woken (`Heeds`). A wait that runs ends if its id is registered or its
deadline has come, and otherwise goes on with the deadline it had (`beginWait_cases`,
`continueWait_cases`).
-/

set_option autoImplicit false

namespace Mediation.Registry

variable {registry other : Registry} {token : Token} {id : String} {deadline now : Instant}
  {ready later : List Token}

/-- The waits, each with its id and its deadline. -/
def windows (registry : Registry) : List (Token × String × Instant) :=
  registry.waits.map fun wait => (wait.token, wait.id, wait.deadline)

/-- The waits of all others. -/
def windowsBut (registry : Registry) (token : Token) : List (Token × String × Instant) :=
  registry.windows.filter fun window => window.1 ≠ token

theorem mem_windowsBut {window : Token × String × Instant} :
    window ∈ registry.windowsBut token ↔ window ∈ registry.windows ∧ window.1 ≠ token := by
  simp [windowsBut]

theorem mem_windows :
    (token, id, deadline) ∈ registry.windows ↔
      ∃ wait ∈ registry.waits, wait.token = token ∧ wait.id = id ∧ wait.deadline = deadline := by
  simp [windows]

/-- Of all waits but one: those whose id is registered were notified, and those that were notified
can run. -/
def Heeds (registry : Registry) (ready : List Token) (token : Token) : Prop :=
  ∀ wait ∈ registry.waits, wait.token ≠ token →
    (registry.contains wait.id = true → wait.notified = true) ∧
      (wait.notified = true → wait.token ∈ ready)

theorem contains_iff :
    registry.contains id = true ↔ ∃ entry ∈ registry.entries, entry.correlationId = id := by
  simp [contains, find?, List.find?_isSome]

theorem contains_eq_false_iff : registry.contains id = false ↔ registry.find? id = none := by
  simp [contains]

theorem contains_of_subset (subset : other.entries ⊆ registry.entries)
    (there : other.contains id = true) : registry.contains id = true := by
  obtain ⟨entry, inside, under⟩ := contains_iff.mp there
  exact contains_iff.mpr ⟨entry, subset inside, under⟩

/-- Fewer requests and more tasks that can run. -/
theorem Heeds.mono (heeds : registry.Heeds ready token) (waits : other.waits = registry.waits)
    (subset : other.entries ⊆ registry.entries)
    (more : ∀ task, task ≠ token → task ∈ ready → task ∈ later) : other.Heeds later token := by
  intro wait member apart
  rw [waits] at member
  obtain ⟨told, woken⟩ := heeds wait member apart
  exact ⟨fun there => told (contains_of_subset subset there),
    fun notified => more _ apart (woken notified)⟩

/-! ## Putting requests under ids -/

theorem windows_notify (registry : Registry) (id : String) :
    (registry.notify id).windows = registry.windows := by
  simp only [windows, notify, List.map_map]
  refine List.map_congr_left fun wait _ => ?_
  simp only [Function.comp_apply]
  split <;> rfl

theorem windows_place (registry : Registry) (entry : Pending) :
    (registry.place entry).registry.windows = registry.windows :=
  windows_notify _ entry.correlationId

/-- **Whoever puts a request under an id tells the waits for it.** -/
theorem Heeds.place (heeds : registry.Heeds ready token) (entry : Pending)
    (more : ∀ task, task ≠ token → task ∈ ready → task ∈ later)
    (woken : ∀ task ∈ (registry.place entry).woken, task ∈ later) :
    (registry.place entry).registry.Heeds later token := by
  intro told member apart
  obtain ⟨wait, inside, rfl⟩ := List.mem_map.mp
    (show told ∈ registry.waits.map fun wait =>
      if wait.id = entry.correlationId then { wait with notified := true } else wait from member)
  by_cases here : wait.id = entry.correlationId
  · rw [if_pos here] at apart ⊢
    refine ⟨fun _ => rfl, fun _ => ?_⟩
    cases before : wait.notified with
    | true => exact more _ apart ((heeds wait inside apart).2 before)
    | false =>
        refine woken _ ?_
        refine List.mem_map.mpr ⟨wait, List.mem_filter.mpr ⟨inside, ?_⟩, rfl⟩
        simp [here, before]
  · rw [if_neg here] at apart ⊢
    obtain ⟨old, running⟩ := heeds wait inside apart
    refine ⟨fun there => old ?_, fun notified => more _ apart (running notified)⟩
    obtain ⟨found, among, under⟩ := contains_iff.mp there
    rw [place_entries] at among
    rcases List.mem_append.mp among with kept | new
    · exact contains_iff.mpr ⟨found, (mem_without.mp kept).1, under⟩
    · rw [List.mem_singleton.mp new] at under
      exact absurd under.symm here

/-- What registering or moving does to the waits: they go on, and those for the id are told. -/
structure Tells (registry : Registry) (placement : Placement) : Prop where
  windows : placement.registry.windows = registry.windows
  heeds : ∀ {ready later : List Token} {token : Token}, registry.Heeds ready token →
    (∀ task, task ≠ token → task ∈ ready → task ∈ later) →
    (∀ task ∈ placement.woken, task ∈ later) → placement.registry.Heeds later token

theorem tells_register? {timeout : Duration} {x : Exchange} {ticket : Ticket}
    {placement : Placement}
    (registers : registry.register? now id timeout x ticket = some placement) :
    registry.Tells placement := by
  unfold register? at registers
  cases fits : now.after? timeout with
  | none => simp [fits] at registers
  | some deadline =>
      rw [fits, Option.map_some, Option.some_inj] at registers
      subst registers
      let entry : Pending := ⟨id, none, now, deadline, timeout, x, ticket⟩
      exact ⟨registry.windows_place entry, fun heeds more woken => heeds.place entry more woken⟩

theorem tells_rekey (registry : Registry) (source target : String) :
    registry.Tells (registry.rekey source target).1 := by
  rcases registry.rekey_cases source target with ⟨_, unchanged⟩ | ⟨entry, _, _, moved⟩
  · rw [unchanged]
    exact ⟨rfl, fun heeds more _ => heeds.mono rfl (List.Subset.refl _) more⟩
  · rw [moved]
    refine ⟨windows_place _ _, fun heeds more woken => ?_⟩
    have fewer : (registry.without source).Heeds _ _ :=
      heeds.mono rfl (registry.without_subset source) fun _ _ inside => inside
    exact fewer.place _ more woken

/-! ## Running waits -/

/-- The instant at which a wait of at most `most` ends that begins at `now`, if there is one. -/
def windowEnd? (now : Instant) (most : Duration) : Option Instant :=
  (now.after? most).bind Instant.timer?

/-- **A window is as long as the wait**, up to the last instant at which a timer fires. -/
theorem windowEnd?_eq {most : Duration} (ends : windowEnd? now most = some deadline) :
    deadline = min (now.plus most) Instant.lastTimer := by
  obtain ⟨sum, fits, timed⟩ := Option.bind_eq_some_iff.mp ends
  obtain ⟨_, same⟩ := Option.ite_none_right_eq_some.mp timed
  rw [← Instant.after?_eq fits]
  exact (Option.some_inj.mp same).symm

/-- A wait has run, and no other. -/
structure Ran (registry other : Registry) (token : Token) : Prop where
  entries : other.entries = registry.entries
  waits : other.waits.filter (fun wait => wait.token ≠ token) =
    registry.waits.filter fun wait => wait.token ≠ token

theorem Ran.windowsBut (ran : registry.Ran other token) :
    other.windowsBut token = registry.windowsBut token := by
  have same := congrArg (List.map fun wait : Wait => (wait.token, wait.id, wait.deadline)) ran.waits
  simpa [Registry.windowsBut, windows, List.filter_map, Function.comp_def] using same

theorem Ran.heeds (ran : registry.Ran other token) (heeds : registry.Heeds ready token)
    (more : ∀ task, task ≠ token → task ∈ ready → task ∈ later) : other.Heeds later token := by
  intro wait member apart
  have among : wait ∈ other.waits.filter fun wait => wait.token ≠ token :=
    List.mem_filter.mpr ⟨member, by simpa using apart⟩
  rw [ran.waits] at among
  obtain ⟨told, woken⟩ := heeds wait (List.mem_filter.mp among).1 apart
  refine ⟨fun there => told (contains_of_subset ?_ there), fun notified =>
    more _ apart (woken notified)⟩
  rw [ran.entries]
  exact List.Subset.refl _

/-- How a wait for an id until a deadline comes out of its run. -/
inductive RunsTo (registry : Registry) (now : Instant) (token : Token) (id : String)
    (deadline : Instant) : Registry × WaitState → Prop
  /-- The id is registered, or the deadline has come. -/
  | ended {other : Registry} :
      registry.contains id = true ∨ deadline ≤ now → registry.Ran other token →
      other.windows = registry.windowsBut token →
        RunsTo registry now token id deadline (other, .over (registry.contains id))
  /-- It goes on until the same deadline, and has been told nothing. -/
  | parked {other : Registry} :
      registry.contains id = false → now < deadline → registry.Ran other token →
      other.windows.Perm ((token, id, deadline) :: registry.windowsBut token) →
      (∀ wait ∈ other.waits, wait.token = token → wait.notified = false) →
        RunsTo registry now token id deadline (other, .parked)

theorem runsTo_endWait (ends : registry.contains id = true ∨ deadline ≤ now) :
    registry.RunsTo now token id deadline (registry.endWait token id) := by
  refine .ended ends ⟨rfl, ?_⟩ ?_
  · change (registry.waits.filter _).filter _ = _
    rw [List.filter_filter]
    simp
  · change (registry.waits.filter _).map _ = _
    simp [windowsBut, windows, List.filter_map, Function.comp_def]

theorem runsTo_listen (registry : Registry) (now : Instant) (token : Token) (id : String)
    (deadline : Instant) :
    registry.RunsTo now token id deadline (registry.listen now token id deadline) := by
  unfold listen
  split
  · next ends => exact runsTo_endWait (by simpa using ends)
  · next stays =>
      obtain ⟨missing, early⟩ : registry.contains id = false ∧ now < deadline := by
        simpa using stays
      refine .parked missing early ⟨rfl, ?_⟩ ?_ ?_
      · change (registry.waits.filter _ ++ _).filter _ = _
        rw [List.filter_append, List.filter_filter]
        simp
      · change ((registry.waits.filter _ ++ _).map _).Perm _
        rw [List.map_append]
        refine (List.perm_append_singleton _ _).trans (List.Perm.cons _ ?_)
        rw [windowsBut, windows, List.filter_map]
        exact .refl _
      · intro wait member own
        rcases List.mem_append.mp member with old | new
        · have apart := (List.mem_filter.mp old).2
          simp [own] at apart
        · rw [List.mem_singleton.mp new]

/-! ### Waits that begin -/

/-- Joining a notifier changes neither the requests nor the waits. -/
theorem joinNotifier_rest (registry : Registry) (id : String) :
    (registry.joinNotifier id).entries = registry.entries ∧
      (registry.joinNotifier id).waits = registry.waits := by
  unfold joinNotifier
  split <;> exact ⟨rfl, rfl⟩

theorem contains_joinNotifier (registry : Registry) (id name : String) :
    (registry.joinNotifier id).contains name = registry.contains name := by
  rw [contains, contains, find?, find?, (registry.joinNotifier_rest id).1]

/-- A wait runs the same whoever shares its notifier. -/
theorem RunsTo.of_joinNotifier {name : String} {outcome : Registry × WaitState}
    (runs : (registry.joinNotifier name).RunsTo now token id deadline outcome) :
    registry.RunsTo now token id deadline outcome := by
  obtain ⟨entries, waits⟩ := registry.joinNotifier_rest name
  have windows : (registry.joinNotifier name).windowsBut token = registry.windowsBut token := by
    rw [windowsBut, windowsBut, Registry.windows, Registry.windows, waits]
  cases runs with
  | ended ends ran left =>
      rw [contains_joinNotifier] at ends ⊢
      rw [windows] at left
      exact .ended ends ⟨ran.entries.trans entries, by rw [ran.waits, waits]⟩ left
  | parked free early ran left quiet =>
      rw [contains_joinNotifier] at free
      rw [windows] at left
      exact .parked free early ⟨ran.entries.trans entries, by rw [ran.waits, waits]⟩ left quiet

/-- A wait that begins is too long for the clock: there is no instant for its deadline, or it has to
wait and there is no timer for it. -/
def Overruns (registry : Registry) (now : Instant) (id : String) (most : Duration) : Prop :=
  now.after? most = none ∨ registry.contains id = false ∧ windowEnd? now most = none

instance (registry : Registry) (now : Instant) (id : String) (most : Duration) :
    Decidable (registry.Overruns now id most) :=
  inferInstanceAs (Decidable (_ ∨ _))

-- The ends are put together by lemmas: reducing them makes the kernel count the clock's limits.
theorem beginWait_of_overruns {most : Duration} (overruns : registry.Overruns now id most) :
    registry.beginWait now token id most =
      ((registry.joinNotifier id).releaseNotifier id, .beyondClock) := by
  unfold beginWait
  cases fits : now.after? most with
  | none => rfl
  | some sum =>
      rcases overruns with unfit | ⟨missing, untimed⟩
      · rw [fits] at unfit
        nomatch unfit
      · rw [windowEnd?, fits, Option.bind_some] at untimed
        simp only [missing, Bool.false_eq_true, if_false, untimed]

theorem beginWait_of_fits {most : Duration} (fits : ¬ registry.Overruns now id most) :
    registry.beginWait now token id most = (registry.joinNotifier id).listen now token id
      (min (now.plus most) Instant.lastTimer) := by
  obtain ⟨bounded, timed⟩ := not_or.mp fits
  obtain ⟨sum, after⟩ := Option.ne_none_iff_exists'.mp bounded
  unfold beginWait
  rw [after]
  dsimp only
  split
  · next there => rw [listen, contains_joinNotifier, there, Bool.true_or, if_pos rfl]
  · next missing =>
      have ends : windowEnd? now most ≠ none := fun none_left =>
        timed ⟨by simpa using missing, none_left⟩
      obtain ⟨due, closes⟩ := Option.ne_none_iff_exists'.mp ends
      rw [← windowEnd?_eq closes]
      rw [windowEnd?, after, Option.bind_some] at closes
      rw [closes]

/-- **A wait that begins**, and is not too long, runs until its deadline. -/
theorem runsTo_beginWait {most : Duration} (fits : ¬ registry.Overruns now id most)
    (token : Token) :
    registry.RunsTo now token id (min (now.plus most) Instant.lastTimer)
      (registry.beginWait now token id most) := by
  rw [beginWait_of_fits fits]
  exact (runsTo_listen _ now token id _).of_joinNotifier

/-- **A wait that begins** for an id that is not registered. -/
theorem beginWait_cases (registry : Registry) (now : Instant) (token : Token) {id : String}
    (most : Duration) (missing : registry.contains id = false) :
    (∃ deadline, windowEnd? now most = some deadline ∧
        registry.RunsTo now token id deadline (registry.beginWait now token id most)) ∨
      windowEnd? now most = none ∧ ∃ other, registry.beginWait now token id most =
        (other, .beyondClock) ∧ other.entries = registry.entries ∧
          other.waits = registry.waits := by
  cases closes : windowEnd? now most with
  | none =>
      exact .inr ⟨rfl, _, beginWait_of_overruns (.inr ⟨missing, closes⟩),
        registry.joinNotifier_rest id⟩
  | some deadline =>
      have fits : ¬ registry.Overruns now id most := by
        rintro (unfit | ⟨_, untimed⟩)
        · rw [windowEnd?, unfit] at closes
          nomatch closes
        · nomatch untimed.symm.trans closes
      refine .inl ⟨deadline, rfl, ?_⟩
      rw [windowEnd?_eq closes]
      exact runsTo_beginWait fits token

/-! ### Waits that go on -/

/-- A wait that goes on is one of the windows, and the others are the rest. -/
theorem perm_windows (tokens : (registry.windows.map (·.1)).Nodup)
    (going : (token, id, deadline) ∈ registry.windows) :
    registry.windows.Perm ((token, id, deadline) :: registry.windowsBut token) := by
  have split := List.filter_append_perm
    (fun window : Token × String × Instant => decide (window.1 = token)) registry.windows
  have own : registry.windows.filter (fun window => decide (window.1 = token)) =
      [(token, id, deadline)] := by
    refine List.perm_singleton.mp ?_
    have distinct : registry.windows.Nodup := List.Nodup.of_map _ tokens
    refine (List.perm_ext_iff_of_nodup (distinct.filter _)
      (List.nodup_singleton _)).mpr fun window => ?_
    rw [List.mem_filter, List.mem_singleton, decide_eq_true_iff]
    constructor
    · rintro ⟨inside, same⟩
      exact List.inj_on_of_nodup_map tokens inside going same
    · rintro rfl
      exact ⟨going, rfl⟩
  have rest : registry.windows.filter (fun window => !decide (window.1 = token)) =
      registry.windowsBut token := by
    simp [windowsBut]
  rw [own, rest] at split
  exact split.symm

/-- **A wait that goes on.** -/
theorem continueWait_cases (tokens : (registry.windows.map (·.1)).Nodup)
    (told : ∀ wait ∈ registry.waits, registry.contains wait.id = true → wait.notified = true)
    (going : (token, id, deadline) ∈ registry.windows) (now : Instant) :
    registry.RunsTo now token id deadline (registry.continueWait now token) := by
  obtain ⟨wait, member, rfl, rfl, rfl⟩ := mem_windows.mp going
  have only : ∀ other ∈ registry.waits, other.token = wait.token → other = wait := by
    rw [windows, List.map_map] at tokens
    exact fun other inside same => List.inj_on_of_nodup_map tokens inside member same
  have found : registry.waits.find? (fun other => other.token = wait.token) = some wait := by
    cases looked : registry.waits.find? (fun other => decide (other.token = wait.token)) with
    | none => exact absurd (List.find?_eq_none.mp looked wait member) (by simp)
    | some other =>
        have same : other.token = wait.token := by simpa using List.find?_some looked
        rw [only other (List.mem_of_find?_eq_some looked) same]
  simp only [continueWait, found]
  split
  · exact runsTo_listen registry now wait.token wait.id wait.deadline
  · next quiet =>
      have missing : registry.contains wait.id = false := by
        cases there : registry.contains wait.id with
        | false => rfl
        | true => exact absurd (told wait member there) quiet
      split
      · next late => exact runsTo_endWait (.inr late)
      · next early =>
          refine .parked missing (Nat.lt_of_not_le early) ⟨rfl, rfl⟩ ?_ ?_
          · exact perm_windows tokens going
          · intro other inside own
            rw [only other inside own]
            simpa using quiet

end Mediation.Registry
