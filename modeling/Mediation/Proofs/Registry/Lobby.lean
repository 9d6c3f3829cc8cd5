import Mediation.Proofs.Registry.Ledger
import Mediation.Proofs.Registry.Notifiers
import Mediation.Proofs.Runs

/-!
# Registries at which some wait

Any number of waits for registrations go on at one registry, while requests are registered, moved
and taken out. A `Lobby` has all of that, and one event of it (`Choice`) is what somebody does
between two waits: an operation on the registry, a wait that begins, a wait that goes on, or time
that passes. Events come in any order, and any wait may be let run at any time.

A wait that runs ends or goes on as `Registry.RunsTo` says, and every other event leaves the waits
that go on as they are (`Sound.step_cases`). What holds before every event is that a wait whose id
is registered was told, and that the notifiers in the table are tallied (`Sound`).
-/

set_option autoImplicit false

namespace Mediation

open Registry (Operation WaitState)

/-! ## Operations and those who wait -/

namespace Registry

variable {registry other : Registry} {token : Token} {id : String} {deadline now : Instant}

/-- Whoever waits for an id that is registered was told. -/
def Told (registry : Registry) : Prop :=
  ∀ wait ∈ registry.waits, registry.contains wait.id = true → wait.notified = true

theorem Told.heeds (told : registry.Told) (token : Token) :
    registry.Heeds (registry.waits.map (·.token)) token :=
  fun wait member _ => ⟨told wait member, fun _ => List.mem_map_of_mem member⟩

/-- Fewer requests. -/
theorem Told.fewer (told : registry.Told) (waits : other.waits = registry.waits)
    (subset : other.entries ⊆ registry.entries) : other.Told := by
  intro wait member there
  rw [waits] at member
  exact told wait member (contains_of_subset subset there)

theorem Told.of_tells (told : registry.Told) {placement : Placement}
    (tells : registry.Tells placement) : placement.registry.Told := by
  intro wait member there
  -- `Heeds` leaves one wait out, so another token than that of the wait at hand is chosen.
  have heeds : placement.registry.Heeds (registry.waits.map (·.token) ++ placement.woken)
      (wait.token + 1) :=
    tells.heeds (told.heeds _) (fun _ _ inside => List.mem_append_left _ inside)
      fun _ inside => List.mem_append_right _ inside
  exact (heeds wait member (Nat.ne_of_lt (Nat.lt_succ_self _))).1 there

/-- **A wait that runs** leaves the others told, and goes on only if its id is not registered. -/
theorem RunsTo.told {state : WaitState}
    (runs : registry.RunsTo now token id deadline (other, state)) (told : registry.Told) :
    other.Told := by
  have others : registry.Ran other token → ∀ wait ∈ other.waits, wait.token ≠ token →
      other.contains wait.id = true → wait.notified = true := fun ran wait member apart =>
    (ran.heeds (told.heeds token) (fun _ _ inside => inside) wait member apart).1
  intro wait member there
  have window : (wait.token, wait.id, wait.deadline) ∈ other.windows :=
    mem_windows.mpr ⟨wait, member, rfl, rfl, rfl⟩
  cases runs with
  | ended _ ran left =>
      rw [left] at window
      exact others ran wait member (mem_windowsBut.mp window).2 there
  | parked missing _ ran left _ =>
      rcases List.mem_cons.mp (left.mem_iff.mp window) with own | apart
      · obtain ⟨_, under, _⟩ : wait.token = token ∧ wait.id = id ∧ wait.deadline = deadline := by
          simpa using own
        rw [under, contains, find?, ran.entries] at there
        exact absurd (there.symm.trans missing) (by simp)
      · exact others ran wait member (mem_windowsBut.mp apart).2 there

/-- What an operation leaves of those who wait: they go on, the notifiers stay, and who waits for an
id that is registered has been told. -/
structure Minds (registry other : Registry) : Prop where
  windows : other.windows = registry.windows
  notifiers : other.notifiers = registry.notifiers
  told : registry.Told → other.Told

theorem minds_fewer {entries : List Pending} (gauge : Nat) (subset : entries ⊆ registry.entries) :
    registry.Minds { registry with entries, gauge } :=
  ⟨rfl, rfl, fun told => told.fewer rfl subset⟩

theorem Minds.refl (registry : Registry) : registry.Minds registry :=
  minds_fewer registry.gauge (List.Subset.refl _)

end Registry

/-- **Every operation** minds those who wait. -/
theorem Ledger.minds_step (ledger : Ledger) (operation : Operation) :
    ledger.registry.Minds (ledger.step operation).registry := by
  cases operation with
  | register now id timeout x =>
      simp only [Ledger.step]
      cases registers : ledger.registry.register? now id timeout x ledger.registered.length with
      | none => exact .refl _
      | some placement =>
          have tells := Registry.tells_register? registers
          simp only [Ledger.adopt_registry]
          refine ⟨tells.windows, ?_, fun told => told.of_tells tells⟩
          obtain ⟨deadline, _, rfl⟩ := Option.map_eq_some_iff.mp registers
          rfl
  | rekey source target =>
      have tells := ledger.registry.tells_rekey source target
      simp only [Ledger.step, Ledger.adopt_registry]
      refine ⟨tells.windows, ?_, fun told => told.of_tells tells⟩
      rcases ledger.registry.rekey_cases source target with ⟨_, same⟩ | ⟨entry, _, _, moved⟩
      · rw [same]
      · rw [moved]
        rfl
  | resolve id reply =>
      change ledger.registry.Minds (ledger.registry.resolve id reply).1
      rcases ledger.registry.resolve_cases id reply with ⟨_, same⟩ | ⟨entry, _, taken⟩
      · rw [same]
        exact .refl _
      · rw [taken]
        exact Registry.minds_fewer _ (ledger.registry.without_subset id)
  | remove id =>
      change ledger.registry.Minds (ledger.registry.remove id).1
      rcases ledger.registry.remove_cases id with ⟨_, same⟩ | ⟨entry, _, taken⟩
      · rw [same]
        exact .refl _
      · rw [taken]
        exact Registry.minds_fewer _ (ledger.registry.without_subset id)
  | sweep now =>
      change ledger.registry.Minds (ledger.registry.sweep now).1
      rcases ledger.registry.sweep_cases now with ⟨_, same⟩ | ⟨_, swept⟩
      · rw [same]
        exact .refl _
      · rw [swept]
        exact Registry.minds_fewer _ (List.filter_subset_self _)
  | drain => exact Registry.minds_fewer _ (List.nil_subset _)

/-! ## Lobbies -/

/-- A registry at which some wait for registrations. -/
structure Lobby where
  ledger : Ledger
  now : Instant
  /-- How many waits have begun; each has its number as its token. -/
  begun : Nat

namespace Lobby

/-- One event of a lobby. -/
inductive Choice
  | operate (operation : Operation)
  /-- A wait begins, for an id and as long as this at most. -/
  | wait (id : String) (most : Duration)
  /-- A wait goes on. -/
  | turn (token : Token)
  /-- The clock shows a later instant. -/
  | elapse (instant : Instant)

/-- Nothing yet. -/
def empty : Lobby := { ledger := Ledger.empty, now := 0, begun := 0 }

def registry (l : Lobby) : Registry := l.ledger.registry

def withRegistry (l : Lobby) (registry : Registry) : Lobby :=
  { l with ledger := { l.ledger with registry } }

def step (l : Lobby) : Choice → Lobby
  | .operate operation => { l with ledger := l.ledger.step operation }
  | .wait id most =>
    { l with begun := l.begun + 1 }.withRegistry (l.registry.beginWait l.now l.begun id most).1
  | .turn token => l.withRegistry (l.registry.continueWait l.now token).1
  | .elapse instant => { l with now := max l.now instant }

/-- How the wait stands that an event lets run. -/
def outcome? (l : Lobby) : Choice → Option (Token × WaitState)
  | .wait id most => some (l.begun, (l.registry.beginWait l.now l.begun id most).2)
  | .turn token => some (token, (l.registry.continueWait l.now token).2)
  | .operate _ | .elapse _ => none

/-- An event lets a wait for an id run until a deadline: it begins, or it goes on. -/
inductive Runs (l : Lobby) : Choice → Token → String → Instant → Prop
  | begins {id : String} {most : Duration} : ¬ l.registry.Overruns l.now id most →
      Runs l (.wait id most) l.begun id (min (l.now.plus most) Instant.lastTimer)
  | goesOn {token : Token} {id : String} {deadline : Instant} :
      (token, id, deadline) ∈ l.registry.windows → Runs l (.turn token) token id deadline

/-- A wait begins that is too long for the clock. -/
def Strays (l : Lobby) (choice : Choice) (id : String) : Prop :=
  ∃ most, choice = .wait id most ∧ l.registry.Overruns l.now id most

/-- A wait can run: it was told, or its timer has fired. -/
def CanRun (l : Lobby) (token : Token) : Prop :=
  ∃ wait ∈ l.registry.waits, wait.token = token ∧
    (wait.notified = true ∨ Instant.tick wait.deadline ≤ l.now)

/-- No wait can run, and no timer fires before an instant. -/
structure Rests (l : Lobby) (instant : Instant) : Prop where
  idle : ∀ token, ¬ l.CanRun token
  timers : ∀ window ∈ l.registry.windows, instant ≤ Instant.tick window.2.2

variable {l : Lobby} {choice : Choice} {token : Token} {id : String} {deadline : Instant}
  {stray : String → Prop}

/-- What holds between two events. Tokens tell the waits apart, and notifiers that nobody shares are
strays. -/
structure Sound (l : Lobby) (stray : String → Prop) : Prop where
  tokens : (l.registry.windows.map (·.1)).Nodup
  begun : ∀ window ∈ l.registry.windows, window.1 < l.begun
  told : l.registry.Told
  tallied : l.registry.Tallied stray

theorem sound_empty (stray : String → Prop) : empty.Sound stray where
  tokens := List.nodup_nil
  begun _ inside := nomatch inside
  told _ inside := nomatch inside
  tallied := Registry.tallied_empty stray

theorem Sound.mono {more : String → Prop} (sound : l.Sound stray)
    (sub : ∀ id, stray id → more id) : l.Sound more :=
  ⟨sound.tokens, sound.begun, sound.told, sound.tallied.mono sub⟩

/-- A wait that has not begun does not go on. -/
theorem Sound.fresh (sound : l.Sound stray) : ∀ window ∈ l.registry.windows, window.1 ≠ l.begun :=
  fun window inside => Nat.ne_of_lt (sound.begun window inside)

/-! ## Events -/

/-- **A wait that an event lets run** ends, or goes on until its deadline. -/
theorem Sound.runsTo (sound : l.Sound stray) (runs : l.Runs choice token id deadline) :
    ∃ state, l.outcome? choice = some (token, state) ∧
      l.registry.RunsTo l.now token id deadline ((l.step choice).registry, state) := by
  cases runs with
  | begins fits => exact ⟨_, rfl, Registry.runsTo_beginWait fits l.begun⟩
  | goesOn going =>
      exact ⟨_, rfl, Registry.continueWait_cases sound.tokens sound.told going l.now⟩

/-- An event lets no wait run: those that go on do so, and none ends. -/
structure Passes (l : Lobby) (choice : Choice) : Prop where
  windows : (l.step choice).registry.windows = l.registry.windows
  told : (l.step choice).registry.Told
  silent : ∀ token answer, l.outcome? choice ≠ some (token, .over answer)

/-- A wait that has ended, or has not begun, does not run. -/
theorem continueWait_of_idle (idle : ∀ window ∈ l.registry.windows, window.1 ≠ token) :
    l.registry.continueWait l.now token = (l.registry, .parked) := by
  have missing : l.registry.waits.find? (fun wait => decide (wait.token = token)) = none := by
    refine List.find?_eq_none.mpr fun wait member => ?_
    have apart := idle _ (Registry.mem_windows.mpr ⟨wait, member, rfl, rfl, rfl⟩)
    simpa using apart
  simp only [Registry.continueWait, missing]

/-- **Every event lets a wait run, or passes by those that go on.** -/
theorem Sound.step_cases (sound : l.Sound stray) (choice : Choice) :
    (∃ token id deadline, l.Runs choice token id deadline) ∨ l.Passes choice := by
  cases choice with
  | operate operation =>
      have minds := l.ledger.minds_step operation
      exact .inr ⟨minds.windows, minds.told sound.told, fun _ _ ends => nomatch ends⟩
  | wait id most =>
      by_cases overruns : l.registry.Overruns l.now id most
      · right
        have same := l.registry.joinNotifier_rest id
        have begins : l.registry.beginWait l.now l.begun id most = (_, .beyondClock) :=
          Registry.beginWait_of_overruns overruns
        have windows : (l.step (.wait id most)).registry =
            (l.registry.joinNotifier id).releaseNotifier id := congrArg Prod.fst begins
        refine ⟨?_, ?_, fun token answer ends => ?_⟩
        · rw [windows]
          exact congrArg (List.map _) same.2
        · rw [windows]
          exact sound.told.fewer same.2 (by rw [← same.1]; exact List.Subset.refl _)
        · simp only [outcome?, begins, Option.some_inj, Prod.mk.injEq] at ends
          nomatch ends.2
      · exact .inl ⟨_, _, _, .begins overruns⟩
  | turn token =>
      by_cases going : ∃ window ∈ l.registry.windows, window.1 = token
      · obtain ⟨⟨_, id, deadline⟩, inside, rfl⟩ := going
        exact .inl ⟨_, id, deadline, .goesOn inside⟩
      · have still : l.registry.continueWait l.now token = (l.registry, .parked) :=
          continueWait_of_idle fun window inside same => going ⟨window, inside, same⟩
        have registry : (l.step (.turn token)).registry = l.registry := congrArg Prod.fst still
        refine .inr ⟨by rw [registry], by rw [registry]; exact sound.told, fun _ _ ends => ?_⟩
        simp only [outcome?, still, Option.some_inj, Prod.mk.injEq] at ends
        nomatch ends.2
  | elapse instant => exact .inr ⟨rfl, sound.told, fun _ _ ends => nomatch ends⟩

/-- **Who goes on behind an event** did so before it, or runs with it and has time left. -/
theorem Sound.mem_windows_step (sound : l.Sound stray) {window : Token × String × Instant}
    (inside : window ∈ (l.step choice).registry.windows) :
    window ∈ l.registry.windows ∨
      l.Runs choice window.1 window.2.1 window.2.2 ∧ l.now < window.2.2 := by
  rcases sound.step_cases choice with ⟨token, id, deadline, runs⟩ | passes
  · obtain ⟨state, _, goes⟩ := sound.runsTo runs
    cases goes with
    | ended _ _ left =>
        rw [left] at inside
        exact .inl (Registry.mem_windowsBut.mp inside).1
    | parked _ early _ left _ =>
        rcases List.mem_cons.mp (left.mem_iff.mp inside) with rfl | other
        · exact .inr ⟨runs, early⟩
        · exact .inl (Registry.mem_windowsBut.mp other).1
  · rw [passes.windows] at inside
    exact .inl inside

/-- An event keeps the notifiers tallied, and a wait that is too long may leave a stray. -/
theorem Sound.tallied_step (sound : l.Sound stray) (choice : Choice) :
    (l.step choice).registry.Tallied fun id => stray id ∨ l.Strays choice id := by
  cases choice with
  | operate operation =>
      have minds := l.ledger.minds_step operation
      exact Registry.Shares.mono (sound.tallied.of_same minds.windows minds.notifiers)
        fun _ => .inl
  | wait id most =>
      refine Registry.Shares.mono (sound.tallied.beginWait sound.fresh most) fun name => ?_
      exact Or.imp_right fun ⟨here, overruns⟩ => ⟨most, here ▸ rfl, here ▸ overruns⟩
  | turn token =>
      exact Registry.Shares.mono (sound.tallied.continueWait sound.tokens l.now token)
        fun _ => .inl
  | elapse instant => exact Registry.Shares.mono sound.tallied fun _ => .inl

theorem begun_step (l : Lobby) (choice : Choice) : l.begun ≤ (l.step choice).begun := by
  cases choice with
  | wait id most => exact Nat.le_succ _
  | _ => exact Nat.le_refl _

theorem now_step (still : ∀ instant, choice ≠ .elapse instant) : (l.step choice).now = l.now := by
  cases choice with
  | elapse instant => exact absurd rfl (still instant)
  | _ => rfl

/-- Whoever runs has begun. -/
theorem Runs.lt_begun (runs : l.Runs choice token id deadline) (sound : l.Sound stray) :
    token < (l.step choice).begun := by
  cases runs with
  | begins _ => exact Nat.lt_succ_self _
  | goesOn going => exact sound.begun _ going

/-- Time does not pass while a wait runs. -/
theorem Runs.now (runs : l.Runs choice token id deadline) : (l.step choice).now = l.now := by
  cases runs with
  | begins _ => rfl
  | goesOn _ => rfl

/-- **Every event keeps a lobby sound.** -/
theorem Sound.step (sound : l.Sound stray) (choice : Choice) :
    (l.step choice).Sound fun id => stray id ∨ l.Strays choice id := by
  have tallied := sound.tallied_step choice
  have begun : ∀ window ∈ (l.step choice).registry.windows, window.1 < (l.step choice).begun := by
    intro window inside
    rcases sound.mem_windows_step inside with old | ⟨runs, _⟩
    · exact Nat.lt_of_lt_of_le (sound.begun window old) (l.begun_step choice)
    · exact runs.lt_begun sound
  rcases sound.step_cases choice with ⟨token, id, deadline, runs⟩ | passes
  · obtain ⟨state, _, goes⟩ := sound.runsTo runs
    have others : ((l.registry.windowsBut token).map (·.1)).Nodup :=
      sound.tokens.sublist (List.filter_sublist.map _)
    have told := goes.told sound.told
    cases goes with
    | ended _ _ left => exact ⟨left ▸ others, begun, told, tallied⟩
    | parked _ _ _ left _ =>
        refine ⟨?_, begun, told, tallied⟩
        rw [(left.map _).nodup_iff, List.map_cons, List.nodup_cons]
        refine ⟨fun again => ?_, others⟩
        obtain ⟨window, inside, same⟩ := List.mem_map.mp again
        exact (Registry.mem_windowsBut.mp inside).2 same
  · exact ⟨passes.windows ▸ sound.tokens, begun, passes.told, tallied⟩

/-- No wait is behind its timer. -/
def Punctual (l : Lobby) : Prop :=
  ∀ window ∈ l.registry.windows, l.now ≤ Instant.tick window.2.2

/-- **No wait misses its timer** by an event, if time passes only while all rest. -/
theorem Punctual.step (punctual : l.Punctual) (sound : l.Sound stray)
    (rests : ∀ instant, choice = .elapse instant → l.Rests instant) : (l.step choice).Punctual := by
  intro window inside
  rcases sound.mem_windows_step inside with old | ⟨runs, early⟩
  · by_cases elapses : ∃ instant, choice = .elapse instant
    · obtain ⟨instant, rfl⟩ := elapses
      exact Nat.max_le.mpr ⟨punctual window old, (rests instant rfl).timers window old⟩
    · rw [now_step fun instant same => elapses ⟨instant, same⟩]
      exact punctual window old
  · rw [runs.now]
    exact Nat.le_trans (Nat.le_of_lt early) (Instant.le_tick window.2.2)

/-- A wait whose id is registered can run. -/
theorem Sound.canRun (sound : l.Sound stray) (going : (token, id, deadline) ∈ l.registry.windows)
    (there : l.registry.contains id = true) : l.CanRun token := by
  obtain ⟨wait, member, rfl, rfl, _⟩ := Registry.mem_windows.mp going
  exact ⟨wait, member, rfl, .inl (sound.told wait member there)⟩

end Lobby

end Mediation
