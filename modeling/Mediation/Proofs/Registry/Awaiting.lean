import Mathlib.Data.Nat.Init
import Mediation.Proofs.Registry.Lobby

/-!
# Waits for registrations clean up and miss nothing

A run of a lobby is any list of events. A wait has a deadline, which is fixed when it begins. It
ends the first time it runs while its id is registered, or once its timer has fired, and says
whether its id is registered then (`RunsAt.fares`). As long as it goes on the table has the notifier
of its id, and it has been the same one since before the wait began (`MadeAt.le_of_begins`). So
nobody who waits is missed when the id is registered, and behind the last wait the table is empty
(`registrations_awaited`).

If its id is not registered, a wait does not always end at its deadline: its timer fires at the next
whole millisecond (`outlasts_deadline`). A wait that is too long for the clock does not get to its
end, and may leave the notifier of its id in the table (`Strayed`).
-/

set_option autoImplicit false

namespace Mediation.Lobby

variable {choices : List Choice} {choice : Choice} {token : Token} {id : String}
  {deadline : Instant} {answer : Bool} {most : Duration} {n m k : Nat}

/-! ## Runs -/

/-- The lobby before the event of this number, from nothing. -/
def before (choices : List Choice) (n : Nat) : Lobby := (choices.take n).foldl step empty

/-- A wait for an id until a deadline goes on before the `n`-th event of a run. -/
def Waits (choices : List Choice) (n : Nat) (token : Token) (id : String) (deadline : Instant) :
    Prop :=
  (token, id, deadline) ∈ (before choices n).registry.windows

/-- The `n`-th event of a run lets a wait for an id run until a deadline. -/
def RunsAt (choices : List Choice) (n : Nat) (token : Token) (id : String) (deadline : Instant) :
    Prop :=
  ∃ choice, choices[n]? = some choice ∧ (before choices n).Runs choice token id deadline

/-- With the `n`-th event of a run a wait ends and says whether its id is registered. -/
def EndsAt (choices : List Choice) (n : Nat) (token : Token) (answer : Bool) : Prop :=
  ∃ choice, choices[n]? = some choice ∧
    (before choices n).outcome? choice = some (token, .over answer)

/-- With the `n`-th event of a run a wait begins that is not too long for the clock. -/
structure BeginsAt (choices : List Choice) (n : Nat) (token : Token) (id : String)
    (most : Duration) : Prop where
  choice : choices[n]? = some (.wait id most)
  token : token = (before choices n).begun
  fits : ¬ (before choices n).registry.Overruns (before choices n).now id most

/-- The deadline of a wait that begins with the `n`-th event of a run. -/
def deadlineAt (choices : List Choice) (n : Nat) (most : Duration) : Instant :=
  min ((before choices n).now.plus most) Instant.lastTimer

/-- Before the `n`-th event of a run a wait for an id has begun that was too long for the clock. -/
def Strayed (choices : List Choice) (n : Nat) (id : String) : Prop :=
  ∃ m < n, ∃ choice, choices[m]? = some choice ∧ (before choices m).Strays choice id

/-- The clock goes on only when no wait can run, and stops at every timer. -/
def Prompt (choices : List Choice) : Prop :=
  ∀ n instant, choices[n]? = some (.elapse instant) → (before choices n).Rests instant

/-- The notifier that the table has for an id before the `m`-th event of a run was made by the
`n`-th one, and has been there since. -/
structure MadeAt (choices : List Choice) (n m : Nat) (id : String) : Prop where
  earlier : n < m
  absent : (before choices n).registry.hasNotifier id = false
  since : ∀ j, n < j → j ≤ m → (before choices j).registry.hasNotifier id = true

theorem before_succ (there : choices[n]? = some choice) :
    before choices (n + 1) = (before choices n).step choice :=
  foldl_take_succ there

theorem before_succ_of_none (ended : choices[n]? = none) :
    before choices (n + 1) = before choices n :=
  foldl_take_succ_of_none ended

theorem Strayed.succ (strayed : Strayed choices n id) : Strayed choices (n + 1) id := by
  obtain ⟨m, earlier, happens⟩ := strayed
  exact ⟨m, Nat.lt_succ_of_lt earlier, happens⟩

/-- **A lobby is sound before every event.** -/
theorem sound_before (choices : List Choice) (n : Nat) :
    (before choices n).Sound (Strayed choices n) := by
  induction n with
  | zero => exact sound_empty _
  | succ n ih =>
      cases there : choices[n]? with
      | none =>
          rw [before_succ_of_none there]
          exact ih.mono fun _ => Strayed.succ
      | some choice =>
          rw [before_succ there]
          refine (ih.step choice).mono fun id => ?_
          rintro (before | strays)
          · exact before.succ
          · exact ⟨n, Nat.lt_succ_self n, choice, there, strays⟩

theorem punctual_before (prompt : Prompt choices) (n : Nat) : (before choices n).Punctual := by
  have start : empty.Punctual := fun _ inside => nomatch inside
  refine foldl_take_induction start (fun n choice there punctual => ?_) n
  exact punctual.step (sound_before choices n) fun instant elapses =>
    prompt n instant (elapses ▸ there)

/-! ## Ends -/

/-- A wait has begun and does not go on. -/
structure Gone (l : Lobby) (token : Token) : Prop where
  begun : token < l.begun
  window : ∀ window ∈ l.registry.windows, window.1 ≠ token

/-- Who is gone does not run. -/
theorem Gone.not_runs {l : Lobby} (gone : l.Gone token) : ¬ l.Runs choice token id deadline := by
  intro runs
  cases runs with
  | begins _ => exact Nat.lt_irrefl _ gone.begun
  | goesOn going => exact gone.window _ going rfl

theorem Gone.step {l : Lobby} {stray : String → Prop} (gone : l.Gone token)
    (sound : l.Sound stray) (choice : Choice) : (l.step choice).Gone token := by
  refine ⟨Nat.lt_of_lt_of_le gone.begun (l.begun_step choice), fun window inside => ?_⟩
  rcases sound.mem_windows_step inside with old | ⟨runs, _⟩
  · exact gone.window window old
  · rintro rfl
    exact gone.not_runs runs

theorem Gone.before (gone : (before choices n).Gone token) (later : n ≤ m) :
    (before choices m).Gone token := by
  induction m, later using Nat.le_induction with
  | base => exact gone
  | succ m _ ih =>
      cases there : choices[m]? with
      | none => rwa [before_succ_of_none there]
      | some choice =>
          rw [before_succ there]
          exact ih.step (sound_before choices m) choice

/-- How a wait fares that an event lets run. -/
inductive RunsAt.Fares (choices : List Choice) (n : Nat) (token : Token) (id : String)
    (deadline : Instant) : Prop
  /-- Its id is registered, or its time is over: it ends and is gone. -/
  | ends (due : (before choices n).registry.contains id = true ∨ deadline ≤ (before choices n).now)
      (ends : EndsAt choices n token ((before choices n).registry.contains id))
      (gone : (before choices (n + 1)).Gone token)
  /-- It goes on. -/
  | goesOn (missing : (before choices n).registry.contains id = false)
      (early : (before choices n).now < deadline) (going : Waits choices (n + 1) token id deadline)
      (silent : ∀ answer, ¬ EndsAt choices n token answer)

/-- **A wait that runs ends if its id is registered or its time is over, and goes on otherwise.** -/
theorem RunsAt.fares (runs : RunsAt choices n token id deadline) :
    RunsAt.Fares choices n token id deadline := by
  obtain ⟨choice, there, runs⟩ := runs
  have sound := sound_before choices n
  have began := runs.lt_begun sound
  obtain ⟨state, outcome, goes⟩ := sound.runsTo runs
  have next := before_succ there
  generalize later : (before choices n).step choice = after at goes began next
  cases goes with
  | ended due ran left =>
      refine .ends due ⟨choice, there, outcome⟩ (next ▸ ⟨began, fun window inside => ?_⟩)
      rw [left] at inside
      exact (Registry.mem_windowsBut.mp inside).2
  | parked missing early ran left _ =>
      refine .goesOn missing early ?_ ?_
      · rw [Waits, next]
        exact left.mem_iff.mpr List.mem_cons_self
      · rintro answer ⟨again, here, ends⟩
        obtain rfl := Option.some.inj (there.symm.trans here)
        have same := outcome.symm.trans ends
        simp at same

/-- The turn of a wait changes no registration. -/
theorem RunsAt.contains_succ (runs : RunsAt choices n token id deadline) :
    (before choices (n + 1)).registry.contains id = (before choices n).registry.contains id := by
  obtain ⟨choice, there, runs⟩ := runs
  obtain ⟨state, _, goes⟩ := (sound_before choices n).runsTo runs
  have entries : (before choices (n + 1)).registry.entries =
      (before choices n).registry.entries := by
    rw [before_succ there]
    cases goes with
    | ended _ ran _ => exact ran.entries
    | parked _ _ ran _ _ => exact ran.entries
  rw [Registry.contains, Registry.contains, Registry.find?, Registry.find?, entries]

/-- Only a wait that runs ends. -/
theorem EndsAt.runsAt (ends : EndsAt choices n token answer) :
    ∃ id deadline, RunsAt choices n token id deadline := by
  obtain ⟨choice, there, ends⟩ := ends
  have sound := sound_before choices n
  rcases sound.step_cases choice with ⟨runner, id, deadline, runs⟩ | passes
  · obtain ⟨state, outcome, _⟩ := sound.runsTo runs
    have same := outcome.symm.trans ends
    simp only [Option.some_inj, Prod.mk.injEq] at same
    obtain ⟨rfl, _⟩ := same
    exact ⟨id, deadline, choice, there, runs⟩
  · exact absurd ends (passes.silent token answer)

/-- A wait says one thing when it ends. -/
theorem EndsAt.unique {other : Bool} (ends : EndsAt choices n token answer)
    (again : EndsAt choices n token other) : answer = other := by
  obtain ⟨choice, there, outcome⟩ := ends
  obtain ⟨_, here, same⟩ := again
  obtain rfl := Option.some.inj (there.symm.trans here)
  simpa using outcome.symm.trans same

/-- **A wait ends once**, and is gone then. -/
theorem EndsAt.gone (ends : EndsAt choices n token answer) (later : n < m) :
    (before choices m).Gone token := by
  obtain ⟨id, deadline, runs⟩ := ends.runsAt
  cases runs.fares with
  | ends _ _ gone => exact gone.before later
  | goesOn _ _ _ silent => exact absurd ends (silent answer)

/-- **Only its own turn ends a wait.** -/
theorem Waits.succ (going : Waits choices n token id deadline)
    (apart : choices[n]? ≠ some (.turn token)) : Waits choices (n + 1) token id deadline := by
  cases there : choices[n]? with
  | none =>
      rw [Waits, before_succ_of_none there]
      exact going
  | some choice =>
      have sound := sound_before choices n
      rw [Waits, before_succ there]
      rcases sound.step_cases choice with ⟨runner, name, due, runs⟩ | passes
      · have others : runner ≠ token := by
          rintro rfl
          cases runs with
          | begins _ => exact Nat.lt_irrefl _ (sound.begun _ going)
          | goesOn _ => exact apart there
        have rest := Registry.mem_windowsBut.mpr ⟨going, others.symm⟩
        obtain ⟨state, _, goes⟩ := sound.runsTo runs
        cases goes with
        | ended _ _ left => exact left ▸ rest
        | parked _ _ _ left _ => exact left.mem_iff.mpr (List.mem_cons_of_mem _ rest)
      · exact passes.windows ▸ going

/-- **A wait goes on until it ends**, for the same id and until the same deadline. -/
theorem RunsAt.waits_or_ends (runs : RunsAt choices n token id deadline) (later : n < m) :
    Waits choices m token id deadline ∨
      ∃ j answer, n ≤ j ∧ j < m ∧ RunsAt choices j token id deadline ∧
        EndsAt choices j token answer := by
  have one : ∀ {j}, RunsAt choices j token id deadline → Waits choices (j + 1) token id deadline ∨
      ∃ answer, EndsAt choices j token answer := by
    intro j here
    cases here.fares with
    | ends _ ends _ => exact .inr ⟨_, ends⟩
    | goesOn _ _ going _ => exact .inl going
  induction m, later using Nat.le_induction with
  | base =>
      refine (one runs).imp_right ?_
      rintro ⟨answer, ends⟩
      exact ⟨n, answer, Nat.le_refl n, Nat.lt_succ_self n, runs, ends⟩
  | succ m after ih =>
      rcases ih with going | ⟨j, answer, first, last, here, ends⟩
      · by_cases own : choices[m]? = some (.turn token)
        · have here : RunsAt choices m token id deadline := ⟨_, own, .goesOn going⟩
          refine (one here).imp_right ?_
          rintro ⟨answer, ends⟩
          exact ⟨m, answer, Nat.le_of_succ_le after, Nat.lt_succ_self m, here, ends⟩
        · exact .inl (going.succ own)
      · exact .inr ⟨j, answer, first, Nat.lt_succ_of_lt last, here, ends⟩

theorem BeginsAt.runsAt (begins : BeginsAt choices n token id most) :
    RunsAt choices n token id (deadlineAt choices n most) := by
  obtain ⟨choice, rfl, fits⟩ := begins
  exact ⟨_, choice, .begins fits⟩

/-- **Every wait that goes on has begun**, and its deadline was fixed then. -/
theorem Waits.begins (going : Waits choices m token id deadline) :
    ∃ n most, n < m ∧ BeginsAt choices n token id most ∧ deadline = deadlineAt choices n most := by
  induction m with
  | zero => nomatch going
  | succ m ih =>
      have earlier : Waits choices m token id deadline →
          ∃ n most, n < m + 1 ∧ BeginsAt choices n token id most ∧
            deadline = deadlineAt choices n most := fun going =>
        (ih going).imp fun n => Exists.imp fun most => And.imp_left Nat.lt_succ_of_lt
      cases there : choices[m]? with
      | none =>
          rw [Waits, before_succ_of_none there] at going
          exact earlier going
      | some choice =>
          rw [Waits, before_succ there] at going
          rcases (sound_before choices m).mem_windows_step going with old | ⟨runs, _⟩
          · exact earlier old
          · cases runs with
            | begins fits => exact ⟨m, _, Nat.lt_succ_self m, ⟨there, rfl, fits⟩, rfl⟩
            | goesOn going => exact earlier going

/-- Where time passes only while all rest, a wait ends at once or by its timer. -/
theorem BeginsAt.waits_or_ends_inTime (begins : BeginsAt choices n token id most)
    (prompt : Prompt choices) (later : n < m) :
    (Waits choices m token id (deadlineAt choices n most) ∧
        (before choices m).now ≤ Instant.tick (deadlineAt choices n most)) ∨
      ∃ j answer, n ≤ j ∧ j < m ∧ EndsAt choices j token answer ∧
        (j = n ∨ (before choices j).now ≤ Instant.tick (deadlineAt choices n most)) := by
  have inTime : ∀ {j}, Waits choices j token id (deadlineAt choices n most) →
      (before choices j).now ≤ Instant.tick (deadlineAt choices n most) :=
    fun {j} going => punctual_before prompt j (token, id, deadlineAt choices n most) going
  rcases begins.runsAt.waits_or_ends later with going | ⟨j, answer, first, last, _, ends⟩
  · exact .inl ⟨going, inTime going⟩
  · refine .inr ⟨j, answer, first, last, ends, ?_⟩
    rcases Nat.eq_or_lt_of_le first with rfl | after
    · exact .inl rfl
    · rcases begins.runsAt.waits_or_ends after with going | ⟨i, _, _, before, _, ended⟩
      · exact .inr (inTime going)
      · obtain ⟨_, _, _, _, runs⟩ := ends.runsAt
        exact absurd runs (ended.gone before).not_runs

/-! ## Notifiers -/

/-- A notifier in the table was made by some event. -/
theorem exists_madeAt (there : (before choices m).registry.hasNotifier id = true) :
    ∃ n, MadeAt choices n m id := by
  induction m with
  | zero => nomatch there
  | succ m ih =>
      cases known : (before choices m).registry.hasNotifier id with
      | false =>
          refine ⟨m, Nat.lt_succ_self m, known, fun j after last => ?_⟩
          obtain rfl : j = m + 1 := Nat.le_antisymm last after
          exact there
      | true =>
          obtain ⟨n, earlier, absent, since⟩ := ih known
          refine ⟨n, Nat.lt_succ_of_lt earlier, absent, fun j after last => ?_⟩
          rcases Nat.lt_succ_iff_lt_or_eq.mp (Nat.lt_succ_of_le last) with before | rfl
          · exact since j after (Nat.le_of_lt_succ before)
          · exact there

/-- A wait that goes on has done so since it began. -/
theorem BeginsAt.waits {name : String} (begins : BeginsAt choices k token name most)
    (going : Waits choices m token id deadline) {j : Nat} (after : k < j) (last : j ≤ m) :
    Waits choices j token name (deadlineAt choices k most) := by
  rcases begins.runsAt.waits_or_ends after with here | ⟨i, answer, _, before, _, ends⟩
  · exact here
  · exact absurd rfl ((ends.gone (Nat.lt_of_lt_of_le before last)).window _ going)

/-- **A wait shares the notifier that has been there since before it began.** -/
theorem MadeAt.le_of_begins (made : MadeAt choices n m id)
    (begins : BeginsAt choices k token id most) (going : Waits choices m token id deadline) :
    n ≤ k := by
  refine Nat.le_of_not_lt fun earlier => ?_
  have there := begins.waits going earlier (Nat.le_of_lt made.earlier)
  have known := (sound_before choices n).tallied.hasNotifier there
  exact Bool.noConfusion (known.symm.trans made.absent)

/-! ## Runs in which waits are kept -/

/-- What a run does for the waits that begin in it and are not too long for the clock. -/
structure KeepsWaits (choices : List Choice) : Prop where
  /-- A wait runs when it begins, with a deadline that is fixed then. -/
  runs : ∀ {n token id most}, BeginsAt choices n token id most →
    RunsAt choices n token id (deadlineAt choices n most)
  /-- Those that go on have begun, and have the deadline that was fixed then. -/
  begun : ∀ {m token id deadline}, Waits choices m token id deadline →
    ∃ n most, n < m ∧ BeginsAt choices n token id most ∧ deadline = deadlineAt choices n most
  /-- A wait goes on until it ends, and it ends when it runs. -/
  goesOn : ∀ {n m token id deadline}, RunsAt choices n token id deadline → n < m →
    Waits choices m token id deadline ∨
      ∃ j answer, n ≤ j ∧ j < m ∧ RunsAt choices j token id deadline ∧
        EndsAt choices j token answer
  /-- It ends the first time it runs while its id is registered or behind its timer, and says
  whether its id is registered. -/
  ends : ∀ {n token id deadline}, RunsAt choices n token id deadline →
    (before choices n).registry.contains id = true ∨
      Instant.tick deadline ≤ (before choices n).now →
    EndsAt choices n token ((before choices n).registry.contains id)
  /-- Only a wait that runs ends. -/
  ran : ∀ {n token answer}, EndsAt choices n token answer →
    ∃ id deadline, RunsAt choices n token id deadline
  /-- Unless its id is registered it does not end before its deadline, and what it says is so when
  it ends. -/
  onlyThen : ∀ {n token id deadline answer}, RunsAt choices n token id deadline →
    EndsAt choices n token answer →
    ((before choices n).registry.contains id = true ∨ deadline ≤ (before choices n).now) ∧
      answer = (before choices (n + 1)).registry.contains id
  /-- It ends once, and does not run again. -/
  once : ∀ {n m token answer}, EndsAt choices n token answer → n < m →
    ∀ id deadline, ¬ Waits choices m token id deadline ∧ ¬ RunsAt choices m token id deadline
  /-- A wait whose id is registered can run. -/
  canRun : ∀ {n token id deadline}, Waits choices n token id deadline →
    (before choices n).registry.contains id = true → (before choices n).CanRun token
  /-- Where time passes only while all rest, it ends at once or by the time its timer fires. -/
  inTime : Prompt choices → ∀ {n m token id most}, BeginsAt choices n token id most → n < m →
    (Waits choices m token id (deadlineAt choices n most) ∧
        (before choices m).now ≤ Instant.tick (deadlineAt choices n most)) ∨
      ∃ j answer, n ≤ j ∧ j < m ∧ EndsAt choices j token answer ∧
        (j = n ∨ (before choices j).now ≤ Instant.tick (deadlineAt choices n most))
  /-- The table has a notifier for an id as long as some wait for it goes on. -/
  table : ∀ {n id}, ¬ Strayed choices n id →
    ((before choices n).registry.hasNotifier id = true ↔
      ∃ token deadline, Waits choices n token id deadline)
  /-- It has one, shared by all of them, that was made before any of them began and has been there
  since. -/
  shared : ∀ {m token id deadline}, Waits choices m token id deadline →
    (before choices m).registry.notifiers.filter (fun entry => entry.1 = id) =
        [(id, (before choices m).registry.waiting id)] ∧
      ∃ n, MadeAt choices n m id ∧
        ∀ {k token deadline most}, BeginsAt choices k token id most →
          Waits choices m token id deadline → n ≤ k
  /-- Whoever looks for those that wait for an id through the table reaches all of them. -/
  reached : ∀ n entries id,
    ({ (before choices n).registry with entries } : Registry).signal id =
      ({ (before choices n).registry with entries } : Registry).notify id
  /-- Behind the last wait the table is empty. -/
  cleared : ∀ {n}, (∀ id, ¬ Strayed choices n id) →
    (∀ token id deadline, ¬ Waits choices n token id deadline) →
    (before choices n).registry.notifiers = []

/-- **Waits for registrations clean up and miss nothing**, whatever happens in between. -/
theorem registrations_awaited (choices : List Choice) : KeepsWaits choices where
  runs := BeginsAt.runsAt
  begun := Waits.begins
  goesOn := RunsAt.waits_or_ends
  ends {n token id deadline} runs due := by
    cases runs.fares with
    | ends _ ends _ => exact ends
    | goesOn missing early _ _ =>
        rcases due with there | fired
        · exact absurd (there.symm.trans missing) (by simp)
        · exact absurd (Nat.le_trans (Instant.le_tick deadline) fired) (Nat.not_le_of_lt early)
  ran := EndsAt.runsAt
  onlyThen {n token id deadline answer} runs ends := by
    rw [runs.contains_succ]
    cases runs.fares with
    | ends due told _ => exact ⟨due, ends.unique told⟩
    | goesOn _ _ _ silent => exact absurd ends (silent answer)
  once ends later id deadline := by
    have gone := ends.gone later
    exact ⟨fun going => gone.window _ going rfl, fun ⟨_, _, runs⟩ => gone.not_runs runs⟩
  canRun {n _ _ _} going there := (sound_before choices n).canRun going there
  inTime prompt {_ _ _ _ _} begins later := begins.waits_or_ends_inTime prompt later
  table {n id} untouched :=
    have tallied := (sound_before choices n).tallied
    ⟨fun there => tallied.exists_window there untouched,
      fun ⟨_, _, going⟩ => tallied.hasNotifier going⟩
  shared {m token id deadline} going := by
    have tallied := (sound_before choices m).tallied
    have there := tallied.hasNotifier going
    obtain ⟨n, made⟩ := exists_madeAt there
    exact ⟨tallied.filter_notifiers there, n, made, fun begins going =>
      made.le_of_begins begins going⟩
  reached n entries id := (sound_before choices n).tallied.signal_eq entries id
  cleared {n} untouched idle := by
    refine List.eq_nil_iff_forall_not_mem.mpr fun entry member => ?_
    have there : (before choices n).registry.hasNotifier entry.1 = true :=
      List.any_eq_true.mpr ⟨entry, member, by simp⟩
    obtain ⟨token, deadline, going⟩ :=
      (sound_before choices n).tallied.exists_window there (untouched entry.1)
    exact idle token entry.1 deadline going

/-- A wait of half a millisecond, for an id that nobody registers. -/
def halfMilli : List Choice :=
  [.wait "z" (Duration.ofNanos 500000), .elapse 600000, .elapse 1000000, .turn 0]

/-- A wait can end after its deadline though its id is not registered and it runs as soon as it can:
its timer fires at the next whole millisecond. -/
theorem outlasts_deadline :
    Prompt halfMilli ∧ BeginsAt halfMilli 0 0 "z" (Duration.ofNanos 500000) ∧
      deadlineAt halfMilli 0 (Duration.ofNanos 500000) < (before halfMilli 2).now ∧
      (∀ token, ¬ (before halfMilli 2).CanRun token) ∧
      EndsAt halfMilli 3 0 false ∧
      deadlineAt halfMilli 0 (Duration.ofNanos 500000) < (before halfMilli 3).now ∧
      (before halfMilli 3).registry.contains "z" = false := by
  have rests : ∀ n, n = 1 ∨ n = 2 → ∀ token, ¬ (before halfMilli n).CanRun token := by
    rintro n (rfl | rfl) token ⟨wait, member, rfl, runs⟩ <;> revert wait <;> decide +kernel
  refine ⟨fun n instant there => ?_, ⟨rfl, rfl, by decide +kernel⟩, by decide +kernel,
    rests 2 (.inr rfl), ⟨_, rfl, by decide +kernel⟩, by decide +kernel, by decide +kernel⟩
  match n, there with
  | 1, there =>
      obtain rfl : (600000 : Instant) = instant := by simpa [halfMilli] using there
      exact ⟨rests 1 (.inl rfl), by decide +kernel⟩
  | 2, there =>
      obtain rfl : (1000000 : Instant) = instant := by simpa [halfMilli] using there
      exact ⟨rests 2 (.inr rfl), by decide +kernel⟩
  | 3, there => nomatch there
  | n + 4, there => nomatch there

end Mediation.Lobby
