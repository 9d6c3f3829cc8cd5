import Mediation.Proofs.Coordinator.Live

/-!
# Early replies are matched one to one

On a live coordinator any number of replies may come before their requests, and wait for them, also
for one id. Whatever order tasks take their turns in, requests are registered or moved and time
passes (`replies_heard`): a reply is counted once, its window never grows, it is an orphan only if
its window is over and its request not there, it takes one request at most, and no other reply takes
that one. Of those that wait for an id that is registered one is matched, and the others wait on.

In a prompt run a reply ends at the latest at the first whole millisecond at or after the end of its
window (`HearsReplies.inTime`); not always at the end itself, because timers fire at whole
milliseconds (`outlives_window`).
-/

set_option autoImplicit false

namespace Mediation.Coordinator

variable {c d : Coordinator} {task other : TaskId} {message : Message} {id : String}
  {deadline : Instant} {registered : List (Exchange × Duration)} {choice : Choice}
  {choices : List Choice} {n m : Nat} {ticket again : Ticket} {entry : Pending}

/-! ## Matching -/

/-- At the `n`-th event of a run the reply of a task takes out the request of a ticket. -/
structure Matches (c : Coordinator) (choices : List Choice) (n : Nat) (task : TaskId)
    (ticket : Ticket) : Prop where
  turn : choices[n]? = some (.turn task)
  answers : ∃ message, (c.before choices n).deed (.turn task) = .answer message
  waits : (c.before choices n).Waits ticket
  gone : ¬ (c.before choices (n + 1)).Waits ticket

theorem waits_of_same (same : d.registry.entries = c.registry.entries) :
    d.Waits ticket ↔ c.Waits ticket := by
  rw [Waits, Waits, same]

/-- A request that a reply takes out is the one under the id of the reply. -/
theorem ticket_of_taken (keys : c.registry.KeysDistinct)
    (found : c.registry.find? id = some entry)
    (rest : d.registry.entries = (c.registry.without id).entries) (waits : c.Waits ticket)
    (gone : ¬ d.Waits ticket) : ticket = entry.ticket := by
  obtain ⟨taken, inside, rfl⟩ := waits
  have under : taken.correlationId = id := by
    by_contra apart
    refine gone ⟨taken, ?_, rfl⟩
    rw [rest]
    exact Registry.mem_without.mpr ⟨inside, apart⟩
  rw [← under, keys.find?_of_mem inside, Option.some_inj] at found
  rw [found]

/-- The request under an id is gone when it has been taken out. -/
theorem Sound.gone_of_taken (sound : c.Sound registered [])
    (found : c.registry.find? id = some entry)
    (rest : d.registry.entries = (c.registry.without id).entries) : ¬ d.Waits entry.ticket := by
  rintro ⟨left, inside, same⟩
  rw [rest] at inside
  obtain ⟨before, apart⟩ := Registry.mem_without.mp inside
  rw [sound.entry_eq before (Registry.mem_of_find? found) same] at apart
  exact apart (Registry.correlationId_of_find? found)

theorem Arrives.deed (orderly : c.Orderly) (arrives : c.Arrives task message) :
    c.deed (.turn task) = .answer message := by
  rcases arrives with inside | ⟨_, _, inside | ⟨_, _, inside⟩⟩ <;>
    exact deed_turn (orderly.job?_eq_some_iff.mpr inside)

theorem Speaks.deed (orderly : c.Orderly) (speaks : c.Speaks task message id deadline) :
    c.deed (.turn task) = .answer message := by
  rcases speaks with ⟨arrives, _⟩ | ⟨⟨carried, inside⟩, _⟩
  · exact arrives.deed orderly
  · exact deed_turn (orderly.job?_eq_some_iff.mpr inside)

theorem Arrives.lt_begun (orderly : c.Orderly) (arrives : c.Arrives task message) :
    task < c.begun := by
  rcases arrives with inside | ⟨_, _, inside | ⟨_, _, inside⟩⟩ <;>
    exact orderly.begun _ inside

theorem Speaks.lt_begun (attentive : c.Attentive) (speaks : c.Speaks task message id deadline) :
    task < c.begun := by
  rcases speaks with ⟨arrives, _⟩ | listens
  · exact arrives.lt_begun attentive.orderly
  · exact listens.lt_begun attentive

/-- A turn that brings a reply takes out nothing, or the request under one id; then its task ends
and the reply is counted. -/
theorem Live.takes (live : c.Live registered) (answers : c.deed (.turn task) = .answer message) :
    (c.turn task).registry.entries = c.registry.entries ∨
      ∃ id entry, c.registry.find? id = some entry ∧
        (c.turn task).registry.entries = (c.registry.without id).entries ∧
        task < (c.turn task).begun ∧ (c.turn task).job? task = none ∧
        (c.turn task).counts = .repliesMatched :: c.counts := by
  obtain ⟨spares, turned⟩ := live.attentive.turn_cases live.sound task
  cases turned with
  | @heard _ id _ speaks heard =>
      cases heard with
      | matched there finished counts rest =>
          obtain ⟨entry, found⟩ := Option.isSome_iff_exists.mp there
          exact .inr ⟨id, entry, found, rest,
            Nat.lt_of_lt_of_le (speaks.lt_begun live.attentive) spares.begun, finished.job, counts⟩
      | orphaned _ _ _ _ same => exact .inl same
      | waits _ _ _ _ _ _ _ same => exact .inl same
  | dropped _ drops _ => exact .inl (congrArg Registry.entries drops.registry)
  | calm _ _ kept => exact .inl (kept _ answers)

/-- A reply that takes out a request is counted as matched then, and takes no further turn. -/
theorem Live.matched (live : c.Live registered) (goesOn : ∀ choice ∈ choices, choice.isLive)
    (takes : c.Matches choices n task ticket) :
    (c.before choices (n + 1)).counts = .repliesMatched :: (c.before choices n).counts ∧
      (∀ m, n < m → (c.before choices m).job? task = none) ∧
      ∀ again, c.Matches choices n task again → again = ticket := by
  have here := live.before goesOn n
  have shape : c.before choices (n + 1) = (c.before choices n).turn task := before_succ takes.turn
  obtain ⟨message, answers⟩ := takes.answers
  rcases here.takes answers with same | ⟨id, entry, found, rest, old, finished, counts⟩
  · rw [← shape] at same
    exact absurd ((waits_of_same same).mpr takes.waits) takes.gone
  · rw [← shape] at rest old finished counts
    refine ⟨counts, fun m later => live.ended goesOn old finished later, fun again twin => ?_⟩
    rw [ticket_of_taken here.sound.keys found rest takes.waits takes.gone]
    exact ticket_of_taken here.sound.keys found rest twin.waits twin.gone

/-- **No reply takes out two requests.** -/
theorem Live.one_request (live : c.Live registered) (goesOn : ∀ choice ∈ choices, choice.isLive)
    (first : c.Matches choices n task ticket) (second : c.Matches choices m task again) :
    m = n ∧ again = ticket := by
  have apart : ∀ {n m ticket again}, c.Matches choices n task ticket →
      c.Matches choices m task again → ¬ n < m := by
    intro n m ticket again first second less
    have ended := (live.matched goesOn first).2.1 m less
    obtain ⟨message, answers⟩ := second.answers
    simp [Coordinator.deed, ended] at answers
  obtain rfl := Nat.le_antisymm (Nat.le_of_not_lt (apart first second))
    (Nat.le_of_not_lt (apart second first))
  exact ⟨rfl, (live.matched goesOn first).2.2 again second⟩

/-- **No request is taken out by two replies.** -/
theorem Live.one_reply (live : c.Live registered) (goesOn : ∀ choice ∈ choices, choice.isLive)
    (first : c.Matches choices n task ticket) (second : c.Matches choices m other ticket) :
    m = n ∧ other = task := by
  have calls : ∀ choice ∈ choices, choice.isCall := fun choice member =>
    Choice.isCall_of_isLive (goesOn choice member)
  -- Once it is taken out a request has its verdict, which stays; so it does not wait again.
  have apart : ∀ {n m task other}, c.Matches choices n task ticket →
      c.Matches choices m other ticket → ¬ n < m := by
    intro n m task other first second less
    have here := live.before goesOn n
    have gone := first.gone
    rw [before_succ first.turn] at gone
    obtain ⟨_, _, _, _, shown⟩ := here.sound.taken
      (show (Choice.turn task).isCall from rfl) first.waits gone
    rw [← before_succ first.turn] at shown
    have kept := live.sound.verdict?_before calls less shown
    obtain ⟨entry, inside, rfl⟩ := second.waits
    have fresh := ((live.before goesOn m).sound.agrees (List.mem_append_right [] inside)).2
    rw [verdict?, fresh] at kept
    simp [Handoff.fresh] at kept
  obtain rfl := Nat.le_antisymm (Nat.le_of_not_lt (apart first second))
    (Nat.le_of_not_lt (apart second first))
  have same := first.turn.symm.trans second.turn
  rw [Option.some_inj, Choice.turn.injEq] at same
  exact ⟨rfl, same.symm⟩

/-! ## How replies end -/

/-- A reply ends at the `n`-th event of a run: it takes out the request under its id if there is
one, and is an orphan only if there is none and its deadline has come. It is counted then and takes
no further turn. -/
structure ReplyEnds (c : Coordinator) (choices : List Choice) (n : Nat) (task : TaskId)
    (id : String) (deadline : Instant) (counter : Counter) : Prop where
  turn : choices[n]? = some (.turn task)
  counted : (c.before choices (n + 1)).counts = counter :: (c.before choices n).counts
  fate : counter = .repliesMatched ∧ (∃ entry, (c.before choices n).registry.find? id = some entry ∧
      c.Matches choices n task entry.ticket) ∨
    counter = .repliesOrphaned ∧ (c.before choices n).registry.contains id = false ∧
      deadline ≤ (c.before choices n).now
  finished : ∀ m, n < m → (c.before choices m).job? task = none

/-- A reply that takes a turn ends, or waits until its deadline for a request that is not there. -/
theorem Live.speaks_turn (live : c.Live registered) (goesOn : ∀ choice ∈ choices, choice.isLive)
    (there : choices[n]? = some (.turn task))
    (speaks : (c.before choices n).Speaks task message id deadline) :
    (c.before choices n).registry.contains id = false ∧
        (c.before choices (n + 1)).Listens task message id deadline ∨
      ∃ counter, c.ReplyEnds choices n task id deadline counter := by
  have here := live.before goesOn n
  obtain ⟨spares, heard⟩ := turn_speaks here.sound here.attentive speaks
  have shape : c.before choices (n + 1) = (c.before choices n).turn task := before_succ there
  rw [← shape] at spares heard
  have old : task < (c.before choices (n + 1)).begun :=
    Nat.lt_of_lt_of_le (speaks.lt_begun here.attentive) spares.begun
  cases heard with
  | matched known finished counts rest =>
      obtain ⟨entry, found⟩ := Option.isSome_iff_exists.mp known
      have takes : c.Matches choices n task entry.ticket :=
        ⟨there, ⟨message, speaks.deed here.attentive.orderly⟩,
          ⟨entry, Registry.mem_of_find? found, rfl⟩, here.sound.gone_of_taken found rest⟩
      exact .inr ⟨.repliesMatched, there, counts, .inl ⟨rfl, entry, found, takes⟩,
        fun m later => live.ended goesOn old finished.job later⟩
  | orphaned missing late finished counts _ =>
      exact .inr ⟨.repliesOrphaned, there, counts, .inr ⟨rfl, missing, late⟩,
        fun m later => live.ended goesOn old finished.job later⟩
  | waits missing _ listens _ _ _ _ _ => exact .inl ⟨missing, listens⟩

/-- **A reply waits until it ends.** -/
theorem Live.listens_or_ends (live : c.Live registered)
    (goesOn : ∀ choice ∈ choices, choice.isLive) (there : choices[n]? = some (.turn task))
    (speaks : (c.before choices n).Speaks task message id deadline) (later : n < m) :
    (c.before choices m).Listens task message id deadline ∨
      ∃ j counter, n ≤ j ∧ j < m ∧ c.ReplyEnds choices j task id deadline counter ∧
        (j = n ∨ (c.before choices j).Listens task message id deadline) := by
  induction m, later using Nat.le_induction with
  | base =>
      rcases live.speaks_turn goesOn there speaks with ⟨_, listens⟩ | ⟨counter, ends⟩
      · exact .inl listens
      · exact .inr ⟨n, counter, Nat.le_refl n, Nat.lt_succ_self n, ends, .inl rfl⟩
  | succ m after ih =>
      rcases ih with listens | ⟨j, counter, first, last, ends, waited⟩
      · by_cases own : choices[m]? = some (.turn task)
        · rcases live.speaks_turn goesOn own (.inr listens) with ⟨_, still⟩ | ⟨counter, ends⟩
          · exact .inl still
          · exact .inr ⟨m, counter, Nat.le_of_succ_le after, Nat.lt_succ_self m, ends, .inr listens⟩
        · exact .inl (live.listens_succ goesOn own listens)
      · exact .inr ⟨j, counter, first, Nat.lt_succ_of_lt last, ends, waited⟩

/-- **Only the turns of replies count**, and each of them at most once. -/
theorem Live.counted (live : c.Live registered) (goesOn : ∀ choice ∈ choices, choice.isLive)
    (there : choices[n]? = some choice) :
    (c.before choices (n + 1)).counts = (c.before choices n).counts ∨
      ∃ task message, choice = .turn task ∧
        ((c.before choices n).Arrives task message ∨
          ∃ id deadline, (c.before choices n).Listens task message id deadline) ∧
        (∃ counter, (c.before choices (n + 1)).counts = counter :: (c.before choices n).counts) ∧
        ∀ m, n < m → (c.before choices m).job? task = none := by
  have here := live.before goesOn n
  by_cases turns : ∃ task, choice = .turn task
  · obtain ⟨task, rfl⟩ := turns
    obtain ⟨spares, turned⟩ := here.attentive.turn_cases here.sound task
    have shape : c.before choices (n + 1) = (c.before choices n).turn task := before_succ there
    rw [← shape] at spares
    cases turned with
    | @heard message id deadline speaks heard =>
        rcases live.speaks_turn goesOn there speaks with ⟨_, listens⟩ | ⟨counter, ends⟩
        · rw [shape] at listens ⊢
          cases heard with
          | waits _ _ _ _ _ _ counts _ => exact .inl counts
          | matched _ finished _ _ => exact absurd rfl (finished.window _ listens.window)
          | orphaned _ _ finished _ _ => exact absurd rfl (finished.window _ listens.window)
        · exact .inr ⟨task, message, rfl,
            speaks.imp And.left fun listens => ⟨id, deadline, listens⟩, ⟨counter, ends.counted⟩,
            ends.finished⟩
    | @dropped message arrives drops finished =>
        have old := Nat.lt_of_lt_of_le (arrives.lt_begun here.attentive.orderly) spares.begun
        rw [← shape] at drops finished
        refine .inr ⟨task, message, rfl, .inl arrives, ⟨.repliesMalformed, ?_⟩,
          fun m later => live.ended goesOn old finished.job later⟩
        rw [counts, drops.tally]
        rfl
    | calm _ calm _ =>
        rw [shape]
        exact .inl calm.counts
  · rw [before_succ there]
    have calm : Calm 0 { c.before choices n with now := _ } ((c.before choices n).step choice) :=
      calm_step _ (goesOn choice (List.mem_of_getElem? there)) fun task same => turns ⟨task, same⟩
    exact .inl calm.counts

/-! ## Replies that wait for one id -/

/-- From the `n`-th event of a run to the `m`-th all replies that wait for an id take turns, and
nothing else changes what stands under it. -/
structure Gathers (c : Coordinator) (choices : List Choice) (n m : Nat) (id : String) : Prop where
  turns : ∀ task message deadline, (c.before choices n).Listens task message id deadline →
    ∃ j, n ≤ j ∧ j < m ∧ choices[j]? = some (.turn task)
  alone : ∀ j, n ≤ j → j < m →
    (∀ task message deadline, (c.before choices n).Listens task message id deadline →
      choices[j]? ≠ some (.turn task)) →
    (c.before choices (j + 1)).registry.find? id = (c.before choices j).registry.find? id

/-- Of the replies that waited for an id at the `n`-th event of a run, that of one task has taken the
request of a ticket before the `m`-th. The others wait on until their deadlines. -/
structure OneTakes (c : Coordinator) (choices : List Choice) (n m : Nat) (id : String)
    (ticket : Ticket) (task : TaskId) : Prop where
  waited : ∃ message deadline, (c.before choices n).Listens task message id deadline
  takes : ∃ j deadline, n ≤ j ∧ j < m ∧
    c.ReplyEnds choices j task id deadline .repliesMatched ∧ c.Matches choices j task ticket
  others : ∀ other message deadline, other ≠ task →
    (c.before choices n).Listens other message id deadline →
      (c.before choices m).Listens other message id deadline ∨
        ∃ j, n ≤ j ∧ j < m ∧ c.ReplyEnds choices j other id deadline .repliesOrphaned

/-- No reply that waits for an id has taken a turn since the `n`-th event. -/
structure NoneTakes (c : Coordinator) (choices : List Choice) (n m : Nat) (id : String) : Prop where
  idle : ∀ task message deadline, (c.before choices n).Listens task message id deadline →
    ∀ j, n ≤ j → j < m → choices[j]? ≠ some (.turn task)
  waiting : ∀ task message deadline, (c.before choices n).Listens task message id deadline →
    (c.before choices m).Listens task message id deadline

/-- After the turn of a reply nothing stands under its id. -/
theorem Heard.missing (heard : c.Heard task message id deadline d) :
    d.registry.find? id = none := by
  cases heard with
  | matched _ _ _ rest =>
      refine Registry.find?_eq_none_iff.mpr fun entry inside => ?_
      rw [rest] at inside
      exact (Registry.mem_without.mp inside).2
  | orphaned missing _ _ _ same =>
      rw [Registry.find?, same]
      exact Registry.contains_eq_false_iff.mp missing
  | waits missing _ _ _ _ _ _ same =>
      rw [Registry.find?, same]
      exact Registry.contains_eq_false_iff.mp missing

theorem Live.missing_after (live : c.Live registered) (goesOn : ∀ choice ∈ choices, choice.isLive)
    (there : choices[n]? = some (.turn task))
    (listens : (c.before choices n).Listens task message id deadline) :
    (c.before choices (n + 1)).registry.find? id = none := by
  have here := live.before goesOn n
  rw [before_succ there]
  exact (turn_listens here.sound here.attentive listens).2.missing

/-- A task that has ended does nothing. -/
theorem before_succ_of_ended (there : choices[n]? = some (.turn task))
    (ended : (c.before choices n).job? task = none) :
    (c.before choices (n + 1)).registry = (c.before choices n).registry := by
  rw [before_succ there]
  change ((c.before choices n).turn task).registry = _
  rw [turn_of_ended ended]
  rfl

/-- The first turn of a reply that waits for a request that is there. -/
theorem NoneTakes.turn (none_yet : c.NoneTakes choices n m id) (live : c.Live registered)
    (goesOn : ∀ choice ∈ choices, choice.isLive) (later : n ≤ m)
    (found : (c.before choices m).registry.find? id = some entry)
    (listens : (c.before choices n).Listens task message id deadline)
    (there : choices[m]? = some (.turn task)) :
    c.OneTakes choices n (m + 1) id entry.ticket task := by
  have now := none_yet.waiting task message deadline listens
  have known : (c.before choices m).registry.contains id = true := by
    simp [Registry.contains, found]
  refine ⟨⟨message, deadline, listens⟩, ?_, fun other message deadline apart waits => .inl ?_⟩
  · rcases live.speaks_turn goesOn there (.inr now) with ⟨missing, _⟩ | ⟨counter, ends⟩
    · exact absurd (known.symm.trans missing) (by simp)
    · rcases ends.fate with ⟨rfl, taken, same, takes⟩ | ⟨_, missing, _⟩
      · rw [found, Option.some_inj] at same
        rw [← same] at takes
        exact ⟨m, deadline, later, Nat.lt_succ_self m, ends, takes⟩
      · exact absurd (known.symm.trans missing) (by simp)
  · refine live.listens_succ goesOn ?_ (none_yet.waiting other message deadline waits)
    rw [there]
    simpa using apart.symm

/-- An event at which nothing is there for those who wait on. -/
theorem OneTakes.next (one : c.OneTakes choices n m id ticket task) (live : c.Live registered)
    (goesOn : ∀ choice ∈ choices, choice.isLive) (later : n ≤ m)
    (missing : (c.before choices m).registry.find? id = none) :
    c.OneTakes choices n (m + 1) id ticket task := by
  obtain ⟨j, deadline, first, last, takes⟩ := one.takes
  refine ⟨one.waited, ⟨j, deadline, first, Nat.lt_succ_of_lt last, takes⟩, ?_⟩
  intro other message deadline apart waits
  rcases one.others other message deadline apart waits with listens | ⟨j, first, last, ends⟩
  · by_cases own : choices[m]? = some (.turn other)
    · rcases live.speaks_turn goesOn own (.inr listens) with ⟨_, still⟩ | ⟨counter, ends⟩
      · exact .inl still
      · rcases ends.fate with ⟨_, taken, same, _⟩ | ⟨rfl, _⟩
        · rw [missing] at same
          simp at same
        · exact .inr ⟨m, later, Nat.lt_succ_self m, ends⟩
    · exact .inl (live.listens_succ goesOn own listens)
  · exact .inr ⟨j, first, Nat.lt_succ_of_lt last, ends⟩

/-- A turn of a reply that waited leaves nothing under its id, if nothing was there. -/
theorem OneTakes.missing (one : c.OneTakes choices n m id ticket task) (live : c.Live registered)
    (goesOn : ∀ choice ∈ choices, choice.isLive)
    (missing : (c.before choices m).registry.find? id = none)
    (waited : (c.before choices n).Listens other message id deadline)
    (there : choices[m]? = some (.turn other)) :
    (c.before choices (m + 1)).registry.find? id = none := by
  have gone : (c.before choices m).job? other = none →
      (c.before choices (m + 1)).registry.find? id = none := fun ended => by
    rw [before_succ_of_ended there ended]
    exact missing
  by_cases same : other = task
  · obtain ⟨j, _, _, last, ends, _⟩ := one.takes
    exact gone (same ▸ ends.finished m last)
  · rcases one.others other message deadline same waited with listens | ⟨j, _, last, ends⟩
    · exact live.missing_after goesOn there listens
    · exact gone (ends.finished m last)

/-- As long as only those who wait for it touch a request, it is there until one takes it. -/
theorem Live.one_or_none (live : c.Live registered) (goesOn : ∀ choice ∈ choices, choice.isLive)
    (found : (c.before choices n).registry.find? id = some entry) {last : Nat}
    (gathers : c.Gathers choices n last id) (later : n ≤ m) (inside : m ≤ last) :
    (c.before choices m).registry.find? id = some entry ∧ c.NoneTakes choices n m id ∨
      (c.before choices m).registry.find? id = none ∧
        ∃ task, c.OneTakes choices n m id entry.ticket task := by
  induction m, later using Nat.le_induction with
  | base =>
      refine .inl ⟨found, fun _ _ _ _ j first last => ?_, fun _ _ _ listens => listens⟩
      exact absurd last (Nat.not_lt_of_le first)
  | succ m later ih =>
      by_cases own : ∃ task message deadline,
          (c.before choices n).Listens task message id deadline ∧ choices[m]? = some (.turn task)
      · obtain ⟨task, message, deadline, listens, there⟩ := own
        rcases ih (Nat.le_of_succ_le inside) with ⟨still, none_yet⟩ | ⟨missing, winner, one⟩
        · exact .inr ⟨live.missing_after goesOn there (none_yet.waiting _ _ _ listens),
            task, none_yet.turn live goesOn later still listens there⟩
        · exact .inr ⟨one.missing live goesOn missing listens there, winner,
            one.next live goesOn later missing⟩
      · have others : ∀ task message deadline,
            (c.before choices n).Listens task message id deadline →
              choices[m]? ≠ some (.turn task) :=
          fun task message deadline listens there => own ⟨task, message, deadline, listens, there⟩
        rw [gathers.alone m later inside others]
        rcases ih (Nat.le_of_succ_le inside) with ⟨still, none_yet⟩ | ⟨missing, winner, one⟩
        · refine .inl ⟨still, ?_, ?_⟩
          · intro task message deadline listens j first last
            rcases Nat.lt_succ_iff_lt_or_eq.mp last with before | rfl
            · exact none_yet.idle task message deadline listens j first before
            · exact others task message deadline listens
          · intro task message deadline listens
            exact live.listens_succ goesOn (others task message deadline listens)
              (none_yet.waiting task message deadline listens)
        · exact .inr ⟨missing, winner, one.next live goesOn later missing⟩

/-- **One of the replies that wait for an id takes its request**, and the others wait on. -/
theorem Live.one_takes (live : c.Live registered) (goesOn : ∀ choice ∈ choices, choice.isLive)
    (later : n ≤ m) (found : (c.before choices n).registry.find? id = some entry)
    (listens : (c.before choices n).Listens task message id deadline)
    (gathers : c.Gathers choices n m id) :
    ∃ winner, c.OneTakes choices n m id entry.ticket winner := by
  rcases live.one_or_none goesOn found gathers later (Nat.le_refl m) with
    ⟨_, none_yet⟩ | ⟨_, winner, one⟩
  · obtain ⟨j, first, last, there⟩ := gathers.turns task message deadline listens
    exact absurd there (none_yet.idle task message deadline listens j first last)
  · exact ⟨winner, one⟩

/-! ## All replies -/

/-- At the `n`-th event of a run a reply comes that has an id and a window until a deadline. -/
structure Comes (c : Coordinator) (choices : List Choice) (n : Nat) (task : TaskId)
    (message : Message) (id : String) (deadline : Instant) : Prop where
  turn : choices[n]? = some (.turn task)
  arrives : (c.before choices n).Arrives task message
  known : message.correlationId? = some id
  window : Registry.windowEnd? (c.before choices n).now
    (c.before choices n).config.earlyReplyWait = some deadline

theorem Comes.speaks (comes : c.Comes choices n task message id deadline) :
    (c.before choices n).Speaks task message id deadline :=
  .inl ⟨comes.arrives, comes.known, .inr comes.window⟩

/-- What becomes of the replies of a run. -/
structure HearsReplies (c : Coordinator) (choices : List Choice) : Prop where
  /-- A reply without an id is counted as malformed; its task ends and all else stays. -/
  malformed : ∀ n task message, choices[n]? = some (.turn task) →
    (c.before choices n).Arrives task message → message.correlationId? = none →
      (c.before choices n).Drops task (c.before choices (n + 1)) ∧
        ∀ m, n < m → (c.before choices m).job? task = none
  /-- A reply whose id is registered when it comes is matched, whatever its window. -/
  atOnce : ∀ n task message id deadline, choices[n]? = some (.turn task) →
    (c.before choices n).Arrives task message → message.correlationId? = some id →
    (c.before choices n).registry.contains id = true →
      c.ReplyEnds choices n task id deadline .repliesMatched
  /-- Its window ends as long after it comes as early replies wait. -/
  window : ∀ n task message id deadline, c.Comes choices n task message id deadline →
    deadline = min ((c.before choices n).now.plus (c.before choices n).config.earlyReplyWait)
      Instant.lastTimer
  /-- Until it ends a reply waits for its id, and its window stays. -/
  ends : ∀ n task message id deadline, c.Comes choices n task message id deadline →
    ∀ m, n < m → (c.before choices m).Listens task message id deadline ∨
      ∃ j counter, n ≤ j ∧ j < m ∧ c.ReplyEnds choices j task id deadline counter
  /-- In a prompt run it does not wait after the first whole millisecond at or after the end of its
  window, and can run when that has come. -/
  inTime : c.Prompt choices →
    ∀ n task message id deadline, c.Comes choices n task message id deadline →
      ∀ m, n < m →
        ((c.before choices m).Listens task message id deadline ∧
          (c.before choices m).now ≤ Instant.tick deadline ∧
          ((c.before choices m).now = Instant.tick deadline → task ∈ (c.before choices m).ready)) ∨
        ∃ j counter, n ≤ j ∧ j < m ∧ c.ReplyEnds choices j task id deadline counter ∧
          (c.before choices j).now ≤ Instant.tick
            ((c.before choices n).now.plus (c.before choices n).config.earlyReplyWait)
  /-- Only the turns of replies count, each at most once, and then their tasks end. -/
  counted : ∀ n choice, choices[n]? = some choice →
    (c.before choices (n + 1)).counts = (c.before choices n).counts ∨
      ∃ task message, choice = .turn task ∧
        ((c.before choices n).Arrives task message ∨
          ∃ id deadline, (c.before choices n).Listens task message id deadline) ∧
        (∃ counter, (c.before choices (n + 1)).counts = counter :: (c.before choices n).counts) ∧
        ∀ m, n < m → (c.before choices m).job? task = none
  /-- A reply that takes a request out is counted as matched. -/
  matched : ∀ n task ticket, c.Matches choices n task ticket →
    (c.before choices (n + 1)).counts = .repliesMatched :: (c.before choices n).counts
  /-- No reply takes out two requests. -/
  oneRequest : ∀ n m task ticket again, c.Matches choices n task ticket →
    c.Matches choices m task again → m = n ∧ again = ticket
  /-- No request is taken out by two replies. -/
  oneReply : ∀ n m task other ticket, c.Matches choices n task ticket →
    c.Matches choices m other ticket → m = n ∧ other = task
  /-- A reply whose id is registered can run. -/
  woken : ∀ n task message id deadline, (c.before choices n).Listens task message id deadline →
    (c.before choices n).registry.contains id = true → task ∈ (c.before choices n).ready
  /-- When a request is under an id and all replies that wait for it take turns before anything else
  changes that, one of them takes the request and the others wait on. -/
  oneTakes : ∀ n m id entry task message deadline, n ≤ m →
    (c.before choices n).registry.find? id = some entry →
    (c.before choices n).Listens task message id deadline → c.Gathers choices n m id →
      ∃ winner, c.OneTakes choices n m id entry.ticket winner

/-- A reply that comes is gone by the whole millisecond at or after the end of its window. -/
theorem Live.in_time (live : c.Live registered) (goesOn : ∀ choice ∈ choices, choice.isLive)
    (punctual : c.Punctual) (prompt : c.Prompt choices)
    (comes : c.Comes choices n task message id deadline) (later : n < m) :
    ((c.before choices m).Listens task message id deadline ∧
      (c.before choices m).now ≤ Instant.tick deadline ∧
      ((c.before choices m).now = Instant.tick deadline → task ∈ (c.before choices m).ready)) ∨
    ∃ j counter, n ≤ j ∧ j < m ∧ c.ReplyEnds choices j task id deadline counter ∧
      (c.before choices j).now ≤ Instant.tick
        ((c.before choices n).now.plus (c.before choices n).config.earlyReplyWait) := by
  have window := Registry.windowEnd?_eq comes.window
  rcases live.listens_or_ends goesOn comes.turn comes.speaks later with
    listens | ⟨j, counter, first, last, ends, came | waited⟩
  · have before := live.punctual goesOn prompt punctual m _ listens.window
    exact .inl ⟨listens, before⟩
  · subst came
    have grows : (c.before choices j).now ≤
        (c.before choices j).now.plus (c.before choices j).config.earlyReplyWait :=
      Nat.le_add_right _ _
    exact .inr ⟨j, counter, first, last, ends, Nat.le_trans grows (Instant.le_tick _)⟩
  · have before := (live.punctual goesOn prompt punctual j _ waited.window).1
    have within : deadline ≤
        (c.before choices n).now.plus (c.before choices n).config.earlyReplyWait := by
      rw [window]
      exact Nat.min_le_left _ _
    exact .inr ⟨j, counter, first, last, ends, Nat.le_trans before (Instant.tick_mono within)⟩

/-- **Early replies are matched one to one, and none is lost inside its window.** Whatever replies
come, in whatever order tasks take their turns, requests are registered and moved and time passes on
a live coordinator: a reply is counted once, waits until it finds its request or its window is over,
takes one request at most, and shares it with no other. -/
theorem replies_heard (config : CoordinatorConfig) (transport : Transport) (naming : Nat → String)
    (choices : List Choice) (goesOn : ∀ choice ∈ choices, choice.isLive) :
    (create config transport naming).HearsReplies choices := by
  have live := live_create config transport naming
  have punctual : (create config transport naming).Punctual := fun window inside => by
    simp [create, Registry.windows, Registry.empty] at inside
  generalize create config transport naming = c at live punctual
  refine ⟨?_, ?_, ?_, ?_, ?_, ?_, ?_, ?_, ?_, ?_, ?_⟩
  · intro n task message there arrives unknown
    have here := live.before goesOn n
    obtain ⟨spares, _⟩ := here.attentive.turn_cases here.sound task
    have drops := turn_malformed here.sound here.attentive arrives unknown
    have old := Nat.lt_of_lt_of_le (arrives.lt_begun here.attentive.orderly) spares.begun
    have finished : ((c.before choices n).turn task).job? task = none :=
      job?_eq_none_iff.mpr fun entry member => by
        rw [drops.tasks] at member
        simpa using (List.mem_filter.mp member).2
    have shape : c.before choices (n + 1) = (c.before choices n).turn task := before_succ there
    rw [← shape] at drops old finished
    exact ⟨drops, fun m later => live.ended goesOn old finished later⟩
  · intro n task message id deadline there arrives known registered
    rcases live.speaks_turn goesOn there (.inl ⟨arrives, known, .inl registered⟩) with
      ⟨missing, _⟩ | ⟨counter, ends⟩
    · exact absurd (registered.symm.trans missing) (by simp)
    · rcases ends.fate with ⟨rfl, _⟩ | ⟨_, missing, _⟩
      · exact ends
      · exact absurd (registered.symm.trans missing) (by simp)
  · intro n task message id deadline comes
    exact Registry.windowEnd?_eq comes.window
  · intro n task message id deadline comes m later
    refine (live.listens_or_ends goesOn comes.turn comes.speaks later).imp_right ?_
    rintro ⟨j, counter, first, last, ends, _⟩
    exact ⟨j, counter, first, last, ends⟩
  · intro prompt n task message id deadline comes m later
    exact live.in_time goesOn punctual prompt comes later
  · intro n choice there
    exact live.counted goesOn there
  · intro n task ticket takes
    exact (live.matched goesOn takes).1
  · intro n m task ticket again first second
    exact live.one_request goesOn first second
  · intro n m task other ticket first second
    exact live.one_reply goesOn first second
  · intro n task message id deadline listens there
    exact (live.before goesOn n).attentive.ready listens there
  · intro n m id entry task message deadline later found listens gathers
    exact live.one_takes goesOn later found listens gathers

/-- Two replies wait under "p" when its request comes; the second one runs first. -/
def twoWaiting : List Choice :=
  [.start, .spawn (.reply replyToP), .turn 2, .spawn (.reply replyToP), .turn 3,
   .register default "p" (Duration.ofSeconds 1), .turn 3, .turn 2]

/-- One of the two takes the request. -/
theorem replies_heard_twoWaiting :
    (∀ choice ∈ twoWaiting, choice.isLive) ∧
      ∃ winner, (create default default fun _ => "").OneTakes twoWaiting 6 8 "p" 0 winner := by
  have live : ∀ choice ∈ twoWaiting, choice.isLive := by decide
  have windows : ((create default default fun _ => "").before twoWaiting 6).registry.windows =
      [(2, "p", 5000000000), (3, "p", 5000000000)] := by decide +kernel
  have first : ((create default default fun _ => "").before twoWaiting 6).Listens 2 replyToP "p"
      5000000000 := ⟨⟨false, .tail _ (.tail _ (.head _))⟩, by rw [windows]; exact .head _⟩
  have second : ((create default default fun _ => "").before twoWaiting 6).Listens 3 replyToP "p"
      5000000000 :=
    ⟨⟨false, .tail _ (.tail _ (.tail _ (.head _)))⟩, by rw [windows]; exact .tail _ (.head _)⟩
  refine ⟨live, (replies_heard default default (fun _ => "") twoWaiting live).oneTakes 6 8 "p"
    _ 2 replyToP 5000000000 (by decide) rfl first ⟨?_, ?_⟩⟩
  · rintro task message deadline ⟨_, window⟩
    rw [windows] at window
    rcases List.mem_cons.mp window with here | rest
    · cases here
      exact ⟨7, by decide, by decide, rfl⟩
    · cases List.mem_singleton.mp rest
      exact ⟨6, by decide, by decide, rfl⟩
  · intro j after before apart
    obtain rfl | rfl : j = 6 ∨ j = 7 := by omega
    · exact absurd rfl (apart 3 replyToP 5000000000 second)
    · exact absurd rfl (apart 2 replyToP 5000000000 first)

/-- A coordinator at which early replies wait for half a millisecond. -/
def hasty : Coordinator :=
  create { (default : CoordinatorConfig) with earlyReplyWait := Duration.ofNanos 500000 } default
    fun _ => ""

/-- A reply comes before its request, and then more than half a millisecond passes. -/
def betweenTicks : List Choice :=
  [.start, .turn 0, .turn 1, .spawn (.reply replyToP), .turn 2, .elapse 600000]

/-- A reply can be there after the end of its window when no task can run: its timer fires at the
next whole millisecond. -/
theorem outlives_window :
    (∀ choice ∈ betweenTicks, choice.isLive) ∧ hasty.Prompt betweenTicks ∧
      hasty.Comes betweenTicks 4 2 replyToP "p" 500000 ∧
      500000 < (hasty.before betweenTicks 6).now ∧ (hasty.before betweenTicks 6).ready = [] ∧
      (hasty.before betweenTicks 6).Listens 2 replyToP "p" 500000 := by
  refine ⟨by decide, ?_, ⟨rfl, .inl (.tail _ (.head _)), rfl, by decide +kernel⟩,
    by decide +kernel, by decide +kernel, ⟨false, .tail _ (.head _)⟩, by decide +kernel⟩
  intro n instant there
  have only : n = 5 ∧ instant = 600000 := by
    match n, there with
    | 5, there => simpa [betweenTicks, eq_comm] using there
  obtain ⟨rfl, rfl⟩ := only
  exact ⟨by decide +kernel, by decide +kernel⟩

end Mediation.Coordinator
