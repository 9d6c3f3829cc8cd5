import Mediation.Proofs.Coordinator.Flights

/-!
# Sending requests

A request that takes its first turn is sent and registered at once, and a task begins that brings
its reply (`Launched`). With assigned ids it is registered under the id it brings, and moved to the
assigned one in the same turn; so nothing is displaced if no assigned id is brought, and no id is
brought twice at a time where none are assigned (`Admits`). Then the coordinator serves one flight
more (`Serves.launched`).
-/

set_option autoImplicit false

namespace Mediation

/-- A loopback that accepts what it is sent, and answers it. -/
structure Loopback.Replies (settings : Loopback) : Prop where
  speaks : settings.silent = false
  accepts : settings.sendFailure = none

theorem Loopback.assignedId_injective {first second : Nat}
    (same : assignedId first = assignedId second) : first = second := by
  have repr : (first + 1).repr = (second + 1).repr := (String.append_right_inj _).mp same
  have digits : Nat.toDigits 10 (first + 1) = Nat.toDigits 10 (second + 1) := by
    rw [Nat.repr_eq_ofList_toDigits, Nat.repr_eq_ofList_toDigits] at repr
    exact String.ofList_injective repr
  have number := congrArg (Nat.ofDigitChars 10 · 0) digits
  simp only [Nat.ofDigitChars_ten_toDigits] at number
  exact Nat.succ_inj.mp number

/-! ## Placing requests under free ids -/

namespace Registry

variable {registry : Registry} {entry : Pending} {id source target : String}

/-- A placement that displaces no request and wakes nobody. -/
structure Placement.Free (placement : Placement) (entries : List Pending) : Prop where
  displaced : placement.displaced = none
  woken : placement.woken = []
  entries : placement.registry.entries = entries
  waits : placement.registry.waits = []

theorem free_place (missing : registry.find? entry.correlationId = none)
    (quiet : registry.waits = []) : (registry.place entry).Free (registry.entries ++ [entry]) where
  displaced := missing
  woken := by
    change registry.listeners entry.correlationId = []
    rw [listeners, quiet]
    rfl
  entries := by rw [place_entries, without_entries_of_find? missing]
  waits := by
    change registry.waits.map _ = []
    rw [quiet]
    rfl

theorem free_register? {now deadline : Instant} {timeout : Duration}
    (missing : registry.find? id = none) (quiet : registry.waits = [])
    (fits : now.after? timeout = some deadline) (x : Exchange) (ticket : Ticket) :
    ∃ placement, registry.register? now id timeout x ticket = some placement ∧
      placement.Free (registry.entries ++
        [{ correlationId := id, firstId := none, createdAt := now, deadline, timeout,
           exchange := x, ticket }]) := by
  let entry : Pending :=
    { correlationId := id, firstId := none, createdAt := now, deadline, timeout, exchange := x,
      ticket }
  have free : (registry.place entry).Free _ := free_place missing quiet
  refine ⟨{ registry.place entry with registry := (registry.place entry).registry.report }, ?_,
    free.displaced, free.woken, free.entries, free.waits⟩
  rw [register?, fits]
  rfl

theorem free_rekey (found : registry.find? source = some entry) (apart : source ≠ target)
    (missing : registry.find? target = none) (quiet : registry.waits = []) :
    (registry.rekey source target).1.Free
      ((registry.without source).entries ++ [entry.moveTo target]) := by
  have moved : (registry.rekey source target).1 =
      (registry.without source).place (entry.moveTo target) := by
    simp [rekey, found, apart]
  rw [moved]
  refine free_place ?_ quiet
  exact (registry.find?_without_of_ne apart.symm).trans missing

/-- A request that was placed under a free id is moved to another free id. -/
theorem Placement.Free.moved {placement : Placement}
    (placed : placement.Free (registry.entries ++ [entry]))
    (free : registry.find? entry.correlationId = none) (apart : entry.correlationId ≠ target)
    (unused : registry.find? target = none) :
    (placement.registry.rekey entry.correlationId target).1.Free
      (registry.entries ++ [entry.moveTo target]) := by
  have found : placement.registry.find? entry.correlationId = some entry := by
    rw [find?, placed.entries, List.find?_append,
      show registry.entries.find? _ = none from free]
    simp
  have missing : placement.registry.find? target = none := by
    rw [find?, placed.entries, List.find?_append,
      show registry.entries.find? _ = none from unused]
    simp [apart]
  have left : (placement.registry.without entry.correlationId).entries = registry.entries := by
    change placement.registry.entries.filter _ = _
    have kept := without_entries_of_find? free
    rw [placed.entries, List.filter_append, show registry.entries.filter _ = _ from kept]
    simp
  have moved := free_rekey found apart missing placed.waits
  rwa [left] at moved

end Registry

namespace Coordinator

variable {c d : Coordinator} {task : TaskId} {settings : Loopback} {index : Nat}
  {flight : Flight} {flights : List Flight} {job : Job}

/-! ## Sending -/

/-- What the first turn of a request does: it is sent, registered and waits for its verdict, and
a task begins that brings its reply. -/
structure Launched (c : Coordinator) (settings : Loopback) (index : Nat) (flight : Flight)
    (d : Coordinator) : Prop where
  entries : d.registry.entries = c.registry.entries ++ [flight.entry settings index]
  waits : d.registry.waits = []
  handoffs : d.handoffs = c.handoffs ++ [Handoff.fresh]
  transport : d.transport = { c.transport with
    sent := c.transport.sent ++ [flight.record settings index]
    assigned := if settings.assignIds then c.transport.assigned + 1 else c.transport.assigned }
  config : d.config = c.config
  lifecycle : d.lifecycle = c.lifecycle
  dissolved : d.dissolved = c.dissolved
  address : d.replyAddress = c.replyAddress
  now : d.now = c.now
  begun : d.begun = c.begun + 1
  tasks : d.tasks = (c.tasks ++ [(c.begun, flight.errand settings index)]).map fun entry =>
    if entry.1 = flight.task then (flight.task, .suspended index) else entry
  ready : d.ready = if settings.replyLatency.isZero then c.ready ++ [c.begun] else c.ready
  ended : d.ended = c.ended

/-- A loopback notes what it is sent and gives the reply its way. -/
theorem send_eq (serving : c.Serving settings) (replies : settings.Replies)
    (assigned : c.transport.assigned = if settings.assignIds then index else 0) :
    c.transport.send flight.exchange.inbound flight.replyTo flight.id =
      { transport := { c.transport with
          sent := c.transport.sent ++ [flight.record settings index]
          assigned :=
            if settings.assignIds then c.transport.assigned + 1 else c.transport.assigned }
        answer := .ok (if settings.assignIds then some (Loopback.assignedId index) else none)
        reply := some (flight.reply settings index, settings.replyLatency) } := by
  cases assigns : settings.assignIds with
  | true =>
      rw [assigns, if_pos rfl] at assigned
      simp [Transport.send, Transport.sendBack, serving.line, serving.listening, replies.speaks,
        replies.accepts, assigns, assigned, Flight.record, Flight.reply, Flight.replyId,
        Loopback.assignedId]
  | false =>
      simp [Transport.send, Transport.sendBack, serving.line, serving.listening, replies.speaks,
        replies.accepts, assigns, Flight.record, Flight.reply, Flight.replyId]

theorem carry_eq (c : Coordinator) (settings : Loopback) (index : Nat)
    (launched : flight.instant = c.now) :
    c.carry (some (flight.reply settings index, settings.replyLatency)) =
      { c with
        tasks := c.tasks ++ [(c.begun, flight.errand settings index)]
        ready := if settings.replyLatency.isZero then c.ready ++ [c.begun] else c.ready
        begun := c.begun + 1 } := by
  cases zero : settings.replyLatency.isZero with
  | true => simp [carry, spawn, Flight.errand, zero]
  | false => simp [carry, spawnAsleep, Flight.errand, Flight.due, zero, launched]

theorem adopt_of_free {placement : Registry.Placement} {entries : List Pending}
    (free : placement.Free entries) :
    c.adopt placement = { c with registry := placement.registry } := by
  simp only [adopt, free.displaced, free.woken]
  rfl

theorem enrol_of_free {x : Exchange} {id : String} {timeout : Duration}
    {placement : Registry.Placement} {entries : List Pending}
    (running : c.lifecycle.runAllowed = true)
    (registers : c.registry.register? c.now id timeout x c.handoffs.length = some placement)
    (free : placement.Free entries) :
    c.enrol x id timeout =
      .ok ({ c.opened with registry := placement.registry }, c.handoffs.length) := by
  rcases c.enrol_cases x id timeout with
    ⟨closed, _⟩ | ⟨_, unfit, _⟩ | ⟨again, _, registersToo, placed⟩
  · rw [running] at closed
    simp at closed
  · obtain ⟨_, fits, _⟩ := Registry.register?_eq_some registers
    rw [unfit] at fits
    simp at fits
  · rw [registers, Option.some_inj] at registersToo
    rw [placed, ← registersToo, adopt_of_free free]

/-- There is nothing to collect yet. -/
theorem collect_of_fresh {ticket : Ticket} (waiting : c.handoffs[ticket]? = some Handoff.fresh) :
    c.collect task ticket = c.park task (.suspended ticket) := by
  have looks : (c.handoffs.getD ticket Handoff.fresh).look = (Handoff.fresh, .pending) := by
    rw [List.getD_eq_getElem?_getD, waiting]
    rfl
  simp only [collect, looks]

/-- A request that was accepted is registered under the id that its reply will carry. -/
theorem settleSend_eq (running : c.lifecycle.runAllowed = true) (quiet : c.registry.waits = [])
    (instant : flight.instant = c.now)
    (fits : (flight.instant.after? flight.timeout).isSome)
    (free : c.registry.find? flight.id = none) (size : c.handoffs.length = index)
    (assigns : settings.assignIds = true → flight.id ≠ Loopback.assignedId index ∧
      c.registry.find? (Loopback.assignedId index) = none) :
    ∃ registry : Registry,
      registry.entries = c.registry.entries ++ [flight.entry settings index] ∧
      registry.waits = [] ∧
      c.settleSend flight.task flight.exchange flight.id flight.timeout
          (.ok (if settings.assignIds then some (Loopback.assignedId index) else none)) =
        ({ c.opened with registry }).park flight.task (.suspended index) := by
  subst size
  obtain ⟨deadline, fits⟩ := Option.isSome_iff_exists.mp fits
  have limit := Instant.after?_eq fits
  rw [instant] at fits
  obtain ⟨placement, registers, placed⟩ :=
    Registry.free_register? free quiet fits flight.exchange c.handoffs.length
  have enrols := enrol_of_free running registers placed
  have waiting : (c.handoffs ++ [Handoff.fresh])[c.handoffs.length]? = some Handoff.fresh := by
    simp
  cases assigned : settings.assignIds with
  | false =>
      refine ⟨placement.registry, ?_, placed.waits, ?_⟩
      · rw [placed.entries, limit, ← instant]
        simp [Flight.entry, Flight.replyId, assigned]
      · simp only [settleSend, enrols, Bool.false_eq_true, if_false, Option.filter_none]
        exact collect_of_fresh waiting
  | true =>
      obtain ⟨apart, unused⟩ := assigns assigned
      have moved := placed.moved free apart unused
      refine ⟨_, ?_, moved.waits, ?_⟩
      · rw [moved.entries]
        simp [Pending.moveTo, Flight.entry, Flight.replyId, assigned, limit, instant]
      · simp only [settleSend, enrols, if_true]
        rw [Option.filter_some, if_pos (by simpa using apart.symm)]
        simp only [rekey]
        rw [adopt_of_free moved]
        exact collect_of_fresh waiting

theorem provisionalId_eq (c : Coordinator) (x : Exchange) :
    ∃ named, (c.provisionalId x).1 = { c with named } := by
  unfold provisionalId
  split
  · exact ⟨c.named, rfl⟩
  · exact ⟨c.named + 1, rfl⟩

/-- **The first turn of a request** that finds the reply address and free ids. -/
theorem launched_sendRequest (serving : c.Serving settings) (replies : settings.Replies)
    (size : c.handoffs.length = index)
    (assigned : c.transport.assigned = if settings.assignIds then index else 0)
    (known : flight.id = (c.provisionalId flight.exchange).2) (instant : flight.instant = c.now)
    (fits : (flight.instant.after? flight.timeout).isSome)
    (free : c.registry.find? flight.id = none)
    (assigns : settings.assignIds = true → flight.id ≠ Loopback.assignedId index ∧
      c.registry.find? (Loopback.assignedId index) = none) :
    c.Launched settings index flight
      (c.sendRequest flight.task flight.exchange flight.timeout flight.replyTo) := by
  obtain ⟨number, named⟩ := c.provisionalId_eq flight.exchange
  let sent : Coordinator := { c with
    named := number
    transport := { c.transport with
      sent := c.transport.sent ++ [flight.record settings index]
      assigned := if settings.assignIds then c.transport.assigned + 1 else c.transport.assigned }
    tasks := c.tasks ++ [(c.begun, flight.errand settings index)]
    ready := if settings.replyLatency.isZero then c.ready ++ [c.begun] else c.ready
    begun := c.begun + 1 }
  have shape : c.sendRequest flight.task flight.exchange flight.timeout flight.replyTo =
      sent.settleSend flight.task flight.exchange flight.id flight.timeout
        (.ok (if settings.assignIds then some (Loopback.assignedId index) else none)) := by
    simp only [sendRequest, named, ← known]
    rw [send_eq serving replies assigned]
    simp only
    rw [carry_eq]
    exact instant
  obtain ⟨registry, entries, waits, settled⟩ := settleSend_eq (c := sent) serving.running
    serving.waits instant fits free size assigns
  rw [shape, settled]
  exact ⟨entries, waits, rfl, rfl, rfl, rfl, rfl, rfl, rfl, rfl, rfl, rfl, rfl⟩

/-- A request can be sent next to others: its reply comes in time, and no other stands under the ids
it needs. -/
structure Admits (c : Coordinator) (settings : Loopback) (flights : List Flight)
    (flight : Flight) : Prop where
  answerable : flight.Answerable settings
  assigned : settings.assignIds = true →
    ∀ index ≤ flights.length, flight.id ≠ Loopback.assignedId index
  apart : settings.assignIds = false →
    ∀ other ∈ flights, (c.job? other.task).isSome → other.id ≠ flight.id

theorem Serves.free (serves : c.Serves settings flights)
    (admits : c.Admits settings flights flight) : c.registry.find? flight.id = none := by
  refine Registry.find?_eq_none_iff.mpr fun entry inside => ?_
  obtain ⟨index, other, there, rfl, flying⟩ := serves.entries entry inside
  have before := (List.getElem?_eq_some_iff.mp there).1
  change other.replyId settings index ≠ flight.id
  cases assigns : settings.assignIds with
  | true =>
      rw [Flight.replyId, if_pos assigns]
      exact (admits.assigned assigns index (Nat.le_of_lt before)).symm
  | false =>
      rw [Flight.replyId, if_neg (by simp [assigns])]
      refine admits.apart assigns other (List.mem_of_getElem? there) ?_
      exact Option.isSome_iff_exists.mpr
        ⟨_, serves.orderly.job?_eq_some_iff.mpr flying.waits⟩

theorem Serves.free_assigned (serves : c.Serves settings flights)
    (assigns : settings.assignIds = true) :
    c.registry.find? (Loopback.assignedId flights.length) = none := by
  refine Registry.find?_eq_none_iff.mpr fun entry inside => ?_
  obtain ⟨index, other, there, rfl, flying⟩ := serves.entries entry inside
  change other.replyId settings index ≠ _
  rw [Flight.replyId, if_pos assigns]
  intro same
  have before := (List.getElem?_eq_some_iff.mp there).1
  exact Nat.ne_of_lt before (Loopback.assignedId_injective same)

theorem Orderly.ne_of_mem (orderly : c.Orderly) {first second : TaskId} {again : Job}
    (inside : (first, job) ∈ c.tasks) (insideToo : (second, again) ∈ c.tasks)
    (apart : job ≠ again) : first ≠ second := by
  rintro rfl
  exact apart (orderly.job_eq inside insideToo)

section Launched

variable (launched : (c.called flight.task).Launched settings flights.length flight d)

include launched

theorem Launched.keeps {entry : TaskId × Job} (inside : entry ∈ c.tasks)
    (apart : entry.1 ≠ flight.task) : entry ∈ d.tasks := by
  rw [launched.tasks]
  exact List.mem_map.mpr ⟨entry, List.mem_append_left _ inside, if_neg apart⟩

theorem Launched.still_ready {other : TaskId} (inside : other ∈ c.ready)
    (apart : other ≠ flight.task) : other ∈ d.ready := by
  have still : other ∈ (c.called flight.task).ready :=
    List.mem_filter.mpr ⟨inside, by simpa using apart⟩
  rw [launched.ready]
  split
  · exact List.mem_append_left _ still
  · exact still

/-- What the tasks do after a request was sent. -/
theorem Launched.task_cases {entry : TaskId × Job} (inside : entry ∈ d.tasks) :
    entry ∈ c.tasks ∧ entry.1 ≠ flight.task ∨
      entry = (flight.task, .suspended flights.length) ∨
      entry = (c.begun, flight.errand settings flights.length) := by
  rw [launched.tasks] at inside
  obtain ⟨before, member, rfl⟩ := List.mem_map.mp inside
  split
  · exact .inr (.inl rfl)
  · next apart =>
      rcases List.mem_append.mp member with old | new
      · exact .inl ⟨old, apart⟩
      · exact .inr (.inr (List.mem_singleton.mp new))

theorem Launched.handoffs_eq (size : c.handoffs.length = flights.length)
    (before : index < flights.length) : d.handoffs[index]? = c.handoffs[index]? := by
  rw [launched.handoffs]
  exact List.getElem?_append_left (size ▸ before)

/-- The other flights go on. -/
theorem Launched.flies (orderly : c.Orderly) (size : c.handoffs.length = flights.length)
    {waiting : Option Instant}
    (inside : (flight.task, .request flight.exchange flight.timeout waiting) ∈ c.tasks)
    {other : Flight} (before : index < flights.length)
    (flying : c.Flying settings index other) : d.Flying settings index other := by
  have owner := orderly.ne_of_mem flying.waits inside (by simp)
  have bringer := orderly.ne_of_mem flying.errand inside
    (errand_ne_request other settings index _ _ _)
  refine flying.keep ?_ (launched.handoffs_eq size before) ?_ (Nat.le_of_eq launched.now.symm) ?_ ?_
  · rw [launched.entries]
    exact List.mem_append_left _ flying.entry
  · rintro entry member (same | same)
    · exact launched.keeps member (same ▸ owner)
    · exact launched.keeps member (same ▸ bringer)
  · rw [launched.now]
    exact flying.due
  · intro now
    rw [launched.now] at now
    exact launched.still_ready (flying.comes now) bringer

theorem Launched.answered (orderly : c.Orderly) (size : c.handoffs.length = flights.length)
    {waiting : Option Instant}
    (inside : (flight.task, .request flight.exchange flight.timeout waiting) ∈ c.tasks)
    {other : Flight} (before : index < flights.length)
    (answered : c.Answered settings index other) : d.Answered settings index other := by
  have owner := orderly.ne_of_mem answered.waits inside (by simp)
  exact answered.keep (launched.handoffs_eq size before)
    (fun entry member same => launched.keeps member (same ▸ owner))
    (launched.still_ready answered.ready owner) launched.now

theorem Launched.returned {other : Flight} (returned : c.Returned settings other)
    (gone : d.job? other.task = none) : d.Returned settings other := by
  refine returned.keep (fun report => ?_) (fun report => ?_) gone
  · rw [launched.ended]
    exact id
  · rw [launched.ended]
    exact .inl

theorem Launched.serving (serving : c.Serving settings) : d.Serving settings where
  line := launched.transport ▸ serving.line
  listening := launched.transport ▸ serving.listening
  dissolved := launched.dissolved.trans serving.dissolved
  running := launched.lifecycle ▸ serving.running
  address := launched.address ▸ serving.address
  faults := launched.config ▸ serving.faults
  waits := launched.waits

/-- The new flight begins. -/
theorem Launched.takesOff (size : c.handoffs.length = flights.length) {waiting : Option Instant}
    (inside : (flight.task, .request flight.exchange flight.timeout waiting) ∈ c.tasks)
    (young : flight.task < c.begun) (carrier : flight.carrier = c.begun)
    (instant : flight.instant = c.now) : d.Flying settings flights.length flight := by
  have now : d.now = flight.instant := launched.now.trans instant.symm
  refine ⟨?_, ?_, ?_, ?_, Nat.le_of_eq now.symm, ?_, ?_⟩
  · rw [launched.entries]
    exact List.mem_append_right _ (List.mem_singleton.mpr rfl)
  · rw [launched.handoffs, ← size]
    exact List.getElem?_concat_length
  · rw [launched.tasks]
    exact List.mem_map.mpr ⟨_, List.mem_append_left _ inside, if_pos rfl⟩
  · rw [launched.tasks, carrier]
    exact List.mem_map.mpr ⟨_, List.mem_append_right _ (List.mem_singleton.mpr rfl),
      if_neg (Nat.ne_of_gt young)⟩
  · rw [now]
    rcases errand_cases flight settings flights.length with ⟨_, _, arrival⟩ | ⟨lasts, _, arrival⟩
    · exact Nat.le_of_eq arrival.symm
    · rw [arrival]
      exact Nat.le_trans (Nat.le_of_lt (Instant.lt_wakeUp lasts)) (Instant.le_tick _)
  · intro come
    rw [now] at come
    rcases errand_cases flight settings flights.length with ⟨zero, _, _⟩ | ⟨lasts, _, arrival⟩
    · rw [launched.ready, if_pos zero, carrier]
      exact List.mem_append_right _ (List.mem_singleton.mpr rfl)
    · rw [arrival] at come
      have later :=
        Nat.lt_of_lt_of_le (Instant.lt_wakeUp lasts) (Instant.le_tick (flight.due settings))
      exact absurd come (Nat.ne_of_lt later)

end Launched

/-- **A request is sent** next to those under way. -/
theorem Serves.launched (serves : c.Serves settings flights) {waiting : Option Instant}
    (inside : (flight.task, .request flight.exchange flight.timeout waiting) ∈ c.tasks)
    (carrier : flight.carrier = c.begun) (instant : flight.instant = c.now)
    (answerable : flight.Answerable settings)
    (launched : (c.called flight.task).Launched settings flights.length flight d)
    (live : ∃ registered, d.Live registered)
    (gone : ∀ other, other < c.begun → c.job? other = none → d.job? other = none) :
    d.Serves settings (flights ++ [flight]) := by
  have orderly := serves.orderly
  have young : flight.task < c.begun := orderly.begun _ inside
  have takesOff := launched.takesOff serves.size inside young carrier instant
  have flies : ∀ index other, flights[index]? = some other → c.Flying settings index other →
      d.Flying settings index other := fun index other there =>
    launched.flies orderly serves.size inside (List.getElem?_eq_some_iff.mp there).1
  have older : ∀ index other, flights[index]? = some other →
      (flights ++ [flight])[index]? = some other := fun index other there => by
    rw [List.getElem?_append_left (List.getElem?_eq_some_iff.mp there).1, there]
  have latest : (flights ++ [flight])[flights.length]? = some flight := List.getElem?_concat_length
  exact {
    live
    serving := launched.serving serves.serving
    size := by
      rw [launched.handoffs, List.length_append, List.length_append]
      exact congrArg (· + 1) serves.size
    log := by
      rw [launched.transport, List.mapIdx_concat]
      exact congrArg (· ++ [flight.record settings flights.length]) serves.log
    assigned := by
      rw [launched.transport, List.length_append]
      change (if _ then c.transport.assigned + 1 else c.transport.assigned) = _
      rw [serves.assigned]
      split <;> rfl
    carriers := by
      rw [List.map_append, List.nodup_append]
      refine ⟨serves.carriers, List.nodup_singleton _, fun old member new single => ?_⟩
      obtain ⟨other, inside, rfl⟩ := List.mem_map.mp member
      rw [List.mem_singleton.mp single]
      change _ ≠ flight.carrier
      rw [carrier]
      exact Nat.ne_of_lt (serves.begun other inside).2
    begun := by
      intro other member
      rw [launched.begun]
      change other.task < c.begun + 1 ∧ other.carrier < c.begun + 1
      rcases List.mem_append.mp member with old | new
      · have before := serves.begun other old
        exact ⟨Nat.lt_succ_of_lt before.1, Nat.lt_succ_of_lt before.2⟩
      · rw [List.mem_singleton.mp new, carrier]
        exact ⟨Nat.lt_succ_of_lt young, Nat.lt_succ_self _⟩
    answerable := by
      intro other member
      rcases List.mem_append.mp member with old | new
      · exact serves.answerable other old
      · exact List.mem_singleton.mp new ▸ answerable
    stages := by
      intro index other there
      rcases Nat.lt_or_ge index flights.length with before | after
      · rw [List.getElem?_append_left before] at there
        have old := (serves.begun other (List.mem_of_getElem? there)).1
        rcases serves.stages index other there with flying | answered | returned
        · exact .inl (flies index other there flying)
        · exact .inr (.inl (launched.answered orderly serves.size inside before answered))
        · exact .inr (.inr (launched.returned returned (gone _ old returned.gone)))
      · have here := (List.getElem?_eq_some_iff.mp there).1
        obtain rfl : index = flights.length := by
          rw [List.length_append, List.length_singleton] at here
          omega
        rw [latest, Option.some_inj] at there
        exact .inl (there ▸ takesOff)
    entries := by
      intro entry member
      rw [launched.entries] at member
      rcases List.mem_append.mp member with old | new
      · obtain ⟨index, other, there, same, flying⟩ := serves.entries entry old
        exact ⟨index, other, older index other there, same, flies index other there flying⟩
      · exact ⟨flights.length, flight, latest, List.mem_singleton.mp new, takesOff⟩
    jobs := by
      rintro entry member
      rcases launched.task_cases member with ⟨old, apart⟩ | rfl | rfl
      · obtain ⟨number, job⟩ := entry
        cases serves.jobs _ old with
        | background own => exact .background own
        | asks ready => exact .asks (launched.still_ready ready apart)
        | waits there own => exact .waits (older _ _ there) own
        | carries there own errand flying =>
            exact .carries (older _ _ there) own errand (flies _ _ there flying)
      · exact .waits latest rfl
      · exact .carries latest carrier rfl takesOff
    reported := serves.reported.keep launched.ended
      (Nat.le_trans (Nat.le_succ _) (Nat.le_of_eq launched.begun.symm)) gone
  }

end Coordinator

end Mediation
