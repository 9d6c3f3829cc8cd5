import Mediation.Proofs.Registry.Ledger

/-!
# The trails of requests

A request is registered under one id and may be moved to others. Its trail is the list of these ids
in order (`Trail`). The registry keeps only two of them: a request stands under the last id of its
trail, and it remembers the first one if it has moved at all (`Pending.Follows`). This holds of
every request in the registry after any history of operations (`Ledger.keeps_run`),
whatever ids collide and however often a request comes back to an id it had before.
-/

set_option autoImplicit false

namespace Mediation

/-- The ids that a request has been under. -/
structure Trail where
  /-- The id that it was registered under. -/
  first : String
  /-- The ids that it was moved to, in order. -/
  later : List String
deriving DecidableEq, Repr

namespace Trail

/-- A request that has just been registered. -/
def start (id : String) : Trail := ⟨id, []⟩

/-- The id that the trail ends at. -/
def last (trail : Trail) : String := trail.later.getLastD trail.first

/-- The trail of a request that moves on. -/
def extend (trail : Trail) (id : String) : Trail :=
  { trail with later := trail.later ++ [id] }

@[simp] theorem last_extend (trail : Trail) (id : String) : (trail.extend id).last = id := by
  simp [last, extend]

end Trail

namespace Pending

/-- A request stands under the last id of its trail. If it has moved it remembers the first, and
otherwise nothing. -/
structure Follows (entry : Pending) (trail : Trail) : Prop where
  key : entry.correlationId = trail.last
  first : entry.firstId = if trail.later = [] then none else some trail.first

variable {entry : Pending} {trail : Trail}

/-- A request that has not moved stands under its first id, and any other remembers it. -/
theorem Follows.getD_firstId (follows : entry.Follows trail) :
    entry.firstId.getD entry.correlationId = trail.first := by
  rw [follows.first, follows.key]
  split
  · next still => simp [Trail.last, still]
  · rfl

theorem Follows.moveTo (follows : entry.Follows trail) (id : String) :
    (entry.moveTo id).Follows (trail.extend id) where
  key := by
    rw [Trail.last_extend]
    rfl
  first := by
    rw [if_neg (by simp [Trail.extend])]
    exact congrArg some follows.getD_firstId

end Pending

/-! ## What happens to trails -/

/-- What an operation does to the trails, by ticket. -/
inductive Shift
  /-- The next ticket begins a trail. -/
  | enter (id : String)
  /-- A request moves on. -/
  | move (ticket : Ticket) (id : String)

namespace Shift

def apply (trails : List Trail) : Shift → List Trail
  | enter id => trails ++ [.start id]
  | move ticket id => trails.modify ticket (·.extend id)

end Shift

/-- The trails after some shifts, one after the other. -/
def shifted (trails : List Trail) (shifts : List Shift) : List Trail := shifts.foldl Shift.apply trails

/-- Every request of a registry follows the trail of its ticket. -/
def Traced (trails : List Trail) (entries : List Pending) : Prop :=
  ∀ entry ∈ entries, ∃ trail, trails[entry.ticket]? = some trail ∧ entry.Follows trail

section Traced

variable {trails : List Trail} {entries fewer : List Pending} {entry : Pending} {id : String}

theorem Traced.subset (traced : Traced trails entries) (subset : fewer ⊆ entries) :
    Traced trails fewer := fun entry member => traced entry (subset member)

/-- A trail that begins leaves the others as they are. -/
theorem Traced.enter (traced : Traced trails entries) (id : String) :
    Traced ((Shift.enter id).apply trails) entries := by
  intro entry member
  obtain ⟨trail, known, follows⟩ := traced entry member
  refine ⟨trail, ?_, follows⟩
  rw [Shift.apply, List.getElem?_append_left (List.getElem?_eq_some_iff.mp known).1]
  exact known

/-- A request that has just been registered begins a trail. -/
theorem Traced.cons_entered (traced : Traced trails entries) (next : entry.ticket = trails.length)
    (fresh : entry.firstId = none) :
    Traced ((Shift.enter entry.correlationId).apply trails) (entry :: entries) := by
  intro other member
  rcases List.mem_cons.mp member with rfl | old
  · exact ⟨.start other.correlationId, by simp [Shift.apply, next], ⟨rfl, fresh⟩⟩
  · exact traced.enter _ other old

/-- A request that moves on extends its trail and no other. -/
theorem Traced.cons_moved (traced : Traced trails (entry :: entries))
    (alone : ∀ other ∈ entries, other.ticket ≠ entry.ticket) :
    Traced ((Shift.move entry.ticket id).apply trails) (entry.moveTo id :: entries) := by
  intro other member
  rcases List.mem_cons.mp member with rfl | old
  · obtain ⟨trail, known, follows⟩ := traced entry List.mem_cons_self
    refine ⟨trail.extend id, ?_, follows.moveTo id⟩
    change (trails.modify entry.ticket _)[entry.ticket]? = _
    simp [known]
  · obtain ⟨trail, known, follows⟩ := traced other (List.mem_cons_of_mem _ old)
    refine ⟨trail, ?_, follows⟩
    change (trails.modify entry.ticket _)[other.ticket]? = _
    rw [List.getElem?_modify_ne _ _ (alone other old).symm]
    exact known

end Traced

namespace Registry

open scoped List

variable {registry : Registry} {trails : List Trail}

/-- The shift of moving the request under an id. -/
def rekeyShift? (registry : Registry) (source target : String) : Option Shift :=
  if source = target then none
  else (registry.find? source).map fun entry => .move entry.ticket target

/-- **Registering begins a trail.** -/
theorem traced_register? {now : Instant} {id : String} {timeout : Duration} {x : Exchange}
    {placement : Placement} (traced : Traced trails registry.entries)
    (registers : registry.register? now id timeout x trails.length = some placement) :
    Traced (shifted trails [.enter id]) placement.registry.entries := by
  obtain ⟨deadline, _, entries, _⟩ := register?_eq_some registers
  let new : Pending := ⟨id, none, now, deadline, timeout, x, trails.length⟩
  have begun : Traced (shifted trails [.enter id]) (new :: registry.entries) :=
    traced.cons_entered rfl rfl
  rw [entries]
  refine begun.subset ?_
  intro entry member
  rcases List.mem_append.mp member with old | new
  · exact List.mem_cons_of_mem _ (mem_without.mp old).1
  · rw [List.mem_singleton.mp new]
    exact List.mem_cons_self

/-- **Moving extends the trail of the request that moves.** -/
theorem traced_rekey (traced : Traced trails registry.entries) (keys : registry.KeysDistinct)
    (tickets : (registry.entries.map (·.ticket)).Nodup) (source target : String) :
    Traced (shifted trails (registry.rekeyShift? source target).toList)
      (registry.rekey source target).1.registry.entries := by
  rcases rekey_cases registry source target with ⟨idle, unchanged⟩ | ⟨entry, found, apart, moved⟩
  · have none_moves : registry.rekeyShift? source target = none := by
      rcases idle with missing | same
      · simp [rekeyShift?, missing]
      · simp [rekeyShift?, same]
    rw [unchanged, none_moves]
    exact traced
  · have moves : registry.rekeyShift? source target = some (.move entry.ticket target) := by
      simp [rekeyShift?, apart, found]
    have split := keys.perm_of_find? found
    rw [(split.map _).nodup_iff, List.map_cons, List.nodup_cons] at tickets
    rw [moves, moved, place_entries]
    refine Traced.subset (Traced.cons_moved (traced.subset split.symm.subset) ?_) ?_
    · intro other member same
      exact tickets.1 (same ▸ List.mem_map_of_mem member)
    · intro other member
      rcases List.mem_append.mp member with old | new
      · exact List.mem_cons_of_mem _ (mem_without.mp old).1
      · rw [List.mem_singleton.mp new]
        exact List.mem_cons_self

end Registry

/-- Every id finds the request that is stored with it and no other; and every request stands under
the last id of its trail, and remembers the first exactly if it has moved. -/
structure Registry.Keeps (registry : Registry) (trails : List Trail) : Prop where
  found : ∀ id entry, registry.find? id = some entry ↔
    entry ∈ registry.entries ∧ entry.correlationId = id
  stands : Traced trails registry.entries

/-! ## Histories of a registry -/

namespace Ledger

open Registry (Operation)

variable {ledger : Ledger} {trails : List Trail}

/-- What an operation does to the trails. -/
def shifts (ledger : Ledger) : Operation → List Shift
  | .register now id timeout _ => if (now.after? timeout).isSome then [.enter id] else []
  | .rekey source target => (ledger.registry.rekeyShift? source target).toList
  | .resolve _ _ | .remove _ | .sweep _ | .drain => []

/-- The trails of a history, from those before it. -/
def trailsAfter (ledger : Ledger) (sofar : List Trail) : List Operation → List Trail
  | [] => sofar
  | operation :: rest =>
    (ledger.step operation).trailsAfter (shifted sofar (ledger.shifts operation)) rest

theorem adopt_registered (ledger : Ledger) (placement : Registry.Placement) :
    (ledger.adopt placement).registered = ledger.registered := by
  unfold adopt
  cases placement.displaced <;> rfl

/-- In sound books different requests have different tickets. -/
theorem Sound.tickets (sound : ledger.Sound) :
    (ledger.registry.entries.map (·.ticket)).Nodup := by
  have distinct := sound.balanced.nodup
  rw [List.map_map, places, List.map_append, List.map_map] at distinct
  exact (List.nodup_append.mp distinct).1

/-- The trails of a ledger say where its requests are, one for each registration. -/
structure Follows (ledger : Ledger) (trails : List Trail) : Prop where
  size : trails.length = ledger.registered.length
  traced : Traced trails ledger.registry.entries

/-- **Every operation** shifts the trails along with the requests. -/
theorem Follows.step (follows : ledger.Follows trails) (sound : ledger.Sound)
    (operation : Operation) :
    (ledger.step operation).Follows (shifted trails (ledger.shifts operation)) := by
  obtain ⟨size, traced⟩ := follows
  cases operation with
  | register now id timeout x =>
      cases registers : ledger.registry.register? now id timeout x ledger.registered.length with
      | none =>
          have unfit : (now.after? timeout).isSome = false := by
            simpa [Registry.register?] using registers
          simpa [Ledger.step, Ledger.shifts, registers, unfit, shifted] using ⟨size, traced⟩
      | some placement =>
          obtain ⟨deadline, fits, _⟩ := Registry.register?_eq_some registers
          have shifts : ledger.shifts (.register now id timeout x) = [.enter id] := by
            simp [Ledger.shifts, fits]
          rw [shifts]
          simp only [Ledger.step, registers]
          refine ⟨?_, ?_⟩
          · rw [adopt_registered]
            simp [shifted, Shift.apply, size]
          · rw [adopt_registry]
            rw [← size] at registers
            exact Registry.traced_register? traced registers
  | rekey source target =>
      refine ⟨?_, ?_⟩
      · change _ = (ledger.adopt _).registered.length
        rw [adopt_registered, ← size]
        simp only [Ledger.shifts, Registry.rekeyShift?]
        split
        · rfl
        · cases ledger.registry.find? source <;> simp [shifted, Shift.apply]
      · change Traced _ (ledger.adopt _).registry.entries
        rw [adopt_registry]
        exact Registry.traced_rekey traced sound.keys sound.tickets source target
  | resolve id reply => exact ⟨size, traced.subset (ledger.registry.resolve_subset id reply)⟩
  | remove id => exact ⟨size, traced.subset (ledger.registry.remove_subset id)⟩
  | sweep now => exact ⟨size, traced.subset (ledger.registry.sweep_subset now)⟩
  | drain => exact ⟨size, traced.subset (List.nil_subset _)⟩

theorem Follows.run (follows : ledger.Follows trails) (sound : ledger.Sound)
    (operations : List Operation) :
    (ledger.run operations).Follows (ledger.trailsAfter trails operations) := by
  induction operations generalizing ledger trails with
  | nil => exact follows
  | cons operation rest ih => exact ih (follows.step sound operation) (sound.step operation)

/-- **A registry keeps the ids of its requests**, whatever operations it has seen. -/
theorem keeps_run (operations : List Operation) :
    (empty.run operations).registry.Keeps (empty.trailsAfter [] operations) := by
  have start : empty.Follows [] := ⟨rfl, by simp [Traced, empty, Registry.empty]⟩
  exact ⟨fun id entry => (sound_empty.run operations).keys.find?_eq_some_iff,
    (start.run sound_empty operations).traced⟩

end Ledger

end Mediation
