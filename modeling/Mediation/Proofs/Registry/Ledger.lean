import Mediation.Proofs.Handoff.Accounts

/-!
# Where every registration is

A ledger keeps, beside a registry, the holders that its operations have handed out and the requests
that were displaced. Every registration is in exactly one of three places (`Place`): live in the
registry, handed out in a holder, or superseded. An operation moves it along (`Moves`); from the
last two places it never comes back, and wherever it is, it carries what it was registered with.
-/

set_option autoImplicit false

namespace Mediation

open scoped List

/-! ## Ledgers -/

namespace Registry

/-- An operation on a registry, with the reading of the clock where it takes one. -/
inductive Operation
  | register (now : Instant) (id : String) (timeout : Duration) (x : Exchange)
  | rekey (source target : String)
  | resolve (id : String) (reply : Message)
  | remove (id : String)
  | sweep (now : Instant)
  | drain

end Registry

/-- A registry with the history of its registrations. -/
structure Ledger where
  registry : Registry
  /-- What was registered, by ticket. -/
  registered : List (Exchange × Duration)
  handedOut : List Holder
  superseded : List Pending
  /-- The two halves of every registration, by ticket. -/
  handoffs : List Handoff

namespace Ledger

open Registry (Operation)

/-- Nothing yet. -/
def empty : Ledger :=
  { registry := Registry.empty, registered := [], handedOut := [], superseded := [],
    handoffs := [] }

/-- Takes over what a placement has done: the continuation of a displaced request is given up. -/
def adopt (ledger : Ledger) (placement : Registry.Placement) : Ledger :=
  match placement.displaced with
  | none => { ledger with registry := placement.registry }
  | some entry =>
    { ledger with
      registry := placement.registry
      superseded := entry :: ledger.superseded
      handoffs := ledger.handoffs.modify entry.ticket Handoff.supersede }

/-- Keeps the holders that an operation has handed out. -/
def keep (ledger : Ledger) (registry : Registry) (holders : List Holder) : Ledger :=
  { ledger with registry, handedOut := ledger.handedOut ++ holders }

/-- What an operation does. Nothing is registered if the clock cannot hold the deadline. -/
def step (ledger : Ledger) : Operation → Ledger
  | .register now id timeout x =>
    match ledger.registry.register? now id timeout x ledger.registered.length with
    | none => ledger
    | some placement =>
      { ledger with
        registered := ledger.registered ++ [(x, timeout)]
        handoffs := ledger.handoffs ++ [Handoff.fresh] }.adopt placement
  | .rekey source target => ledger.adopt (ledger.registry.rekey source target).1
  | .resolve id reply =>
    let (registry, holder) := ledger.registry.resolve id reply
    ledger.keep registry holder.toList
  | .remove id =>
    let (registry, holder) := ledger.registry.remove id
    ledger.keep registry holder.toList
  | .sweep now =>
    let (registry, holders) := ledger.registry.sweep now
    ledger.keep registry holders
  | .drain =>
    let (registry, holders) := ledger.registry.drain
    ledger.keep registry holders

/-- What a sequence of operations does. -/
def run (ledger : Ledger) (operations : List Operation) : Ledger := operations.foldl step ledger

end Ledger

/-! ## Places -/

/-- Where a registration can be. -/
inductive Place
  | live (entry : Pending)
  | handedOut (holder : Holder)
  | superseded (entry : Pending)

namespace Place

/-- The account of a registration in a place. The continuation of a superseded one was given up. -/
def account : Place → Account
  | live entry => entry.account
  | handedOut holder => holder.account
  | superseded entry => { entry.account with handoff := Handoff.fresh.supersede }

/-- The registration that is in a place. -/
def ticket (place : Place) : Ticket := place.account.ticket

/-- Whether a registration is taken out of the registry for good. -/
def isFinal : Place → Prop
  | live _ => False
  | handedOut _ | superseded _ => True

end Place

namespace Ledger

open Registry (Operation)

variable {ledger : Ledger}

/-- All places of a ledger that are taken. -/
def places (ledger : Ledger) : List Place :=
  ledger.registry.entries.map .live ++
    (ledger.superseded.map .superseded ++ ledger.handedOut.map .handedOut)

/-- The places in which a registration is. -/
def placesOf (ledger : Ledger) (ticket : Ticket) : List Place :=
  ledger.places.filter fun place => place.ticket = ticket

/-- How an operation moves a registration. -/
inductive Moves : Operation → Place → Place → Prop
  | stays (operation : Operation) (place : Place) : Moves operation place place
  | moved {source target : String} {entry : Pending} :
      entry.correlationId = source → source ≠ target →
        Moves (.rekey source target) (.live entry) (.live (entry.moveTo target))
  | resolved {id : String} {reply : Message} {entry : Pending} :
      entry.correlationId = id →
        Moves (.resolve id reply) (.live entry) (.handedOut (entry.release (some reply) false))
  | removed {id : String} {entry : Pending} :
      entry.correlationId = id →
        Moves (.remove id) (.live entry) (.handedOut (entry.release none false))
  | swept {now : Instant} {entry : Pending} :
      entry.deadline ≤ now →
        Moves (.sweep now) (.live entry) (.handedOut (entry.release none true))
  | drained {entry : Pending} :
      Moves .drain (.live entry) (.handedOut (entry.release none false))
  | displacedByRegister {now : Instant} {id : String} {timeout : Duration} {x : Exchange}
      {entry : Pending} :
      entry.correlationId = id →
        Moves (.register now id timeout x) (.live entry) (.superseded entry)
  | displacedByRekey {source target : String} {entry : Pending} :
      entry.correlationId = target → source ≠ target →
        Moves (.rekey source target) (.live entry) (.superseded entry)

/-! ## The books of a ledger -/

/-- No two requests wait under one id, and the places account for every registration. -/
structure Sound (ledger : Ledger) : Prop where
  keys : ledger.registry.KeysDistinct
  balanced : Balanced ledger.registered ledger.handoffs (ledger.places.map Place.account)

theorem sound_empty : empty.Sound where
  keys := Registry.keysDistinct_empty
  balanced := .nil

theorem mem_placesOf {place : Place} {ticket : Ticket} :
    place ∈ ledger.placesOf ticket ↔ place ∈ ledger.places ∧ place.ticket = ticket := by
  simp [placesOf]

theorem mem_places_live {entry : Pending} :
    Place.live entry ∈ ledger.places ↔ entry ∈ ledger.registry.entries := by
  simp [places]

theorem mem_places_handedOut {holder : Holder} :
    Place.handedOut holder ∈ ledger.places ↔ holder ∈ ledger.handedOut := by
  simp [places]

theorem mem_places_superseded {entry : Pending} :
    Place.superseded entry ∈ ledger.places ↔ entry ∈ ledger.superseded := by
  simp [places]

/-- In sound books a taken place is the only place of its registration. -/
theorem Sound.placesOf_eq (sound : ledger.Sound) {place : Place} {ticket : Ticket}
    (member : place ∈ ledger.places) (here : place.ticket = ticket) :
    ledger.placesOf ticket = [place] := by
  have tickets : (ledger.places.map Place.ticket).Nodup := by
    have distinct := sound.balanced.nodup
    rwa [List.map_map] at distinct
  refine List.perm_singleton.mp ?_
  refine (List.perm_ext_iff_of_nodup ((List.Nodup.of_map _ tickets).filter _)
    (List.nodup_singleton place)).mpr ?_
  intro other
  rw [List.mem_filter, List.mem_singleton, decide_eq_true_iff]
  constructor
  · rintro ⟨inside, same⟩
    exact List.inj_on_of_nodup_map tickets inside member (same.trans here.symm)
  · rintro rfl
    exact ⟨member, here⟩

/-- The accounts of the registrations that have left the registry. -/
def finalAccounts (ledger : Ledger) : List Account :=
  (ledger.superseded.map fun entry => (Place.superseded entry).account) ++
    ledger.handedOut.map Holder.account

theorem accounts_places (ledger : Ledger) :
    ledger.places.map Place.account =
      ledger.registry.entries.map Pending.account ++ ledger.finalAccounts := by
  simp only [places, finalAccounts, List.map_append, List.map_map]
  rfl

/-- Requests that leave the registry go on to stand in the books as holders. -/
theorem Sound.keep (sound : ledger.Sound) (registry : Registry) (taken : List Pending)
    (keys : registry.KeysDistinct) (reply : Option Message) (timedOut : Bool)
    (split : ledger.registry.entries ~ taken ++ registry.entries) :
    (ledger.keep registry (taken.map (·.release reply timedOut))).Sound where
  keys := keys
  balanced := by
    refine sound.balanced.perm ?_
    have released : (taken.map (·.release reply timedOut)).map Holder.account =
        taken.map Pending.account := by
      rw [List.map_map]
      rfl
    have accounts := (split.map Pending.account).append_right ledger.finalAccounts
    rw [List.map_append, List.append_assoc] at accounts
    rw [accounts_places, accounts_places]
    simp only [Ledger.keep, finalAccounts, List.map_append, released] at accounts ⊢
    refine accounts.trans (List.perm_append_comm.trans ?_)
    simp only [List.append_assoc]
    exact .refl _

/-- A request that is put under an id joins the books, and the one that was there stands in them as
superseded. -/
theorem adopt_balanced {before : List Account} {placement : Registry.Placement}
    (balanced : Balanced ledger.registered ledger.handoffs (before ++ ledger.finalAccounts))
    (split : before ~
      (placement.displaced.toList ++ placement.registry.entries).map Pending.account) :
    Balanced (ledger.adopt placement).registered (ledger.adopt placement).handoffs
      ((ledger.adopt placement).places.map Place.account) := by
  rw [accounts_places]
  have accounts := split.append_right ledger.finalAccounts
  unfold adopt
  cases displaced : placement.displaced with
  | none =>
      simp only [displaced, Option.toList_none, List.nil_append] at accounts
      exact balanced.perm accounts
  | some entry =>
      simp only [displaced, Option.toList_some, List.map_cons, List.cons_append,
        List.nil_append] at accounts
      exact ((balanced.perm accounts).changed Handoff.supersede).perm List.perm_middle.symm

theorem adopt_registry (ledger : Ledger) (placement : Registry.Placement) :
    (ledger.adopt placement).registry = placement.registry := by
  unfold adopt
  cases placement.displaced <;> rfl

theorem Sound.register (sound : ledger.Sound) (now : Instant) (id : String) (timeout : Duration)
    (x : Exchange) : (ledger.step (.register now id timeout x)).Sound := by
  simp only [Ledger.step]
  cases placed : ledger.registry.register? now id timeout x ledger.registered.length with
  | none => exact sound
  | some placement =>
      obtain ⟨entry, next, rfl, rfl, keys, split⟩ := sound.keys.register? placed
      refine ⟨?_, ?_⟩
      · rw [adopt_registry]
        exact keys
      · have opened := sound.balanced.opened entry.account next
        rw [accounts_places, ← List.cons_append] at opened
        exact adopt_balanced opened (split.map Pending.account)

theorem Sound.rekey (sound : ledger.Sound) (source target : String) :
    (ledger.step (.rekey source target)).Sound := by
  refine ⟨?_, ?_⟩
  · rw [Ledger.step, adopt_registry]
    exact sound.keys.rekey source target
  · have balanced := sound.balanced
    rw [accounts_places] at balanced
    exact adopt_balanced balanced (sound.keys.accounts_rekey source target)

/-- Taking out one request under its id keeps the books sound. -/
theorem Sound.take (sound : ledger.Sound) {id : String} {entry : Pending}
    (found : ledger.registry.find? id = some entry) (reply : Option Message) :
    (ledger.keep (ledger.registry.without id).report [entry.release reply false]).Sound :=
  sound.keep (ledger.registry.without id).report [entry] (sound.keys.without id) reply false
    (sound.keys.perm_of_find? found)

/-- **An operation keeps the books sound.** -/
theorem Sound.step (sound : ledger.Sound) (operation : Operation) :
    (ledger.step operation).Sound := by
  cases operation with
  | register now id timeout x => exact sound.register now id timeout x
  | rekey source target => exact sound.rekey source target
  | resolve id reply =>
      rcases Registry.resolve_cases ledger.registry id reply with
        ⟨_, unchanged⟩ | ⟨entry, found, taken⟩
      · rw [Ledger.step, unchanged]
        exact sound.keep ledger.registry [] sound.keys none false (.refl _)
      · rw [Ledger.step, taken]
        exact sound.take found (some reply)
  | remove id =>
      rcases Registry.remove_cases ledger.registry id with
        ⟨_, unchanged⟩ | ⟨entry, found, taken⟩
      · rw [Ledger.step, unchanged]
        exact sound.keep ledger.registry [] sound.keys none false (.refl _)
      · rw [Ledger.step, taken]
        exact sound.take found none
  | sweep now =>
      change (ledger.keep (ledger.registry.sweep now).1 (ledger.registry.sweep now).2).Sound
      rw [Registry.sweep_holders]
      exact sound.keep _ _ (sound.keys.sweep now) none true (ledger.registry.perm_sweep now)
  | drain =>
      change (ledger.keep ledger.registry.drain.1 ledger.registry.drain.2).Sound
      rw [Registry.drain_holders]
      refine sound.keep _ _ (Registry.keysDistinct_drain _) none false ?_
      rw [Registry.drain_entries, List.append_nil]

theorem Sound.run (sound : ledger.Sound) (operations : List Operation) :
    (ledger.run operations).Sound := by
  induction operations generalizing ledger with
  | nil => exact sound
  | cons operation rest ih => exact ih (sound.step operation)

/-! ## Moving along -/

theorem mem_keep_of_final {registry : Registry} {holders : List Holder} {place : Place}
    (member : place ∈ ledger.places) (final : place.isFinal) :
    place ∈ (ledger.keep registry holders).places := by
  cases place with
  | live entry => exact final.elim
  | handedOut holder =>
      exact mem_places_handedOut.mpr
        (List.mem_append_left _ (mem_places_handedOut.mp member))
  | superseded entry =>
      have known : entry ∈ ledger.superseded := mem_places_superseded.mp member
      exact mem_places_superseded.mpr known

theorem mem_adopt_of_final {placement : Registry.Placement} {place : Place}
    (member : place ∈ ledger.places) (final : place.isFinal) :
    place ∈ (ledger.adopt placement).places := by
  unfold adopt
  cases place with
  | live entry => exact final.elim
  | handedOut holder =>
      rw [mem_places_handedOut] at member ⊢
      cases placement.displaced with
      | none => exact member
      | some other => exact member
  | superseded entry =>
      rw [mem_places_superseded] at member ⊢
      cases placement.displaced with
      | none => exact member
      | some other => exact List.mem_cons_of_mem _ member

/-- **A registration that has left the registry stays where it is.** -/
theorem mem_step_of_final {place : Place} (member : place ∈ ledger.places) (final : place.isFinal)
    (operation : Operation) : place ∈ (ledger.step operation).places := by
  cases operation with
  | register now id timeout x =>
      simp only [step]
      cases ledger.registry.register? now id timeout x ledger.registered.length with
      | none => exact member
      | some placement => exact mem_adopt_of_final member final
  | rekey source target => exact mem_adopt_of_final member final
  | resolve id reply => exact mem_keep_of_final member final
  | remove id => exact mem_keep_of_final member final
  | sweep now => exact mem_keep_of_final member final
  | drain => exact mem_keep_of_final member final

/-- A placement leaves a request where it is or displaces it. -/
theorem mem_adopt_of_split {placement : Registry.Placement} {entry : Pending}
    (member : entry ∈ placement.displaced.toList ++ placement.registry.entries) :
    Place.live entry ∈ (ledger.adopt placement).places ∨
      placement.displaced = some entry ∧
        Place.superseded entry ∈ (ledger.adopt placement).places := by
  rcases List.mem_append.mp member with out | kept
  · have displaced : placement.displaced = some entry := by simpa using out
    refine .inr ⟨displaced, ?_⟩
    rw [mem_places_superseded, adopt, displaced]
    exact List.mem_cons_self
  · left
    rw [mem_places_live, adopt_registry]
    exact kept

/-- An operation that hands holders out leaves a request where it is or hands it out. -/
theorem mem_keep_of_split {registry : Registry} {taken : List Pending} {reply : Option Message}
    {timedOut : Bool} {entry : Pending} (member : entry ∈ taken ++ registry.entries) :
    Place.live entry ∈ (ledger.keep registry (taken.map (·.release reply timedOut))).places ∨
      entry ∈ taken ∧ Place.handedOut (entry.release reply timedOut) ∈
        (ledger.keep registry (taken.map (·.release reply timedOut))).places := by
  rcases List.mem_append.mp member with out | kept
  · refine .inr ⟨out, mem_places_handedOut.mpr (List.mem_append_right _ ?_)⟩
    exact List.mem_map_of_mem out
  · exact .inl (mem_places_live.mpr kept)

theorem moves_register (sound : ledger.Sound) {entry : Pending}
    (member : entry ∈ ledger.registry.entries) (now : Instant) (id : String) (timeout : Duration)
    (x : Exchange) :
    ∃ next ∈ (ledger.step (.register now id timeout x)).places, next.ticket = entry.ticket ∧
      Moves (.register now id timeout x) (.live entry) next := by
  simp only [step]
  cases placed : ledger.registry.register? now id timeout x ledger.registered.length with
  | none => exact ⟨.live entry, mem_places_live.mpr member, rfl, .stays _ _⟩
  | some placement =>
      obtain ⟨deadline, _, entries, displaced⟩ := Registry.register?_eq_some placed
      have split : entry ∈ placement.displaced.toList ++ placement.registry.entries := by
        rw [displaced, entries, ← List.append_assoc]
        exact List.mem_append_left _ ((sound.keys.perm_without id).mem_iff.mp member)
      rcases mem_adopt_of_split split with kept | ⟨out, gone⟩
      · exact ⟨_, kept, rfl, .stays _ _⟩
      · refine ⟨_, gone, rfl, .displacedByRegister ?_⟩
        exact Registry.correlationId_of_find? (displaced.symm.trans out)

theorem moves_rekey (sound : ledger.Sound) {entry : Pending}
    (member : entry ∈ ledger.registry.entries) (source target : String) :
    ∃ next ∈ (ledger.step (.rekey source target)).places, next.ticket = entry.ticket ∧
      Moves (.rekey source target) (.live entry) next := by
  simp only [step]
  rcases Registry.rekey_cases ledger.registry source target with
    ⟨_, unchanged⟩ | ⟨found, here, different, moved⟩
  · rw [unchanged]
    exact ⟨.live entry, mem_places_live.mpr member, rfl, .stays _ _⟩
  · rw [moved]
    by_cases chosen : entry.correlationId = source
    · have same : entry = found :=
        sound.keys.eq_of_mem member (Registry.mem_of_find? here)
          (chosen.trans (Registry.correlationId_of_find? here).symm)
      subst same
      refine ⟨.live (entry.moveTo target), mem_places_live.mpr ?_, rfl, .moved chosen different⟩
      rw [adopt_registry, Registry.place_entries]
      exact List.mem_append_right _ (List.mem_singleton_self _)
    · have left := Registry.mem_without.mpr ⟨member, chosen⟩
      have split := ((sound.keys.without source).perm_place (found.moveTo target)).mem_iff.mp
        (List.mem_cons_of_mem _ left)
      rcases mem_adopt_of_split split with kept | ⟨out, gone⟩
      · exact ⟨_, kept, rfl, .stays _ _⟩
      · exact ⟨_, gone, rfl,
          .displacedByRekey (Registry.correlationId_of_find? out) different⟩

/-- **An operation moves a live request as its kind allows.** -/
theorem Sound.moves_live (sound : ledger.Sound) {entry : Pending}
    (member : entry ∈ ledger.registry.entries) (operation : Operation) :
    ∃ next ∈ (ledger.step operation).places, next.ticket = entry.ticket ∧
      Moves operation (.live entry) next := by
  cases operation with
  | register now id timeout x => exact moves_register sound member now id timeout x
  | rekey source target => exact moves_rekey sound member source target
  | resolve id reply =>
      rcases Registry.resolve_cases ledger.registry id reply with
        ⟨_, unchanged⟩ | ⟨found, here, taken⟩
      · rw [Ledger.step, unchanged]
        exact ⟨.live entry, mem_places_live.mpr member, rfl, .stays _ _⟩
      · rw [Ledger.step, taken]
        have split := (sound.keys.perm_without id).mem_iff.mp member
        rw [here] at split
        rcases mem_keep_of_split split with kept | ⟨out, gone⟩
        · exact ⟨_, kept, rfl, .stays _ _⟩
        · obtain rfl : entry = found := by simpa using out
          exact ⟨_, gone, rfl, .resolved (Registry.correlationId_of_find? here)⟩
  | remove id =>
      rcases Registry.remove_cases ledger.registry id with
        ⟨_, unchanged⟩ | ⟨found, here, taken⟩
      · rw [Ledger.step, unchanged]
        exact ⟨.live entry, mem_places_live.mpr member, rfl, .stays _ _⟩
      · rw [Ledger.step, taken]
        have split := (sound.keys.perm_without id).mem_iff.mp member
        rw [here] at split
        rcases mem_keep_of_split split with kept | ⟨out, gone⟩
        · exact ⟨_, kept, rfl, .stays _ _⟩
        · obtain rfl : entry = found := by simpa using out
          exact ⟨_, gone, rfl, .removed (Registry.correlationId_of_find? here)⟩
  | sweep now =>
      have split := (ledger.registry.perm_sweep now).mem_iff.mp member
      change ∃ next ∈ (ledger.keep (ledger.registry.sweep now).1
        (ledger.registry.sweep now).2).places, _
      rw [Registry.sweep_holders]
      rcases mem_keep_of_split split with kept | ⟨out, gone⟩
      · exact ⟨_, kept, rfl, .stays _ _⟩
      · exact ⟨_, gone, rfl, .swept (Registry.mem_expired.mp out).2⟩
  | drain =>
      refine ⟨.handedOut (entry.release none false), mem_places_handedOut.mpr ?_, rfl, .drained⟩
      exact List.mem_append_right _ (List.mem_map_of_mem member)

theorem Sound.moves (sound : ledger.Sound) {place : Place} (member : place ∈ ledger.places)
    (operation : Operation) :
    ∃ next ∈ (ledger.step operation).places, next.ticket = place.ticket ∧
      Moves operation place next := by
  cases place with
  | live entry => exact sound.moves_live (mem_places_live.mp member) operation
  | handedOut holder =>
      exact ⟨_, mem_step_of_final member trivial operation, rfl, .stays _ _⟩
  | superseded entry =>
      exact ⟨_, mem_step_of_final member trivial operation, rfl, .stays _ _⟩

theorem mem_run_of_final {place : Place} (member : place ∈ ledger.places) (final : place.isFinal)
    (operations : List Operation) : place ∈ (ledger.run operations).places := by
  induction operations generalizing ledger with
  | nil => exact member
  | cons operation rest ih => exact ih (mem_step_of_final member final operation)

/-! ## Conservation -/

/-- What is the case for a registration in a place: a live one is found under its own id and no
other, and it can still be resumed, as can one that is handed out; the suspension of a superseded
one says so. -/
def Tells (ledger : Ledger) : Place → Prop
  | .live entry =>
    (∀ id, (∃ found, ledger.registry.find? id = some found ∧ found.ticket = entry.ticket) ↔
      id = entry.correlationId) ∧
    ledger.handoffs[entry.ticket]? = some Handoff.fresh
  | .handedOut holder => ledger.handoffs[holder.ticket]? = some Handoff.fresh
  | .superseded entry =>
    ∃ handoff, ledger.handoffs[entry.ticket]? = some handoff ∧
      handoff.look.2 = .collected .superseded

theorem Sound.tells (sound : ledger.Sound) {place : Place} (member : place ∈ ledger.places) :
    ledger.Tells place := by
  have agrees := sound.balanced.agrees _ (List.mem_map_of_mem member)
  cases place with
  | live entry =>
      refine ⟨fun id => ⟨?_, ?_⟩, agrees.2⟩
      · rintro ⟨found, here, same⟩
        have inside := mem_places_live.mpr (Registry.mem_of_find? here)
        have only := sound.placesOf_eq member rfl
        have listed := mem_placesOf.mpr ⟨inside, same⟩
        rw [show entry.ticket = (Place.live entry).ticket from rfl, only, List.mem_singleton]
          at listed
        rw [← Registry.correlationId_of_find? here, Place.live.inj listed]
      · rintro rfl
        exact ⟨entry, sound.keys.find?_of_mem (mem_places_live.mp member), rfl⟩
  | handedOut holder => exact agrees.2
  | superseded entry => exact ⟨_, agrees.2, rfl⟩

/-- **Registrations are conserved.** After any sequence of operations, with any ids and any readings
of the clock, every registration is in exactly one place, carries what it was registered with, and
is there as the place tells. One more operation moves it as its kind allows, and once it has left
the registry it stays where it is whatever follows. -/
theorem registration_in_one_place (operations : List Operation) :
    let ledger := empty.run operations
    (∀ ticket request, ledger.registered[ticket]? = some request →
      ∃ place, ledger.placesOf ticket = [place] ∧ place.account.request = request ∧
        ledger.Tells place) ∧
    (∀ ticket place, ledger.placesOf ticket = [place] →
      (∀ operation, ∃ next, (ledger.step operation).placesOf ticket = [next] ∧
        Moves operation place next) ∧
      (place.isFinal → ∀ later, (ledger.run later).placesOf ticket = [place])) := by
  intro ledger
  have sound : ledger.Sound := sound_empty.run operations
  refine ⟨?_, ?_⟩
  · intro ticket request known
    have given : ticket < ledger.registered.length := (List.getElem?_eq_some_iff.mp known).1
    obtain ⟨account, listed, here⟩ := sound.balanced.exists_of_lt given
    obtain ⟨place, member, rfl⟩ := List.mem_map.mp listed
    have agrees := (sound.balanced.agrees _ listed).1
    rw [here, known, Option.some_inj] at agrees
    exact ⟨place, sound.placesOf_eq member here, agrees.symm, sound.tells member⟩
  · intro ticket place only
    have listed : place ∈ ledger.placesOf ticket := by simp [only]
    obtain ⟨member, here⟩ := mem_placesOf.mp listed
    refine ⟨?_, ?_⟩
    · intro operation
      obtain ⟨next, moved, same, moves⟩ := sound.moves member operation
      exact ⟨next, (sound.step operation).placesOf_eq moved (same.trans here), moves⟩
    · intro final later
      exact (sound.run later).placesOf_eq (mem_run_of_final member final later) here

end Ledger

end Mediation
