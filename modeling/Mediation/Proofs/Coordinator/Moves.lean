import Mediation.Proofs.Coordinator.Endings

/-!
# What the moves of a coordinator do to the suspensions

A part of a run leads from one coordinator to another (`Leads`) if the books are sound in the end,
no verdict was lost or changed, and every new verdict comes from an ending that is allowed. Parts
compose (`Leads.trans`), so it is enough to look at the single moves: settling a registration,
opening one, placing a request, collecting a verdict.
-/

set_option autoImplicit false

namespace Mediation.Coordinator

open scoped List

/-- From `c` the coordinator comes to `d`, with the requests `hand` taken out and not handed back
yet. -/
structure Leads (ends : Ticket → Ending → Prop) (registered : List (Exchange × Duration))
    (hand : List Pending) (c d : Coordinator) : Prop where
  sound : d.Sound registered hand
  kept : ∀ ticket verdict, c.verdict? ticket = some verdict → d.verdict? ticket = some verdict
  explained : ∀ ticket verdict, c.verdict? ticket = none → d.verdict? ticket = some verdict →
    ∃ request ending, registered[ticket]? = some request ∧ ends ticket ending ∧
      verdict = ending.verdict request

variable {c d e : Coordinator} {ends : Ticket → Ending → Prop} {deed : Deed}
  {registered : List (Exchange × Duration)} {hand rest : List Pending} {entry : Pending}

theorem Leads.trans (first : Leads ends registered hand c d)
    (second : Leads ends registered rest d e) : Leads ends registered rest c e where
  sound := second.sound
  kept ticket verdict known := second.kept ticket verdict (first.kept ticket verdict known)
  explained ticket verdict before after := by
    cases between : d.verdict? ticket with
    | none => exact second.explained ticket verdict between after
    | some earlier =>
        have same := second.kept ticket earlier between
        rw [after, Option.some_inj] at same
        rw [same]
        exact first.explained ticket earlier before between

theorem Leads.mono {allowed : Ticket → Ending → Prop} (leads : Leads ends registered hand c d)
    (weaker : ∀ ticket ending, ends ticket ending → allowed ticket ending) :
    Leads allowed registered hand c d where
  sound := leads.sound
  kept := leads.kept
  explained ticket verdict before after := by
    obtain ⟨request, ending, known, cause, shown⟩ := leads.explained ticket verdict before after
    exact ⟨request, ending, known, weaker _ _ cause, shown⟩

theorem SameBooks.verdict? (same : SameBooks c d) (ticket : Ticket) :
    d.verdict? ticket = c.verdict? ticket := by
  rw [Coordinator.verdict?, Coordinator.verdict?, same.handoffs]

/-- As long as no verdict changes, only the books have to be sound. -/
theorem leads_of_verdicts (sound : d.Sound registered hand)
    (same : ∀ ticket, d.verdict? ticket = c.verdict? ticket) : Leads ends registered hand c d where
  sound := sound
  kept ticket verdict known := (same ticket).trans known
  explained ticket verdict before after := by
    rw [same, before] at after
    simp at after

theorem Sound.leads_same (sound : c.Sound registered hand) (same : SameBooks c d) :
    Leads ends registered hand c d :=
  leads_of_verdicts (sound.of_sameBooks same) same.verdict?

theorem Leads.then_same (leads : Leads ends registered hand c d) (same : SameBooks d e) :
    Leads ends registered hand c e :=
  leads.trans (leads.sound.leads_same same)

/-- A quiet move may come before a deed. -/
theorem Leads.after_quiet (quiet : Quiet c d) (leads : Leads (Ends d deed) registered hand d e) :
    Leads (Ends c deed) registered hand c e where
  sound := leads.sound
  kept ticket verdict known := leads.kept ticket verdict ((quiet.verdict? ticket).trans known)
  explained ticket verdict before after := by
    obtain ⟨request, ending, known, cause, shown⟩ :=
      leads.explained ticket verdict ((quiet.verdict? ticket).trans before) after
    exact ⟨request, ending, known, cause.of_quiet quiet, shown⟩

/-! ## Taking requests out -/

/-- Requests may pass between the registry and the hand, as long as their accounts stay. -/
theorem Sound.reshelve (sound : c.Sound registered hand) (handoffs : d.handoffs = c.handoffs)
    (held : d.held = c.held) (keyed : c.Keyed → d.Keyed) (keys : d.registry.KeysDistinct)
    (split : (hand ++ c.registry.entries).map Pending.account ~
      (rest ++ d.registry.entries).map Pending.account) : d.Sound registered rest where
  held := held.trans sound.held
  keyed := keyed sound.keyed
  keys := keys
  balanced := by
    obtain ⟨settled, balanced, closed⟩ := sound.balanced
    rw [handoffs]
    exact ⟨settled, balanced.perm (split.append_right settled), closed⟩

/-- Requests are taken out of the registry. -/
theorem Sound.leads_taken (sound : c.Sound registered hand) {registry : Registry}
    {taken : List Pending} (keys : registry.KeysDistinct)
    (split : c.registry.entries ~ taken ++ registry.entries) :
    Leads ends registered (taken ++ hand) c { c with registry } := by
  refine leads_of_verdicts (sound.reshelve rfl rfl id keys ?_) fun _ => rfl
  refine List.Perm.map Pending.account ?_
  calc hand ++ c.registry.entries
      _ ~ hand ++ (taken ++ registry.entries) := split.append_left hand
      _ ~ taken ++ hand ++ registry.entries := by
        rw [← List.append_assoc]
        exact List.perm_append_comm.append_right _

/-- The request under an id is taken out of the registry. -/
theorem Sound.leads_found (sound : c.Sound registered hand) {id : String}
    (found : c.registry.find? id = some entry) :
    Leads ends registered (entry :: hand) c
      { c with registry := (c.registry.without id).report } := by
  have split : c.registry.entries ~ [entry] ++ (c.registry.without id).report.entries :=
    sound.keys.perm_of_find? found
  have keys : (c.registry.without id).report.KeysDistinct := sound.keys.without id
  exact sound.leads_taken keys split

/-! ## Settling -/

theorem verdict?_modify (c : Coordinator) (ticket : Ticket) (change : Handoff → Handoff)
    (other : Ticket) :
    { c with handoffs := c.handoffs.modify ticket change }.verdict? other =
      if ticket = other then (c.handoffs[other]?).bind fun handoff => (change handoff).verdict
      else c.verdict? other := by
  change ((c.handoffs.modify ticket change)[other]?).bind (·.verdict) = _
  rw [List.getElem?_modify]
  split
  · cases c.handoffs[other]? <;> rfl
  · simp [Coordinator.verdict?]

theorem verdict?_settleTicket (c : Coordinator) (ticket : Ticket) (change : Handoff → Handoff)
    (other : Ticket) :
    (c.settleTicket ticket change).verdict? other =
      if ticket = other then (c.handoffs[other]?).bind fun handoff => (change handoff).verdict
      else c.verdict? other :=
  c.verdict?_modify ticket change other

/-- **A request in hand is handed back or given up.** Its suspension ends, and no other. -/
theorem Sound.leads_settleTicket (sound : c.Sound registered (entry :: hand))
    {change : Handoff → Handoff} {ending : Ending}
    (changed : change Handoff.fresh =
      ⟨false, true, some (ending.verdict (entry.exchange, entry.timeout))⟩)
    (cause : ends entry.ticket ending) :
    Leads ends registered hand c (c.settleTicket entry.ticket change) := by
  have inHand : entry ∈ entry :: hand := List.mem_cons_self
  obtain ⟨known, fresh⟩ := sound.agrees (List.mem_append_left c.registry.entries inHand)
  refine ⟨⟨sound.held, sound.keyed, sound.keys, ?_⟩, ?_, ?_⟩
  · obtain ⟨settled, balanced, closed⟩ := sound.balanced
    refine ⟨{ entry.account with handoff := change Handoff.fresh } :: settled,
      (balanced.changed change).perm List.perm_middle.symm, ?_⟩
    intro account member
    rcases List.mem_cons.mp member with rfl | old
    · simp [changed]
    · exact closed account old
  · intro ticket verdict before
    rw [verdict?_settleTicket]
    split
    · next same =>
        rw [← same, Coordinator.verdict?, fresh] at before
        simp [Handoff.fresh] at before
    · exact before
  · intro ticket verdict before after
    rw [verdict?_settleTicket] at after
    split at after
    · next same =>
        subst same
        rw [fresh, Option.bind_some, changed, Option.some_inj] at after
        exact ⟨_, ending, known, cause, after.symm⟩
    · rw [before] at after
      simp at after

theorem Sound.leads_supersede (sound : c.Sound registered (entry :: hand))
    (cause : ends entry.ticket .superseded) :
    Leads ends registered hand c (c.supersede entry.ticket) := by
  refine sound.leads_settleTicket ?_ cause
  rfl

theorem Sound.leads_strand (sound : c.Sound registered (entry :: hand))
    (cause : ends entry.ticket (.shutdown ("reply coordinator stopped while awaiting " ++
      "correlation id \x27" ++ entry.correlationId ++ "\x27") false)) :
    Leads ends registered hand c (c.strand (entry.release none false)) := by
  refine sound.leads_settleTicket ?_ cause
  rfl

theorem Sound.leads_expire (sound : c.Sound registered (entry :: hand))
    (cause : ends entry.ticket (.timeout (entry.firstId.getD entry.correlationId))) :
    Leads ends registered hand c (c.process (entry.release none true)) := by
  refine sound.leads_settleTicket ?_ cause
  rfl

/-- What a requester gets of a reply: the reply under the first id, or the fault it reports. -/
theorem answered_cases (c : Coordinator) (entry : Pending) (reply : Message) :
    (c.config.transferFaults = true → reply.header? Message.faultHeader = none) ∧
        c.answered (entry.release (some reply) false) reply =
          { entry.exchange with outbound := some (entry.restore reply) } ∨
      ∃ text, c.config.transferFaults = true ∧ reply.header? Message.faultHeader = some text ∧
        c.answered (entry.release (some reply) false) reply =
          entry.exchange.withFailure (.remote text) := by
  unfold answered
  rw [show restored (entry.release (some reply) false).firstId reply = entry.restore reply from rfl]
  dsimp only
  rw [entry.fault_restore]
  cases c.config.transferFaults with
  | false => exact .inl ⟨by simp, rfl⟩
  | true =>
      cases reply.header? Message.faultHeader with
      | none => exact .inl ⟨fun _ => rfl, rfl⟩
      | some text => exact .inr ⟨text, rfl, rfl, rfl⟩

/-- **A request that was taken out by its reply is handed back with it.** -/
theorem Sound.leads_answer (sound : d.Sound registered (entry :: hand)) {reply : Message}
    {id : String} (known : reply.correlationId? = some id)
    (found : c.registry.find? id = some entry) (config : d.config = c.config) :
    Leads (Ends c (.answer reply)) registered hand d
      (d.process (entry.release (some reply) false)) := by
  let counted := { d with
    tally := (d.tally.count .repliesMatched).observe .replyLatency
      (d.latency (entry.release (some reply) false)) }
  have same : SameBooks d counted := ⟨rfl, rfl, rfl, fun keyed => keyed⟩
  have clean : counted.Sound registered (entry :: hand) := sound.of_sameBooks same
  refine (sound.leads_same same).trans ?_
  change Leads _ registered hand counted
    (counted.complete entry.ticket (d.answered (entry.release (some reply) false) reply) false)
  rcases d.answered_cases entry reply with ⟨noFault, shape⟩ | ⟨text, transfer, fault, shape⟩
  · rw [shape]
    rw [config] at noFault
    refine clean.leads_settleTicket ?_ (.replied known found noFault)
    rfl
  · rw [shape]
    rw [config] at transfer
    refine clean.leads_settleTicket ?_ (.faulted known found transfer fault)
    rfl

/-- Requests in hand are dealt with one after the other. -/
theorem leads_foldl {act : Coordinator → Pending → Coordinator} {taken : List Pending}
    (acts : ∀ entry ∈ taken, ∀ {c : Coordinator} {hand : List Pending},
      c.Sound registered (entry :: hand) → Leads ends registered hand c (act c entry))
    (sound : c.Sound registered (taken ++ hand)) :
    Leads ends registered hand c (taken.foldl act c) := by
  induction taken generalizing c with
  | nil => exact sound.leads_same ⟨rfl, rfl, rfl, id⟩
  | cons entry others ih =>
      have first := acts entry List.mem_cons_self sound
      exact first.trans (ih (fun other member => acts other (List.mem_cons_of_mem _ member))
        first.sound)

/-! ## Placing -/

/-- **A request is put under its id.** It displaces whoever was there. -/
theorem Sound.leads_adopt (sound : c.Sound registered hand) {placement : Registry.Placement}
    (keys : placement.registry.KeysDistinct)
    (split : (hand ++ c.registry.entries).map Pending.account ~
      (rest ++ (placement.displaced.toList ++ placement.registry.entries)).map Pending.account)
    (cause : ∀ other, placement.displaced = some other → ends other.ticket .superseded) :
    Leads ends registered rest c (c.adopt placement) := by
  let placed := { c with registry := placement.registry }.wake placement.woken
  have shelves : (rest ++ (placement.displaced.toList ++ placement.registry.entries)).map
      Pending.account ~
      (placement.displaced.toList ++ rest ++ placement.registry.entries).map Pending.account := by
    refine List.Perm.map Pending.account ?_
    rw [← List.append_assoc]
    exact List.perm_append_comm.append_right _
  have clean : placed.Sound registered (placement.displaced.toList ++ rest) :=
    sound.reshelve rfl rfl (fun keyed => keyed) keys (split.trans shelves)
  have moved : Leads ends registered (placement.displaced.toList ++ rest) c placed :=
    leads_of_verdicts clean fun _ => rfl
  refine moved.trans ?_
  cases displaced : placement.displaced with
  | none =>
      rw [displaced] at clean
      have same : c.adopt placement = placed := by
        simp only [adopt, displaced]
        rfl
      rw [same]
      exact clean.leads_same ⟨rfl, rfl, rfl, fun keyed => keyed⟩
  | some other =>
      rw [displaced] at clean
      have same : c.adopt placement = placed.supersede other.ticket := by
        simp only [adopt, displaced]
        rfl
      rw [same]
      exact clean.leads_supersede (cause other displaced)

theorem adopt_lifecycle (c : Coordinator) (placement : Registry.Placement) :
    (c.adopt placement).lifecycle = c.lifecycle := by
  unfold adopt
  cases placement.displaced <;> rfl

theorem adopt_registry (c : Coordinator) (placement : Registry.Placement) :
    (c.adopt placement).registry = placement.registry := by
  unfold adopt
  cases placement.displaced <;> rfl

/-- **A request is moved to another id.** -/
theorem Sound.leads_rekey (sound : c.Sound registered hand) (source target : String) :
    Leads (Ends c (.rekey source target)) registered hand c (c.rekey source target).1 := by
  change Leads _ _ _ c (c.adopt (c.registry.rekey source target).1)
  refine sound.leads_adopt (sound.keys.rekey source target) ?_ ?_
  · rw [List.map_append, List.map_append]
    exact (sound.keys.accounts_rekey source target).append_left _
  · intro other displaced
    rcases Registry.rekey_cases c.registry source target with
      ⟨_, unchanged⟩ | ⟨entry, found, different, moved⟩
    · rw [unchanged] at displaced
      simp at displaced
    · rw [moved, Registry.place_displaced] at displaced
      have inRest := Registry.mem_without.mp (Registry.mem_of_find? displaced)
      have under : other.correlationId = target := Registry.correlationId_of_find? displaced
      refine .displacedByRekey (by simp [found]) different ?_
      exact sound.keys.find?_eq_some_iff.mpr ⟨inRest.1, under⟩

/-! ## Registering -/

/-- The coordinator with the two halves of one more registration. -/
def opened (c : Coordinator) : Coordinator := { c with handoffs := c.handoffs ++ [Handoff.fresh] }

/-- A registration is opened; its request is in hand. -/
theorem Sound.leads_opened (sound : c.Sound registered hand) (entry : Pending)
    (next : entry.ticket = c.handoffs.length) :
    Leads ends (registered ++ [(entry.exchange, entry.timeout)]) (entry :: hand) c c.opened := by
  rw [sound.size] at next
  refine leads_of_verdicts ⟨sound.held, sound.keyed, sound.keys, ?_⟩ ?_
  · obtain ⟨settled, balanced, closed⟩ := sound.balanced
    exact ⟨settled, balanced.opened entry.account next, closed⟩
  · intro ticket
    change ((c.handoffs ++ [Handoff.fresh])[ticket]?).bind (·.verdict) = _
    rw [Coordinator.verdict?]
    rcases Nat.lt_or_ge ticket c.handoffs.length with old | new
    · rw [List.getElem?_append_left old]
    · rw [List.getElem?_append_right new, List.getElem?_eq_none new]
      cases ticket - c.handoffs.length <;> rfl

/-- What registering does: a coordinator that does not run refuses, one whose clock cannot hold the
deadline panics, and otherwise the request is put under its id. -/
theorem enrol_cases (c : Coordinator) (x : Exchange) (id : String) (timeout : Duration) :
    c.lifecycle.runAllowed = false ∧
        c.enrol x id timeout = .ok (c.opened.complete c.handoffs.length
          (x.withFailure c.rejection) true, c.handoffs.length) ∨
      c.lifecycle.runAllowed = true ∧ c.now.after? timeout = none ∧
        c.enrol x id timeout = .error beyondClock ∨
      ∃ placement, c.lifecycle.runAllowed = true ∧
        c.registry.register? c.now id timeout x c.handoffs.length = some placement ∧
        c.enrol x id timeout = .ok (c.opened.adopt placement, c.handoffs.length) := by
  cases running : c.lifecycle.runAllowed with
  | false =>
      refine .inl ⟨rfl, ?_⟩
      simp [enrol, running, opened]
  | true =>
      cases registers : c.registry.register? c.now id timeout x c.handoffs.length with
      | none =>
          refine .inr (.inl ⟨rfl, ?_, ?_⟩)
          · simpa [Registry.register?] using registers
          · simp [enrol, running, registers]
      | some placement =>
          refine .inr (.inr ⟨placement, rfl, rfl, ?_⟩)
          have still : (c.opened.adopt placement).lifecycle.runAllowed = true := by
            rw [adopt_lifecycle]
            exact running
          have shape : c.enrol x id timeout =
              .ok ((c.opened.adopt placement).confirm id, c.handoffs.length) := by
            simp [enrol, running, registers, opened]
          rw [shape, confirm, if_pos still]

/-- Where registering fails, the deed registers nothing. -/
theorem registers?_of_error {enrolment : Enrolment} {panic : Panic}
    (fails : c.enrol enrolment.exchange enrolment.id enrolment.timeout = .error panic) :
    c.registers? (.enrol enrolment) = none := by
  rcases c.enrol_cases enrolment.exchange enrolment.id enrolment.timeout with
    ⟨_, refused⟩ | ⟨running, unfit, _⟩ | ⟨placement, _, _, placed⟩
  · rw [refused] at fails
    simp at fails
  · simp [registers?, running, unfit]
  · rw [placed] at fails
    simp at fails

/-- Where registering succeeds, the deed registers the request. -/
theorem registers?_of_ok {enrolment : Enrolment} {ticket : Ticket}
    (enrols : c.enrol enrolment.exchange enrolment.id enrolment.timeout = .ok (d, ticket)) :
    c.registers? (.enrol enrolment) = some (enrolment.exchange, enrolment.timeout) := by
  rcases c.enrol_cases enrolment.exchange enrolment.id enrolment.timeout with
    ⟨closed, _⟩ | ⟨_, _, panics⟩ | ⟨placement, _, registers, _⟩
  · simp [registers?, closed]
  · rw [panics] at enrols
    simp at enrols
  · obtain ⟨deadline, fits, _⟩ := Registry.register?_eq_some registers
    simp [registers?, fits]

/-- **A request is registered, or refused.** -/
theorem Sound.leads_enrol (sound : c.Sound registered hand) {enrolment : Enrolment}
    {ticket : Ticket}
    (enrols : c.enrol enrolment.exchange enrolment.id enrolment.timeout = .ok (d, ticket)) :
    Leads (Ends c (.enrol enrolment))
      (registered ++ (c.registers? (.enrol enrolment)).toList) hand c d := by
  rw [registers?_of_ok enrols, Option.toList_some]
  rcases c.enrol_cases enrolment.exchange enrolment.id enrolment.timeout with
    ⟨closed, refused⟩ | ⟨_, _, panics⟩ | ⟨placement, running, registers, placed⟩
  · rw [refused, Except.ok.injEq, Prod.mk.injEq] at enrols
    rw [← enrols.1]
    let entry : Pending :=
      { correlationId := enrolment.id, firstId := none, createdAt := c.now, deadline := c.now
        timeout := enrolment.timeout, exchange := enrolment.exchange, ticket := c.handoffs.length }
    have opens : Leads (Ends c (.enrol enrolment))
        (registered ++ [(enrolment.exchange, enrolment.timeout)]) (entry :: hand) c c.opened :=
      sound.leads_opened entry rfl
    refine opens.trans (opens.sound.leads_settleTicket ?_ (.refused closed))
    rfl
  · rw [panics] at enrols
    simp at enrols
  · rw [placed, Except.ok.injEq, Prod.mk.injEq] at enrols
    rw [← enrols.1]
    obtain ⟨entry, next, same, limit, keys, split⟩ := sound.keys.register? registers
    obtain ⟨_, _, _, displaced⟩ := Registry.register?_eq_some registers
    rw [← same, ← limit]
    have opens : Leads (Ends c (.enrol enrolment))
        (registered ++ [(entry.exchange, entry.timeout)]) (entry :: hand) c c.opened :=
      sound.leads_opened entry next
    refine opens.trans (opens.sound.leads_adopt keys ?_ ?_)
    · exact (List.perm_middle.symm.trans (split.append_left hand)).map Pending.account
    · intro other was
      rw [displaced] at was
      exact .displaced running was

/-- Registering under one id does not change who is found under another. -/
theorem enrol_find? {x : Exchange} {id other : String} {timeout : Duration} {ticket : Ticket}
    (enrols : c.enrol x id timeout = .ok (d, ticket)) (different : other ≠ id) :
    d.registry.find? other = c.registry.find? other := by
  rcases c.enrol_cases x id timeout with
    ⟨closed, refused⟩ | ⟨_, _, panics⟩ | ⟨placement, running, registers, placed⟩
  · rw [refused, Except.ok.injEq, Prod.mk.injEq] at enrols
    rw [← enrols.1]
    rfl
  · rw [panics] at enrols
    simp at enrols
  · rw [placed, Except.ok.injEq, Prod.mk.injEq] at enrols
    obtain ⟨_, _, entries, _⟩ := Registry.register?_eq_some registers
    have kept := c.registry.find?_without_of_ne different
    rw [Registry.find?, Registry.find?] at kept
    rw [← enrols.1, adopt_registry, Registry.find?, entries, List.find?_append, kept]
    simp [Registry.find?, different.symm]

/-! ## Collecting -/

theorem look_collected {handoff after : Handoff} {verdict : Verdict}
    (looks : handoff.look = (after, .collected verdict)) :
    handoff.verdict = some verdict ∧ after = handoff.abandon := by
  unfold Handoff.look at looks
  split at looks
  · simp at looks
  · split at looks
    · simp at looks
    · next found =>
        rw [Prod.mk.injEq, Handoff.Sight.collected.injEq] at looks
        exact ⟨looks.2 ▸ found, looks.1.symm⟩

/-- Collecting a verdict leaves it in the books. -/
theorem Sound.leads_looked (sound : c.Sound registered hand) {ticket : Ticket} {after : Handoff}
    {verdict : Verdict}
    (looks : (c.handoffs.getD ticket Handoff.fresh).look = (after, .collected verdict)) :
    Leads ends registered hand c { c with handoffs := c.handoffs.set ticket after } := by
  obtain ⟨found, abandoned⟩ := look_collected looks
  have known : c.handoffs[ticket]? = some (c.handoffs.getD ticket Handoff.fresh) := by
    cases there : c.handoffs[ticket]? with
    | none => simp [there, Handoff.fresh] at found
    | some handoff => simp [there]
  generalize c.handoffs.getD ticket Handoff.fresh = handoff at found abandoned known
  have changed : c.handoffs.set ticket after = c.handoffs.modify ticket Handoff.abandon := by
    rw [List.modify_eq_set_getElem?, known, abandoned]
    rfl
  rw [changed]
  refine leads_of_verdicts ⟨sound.held, sound.keyed, sound.keys, ?_⟩ ?_
  · obtain ⟨settled, balanced, closed⟩ := sound.balanced
    have given : ticket < registered.length := by
      rw [← sound.size]
      exact (List.getElem?_eq_some_iff.mp known).1
    obtain ⟨account, member, rfl⟩ := balanced.exists_of_lt given
    have agrees := (balanced.agrees account member).2
    rw [known, Option.some_inj] at agrees
    rcases List.mem_append.mp member with waiting | gone
    · obtain ⟨entry, _, rfl⟩ := List.mem_map.mp waiting
      rw [agrees] at found
      simp [Pending.account, Handoff.fresh] at found
    · obtain ⟨earlier, later, rfl⟩ := List.append_of_mem gone
      rw [← List.append_assoc] at balanced
      refine ⟨earlier ++ { account with handoff := account.handoff.abandon } :: later, ?_, ?_⟩
      · rw [← List.append_assoc]
        exact ((balanced.perm List.perm_middle).changed Handoff.abandon).perm
          List.perm_middle.symm
      · intro other inside
        rcases List.mem_append.mp inside with old | new
        · exact closed other (List.mem_append_left _ old)
        · rcases List.mem_cons.mp new with rfl | old
          · exact closed account gone
          · exact closed other (List.mem_append_right _ (List.mem_cons_of_mem _ old))
  · intro other
    rw [verdict?_modify]
    split
    · rfl
    · rfl

theorem Sound.leads_collect (sound : c.Sound registered hand) (task : TaskId) (ticket : Ticket) :
    Leads ends registered hand c (c.collect task ticket) := by
  have parked : Quiet c (c.park task (.suspended ticket)) := c.quiet_park task trivial
  cases looks : (c.handoffs.getD ticket Handoff.fresh).look with
  | mk after sight =>
      cases sight with
      | gone =>
          simp only [collect, looks]
          exact sound.leads_same parked.toSameBooks
      | pending =>
          simp only [collect, looks]
          exact sound.leads_same parked.toSameBooks
      | collected verdict =>
          cases verdict with
          | resumed x synchronous =>
              simp only [collect, looks]
              exact (sound.leads_looked looks).then_same (quiet_finish _ _ _).toSameBooks
          | superseded =>
              simp only [collect, looks]
              exact (sound.leads_looked looks).then_same (quiet_finish _ _ _).toSameBooks

theorem Sound.leads_see (sound : c.Sound registered hand) (task : TaskId) (ticket : Ticket) :
    Leads ends registered hand c (c.see task ticket) := by
  cases looks : (c.handoffs.getD ticket Handoff.fresh).look with
  | mk after sight =>
      cases sight with
      | gone =>
          simp only [see, looks]
          exact sound.leads_same (Quiet.refl c).toSameBooks
      | pending =>
          simp only [see, looks]
          exact sound.leads_same (Quiet.refl c).toSameBooks
      | collected verdict =>
          simp only [see, looks]
          exact (sound.leads_looked looks).then_same (quiet_finish _ _ _).toSameBooks

end Mediation.Coordinator
