import Mediation.Handoff
import Mediation.Proofs.Registry.Entries

/-!
# Accounts of registrations

Every registration has an account: its ticket, what it was registered with, and the state of its two
halves. A list of accounts is balanced when it has exactly one for every registration and each says
what is the case (`Balanced`). Registering opens an account (`Balanced.opened`), and using or giving
up a continuation changes one (`Balanced.changed`); nothing else touches the books.
-/

set_option autoImplicit false

namespace Mediation

open scoped List

/-- What is known of one registration. -/
structure Account where
  ticket : Ticket
  /-- The exchange and the timeout it was registered with. -/
  request : Exchange × Duration
  /-- The state of its two halves. -/
  handoff : Handoff

/-- The account of a request that waits; its continuation has been neither used nor given up. -/
def Pending.account (entry : Pending) : Account :=
  { ticket := entry.ticket, request := (entry.exchange, entry.timeout), handoff := Handoff.fresh }

/-- The account of a request that was taken out, as long as its continuation is kept. -/
def Holder.account (holder : Holder) : Account :=
  { ticket := holder.ticket, request := (holder.exchange, holder.timeout)
    handoff := Handoff.fresh }

/-- Every registration has exactly one account, and the account agrees with what was registered and
with the state of the two halves. -/
structure Balanced (registered : List (Exchange × Duration)) (handoffs : List Handoff)
    (accounts : List Account) : Prop where
  tickets : accounts.map (·.ticket) ~ List.range registered.length
  size : handoffs.length = registered.length
  agrees : ∀ account ∈ accounts, registered[account.ticket]? = some account.request ∧
    handoffs[account.ticket]? = some account.handoff

namespace Balanced

variable {registered : List (Exchange × Duration)} {handoffs : List Handoff}
  {accounts rest : List Account} {account other : Account}

theorem nil : Balanced [] [] [] where
  tickets := .refl _
  size := rfl
  agrees := by simp

theorem perm (balanced : Balanced registered handoffs accounts) (same : accounts ~ rest) :
    Balanced registered handoffs rest where
  tickets := (same.map _).symm.trans balanced.tickets
  size := balanced.size
  agrees account member := balanced.agrees account (same.mem_iff.mpr member)

theorem nodup (balanced : Balanced registered handoffs accounts) :
    (accounts.map (·.ticket)).Nodup :=
  balanced.tickets.nodup_iff.mpr List.nodup_range

theorem lt_of_mem (balanced : Balanced registered handoffs accounts) (member : account ∈ accounts) :
    account.ticket < registered.length := by
  have listed := balanced.tickets.mem_iff.mp (List.mem_map_of_mem member)
  simpa using listed

/-- Every registration has an account. -/
theorem exists_of_lt (balanced : Balanced registered handoffs accounts) {ticket : Ticket}
    (given : ticket < registered.length) : ∃ account ∈ accounts, account.ticket = ticket := by
  have listed := balanced.tickets.mem_iff.mpr (List.mem_range.mpr given)
  simpa using listed

/-- A new registration opens an account under the next ticket. -/
theorem opened (balanced : Balanced registered handoffs accounts) (account : Account)
    (next : account.ticket = registered.length) :
    Balanced (registered ++ [account.request]) (handoffs ++ [account.handoff])
      (account :: accounts) where
  tickets := by
    rw [List.map_cons, next, List.length_append, List.length_singleton, List.range_succ]
    exact (balanced.tickets.cons _).trans (List.perm_append_singleton _ _).symm
  size := by simp [balanced.size]
  agrees := by
    intro other member
    rcases List.mem_cons.mp member with rfl | old
    · refine ⟨by simp [next], ?_⟩
      rw [next, ← balanced.size]
      simp
    · have known := balanced.agrees other old
      have below := balanced.lt_of_mem old
      refine ⟨?_, ?_⟩
      · rw [List.getElem?_append_left below]
        exact known.1
      · rw [List.getElem?_append_left (balanced.size ▸ below)]
        exact known.2

/-- A change to the two halves of one registration shows in its account and in no other. -/
theorem changed (balanced : Balanced registered handoffs (account :: rest))
    (change : Handoff → Handoff) :
    Balanced registered (handoffs.modify account.ticket change)
      ({ account with handoff := change account.handoff } :: rest) where
  tickets := balanced.tickets
  size := by simp [balanced.size]
  agrees := by
    intro other member
    rcases List.mem_cons.mp member with rfl | inRest
    · have known := balanced.agrees account (by simp)
      simp [known.1, known.2]
    · have known := balanced.agrees other (List.mem_cons_of_mem _ inRest)
      have apart : account.ticket ≠ other.ticket := by
        intro same
        have distinct := balanced.nodup
        rw [List.map_cons, List.nodup_cons] at distinct
        exact distinct.1 (same ▸ List.mem_map_of_mem inRest)
      rw [List.getElem?_modify_ne change _ apart]
      exact known

end Balanced

/-- **Moving a request** gives up whoever was under its new id and leaves the accounts alone. -/
theorem Registry.KeysDistinct.accounts_rekey {registry : Registry} (keys : registry.KeysDistinct)
    (source target : String) :
    registry.entries.map Pending.account ~
      ((registry.rekey source target).1.displaced.toList ++
        (registry.rekey source target).1.registry.entries).map Pending.account := by
  rcases registry.rekey_cases source target with ⟨_, unchanged⟩ | ⟨entry, found, _, moved⟩
  · rw [unchanged]
    exact .refl _
  · have out := keys.perm_of_find? found
    have put := (keys.without source).perm_place (entry.moveTo target)
    rw [moved]
    calc registry.entries.map Pending.account
        _ ~ (entry :: (registry.without source).entries).map Pending.account :=
          out.map Pending.account
        _ = (entry.moveTo target :: (registry.without source).entries).map Pending.account := rfl
        _ ~ _ := put.map Pending.account

end Mediation
