import Mediation.Proofs.Registry.Ledger

/-!
# Keys and stored ids

A request is stored with an id of its own. A registry could as well be a table whose rows have keys
apart from the requests stored in them, and write both whenever a request is put somewhere. The two
would never differ: the table that sees the same operations has the requests of the registry, each
under the id that is stored with it (`Table.run_empty`).
-/

set_option autoImplicit false

namespace Mediation

open Registry (Operation)

/-- Requests under keys. -/
abbrev Table := List (String × Pending)

namespace Table

def request? (table : Table) (key : String) : Option Pending :=
  (table.find? fun row => row.1 = key).map (·.2)

/-- The table without the row of a key. -/
def erase (table : Table) (key : String) : Table := table.filter fun row => row.1 ≠ key

/-- Puts a request under a key, in place of any other. -/
def put (table : Table) (key : String) (entry : Pending) : Table :=
  table.erase key ++ [(key, entry)]

/-- What an operation does, if the next registration has a certain ticket. -/
def step (table : Table) (ticket : Ticket) : Operation → Table
  | .register now id timeout x =>
    match now.after? timeout with
    | none => table
    | some deadline =>
      table.put id
        { correlationId := id, firstId := none, createdAt := now, deadline, timeout,
          exchange := x, ticket }
  | .rekey source target =>
    match table.request? source with
    | none => table
    | some entry =>
      if source = target then table else (table.erase source).put target (entry.moveTo target)
  | .resolve id _ | .remove id => table.erase id
  | .sweep now => table.filter fun row => !decide (row.2.deadline ≤ now)
  | .drain => []

/-- What a sequence of operations does to a table beside a ledger. -/
def run (table : Table) (ledger : Ledger) : List Operation → Table
  | [] => table
  | operation :: rest =>
    (table.step ledger.registered.length operation).run (ledger.step operation) rest

/-- The requests of a registry, each under the id that is stored with it. -/
def ofEntries (entries : List Pending) : Table :=
  entries.map fun entry => (entry.correlationId, entry)

theorem request?_ofEntries (registry : Registry) (id : String) :
    (ofEntries registry.entries).request? id = registry.find? id := by
  simp [ofEntries, request?, Registry.find?, List.find?_map, Function.comp_def]

theorem erase_ofEntries (registry : Registry) (id : String) :
    (ofEntries registry.entries).erase id = ofEntries (registry.without id).entries := by
  simp [ofEntries, erase, Registry.without, List.filter_map, Function.comp_def]

theorem put_ofEntries (registry : Registry) (entry : Pending) :
    (ofEntries registry.entries).put entry.correlationId entry =
      ofEntries (registry.place entry).registry.entries := by
  rw [put, erase_ofEntries, Registry.place_entries, ofEntries, ofEntries, List.map_append]
  rfl

/-- **Every operation** does the same to the table as to the registry. -/
theorem step_ofEntries (ledger : Ledger) (operation : Operation) :
    (ofEntries ledger.registry.entries).step ledger.registered.length operation =
      ofEntries (ledger.step operation).registry.entries := by
  cases operation with
  | register now id timeout x =>
      cases fits : now.after? timeout with
      | none =>
          have unfit : ledger.registry.register? now id timeout x ledger.registered.length =
              none := by simp [Registry.register?, fits]
          simp only [step, Ledger.step, fits, unfit]
      | some deadline =>
          simp only [step, Ledger.step, Registry.register?, fits, Option.map_some]
          rw [Ledger.adopt_registry]
          exact put_ofEntries ledger.registry ⟨id, none, now, deadline, timeout, x, _⟩
  | rekey source target =>
      change step _ _ _ = ofEntries (ledger.adopt _).registry.entries
      rw [Ledger.adopt_registry]
      simp only [step, request?_ofEntries, Registry.rekey]
      cases ledger.registry.find? source with
      | none => rfl
      | some entry =>
          by_cases same : source = target
          · simp only [if_pos same]
          · simp only [if_neg same, erase_ofEntries]
            exact put_ofEntries (ledger.registry.without source) (entry.moveTo target)
  | resolve id reply =>
      change erase _ id = ofEntries (ledger.registry.resolve id reply).1.entries
      rw [erase_ofEntries]
      rcases ledger.registry.resolve_cases id reply with ⟨missing, same⟩ | ⟨entry, _, taken⟩
      · rw [same, Registry.without_entries_of_find? missing]
      · rw [taken]
        rfl
  | remove id =>
      change erase _ id = ofEntries (ledger.registry.remove id).1.entries
      rw [erase_ofEntries]
      rcases ledger.registry.remove_cases id with ⟨missing, same⟩ | ⟨entry, _, taken⟩
      · rw [same, Registry.without_entries_of_find? missing]
      · rw [taken]
        rfl
  | sweep now =>
      change List.filter _ _ = ofEntries (ledger.registry.sweep now).1.entries
      rw [Registry.sweep_entries, ofEntries, ofEntries, List.filter_map]
      rfl
  | drain => rfl

/-- **Keys and stored ids never differ.** -/
theorem run_empty (operations : List Operation) :
    Table.run [] Ledger.empty operations =
      ofEntries (Ledger.empty.run operations).registry.entries := by
  have general : ∀ (operations : List Operation) (ledger : Ledger),
      (ofEntries ledger.registry.entries).run ledger operations =
        ofEntries (ledger.run operations).registry.entries := by
    intro operations
    induction operations with
    | nil => exact fun ledger => rfl
    | cons operation rest ih =>
        intro ledger
        rw [run, step_ofEntries, ih]
        rfl
  exact general operations Ledger.empty

end Table

end Mediation
