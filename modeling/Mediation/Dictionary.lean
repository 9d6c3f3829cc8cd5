/-!
# Dictionaries in key order

A `Dictionary` maps texts to values. Its entries stand in strictly ascending order of their keys,
character by character, so a dictionary has one form and its entries are listed in that order.
Looking up after an insertion finds the inserted value (`find?_insert_self`).
-/

set_option autoImplicit false

namespace Mediation

variable {α : Type}

/-- Entries in strictly ascending order of their keys. -/
abbrev Ascending (entries : List (String × α)) : Prop :=
  entries.Pairwise fun first second => first.1 < second.1

namespace Entries

/-- The entries with `key` set to `value`, at its place in the order. -/
def insert (key : String) (value : α) : List (String × α) → List (String × α)
  | [] => [(key, value)]
  | (other, kept) :: rest =>
    if key < other then (key, value) :: (other, kept) :: rest
    else if key = other then (key, value) :: rest
    else (other, kept) :: insert key value rest

def find? (key : String) : List (String × α) → Option α
  | [] => none
  | (other, kept) :: rest => if key = other then some kept else find? key rest

def erase (key : String) (entries : List (String × α)) : List (String × α) :=
  entries.filter fun entry => entry.1 ≠ key

/-- The entries of a list, a later one replacing an earlier one of the same key. -/
def ofList (entries : List (String × α)) : List (String × α) :=
  entries.foldl (fun sofar entry => insert entry.1 entry.2 sofar) []

theorem fst_mem_insert {key : String} {value : α} {entries : List (String × α)}
    {entry : String × α} (member : entry ∈ insert key value entries) :
    entry = (key, value) ∨ entry ∈ entries := by
  induction entries with
  | nil => simpa [insert] using member
  | cons head rest ih =>
    obtain ⟨other, kept⟩ := head
    simp only [insert] at member
    split at member
    · simpa using member
    · split at member
      · rcases List.mem_cons.mp member with same | inRest
        · exact .inl same
        · exact .inr (List.mem_cons_of_mem _ inRest)
      · rcases List.mem_cons.mp member with same | inRest
        · exact .inr (by simp [same])
        · rcases ih inRest with same | inOld
          · exact .inl same
          · exact .inr (List.mem_cons_of_mem _ inOld)

theorem ascending_insert {key : String} {value : α} {entries : List (String × α)}
    (ascending : Ascending entries) : Ascending (insert key value entries) := by
  induction entries with
  | nil => simp [insert, Ascending]
  | cons head rest ih =>
    obtain ⟨other, kept⟩ := head
    have below := (List.pairwise_cons.mp ascending).1
    have ascendingRest := (List.pairwise_cons.mp ascending).2
    simp only [insert]
    split
    · next less =>
      refine List.pairwise_cons.mpr ⟨?_, ascending⟩
      intro entry member
      rcases List.mem_cons.mp member with same | inRest
      · simpa [same] using less
      · exact String.lt_trans less (below entry inRest)
    · next notLess =>
      split
      · next same =>
        refine List.pairwise_cons.mpr ⟨?_, ascendingRest⟩
        intro entry member
        simpa [same] using below entry member
      · next different =>
        refine List.pairwise_cons.mpr ⟨?_, ih ascendingRest⟩
        intro entry member
        rcases fst_mem_insert member with same | inRest
        · have atMost : other ≤ key := Std.not_lt.mp notLess
          simpa [same] using Std.lt_of_le_of_ne atMost (Ne.symm different)
        · exact below entry inRest

theorem ascending_erase {key : String} {entries : List (String × α)}
    (ascending : Ascending entries) : Ascending (erase key entries) :=
  List.Pairwise.filter _ ascending

theorem ascending_foldl_insert (new : List (String × α)) :
    ∀ {sofar : List (String × α)}, Ascending sofar →
      Ascending (new.foldl (fun sofar entry => insert entry.1 entry.2 sofar) sofar) := by
  induction new with
  | nil => exact fun ascending => ascending
  | cons head rest ih => exact fun ascending => ih (ascending_insert ascending)

theorem ascending_ofList (entries : List (String × α)) : Ascending (ofList entries) :=
  ascending_foldl_insert entries List.Pairwise.nil

theorem find?_insert_self (key : String) (value : α) (entries : List (String × α)) :
    find? key (insert key value entries) = some value := by
  induction entries with
  | nil => simp [insert, find?]
  | cons head rest ih =>
    obtain ⟨other, kept⟩ := head
    simp only [insert]
    split
    · simp [find?]
    · split
      · simp [find?]
      · next different => simp [find?, different, ih]

theorem find?_insert_of_ne {key other : String} (different : other ≠ key) (value : α)
    (entries : List (String × α)) :
    find? other (insert key value entries) = find? other entries := by
  induction entries with
  | nil => simp [insert, find?, different]
  | cons head rest ih =>
    obtain ⟨first, kept⟩ := head
    simp only [insert]
    split
    · simp [find?, different]
    · split
      · next same => simp [find?, different, ← same]
      · simp [find?, ih]

theorem mem_of_find? {key : String} {value : α} {entries : List (String × α)}
    (found : find? key entries = some value) : (key, value) ∈ entries := by
  induction entries with
  | nil => simp [find?] at found
  | cons head rest ih =>
    obtain ⟨other, kept⟩ := head
    simp only [find?] at found
    split at found
    · next same => simp [same, Option.some.inj found]
    · exact List.mem_cons_of_mem _ (ih found)

/-- Inserting what is there already changes nothing. -/
theorem insert_of_find? {key : String} {value : α} {entries : List (String × α)}
    (ascending : Ascending entries) (found : find? key entries = some value) :
    insert key value entries = entries := by
  induction entries with
  | nil => simp [find?] at found
  | cons head rest ih =>
    obtain ⟨other, kept⟩ := head
    have below := (List.pairwise_cons.mp ascending).1
    simp only [find?] at found
    split at found
    · next same => simp [insert, same, Option.some.inj found]
    · next different =>
      have less : other < key := below (key, value) (mem_of_find? found)
      have notLess : ¬ key < other := fun h => String.lt_irrefl _ (String.lt_trans h less)
      simp only [insert, notLess, different, if_false]
      rw [ih (List.pairwise_cons.mp ascending).2 found]

/-- Of two insertions under one key the later one counts. -/
theorem insert_insert (key : String) (first second : α) (entries : List (String × α)) :
    insert key second (insert key first entries) = insert key second entries := by
  induction entries with
  | nil => simp [insert]
  | cons head rest ih =>
    obtain ⟨other, kept⟩ := head
    by_cases less : key < other
    · simp [insert, less]
    · by_cases same : key = other
      · simp [insert, same]
      · simp [insert, less, same, ih]

/-- Inserting a key beyond all others appends it. -/
theorem insert_eq_append {key : String} {value : α} {entries : List (String × α)}
    (beyond : ∀ entry ∈ entries, entry.1 < key) :
    insert key value entries = entries ++ [(key, value)] := by
  induction entries with
  | nil => rfl
  | cons head rest ih =>
    obtain ⟨other, kept⟩ := head
    have less : other < key := beyond (other, kept) (by simp)
    have notLess : ¬ key < other := fun h => String.lt_irrefl _ (String.lt_trans h less)
    have different : key ≠ other := fun h => String.lt_irrefl _ (h ▸ less)
    simp only [insert, notLess, different, if_false, List.cons_append]
    rw [ih fun entry member => beyond entry (List.mem_cons_of_mem _ member)]

/-- **Entries in ascending order are their own dictionary.** -/
theorem ofList_of_ascending {entries : List (String × α)} (ascending : Ascending entries) :
    ofList entries = entries := by
  have general : ∀ (new sofar : List (String × α)), Ascending (sofar ++ new) →
      new.foldl (fun sofar entry => insert entry.1 entry.2 sofar) sofar = sofar ++ new := by
    intro new
    induction new with
    | nil => intro sofar _; simp
    | cons head rest ih =>
      intro sofar ordered
      have parts := List.pairwise_append.mp ordered
      have appended : insert head.1 head.2 sofar = sofar ++ [head] :=
        insert_eq_append fun entry member => parts.2.2 entry member head (by simp)
      rw [List.foldl_cons, appended, ih (sofar ++ [head]) (by simpa using ordered)]
      simp
  simpa [ofList] using general entries [] (by simpa using ascending)

end Entries

/-- A mapping from texts to values. -/
structure Dictionary (α : Type) where
  entries : List (String × α)
  ascending : Ascending entries

namespace Dictionary

def empty : Dictionary α := ⟨[], List.Pairwise.nil⟩

instance : Inhabited (Dictionary α) := ⟨empty⟩

/-- The dictionary of a list of entries, a later one replacing an earlier one of the same key. -/
def ofList (entries : List (String × α)) : Dictionary α :=
  ⟨Entries.ofList entries, Entries.ascending_ofList entries⟩

def find? (dictionary : Dictionary α) (key : String) : Option α :=
  Entries.find? key dictionary.entries

/-- The dictionary with `key` set to `value`. -/
def insert (dictionary : Dictionary α) (key : String) (value : α) : Dictionary α :=
  ⟨Entries.insert key value dictionary.entries, Entries.ascending_insert dictionary.ascending⟩

def erase (dictionary : Dictionary α) (key : String) : Dictionary α :=
  ⟨Entries.erase key dictionary.entries, Entries.ascending_erase dictionary.ascending⟩

theorem ext {first second : Dictionary α} (same : first.entries = second.entries) :
    first = second := by
  cases first
  cases second
  cases same
  rfl

theorem ofList_entries (dictionary : Dictionary α) : ofList dictionary.entries = dictionary :=
  ext (Entries.ofList_of_ascending dictionary.ascending)

theorem find?_insert_self (dictionary : Dictionary α) (key : String) (value : α) :
    (dictionary.insert key value).find? key = some value :=
  Entries.find?_insert_self key value dictionary.entries

theorem insert_of_find? {dictionary : Dictionary α} {key : String} {value : α}
    (found : dictionary.find? key = some value) : dictionary.insert key value = dictionary :=
  ext (Entries.insert_of_find? dictionary.ascending found)

theorem insert_insert (dictionary : Dictionary α) (key : String) (first second : α) :
    (dictionary.insert key first).insert key second = dictionary.insert key second :=
  ext (Entries.insert_insert key first second dictionary.entries)

theorem find?_insert_of_ne (dictionary : Dictionary α) {key other : String}
    (different : other ≠ key) (value : α) :
    (dictionary.insert key value).find? other = dictionary.find? other :=
  Entries.find?_insert_of_ne different value dictionary.entries

end Dictionary

end Mediation
