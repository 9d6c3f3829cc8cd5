import Mediation.Exchange.Document

/-!
# Documents read back as what was written

The document of a failure, a message, the bookkeeping of redeliveries or an exchange reads back as
the value it was written for (`Json.Restores`). More documents are read than are written: a record
may come as an array of its parts, its fields in any order among others that nobody knows, an absent
part may be missing, and the nanoseconds of a duration may exceed a second. Whatever is read, its
own document reads as the same value and is not changed by being read and written once more
(`documents_settle`).
-/

set_option autoImplicit false

namespace Mediation

namespace Json

variable {α : Type} {write : α → Json} {read : Json → Option α}

/-- What is written reads back as it was. -/
def Restores (write : α → Json) (read : Json → Option α) : Prop := ∀ x, read (write x) = some x

/-- Every value is restored from its document. Whatever else a document says, once it is read, its
value is written as a document that reads as the same value and is written the same again. -/
structure Settles (write : α → Json) (read : Json → Option α) : Prop where
  restores : ∀ x, read (write x) = some x
  reread : ∀ document x, read document = some x → read (write x) = some x
  rewritten : ∀ document x again, read document = some x → read (write x) = some again →
    again = x ∧ write again = write x

theorem Restores.settles (restores : Restores write read) : Settles write read where
  restores := restores
  reread _ x _ := restores x
  rewritten _ x again _ read := by
    have same : again = x := Option.some.inj (read.symm.trans (restores x))
    exact ⟨same, congrArg write same⟩

/-- An array of as many items as there are names is read like the object that names them. -/
def ReadsListed (names : List String) (read : Json → Option α) : Prop :=
  ∀ items, items.length = names.length → read (.array items) = read (.object (names.zip items))

/-- Of an object only the fields of these names count. -/
def ReadsOnly (names : List String) (read : Json → Option α) : Prop :=
  ∀ fields others, (∀ name ∈ names, Entries.find? name fields = Entries.find? name others) →
    read (.object fields) = read (.object others)

/-- Besides, the value is a record with fields of these names, which may come as an array of its
parts, or as an object with its fields in any order and among others. -/
structure SettlesRecord (names : List String) (write : α → Json) (read : Json → Option α) : Prop
    extends Settles write read where
  listed : ReadsListed names read
  only : ReadsOnly names read

/-! ## Parts of documents -/

/-- What may be absent is written as null, so what is there must not be. -/
theorem Restores.optional (restores : Restores write read) (solid : ∀ x, write x ≠ .null) :
    Restores (ofOption write) (optional? read) := by
  intro part
  cases part with
  | none => rfl
  | some x =>
      have there : optional? read (write x) = (read (write x)).map some := by
        cases written : write x with
        | null => exact absurd written (solid x)
        | _ => rfl
      rw [ofOption, there, restores x]
      rfl

theorem natBelow?_int {value bound : Nat} (small : value < bound) :
    natBelow? bound (.int value) = some value := by
  simp [natBelow?, small]

theorem restores_count : Restores ofCount count? := by
  intro count
  rw [ofCount, count?, natBelow?_int (UInt32.toNat_lt_size count), Option.map_some,
    UInt32.ofNat_toNat]

theorem textFields?_map (entries : List (String × String)) :
    textFields? (entries.map fun (name, value) => (name, .text value)) = some entries := by
  induction entries with
  | nil => rfl
  | cons entry rest ih => simp [textFields?, text?, ih]

end Json

open Json (Restores)

namespace Duration

theorem seconds_lt (d : Duration) : d.seconds < UInt64.size := by
  have bounded := d.bounded
  unfold seconds nanosPerSecond
  exact Nat.div_lt_of_lt_mul (by rwa [Nat.mul_comm])

theorem nanos_lt (d : Duration) : d.nanos < UInt32.size := by
  have below : d.nanos < nanosPerSecond := Nat.mod_lt _ (by decide)
  exact Nat.lt_trans below (by decide)

/-- Field by field: unfolding both sides at once would have the bounds of the fields computed. -/
theorem ofJson?_written (seconds nanos : Json) :
    ofJson? (.object [("nanos", nanos), ("secs", seconds)]) =
      ((seconds.natBelow? UInt64.size).bind fun seconds =>
        (nanos.natBelow? UInt32.size).bind fun nanos => ofParts? seconds nanos) := by
  have known : ([("nanos", nanos), ("secs", seconds)].all fun field =>
      field.1 = "secs" ∨ field.1 = "nanos") = true := by simp
  rw [ofJson?, if_pos known]
  simp only [Json.required?, Entries.find?]
  rfl

theorem restores : Restores toJson ofJson? := by
  intro d
  rw [toJson, ofJson?_written, Json.natBelow?_int d.seconds_lt, Option.bind_some,
    Json.natBelow?_int d.nanos_lt, Option.bind_some, d.ofParts?_seconds_nanos]

/-- Nanoseconds of a second or more carry over into the seconds. -/
example : (ofJson? (.object [("secs", .int 1), ("nanos", .int 2500000000)])).map toJson =
    some (.object [("nanos", .int 500000000), ("secs", .int 3)]) := rfl

end Duration

/-! ## Failures -/

/-- A failure reads back, however often redelivery has given up on it. -/
theorem Failure.restores : Restores toJson ofJson? := by
  intro failure
  induction failure with
  | exhausted attempts cause ih =>
      simp [toJson, ofJson?, Json.required?, Entries.find?, Json.restores_count attempts,
        causeOfFields?, ih]
  | timeout id limit =>
      simp [toJson, ofJson?, Json.required?, Entries.find?, Json.text?, Duration.restores limit]
  | superseded => rfl
  | _ => simp [toJson, ofJson?, Json.required?, Entries.find?, Json.text?]

/-- The one failure without parts may also come as a field without content. -/
example : Failure.ofJson? (.object [("Superseded", .null)]) = some .superseded := rfl

theorem Failure.toJson_ne_null (failure : Failure) : failure.toJson ≠ .null := by
  cases failure <;> simp [toJson]

/-! ## Messages and exchanges -/

theorem Message.restores : Restores toJson ofJson? := by
  intro message
  have headers : headersOfJson? message.headersJson = some message.headers := by
    simp only [headersJson, headersOfJson?, Json.textFields?_map, Option.map_some,
      Dictionary.ofList_entries]
  simp [toJson, ofJson?, Json.required?, Entries.find?, headers]

theorem Redelivery.restores : Restores toJson ofJson? := by
  intro redelivery
  have lastFailure := Failure.restores.optional Failure.toJson_ne_null redelivery.lastFailure
  simp [toJson, ofJson?, Json.required?, Json.missingNull?, Entries.find?, Json.bool?,
    Json.restores_count redelivery.attempts, lastFailure]

theorem Exchange.restores : Restores toJson ofJson? := by
  intro x
  have failure := Failure.restores.optional Failure.toJson_ne_null x.failure
  have outbound := Message.restores.optional (fun message => by simp [Message.toJson]) x.outbound
  have properties : propertiesOfJson? (.object x.properties.entries) = some x.properties := by
    rw [propertiesOfJson?, Dictionary.ofList_entries]
  simp [toJson, ofJson?, Json.required?, Json.missingNull?, Entries.find?, Json.bool?, Json.text?,
    Message.restores x.inbound, Redelivery.restores x.redelivery, failure, outbound, properties]

/-! ## Other documents of the same values -/

def Message.fieldNames : List String := ["headers", "body"]

def Redelivery.fieldNames : List String :=
  ["attempts", "last_failure", "handled", "continued", "rollback_only"]

def Exchange.fieldNames : List String :=
  ["id", "inbound", "outbound", "failure", "transacted", "redelivery", "properties"]

theorem Message.readsListed : Json.ReadsListed fieldNames ofJson? := by
  intro items complete
  match items, complete with
  | [headers, body], _ => simp [fieldNames, ofJson?, Json.required?, Entries.find?]

theorem Redelivery.readsListed : Json.ReadsListed fieldNames ofJson? := by
  intro items complete
  match items, complete with
  | [attempts, lastFailure, handled, continued, rollbackOnly], _ =>
      simp [fieldNames, ofJson?, Json.required?, Json.missingNull?, Entries.find?]

theorem Exchange.readsListed : Json.ReadsListed fieldNames ofJson? := by
  intro items complete
  match items, complete with
  | [id, inbound, outbound, failure, transacted, redelivery, properties], _ =>
      simp [fieldNames, ofJson?, Json.required?, Json.missingNull?, Entries.find?]

theorem Message.readsOnly : Json.ReadsOnly fieldNames ofJson? := by
  intro fields others agree
  simp only [fieldNames, List.forall_mem_cons] at agree
  simp only [ofJson?, Json.required?, agree]

theorem Redelivery.readsOnly : Json.ReadsOnly fieldNames ofJson? := by
  intro fields others agree
  simp only [fieldNames, List.forall_mem_cons] at agree
  simp only [ofJson?, Json.required?, Json.missingNull?, agree]

theorem Exchange.readsOnly : Json.ReadsOnly fieldNames ofJson? := by
  intro fields others agree
  simp only [fieldNames, List.forall_mem_cons] at agree
  simp only [ofJson?, Json.required?, Json.missingNull?, agree]

/-! ## All documents -/

/-- **Failures, messages, the bookkeeping of redeliveries and exchanges are restored from their
documents, and every document that is read settles.** Whatever its shape, the value it says is
written as a document of the same value, and nothing changes from then on. -/
theorem documents_settle :
    Json.Settles Failure.toJson Failure.ofJson? ∧
      Json.SettlesRecord Message.fieldNames Message.toJson Message.ofJson? ∧
      Json.SettlesRecord Redelivery.fieldNames Redelivery.toJson Redelivery.ofJson? ∧
      Json.SettlesRecord Exchange.fieldNames Exchange.toJson Exchange.ofJson? :=
  ⟨Failure.restores.settles, ⟨Message.restores.settles, Message.readsListed, Message.readsOnly⟩,
    ⟨Redelivery.restores.settles, Redelivery.readsListed, Redelivery.readsOnly⟩,
    ⟨Exchange.restores.settles, Exchange.readsListed, Exchange.readsOnly⟩⟩

end Mediation
