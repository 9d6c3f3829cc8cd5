import Mediation.Proofs.Registry.Waits

/-!
# The notifiers in the table

All waits for one id share a notifier, which the table keeps with the number of those that share it.
A wait that begins joins the notifier of its id, and makes it if there is none. A wait that ends
leaves it, and takes it out of the table if nobody is left. So the number is that of the waits that
go on (`Tallied`), whoever else begins, runs or ends in between (`Tallied.beginWait`,
`Tallied.continueWait`), and looking for the waits for an id through the table reaches all of them
(`Tallied.signal_eq`). Only a wait that begins when the clock cannot hold its deadline leaves a
notifier behind that nobody shares.
-/

set_option autoImplicit false

namespace Mediation.Registry

variable {registry : Registry} {token : Token} {id : String} {deadline now : Instant}
  {expected : String → Nat} {stray : String → Prop}

/-! ## The table -/

/-- How many waits share the notifier of an id, if the table has one. -/
def sharers? (registry : Registry) (id : String) : Option Nat :=
  (registry.notifiers.find? fun entry => entry.1 = id).map (·.2)

/-- Whether the table has a notifier for an id. -/
def hasNotifier (registry : Registry) (id : String) : Bool :=
  registry.notifiers.any fun entry => entry.1 = id

theorem isSome_sharers? (registry : Registry) (id : String) :
    (registry.sharers? id).isSome = registry.hasNotifier id := by
  rw [sharers?, Option.isSome_map, hasNotifier, Bool.eq_iff_iff, List.find?_isSome,
    List.any_eq_true]

theorem sharers?_eq_some_iff (keys : (registry.notifiers.map (·.1)).Nodup) {count : Nat} :
    registry.sharers? id = some count ↔ (id, count) ∈ registry.notifiers := by
  unfold sharers?
  constructor
  · intro known
    obtain ⟨⟨name, shared⟩, found, rfl⟩ := Option.map_eq_some_iff.mp known
    obtain rfl : name = id := by simpa using List.find?_some found
    exact List.mem_of_find?_eq_some found
  · intro member
    cases found : registry.notifiers.find? (fun entry => decide (entry.1 = id)) with
    | none => exact absurd (List.find?_eq_none.mp found _ member) (by simp)
    | some entry =>
        have here : entry.1 = id := by simpa using List.find?_some found
        have same := List.inj_on_of_nodup_map keys (List.mem_of_find?_eq_some found) member here
        rw [same, Option.map_some]

/-- Changing the number under one id leaves the others alone. -/
theorem find?_changed (notifiers : List (String × Nat)) (id name : String) (change : Nat → Nat) :
    ((notifiers.map fun (other, count) =>
        if other = id then (other, change count) else (other, count)).find?
          fun entry => entry.1 = name).map (·.2) =
      if name = id then ((notifiers.find? fun entry => entry.1 = name).map (·.2)).map change
      else (notifiers.find? fun entry => entry.1 = name).map (·.2) := by
  induction notifiers with
  | nil => simp
  | cons entry rest ih =>
      obtain ⟨other, count⟩ := entry
      rw [List.map_cons]
      by_cases here : other = name
      · subst here
        by_cases changed : other = id
        · simp [changed]
        · simp [changed]
      · by_cases changed : other = id
        · subst changed
          simpa [here, Ne.symm here] using ih
        · simpa [changed, here] using ih

theorem keys_changed (notifiers : List (String × Nat)) (id : String) (change : Nat → Nat) :
    (notifiers.map fun (other, count) =>
        if other = id then (other, change count) else (other, count)).map (·.1) =
      notifiers.map (·.1) := by
  rw [List.map_map]
  refine List.map_congr_left fun entry _ => ?_
  simp only [Function.comp_apply]
  split <;> rfl

theorem sharers?_joinNotifier (registry : Registry) (id name : String) :
    (registry.joinNotifier id).sharers? name =
      if name = id then some ((registry.sharers? id).getD 0 + 1) else registry.sharers? name := by
  have known := registry.isSome_sharers? id
  unfold joinNotifier
  split
  · next there =>
      have found : (registry.sharers? id).isSome = true := known.trans there
      obtain ⟨count, counted⟩ := Option.isSome_iff_exists.mp found
      refine (find?_changed registry.notifiers id name (· + 1)).trans ?_
      split
      · next here =>
          subst here
          change (registry.sharers? name).map (· + 1) = _
          simp [counted]
      · rfl
  · next missing =>
      have unknown : registry.sharers? id = none := by
        rw [← Option.not_isSome_iff_eq_none, known]
        exact missing
      change ((registry.notifiers ++ [(id, 1)]).find? _).map _ = _
      rw [List.find?_append, unknown]
      split
      · next here =>
          subst here
          have nobody := Option.map_eq_none_iff.mp unknown
          simp [nobody]
      · next apart => simp [sharers?, Ne.symm apart]

theorem sharers?_releaseNotifier (registry : Registry) (id name : String) :
    (registry.releaseNotifier id).sharers? name =
      if name = id then (registry.sharers? name).map (· - 1) else registry.sharers? name :=
  find?_changed registry.notifiers id name (· - 1)

/-- A notifier that nobody shares goes, and no other. -/
theorem sharers?_clearNotifier (keys : (registry.notifiers.map (·.1)).Nodup) (id name : String) :
    (registry.clearNotifier id).sharers? name =
      if name = id then (registry.sharers? name).filter (· ≠ 0) else registry.sharers? name := by
  have left : ((registry.clearNotifier id).notifiers.map (·.1)).Nodup :=
    keys.sublist (List.filter_sublist.map _)
  refine Option.ext fun count => ?_
  rw [sharers?_eq_some_iff left]
  change (name, count) ∈ registry.notifiers.filter _ ↔ _
  rw [List.mem_filter]
  by_cases here : name = id
  · rw [if_pos here, Option.filter_eq_some_iff, sharers?_eq_some_iff keys]
    simp [here]
  · rw [if_neg here, sharers?_eq_some_iff keys]
    simp [here]

/-! ## Who shares what -/

/-- How many waits for an id go on. -/
def waiting (registry : Registry) (id : String) : Nat :=
  registry.windows.countP fun window => window.2.1 = id

/-- The table has one notifier for an id at most, the expected number of waits share it, and one
that nobody shares is a stray. -/
structure Shares (registry : Registry) (expected : String → Nat) (stray : String → Prop) :
    Prop where
  keys : (registry.notifiers.map (·.1)).Nodup
  counts : ∀ id, (registry.sharers? id).getD 0 = expected id
  held : ∀ id, registry.sharers? id = some 0 → stray id

/-- The notifiers are shared by the waits that go on. -/
def Tallied (registry : Registry) (stray : String → Prop) : Prop :=
  registry.Shares registry.waiting stray

theorem tallied_empty (stray : String → Prop) : empty.Tallied stray where
  keys := List.nodup_nil
  counts _ := rfl
  held _ nobody := nomatch nobody

theorem Shares.of_same {other : Registry} (shares : registry.Shares expected stray)
    (notifiers : other.notifiers = registry.notifiers) : other.Shares expected stray := by
  have same : ∀ id, other.sharers? id = registry.sharers? id := fun id => by
    rw [sharers?, notifiers, sharers?]
  refine ⟨notifiers ▸ shares.keys, fun id => ?_, fun id nobody => ?_⟩
  · rw [same]
    exact shares.counts id
  · exact shares.held id ((same id).symm.trans nobody)

/-- Whatever leaves the waits and the notifiers alone leaves them tallied. -/
theorem Tallied.of_same {other : Registry} (tallied : registry.Tallied stray)
    (windows : other.windows = registry.windows)
    (notifiers : other.notifiers = registry.notifiers) : other.Tallied stray := by
  have same : other.waiting = registry.waiting := by
    funext id
    rw [waiting, windows, waiting]
  rw [Tallied, same]
  exact Shares.of_same tallied notifiers

theorem Shares.mono {more : String → Prop} (shares : registry.Shares expected stray)
    (sub : ∀ id, stray id → more id) : registry.Shares expected more :=
  ⟨shares.keys, shares.counts, fun id nobody => sub id (shares.held id nobody)⟩

/-- One wait more shares the notifier of an id. -/
theorem Shares.join (shares : registry.Shares expected stray) (id : String) :
    (registry.joinNotifier id).Shares
      (fun name => expected name + if name = id then 1 else 0) stray where
  keys := by
    unfold joinNotifier
    split
    · exact (keys_changed registry.notifiers id (· + 1)).symm ▸ shares.keys
    · next missing =>
        change ((registry.notifiers ++ [(id, 1)]).map Prod.fst).Nodup
        rw [List.map_append, List.nodup_append]
        refine ⟨shares.keys, List.nodup_singleton _, fun name known other new same => missing ?_⟩
        obtain ⟨entry, member, rfl⟩ := List.mem_map.mp known
        obtain rfl : other = id := by simpa using new
        exact List.any_eq_true.mpr ⟨entry, member, by simpa using same⟩
  counts name := by
    have before := shares.counts name
    rw [sharers?_joinNotifier]
    split
    · next here =>
        subst here
        rw [Option.getD_some, before]
    · rw [before, Nat.add_zero]
  held name nobody := by
    rw [sharers?_joinNotifier] at nobody
    split at nobody
    · simp at nobody
    · exact shares.held name nobody

/-- One wait fewer shares the notifier of an id, which stays in the table. -/
theorem Shares.release (shares : registry.Shares expected stray) (id : String) :
    (registry.releaseNotifier id).Shares
      (fun name => expected name - if name = id then 1 else 0)
      (fun name => stray name ∨ name = id) where
  keys := (keys_changed registry.notifiers id (· - 1)).symm ▸ shares.keys
  counts name := by
    have before := shares.counts name
    rw [sharers?_releaseNotifier]
    split
    · rw [← before]
      cases registry.sharers? name with
      | none => rfl
      | some count => rfl
    · rw [before, Nat.sub_zero]
  held name nobody := by
    rw [sharers?_releaseNotifier] at nobody
    split at nobody
    · next here => exact .inr here
    · exact .inl (shares.held name nobody)

/-- **One wait fewer shares the notifier of an id, which goes with the last.** -/
theorem Shares.leave (shares : registry.Shares expected stray) (id : String) :
    ((registry.releaseNotifier id).clearNotifier id).Shares
      (fun name => expected name - if name = id then 1 else 0) stray := by
  have released := shares.release id
  refine ⟨released.keys.sublist (List.filter_sublist.map _), fun name => ?_, fun name nobody => ?_⟩
  · refine Eq.trans ?_ (released.counts name)
    rw [sharers?_clearNotifier released.keys]
    split
    · cases (registry.releaseNotifier id).sharers? name with
      | none => rfl
      | some count =>
          cases count with
          | zero => rfl
          | succ count => rfl
    · rfl
  · rw [sharers?_clearNotifier released.keys] at nobody
    split at nobody
    · have shared := (Option.filter_eq_some_iff.mp nobody).2
      simp at shared
    · next apart => exact (released.held name nobody).resolve_right apart

/-! ## Waits that run -/

/-- How many waits for an id go on, apart from one. -/
def waitingBut (registry : Registry) (token : Token) (id : String) : Nat :=
  (registry.windowsBut token).countP fun window => window.2.1 = id

/-- A wait leaves its notifier at its end. -/
theorem Shares.endWait
    (shares : registry.Shares
      (fun name => registry.waitingBut token name + if name = id then 1 else 0) stray) :
    (registry.endWait token id).1.Tallied stray := by
  have left : ∀ name, (registry.endWait token id).1.waiting name =
      registry.waitingBut token name := by
    intro name
    change ((registry.waits.filter _).map _).countP _ = _
    rw [waitingBut, windowsBut, windows, List.filter_map]
    rfl
  have same : (registry.withoutWait token).notifiers = registry.notifiers := rfl
  have out := (shares.of_same same).leave id
  refine ⟨out.keys, fun name => (out.counts name).trans ?_, out.held⟩
  rw [left, Nat.add_sub_cancel]

/-- A wait that listens keeps its share in its notifier, or ends. -/
theorem Shares.listen
    (shares : registry.Shares
      (fun name => registry.waitingBut token name + if name = id then 1 else 0) stray) :
    (registry.listen now token id deadline).1.Tallied stray := by
  unfold Registry.listen
  split
  · exact shares.endWait
  · refine ⟨shares.keys, fun name => (shares.counts name).trans ?_, shares.held⟩
    change _ = ((registry.waits.filter _ ++ [_]).map _).countP _
    rw [List.map_append, List.countP_append, waitingBut, windowsBut, windows, List.filter_map]
    refine congrArg₂ (· + ·) rfl ?_
    rw [List.map_singleton, List.countP_singleton]
    simp [eq_comm]

/-- A wait that goes on is one more of those for its id. -/
theorem waiting_eq (tokens : (registry.windows.map (·.1)).Nodup)
    (going : (token, id, deadline) ∈ registry.windows) (name : String) :
    registry.waiting name = registry.waitingBut token name + if name = id then 1 else 0 := by
  rw [waiting, (perm_windows tokens going).countP_eq, List.countP_cons, waitingBut]
  simp [eq_comm]

/-- If a wait does not go on, the others are all. -/
theorem waitingBut_eq (idle : ∀ window ∈ registry.windows, window.1 ≠ token) (name : String) :
    registry.waitingBut token name = registry.waiting name := by
  rw [waitingBut, windowsBut, List.filter_eq_self.mpr (by simpa using idle), waiting]

/-- **A wait that begins** keeps the notifiers tallied. If it is too long for the clock, it may
leave that of its id behind as a stray. -/
theorem Tallied.beginWait (tallied : registry.Tallied stray)
    (idle : ∀ window ∈ registry.windows, window.1 ≠ token) (most : Duration) :
    (registry.beginWait now token id most).1.Tallied
      fun name => stray name ∨ name = id ∧ registry.Overruns now id most := by
  have joined := Shares.join tallied id
  have waits := (registry.joinNotifier_rest id).2
  by_cases overruns : registry.Overruns now id most
  · have released := joined.release id
    rw [beginWait_of_overruns overruns]
    refine ⟨released.keys, fun name => (released.counts name).trans ?_, fun name nobody => ?_⟩
    · rw [Nat.add_sub_cancel, waiting, waiting, windows, windows]
      exact congrArg (fun waits => (List.map _ waits).countP _) waits.symm
    · exact (released.held name nobody).imp_right fun here => ⟨here, overruns⟩
  · rw [beginWait_of_fits overruns]
    have alone : ∀ window ∈ (registry.joinNotifier id).windows, window.1 ≠ token := by
      rwa [windows, waits]
    refine Shares.mono (Shares.listen ⟨joined.keys, fun name => ?_, joined.held⟩) fun _ => .inl
    rw [joined.counts name, waitingBut_eq alone, waiting, waiting, windows, windows, waits]

/-- **A wait that goes on** keeps the notifiers tallied. -/
theorem Tallied.continueWait (tallied : registry.Tallied stray)
    (tokens : (registry.windows.map (·.1)).Nodup) (now : Instant) (token : Token) :
    (registry.continueWait now token).1.Tallied stray := by
  unfold Registry.continueWait
  cases found : registry.waits.find? (fun wait => decide (wait.token = token)) with
  | none => exact tallied
  | some wait =>
      have member := List.mem_of_find?_eq_some found
      have own : wait.token = token := by simpa using List.find?_some found
      have going : (token, wait.id, wait.deadline) ∈ registry.windows :=
        mem_windows.mpr ⟨wait, member, own, rfl, rfl⟩
      have shares : registry.Shares
          (fun name => registry.waitingBut token name + if name = wait.id then 1 else 0) stray :=
        ⟨tallied.keys, fun name => (tallied.counts name).trans (waiting_eq tokens going name),
          tallied.held⟩
      dsimp only
      split
      · exact shares.listen
      · split
        · exact shares.endWait
        · exact tallied

/-! ## Looking into the table -/

/-- As long as a wait goes on, the table has the notifier of its id. -/
theorem Tallied.hasNotifier (tallied : registry.Tallied stray)
    (going : (token, id, deadline) ∈ registry.windows) : registry.hasNotifier id = true := by
  have some_wait : 0 < registry.waiting id :=
    List.countP_pos_iff.mpr ⟨_, going, by simp⟩
  rw [← tallied.counts id] at some_wait
  rw [← isSome_sharers?]
  cases known : registry.sharers? id with
  | none => simp [known] at some_wait
  | some count => rfl

/-- **A notifier that is no stray is shared by a wait that goes on.** -/
theorem Tallied.exists_window (tallied : registry.Tallied stray)
    (there : registry.hasNotifier id = true) (apart : ¬ stray id) :
    ∃ token deadline, (token, id, deadline) ∈ registry.windows := by
  rw [← isSome_sharers?] at there
  obtain ⟨count, known⟩ := Option.isSome_iff_exists.mp there
  have counted := tallied.counts id
  rw [known, Option.getD_some] at counted
  have shared : 0 < registry.waiting id := by
    refine Nat.pos_of_ne_zero fun nobody => apart (tallied.held id ?_)
    rw [known, counted, nobody]
  obtain ⟨⟨token, name, deadline⟩, inside, here⟩ := List.countP_pos_iff.mp shared
  obtain rfl : name = id := by simpa using here
  exact ⟨token, deadline, inside⟩

/-- The notifier of an id is one entry of the table, with the number of waits that go on. -/
theorem Tallied.filter_notifiers (tallied : registry.Tallied stray)
    (there : registry.hasNotifier id = true) :
    registry.notifiers.filter (fun entry => entry.1 = id) = [(id, registry.waiting id)] := by
  rw [← isSome_sharers?] at there
  obtain ⟨count, known⟩ := Option.isSome_iff_exists.mp there
  have counted := tallied.counts id
  rw [known, Option.getD_some] at counted
  subst counted
  have member := (sharers?_eq_some_iff tallied.keys).mp known
  refine List.perm_singleton.mp ((List.perm_ext_iff_of_nodup
    ((List.Nodup.of_map _ tallied.keys).filter _) (List.nodup_singleton _)).mpr fun entry => ?_)
  rw [List.mem_filter, List.mem_singleton, decide_eq_true_iff]
  constructor
  · rintro ⟨inside, here⟩
    exact List.inj_on_of_nodup_map tallied.keys inside member here
  · rintro rfl
    exact ⟨member, rfl⟩

/-- Tells the waits for an id through its notifier, if the table has one. -/
def signal (registry : Registry) (id : String) : Registry :=
  if registry.hasNotifier id then registry.notify id else registry

/-- **Looking for the waits through the table misses nobody**, whatever requests there are. -/
theorem Tallied.signal_eq (tallied : registry.Tallied stray) (entries : List Pending)
    (id : String) :
    ({ registry with entries } : Registry).signal id =
      ({ registry with entries } : Registry).notify id := by
  unfold signal
  split
  · rfl
  · next missing =>
      have nobody : ∀ wait ∈ registry.waits, wait.id ≠ id := by
        rintro wait member rfl
        exact missing (tallied.hasNotifier (mem_windows.mpr ⟨wait, member, rfl, rfl, rfl⟩))
      have same : registry.waits.map (fun wait =>
          if wait.id = id then { wait with notified := true } else wait) = registry.waits := by
        refine (List.map_congr_left fun wait member => ?_).trans (List.map_id _)
        rw [if_neg (nobody wait member), id_eq]
      rw [notify, same]

end Mediation.Registry
