import Mediation.Proofs.Coordinator.Timers

/-!
# Before the first request

A coordinator over a loopback may be started, find its reply address or be told it, and let time
pass, in any order, before it is asked anything (`Choice.isOpening`). Its own tasks are the only
ones, and it has no requests (`Unasked`). Once it runs and knows the reply address it is ready to
serve requests (`Unasked.serves`).
-/

set_option autoImplicit false

namespace Mediation.Coordinator

variable {c d : Coordinator} {task : TaskId} {settings : Loopback} {choice : Choice}
  {choices : List Choice}

/-- The events before any request is issued. -/
def Choice.isOpening : Choice → Bool
  | .turn _ | .start | .publish _ | .elapse _ => true
  | _ => false

theorem Choice.isLive_of_isOpening (opens : choice.isOpening) : choice.isLive := by
  cases choice with
  | turn task => rfl
  | start => rfl
  | publish address => rfl
  | elapse instant => rfl
  | _ => simp [Choice.isOpening] at opens

/-- A coordinator over a loopback that was asked nothing yet. -/
structure Unasked (c : Coordinator) (settings : Loopback) : Prop where
  live : ∃ registered, c.Live registered
  line : c.transport.line = .loopback settings
  sent : c.transport.sent = []
  assigned : c.transport.assigned = 0
  listening : c.lifecycle.runAllowed = true → c.transport.listening = true
  dissolved : c.dissolved = false
  faults : c.config.transferFaults = false
  entries : c.registry.entries = []
  waits : c.registry.waits = []
  handoffs : c.handoffs = []
  own : ∀ entry ∈ c.tasks, Job.isBackground entry.2 = true
  reported : c.Reported
  timely : c.Timely

theorem unasked_create (config : CoordinatorConfig) (settings : Loopback) (naming : Nat → String)
    (faults : config.transferFaults = false) :
    (create config (Transport.ofLine (.loopback settings)) naming).Unasked settings where
  live := ⟨_, live_create config _ naming⟩
  line := rfl
  sent := rfl
  assigned := rfl
  listening running := by
    simp [create, Lifecycle.create, Lifecycle.runAllowed, Phase.runAllowed] at running
  dissolved := rfl
  faults := faults
  entries := rfl
  waits := rfl
  handoffs := rfl
  own := by simp [create]
  reported := ⟨List.nodup_nil, by simp [create]⟩
  timely := ⟨by simp [create, timers], by simp [create]⟩

theorem Unasked.of_passes (unasked : c.Unasked settings) (passes : Passes task c d)
    (live : ∃ registered, d.Live registered) (timely : d.Timely) : d.Unasked settings where
  live := live
  line := passes.transport ▸ unasked.line
  sent := passes.transport ▸ unasked.sent
  assigned := passes.transport ▸ unasked.assigned
  listening := by
    rw [passes.lifecycle, passes.transport]
    exact unasked.listening
  dissolved := passes.dissolved.trans unasked.dissolved
  faults := passes.config ▸ unasked.faults
  entries := passes.entries.trans unasked.entries
  waits := passes.waits.trans unasked.waits
  handoffs := passes.handoffs.trans unasked.handoffs
  own entry inside := (passes.jobs entry inside).elim (unasked.own entry) id
  reported := unasked.reported.of_passes passes
  timely := timely

theorem Unasked.step_start (unasked : c.Unasked settings) (orderly : c.Orderly)
    (live : ∃ registered, (c.step .start).Live registered)
    (gone : ∀ other, other < c.begun → c.job? other = none → (c.step .start).job? other = none) :
    (c.step .start).Unasked settings := by
  cases starts : c.lifecycle.start with
  | error refusal =>
      have same : c.step .start = c := by simp [step, start, starts]
      rw [same]
      exact unasked
  | ok lifecycle =>
      have shape : c.step .start = { c with
          lifecycle
          transport := c.transport.listen
          tasks := c.tasks ++ [(c.begun, .resolve none)] ++ [(c.begun + 1, .sweep none)]
          ready := c.ready ++ [c.begun] ++ [c.begun + 1]
          begun := c.begun + 1 + 1
          background := c.background ++ [c.begun, c.begun + 1] } := by
        simp [step, start, starts, spawn]
      rw [shape] at live gone ⊢
      exact {
        live
        line := unasked.line
        sent := unasked.sent
        assigned := unasked.assigned
        listening := fun _ => rfl
        dissolved := unasked.dissolved
        faults := unasked.faults
        entries := unasked.entries
        waits := unasked.waits
        handoffs := unasked.handoffs
        own := by
          intro entry inside
          rcases List.mem_append.mp inside with earlier | sweeper
          · rcases List.mem_append.mp earlier with old | resolver
            · exact unasked.own entry old
            · rw [List.mem_singleton.mp resolver]
              rfl
          · rw [List.mem_singleton.mp sweeper]
            rfl
        reported := unasked.reported.keep rfl (Nat.le_add_right _ 2) gone
        timely := by
          refine unasked.timely.grow orderly rfl rfl rfl (fun entry inside => ?_) fun other can =>
            List.mem_append_left _ (List.mem_append_left _ can)
          rcases List.mem_append.mp inside with earlier | sweeper
          · refine (List.mem_append.mp earlier).imp_right fun resolver => ?_
            rw [List.mem_singleton.mp resolver]
            exact later_of_idle rfl
          · rw [List.mem_singleton.mp sweeper]
            exact .inr (later_of_idle rfl)
      }

theorem Unasked.turn (unasked : c.Unasked settings) (task : TaskId)
    (live : ∃ registered, (c.turn task).Live registered) : (c.turn task).Unasked settings := by
  obtain ⟨_, alive⟩ := unasked.live
  have orderly := alive.attentive.orderly
  cases standing : c.job? task with
  | none =>
      rw [turn_of_ended standing] at live ⊢
      refine unasked.of_passes (c.passes_called task) live ?_
      exact unasked.timely.keep rfl rfl rfl
        (fun entry member => .inl ⟨member, job?_eq_none_iff.mp standing entry member⟩)
        (c.passes_called task).ready
  | some job =>
      have inside := orderly.job?_eq_some_iff.mp standing
      rw [turn_eq standing (alive.sound.leads_called standing).sound.held] at live ⊢
      have own := unasked.own _ inside
      have young : ∀ entry ∈ c.registry.entries, c.now < entry.deadline := by
        simp [unasked.entries]
      exact unasked.of_passes (passes_background orderly inside own young) live
        (unasked.timely.background orderly unasked.dissolved young inside own)

theorem Unasked.step (unasked : c.Unasked settings) (opens : choice.isOpening) :
    (c.step choice).Unasked settings := by
  obtain ⟨_, alive⟩ := unasked.live
  have orderly := alive.attentive.orderly
  have goesOn := Choice.isLive_of_isOpening opens
  have live : ∃ registered, (c.step choice).Live registered := ⟨_, alive.step goesOn⟩
  cases choice with
  | turn task => exact unasked.turn task live
  | start =>
      exact unasked.step_start orderly live fun other old missing =>
        (alive.ended_step goesOn old missing).2
  | publish address =>
      exact unasked.of_passes (c.passes_publish c.begun address) live
        (unasked.timely.publish orderly address)
  | elapse instant =>
      exact unasked.of_passes (c.passes_elapse c.begun instant) live (unasked.timely.elapse instant)
  | _ => simp [Choice.isOpening] at opens

theorem Unasked.run (unasked : c.Unasked settings)
    (opens : ∀ choice ∈ choices, choice.isOpening) : (c.run choices).Unasked settings := by
  induction choices generalizing c with
  | nil => exact unasked
  | cons choice rest ih =>
      exact ih (unasked.step (opens choice List.mem_cons_self))
        fun other member => opens other (List.mem_cons_of_mem _ member)

/-- **A coordinator that is ready** serves the requests it has not been asked yet. -/
theorem Unasked.serves (unasked : c.Unasked settings) (running : c.lifecycle.runAllowed = true)
    (address : c.replyAddress.isSome) : c.Serves settings [] where
  live := unasked.live
  serving :=
    { line := unasked.line, listening := unasked.listening running, dissolved := unasked.dissolved
      running, address, faults := unasked.faults, waits := unasked.waits }
  size := congrArg List.length unasked.handoffs
  log := unasked.sent
  assigned := by rw [unasked.assigned, List.length_nil, ite_self]
  carriers := List.nodup_nil
  begun := by simp
  answerable := by simp
  stages := by simp
  entries := by simp [unasked.entries]
  jobs entry inside := .background (unasked.own entry inside)
  reported := unasked.reported

end Mediation.Coordinator
