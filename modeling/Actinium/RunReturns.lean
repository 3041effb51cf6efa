import Actinium.SelfCleaning
import Actinium.WorkerShutdown

set_option autoImplicit false

namespace Actinium

variable {P : Program} {n : Nat}

-- The handler has not asked to stop, and no stopped hook runs in a turn.
def Phase.steady : Phase P n → Prop
  | .handling _ _ _ ctx => ctx.running = true
  | .handled _ _ _ running => running = true
  | .stopping _ _ _ (.turn _) => False
  | _ => True

namespace Worker

def undisturbed : Act P → Prop
  | .stopCtx => False
  | .own _ (.handlerPanic _) => False
  | .own _ .hookPanic => False
  | _ => True

structure Steady (log : Log P) (w : Worker P n) : Prop where
  phase : w.phase.steady
  living : w.phase.looping = true ∨ w.phase = .snapshot → log.gone = []

theorem steady_frame (log events : Log P) (w next : Worker P n) (steady : Steady log w) (silent : events.gone = [])
    (phase : next.phase.steady)
    (before : next.phase.looping = true ∨ next.phase = .snapshot → w.phase.looping = true ∨ w.phase = .snapshot) :
    Steady (log ++ events) next := by
  refine ⟨phase, ?_⟩
  intro here
  rw [Log.gone_append, steady.living (before here), silent]
  rfl

theorem steady_done (log events : Log P) (next : Worker P n) (phase : next.phase.steady)
    (swept : ¬ (next.phase.looping = true ∨ next.phase = .snapshot)) : Steady (log ++ events) next :=
  ⟨phase, fun here => absurd here swept⟩

theorem steady_step (log events : Log P) (w next : Worker P n) (act : Act P) (steady : Steady log w) (placed : Placed log w)
    (mail : Mail log w) (quiet : undisturbed act) (moves : Moves w act events next) :
    Steady (log ++ events) next := by
  have phase := steady.phase
  cases moves with
  | post => exact steady_frame log _ w _ steady rfl phase id
  | postControl msg => exact steady_frame log _ w _ steady (by cases msg <;> rfl) phase id
  | direct => exact steady_frame log _ w _ steady rfl phase id
  | stopHandler => cases quiet
  | stopHook => cases quiet
  | drain => exact steady_frame log _ w _ steady rfl phase id
  | handlerPanic => cases quiet
  | hookPanic => cases quiet
  | handlerReturn senders turn envelope cell ctx val reply here =>
      rw [here] at phase
      exact steady_frame log _ w _ steady rfl phase (fun _ => Or.inl (by rw [here]; rfl))
  | stop senders turn id cell here =>
      rw [here] at phase
      cases phase
  | mismatch senders turn popped scheduler envelope cell here ready dequeued present untyped =>
      have head := (dequeue_head _ _ _ turn envelope ready dequeued).1
      exact absurd (dispatched_typed log w placed mail turn envelope cell (by simp [head]) present) untyped
  | hookReturn senders id cell ctx after here =>
      rw [here] at phase
      cases after with
      | turn turn => cases phase
      | stopAll ids => exact steady_done log _ _ trivial (by rintro (wrong | wrong) <;> cases wrong)
  | hookSkip senders id cell ctx after here =>
      rw [here] at phase
      cases after with
      | turn turn => cases phase
      | stopAll ids => exact steady_done log _ _ trivial (by rintro (wrong | wrong) <;> cases wrong)
  | snapshot => exact steady_done log _ _ trivial (by rintro (wrong | wrong) <;> cases wrong)
  | stopDone => exact steady_done log _ _ trivial (by rintro (wrong | wrong) <;> cases wrong)
  | stopGone => exact steady_done log _ _ trivial (by rintro (wrong | wrong) <;> cases wrong)
  | stopNext => exact steady_done log _ _ trivial (by rintro (wrong | wrong) <;> cases wrong)
  | dropControl => exact steady_done log _ _ trivial (by rintro (wrong | wrong) <;> cases wrong)
  | dropMsgs => exact steady_done log _ _ trivial (by rintro (wrong | wrong) <;> cases wrong)
  | dropScheduler => exact steady_done log _ _ trivial (by rintro (wrong | wrong) <;> cases wrong)
  | handle => exact steady_frame log _ w _ steady rfl rfl (fun _ => Or.inl (by simp only [*]; rfl))
  | _ => exact steady_frame log _ w _ steady rfl trivial (fun _ => Or.inl (by simp only [*]; rfl))

theorem looping_after (w next : Worker P n) (act : Act P) (events : Log P) (quiet : undisturbed act)
    (moves : Moves w act events next) (loops : w.phase.looping = true) :
    next.phase.looping = true ∨ next.phase = .snapshot := by
  cases moves with
  | post => exact Or.inl loops
  | postControl => exact Or.inl loops
  | direct => exact Or.inl loops
  | drain => exact Or.inl loops
  | stopHook => cases quiet
  | hookPanic => cases quiet
  | handlerPanic => cases quiet
  | stopHandler => cases quiet
  | pollShutdown => exact Or.inr rfl
  | disconnected => exact Or.inr rfl
  | hookReturn senders id cell ctx after here =>
      rw [here] at loops
      cases after with
      | turn turn => exact Or.inl rfl
      | stopAll ids => cases loops
  | hookSkip senders id cell ctx after here =>
      rw [here] at loops
      cases after with
      | turn turn => exact Or.inl rfl
      | stopAll ids => cases loops
  | snapshot senders ids here => rw [here] at loops; cases loops
  | stopDone senders here => rw [here] at loops; cases loops
  | stopGone senders id ids here => rw [here] at loops; cases loops
  | stopNext senders id ids cell here => rw [here] at loops; cases loops
  | dropControl senders panicked here => rw [here] at loops; cases loops
  | dropMsgs senders panicked here => rw [here] at loops; cases loops
  | dropScheduler senders panicked here => rw [here] at loops; cases loops
  | _ => exact Or.inl rfl

theorem quiet_panics (w next : Worker P n) (act : Act P) (events : Log P) (quiet : undisturbed act)
    (moves : Moves w act events next) (envelope : Message P) : .panicked envelope ∉ events := by
  cases moves with
  | handlerPanic => cases quiet
  | postControl msg => cases msg <;> simp [controlEvent]
  | _ => simp [mem_begin_stop, mem_refusals]

-- While a worker with steady actors is in its loop it drops nothing.
theorem nothing_dropped (log : Log P) (w : Worker P n) (mail : Mail log w) (steady : Steady log w)
    (here : w.phase.looping = true ∨ w.phase = .snapshot) (envelope : Message P) (member : envelope ∈ log.accepted) :
    envelope ∈ log.finished ∨ envelope ∈ w.pending envelope.actorId := by
  have isOpen : w.phase.closing = false := by
    rcases here with loops | snapshot
    · exact Phase.looping_open _ loops
    · rw [snapshot]
      rfl
  have living : envelope.actorId ∉ log.gone := by
    rw [steady.living here]
    exact List.not_mem_nil
  have inside : envelope ∈ about envelope.actorId log.accepted := (Keyed.mem_select _ _ _ _).mpr ⟨member, rfl⟩
  rw [mail.order isOpen, dropped_alive log w mail _ isOpen living, List.append_nil] at inside
  rcases List.mem_append.mp inside with finished | pending
  · exact Or.inl ((Keyed.mem_select _ _ _ _).mp finished).1
  · exact Or.inr pending

-- A message that waits neither when the worker leaves its loop nor later is
-- not lost afterwards.
theorem kept_step (early : Message P → Prop) (log events : Log P) (w next : Worker P n) (act : Act P)
    (mail : Mail (log ++ events) next) (steady : Steady (log ++ events) next) (quiet : undisturbed act)
    (moves : Moves w act events next)
    (timely : w.phase.looping = false → ∀ envelope, early envelope → envelope ∉ w.pending envelope.actorId)
    (kept : ∀ envelope ∈ log.accepted, early envelope → envelope ∈ log.finished ∨ envelope ∈ w.pending envelope.actorId)
    (envelope : Message P) (member : envelope ∈ (log ++ events).accepted) (before : early envelope) :
    envelope ∈ (log ++ events).finished ∨ envelope ∈ next.pending envelope.actorId := by
  by_cases here : next.phase.looping = true ∨ next.phase = .snapshot
  · exact nothing_dropped _ next mail steady here envelope member
  · have left : w.phase.looping = false := by
      cases loops : w.phase.looping with
      | false => rfl
      | true => exact absurd (looping_after w next act events quiet moves loops) here
    rw [Log.accepted_append] at member
    rcases List.mem_append.mp member with old | new
    · rcases kept envelope old before with finished | pending
      · left
        simp [finished]
      · exact absurd pending (timely left envelope before)
    · right
      obtain rfl := accepted_inv moves envelope ((Log.mem_accepted _ _).mp new)
      cases moves with
      | post envelope alive => simp [pending, withMail, Keyed.mem_select]

theorem ended_step (w next : Worker P n) (act : Act P) (events : Log P) (moves : Moves w act events next)
    (panicked : Bool) (ended : w.phase = .ended panicked) : next.phase = .ended panicked := by
  cases moves with
  | post => exact ended
  | postControl => exact ended
  | direct => exact ended
  | drain senders envelope rest here => simp [ended] at here
  | _ => simp [ended] at *

theorem ended_pending (log : Log P) (w : Worker P n) (owned : Owned log w) (panicked : Bool)
    (ended : w.phase = .ended panicked) (id : ActorId) : w.pending id = [] := by
  rw [pending, ended, owned.noMail panicked ended id, owned.noMsgs (by rw [ended]; rfl)]
  rfl

end Worker

-- No callback stops its actor or panics.
def Action.calm : Action P n → Bool
  | .ctxStop _ => false
  | .startedPanic _ => false
  | .worker _ (.handlerPanic _) => false
  | .worker _ .hookPanic => false
  | _ => true

namespace State

def steady : Machine.Rely (State P n) (Action P n) (Entry P n) := fun _ _ action => action.calm = true

-- The message waits in the channel or a mailbox of a worker that has left its loop.
def Stranded (s : State P n) (w : Fin n) (envelope : Message P) : Prop :=
  (s.workers w).phase.looping = false ∧ envelope ∈ (s.workers w).pending envelope.actorId

def timely (early : Fin n → Message P → Prop) : Machine.Rely (State P n) (Action P n) (Entry P n) := fun log s action =>
  steady log s action ∧ ∀ w envelope, early w envelope → ¬ s.Stranded w envelope

theorem steady_undisturbed (log : Trace P n) (s : State P n) (action : Action P n) (quiet : steady log s action) (w : Fin n)
    (act : Worker.Act P) (source : Sourced s action w act) : Worker.undisturbed act := by
  cases act with
  | stopCtx =>
      rw [show action = .ctxStop (.worker w) from source] at quiet
      cases quiet
  | own senders own =>
      rw [show action = .worker w own from source.1] at quiet
      cases own <;> trivial
  | _ => trivial

-- What is known of a worker in a run of steady actors.
structure Steady (log : Trace P n) (s : State P n) : Prop where
  workers : ∀ w, Worker.Steady (log.worker w) (s.workers w)
  calm : ∀ w envelope, .panicked envelope ∉ log.worker w

theorem steady_step (log entries : Trace P n) (s next : State P n) (action : Action P n) (routed : Routed log s)
    (steadied : Steady log s) (quiet : steady log s action) (moves : Moves s action entries next) :
    Steady (log ++ entries) next := by
  have each (w : Fin n) : Worker.Steady ((log ++ entries).worker w) (next.workers w) ∧
      ∀ envelope, .panicked envelope ∉ (log ++ entries).worker w := by
    rw [Trace.worker_append]
    rcases worker_source log entries s next action routed moves w with ⟨same, silent⟩ | ⟨act, source, kept, taken⟩
    · rw [same, silent, List.append_nil]
      exact ⟨steadied.workers w, steadied.calm w⟩
    · have sound := Worker.reach_sound w _ _ (routed.workers w)
      have undisturbed := steady_undisturbed log s action quiet w act source
      have stepped := Worker.step_moves _ _ act _ taken
      refine ⟨Worker.steady_step _ _ _ _ act (steadied.workers w) sound.placed sound.mail undisturbed stepped, ?_⟩
      intro envelope member
      rcases List.mem_append.mp member with old | new
      · exact steadied.calm w envelope old
      · exact Worker.quiet_panics _ _ act _ undisturbed stepped envelope new
  exact ⟨fun w => (each w).1, fun w => (each w).2⟩

theorem steady_start : Steady ([] : Trace P n) (withThreads P n) where
  workers := fun _ => ⟨trivial, fun _ => rfl⟩
  calm := by simp

-- What was accepted early has been handled or still waits.
def Kept (early : Fin n → Message P → Prop) (log : Trace P n) (s : State P n) : Prop :=
  ∀ w, ∀ envelope ∈ (log.worker w).accepted, early w envelope →
    envelope ∈ (log.worker w).finished ∨ envelope ∈ (s.workers w).pending envelope.actorId

theorem kept_step (early : Fin n → Message P → Prop) (log entries : Trace P n) (s next : State P n) (action : Action P n)
    (routed : Routed log s) (steadied : Steady log s) (kept : Kept early log s) (allowed : timely early log s action)
    (moves : Moves s action entries next) : Kept early (log ++ entries) next := by
  intro w envelope member before
  have steadyNext := steady_step log entries s next action routed steadied allowed.1 moves
  have routedNext := routed_step log entries s next action routed moves
  have mail := (Worker.reach_sound w _ _ (routedNext.workers w)).mail
  have workerNext := steadyNext.workers w
  rw [Trace.worker_append] at member mail workerNext ⊢
  rcases worker_source log entries s next action routed moves w with ⟨same, silent⟩ | ⟨act, source, _, taken⟩
  · rw [silent, List.append_nil] at member ⊢
    rw [same]
    exact kept w envelope member before
  · refine Worker.kept_step (early w) _ _ (s.workers w) _ act mail workerNext
      (steady_undisturbed log s action allowed.1 w act source) (Worker.step_moves _ _ act _ taken) ?_ (kept w) envelope member before
    intro left other early inside
    exact allowed.2 w other early ⟨left, inside⟩

-- run returns when the threads of all workers have ended.
def Joined (s : State P n) : Prop :=
  match s.owner with
  | .joining k _ => ∀ v : Fin n, v.val < k → ∃ panicked, (s.workers v).phase = .ended panicked
  | .done false => ∀ v, ∃ panicked, (s.workers v).phase = .ended panicked
  | _ => True

theorem joined_step (log entries : Trace P n) (s next : State P n) (action : Action P n) (routed : Routed log s)
    (joined : Joined s) (moves : Moves s action entries next) : Joined next := by
  have ended (v : Fin n) (panicked : Bool) (before : (s.workers v).phase = .ended panicked) :
      (next.workers v).phase = .ended panicked := by
    rcases worker_source log entries s next action routed moves v with ⟨same, _⟩ | ⟨act, _, _, taken⟩
    · rw [same, before]
    · exact Worker.ended_step _ _ act _ (Worker.step_moves _ _ act _ taken) panicked before
  have still (owner : next.owner = s.owner) : Joined next := by
    unfold Joined at joined ⊢
    rw [owner]
    split
    · rename_i k expects here
      rw [here] at joined
      intro v below
      obtain ⟨panicked, before⟩ := joined v below
      exact ⟨panicked, ended v panicked before⟩
    · rename_i here
      rw [here] at joined
      intro v
      obtain ⟨panicked, before⟩ := joined v
      exact ⟨panicked, ended v panicked before⟩
    · trivial
  cases moves with
  | run => trivial
  | dropRuntime => trivial
  | wake => trivial
  | ownerFailed => trivial
  | ownerShutdown k expects bound result here taken =>
      unfold Joined
      rw [on_worker_owner]
      trivial
  | ownerJoins =>
      intro v below
      exact absurd below (Nat.not_lt_zero _)
  | joined k expects panicked bound here gone =>
      unfold Joined at joined
      rw [here] at joined
      unfold Joined
      by_cases fails : (panicked && expects) = true
      · simp only [fails, if_true]
      · simp only [fails]
        intro v below
        by_cases last : v.val = k
        · have same : v = ⟨k, bound⟩ := Fin.ext last
          exact ⟨panicked, by rw [same]; exact gone⟩
        · exact joined v (by omega)
  | allJoined k expects bound here =>
      unfold Joined at joined
      rw [here] at joined
      intro v
      exact joined v (by omega)
  | _ => exact still (by first | rfl | exact on_worker_owner _ _ _)

theorem run_workers (s next : State P n) (entries : Trace P n) (called : s.step .run = some (next, entries)) :
    next.workers = s.workers ∧ entries = [] := by
  simp only [step, run] at called
  split at called
  · split at called
    · cases called
    · cases called
      exact ⟨rfl, rfl⟩
  · cases called

end State

theorem reach_steady (rely : Machine.Rely (State P n) (Action P n) (Entry P n))
    (quiet : ∀ log s action, rely log s action → State.steady log s action) (log : Trace P n) (s : State P n)
    (reached : (runtime P n).Reach rely log s) : State.Steady log s := by
  refine Machine.reach_invariant (runtime P n) rely State.Steady ?_ ?_ log s reached
  · intro s start
    rw [start]
    exact State.steady_start
  · intro log s action next entries before steadied allowed taken
    exact State.steady_step log entries s next action (reach_routed rely log s before) steadied (quiet log s action allowed)
      (State.step_moves s next action entries taken)

theorem reach_joined (rely : Machine.Rely (State P n) (Action P n) (Entry P n)) (log : Trace P n) (s : State P n)
    (reached : (runtime P n).Reach rely log s) : State.Joined s := by
  refine Machine.reach_invariant (runtime P n) rely (fun _ s => State.Joined s) ?_ ?_ log s reached
  · intro s start
    rw [start]
    trivial
  · intro log s action next entries before joined _ taken
    exact State.joined_step log entries s next action (reach_routed rely log s before) joined
      (State.step_moves s next action entries taken)

theorem reach_kept (log : Trace P n) (s : State P n) (reached : (runtime P n).Reach (State.timely fun _ _ => True) log s) :
    State.Kept (fun _ _ => True) log s := by
  refine Machine.reach_invariant (runtime P n) _ (State.Kept fun _ _ => True) ?_ ?_ log s reached
  · intro s start w envelope member
    cases member
  · intro log s action next entries before kept allowed taken
    exact State.kept_step _ log entries s next action (reach_routed _ log s before)
      (reach_steady _ (fun _ _ _ allowed => allowed.1) log s before) kept allowed (State.step_moves s next action entries taken)

theorem runs_kept (early : Fin n → Message P → Prop) (log later : Trace P n) (s final : State P n)
    (reached : (runtime P n).Reach State.steady log s) (kept : State.Kept early log s)
    (run : (runtime P n).Runs (State.timely early) log s later final) :
    (runtime P n).Reach State.steady later final ∧ State.Kept early later final := by
  induction run with
  | refl => exact ⟨reached, kept⟩
  | step later mid final action entries _ allowed taken ih =>
      obtain ⟨before, still⟩ := ih
      refine ⟨.step later mid final action entries before allowed.1 taken, ?_⟩
      exact State.kept_step early later entries mid final action (reach_routed _ later mid before)
        (reach_steady _ (fun _ _ _ quiet => quiet) later mid before) still allowed (State.step_moves mid final action entries taken)

-- A worker out of its loop runs no handler.
theorem Worker.left_step (w next : Worker P n) (act : Worker.Act P) (events : Log P) (moves : Worker.Moves w act events next)
    (left : w.phase.looping = false) :
    next.phase.looping = false ∧ ∀ envelope reply, .handled envelope reply ∉ events := by
  constructor
  · cases loops : next.phase.looping with
    | false => rfl
    | true =>
        rw [Worker.looping_before w next act events moves loops] at left
        cases left
  · intro envelope reply member
    obtain ⟨turn, cell, ctx, here, _⟩ := Worker.handled_inv moves envelope reply member
    rw [here] at left
    cases left

-- A message that waits at a worker out of its loop is never handled.
theorem stranded_lost (log later : Trace P n) (s final : State P n) (reached : (runtime P n).Reach Machine.free log s)
    (w : Fin n) (envelope : Message P) (stranded : s.Stranded w envelope)
    (run : (runtime P n).Runs Machine.free log s later final) (v : Fin n) (reply : P.Reply) :
    .at v (.handled envelope reply) ∉ later := by
  have routed := reach_routed _ log s reached
  obtain ⟨accepted, unfinished, _⟩ :=
    Worker.pending_open _ _ (reach_worker _ log s reached w).mail envelope stranded.2
  have quiet : (final.workers w).phase.looping = false ∧ ∀ reply, .handled envelope reply ∉ later.worker w := by
    refine Machine.runs_invariant (runtime P n) Machine.free
      (fun later mid => (mid.workers w).phase.looping = false ∧ ∀ reply, .handled envelope reply ∉ Trace.worker w later)
      log s reached ⟨stranded.1, ?_⟩ ?_ later final run
    · intro reply member
      exact unfinished ((Log.mem_finished _ _).mpr (Or.inl ⟨reply, member⟩))
    · intro later mid action next entries before held _ taken
      have routedMid := reach_routed _ later mid before
      rw [Trace.worker_append]
      rcases State.worker_source later entries mid next action routedMid (State.step_moves mid next action entries taken) w
        with ⟨same, silent⟩ | ⟨act, _, _, stepped⟩
      · rw [same, silent, List.append_nil]
        exact held
      · obtain ⟨left, silent⟩ := Worker.left_step _ _ act _ (Worker.step_moves _ _ act _ stepped) held.1
        refine ⟨left, ?_⟩
        intro reply member
        rcases List.mem_append.mp member with old | new
        · exact held.2 reply old
        · exact silent envelope reply new
  intro member
  have routedFinal := reach_routed _ later final (Machine.reach_runs _ _ log later s final reached run)
  have handled := (Trace.mem_worker v _ later).mpr member
  have there := Worker.accepted_of_over _ _ (Worker.reach_sound v _ _ (routedFinal.workers v)).mail envelope
    (Or.inl ((Log.mem_finished _ _).mpr (Or.inl ⟨reply, handled⟩)))
  obtain ⟨rest, rfl⟩ := Machine.runs_log _ _ log later s final run
  have here : envelope ∈ ((log ++ rest).worker w).accepted := by
    rw [Trace.worker_append, Log.accepted_append]
    exact List.mem_append_left _ accepted
  have same := routedFinal.apart v w envelope there envelope here rfl
  subst same
  exact quiet.2 reply handled

-- What was accepted before run was called has been handled when it returns,
-- unless it waited somewhere when its worker had left its loop.
theorem run_handles_iff :
    (∀ (log later : Trace P n) (s next final : State P n) (entries : Trace P n),
      (runtime P n).Reach (State.timely fun _ _ => True) log s → s.step .run = some (next, entries) →
        (runtime P n).Runs (State.timely fun w envelope => .at w (.accepted envelope) ∈ log) (log ++ entries) next later final →
          final.owner = .done false → ∀ w envelope, .at w (.accepted envelope) ∈ log →
            ∃ reply, .at w (.handled envelope reply) ∈ later) ∧
      (∀ (log later : Trace P n) (s final : State P n) (w : Fin n) (envelope : Message P),
        (runtime P n).Reach State.steady log s → s.Stranded w envelope → (runtime P n).Runs State.steady log s later final →
          ∀ v reply, .at v (.handled envelope reply) ∉ later) := by
  constructor
  · intro log later s next final entries reached called run returned w envelope accepted
    have steady := Machine.reach_weaken _ _ State.steady (fun _ _ _ allowed => allowed.1) log s reached
    have begun : (runtime P n).Reach State.steady (log ++ entries) next :=
      .step log s next (Action.run : Action P n) entries steady rfl called
    have kept : State.Kept (fun w envelope => .at w (.accepted envelope) ∈ log) (log ++ entries) next := by
      have before := reach_kept log s reached
      obtain ⟨workers, rfl⟩ := State.run_workers s next entries called
      intro v other member _
      rw [List.append_nil] at member ⊢
      rw [workers]
      exact before v other member trivial
    obtain ⟨ends, still⟩ := runs_kept _ _ later next final begun kept run
    have joined := reach_joined _ later final ends
    unfold State.Joined at joined
    rw [returned] at joined
    obtain ⟨panicked, ended⟩ := joined w
    obtain ⟨rest, rfl⟩ := Machine.runs_log _ _ _ later next final run
    have inside : envelope ∈ ((log ++ entries ++ rest).worker w).accepted :=
      (Log.mem_accepted _ _).mpr ((Trace.mem_worker w _ _).mpr (List.mem_append_left _ (List.mem_append_left _ accepted)))
    have finished := still w envelope inside accepted
    rw [Worker.ended_pending _ _ (reach_worker _ _ final ends w).owned panicked ended, or_iff_left List.not_mem_nil] at finished
    rcases (Log.mem_finished _ _).mp finished with ⟨reply, handled⟩ | panics
    · exact ⟨reply, (Trace.mem_worker w _ _).mp handled⟩
    · exact absurd panics ((reach_steady _ (fun _ _ _ quiet => quiet) _ final ends).calm w envelope)
  · intro log later s final w envelope reached stranded run
    exact stranded_lost log later s final (Machine.reach_weaken _ _ _ (fun _ _ _ _ => trivial) log s reached) w envelope stranded
      (Machine.runs_weaken _ _ _ (fun _ _ _ _ => trivial) log later s final run)

def State.settled (s : State P n) (action : Action P n) : Bool :=
  action.calm && (List.finRange n).all fun w =>
    (s.workers w).phase.looping || (s.workers w).phase.current.isNone && (s.workers w).msgRx.queue.isEmpty &&
      (s.workers w).scheduler.mailboxes.entries.isEmpty

theorem State.settled_timely (early : Fin n → Message P → Prop) (log : Trace P n) (s : State P n) (action : Action P n)
    (settled : s.settled action = true) : State.timely early log s action := by
  simp only [State.settled, Bool.and_eq_true, List.all_eq_true] at settled
  refine ⟨settled.1, ?_⟩
  rintro w envelope _ ⟨left, waits⟩
  have clear := settled.2 w (List.mem_finRange w)
  rw [left, Bool.false_or] at clear
  simp only [Bool.and_eq_true, Option.isNone_iff_eq_none, List.isEmpty_iff] at clear
  obtain ⟨⟨current, queue⟩, entries⟩ := clear
  have boxes : (s.workers w).scheduler.mailboxes = ∅ := AList.ext entries
  simp [Worker.pending, current, queue, Scheduler.mailbox, boxes] at waits

-- The worker stops its one actor, and run joins the worker.
def shutOne : List (Action numbers 1) :=
  [.owner, .owner, .owner, .worker 0 .pollControl, .worker 0 (.takeSnapshot [1]), .worker 0 .stopNext,
    .worker 0 .hookReturn, .worker 0 .stopNext, .worker 0 .exit, .worker 0 .exit, .worker 0 .exit, .owner, .owner]

def shutOneLog (val : Nat) : Trace numbers 1 :=
  [.at 0 .shutdownSent, .at 0 .tookShutdown, .at 0 (.snapshot [1]), .at 0 (.stopping 1 ⟨(), val⟩), .at 0 (.stopped 1)]

-- One message is accepted, and waits in the channel when run is called.
def sentOne : List (Action numbers 1) := spawnOne ++ ([.doSend 0 5] : List (Action numbers 1))

def spawnOneLog : Trace numbers 1 :=
  [.starting 1 0 none, .started 1, .at 0 (.spawnSent 1 ()), .at 0 (.installed 1 ()), .at 0 (.confirmed 1),
    .at 0 (.accepted ⟨1, (), 5, false, 0⟩)]

-- While run sleeps the worker handles it.
def handleOne : List (Action numbers 1) :=
  [.worker 0 .pollControl, .worker 0 .drain, .worker 0 .drain, .worker 0 .runTurn, .worker 0 (.handlerReturn 5 50),
    .worker 0 .settle]

def handleOneLog : Trace numbers 1 :=
  [.at 0 (.handling ⟨1, (), 5, false, 0⟩), .at 0 (.handled ⟨1, (), 5, false, 0⟩ 50)]

theorem run_handles_one : ∃ s next final : State numbers 1,
    (runtime numbers 1).Reach State.steady spawnOneLog s ∧ (s.workers 0).msgRx.queue = [⟨1, (), 5, false, 0⟩] ∧
      s.step .run = some (next, []) ∧
      (runtime numbers 1).Runs State.steady (spawnOneLog ++ []) next (spawnOneLog ++ [] ++ (handleOneLog ++ shutOneLog 5)) final ∧
      final.owner = .done false ∧
      ∃ reply, .at 0 (.handled ⟨1, (), 5, false, 0⟩ reply) ∈ spawnOneLog ++ [] ++ (handleOneLog ++ shutOneLog 5) := by
  have before := (runtime numbers 1).run_reach_rely (State.timely fun _ _ => True) [] spawnOneLog (State.withThreads numbers 1)
    ((runtime numbers 1).last (State.withThreads numbers 1) sentOne) sentOne (.init _ rfl) rfl
    (Machine.allowed_checked _ _ State.settled (State.settled_timely _) _ _ _ rfl)
  have run := (runtime numbers 1).run_runs_rely (State.timely fun w envelope => .at w (.accepted envelope) ∈ spawnOneLog)
    (spawnOneLog ++ []) (spawnOneLog ++ [] ++ (handleOneLog ++ shutOneLog 5))
    ((runtime numbers 1).last (State.withThreads numbers 1) (sentOne ++ [Action.run]))
    ((runtime numbers 1).last (State.withThreads numbers 1) (sentOne ++ Action.run :: (handleOne ++ shutOne)))
    (handleOne ++ shutOne) rfl (Machine.allowed_checked _ _ State.settled (State.settled_timely _) _ _ _ rfl)
  have steady := Machine.reach_weaken _ _ State.steady (fun _ _ _ allowed => allowed.1) _ _ before
  have calm := Machine.runs_weaken _ _ State.steady (fun _ _ _ allowed => allowed.1) _ _ _ _ run
  exact ⟨_, _, _, steady, rfl, rfl, calm, rfl,
    run_handles_iff.1 spawnOneLog _ _ _ _ [] before rfl run rfl 0 _ (by simp [spawnOneLog])⟩

-- The worker takes the Shutdown of run before the message.
theorem run_loses_message : ∃ s next final : State numbers 1,
    (runtime numbers 1).Reach State.steady spawnOneLog s ∧ s.step .run = some (next, []) ∧
      (runtime numbers 1).Runs State.steady spawnOneLog next
        (spawnOneLog ++ (shutOneLog 0 ++ ([.at 0 (.dropped ⟨1, (), 5, false, 0⟩)] : Trace numbers 1))) final ∧
      final.owner = .done false ∧ .at 0 (.accepted ⟨1, (), 5, false, 0⟩) ∈ spawnOneLog ∧
      ∀ reply, .at 0 (.handled ⟨1, (), 5, false, 0⟩ reply) ∉
        spawnOneLog ++ (shutOneLog 0 ++ ([.at 0 (.dropped ⟨1, (), 5, false, 0⟩)] : Trace numbers 1)) := by
  have before := (runtime numbers 1).run_reach_rely State.steady [] spawnOneLog (State.withThreads numbers 1)
    ((runtime numbers 1).last (State.withThreads numbers 1) (spawnOne ++ ([.doSend 0 5] : List (Action numbers 1))))
    (spawnOne ++ ([.doSend 0 5] : List (Action numbers 1))) (.init _ rfl) rfl
    (Machine.allowed_actions _ _ _ _ _ (by simp [spawnOne, State.steady, Action.calm]))
  have run := (runtime numbers 1).run_runs_rely State.steady spawnOneLog
    (spawnOneLog ++ (shutOneLog 0 ++ ([.at 0 (.dropped ⟨1, (), 5, false, 0⟩)] : Trace numbers 1)))
    ((runtime numbers 1).last (State.withThreads numbers 1) (spawnOne ++ ([.doSend 0 5, .run] : List (Action numbers 1))))
    ((runtime numbers 1).last (State.withThreads numbers 1) (spawnOne ++ (.doSend 0 5 :: .run :: shutOne : List (Action numbers 1))))
    shutOne rfl
    (Machine.allowed_actions _ _ _ _ _ (by simp [shutOne, State.steady, Action.calm]))
  exact ⟨_, _, _, before, rfl, run, rfl, by simp [spawnOneLog], by simp [spawnOneLog, shutOneLog]⟩

end Actinium
