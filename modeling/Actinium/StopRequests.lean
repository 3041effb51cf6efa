import Actinium.WorkerShutdown
import Actinium.Lifecycle
import Actinium.ActorSystemServes

set_option autoImplicit false

namespace Actinium

variable {P : Program} {n : Nat}

-- The callback that asked to stop ends, and then only the stopped hook runs.
def Heeded (before after : List Mark) : Prop :=
  ∃ rest, after = before ++ rest ∧
    (rest <+: [.started, .stopping, .stopped] ∨ rest <+: [.handled, .stopping, .stopped])

-- The callback in progress ends, and this is what comes after it.
def Follows (mark : Mark) (before after : List Mark) : Prop := ∃ ends rest, after = before ++ ends :: mark :: rest

theorem heeded_follows (before after : List Mark) (mark : Mark) (heeded : Heeded before after)
    (follows : Follows mark before after) : mark = .stopping := by
  obtain ⟨ends, rest, rfl⟩ := follows
  obtain ⟨more, same, first⟩ := heeded
  rw [← List.append_cancel_left same] at first
  rcases first with first | first
  · simp at first
    exact first.2.1
  · simp at first
    exact first.2.1

namespace Stage

theorem unborn_only (marks : List Mark) (legal : unborn.after marks = some unborn) : marks = [] := by
  rcases List.eq_nil_or_concat marks with rfl | ⟨earlier, last, rfl⟩
  · rfl
  · rw [List.concat_eq_append] at legal
    obtain ⟨mid, _, step⟩ := Automaton.run_split next unborn unborn earlier [last] legal
    rw [Automaton.run_one] at step
    cases mid <;> cases last <;> cases step

-- In its started hook an actor has had no other callback.
theorem starting_only (marks : List Mark) (legal : unborn.after marks = some starting) : marks = [.starting] := by
  rcases List.eq_nil_or_concat marks with rfl | ⟨earlier, last, rfl⟩
  · cases legal
  · rw [List.concat_eq_append] at legal ⊢
    obtain ⟨mid, before, step⟩ := Automaton.run_split next unborn starting earlier [last] legal
    rw [Automaton.run_one] at step
    cases mid <;> cases last <;> cases step
    rw [unborn_only earlier before]
    rfl

end Stage

namespace Worker

-- A worker on the way from a handler that asked to stop to the end of the
-- stopped hook, and the callbacks on the actor meanwhile.
inductive Leaving (id : ActorId) : Phase P n → List Mark → Prop where
  | handling (turn : ActorId) (envelope : Message P) (cell : ActorCell P) (ctx : Context (Fin n))
      (own : envelope.actorId = id) (asked : ctx.running = false) : Leaving id (.handling turn envelope cell ctx) []
  | handled (turn : ActorId) (cell : ActorCell P) : Leaving id (.handled turn id cell false) [.handled]
  | stopping (cell : ActorCell P) (ctx : Context (Fin n)) (after : After) :
      Leaving id (.stopping id cell ctx after) [.handled, .stopping]
  | stopped (phase : Phase P n) : Leaving id phase [.handled, .stopping, .stopped]

theorem leaving_later (id : ActorId) (phase : Phase P n) (marks : List Mark) (leaving : Leaving id phase marks) :
    marks <+: [.handled, .stopping, .stopped] := by
  cases leaving with
  | handling => exact List.nil_prefix
  | handled => exact ⟨[.stopping, .stopped], rfl⟩
  | stopping => exact ⟨[.stopped], rfl⟩
  | stopped => exact List.prefix_refl _

-- Once the worker is done with the actor, all of it has happened.
theorem leaving_finished (id : ActorId) (phase : Phase P n) (marks : List Mark) (leaving : Leaving id phase marks)
    (finished : phase.stageOf id = none) : marks = [.handled, .stopping, .stopped] := by
  cases leaving with
  | handling turn envelope cell ctx own => simp [Phase.stageOf, own] at finished
  | handled => simp [Phase.stageOf] at finished
  | stopping => simp [Phase.stageOf] at finished
  | stopped => rfl

-- Callbacks of this worker do not panic.
def unbroken : Act P → Prop
  | .own _ (.handlerPanic _) => False
  | .own _ .hookPanic => False
  | _ => True

theorem leaving_step (log events : Log P) (w next : Worker P n) (act : Act P) (placed : Placed log w)
    (staged : Staged (log ++ events) next) (quiet : unbroken act) (moves : Moves w act events next) (id : ActorId)
    (base marks : List Mark) (since : log.marks id = base ++ marks) (leaving : Leaving id w.phase marks) :
    ∃ more, (log ++ events).marks id = base ++ more ∧ Leaving id next.phase more := by
  have frame (same : next.phase = w.phase) (silent : events.marks id = []) :
      ∃ more, (log ++ events).marks id = base ++ more ∧ Leaving id next.phase more := by
    refine ⟨marks, ?_, same ▸ leaving⟩
    rw [Log.marks_append, silent, List.append_nil, since]
  have grown (more : List Mark) (same : marks ++ events.marks id = more) (leaves : Leaving id next.phase more) :
      ∃ more, (log ++ events).marks id = base ++ more ∧ Leaving id next.phase more := by
    refine ⟨more, ?_, leaves⟩
    rw [Log.marks_append, since, List.append_assoc, same]
  generalize here : w.phase = phase at leaving
  cases leaving with
  | handling turn envelope cell ctx own asked =>
      cases moves with
      | post => exact frame rfl rfl
      | postControl msg => exact frame rfl (by cases msg <;> rfl)
      | direct => exact frame rfl rfl
      | stopHandler turn other cell ctx now =>
          rw [now] at here
          cases here
          exact grown [] rfl (.handling _ _ _ _ own rfl)
      | handlerReturn senders turn other cell ctx val reply now =>
          rw [now] at here
          cases here
          subst own
          refine grown [.handled] (by simp [Log.marks, Event.mark]) ?_
          rw [Context.isRunning, asked]
          exact .handled turn (cell.write val)
      | handlerPanic => cases quiet
      | _ => simp [here] at *
  | handled turn cell =>
      cases moves with
      | post => exact frame rfl rfl
      | postControl msg => exact frame rfl (by cases msg <;> rfl)
      | direct => exact frame rfl rfl
      | stop senders turn other cell now =>
          rw [now] at here
          cases here
          have typed := (placed.taken id cell (by rw [now]; rfl)).2.1
          refine grown [.handled, .stopping] ?_ (.stopping _ _ _)
          simp [beginStop, AnyBox.downcast, typed, Log.marks, Event.mark]
      | _ => simp [here] at *
  | stopping cell ctx after =>
      cases moves with
      | post => exact frame rfl rfl
      | postControl msg => exact frame rfl (by cases msg <;> rfl)
      | direct => exact frame rfl rfl
      | stopHook other cell ctx after now =>
          rw [now] at here
          cases here
          exact grown [.handled, .stopping] rfl (.stopping _ _ _)
      | hookReturn senders other cell ctx after now typed =>
          rw [now] at here
          cases here
          refine grown [.handled, .stopping, .stopped] ?_ (.stopped _)
          have silent := Log.marks_dropped (w.scheduler.mailbox id) id
          simp only [Log.marks] at silent
          simp [Log.marks, Event.mark, silent]
      | hookSkip senders other cell ctx after now untyped =>
          rw [now] at here
          cases here
          exact absurd (placed.stopping id cell ctx after now).2.symm untyped
      | hookPanic => cases quiet
      | _ => simp [here] at *
  | stopped =>
      obtain ⟨stage, legal⟩ := staged.legal id
      rw [Log.marks_append, since] at legal
      have tail : .stopped :: events.marks id = [] ∨ .stopped :: events.marks id = [.stopped] ∨
          .stopped :: events.marks id = [.stopPanicked] :=
        Stage.stopping_last .idle stage (base ++ [Mark.handled]) (.stopped :: events.marks id) (by simpa using legal)
      refine grown [.handled, .stopping, .stopped] ?_ (.stopped _)
      simp at tail
      rw [tail, List.append_nil]

-- The first callback of a worker on an actor is a handler, until stop_all_actors
-- takes its list.
def Heard (id : ActorId) (log : Log P) (w : Worker P n) : Prop :=
  log.marks id = [] ∧ w.phase.stageOf id = none ∨ [.handling] <+: log.marks id ∨ ∃ ids, .snapshot ids ∈ log

theorem heard_step (id : ActorId) (log events : Log P) (w next : Worker P n) (act : Act P) (sound : Sound log w)
    (swept : Swept log w) (heard : Heard id log w) (moves : Moves w act events next) : Heard id (log ++ events) next := by
  rcases heard with ⟨none, free⟩ | first | ⟨ids, taken⟩
  · have still (silent : events.marks id = []) (away : next.phase.stageOf id = Option.none) : Heard id (log ++ events) next :=
      Or.inl ⟨by rw [Log.marks_append, none, silent]; rfl, away⟩
    cases moves with
    | post => exact still rfl free
    | postControl msg => exact still (by cases msg <;> rfl) free
    | direct => exact still rfl free
    | drain => exact still rfl free
    | stopHandler turn envelope cell ctx here =>
        rw [here] at free
        exact still rfl free
    | stopHook other cell ctx after here =>
        rw [here] at free
        exact still rfl free
    | handle senders turn popped scheduler envelope cell here ready dequeued present typed =>
        by_cases same : envelope.actorId = id
        · have own : Log.marks [.handling envelope] id = [.handling] := by simp [Log.marks, Event.mark, same]
          refine Or.inr (Or.inl ?_)
          rw [Log.marks_append, none, own]
          exact List.prefix_refl _
        · exact still (by simp [Log.marks, Event.mark, same]) (by simp [Phase.stageOf, same])
    | mismatch senders turn popped scheduler envelope cell here ready dequeued present untyped =>
        have head := (dequeue_head _ _ _ turn envelope ready dequeued).1
        exact absurd (dispatched_typed log w sound.placed sound.mail turn envelope cell (by simp [head]) present) untyped
    | handlerReturn senders turn envelope cell ctx val reply here =>
        have other : envelope.actorId ≠ id := by simpa [here, Phase.stageOf] using free
        exact still (by simp [Log.marks, Event.mark, other]) (by simp [Phase.stageOf, other])
    | handlerPanic senders turn envelope cell ctx val here =>
        have other : envelope.actorId ≠ id := by simpa [here, Phase.stageOf] using free
        have typed := (sound.placed.taken envelope.actorId cell (by rw [here]; rfl)).2.1
        refine still ?_ (by simp [beginStop, Phase.stageOf, other])
        rw [begin_stop_events w _ (cell.write val) _ typed]
        simp [Log.marks, Event.mark, other]
    | stop senders turn own cell here =>
        have other : own ≠ id := by simpa [here, Phase.stageOf] using free
        have typed := (sound.placed.taken own cell (by rw [here]; rfl)).2.1
        refine still ?_ (by simp [beginStop, Phase.stageOf, other])
        rw [begin_stop_events w _ cell _ typed]
        simp [Log.marks, Event.mark, other]
    | stopNext senders own ids cell here present =>
        obtain ⟨ids, taken⟩ := swept.left (by rw [here]; rfl) (by rw [here]; rfl)
        exact Or.inr (Or.inr ⟨ids, List.mem_append_left _ taken⟩)
    | hookReturn senders own cell ctx after here typed =>
        have other : own ≠ id := by simpa [here, Phase.stageOf] using free
        have silent := Log.marks_dropped (w.scheduler.mailbox own) id
        simp only [Log.marks] at silent
        exact still (by simp [Log.marks, Event.mark, other, silent]) (by cases after <;> rfl)
    | hookSkip senders own cell ctx after here typed => exact still (by simp) (by cases after <;> rfl)
    | hookPanic senders own cell ctx after here typed =>
        have other : own ≠ id := by simpa [here, Phase.stageOf] using free
        exact still (by simp [Log.marks, Event.mark, other]) rfl
    | snapshot senders ids here keys => exact Or.inr (Or.inr ⟨ids, by simp⟩)
    | dropControl senders panicked here => exact still (Log.marks_refusals _ id) rfl
    | dropMsgs senders panicked here => exact still (Log.marks_dropped _ id) rfl
    | dropScheduler senders panicked here => exact still (Log.marks_dropped _ id) rfl
    | stopGone senders own ids here absent => exact still (Log.marks_dropped _ id) rfl
    | _ => exact still rfl rfl
  · exact Or.inr (Or.inl (by rw [Log.marks_append]; exact first.trans (List.prefix_append _ _)))
  · exact Or.inr (Or.inr ⟨ids, List.mem_append_left _ taken⟩)

theorem reach_heard (workerIdx : Fin n) (id : ActorId) (log : Log P) (w : Worker P n) (reached : Reach workerIdx log w) :
    Heard id log w := by
  refine Machine.reach_invariant (machine P workerIdx) promised (Heard id) ?_ ?_ log w reached
  · intro s begins
    rw [begins]
    exact Or.inl ⟨rfl, rfl⟩
  · intro log s act next events before heard kept taken
    exact heard_step id log events s next act (reach_sound workerIdx log s before) (reach_swept workerIdx log s before) heard
      (step_moves s next act events taken)

end Worker

-- No callback panics.
def Action.quiet : Action P n → Bool
  | .startedPanic _ => false
  | .worker _ (.handlerPanic _) => false
  | .worker _ .hookPanic => false
  | _ => true

namespace State

def quiet : Machine.Rely (State P n) (Action P n) (Entry P n) := fun _ _ action => action.quiet = true

-- The started hook or a handler of the actor calls ctx.stop().
def Asks (s : State P n) (id : ActorId) : Action P n → Prop
  | .ctxStop (.worker w) => ∃ turn envelope cell ctx, (s.workers w).phase = .handling turn envelope cell ctx ∧ envelope.actorId = id
  | .ctxStop (.started other) => other = id
  | _ => False

theorem quiet_unbroken (s : State P n) (action : Action P n) (w : Fin n) (act : Worker.Act P) (quiet : action.quiet = true)
    (source : Sourced s action w act) : Worker.unbroken act := by
  cases act with
  | own senders own =>
      rw [show action = .worker w own from source.1] at quiet
      cases own <;> trivial
  | _ => trivial

theorem leaving_runs (base : List Mark) (log later : Trace P n) (s final : State P n) (w : Fin n) (id : ActorId)
    (reached : (runtime P n).Reach quiet log s) (start : (log.worker w).marks id = base)
    (leaving : Worker.Leaving id (s.workers w).phase []) (run : (runtime P n).Runs quiet log s later final) :
    ∃ more, (later.worker w).marks id = base ++ more ∧ Worker.Leaving id (final.workers w).phase more := by
  refine Machine.runs_invariant (runtime P n) quiet
    (fun later mid => ∃ more, (Trace.worker w later).marks id = base ++ more ∧ Worker.Leaving id (mid.workers w).phase more)
    log s reached ⟨[], by rw [start, List.append_nil], leaving⟩ ?_ later final run
  intro later mid action next entries before held allowed taken
  obtain ⟨more, since, leaves⟩ := held
  have routed := reach_routed _ later mid before
  have moves := step_moves mid next action entries taken
  have routedNext := routed_step later entries mid next action routed moves
  rw [Trace.worker_append]
  rcases worker_source later entries mid next action routed moves w with ⟨same, silent⟩ | ⟨act, source, kept, stepped⟩
  · rw [same, silent, List.append_nil]
    exact ⟨more, since, leaves⟩
  · have staged := Worker.reach_staged w _ _ (routedNext.workers w)
    rw [Trace.worker_append] at staged
    exact Worker.leaving_step _ _ _ _ act (Worker.reach_sound w _ _ (routed.workers w)).placed staged
      (quiet_unbroken mid action w act allowed source) (Worker.step_moves _ _ act _ stepped) id base more since leaves

theorem ctx_stop_worker (s next : State P n) (entries : Trace P n) (w : Fin n) (turn : ActorId) (envelope : Message P)
    (cell : ActorCell P) (ctx : Context (Fin n)) (here : (s.workers w).phase = .handling turn envelope cell ctx)
    (taken : s.step (.ctxStop (.worker w)) = some (next, entries)) :
    entries = [] ∧ (next.workers w).phase = .handling turn envelope cell ctx.stop := by
  simp only [step, ctxStop, Worker.stopCtx, here] at taken
  split at taken
  · cases taken
  · cases taken
    refine ⟨rfl, ?_⟩
    simp only [List.foldl_nil, Function.update_self]

-- A handler's request in the runtime.
theorem request_heeded (log later : Trace P n) (s next final : State P n) (entries : Trace P n) (w : Fin n) (id : ActorId)
    (reached : (runtime P n).Reach quiet log s) (asks : s.Asks id (.ctxStop (.worker w)))
    (taken : s.step (.ctxStop (.worker w)) = some (next, entries))
    (run : (runtime P n).Runs quiet (log ++ entries) next later final) :
    Heeded (log.marks id) (later.marks id) ∧
      ((final.workers w).phase.stageOf id = none → later.marks id = log.marks id ++ [.handled, .stopping, .stopped]) := by
  obtain ⟨turn, envelope, cell, ctx, here, own⟩ := asks
  have calm : quiet log s (.ctxStop (.worker w)) := rfl
  have begun := Machine.Reach.step log s next _ entries reached calm taken
  have sound := Worker.reach_sound w _ _ ((reach_routed _ log s reached).workers w)
  have known : id ∈ (log.worker w).known := by
    rw [← own]
    exact Worker.known_of_installed _ _ _ (sound.placed.taken _ cell (by rw [here]; rfl)).1
  obtain ⟨silent, asked⟩ := ctx_stop_worker s next entries w turn envelope cell ctx here taken
  subst silent
  rw [List.append_nil] at run begun
  obtain ⟨more, since, leaves⟩ := leaving_runs _ log later next final w id begun rfl
    (by rw [asked]; exact .handling turn envelope cell ctx.stop own rfl) run
  have ends := Machine.reach_runs _ _ log later next final begun run
  obtain ⟨rest, rfl⟩ := Machine.runs_log _ _ log later next final run
  have claimedBefore := (reach_lived _ log s reached).claimed w id (Or.inl known)
  have claimedAfter := (reach_lived _ _ final ends).claimed w id
    ((Trace.claimed_append log rest w id).mpr (Or.inl (Or.inl known)))
  have whole : (log ++ rest).marks id = log.marks id ++ more := by
    rw [claimedAfter, claimedBefore, since, List.append_assoc]
  refine ⟨⟨more, whole, Or.inr (Worker.leaving_later id _ more leaves)⟩, ?_⟩
  intro finished
  rw [whole, Worker.leaving_finished id _ more leaves finished]

theorem blocked_same (s : State P n) (id : ActorId) (old new : SpawnCall P n) (found : s.calls.lookup id = some old)
    (via : new.via = old.via) (caller : Caller n) : (s.setCall id new).blocked caller = s.blocked caller := by
  rw [Bool.eq_iff_iff, blocked_iff, blocked_iff]
  constructor
  · rintro ⟨other, call, present, made⟩
    by_cases same : other = id
    · rw [same, setCall, AList.lookup_insert] at present
      cases present
      exact ⟨id, old, found, via.symm.trans made⟩
    · rw [setCall, AList.lookup_insert_ne same] at present
      exact ⟨other, call, present, made⟩
  · rintro ⟨other, call, present, made⟩
    by_cases same : other = id
    · rw [same, found] at present
      cases present
      exact ⟨id, new, AList.lookup_insert _, via.trans made⟩
    · refine ⟨other, call, ?_, made⟩
      rw [setCall, AList.lookup_insert_ne same]
      exact present

theorem ctx_stop_started (s next : State P n) (id : ActorId) (entries : Trace P n)
    (taken : s.step (.ctxStop (.started id)) = some (next, entries)) :
    entries = [] ∧ s.blocked (.started id) = false ∧ ∃ via ty old w ctx,
      s.calls.lookup id = some ⟨via, ty, .starting old w ctx⟩ ∧ next = s.setCall id ⟨via, ty, .starting old w ctx.stop⟩ := by
  simp only [step, ctxStop] at taken
  split at taken
  · cases taken
  · rename_i free
    split at taken
    · rename_i via ty old w ctx found
      cases taken
      exact ⟨rfl, Bool.not_eq_true _ ▸ free, via, ty, old, w, ctx, found, rfl⟩
    · cases taken

-- Neither Runtime::spawn nor Context::spawn looks at the Context of the hook.
theorem started_request_lost (s next : State P n) (id : ActorId) (entries : Trace P n) (val : P.Val)
    (taken : s.step (.ctxStop (.started id)) = some (next, entries)) :
    entries = [] ∧ next.step (.startedReturn id val) = s.step (.startedReturn id val) := by
  obtain ⟨silent, free, via, ty, old, w, ctx, found, rfl⟩ := ctx_stop_started s next id entries taken
  have unblocked := blocked_same s id _ ⟨via, ty, .starting old w ctx.stop⟩ found rfl (.started id)
  have now : (s.setCall id ⟨via, ty, .starting old w ctx.stop⟩).calls.lookup id = some ⟨via, ty, .starting old w ctx.stop⟩ :=
    AList.lookup_insert _
  refine ⟨silent, ?_⟩
  simp only [step, startedReturn, unblocked, free, Bool.false_eq_true, if_false, found, now]
  rw [setCall, setCall, AList.insert_insert]
  rfl

theorem stopping_at (log : Trace P n) (id : ActorId) (member : .stopping ∈ log.marks id) :
    ∃ w, .stopping ∈ (log.worker w).marks id := by
  obtain ⟨entry, inside, shows⟩ := List.mem_filterMap.mp member
  cases entry with
  | «at» w event => exact ⟨w, List.mem_filterMap.mpr ⟨event, (Trace.mem_worker w event log).mpr inside, shows⟩⟩
  | _ => simp [Entry.mark] at shows

-- Only stop_all_actors stops an actor that has handled nothing.
theorem unheard_stop (rely : Machine.Rely (State P n) (Action P n) (Entry P n)) (log : Trace P n) (s : State P n)
    (reached : (runtime P n).Reach rely log s) (id : ActorId) (ends : Mark) (rest : List Mark)
    (marks : log.marks id = .starting :: ends :: .stopping :: rest) : ∃ w ids, .at w (.snapshot ids) ∈ log := by
  have routed := reach_routed rely log s reached
  obtain ⟨w, inside⟩ := stopping_at log id (by simp [marks])
  have claimed : log.Claimed w id := by
    by_contra unclaimed
    rw [unknown_marks log s routed w id unclaimed] at inside
    cases inside
  have whole := (reach_lived rely log s reached).claimed w id claimed
  rw [marks] at whole
  simp only [List.cons_append, List.nil_append, List.cons.injEq, true_and] at whole
  rcases Worker.reach_heard w id _ _ (routed.workers w) with ⟨none, _⟩ | first | ⟨ids, taken⟩
  · rw [none] at inside
    cases inside
  · rw [← whole.2] at first
    simp at first
  · exact ⟨w, ids, (Trace.mem_worker w _ log).mp taken⟩

-- A started hook's request in the runtime.
theorem started_request_unheeded (log later : Trace P n) (s next final : State P n) (entries : Trace P n) (id : ActorId)
    (reached : (runtime P n).Reach quiet log s) (taken : s.step (.ctxStop (.started id)) = some (next, entries))
    (run : (runtime P n).Runs quiet (log ++ entries) next later final)
    (follows : Follows .stopping (log.marks id) (later.marks id)) : ∃ w ids, .at w (.snapshot ids) ∈ later := by
  obtain ⟨_, _, via, ty, old, w, ctx, found, _⟩ := ctx_stop_started s next id entries taken
  have calm : quiet log s (.ctxStop (.started id)) := rfl
  have begun := Machine.Reach.step log s next _ entries reached calm taken
  have ends := Machine.reach_runs _ _ _ later next final begun run
  obtain ⟨last, rest, marks⟩ := follows
  rw [(reach_lived _ log s reached).calls id _ [.starting] found rfl] at marks
  exact unheard_stop quiet later final ends id last rest marks

theorem request_answered (log later : Trace P n) (s next final : State P n) (entries : Trace P n) (action : Action P n)
    (id : ActorId) (reached : (runtime P n).Reach quiet log s) (asks : s.Asks id action) (taken : s.step action = some (next, entries))
    (run : (runtime P n).Runs quiet (log ++ entries) next later final) :
    (∀ w, action = .ctxStop (.worker w) → Heeded (log.marks id) (later.marks id) ∧
      ((final.workers w).phase.stageOf id = none → later.marks id = log.marks id ++ [.handled, .stopping, .stopped])) ∧
    ((∀ w ids, .at w (.snapshot ids) ∉ later) → ∀ mark, Follows mark (log.marks id) (later.marks id) →
      (mark = .stopping ↔ ∃ w, action = .ctxStop (.worker w))) := by
  have heeded (w : Fin n) (made : action = .ctxStop (.worker w)) :
      Heeded (log.marks id) (later.marks id) ∧
        ((final.workers w).phase.stageOf id = none → later.marks id = log.marks id ++ [.handled, .stopping, .stopped]) := by
    subst made
    exact request_heeded log later s next final entries w id reached asks taken run
  refine ⟨heeded, ?_⟩
  intro unswept mark follows
  constructor
  · rintro rfl
    cases action with
    | ctxStop via =>
        cases via with
        | worker w => exact ⟨w, rfl⟩
        | started other =>
            cases asks
            obtain ⟨w, ids, member⟩ := started_request_unheeded log later s next final entries _ reached taken run follows
            exact absurd member (unswept w ids)
    | _ => cases asks
  · rintro ⟨w, made⟩
    exact heeded_follows _ _ mark (heeded w made).1 follows

end State

-- The system is in stop_all_actors.
def SystemPhase.sweeping : SystemPhase P → Bool
  | .within (.stopAll _) => true
  | .stopping _ _ _ (.stopAll _) => true
  | _ => false

namespace ActorSystem

inductive Leaving (id : ActorId) : SystemPhase P → List Mark → Prop where
  | handling (loop : Loop) (envelope : Message P) (cell : ActorCell P) (ctx : Context Empty) (own : envelope.actorId = id)
      (asked : ctx.running = false) : Leaving id (.handling loop envelope cell ctx) []
  | stopping (cell : ActorCell P) (ctx : Context Empty) (resume : Resume) :
      Leaving id (.stopping id cell ctx resume) [.handled, .stopping]
  | stopped (phase : SystemPhase P) : Leaving id phase [.handled, .stopping, .stopped]

theorem leaving_later (id : ActorId) (phase : SystemPhase P) (marks : List Mark) (leaving : Leaving id phase marks) :
    marks <+: [.handled, .stopping, .stopped] := by
  cases leaving with
  | handling => exact List.nil_prefix
  | stopping => exact ⟨[.stopped], rfl⟩
  | stopped => exact List.prefix_refl _

theorem leaving_step (log entries : SystemTrace P) (s next : ActorSystem P) (action : SystemAction P) (typed : Typed log s)
    (lived : Lived (log ++ entries) next) (quiet : action.quiet = true) (moves : Moves s next.sends action entries next)
    (id : ActorId) (base marks : List Mark) (since : log.marks id = base ++ marks) (leaving : Leaving id s.phase marks) :
    ∃ more, (log ++ entries).marks id = base ++ more ∧ Leaving id next.phase more := by
  have phase := typed.phase
  have frame (same : next.phase = s.phase) (silent : entries.marks id = []) :
      ∃ more, (log ++ entries).marks id = base ++ more ∧ Leaving id next.phase more := by
    refine ⟨marks, ?_, same ▸ leaving⟩
    rw [SystemTrace.marks_append, silent, List.append_nil, since]
  have grown (more : List Mark) (same : marks ++ entries.marks id = more) (leaves : Leaving id next.phase more) :
      ∃ more, (log ++ entries).marks id = base ++ more ∧ Leaving id next.phase more := by
    refine ⟨more, ?_, leaves⟩
    rw [SystemTrace.marks_append, since, List.append_assoc, same]
  generalize here : s.phase = current at leaving
  generalize next.sends = sends at moves
  cases leaving with
  | handling loop envelope cell ctx own asked =>
      cases moves with
      | cloneAddr => exact frame rfl rfl
      | dropAddr => exact frame rfl rfl
      | postFailed => exact frame rfl rfl
      | post => exact frame rfl rfl
      | recvResult => exact frame rfl rfl
      | stopHandler around other cell ctx now =>
          rw [now] at here
          cases here
          exact grown [] rfl (.handling _ _ _ _ own rfl)
      | handled around other cell ctx val reply now running =>
          rw [now] at here
          cases here
          rw [asked] at running
          cases running
      | handledStop around other cell ctx val reply now stops =>
          rw [now] at here
          cases here
          subst own
          simp only [PhaseTyped, now] at phase
          refine grown [.handled, .stopping] ?_ (.stopping _ _ _)
          rw [on_stop_typed _ (cell.write val) phase.1.2]
          simp [SystemTrace.marks, SystemEntry.mark, Event.mark]
      | handlerPanic => cases quiet
      | _ => simp [here] at *
  | stopping cell ctx resume =>
      cases moves with
      | cloneAddr => exact frame rfl rfl
      | dropAddr => exact frame rfl rfl
      | postFailed => exact frame rfl rfl
      | post => exact frame rfl rfl
      | recvResult => exact frame rfl rfl
      | stopHook other cell ctx resume now =>
          rw [now] at here
          cases here
          exact grown [.handled, .stopping] rfl (.stopping _ _ _)
      | hookReturn other cell ctx resume now typed =>
          rw [now] at here
          cases here
          refine grown [.handled, .stopping, .stopped] ?_ (.stopped _)
          simp [SystemTrace.marks, SystemEntry.mark, Event.mark]
      | hookSkip other cell ctx resume now untyped =>
          simp only [PhaseTyped, now] at phase
          exact absurd phase.1.2 untyped
      | hookPanic => cases quiet
      | _ => simp [here] at *
  | stopped =>
      obtain ⟨stage, legal⟩ := lived.legal id
      rw [SystemTrace.marks_append, since] at legal
      have tail : .stopped :: entries.marks id = [] ∨ .stopped :: entries.marks id = [.stopped] ∨
          .stopped :: entries.marks id = [.stopPanicked] :=
        Stage.stopping_last .unborn stage (base ++ [Mark.handled]) (.stopped :: entries.marks id) (by simpa using legal)
      refine grown [.handled, .stopping, .stopped] ?_ (.stopped _)
      simp at tail
      rw [tail, List.append_nil]

theorem leaving_finished (id : ActorId) (phase : SystemPhase P) (marks : List Mark) (leaving : Leaving id phase marks)
    (finished : phase.stageOf id = none) : marks = [.handled, .stopping, .stopped] := by
  cases leaving with
  | handling loop envelope cell ctx own => simp [SystemPhase.stageOf, own] at finished
  | stopping => simp [SystemPhase.stageOf] at finished
  | stopped => rfl

-- The started hook or a handler of the actor calls ctx.stop().
def Asks (s : ActorSystem P) (id : ActorId) (action : SystemAction P) : Prop :=
  action = .ctxStop ∧ ((∃ ty val ctx, s.phase = .starting id ty val ctx) ∨
    ∃ loop envelope cell ctx, s.phase = .handling loop envelope cell ctx ∧ envelope.actorId = id)

def InHandler (s : ActorSystem P) : Prop := ∃ loop envelope cell ctx, s.phase = .handling loop envelope cell ctx

theorem leaving_runs (base : List Mark) (log later : SystemTrace P) (s final : ActorSystem P) (id : ActorId)
    (reached : (actorSystem P).Reach quiet log s) (start : log.marks id = base) (leaving : Leaving id s.phase [])
    (run : (actorSystem P).Runs quiet log s later final) :
    ∃ more, later.marks id = base ++ more ∧ Leaving id final.phase more := by
  refine Machine.runs_invariant (actorSystem P) quiet
    (fun later mid => ∃ more, SystemTrace.marks later id = base ++ more ∧ Leaving id mid.phase more)
    log s reached ⟨[], by rw [start, List.append_nil], leaving⟩ ?_ later final run
  intro later mid action next entries before held allowed taken
  obtain ⟨more, since, leaves⟩ := held
  have typed := (reach_system_sound _ later mid before).typed
  have lived := (reach_calm later mid before).lived
  have moves := step_moves mid next action entries taken
  exact leaving_step later entries mid next action typed
    (lived_step later entries mid next action typed lived allowed moves) allowed moves id base more since leaves

-- A handler's request in the system.
theorem request_heeded (log later : SystemTrace P) (s next final : ActorSystem P) (entries : SystemTrace P) (id : ActorId)
    (loop : Loop) (envelope : Message P) (cell : ActorCell P) (ctx : Context Empty)
    (reached : (actorSystem P).Reach quiet log s) (here : s.phase = .handling loop envelope cell ctx) (own : envelope.actorId = id)
    (taken : s.step .ctxStop = some (next, entries)) (run : (actorSystem P).Runs quiet (log ++ entries) next later final) :
    Heeded (log.marks id) (later.marks id) ∧
      (final.phase.stageOf id = none → later.marks id = log.marks id ++ [.handled, .stopping, .stopped]) := by
  have calm : quiet log s .ctxStop := rfl
  have begun := Machine.Reach.step log s next _ entries reached calm taken
  simp only [step, ctxStop, here] at taken
  cases taken
  have same : (log ++ [SystemEntry.stopRequested envelope]).marks id = log.marks id := by
    simp [SystemTrace.marks, SystemEntry.mark]
  obtain ⟨more, since, leaves⟩ := leaving_runs _ _ later _ final id begun same (.handling loop envelope cell ctx.stop own rfl) run
  refine ⟨⟨more, since, Or.inr (leaving_later id _ more leaves)⟩, ?_⟩
  intro finished
  rw [since, leaving_finished id _ more leaves finished]

-- A stopped hook that does not come straight after a handler is not the first
-- callback after the started hook.
theorem unheard_before (before more rest : List Mark) (late : .stopping ∉ more ∨ more = [.handled, .stopping])
    (whole : before ++ more = .starting :: .started :: .stopping :: rest) :
    ∃ rest, before = .starting :: .started :: .stopping :: rest := by
  have absent (earlier tail : List Mark) (same : more = earlier ++ .stopping :: tail) : earlier = [.handled] := by
    rcases late with none | rfl
    · simp [same] at none
    · rcases earlier with _ | ⟨a, _ | ⟨b, more⟩⟩ <;> simp at same ⊢
      exact same.1.symm
  rcases before with _ | ⟨a, _ | ⟨b, _ | ⟨c, tail⟩⟩⟩
  · cases absent [.starting, .started] rest whole
  · simp only [List.cons_append, List.nil_append, List.cons.injEq] at whole
    cases absent [.started] rest whole.2
  · simp only [List.cons_append, List.nil_append, List.cons.injEq] at whole
    cases absent [] rest whole.2.2
  · simp only [List.cons_append, List.cons.injEq] at whole
    obtain ⟨rfl, rfl, rfl, _⟩ := whole
    exact ⟨tail, rfl⟩

-- Only stop_all_actors stops an actor that has handled nothing.
structure Heard (log : SystemTrace P) (s : ActorSystem P) : Prop where
  listed : s.phase.sweeping = true → ∃ ids, .at (.snapshot ids) ∈ log
  first : ∀ id rest, log.marks id = .starting :: .started :: .stopping :: rest → ∃ ids, .at (.snapshot ids) ∈ log

theorem heard_frame (log entries : SystemTrace P) (s next : ActorSystem P) (heard : Heard log s)
    (listed : next.phase.sweeping = true → s.phase.sweeping = true)
    (late : ∀ id, .stopping ∉ entries.marks id ∨ entries.marks id = [.handled, .stopping]) : Heard (log ++ entries) next := by
  refine ⟨?_, ?_⟩
  · intro sweeps
    obtain ⟨ids, member⟩ := heard.listed (listed sweeps)
    exact ⟨ids, List.mem_append_left _ member⟩
  · intro id rest marks
    rw [SystemTrace.marks_append] at marks
    obtain ⟨earlier, before⟩ := unheard_before _ _ rest (late id) marks
    obtain ⟨ids, member⟩ := heard.first id earlier before
    exact ⟨ids, List.mem_append_left _ member⟩

theorem heard_step (log entries : SystemTrace P) (s next : ActorSystem P) (action : SystemAction P) (typed : Typed log s)
    (heard : Heard log s) (moves : Moves s next.sends action entries next) : Heard (log ++ entries) next := by
  have phase := typed.phase
  have silent (entries : SystemTrace P) (none : ∀ id, entries.marks id = []) (id : ActorId) :
      .stopping ∉ entries.marks id ∨ entries.marks id = [.handled, .stopping] := by
    rw [none id]
    exact Or.inl List.not_mem_nil
  generalize next.sends = sends at moves
  cases moves with
  | takeSnapshot ids here left keys =>
      have member : SystemEntry.at (.snapshot ids) ∈ log ++ [SystemEntry.at (.snapshot ids)] := by simp
      exact ⟨fun _ => ⟨ids, member⟩, fun _ _ _ => ⟨ids, member⟩⟩
  | stopNext id ids cell here present =>
      obtain ⟨taken, member⟩ := heard.listed (by rw [here]; rfl)
      exact ⟨fun _ => ⟨taken, List.mem_append_left _ member⟩, fun _ _ _ => ⟨taken, List.mem_append_left _ member⟩⟩
  | handledStop loop envelope cell ctx val reply here stops =>
      simp only [PhaseTyped, here] at phase
      refine heard_frame log _ s _ heard (fun wrong => by cases wrong) ?_
      intro id
      rw [on_stop_typed _ (cell.write val) phase.1.2]
      by_cases own : envelope.actorId = id
      · exact Or.inr (by simp [SystemTrace.marks, SystemEntry.mark, Event.mark, own])
      · exact Or.inl (by simp [SystemTrace.marks, SystemEntry.mark, Event.mark, own])
  | hookReturn id cell ctx resume here typed =>
      refine heard_frame log _ s _ heard ?_ (fun other => Or.inl (by simp [SystemTrace.marks, SystemEntry.mark, Event.mark]))
      rw [here]
      cases resume <;> simp [SystemPhase.sweeping]
  | hookSkip id cell ctx resume here untyped =>
      refine heard_frame log _ s _ heard ?_ (silent _ fun _ => rfl)
      rw [here]
      cases resume <;> simp [SystemPhase.sweeping]
  | stopHook id cell ctx resume here =>
      refine heard_frame log _ s _ heard ?_ (silent _ fun _ => rfl)
      rw [here]
      cases resume <;> simp [SystemPhase.sweeping]
  | cloneAddr => exact heard_frame log _ s _ heard (fun same => same) (silent _ fun _ => rfl)
  | dropAddr => exact heard_frame log _ s _ heard (fun same => same) (silent _ fun _ => rfl)
  | postFailed => exact heard_frame log _ s _ heard (fun same => same) (silent _ fun _ => rfl)
  | post => exact heard_frame log _ s _ heard (fun same => same) (silent _ fun _ => rfl)
  | recvResult => exact heard_frame log _ s _ heard (fun same => same) (silent _ fun _ => rfl)
  | spawnPanic => exact heard_frame log _ s _ heard (fun same => same) (silent _ fun _ => rfl)
  | disconnected => exact heard_frame log _ s _ heard (fun same => same) (silent _ fun _ => rfl)
  | shutdown => exact heard_frame log _ s _ heard (fun same => same) (silent _ fun _ => rfl)
  | stopGone id ids here absent => exact heard_frame log _ s _ heard (fun _ => by rw [here]; rfl) (silent _ fun _ => rfl)
  | _ =>
      exact heard_frame log _ s _ heard (fun wrong => by cases wrong)
        (fun id => Or.inl (by simp [SystemTrace.marks, SystemEntry.mark, Event.mark]))

theorem reach_heard (rely : Machine.Rely (ActorSystem P) (SystemAction P) (SystemEntry P)) (log : SystemTrace P)
    (s : ActorSystem P) (reached : (actorSystem P).Reach rely log s) : Heard log s := by
  refine Machine.reach_invariant (actorSystem P) rely Heard ?_ ?_ log s reached
  · intro s start
    rw [start]
    exact ⟨fun wrong => (by cases wrong), fun _ _ wrong => (by cases wrong)⟩
  · intro log s action next entries before heard _ taken
    exact heard_step log entries s next action (reach_system_sound rely log s before).typed heard
      (step_moves s next action entries taken)

-- A started hook's request in the system.
theorem started_request_unheeded (log later : SystemTrace P) (s next final : ActorSystem P) (entries : SystemTrace P)
    (id : ActorId) (ty : P.Ty) (val : P.Val) (ctx : Context Empty) (reached : (actorSystem P).Reach quiet log s)
    (here : s.phase = .starting id ty val ctx) (taken : s.step .ctxStop = some (next, entries))
    (run : (actorSystem P).Runs quiet (log ++ entries) next later final)
    (follows : Follows .stopping (log.marks id) (later.marks id)) : ∃ ids, .at (.snapshot ids) ∈ later := by
  have calm : quiet log s .ctxStop := rfl
  have begun := Machine.Reach.step log s next _ entries reached calm taken
  have ends := Machine.reach_runs _ _ _ later next final begun run
  obtain ⟨last, rest, marks⟩ := follows
  have starting := (reach_calm log s reached).lived.here id .starting (Or.inl (by simp [here, SystemPhase.stageOf]))
  rw [Stage.starting_only _ starting] at marks
  obtain ⟨stage, legal⟩ := (reach_calm later final ends).lived.legal id
  rw [marks] at legal
  have started : last = .started := by cases last <;> first | rfl | cases legal
  rw [started] at marks
  exact (reach_heard quiet later final ends).first id rest marks

-- Nor does ActorSystem::spawn.
theorem started_request_lost (s next : ActorSystem P) (entries : SystemTrace P) (val : P.Val) (id : ActorId) (ty : P.Ty)
    (old : P.Val) (ctx : Context Empty) (here : s.phase = .starting id ty old ctx)
    (taken : s.step .ctxStop = some (next, entries)) :
    entries = [] ∧ next.step (.startedReturn val) = s.step (.startedReturn val) := by
  simp only [step, ctxStop, here] at taken
  cases taken
  refine ⟨rfl, ?_⟩
  simp only [step, startedReturn, here]

theorem request_answered (log later : SystemTrace P) (s next final : ActorSystem P) (entries : SystemTrace P)
    (action : SystemAction P) (id : ActorId) (reached : (actorSystem P).Reach quiet log s) (asks : s.Asks id action)
    (taken : s.step action = some (next, entries)) (run : (actorSystem P).Runs quiet (log ++ entries) next later final) :
    (s.InHandler → Heeded (log.marks id) (later.marks id) ∧
      (final.phase.stageOf id = none → later.marks id = log.marks id ++ [.handled, .stopping, .stopped])) ∧
    ((∀ ids, .at (.snapshot ids) ∉ later) → ∀ mark, Follows mark (log.marks id) (later.marks id) →
      (mark = .stopping ↔ s.InHandler)) := by
  obtain ⟨rfl, ⟨ty, val, ctx, here⟩ | ⟨loop, envelope, cell, ctx, here, own⟩⟩ := asks
  · have outside : ¬ s.InHandler := by
      rintro ⟨loop, envelope, cell, ctx, wrong⟩
      rw [here] at wrong
      cases wrong
    refine ⟨fun inside => absurd inside outside, ?_⟩
    intro unswept mark follows
    constructor
    · rintro rfl
      obtain ⟨ids, member⟩ := started_request_unheeded log later s next final entries id ty val ctx reached here taken run follows
      exact absurd member (unswept ids)
    · exact fun inside => absurd inside outside
  · have heeded := request_heeded log later s next final entries id loop envelope cell ctx reached here own taken run
    refine ⟨fun _ => heeded, ?_⟩
    intro _ mark follows
    exact ⟨fun _ => ⟨loop, envelope, cell, ctx, here⟩, fun _ => heeded_follows _ _ mark heeded.1 follows⟩

end ActorSystem

-- In both runtimes a request made in a handler is heeded. One made in a started
-- hook is forgotten when the hook returns: in a run without stop_all_actors the
-- next callback is the stopped hook exactly if a handler has asked.
theorem stops_heeded_iff :
    (∀ (log later : Trace P n) (s next final : State P n) (entries : Trace P n) (action : Action P n) (id : ActorId),
      (runtime P n).Reach State.quiet log s → s.Asks id action → s.step action = some (next, entries) →
        (runtime P n).Runs State.quiet (log ++ entries) next later final →
          (∀ w, action = .ctxStop (.worker w) → Heeded (log.marks id) (later.marks id) ∧
            ((final.workers w).phase.stageOf id = none → later.marks id = log.marks id ++ [.handled, .stopping, .stopped])) ∧
          ((∀ w ids, .at w (.snapshot ids) ∉ later) → ∀ mark, Follows mark (log.marks id) (later.marks id) →
            (mark = .stopping ↔ ∃ w, action = .ctxStop (.worker w)))) ∧
    (∀ (log later : SystemTrace P) (s next final : ActorSystem P) (entries : SystemTrace P) (action : SystemAction P)
      (id : ActorId), (actorSystem P).Reach ActorSystem.quiet log s → s.Asks id action → s.step action = some (next, entries) →
        (actorSystem P).Runs ActorSystem.quiet (log ++ entries) next later final →
          (s.InHandler → Heeded (log.marks id) (later.marks id) ∧
            (final.phase.stageOf id = none → later.marks id = log.marks id ++ [.handled, .stopping, .stopped])) ∧
          ((∀ ids, .at (.snapshot ids) ∉ later) → ∀ mark, Follows mark (log.marks id) (later.marks id) →
            (mark = .stopping ↔ s.InHandler))) ∧
    (∀ (s next : State P n) (id : ActorId) (entries : Trace P n) (val : P.Val),
      s.step (.ctxStop (.started id)) = some (next, entries) →
        entries = [] ∧ next.step (.startedReturn id val) = s.step (.startedReturn id val)) ∧
    (∀ (s next : ActorSystem P) (entries : SystemTrace P) (val : P.Val) (id : ActorId) (ty : P.Ty) (old : P.Val)
      (ctx : Context Empty), s.phase = .starting id ty old ctx → s.step .ctxStop = some (next, entries) →
        entries = [] ∧ next.step (.startedReturn val) = s.step (.startedReturn val)) :=
  ⟨State.request_answered, ActorSystem.request_answered, State.started_request_lost, ActorSystem.started_request_lost⟩

-- A request in a handler, in each runtime.
def asksFirst : List (Action numbers 1) :=
  spawnOne ++ ([.doSend 0 5, .doSend 0 6, .worker 0 .pollControl, .worker 0 .drain, .worker 0 .drain, .worker 0 .drain,
    .worker 0 .runTurn] : List (Action numbers 1))

def leavesAfter : List (Action numbers 1) := [.worker 0 (.handlerReturn 5 50), .worker 0 .settle, .worker 0 .hookReturn]

def asksInRun : List (SystemAction numbers) := ActorSystem.stopsOne ++ ([.run, .recv] : List (SystemAction numbers))

theorem stops_heeded_iff_handlers :
    (let before := Trace.marks ((runtime numbers 1).history (State.withThreads numbers 1) asksFirst) 1
     let after := Trace.marks ((runtime numbers 1).history (State.withThreads numbers 1)
       (asksFirst ++ Action.ctxStop (.worker 0) :: leavesAfter)) 1
     Heeded before after ∧ after = before ++ [.handled, .stopping, .stopped]) ∧
    (let before := SystemTrace.marks ((actorSystem numbers).history (ActorSystem.new numbers) asksInRun) 1
     let after := SystemTrace.marks ((actorSystem numbers).history (ActorSystem.new numbers)
       (asksInRun ++ ([.ctxStop, .handlerReturn 5 50, .hookReturn] : List (SystemAction numbers)))) 1
     Heeded before after ∧ after = before ++ [.handled, .stopping, .stopped]) := by
  constructor
  · have before := (runtime numbers 1).run_reach_rely State.quiet [] ((runtime numbers 1).history (State.withThreads numbers 1) asksFirst)
      (State.withThreads numbers 1) ((runtime numbers 1).last (State.withThreads numbers 1) asksFirst) asksFirst (.init _ rfl) rfl
      (Machine.allowed_actions _ _ _ _ _ (by simp [asksFirst, spawnOne, State.quiet, Action.quiet]))
    have run := (runtime numbers 1).run_runs_rely State.quiet
      ((runtime numbers 1).history (State.withThreads numbers 1) asksFirst ++ [])
      ((runtime numbers 1).history (State.withThreads numbers 1) (asksFirst ++ Action.ctxStop (.worker 0) :: leavesAfter))
      ((runtime numbers 1).last (State.withThreads numbers 1) (asksFirst ++ [Action.ctxStop (.worker 0)]))
      ((runtime numbers 1).last (State.withThreads numbers 1) (asksFirst ++ Action.ctxStop (.worker 0) :: leavesAfter))
      leavesAfter rfl
      (Machine.allowed_actions _ _ _ _ _ (by simp [leavesAfter, State.quiet, Action.quiet]))
    obtain ⟨heeded, finished⟩ := (stops_heeded_iff.1 _ _ _ _ _ [] (.ctxStop (.worker 0)) 1 before
      ⟨_, _, _, _, rfl, rfl⟩ rfl run).1 0 rfl
    exact ⟨heeded, finished rfl⟩
  · have before := (actorSystem numbers).run_reach_rely ActorSystem.quiet []
      ((actorSystem numbers).history (ActorSystem.new numbers) asksInRun) (ActorSystem.new numbers)
      ((actorSystem numbers).last (ActorSystem.new numbers) asksInRun) asksInRun (.init _ rfl) rfl
      (Machine.allowed_actions _ _ _ _ _ (by simp [asksInRun, ActorSystem.stopsOne, ActorSystem.quiet, SystemAction.quiet]))
    have run := (actorSystem numbers).run_runs_rely ActorSystem.quiet
      ((actorSystem numbers).history (ActorSystem.new numbers) asksInRun ++
        ([.stopRequested ⟨1, (), 5, false, 0⟩] : SystemTrace numbers))
      ((actorSystem numbers).history (ActorSystem.new numbers)
        (asksInRun ++ ([.ctxStop, .handlerReturn 5 50, .hookReturn] : List (SystemAction numbers))))
      ((actorSystem numbers).last (ActorSystem.new numbers) (asksInRun ++ [SystemAction.ctxStop]))
      ((actorSystem numbers).last (ActorSystem.new numbers)
        (asksInRun ++ ([.ctxStop, .handlerReturn 5 50, .hookReturn] : List (SystemAction numbers))))
      [.handlerReturn 5 50, .hookReturn] rfl
      (Machine.allowed_actions _ _ _ _ _ (by simp [ActorSystem.quiet, SystemAction.quiet]))
    obtain ⟨heeded, finished⟩ := ((stops_heeded_iff (n := 1)).2.1 _ _ _ _ _ _ .ctxStop 1 before
      ⟨rfl, Or.inr ⟨_, _, _, _, rfl, rfl⟩⟩ rfl run).1 ⟨_, _, _, _, rfl⟩
    exact ⟨heeded, finished rfl⟩

-- The started hook asks to stop under Runtime::spawn, in a handler's
-- Context::spawn, and under ActorSystem::spawn, and then the actor handles a message.
def startedByRuntime : List (Action numbers 1) := [.spawn () 0, .spawnPick 1]

def handledByRuntime : List (Action numbers 1) :=
  [.startedReturn 1 0, .handOver 1, .worker 0 .pollControl, .worker 0 .confirm, .spawnReturn 1, .doSend 0 5,
    .worker 0 .pollControl, .worker 0 .drain, .worker 0 .drain, .worker 0 .runTurn]

def startedByHandler : List (Action numbers 1) :=
  spawnOne ++ ([.doSend 0 5, .worker 0 .pollControl, .worker 0 .drain, .worker 0 .drain, .worker 0 .runTurn,
    .ctxSpawn (.worker 0) () 1] : List (Action numbers 1))

def handledByChild : List (Action numbers 1) :=
  [.startedReturn 2 1, .handOver 2, .doSend 1 6, .worker 0 (.handlerReturn 5 50), .worker 0 .settle, .worker 0 .pollControl,
    .worker 0 .drain, .worker 0 .drain, .worker 0 .runTurn]

theorem not_heeded (before after rest : List Mark) (same : after = before ++ Mark.started :: .handling :: rest) :
    ¬ Heeded before after := by
  rintro ⟨more, shown, first | first⟩
  · rw [same] at shown
    rw [← List.append_cancel_left shown] at first
    obtain ⟨tail, wrong⟩ := first
    cases wrong
  · rw [same] at shown
    rw [← List.append_cancel_left shown] at first
    obtain ⟨tail, wrong⟩ := first
    cases wrong

theorem ignored_in_runtime (before after : List (Action numbers 1)) (id : ActorId) (rest : List Mark) (next : State numbers 1)
    (calm : ∀ action ∈ before ++ after, action.quiet = true) (log later : Trace numbers 1) (s final : State numbers 1)
    (ran : (runtime numbers 1).run [] (State.withThreads numbers 1) before = some (log, s))
    (asks : s.step (.ctxStop (.started id)) = some (next, []))
    (again : (runtime numbers 1).run log next after = some (later, final))
    (marks : later.marks id = log.marks id ++ Mark.started :: .handling :: rest) :
    ∃ (log later : Trace numbers 1) (s next final : State numbers 1),
      (runtime numbers 1).Reach State.quiet log s ∧ s.Asks id (.ctxStop (.started id)) ∧
        s.step (.ctxStop (.started id)) = some (next, []) ∧ (runtime numbers 1).Runs State.quiet log next later final ∧
          ¬ Heeded (log.marks id) (later.marks id) := by
  refine ⟨log, later, s, next, final, ?_, rfl, asks, ?_, not_heeded _ _ rest marks⟩
  · exact Machine.run_reach_rely _ _ [] _ _ _ before (.init _ rfl) ran
      (Machine.allowed_actions _ _ _ _ _ fun action member _ _ => calm action (List.mem_append_left _ member))
  · exact Machine.run_runs_rely _ _ _ _ _ _ after again
      (Machine.allowed_actions _ _ _ _ _ fun action member _ _ => calm action (List.mem_append_right _ member))

theorem started_stops_ignored :
    (∃ (log later : Trace numbers 1) (s next final : State numbers 1),
      (runtime numbers 1).Reach State.quiet log s ∧ s.Asks 1 (.ctxStop (.started 1)) ∧
        s.step (.ctxStop (.started 1)) = some (next, []) ∧ (runtime numbers 1).Runs State.quiet log next later final ∧
          ¬ Heeded (log.marks 1) (later.marks 1)) ∧
    (∃ (log later : Trace numbers 1) (s next final : State numbers 1),
      (runtime numbers 1).Reach State.quiet log s ∧ s.Asks 2 (.ctxStop (.started 2)) ∧
        s.step (.ctxStop (.started 2)) = some (next, []) ∧ (runtime numbers 1).Runs State.quiet log next later final ∧
          ¬ Heeded (log.marks 2) (later.marks 2)) ∧
    (∃ (log later : SystemTrace numbers) (s next final : ActorSystem numbers),
      (actorSystem numbers).Reach ActorSystem.quiet log s ∧ s.Asks 1 .ctxStop ∧ s.step .ctxStop = some (next, []) ∧
        (actorSystem numbers).Runs ActorSystem.quiet log next later final ∧ ¬ Heeded (log.marks 1) (later.marks 1)) := by
  refine ⟨?_, ?_, ?_⟩
  · exact ignored_in_runtime startedByRuntime handledByRuntime 1 [] _ (by simp [startedByRuntime, handledByRuntime, Action.quiet])
      _ _ _ _ rfl rfl rfl rfl
  · exact ignored_in_runtime startedByHandler handledByChild 2 [] _
      (by simp [startedByHandler, spawnOne, handledByChild, Action.quiet]) _ _ _ _ rfl rfl rfl rfl
  · have before := (actorSystem numbers).run_reach_rely ActorSystem.quiet [] [.starting 1] (ActorSystem.new numbers)
      ((actorSystem numbers).last (ActorSystem.new numbers) [.spawn () 0]) [.spawn () 0] (.init _ rfl) rfl
      (Machine.allowed_actions _ _ _ _ _ (by simp [ActorSystem.quiet, SystemAction.quiet]))
    have run := (actorSystem numbers).run_runs_rely ActorSystem.quiet [.starting 1]
      ((actorSystem numbers).history (ActorSystem.new numbers) [.spawn () 0, .ctxStop, .startedReturn 0, .doSend 0 5, .runOnce, .recv])
      ((actorSystem numbers).last (ActorSystem.new numbers) [.spawn () 0, .ctxStop])
      ((actorSystem numbers).last (ActorSystem.new numbers) [.spawn () 0, .ctxStop, .startedReturn 0, .doSend 0 5, .runOnce, .recv])
      [.startedReturn 0, .doSend 0 5, .runOnce, .recv] rfl
      (Machine.allowed_actions _ _ _ _ _ (by simp [ActorSystem.quiet, SystemAction.quiet]))
    exact ⟨_, _, _, _, _, before, ⟨rfl, Or.inl ⟨_, _, _, rfl⟩⟩, rfl, run, not_heeded _ _ [] rfl⟩

end Actinium
