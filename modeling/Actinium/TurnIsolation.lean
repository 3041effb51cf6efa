import Actinium.Lifecycle
import Actinium.PanicIsolation
import Actinium.Placement

set_option autoImplicit false

namespace Actinium

variable {P : Program} {n : Nat}

namespace Scheduler

variable {δ : Type}

-- next_ready, dequeue, remove_actor and requeue_if_ready of the removed id
-- undo one another but for the mail of that id.
theorem removed_turn (s popped after : Scheduler δ) (wf : s.Wf) (turn : ActorId) (envelope : Envelope δ)
    (next : s.nextReady = (some turn, popped)) (dequeued : popped.dequeue turn = (some envelope, after)) :
    ((after.removeActor turn).requeueIfReady turn).mailboxes.lookup turn = none ∧
      (∀ id, id ≠ turn → ((after.removeActor turn).requeueIfReady turn).mailboxes.lookup id = s.mailboxes.lookup id) ∧
      ((after.removeActor turn).requeueIfReady turn).readyQueue = s.readyQueue.filter (fun id => decide (id ≠ turn)) := by
  obtain ⟨queue, boxes⟩ := next_ready_some s popped wf turn next
  obtain ⟨_, kept, others⟩ := dequeue_some popped after turn envelope dequeued
  have removed : (after.removeActor turn).mailboxes.lookup turn = none := by simp [removeActor]
  have shape : (after.removeActor turn).requeueIfReady turn = after.removeActor turn := by
    simp [requeueIfReady, hasPending, cleanupEmpty, removed]
  rw [shape]
  refine ⟨removed, ?_, ?_⟩
  · intro id other
    rw [removeActor, AList.lookup_erase_ne other, others id other, boxes]
  · rw [removeActor, kept, queue]
    simp

end Scheduler

namespace Worker

-- The steps of a turn of a that began in w. What other threads insert in the
-- meantime is new to the map.
def inTurn (a : ActorId) (w : Worker P n) : Machine.Rely (Worker P n) (Act P) (Event P) := fun _ now act =>
  now.phase.serving = some a ∧
    match act with
    | .spawnActorDirect id _ _ => id ≠ a ∧ w.actorMap.lookup id = none
    | _ => True

-- While the actor is served it is out of the map, the scheduler stands still,
-- and the map only grows.
structure Serving (a : ActorId) (w : Worker P n) (scheduler : Scheduler (Delivery P)) (events : Log P) (now : Worker P n) :
    Prop where
  absent : now.actorMap.lookup a = none
  cells : ∀ id cell, id ≠ a → w.actorMap.lookup id = some cell → now.actorMap.lookup id = some cell
  added : ∀ id cell, now.actorMap.lookup id = some cell →
    w.actorMap.lookup id = some cell ∨ .installed id cell.actor.ty ∈ events
  mail : now.scheduler = scheduler
  running : .stopped a ∉ events

-- The turn has removed the actor with its mail, and left every other actor as
-- it was, but for what was added to the map.
structure Cleared (a : ActorId) (w : Worker P n) (after : Worker P n) : Prop where
  unmapped : after.actorMap.lookup a = none
  unmailed : after.scheduler.mailboxes.lookup a = none
  unqueued : a ∉ after.scheduler.readyQueue
  cells : ∀ id cell, id ≠ a → w.actorMap.lookup id = some cell → after.actorMap.lookup id = some cell
  mail : ∀ id, id ≠ a → after.scheduler.mailboxes.lookup id = w.scheduler.mailboxes.lookup id
  order : after.scheduler.readyQueue = w.scheduler.readyQueue.filter (fun id => decide (id ≠ a))

theorem serving_frame (a : ActorId) (w now next : Worker P n) (scheduler : Scheduler (Delivery P)) (events more : Log P)
    (serving : Serving a w scheduler events now) (map : next.actorMap = now.actorMap)
    (mail : next.scheduler = now.scheduler) (running : .stopped a ∉ more) : Serving a w scheduler (events ++ more) next := by
  refine ⟨map ▸ serving.absent, map ▸ serving.cells, ?_, mail.trans serving.mail, ?_⟩
  · intro id cell found
    rcases serving.added id cell (map ▸ found) with old | new
    · exact Or.inl old
    · exact Or.inr (List.mem_append_left _ new)
  · intro stopped
    exact (List.mem_append.mp stopped).elim serving.running running

-- One step of the turn: it goes on, or it ends, and with the stopped hook of
-- the actor only by on_stop returning.
theorem serving_step (a : ActorId) (w now next : Worker P n) (scheduler : Scheduler (Delivery P)) (events more : Log P)
    (act : Act P) (served : Served now) (serving : Serving a w scheduler events now) (log : Log P)
    (allowed : inTurn a w log now act) (moves : Moves now act more next) :
    next.phase.serving = some a ∧ Serving a w scheduler (events ++ more) next ∨
      next.phase.serving = none ∧ (.stopped a ∉ more ∨ (∃ senders, act = .own senders .hookReturn) ∧
        next = (now.finishStop a (.turn a)).1 ∧ more = .stopped a :: (now.scheduler.mailbox a).map .dropped) := by
  obtain ⟨busy, fresh⟩ := allowed
  cases moves with
  | post envelope alive => exact Or.inl ⟨busy, serving_frame a w now _ scheduler events _ serving rfl rfl (by simp)⟩
  | postControl msg alive =>
      refine Or.inl ⟨busy, serving_frame a w now _ scheduler events _ serving rfl rfl ?_⟩
      cases msg <;> simp [controlEvent]
  | direct id actor onStop =>
      obtain ⟨other, new⟩ := fresh
      refine Or.inl ⟨busy, ⟨?_, ?_, ?_, serving.mail, ?_⟩⟩
      · exact (AList.lookup_insert_ne (Ne.symm other)).trans serving.absent
      · intro known cell different found
        have apart : known ≠ id := by
          rintro rfl
          rw [new] at found
          cases found
        exact (AList.lookup_insert_ne apart).trans (serving.cells known cell different found)
      · intro known cell found
        by_cases same : known = id
        · subst same
          rw [AList.lookup_insert] at found
          cases found
          exact Or.inr (by simp)
        · rw [AList.lookup_insert_ne same] at found
          rcases serving.added known cell found with old | inserted
          · exact Or.inl old
          · exact Or.inr (List.mem_append_left _ inserted)
      · intro stopped
        rcases List.mem_append.mp stopped with old | wrong
        · exact serving.running old
        · simp at wrong
  | stopHandler turn envelope cell ctx here =>
      rw [here] at busy
      exact Or.inl ⟨busy, serving_frame a w now _ scheduler events _ serving rfl rfl (by simp)⟩
  | stopHook id cell ctx after here =>
      rw [here] at busy
      refine Or.inl ⟨?_, serving_frame a w now _ scheduler events _ serving rfl rfl (by simp)⟩
      cases after <;> exact busy
  | handlerReturn senders turn envelope cell ctx val reply here =>
      rw [here] at busy
      exact Or.inl ⟨busy, serving_frame a w now _ scheduler events _ serving rfl rfl (by simp)⟩
  | handlerPanic senders turn envelope cell ctx val here =>
      rw [here] at busy
      exact Or.inl ⟨busy, serving_frame a w now _ scheduler events _ serving rfl rfl (by simp [mem_begin_stop])⟩
  | putBack senders turn id cell here => exact Or.inr ⟨rfl, Or.inl (by simp)⟩
  | stop senders turn id cell here =>
      rw [here] at busy
      exact Or.inl ⟨busy, serving_frame a w now _ scheduler events _ serving rfl rfl (by simp [mem_begin_stop])⟩
  | hookReturn senders id cell ctx after here typed =>
      cases after with
      | stopAll ids =>
          rw [here] at busy
          cases busy
      | turn turn =>
          obtain ⟨_, _, own⟩ := served.stopping id cell ctx _ here
          have same := own turn rfl
          rw [here] at busy
          cases busy
          subst same
          exact Or.inr ⟨rfl, Or.inr ⟨⟨senders, rfl⟩, rfl, rfl⟩⟩
  | hookSkip senders id cell ctx after here untyped =>
      cases after with
      | stopAll ids =>
          rw [here] at busy
          cases busy
      | turn turn => exact Or.inr ⟨rfl, Or.inl (by simp)⟩
  | hookPanic senders id cell ctx after here typed => exact Or.inr ⟨rfl, Or.inl (by simp)⟩
  | _ => simp_all [Phase.serving]

theorem serving_begin (a : ActorId) (w now : Worker P n) (senders : Nat) (events : Log P) (wf : w.scheduler.Wf)
    (begins : w.step (.own senders .runTurn) = some (now, events)) (busy : now.phase.serving = some a) :
    Served now ∧ Serving a w now.scheduler events now ∧ ∃ popped envelope,
      w.scheduler.nextReady = (some a, popped) ∧ popped.dequeue a = (some envelope, now.scheduler) := by
  have moves := step_moves w now _ events begins
  have served (here : w.phase = .turn) : Served now :=
    served_step events w now _ (served_calm w (by rw [here]; rfl) (fun _ => wf) wf.keyed) moves
  -- the cell taken out of the map is that of the actor served
  have erased (turn : ActorId) (popped after : Scheduler (Delivery P)) (envelope : Message P)
      (next : w.scheduler.nextReady = (some turn, popped)) (dequeued : popped.dequeue turn = (some envelope, after))
      (map : now.actorMap = w.actorMap.erase envelope.actorId) (running : .stopped turn ∉ events) :
      Serving turn w now.scheduler events now := by
    have own := (dequeue_keyed _ _ _ turn envelope wf next dequeued).2
    rw [own] at map
    refine ⟨?_, ?_, ?_, rfl, running⟩
    · rw [map, AList.lookup_erase]
    · intro id cell other found
      rw [map, AList.lookup_erase_ne other]
      exact found
    · intro id cell found
      rw [map] at found
      by_cases same : id = turn
      · rw [same, AList.lookup_erase] at found
        cases found
      · rw [AList.lookup_erase_ne same] at found
        exact Or.inl found
  cases moves with
  | handle senders turn popped after envelope cell here next dequeued present typed =>
      cases busy
      exact ⟨served here, erased a popped after envelope next dequeued rfl (by simp), popped, envelope, next, dequeued⟩
  | mismatch senders turn popped after envelope cell here next dequeued present untyped =>
      cases busy
      exact ⟨served here, erased a popped after envelope next dequeued rfl (by simp [mem_begin_stop]), popped, envelope, next,
        dequeued⟩
  | _ => cases busy

-- A whole turn: the actor is still served, or it is not and its stopped hook
-- has returned in the last step or not at all.
theorem serving_run (workerIdx : Fin n) (a : ActorId) (w now t : Worker P n) (scheduler : Scheduler (Delivery P)) (log first later : Log P)
    (served : Served now) (serving : Serving a w scheduler first now) (busy : now.phase.serving = some a)
    (turn : (machine P workerIdx).Runs (inTurn a w) (log ++ first) now later t) :
    ∃ events, later = log ++ events ∧ Served t ∧
      (t.phase.serving = some a ∧ Serving a w scheduler events t ∨
        t.phase.serving = none ∧ (.stopped a ∉ events ∨ ∃ before mid, Serving a w scheduler before mid ∧
          t = (mid.finishStop a (.turn a)).1 ∧
          events = before ++ Event.stopped a :: (mid.scheduler.mailbox a).map .dropped)) := by
  induction turn with
  | refl => exact ⟨first, rfl, served, Or.inl ⟨busy, serving⟩⟩
  | step later mid next action more _ allowed taken ih =>
      obtain ⟨events, rfl, between, progress⟩ := ih
      have moves := step_moves mid next action more taken
      refine ⟨events ++ more, List.append_assoc .., served_step more mid next action between moves, ?_⟩
      rcases progress with ⟨_, kept⟩ | ⟨ended, _⟩
      · rcases serving_step a w mid next scheduler events more action between kept _ allowed moves with
          goesOn | ⟨rests, silent | ⟨_, finished, same⟩⟩
        · exact Or.inl goesOn
        · refine Or.inr ⟨rests, Or.inl ?_⟩
          intro stopped
          exact (List.mem_append.mp stopped).elim kept.running silent
        · exact Or.inr ⟨rests, Or.inr ⟨events, mid, kept, finished, by rw [same]⟩⟩
      · have still := allowed.1
        rw [ended] at still
        cases still

theorem finish_turn (a : ActorId) (w mid : Worker P n) (popped scheduler : Scheduler (Delivery P)) (envelope : Message P)
    (events : Log P) (wf : w.scheduler.Wf) (next : w.scheduler.nextReady = (some a, popped))
    (dequeued : popped.dequeue a = (some envelope, scheduler)) (serving : Serving a w scheduler events mid) :
    Cleared a w (mid.finishStop a (.turn a)).1 := by
  obtain ⟨unmailed, mail, order⟩ := Scheduler.removed_turn w.scheduler popped scheduler wf a envelope next dequeued
  have after : (mid.finishStop a (.turn a)).1.scheduler = (scheduler.removeActor a).requeueIfReady a := by
    rw [← serving.mail]
    rfl
  refine ⟨?_, ?_, ?_, ?_, ?_, ?_⟩
  · rw [finish_stop_map]
    exact serving.absent
  · rw [after]
    exact unmailed
  · rw [after, order]
    simp
  · rw [finish_stop_map]
    exact serving.cells
  · rw [after]
    exact mail
  · rw [after]
    exact order

-- A turn that runs the stopped hook of its actor to its end, from any state
-- in which the scheduler is well formed, whatever other threads do meanwhile.
theorem turn_cleared (workerIdx : Fin n) (a : ActorId) (w now t : Worker P n) (senders : Nat) (log first events : Log P) (wf : w.scheduler.Wf)
    (begins : w.step (.own senders .runTurn) = some (now, first)) (busy : now.phase.serving = some a)
    (turn : (machine P workerIdx).Runs (inTurn a w) (log ++ first) now (log ++ events) t) (ended : t.phase.serving = none)
    (stopped : .stopped a ∈ events) :
    Cleared a w t ∧ (∀ envelope ∈ now.scheduler.mailbox a, .dropped envelope ∈ events) ∧
      ∀ id cell, t.actorMap.lookup id = some cell → w.actorMap.lookup id = some cell ∨ .installed id cell.actor.ty ∈ events := by
  obtain ⟨served, serving, popped, envelope, next, dequeued⟩ := serving_begin a w now senders first wf begins busy
  obtain ⟨all, same, _, ⟨still, _⟩ | ⟨_, running | ⟨before, mid, kept, rfl, trace⟩⟩⟩ :=
    serving_run workerIdx a w now t now.scheduler log first _ served serving busy turn
  · rw [ended] at still
    cases still
  · exact absurd (List.append_cancel_left same ▸ stopped) running
  · rw [← List.append_cancel_left same] at trace
    refine ⟨finish_turn a w mid popped now.scheduler envelope before wf next dequeued kept, ?_, ?_⟩
    · intro waiting member
      rw [trace, kept.mail]
      simp [member]
    · intro id cell found
      rw [finish_stop_map] at found
      rcases kept.added id cell found with old | inserted
      · exact Or.inl old
      · rw [trace]
        exact Or.inr (List.mem_append_left _ inserted)

theorem turn_begins (w next : Worker P n) (senders : Nat) (events : Log P) (moves : Moves w (.own senders .runTurn) events next) :
    w.phase = .turn := by
  cases moves <;> assumption

-- The cell of the actor served is in the hands of the worker.
theorem held_of_serving (w : Worker P n) (served : Served w) (a : ActorId) (busy : w.phase.serving = some a) :
    w.phase.held = some a := by
  cases here : w.phase with
  | handling turn envelope cell ctx =>
      rw [here] at busy
      cases busy
      exact congrArg some (served.handling a envelope cell ctx here).1
  | handled turn id cell running =>
      rw [here] at busy
      cases busy
      exact congrArg some (served.handled a id cell running here)
  | stopping id cell ctx after =>
      rw [here] at busy
      cases after with
      | turn turn =>
          cases busy
          exact congrArg some ((served.stopping id cell ctx _ here).2.2 a rfl)
      | stopAll ids => cases busy
  | _ =>
      rw [here] at busy
      cases busy

-- A callback goes on until it returns or panics.
theorem callback_kept (w next : Worker P n) (act : Act P) (events : Log P) (moves : Moves w act events next)
    (running : w.phase.inCallback = true) (goesOn : ∀ senders own, act = .own senders own → State.endsCallback own = false) :
    next.phase.inCallback = true := by
  cases moves with
  | post envelope alive => exact running
  | postControl msg alive => exact running
  | direct id actor onStop => exact running
  | stopHandler => rfl
  | stopHook => rfl
  | handlerReturn => cases goesOn _ _ rfl
  | handlerPanic => cases goesOn _ _ rfl
  | hookReturn => cases goesOn _ _ rfl
  | hookSkip => cases goesOn _ _ rfl
  | hookPanic => cases goesOn _ _ rfl
  | _ => simp_all [Phase.inCallback]

end Worker

-- The child was spawned through the Context of a started hook: nothing else
-- had run on its parent yet.
def Trace.HookSpawned (log : Trace P n) (child : ActorId) (w : Fin n) : Prop :=
  ∃ (before rest : Trace P n) (parent : ActorId),
    log = before ++ Entry.starting child w (some parent) :: rest ∧ before.marks parent = [.starting]

theorem Trace.hook_spawned_append (log entries : Trace P n) (child : ActorId) (w : Fin n)
    (spawned : log.HookSpawned child w) : (log ++ entries).HookSpawned child w := by
  obtain ⟨before, rest, parent, rfl, marks⟩ := spawned
  exact ⟨before, rest ++ entries, parent, by simp, marks⟩

namespace State

theorem starting_inv (s next : State P n) (action : Action P n) (entries : Trace P n) (moves : Moves s action entries next)
    (id parent : ActorId) (w : Fin n) (member : .starting id w (some parent) ∈ entries) :
    id = s.nextId ∧ ∃ via ty val running, s.callbackCtx via = some ⟨parent, running, some w⟩ ∧
      next.calls.lookup id = some ⟨some via, ty, .starting val w (.withSpawner id w)⟩ := by
  cases moves with
  | ctxSpawn via ty val other running v free ctx =>
      simp only [List.mem_singleton, Entry.starting.injEq, Option.some.injEq] at member
      obtain ⟨rfl, rfl, rfl⟩ := member
      exact ⟨rfl, via, ty, val, running, ctx, by rw [lookup_set, if_pos rfl]⟩
  | _ => simp at member

-- A call has the caller it was made by.
theorem caller_origin (s next : State P n) (action : Action P n) (entries : Trace P n) (moves : Moves s action entries next)
    (id : ActorId) (call : SpawnCall P n) (caller : Caller n) (found : next.calls.lookup id = some call)
    (made : call.via = some caller) :
    (∃ before, s.calls.lookup id = some before ∧ before.via = some caller ∧
        ∀ w, before.stage.goesTo w → call.stage.goesTo w) ∨
      ∃ parent running w, s.callbackCtx caller = some ⟨parent, running, some w⟩ ∧ call.stage.goesTo w ∧
        entries = [.starting id w (some parent)] := by
  have gone (now : next.calls.lookup id = none) : False := by
    rw [found] at now
    cases now
  cases call_moves s next action entries moves id with
  | answered events answers =>
      left
      rcases answers with same | ⟨via, ty, v, before, ⟨yes, _⟩ | ⟨no, _⟩⟩
      · exact ⟨call, same ▸ found, made, fun _ goes => goes⟩
      · rw [found] at yes
        cases yes
        exact ⟨_, before, made, fun _ goes => goes⟩
      · rw [found] at no
        cases no
        exact ⟨_, before, made, fun _ _ => trivial⟩
  | allocated ty val fresh counter now =>
      rw [found] at now
      cases now
      cases made
  | begun via ty val w parent fresh counter now trace =>
      right
      obtain ⟨_, other, _, _, running, ctx, again⟩ := starting_inv s next action entries moves id parent w (by simp [trace])
      rw [found] at now again
      cases now
      cases again
      cases made
      exact ⟨parent, running, w, ctx, rfl, trace⟩
  | picked via ty val w before now =>
      rw [found] at now
      cases now
      exact Or.inl ⟨_, before, made, fun _ goes => by cases goes⟩
  | stopped via ty val w ctx before now =>
      rw [found] at now
      cases now
      exact Or.inl ⟨_, before, made, fun _ goes => goes⟩
  | started via ty old val w ctx before now =>
      rw [found] at now
      cases now
      exact Or.inl ⟨_, before, made, fun _ goes => goes⟩
  | sent ty val w before now =>
      rw [found] at now
      cases now
      cases made
  | panicked via ty val w ctx before now => exact (gone now).elim
  | unsent ty val w before now => exact (gone now).elim
  | installed via ty val w before now => exact (gone now).elim
  | returned via ty w before now => exact (gone now).elim
  | refused via ty before now => exact (gone now).elim

-- What a worker in a callback has in its map is from its control channel, or
-- from a spawn through a Context.
theorem direct_inv (s next : State P n) (action : Action P n) (entries : Trace P n) (moves : Moves s action entries next)
    (w : Fin n) (id : ActorId) (ty : P.Ty) (busy : (s.workers w).phase.calm = false)
    (member : .at w (.installed id ty) ∈ entries) :
    ∃ via ty val, s.calls.lookup id = some ⟨some via, ty, .started val w⟩ := by
  have onlyDirect (v : Fin n) (act : Worker.Act P) (result : Worker.Outcome P n)
      (taken : (s.workers v).step act = some result) (inside : .at w (.installed id ty) ∈ result.2.map (Entry.at v))
      (other : ∀ id actor onStop, act ≠ .spawnActorDirect id actor onStop) : False := by
    obtain ⟨event, shown, same⟩ := List.mem_map.mp inside
    cases same
    obtain ⟨worker, events⟩ := result
    cases Worker.step_moves _ _ _ _ taken with
    | direct => exact other _ _ _ rfl
    | pollSpawn senders known actor onStop rest here queue =>
        rw [here] at busy
        cases busy
    | postControl msg alive => cases msg <;> simp [Worker.controlEvent] at shown
    | _ => simp [Worker.mem_begin_stop, Worker.mem_refusals] at shown
  cases moves with
  | post blocking i msg addr result found taken => exact (onlyDirect _ _ _ taken member (by simp)).elim
  | ctxStopWorker v result free taken => exact (onlyDirect _ _ _ taken member (by simp)).elim
  | remote known ty val v result found taken => exact (onlyDirect _ _ _ taken member (by simp)).elim
  | shutdown v result taken => exact (onlyDirect _ _ _ taken member (by simp)).elim
  | ownerShutdown k expects bound result here taken => exact (onlyDirect _ _ _ taken member (by simp)).elim
  | worker v act result free taken => exact (onlyDirect _ _ _ taken member (by simp)).elim
  | direct known via ty val v result found taken =>
      obtain ⟨worker, events⟩ := result
      cases Worker.step_moves _ _ _ _ taken with
      | direct =>
          simp only [List.map_cons, List.map_nil, List.mem_singleton, Entry.at.injEq, Event.installed.injEq] at member
          obtain ⟨rfl, rfl, _⟩ := member
          exact ⟨via, _, val, found⟩
  | _ => simp at member

-- The Context a spawn is called on is that of the actor being served, or of
-- an actor whose started hook runs.
theorem ctx_worker (log : Trace P n) (s : State P n) (routed : Routed log s) (v w : Fin n) (parent : ActorId) (running : Bool)
    (ctx : s.callbackCtx (.worker v) = some ⟨parent, running, some w⟩) :
    w = v ∧ (s.workers v).phase.inCallback = true ∧ ∀ a, (s.workers v).phase.serving = some a → parent = a := by
  have served := (Worker.reach_sound v _ _ (routed.workers v)).served
  have index := Worker.reach_index v _ _ (routed.workers v)
  simp only [callbackCtx] at ctx
  split at ctx
  · rename_i turn envelope cell held here
    cases ctx
    obtain ⟨_, _, actor, spawner⟩ := served.handling turn envelope cell _ here
    rw [index] at spawner
    cases spawner
    refine ⟨rfl, by rw [here]; rfl, ?_⟩
    intro a busy
    rw [here] at busy
    cases busy
    exact actor
  · rename_i id cell held after here
    obtain ⟨_, _, same⟩ := Option.map_eq_some_iff.mp ctx
    subst same
    obtain ⟨actor, spawner, turn⟩ := served.stopping id cell _ after here
    rw [index] at spawner
    cases spawner
    refine ⟨rfl, by rw [here]; rfl, ?_⟩
    intro a busy
    rw [here] at busy
    cases after with
    | turn other =>
        cases busy
        exact actor.trans (turn a rfl)
    | stopAll ids => cases busy
  · cases ctx

theorem ctx_started (log : Trace P n) (s : State P n) (routed : Routed log s) (lived : Lived log s) (id parent : ActorId)
    (running : Bool) (w : Fin n) (ctx : s.callbackCtx (.started id) = some ⟨parent, running, some w⟩) :
    log.marks parent = [.starting] := by
  simp only [callbackCtx] at ctx
  split at ctx
  · rename_i via ty val v held found
    cases ctx
    obtain ⟨_, actor, _⟩ := routed.calls id _ found
    change parent = id at actor
    rw [actor]
    exact lived.calls id _ _ found rfl
  · cases ctx

theorem worker_taken (s next : State P n) (w : Fin n) (own : Worker.Own P) (entries : Trace P n)
    (taken : s.step (.worker w own) = some (next, entries)) :
    ∃ result, (s.workers w).step (.own (s.msgSenders w) own) = some result ∧ next = (s.onWorker w result).1 ∧
      entries = result.2.map (.at w) ∧ (endsCallback own = true → s.blocked (.worker w) = false) := by
  simp only [step, workerStep] at taken
  split at taken
  · cases taken
  · rename_i free
    obtain ⟨result, stepped, same⟩ := Option.map_eq_some_iff.mp taken
    cases same
    exact ⟨result, stepped, rfl, rfl, fun ends => by simpa [ends] using free⟩

-- The spawns in progress that were made through a Context.
structure Calling (log : Trace P n) (s : State P n) : Prop where
  worker : ∀ id call v, s.calls.lookup id = some call → call.via = some (.worker v) →
    (s.workers v).phase.inCallback = true ∧ call.stage.goesTo v
  hook : ∀ id call p, s.calls.lookup id = some call → call.via = some (.started p) →
    ∃ w, call.stage.goesTo w ∧ log.HookSpawned id w

theorem calling_step (log entries : Trace P n) (s next : State P n) (action : Action P n) (routed : Routed log s)
    (lived : Lived log s) (calling : Calling log s) (taken : s.step action = some (next, entries)) :
    Calling (log ++ entries) next := by
  have moves := step_moves s next action entries taken
  refine ⟨?_, ?_⟩
  · intro id call v found made
    obtain ⟨inside, goes⟩ : (s.workers v).phase.inCallback = true ∧ call.stage.goesTo v := by
      rcases caller_origin s next action entries moves id call _ found made with
        ⟨before, old, via, kept⟩ | ⟨_, _, w, ctx, goes, _⟩
      · obtain ⟨inside, goes⟩ := calling.worker id before v old via
        exact ⟨inside, kept v goes⟩
      · obtain ⟨rfl, inside, _⟩ := ctx_worker log s routed v w _ _ ctx
        exact ⟨inside, goes⟩
    refine ⟨?_, goes⟩
    rcases worker_source log entries s next action routed moves v with ⟨same, _⟩ | ⟨act, source, _, stepped⟩
    · rw [same]
      exact inside
    · refine Worker.callback_kept _ _ act _ (Worker.step_moves _ _ _ _ stepped) inside ?_
      rintro senders own rfl
      obtain ⟨rfl, _⟩ := source
      obtain ⟨result, _, _, shown, free⟩ := worker_taken s next v own entries taken
      by_contra ends
      rcases caller_origin s next _ entries moves id call _ found made with ⟨before, old, via, _⟩ | ⟨_, _, w, _, _, trace⟩
      · have waits := (blocked_iff s (.worker v)).mpr ⟨id, before, old, via⟩
        rw [free (eq_true_of_ne_false ends)] at waits
        cases waits
      · exact absurd (trace ▸ List.mem_singleton_self _) (shown ▸ no_starting v result.2 id w _)
  · intro id call p found made
    rcases caller_origin s next action entries moves id call _ found made with
      ⟨before, old, via, kept⟩ | ⟨parent, running, w, ctx, goes, trace⟩
    · obtain ⟨w, goes, spawned⟩ := calling.hook id before p old via
      exact ⟨w, kept w goes, Trace.hook_spawned_append log entries id w spawned⟩
    · exact ⟨w, goes, log, [], parent, by rw [trace], ctx_started log s routed lived p parent running w ctx⟩

end State

theorem reach_calling (rely : Machine.Rely (State P n) (Action P n) (Entry P n)) (log : Trace P n) (s : State P n)
    (reached : (runtime P n).Reach rely log s) : State.Calling log s :=
  Machine.reach_invariant (runtime P n) rely State.Calling
    (fun s start => by
      rw [start]
      exact ⟨fun id call v found => by simp [State.withThreads] at found, fun id call p found => by simp [State.withThreads] at found⟩)
    (fun log s action next entries before calling _ taken =>
      State.calling_step log entries s next action (reach_routed rely log s before) (reach_lived rely log s before) calling taken)
    log s reached

namespace State

-- The steps taken while the worker serves the actor.
def during (w : Fin n) (a : ActorId) : Machine.Rely (State P n) (Action P n) (Entry P n) := fun _ s _ =>
  (s.workers w).phase.serving = some a

-- What has been spawned for the worker since the turn began in log: calls of
-- the actor's callbacks are its own, and what was installed is its own or was
-- spawned by a started hook.
structure Children (log : Trace P n) (w : Fin n) (a : ActorId) (entries : Trace P n) (s : State P n) : Prop where
  calls : ∀ id call, s.calls.lookup id = some call → call.via = some (.worker w) → .starting id w (some a) ∈ entries
  installed : ∀ id ty, .at w (.installed id ty) ∈ entries →
    .starting id w (some a) ∈ entries ∨ (log ++ entries).HookSpawned id w

theorem children_begin (log entries : Trace P n) (s next : State P n) (w : Fin n) (a : ActorId) (calling : Calling log s)
    (taken : s.step (.worker w .runTurn) = some (next, entries)) : Children log w a entries next := by
  have moves := step_moves s next _ entries taken
  obtain ⟨⟨worker, events⟩, stepped, _, rfl, _⟩ := worker_taken s next w .runTurn entries taken
  have begun := Worker.step_moves _ _ _ _ stepped
  refine ⟨?_, ?_⟩
  · intro id call found made
    rcases caller_origin s next _ _ moves id call _ found made with ⟨before, old, via, _⟩ | ⟨_, _, v, _, _, trace⟩
    · have inside := (calling.worker id before w old via).1
      cases begun <;> rename_i here _ <;> simp_all [Phase.inCallback]
    · exact absurd (trace ▸ List.mem_singleton_self _) (no_starting w events id v _)
  · intro id ty member
    have shown : .installed id ty ∈ events := by simpa using member
    rcases Worker.installed_inv begun id ty shown with _ | ⟨_, _, wrong, _⟩
    · cases begun <;> simp [Worker.mem_begin_stop] at shown
    · cases wrong

theorem children_step (log entries more : Trace P n) (s next : State P n) (action : Action P n) (w : Fin n) (a : ActorId)
    (reached : (runtime P n).Reach Machine.free (log ++ entries) s) (children : Children log w a entries s)
    (busy : (s.workers w).phase.serving = some a) (taken : s.step action = some (next, more)) :
    Children log w a (entries ++ more) next := by
  have routed := reach_routed _ _ s reached
  have calling := reach_calling _ _ s reached
  have moves := step_moves s next action more taken
  refine ⟨?_, ?_⟩
  · intro id call found made
    rcases caller_origin s next action more moves id call _ found made with ⟨before, old, via, _⟩ | ⟨parent, _, v, ctx, _, trace⟩
    · exact List.mem_append_left _ (children.calls id before old via)
    · obtain ⟨rfl, _, own⟩ := ctx_worker _ s routed w v parent _ ctx
      rw [trace, own a busy]
      simp
  · intro id ty member
    rcases List.mem_append.mp member with old | new
    · rcases children.installed id ty old with own | hook
      · exact Or.inl (List.mem_append_left _ own)
      · exact Or.inr (List.append_assoc log entries more ▸ Trace.hook_spawned_append _ more id w hook)
    · have notCalm : (s.workers w).phase.calm = false := by
        cases calm : (s.workers w).phase.calm with
        | false => rfl
        | true =>
            rw [Worker.calm_serving _ calm] at busy
            cases busy
      obtain ⟨via, ty, val, found⟩ := direct_inv s next action more moves w id ty notCalm new
      cases via with
      | worker v =>
          obtain rfl : w = v := Option.some.inj (calling.worker id _ v found rfl).2
          exact Or.inl (List.mem_append_left _ (children.calls id _ found rfl))
      | started p =>
          obtain ⟨v, goes, hook⟩ := calling.hook id _ p found rfl
          obtain rfl : w = v := Option.some.inj goes
          exact Or.inr (List.append_assoc log entries more ▸ Trace.hook_spawned_append _ more id w hook)

-- Nothing is inserted under the id of the actor served, or of one that the
-- map held when the turn began.
theorem turn_allowed (log later : Trace P n) (s mid : State P n) (w : Fin n) (a : ActorId) (act : Worker.Act P)
    (before : (runtime P n).Reach Machine.free log s) (between : (runtime P n).Reach Machine.free later mid)
    (prior : log <+: later) (busy : (mid.workers w).phase.serving = some a)
    (kept : Worker.promised (later.worker w) (mid.workers w) act) (any : Log P) :
    Worker.inTurn a (s.workers w) any (mid.workers w) act := by
  refine ⟨busy, ?_⟩
  cases act with
  | spawnActorDirect id actor onStop =>
      have sound := reach_worker _ _ _ between w
      have unknown : id ∉ (later.worker w).known := kept.2.1
      refine ⟨?_, ?_⟩
      · rintro rfl
        exact unknown (held_known _ _ sound.placed id (Worker.held_of_serving _ sound.served id busy)).1
      · cases found : (s.workers w).actorMap.lookup id with
        | none => rfl
        | some cell =>
            obtain ⟨rest, rfl⟩ := prior
            have stored := ((reach_worker _ _ _ before w).placed.mapped id cell found).1
            refine absurd (Worker.known_of_installed _ id cell.actor.ty ?_) unknown
            rw [Trace.worker_append, Log.installed_append]
            exact List.mem_append_left _ stored
  | _ => trivial

-- The turn of the runtime is one of the worker.
theorem turn_worker (log first later : Trace P n) (s now t : State P n) (w : Fin n) (a : ActorId)
    (before : (runtime P n).Reach Machine.free log s) (reached : (runtime P n).Reach Machine.free (log ++ first) now)
    (turn : (runtime P n).Runs (during w a) (log ++ first) now later t) :
    (Worker.machine P w).Runs (Worker.inTurn a (s.workers w)) (log.worker w ++ first.worker w) (now.workers w)
      (later.worker w) (t.workers w) ∧ (runtime P n).Reach Machine.free later t ∧ log <+: later := by
  induction turn with
  | refl =>
      rw [Trace.worker_append]
      exact ⟨.refl, reached, List.prefix_append log first⟩
  | step later mid next action more _ busy taken ih =>
      obtain ⟨steps, between, prior⟩ := ih
      refine ⟨?_, .step later mid next action more between trivial taken, prior.trans (List.prefix_append later more)⟩
      rw [Trace.worker_append]
      rcases worker_source later more mid next action (reach_routed _ _ _ between) (step_moves mid next action more taken) w with
        ⟨same, silent⟩ | ⟨act, _, kept, stepped⟩
      · rw [same, silent, List.append_nil]
        exact steps
      · exact .step _ _ _ act _ steps (turn_allowed log later s mid w a act before between prior busy kept _) stepped

theorem children_run (log first later : Trace P n) (now t : State P n) (w : Fin n) (a : ActorId)
    (reached : (runtime P n).Reach Machine.free (log ++ first) now) (children : Children log w a first now)
    (turn : (runtime P n).Runs (during w a) (log ++ first) now later t) :
    ∃ entries, later = log ++ entries ∧ Children log w a entries t := by
  induction turn with
  | refl => exact ⟨first, rfl, children⟩
  | step later mid next action more begun allowed taken ih =>
      obtain ⟨entries, rfl, so⟩ := ih
      have free := Machine.runs_weaken _ _ Machine.free (fun _ _ _ _ => trivial) _ _ _ _ begun
      exact ⟨entries ++ more, List.append_assoc .., children_step log entries more mid next action w a
        (Machine.reach_runs _ _ _ _ _ _ reached free) so allowed taken⟩

-- A step that drops the envelope of a blocked send, and settles no send
-- otherwise, releases it.
theorem released (s : State P n) (w : Fin n) (result : Worker.Outcome P n) (envelope : Message P) (addr : Addr P n)
    (dropped : .dropped envelope ∈ result.2) (blocking : envelope.dispatch.resultTx = true)
    (others : ∀ event ∈ result.2, ∀ k state, event.settles = some (k, state) → state = .hungUp)
    (waits : s.sends envelope.dispatch.serial = some ⟨addr, .waiting⟩) :
    (s.onWorker w result).1.sends envelope.dispatch.serial = some ⟨addr, .hungUp⟩ := by
  rcases on_worker_sends s w result envelope.dispatch.serial with ⟨silent, _⟩ | ⟨event, member, state, settles, after⟩
  · exact absurd (if_pos blocking) (silent _ dropped .hungUp)
  · rw [after, waits, others event member _ state settles]
    rfl

theorem turn_start (log first : Trace P n) (s now : State P n) (w : Fin n)
    (before : (runtime P n).Reach Machine.free log s) (begins : s.step (.worker w .runTurn) = some (now, first)) :
    (s.workers w).scheduler.Wf ∧
      (s.workers w).step (.own (s.msgSenders w) .runTurn) = some (now.workers w, first.worker w) ∧
      (runtime P n).Reach Machine.free (log ++ first) now := by
  have reached : (runtime P n).Reach Machine.free (log ++ first) now := .step log s now (Action.worker w .runTurn) first before trivial begins
  obtain ⟨result, begun, rfl, rfl, _⟩ := worker_taken s now w .runTurn first begins
  have here := Worker.turn_begins _ _ _ _ (Worker.step_moves _ _ _ _ begun)
  refine ⟨(reach_worker _ _ _ before w).served.resting (by rw [here]; rfl) (by rw [here]; rfl), ?_, reached⟩
  rw [on_worker_workers, Function.update_self, Trace.worker_same]
  exact begun

-- A blocked send waits as long as its envelope is in a mailbox.
theorem mailbox_waits (log : Trace P n) (s : State P n) (w : Fin n) (id : ActorId)
    (reached : (runtime P n).Reach Machine.free log s) (envelope : Message P)
    (member : envelope ∈ (s.workers w).scheduler.mailbox id) (blocking : envelope.dispatch.resultTx = true) :
    ∃ addr, s.sends envelope.dispatch.serial = some ⟨addr, .waiting⟩ := by
  have routed := reach_routed _ log s reached
  have answered := reach_answered _ log s reached
  have sound := reach_worker _ log s reached w
  have inside : envelope ∈ (s.workers w).pending envelope.actorId := by
    rw [sound.served.keyed id envelope member]
    simp [Worker.pending, member]
  obtain ⟨accepted, unfinished, undropped⟩ := Worker.pending_open _ _ sound.mail envelope inside
  obtain ⟨⟨addr, state⟩, found, rfl, _⟩ := answered.asked w envelope accepted blocking
  obtain ⟨_, _, agrees⟩ := send_envelope log s routed answered _ _ found addr.tx envelope accepted rfl
  refine ⟨addr, found.trans ?_⟩
  have handled (reply : P.Reply) : .handled envelope reply ∉ Trace.worker addr.tx log := fun ended =>
    unfinished ((Log.mem_finished _ _).mpr (Or.inl ⟨reply, ended⟩))
  have failed : ¬ (.panicked envelope ∈ Trace.worker addr.tx log ∨ envelope ∈ (Trace.worker addr.tx log).dropped) :=
    fun ended => ended.elim (fun panicked => unfinished ((Log.mem_finished _ _).mpr (Or.inr panicked))) undropped
  cases state with
  | waiting => rfl
  | replied reply => exact (handled reply agrees).elim
  | hungUp => exact (failed agrees).elim
  | returned result =>
      cases result with
      | ok reply => exact (handled reply agrees).elim
      | error error =>
          cases error with
          | actorNotRunning => exact (failed agrees).elim
          | runtimeShutdown => exact agrees.elim

-- The turn ends in the step that drops the mail of the actor, and with it
-- every blocked send that still waits there.
theorem turn_released (log first entries : Trace P n) (s now t : State P n) (w : Fin n) (a : ActorId)
    (before : (runtime P n).Reach Machine.free log s) (begins : s.step (.worker w .runTurn) = some (now, first))
    (busy : (now.workers w).phase.serving = some a)
    (turn : (runtime P n).Runs (during w a) (log ++ first) now (log ++ entries) t)
    (ended : (t.workers w).phase.serving = none) (stopped : .at w (.stopped a) ∈ entries) (envelope : Message P)
    (member : envelope ∈ (now.workers w).scheduler.mailbox a) (blocking : envelope.dispatch.resultTx = true) :
    ∃ addr, t.sends envelope.dispatch.serial = some ⟨addr, .hungUp⟩ := by
  obtain ⟨wf, begun, reached⟩ := turn_start log first s now w before begins
  obtain ⟨served, serving, _⟩ := Worker.serving_begin a _ _ _ _ wf begun busy
  generalize final : log ++ entries = whole at turn
  cases turn with
  | refl =>
      rw [busy] at ended
      cases ended
  | step later mid _ action more goesOn still taken =>
      obtain ⟨steps, between, prior⟩ := turn_worker log first later s now mid w a before reached goesOn
      have routed := reach_routed _ _ mid between
      obtain ⟨events, trace, midServed, ⟨_, kept⟩ | ⟨wrong, _⟩⟩ :=
        Worker.serving_run w a _ _ _ _ _ _ _ served serving busy steps
      · have split : entries.worker w = events ++ Trace.worker w more := by
          have views := congrArg (Trace.worker w) final
          rw [Trace.worker_append, Trace.worker_append, trace, List.append_assoc] at views
          exact List.append_cancel_left views
        rcases worker_source later more mid t action routed (step_moves mid t action more taken) w with
          ⟨same, _⟩ | ⟨act, source, promised, stepped⟩
        · rw [same, still] at ended
          cases ended
        · have allowed := turn_allowed log later s mid w a act before between prior still promised []
          rcases Worker.serving_step a _ _ _ _ events _ act midServed kept [] allowed (Worker.step_moves _ _ _ _ stepped) with
            ⟨wrong, _⟩ | ⟨_, silent | ⟨⟨senders, rfl⟩, _, shown⟩⟩
          · rw [ended] at wrong
            cases wrong
          · have here := (Trace.mem_worker w _ entries).mpr stopped
            rw [split] at here
            exact ((List.mem_append.mp here).elim kept.running silent).elim
          · obtain ⟨rfl, _⟩ := source
            obtain ⟨result, _, rfl, rfl, _⟩ := worker_taken mid t w .hookReturn more taken
            rw [Trace.worker_same] at shown
            have inside : envelope ∈ (mid.workers w).scheduler.mailbox a := by
              rw [kept.mail]
              exact member
            obtain ⟨addr, waits⟩ := mailbox_waits later mid w a between envelope inside blocking
            refine ⟨addr, released mid w result envelope addr ?_ blocking ?_ waits⟩
            · rw [shown]
              simp [inside]
            · intro event occurs k state settles
              rw [shown] at occurs
              rcases List.mem_cons.mp occurs with rfl | drop
              · cases settles
              · obtain ⟨other, _, rfl⟩ := List.mem_map.mp drop
                simp only [Event.settles] at settles
                split at settles
                · cases settles
                  rfl
                · cases settles
      · have busyThen : (mid.workers w).phase.serving = some a := still
        rw [wrong] at busyThen
        cases busyThen

end State

-- A turn in which the stopped hook of its actor runs and returns: of a worker
-- in any state with a well-formed scheduler, and of a worker of the runtime,
-- where the mail dropped answers the blocked sends, and all that the turn adds
-- to the map is spawned by the actor's callbacks or by a started hook.
theorem turn_isolated :
    (∀ (workerIdx : Fin n) (a : ActorId) (w now t : Worker P n) (senders : Nat) (log first events : Log P),
      w.scheduler.Wf → w.step (.own senders .runTurn) = some (now, first) → now.phase.serving = some a →
      (Worker.machine P workerIdx).Runs (Worker.inTurn a w) (log ++ first) now (log ++ events) t →
      t.phase.serving = none → .stopped a ∈ events →
      Worker.Cleared a w t ∧ (∀ envelope ∈ now.scheduler.mailbox a, .dropped envelope ∈ events) ∧
        ∀ id cell, t.actorMap.lookup id = some cell →
          w.actorMap.lookup id = some cell ∨ .installed id cell.actor.ty ∈ events) ∧
    ∀ (log first entries : Trace P n) (s now t : State P n) (w : Fin n) (a : ActorId),
      (runtime P n).Reach Machine.free log s → s.step (.worker w .runTurn) = some (now, first) →
      (now.workers w).phase.serving = some a →
      (runtime P n).Runs (State.during w a) (log ++ first) now (log ++ entries) t →
      (t.workers w).phase.serving = none → .at w (.stopped a) ∈ entries →
      Worker.Cleared a (s.workers w) (t.workers w) ∧
        (∀ envelope ∈ (now.workers w).scheduler.mailbox a, envelope.dispatch.resultTx = true →
          t.step (.recvResult envelope.dispatch.serial) =
            some (t.setSend envelope.dispatch.serial (.returned (.error .actorNotRunning)), [])) ∧
        ∀ id cell, (t.workers w).actorMap.lookup id = some cell →
          (s.workers w).actorMap.lookup id = some cell ∨ .starting id w (some a) ∈ entries ∨
            (log ++ entries).HookSpawned id w := by
  refine ⟨fun workerIdx a w now t senders log first events => Worker.turn_cleared workerIdx a w now t senders log first events, ?_⟩
  intro log first entries s now t w a before begins busy turn ended stopped
  obtain ⟨wf, begun, reached⟩ := State.turn_start log first s now w before begins
  have steps := (State.turn_worker log first _ s now t w a before reached turn).1
  rw [Trace.worker_append] at steps
  obtain ⟨cleared, _, added⟩ := Worker.turn_cleared w a _ _ _ _ _ _ _ wf begun busy steps ended
    ((Trace.mem_worker w _ entries).mpr stopped)
  refine ⟨cleared, ?_, ?_⟩
  · intro envelope member blocking
    obtain ⟨addr, released⟩ := State.turn_released log first entries s now t w a before begins busy turn ended stopped envelope
      member blocking
    simp [State.step, State.recvResult, released]
  · intro id cell found
    rcases added id cell found with old | installed
    · exact Or.inl old
    · obtain ⟨all, same, children⟩ := State.children_run log first _ now t w a reached
        (State.children_begin log first s now w a (reach_calling _ log s before) begins) turn
      rw [← List.append_cancel_left same] at children
      exact Or.inr (children.installed id _ ((Trace.mem_worker w _ entries).mp installed))

-- Actor 1 has three messages, two of them of blocked sends, and actor 2 one.
def mailForTwo : List (Action numbers 1) :=
  spawnTwo ++ ([.send 0 7, .send 0 8, .worker 0 .pollControl, .worker 0 .drain, .worker 0 .drain, .worker 0 .drain,
    .worker 0 .drain, .worker 0 .drain] : List (Action numbers 1))

-- The handler of actor 1 spawns actor 3 and panics.
def spawnsAndPanics : List (Action numbers 1) :=
  [.ctxSpawn (.worker 0) () 4, .startedReturn 3 4, .handOver 3, .worker 0 (.handlerPanic 9), .worker 0 .hookReturn]

def spawnsAndPanicsLog : Trace numbers 1 :=
  [.at 0 (.handling ⟨1, (), 5, false, 0⟩), .starting 3 0 (some 1), .started 3, .at 0 (.installed 3 ()),
    .at 0 (.panicked ⟨1, (), 5, false, 0⟩), .at 0 (.stopping 1 ⟨(), 9⟩), .at 0 (.stopped 1),
    .at 0 (.dropped ⟨1, (), 7, true, 2⟩), .at 0 (.dropped ⟨1, (), 8, true, 3⟩)]

-- A worker whose scheduler holds two messages for actor 1 and one for actor 2.
def twoQueued : Worker numbers 1 :=
  { Worker.start 0 with
    actorMap := ((∅ : ActorMap numbers).insert 2 ⟨⟨(), 0⟩, ()⟩).insert 1 ⟨⟨(), 0⟩, ()⟩
    scheduler := ((Scheduler.new.enqueue ⟨1, (), 5, false, 0⟩).enqueue ⟨2, (), 6, false, 1⟩).enqueue ⟨1, (), 7, false, 2⟩
    phase := .turn }

def twoQueuedLog : Log numbers :=
  [.handling ⟨1, (), 5, false, 0⟩, .panicked ⟨1, (), 5, false, 0⟩, .stopping 1 ⟨(), 9⟩, .stopped 1,
    .dropped ⟨1, (), 7, false, 2⟩]

theorem turn_isolated_panic :
    (∃ now t : Worker numbers 1, Worker.Cleared 1 twoQueued t ∧
      (∀ envelope ∈ now.scheduler.mailbox 1, .dropped envelope ∈ twoQueuedLog) ∧ now.scheduler.mailbox 1 ≠ []) ∧
    ∃ s t : State numbers 1, (runtime numbers 1).last (State.withThreads numbers 1) mailForTwo = s ∧
      (s.workers 0).scheduler.readyQueue = [1, 2] ∧ (t.workers 0).scheduler.readyQueue = [2] ∧
      Worker.Cleared 1 (s.workers 0) (t.workers 0) ∧
      t.step (.recvResult 3) = some (t.setSend 3 (.returned (.error .actorNotRunning)), []) ∧
      ∃ cell, (t.workers 0).actorMap.lookup 3 = some cell := by
  constructor
  · have wf : twoQueued.scheduler.Wf := by
      unfold twoQueued
      exact Scheduler.wf_enqueue _ _ (Scheduler.wf_enqueue _ _ (Scheduler.wf_enqueue _ _ Scheduler.wf_new))
    have steps := (Worker.machine numbers (0 : Fin 1)).run_runs_rely (Worker.inTurn 1 twoQueued)
      ([] ++ [(.handling ⟨1, (), 5, false, 0⟩ : Event numbers)]) ([] ++ twoQueuedLog)
      ((Worker.machine numbers (0 : Fin 1)).last twoQueued [Worker.Act.own 0 .runTurn])
      ((Worker.machine numbers (0 : Fin 1)).last twoQueued
        [Worker.Act.own 0 .runTurn, .own 0 (.handlerPanic 9), .own 0 .hookReturn])
      [.own 0 (.handlerPanic 9), .own 0 .hookReturn] rfl ⟨⟨rfl, trivial⟩, ⟨rfl, trivial⟩, trivial⟩
    obtain ⟨cleared, dropped, _⟩ := (turn_isolated (n := 1)).1 0 1 _ _ _ 0 [] _ _ wf rfl rfl steps rfl
      (by simp [twoQueuedLog])
    exact ⟨_, _, cleared, dropped, by decide⟩
  · have before := Machine.run_reach (runtime numbers 1) ((runtime numbers 1).history (State.withThreads numbers 1) mailForTwo)
      (State.withThreads numbers 1) ((runtime numbers 1).last (State.withThreads numbers 1) mailForTwo) mailForTwo rfl rfl
    have run := (runtime numbers 1).run_runs_rely (State.during 0 1)
      ((runtime numbers 1).history (State.withThreads numbers 1) mailForTwo ++
        [(.at 0 (.handling ⟨1, (), 5, false, 0⟩) : Entry numbers 1)])
      ((runtime numbers 1).history (State.withThreads numbers 1) mailForTwo ++ spawnsAndPanicsLog)
      ((runtime numbers 1).last (State.withThreads numbers 1) (mailForTwo ++ [Action.worker 0 .runTurn]))
      ((runtime numbers 1).last (State.withThreads numbers 1) (mailForTwo ++ Action.worker 0 .runTurn :: spawnsAndPanics))
      spawnsAndPanics rfl
      (Machine.allowed_checked _ _ (fun s _ => decide ((s.workers 0).phase.serving = some 1)) (fun _ _ _ => of_decide_eq_true)
        _ _ _ rfl)
    obtain ⟨cleared, released, _⟩ := turn_isolated.2 _ _ _ _ _ _ 0 1 before rfl rfl run rfl (by simp [spawnsAndPanicsLog])
    exact ⟨_, _, rfl, rfl, rfl, cleared, released ⟨1, (), 8, true, 3⟩ (@List.mem_of_getElem? _ _ 1 _ rfl) rfl, _, rfl⟩

-- While actor 1 is served, another thread is in Runtime::spawn for actor 2,
-- and the started hook of actor 2 spawns actor 3 on the same worker.
def spawningMeanwhile : List (Action numbers 1) :=
  spawnOne ++ ([.doSend 0 5, .spawn () 0, .spawnPick 2, .worker 0 .pollControl, .worker 0 .drain, .worker 0 .drain] :
    List (Action numbers 1))

def spawningMeanwhileLog : Trace numbers 1 :=
  [.starting 1 0 none, .started 1, .at 0 (.spawnSent 1 ()), .at 0 (.installed 1 ()), .at 0 (.confirmed 1),
    .at 0 (.accepted ⟨1, (), 5, false, 0⟩), .starting 2 0 none]

def hookSpawnsInTurn : List (Action numbers 1) :=
  [.ctxSpawn (.started 2) () 4, .startedReturn 3 4, .handOver 3, .worker 0 (.handlerPanic 9), .worker 0 .hookReturn]

def hookSpawnsInTurnLog : Trace numbers 1 :=
  [.at 0 (.handling ⟨1, (), 5, false, 0⟩), .starting 3 0 (some 2), .started 3, .at 0 (.installed 3 ()),
    .at 0 (.panicked ⟨1, (), 5, false, 0⟩), .at 0 (.stopping 1 ⟨(), 9⟩), .at 0 (.stopped 1)]

theorem turn_not_alone : ¬ ∀ (log first entries : Trace numbers 1) (s now t : State numbers 1) (w : Fin 1) (a : ActorId),
    (runtime numbers 1).Reach Machine.free log s → s.step (.worker w .runTurn) = some (now, first) →
    (now.workers w).phase.serving = some a →
    (runtime numbers 1).Runs (State.during w a) (log ++ first) now (log ++ entries) t →
    (t.workers w).phase.serving = none → .at w (.stopped a) ∈ entries →
    ∀ id cell, (t.workers w).actorMap.lookup id = some cell →
      (s.workers w).actorMap.lookup id = some cell ∨ .starting id w (some a) ∈ log ++ entries := by
  intro alone
  have before : (runtime numbers 1).Reach Machine.free spawningMeanwhileLog
      ((runtime numbers 1).last (State.withThreads numbers 1) spawningMeanwhile) :=
    Machine.run_reach (runtime numbers 1) _ _ _ spawningMeanwhile rfl rfl
  have run := (runtime numbers 1).run_runs_rely (State.during 0 1)
    (spawningMeanwhileLog ++ [(.at 0 (.handling ⟨1, (), 5, false, 0⟩) : Entry numbers 1)])
    (spawningMeanwhileLog ++ hookSpawnsInTurnLog)
    ((runtime numbers 1).last (State.withThreads numbers 1) (spawningMeanwhile ++ [Action.worker 0 .runTurn]))
    ((runtime numbers 1).last (State.withThreads numbers 1) (spawningMeanwhile ++ Action.worker 0 .runTurn :: hookSpawnsInTurn))
    hookSpawnsInTurn rfl
    (Machine.allowed_checked _ _ (fun s _ => decide ((s.workers 0).phase.serving = some 1)) (fun _ _ _ => of_decide_eq_true)
      _ _ _ rfl)
  rcases alone _ _ _ _ _ _ 0 1 before rfl rfl run rfl (by simp [hookSpawnsInTurnLog]) 3 ⟨⟨(), 4⟩, ()⟩ rfl with old | own
  · cases old
  · simp [spawningMeanwhileLog, hookSpawnsInTurnLog] at own

end Actinium
