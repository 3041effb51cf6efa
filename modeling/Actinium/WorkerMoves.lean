import Actinium.Worker

set_option autoImplicit false

namespace Actinium.Worker

variable {P : Program} {n : Nat}

def withMail (w : Worker P n) (mail : List (Message P)) : Worker P n :=
  { w with msgRx := { w.msgRx with queue := mail } }

def withControl (w : Worker P n) (msgs : List (ControlMsg P)) : Worker P n :=
  { w with controlRx := { w.controlRx with queue := msgs } }

-- What one step can do to a worker, with the guards it was taken under. Every
-- invariant below is proved by cases on this relation and on nothing else.
inductive Moves (w : Worker P n) : Act P → List (Event P) → Worker P n → Prop where
  | post (envelope : Message P) (alive : w.msgRx.receiver = true) :
      Moves w (.post envelope) [.accepted envelope] (w.withMail (w.msgRx.queue ++ [envelope]))
  | postControl (msg : ControlMsg P) (alive : w.controlRx.receiver = true) :
      Moves w (.postControl msg) [controlEvent msg] (w.withControl (w.controlRx.queue ++ [msg]))
  | direct (id : ActorId) (actor : AnyBox P) (onStop : P.Ty) :
      Moves w (.spawnActorDirect id actor onStop) [.installed id actor.ty]
        { w with actorMap := w.actorMap.insert id ⟨actor, onStop⟩ }
  | stopHandler (turn : ActorId) (envelope : Message P) (cell : ActorCell P) (ctx : Context (Fin n))
      (here : w.phase = .handling turn envelope cell ctx) :
      Moves w .stopCtx [] { w with phase := .handling turn envelope cell ctx.stop }
  | stopHook (id : ActorId) (cell : ActorCell P) (ctx : Context (Fin n)) (after : After)
      (here : w.phase = .stopping id cell ctx after) :
      Moves w .stopCtx [] { w with phase := .stopping id cell ctx.stop after }
  | pollSpawn (senders : Nat) (id : ActorId) (actor : AnyBox P) (onStop : P.Ty) (rest : List (ControlMsg P))
      (here : w.phase = .control) (queue : w.controlRx.queue = .spawnActor id actor onStop :: rest) :
      Moves w (.own senders .pollControl) [.installed id actor.ty]
        { w.withControl rest with actorMap := w.actorMap.insert id ⟨actor, onStop⟩, phase := .confirming id }
  | pollShutdown (senders : Nat) (rest : List (ControlMsg P)) (here : w.phase = .control)
      (queue : w.controlRx.queue = .shutdown :: rest) :
      Moves w (.own senders .pollControl) [.tookShutdown] { w.withControl rest with phase := .snapshot }
  | pollEmpty (senders : Nat) (here : w.phase = .control) (queue : w.controlRx.queue = []) :
      Moves w (.own senders .pollControl) [] { w with phase := .drain }
  | confirm (senders : Nat) (id : ActorId) (here : w.phase = .confirming id) :
      Moves w (.own senders .confirm) [.confirmed id] { w with phase := .control }
  | drain (senders : Nat) (envelope : Message P) (rest : List (Message P)) (here : w.phase = .drain)
      (queue : w.msgRx.queue = envelope :: rest) :
      Moves w (.own senders .drain) [] { w.withMail rest with scheduler := w.scheduler.enqueue envelope }
  | drained (senders : Nat) (here : w.phase = .drain) (queue : w.msgRx.queue = []) :
      Moves w (.own senders .drain) [] { w with phase := .turn }
  | receive (senders : Nat) (envelope : Message P) (rest : List (Message P)) (here : w.phase = .idle)
      (queue : w.msgRx.queue = envelope :: rest) :
      Moves w (.own senders .recvTimeout) []
        { w.withMail rest with scheduler := w.scheduler.enqueue envelope, phase := .control }
  | disconnected (senders : Nat) (here : w.phase = .idle) (queue : w.msgRx.queue = []) (none : senders = 0) :
      Moves w (.own senders .recvTimeout) [] { w with phase := .snapshot }
  | timeout (senders : Nat) (here : w.phase = .idle) (queue : w.msgRx.queue = []) (some : senders ≠ 0) :
      Moves w (.own senders .recvTimeout) [] { w with phase := .control }
  | idle (senders : Nat) (scheduler : Scheduler (Delivery P)) (here : w.phase = .turn)
      (next : w.scheduler.nextReady = (none, scheduler)) :
      Moves w (.own senders .runTurn) [] { w with scheduler := scheduler, phase := .idle }
  | nothing (senders : Nat) (turn : ActorId) (popped scheduler : Scheduler (Delivery P)) (here : w.phase = .turn)
      (next : w.scheduler.nextReady = (some turn, popped)) (dequeued : popped.dequeue turn = (none, scheduler)) :
      Moves w (.own senders .runTurn) [] { w with scheduler := scheduler, phase := .control }
  | missing (senders : Nat) (turn : ActorId) (popped scheduler : Scheduler (Delivery P)) (envelope : Message P)
      (here : w.phase = .turn) (next : w.scheduler.nextReady = (some turn, popped))
      (dequeued : popped.dequeue turn = (some envelope, scheduler))
      (absent : w.actorMap.lookup envelope.actorId = none) :
      Moves w (.own senders .runTurn) [.dropped envelope] ({ w with scheduler := scheduler }.endTurn turn)
  | handle (senders : Nat) (turn : ActorId) (popped scheduler : Scheduler (Delivery P)) (envelope : Message P)
      (cell : ActorCell P) (here : w.phase = .turn) (next : w.scheduler.nextReady = (some turn, popped))
      (dequeued : popped.dequeue turn = (some envelope, scheduler))
      (present : w.actorMap.lookup envelope.actorId = some cell) (typed : cell.actor.ty = envelope.dispatch.ty) :
      Moves w (.own senders .runTurn) [.handling envelope]
        { w with
          scheduler := scheduler
          actorMap := w.actorMap.erase envelope.actorId
          phase := .handling turn envelope cell (.withSpawner envelope.actorId w.workerIdx) }
  | mismatch (senders : Nat) (turn : ActorId) (popped scheduler : Scheduler (Delivery P)) (envelope : Message P)
      (cell : ActorCell P) (here : w.phase = .turn) (next : w.scheduler.nextReady = (some turn, popped))
      (dequeued : popped.dequeue turn = (some envelope, scheduler))
      (present : w.actorMap.lookup envelope.actorId = some cell) (untyped : cell.actor.ty ≠ envelope.dispatch.ty) :
      Moves w (.own senders .runTurn)
        (.mismatched envelope :: (w.beginStop envelope.actorId cell (.turn turn)).2)
        ({ w with scheduler := scheduler, actorMap := w.actorMap.erase envelope.actorId }.beginStop
          envelope.actorId cell (.turn turn)).1
  | handlerReturn (senders : Nat) (turn : ActorId) (envelope : Message P) (cell : ActorCell P) (ctx : Context (Fin n))
      (val : P.Val) (reply : P.Reply) (here : w.phase = .handling turn envelope cell ctx) :
      Moves w (.own senders (.handlerReturn val reply)) [.handled envelope reply]
        { w with phase := .handled turn envelope.actorId (cell.write val) ctx.isRunning }
  | handlerPanic (senders : Nat) (turn : ActorId) (envelope : Message P) (cell : ActorCell P) (ctx : Context (Fin n))
      (val : P.Val) (here : w.phase = .handling turn envelope cell ctx) :
      Moves w (.own senders (.handlerPanic val))
        (.panicked envelope :: (w.beginStop envelope.actorId (cell.write val) (.turn turn)).2)
        (w.beginStop envelope.actorId (cell.write val) (.turn turn)).1
  | putBack (senders : Nat) (turn id : ActorId) (cell : ActorCell P) (here : w.phase = .handled turn id cell true) :
      Moves w (.own senders .settle) [] ({ w with actorMap := w.actorMap.insert id cell }.endTurn turn)
  | stop (senders : Nat) (turn id : ActorId) (cell : ActorCell P) (here : w.phase = .handled turn id cell false) :
      Moves w (.own senders .settle) (w.beginStop id cell (.turn turn)).2 (w.beginStop id cell (.turn turn)).1
  | hookReturn (senders : Nat) (id : ActorId) (cell : ActorCell P) (ctx : Context (Fin n)) (after : After)
      (here : w.phase = .stopping id cell ctx after) (typed : cell.actor.ty = cell.onStop) :
      Moves w (.own senders .hookReturn) (.stopped id :: (w.finishStop id after).2) (w.finishStop id after).1
  | hookSkip (senders : Nat) (id : ActorId) (cell : ActorCell P) (ctx : Context (Fin n)) (after : After)
      (here : w.phase = .stopping id cell ctx after) (untyped : cell.actor.ty ≠ cell.onStop) :
      Moves w (.own senders .hookReturn) (w.finishStop id after).2 (w.finishStop id after).1
  | hookPanic (senders : Nat) (id : ActorId) (cell : ActorCell P) (ctx : Context (Fin n)) (after : After)
      (here : w.phase = .stopping id cell ctx after) (typed : cell.actor.ty = cell.onStop) :
      Moves w (.own senders .hookPanic) [.stopPanicked id] { w with phase := .dropControl true }
  | snapshot (senders : Nat) (ids : List ActorId) (here : w.phase = .snapshot) (keys : ids.Perm w.actorMap.keys) :
      Moves w (.own senders (.takeSnapshot ids)) [.snapshot ids] { w with phase := .stopAll ids }
  | stopDone (senders : Nat) (here : w.phase = .stopAll []) :
      Moves w (.own senders .stopNext) [] { w with phase := .dropControl false }
  | stopGone (senders : Nat) (id : ActorId) (ids : List ActorId) (here : w.phase = .stopAll (id :: ids))
      (absent : w.actorMap.lookup id = none) :
      Moves w (.own senders .stopNext) (w.finishStop id (.stopAll ids)).2 (w.finishStop id (.stopAll ids)).1
  | stopNext (senders : Nat) (id : ActorId) (ids : List ActorId) (cell : ActorCell P)
      (here : w.phase = .stopAll (id :: ids)) (present : w.actorMap.lookup id = some cell) :
      Moves w (.own senders .stopNext) (w.beginStop id cell (.stopAll ids)).2
        ({ w with actorMap := w.actorMap.erase id }.beginStop id cell (.stopAll ids)).1
  | dropControl (senders : Nat) (panicked : Bool) (here : w.phase = .dropControl panicked) :
      Moves w (.own senders .exit) (refusals w.controlRx.queue)
        { w with controlRx := w.controlRx.dropReceiver, phase := .dropMsgs panicked }
  | dropMsgs (senders : Nat) (panicked : Bool) (here : w.phase = .dropMsgs panicked) :
      Moves w (.own senders .exit) (w.msgRx.queue.map .dropped)
        { w with msgRx := w.msgRx.dropReceiver, phase := .dropScheduler panicked }
  | dropScheduler (senders : Nat) (panicked : Bool) (here : w.phase = .dropScheduler panicked) :
      Moves w (.own senders .exit) ((queued w.scheduler).map .dropped)
        { w with scheduler := .new, phase := .ended panicked }

theorem downcast_some (box : AnyBox P) (ty : P.Ty) (val : P.Val) (found : box.downcast ty = some val) : box.ty = ty := by
  unfold AnyBox.downcast at found
  split at found
  · assumption
  · cases found

theorem downcast_none (box : AnyBox P) (ty : P.Ty) (missed : box.downcast ty = none) : box.ty ≠ ty := by
  intro same
  simp [AnyBox.downcast, same] at missed

theorem own_step_moves (w next : Worker P n) (senders : Nat) (act : Own P) (events : List (Event P))
    (taken : w.ownStep senders act = some (next, events)) : Moves w (.own senders act) events next := by
  cases act with
  | pollControl =>
      simp only [ownStep, pollControl] at taken
      split at taken
      · rename_i here
        split at taken
        · rename_i id actor onStop rx received
          cases taken
          obtain ⟨queue, same⟩ := Channel.try_recv_inv _ _ _ received
          have shape : rx = { w.controlRx with queue := rx.queue } := by cases rx; simp_all
          rw [shape]
          exact .pollSpawn senders id actor onStop rx.queue here queue
        · rename_i rx received
          cases taken
          obtain ⟨queue, same⟩ := Channel.try_recv_inv _ _ _ received
          have shape : rx = { w.controlRx with queue := rx.queue } := by cases rx; simp_all
          rw [shape]
          exact .pollShutdown senders rx.queue here queue
        · rename_i empty
          cases taken
          exact .pollEmpty senders here ((Channel.try_recv_none _).mp empty)
      · cases taken
  | confirm =>
      simp only [ownStep, confirm] at taken
      split at taken
      · rename_i id here
        cases taken
        exact .confirm senders id here
      · cases taken
  | drain =>
      simp only [ownStep, drain] at taken
      split at taken
      · rename_i here
        split at taken
        · rename_i envelope rx received
          cases taken
          obtain ⟨queue, same⟩ := Channel.try_recv_inv _ _ _ received
          have shape : rx = { w.msgRx with queue := rx.queue } := by cases rx; simp_all
          rw [shape]
          exact .drain senders envelope rx.queue here queue
        · rename_i empty
          cases taken
          exact .drained senders here ((Channel.try_recv_none _).mp empty)
      · cases taken
  | recvTimeout =>
      simp only [ownStep, recvTimeout] at taken
      split at taken
      · rename_i here
        split at taken
        · rename_i envelope rx received
          cases taken
          obtain ⟨queue, same⟩ := Channel.try_recv_inv _ _ _ received
          have shape : rx = { w.msgRx with queue := rx.queue } := by cases rx; simp_all
          rw [shape]
          exact .receive senders envelope rx.queue here queue
        · rename_i empty
          have queue := (Channel.try_recv_none _).mp empty
          split at taken
          · rename_i none
            cases taken
            exact .disconnected senders here queue none
          · rename_i some
            cases taken
            exact .timeout senders here queue some
      · cases taken
  | runTurn =>
      simp only [ownStep, runTurn] at taken
      split at taken
      · rename_i here
        split at taken
        · rename_i scheduler next
          cases taken
          exact .idle senders scheduler here next
        · rename_i turn popped next
          split at taken
          · rename_i scheduler dequeued
            cases taken
            exact .nothing senders turn popped scheduler here next dequeued
          · rename_i envelope scheduler dequeued
            simp only [dispatch, Option.some.injEq] at taken
            split at taken
            · rename_i absent
              cases taken
              exact .missing senders turn popped scheduler envelope here next dequeued absent
            · rename_i cell present
              split at taken
              · rename_i val found
                cases taken
                exact .handle senders turn popped scheduler envelope cell here next dequeued present
                  (downcast_some _ _ val found)
              · rename_i missed
                cases taken
                exact .mismatch senders turn popped scheduler envelope cell here next dequeued present
                  (downcast_none _ _ missed)
      · cases taken
  | handlerReturn val reply =>
      simp only [ownStep, handlerReturn] at taken
      split at taken
      · rename_i turn envelope cell ctx here
        cases taken
        exact .handlerReturn senders turn envelope cell ctx val reply here
      · cases taken
  | handlerPanic val =>
      simp only [ownStep, handlerPanic] at taken
      split at taken
      · rename_i turn envelope cell ctx here
        cases taken
        exact .handlerPanic senders turn envelope cell ctx val here
      · cases taken
  | settle =>
      simp only [ownStep, settle] at taken
      split at taken
      · rename_i turn id cell here
        cases taken
        exact .putBack senders turn id cell here
      · rename_i turn id cell here
        cases taken
        exact .stop senders turn id cell here
      · cases taken
  | hookReturn =>
      simp only [ownStep, hookReturn] at taken
      split at taken
      · rename_i id cell ctx after here
        split at taken
        · rename_i val found
          cases taken
          exact .hookReturn senders id cell ctx after here (downcast_some _ _ val found)
        · rename_i missed
          cases taken
          exact .hookSkip senders id cell ctx after here (downcast_none _ _ missed)
      · cases taken
  | hookPanic =>
      simp only [ownStep, hookPanic] at taken
      split at taken
      · rename_i id cell ctx after here
        split at taken
        · rename_i val found
          cases taken
          exact .hookPanic senders id cell ctx after here (downcast_some _ _ val found)
        · cases taken
      · cases taken
  | takeSnapshot ids =>
      simp only [ownStep, takeSnapshot] at taken
      split at taken
      · rename_i here
        split at taken
        · rename_i keys
          cases taken
          exact .snapshot senders ids here keys
        · cases taken
      · cases taken
  | stopNext =>
      simp only [ownStep, stopNext] at taken
      split at taken
      · rename_i here
        cases taken
        exact .stopDone senders here
      · rename_i id ids here
        split at taken
        · rename_i absent
          cases taken
          exact .stopGone senders id ids here absent
        · rename_i cell present
          cases taken
          exact .stopNext senders id ids cell here present
      · cases taken
  | exit =>
      simp only [ownStep, exit] at taken
      split at taken
      · rename_i panicked here
        cases taken
        exact .dropControl senders panicked here
      · rename_i panicked here
        cases taken
        exact .dropMsgs senders panicked here
      · rename_i panicked here
        cases taken
        exact .dropScheduler senders panicked here
      · cases taken

theorem step_moves (w next : Worker P n) (act : Act P) (events : List (Event P))
    (taken : w.step act = some (next, events)) : Moves w act events next := by
  cases act with
  | post envelope =>
      simp only [step, post, Option.map_eq_some_iff] at taken
      obtain ⟨rx, sent, same⟩ := taken
      obtain ⟨alive, shape⟩ := Channel.send_inv _ _ _ sent
      cases same
      rw [shape]
      exact .post envelope alive
  | postControl msg =>
      simp only [step, postControl, Option.map_eq_some_iff] at taken
      obtain ⟨rx, sent, same⟩ := taken
      obtain ⟨alive, shape⟩ := Channel.send_inv _ _ _ sent
      cases same
      rw [shape]
      exact .postControl msg alive
  | spawnActorDirect id actor onStop =>
      simp only [step, spawnActorDirect, Option.some.injEq] at taken
      cases taken
      exact .direct id actor onStop
  | stopCtx =>
      simp only [step, stopCtx] at taken
      split at taken
      · rename_i turn envelope cell ctx here
        cases taken
        exact .stopHandler turn envelope cell ctx here
      · rename_i id cell ctx after here
        cases taken
        exact .stopHook id cell ctx after here
      · cases taken
  | own senders act => exact own_step_moves w next senders act events taken

end Actinium.Worker
