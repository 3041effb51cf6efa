import Actinium.Lib.Machine
import Actinium.Lib.Channel
import Actinium.Scheduler

set_option autoImplicit false

namespace Actinium

-- The confirm sender of SpawnActor belongs to the call that allocated the id.
inductive ControlMsg (P : Program) where
  | spawnActor (id : ActorId) (actor : AnyBox P) (onStop : P.Ty)
  | shutdown

abbrev ActorMap (P : Program) := AList (fun _ : ActorId => ActorCell P)

-- Where control goes when an on_stop closure returns: to the end of the turn
-- that dispatch was called in, or to the rest of the ids of stop_all_actors.
inductive After where
  | turn (id : ActorId)
  | stopAll (ids : List ActorId)

-- The program counter of a worker thread.
inductive Phase (P : Program) (n : Nat) where
  | control
  | confirming (id : ActorId)
  | drain
  | turn
  | idle
  | handling (turn : ActorId) (envelope : Message P) (cell : ActorCell P) (ctx : Context (Fin n))
  | handled (turn id : ActorId) (cell : ActorCell P) (running : Bool)
  | stopping (id : ActorId) (cell : ActorCell P) (ctx : Context (Fin n)) (after : After)
  | snapshot
  | stopAll (ids : List ActorId)
  | dropControl (panicked : Bool)
  | dropMsgs (panicked : Bool)
  | dropScheduler (panicked : Bool)
  | ended (panicked : Bool)

structure Worker (P : Program) (n : Nat) where
  controlRx : Channel (ControlMsg P)
  msgRx : Channel (Message P)
  actorMap : ActorMap P
  scheduler : Scheduler (Delivery P)
  workerIdx : Fin n
  phase : Phase P n

inductive Event (P : Program) where
  -- at the channels and the map, by any thread
  | accepted (envelope : Message P)
  | spawnSent (id : ActorId) (ty : P.Ty)
  | shutdownSent
  | installed (id : ActorId) (ty : P.Ty)
  -- by the worker
  | confirmed (id : ActorId)
  | refused (id : ActorId)
  | tookShutdown
  | handling (envelope : Message P)
  | handled (envelope : Message P) (reply : P.Reply)
  | panicked (envelope : Message P)
  | mismatched (envelope : Message P)
  | dropped (envelope : Message P)
  | stopping (id : ActorId) (actor : AnyBox P)
  | stopSkipped (id : ActorId)
  | stopped (id : ActorId)
  | stopPanicked (id : ActorId)
  | snapshot (ids : List ActorId)

namespace Worker

variable {P : Program} {n : Nat}

abbrev Outcome (P : Program) (n : Nat) := Worker P n × List (Event P)

def start (workerIdx : Fin n) : Worker P n := ⟨.new, .new, ∅, .new, workerIdx, .control⟩

-- The steps of other threads on what they share with the worker.

def post (w : Worker P n) (envelope : Message P) : Option (Outcome P n) :=
  (w.msgRx.send envelope).map fun rx => ({ w with msgRx := rx }, [.accepted envelope])

def controlEvent : ControlMsg P → Event P
  | .spawnActor id actor _ => .spawnSent id actor.ty
  | .shutdown => .shutdownSent

def postControl (w : Worker P n) (msg : ControlMsg P) : Option (Outcome P n) :=
  (w.controlRx.send msg).map fun rx => ({ w with controlRx := rx }, [controlEvent msg])

def spawnActorDirect (w : Worker P n) (id : ActorId) (actor : AnyBox P) (onStop : P.Ty) : Outcome P n :=
  ({ w with actorMap := w.actorMap.insert id ⟨actor, onStop⟩ }, [.installed id actor.ty])

-- ctx.stop() in the callback the worker is running.
def stopCtx (w : Worker P n) : Option (Outcome P n) :=
  match w.phase with
  | .handling turn envelope cell ctx => some ({ w with phase := .handling turn envelope cell ctx.stop }, [])
  | .stopping id cell ctx after => some ({ w with phase := .stopping id cell ctx.stop after }, [])
  | _ => none

-- The steps of the worker itself.

def pollControl (w : Worker P n) : Option (Outcome P n) :=
  match w.phase with
  | .control =>
      match w.controlRx.tryRecv with
      | some (.spawnActor id actor onStop, rx) =>
          some ({ w with
            controlRx := rx
            actorMap := w.actorMap.insert id ⟨actor, onStop⟩
            phase := .confirming id }, [.installed id actor.ty])
      | some (.shutdown, rx) => some ({ w with controlRx := rx, phase := .snapshot }, [.tookShutdown])
      | none => some ({ w with phase := .drain }, [])
  | _ => none

def confirm (w : Worker P n) : Option (Outcome P n) :=
  match w.phase with
  | .confirming id => some ({ w with phase := .control }, [.confirmed id])
  | _ => none

def drain (w : Worker P n) : Option (Outcome P n) :=
  match w.phase with
  | .drain =>
      match w.msgRx.tryRecv with
      | some (envelope, rx) => some ({ w with msgRx := rx, scheduler := w.scheduler.enqueue envelope }, [])
      | none => some ({ w with phase := .turn }, [])
  | _ => none

-- recv_timeout, given how many senders of the message channel are alive.
def recvTimeout (senders : Nat) (w : Worker P n) : Option (Outcome P n) :=
  match w.phase with
  | .idle =>
      match w.msgRx.tryRecv with
      | some (envelope, rx) =>
          some ({ w with msgRx := rx, scheduler := w.scheduler.enqueue envelope, phase := .control }, [])
      | none =>
          if senders = 0 then some ({ w with phase := .snapshot }, [])
          else some ({ w with phase := .control }, [])
  | _ => none

def endTurn (w : Worker P n) (turn : ActorId) : Worker P n :=
  { w with scheduler := w.scheduler.requeueIfReady turn, phase := .control }

-- (cell.on_stop)(cell.actor.as_mut(), &mut ctx): on a failed downcast the
-- closure returns without calling the stopped hook.
def beginStop (w : Worker P n) (id : ActorId) (cell : ActorCell P) (after : After) : Outcome P n :=
  ({ w with phase := .stopping id cell (.withSpawner id w.workerIdx) after },
    match cell.actor.downcast cell.onStop with
    | some _ => [.stopping id cell.actor]
    | none => [.stopSkipped id])

-- self.scheduler.remove_actor(id), which drops the mail of the actor.
def finishStop (w : Worker P n) (id : ActorId) (after : After) : Outcome P n :=
  let removed := { w with scheduler := w.scheduler.removeActor id }
  (match after with
    | .turn turn => removed.endTurn turn
    | .stopAll ids => { removed with phase := .stopAll ids },
    (w.scheduler.mailbox id).map .dropped)

def dispatch (w : Worker P n) (turn : ActorId) (envelope : Message P) : Outcome P n :=
  let actorId := envelope.actorId
  match w.actorMap.lookup actorId with
  | none => (w.endTurn turn, [.dropped envelope])
  | some cell =>
      let taken := { w with actorMap := w.actorMap.erase actorId }
      match cell.actor.downcast envelope.dispatch.ty with
      | some _ =>
          ({ taken with phase := .handling turn envelope cell (.withSpawner actorId w.workerIdx) },
            [.handling envelope])
      | none =>
          -- expect("actor type mismatch ...") panics inside catch_unwind
          let result := taken.beginStop actorId cell (.turn turn)
          (result.1, .mismatched envelope :: result.2)

def runTurn (w : Worker P n) : Option (Outcome P n) :=
  match w.phase with
  | .turn =>
      match w.scheduler.nextReady with
      | (none, scheduler) => some ({ w with scheduler := scheduler, phase := .idle }, [])
      | (some actorId, popped) =>
          match popped.dequeue actorId with
          | (none, scheduler) => some ({ w with scheduler := scheduler, phase := .control }, [])
          | (some envelope, scheduler) => some ({ w with scheduler := scheduler }.dispatch actorId envelope)
  | _ => none

-- The handler returns: the closure passes the reply to the reply channel,
-- and catch_unwind yields ctx.is_running().
def handlerReturn (w : Worker P n) (val : P.Val) (reply : P.Reply) : Option (Outcome P n) :=
  match w.phase with
  | .handling turn envelope cell ctx =>
      some ({ w with phase := .handled turn envelope.actorId (cell.write val) ctx.isRunning },
        [.handled envelope reply])
  | _ => none

-- The handler panics: unwinding drops the closure, with what it captured.
def handlerPanic (w : Worker P n) (val : P.Val) : Option (Outcome P n) :=
  match w.phase with
  | .handling turn envelope cell _ =>
      let result := w.beginStop envelope.actorId (cell.write val) (.turn turn)
      some (result.1, .panicked envelope :: result.2)
  | _ => none

def settle (w : Worker P n) : Option (Outcome P n) :=
  match w.phase with
  | .handled turn id cell true => some ({ w with actorMap := w.actorMap.insert id cell }.endTurn turn, [])
  | .handled turn id cell false => some (w.beginStop id cell (.turn turn))
  | _ => none

def hookReturn (w : Worker P n) : Option (Outcome P n) :=
  match w.phase with
  | .stopping id cell _ after =>
      let result := w.finishStop id after
      match cell.actor.downcast cell.onStop with
      | some _ => some (result.1, .stopped id :: result.2)
      | none => some result
  | _ => none

-- No catch_unwind stands around on_stop: the panic unwinds out of Worker::run.
def hookPanic (w : Worker P n) : Option (Outcome P n) :=
  match w.phase with
  | .stopping id cell _ _ =>
      match cell.actor.downcast cell.onStop with
      | some _ => some ({ w with phase := .dropControl true }, [.stopPanicked id])
      | none => none
  | _ => none

-- The keys of the map, in the unspecified order of a HashMap.
def takeSnapshot (w : Worker P n) (ids : List ActorId) : Option (Outcome P n) :=
  match w.phase with
  | .snapshot => if ids.Perm w.actorMap.keys then some ({ w with phase := .stopAll ids }, [.snapshot ids]) else none
  | _ => none

def stopNext (w : Worker P n) : Option (Outcome P n) :=
  match w.phase with
  | .stopAll [] => some ({ w with phase := .dropControl false }, [])
  | .stopAll (id :: ids) =>
      match w.actorMap.lookup id with
      | none => some (w.finishStop id (.stopAll ids))
      | some cell => some ({ w with actorMap := w.actorMap.erase id }.beginStop id cell (.stopAll ids))
  | _ => none

def refusals : List (ControlMsg P) → List (Event P)
  | [] => []
  | .spawnActor id _ _ :: rest => .refused id :: refusals rest
  | .shutdown :: rest => refusals rest

def queued (s : Scheduler (Delivery P)) : List (Message P) := s.mailboxes.entries.flatMap (fun entry => entry.2)

-- The worker is dropped field by field, in the order of declaration.
def exit (w : Worker P n) : Option (Outcome P n) :=
  match w.phase with
  | .dropControl panicked =>
      some ({ w with controlRx := w.controlRx.dropReceiver, phase := .dropMsgs panicked }, refusals w.controlRx.queue)
  | .dropMsgs panicked =>
      some ({ w with msgRx := w.msgRx.dropReceiver, phase := .dropScheduler panicked }, w.msgRx.queue.map .dropped)
  | .dropScheduler panicked =>
      some ({ w with scheduler := .new, phase := .ended panicked }, (queued w.scheduler).map .dropped)
  | _ => none

-- A step of the worker thread. The callbacks are user code: what they return,
-- and whether they return at all, is part of the step.
inductive Own (P : Program) where
  | pollControl
  | confirm
  | drain
  | recvTimeout
  | runTurn
  | handlerReturn (val : P.Val) (reply : P.Reply)
  | handlerPanic (val : P.Val)
  | settle
  | hookReturn
  | hookPanic
  | takeSnapshot (ids : List ActorId)
  | stopNext
  | exit

def ownStep (senders : Nat) (w : Worker P n) : Own P → Option (Outcome P n)
  | .pollControl => w.pollControl
  | .confirm => w.confirm
  | .drain => w.drain
  | .recvTimeout => w.recvTimeout senders
  | .runTurn => w.runTurn
  | .handlerReturn val reply => w.handlerReturn val reply
  | .handlerPanic val => w.handlerPanic val
  | .settle => w.settle
  | .hookReturn => w.hookReturn
  | .hookPanic => w.hookPanic
  | .takeSnapshot ids => w.takeSnapshot ids
  | .stopNext => w.stopNext
  | .exit => w.exit

-- Everything that can happen to one worker.
inductive Act (P : Program) where
  | post (envelope : Message P)
  | postControl (msg : ControlMsg P)
  | spawnActorDirect (id : ActorId) (actor : AnyBox P) (onStop : P.Ty)
  | stopCtx
  | own (senders : Nat) (act : Own P)

def step (w : Worker P n) : Act P → Option (Outcome P n)
  | .post envelope => w.post envelope
  | .postControl msg => w.postControl msg
  | .spawnActorDirect id actor onStop => some (w.spawnActorDirect id actor onStop)
  | .stopCtx => w.stopCtx
  | .own senders act => w.ownStep senders act

def machine (P : Program) {n : Nat} (workerIdx : Fin n) : Machine (Worker P n) (Act P) (Event P) where
  init := fun w => w = start workerIdx
  step := step

end Worker

end Actinium
