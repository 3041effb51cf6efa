import Actinium.Worker
import Mathlib.Data.List.FinRange
import Mathlib.Logic.Function.Basic

set_option autoImplicit false

namespace Actinium

-- Addr<A>: the id, the worker whose message channel tx belongs to, and A.
structure Addr (P : Program) (n : Nat) where
  actorId : ActorId
  tx : Fin n
  ty : P.Ty

inductive SendError where
  | actorNotRunning
  | runtimeShutdown
deriving DecidableEq

-- A blocking send is its reply channel: nothing yet, the reply, or a closed
-- channel, until recv returns and the call with it.
inductive SendState (P : Program) where
  | waiting
  | replied (reply : P.Reply)
  | hungUp
  | returned (result : Except SendError P.Reply)

structure SendCall (P : Program) (n : Nat) where
  addr : Addr P n
  state : SendState P

-- The running callback through whose Context a call is made.
inductive Caller (n : Nat) where
  | worker (w : Fin n)
  | started (id : ActorId)
deriving DecidableEq

inductive SpawnStage (P : Program) (n : Nat) where
  | allocated (val : P.Val)
  | starting (val : P.Val) (workerIdx : Fin n) (ctx : Context (Fin n))
  | started (val : P.Val) (workerIdx : Fin n)
  | confirming (workerIdx : Fin n)
  | confirmed (workerIdx : Fin n)
  | refused

-- A call of Runtime::spawn (no caller) or of Context::spawn in progress.
structure SpawnCall (P : Program) (n : Nat) where
  via : Option (Caller n)
  ty : P.Ty
  stage : SpawnStage P n

-- The thread that owns the Runtime. In run a panicked worker makes join fail,
-- in Drop the result of join is ignored.
inductive Owner where
  | owned
  | sleeping
  | shutting (k : Nat) (expects : Bool)
  | joining (k : Nat) (expects : Bool)
  | done (panicked : Bool)

structure State (P : Program) (n : Nat) where
  workers : Fin n → Worker P n
  nextId : Nat
  -- As with the ids, the model is of runs with fewer picks than wrap the usize.
  nextWorker : Nat
  calls : AList (fun _ : ActorId => SpawnCall P n)
  addrs : List (Addr P n)
  sends : Nat → Option (SendCall P n)
  nextSerial : Nat
  owner : Owner

-- The log of a run: what happened at which worker, the started hooks, and the
-- spawns that found the worker gone. The parent is the actor through whose
-- Context the child is spawned.
inductive Entry (P : Program) (n : Nat) where
  | at (w : Fin n) (event : Event P)
  | starting (id : ActorId) (w : Fin n) (parent : Option ActorId)
  | started (id : ActorId)
  | startPanicked (id : ActorId)
  | unsent (id : ActorId) (w : Fin n)

namespace State

variable {P : Program} {n : Nat}

abbrev Outcome (P : Program) (n : Nat) := State P n × List (Entry P n)

-- Runtime::with_threads
def withThreads (P : Program) (n : Nat) : State P n :=
  ⟨Worker.start, 1, 0, ∅, [], fun _ => none, 0, .owned⟩

def setSend (s : State P n) (serial : Nat) (state : SendState P) : State P n :=
  { s with sends := Function.update s.sends serial ((s.sends serial).map fun call => { call with state := state }) }

def setCall (s : State P n) (id : ActorId) (call : SpawnCall P n) : State P n :=
  { s with calls := s.calls.insert id call }

def endCall (s : State P n) (id : ActorId) : State P n := { s with calls := s.calls.erase id }

-- Addr::new(id, msg_tx) is what a spawn returns.
def returnAddr (s : State P n) (id : ActorId) (tx : Fin n) (ty : P.Ty) : State P n :=
  { s.endCall id with addrs := s.addrs ++ [⟨id, tx, ty⟩] }

-- The closure of a blocking send owns result_tx: a reply goes through it, and
-- dropping the closure closes the channel.
def settleSend (s : State P n) (envelope : Message P) (state : SendState P) : State P n :=
  if envelope.dispatch.resultTx then s.setSend envelope.dispatch.serial state else s

def settleSpawn (s : State P n) (id : ActorId) (confirmed : Bool) : State P n :=
  match s.calls.lookup id with
  | some ⟨via, ty, .confirming workerIdx⟩ =>
      s.setCall id ⟨via, ty, if confirmed then .confirmed workerIdx else .refused⟩
  | _ => s

-- What a worker's step does to the reply and confirm channels of the callers.
def deliver (s : State P n) : Event P → State P n
  | .handled envelope reply => s.settleSend envelope (.replied reply)
  | .panicked envelope => s.settleSend envelope .hungUp
  | .mismatched envelope => s.settleSend envelope .hungUp
  | .dropped envelope => s.settleSend envelope .hungUp
  | .confirmed id => s.settleSpawn id true
  | .refused id => s.settleSpawn id false
  | _ => s

def onWorker (s : State P n) (w : Fin n) (result : Worker.Outcome P n) : Outcome P n :=
  (result.2.foldl deliver { s with workers := Function.update s.workers w result.1 }, result.2.map (.at w))

-- allocate_id
def allocateId (s : State P n) : ActorId × State P n := (s.nextId, { s with nextId := s.nextId + 1 })

def pickWorker (s : State P n) : Option (Fin n × State P n) :=
  if h : 0 < n then some (⟨s.nextWorker % n, Nat.mod_lt _ h⟩, { s with nextWorker := s.nextWorker + 1 }) else none

def callbackCtx (s : State P n) : Caller n → Option (Context (Fin n))
  | .worker w =>
      match (s.workers w).phase with
      | .handling _ _ _ ctx => some ctx
      | .stopping _ cell ctx _ => (cell.actor.downcast cell.onStop).map fun _ => ctx
      | _ => none
  | .started id =>
      match s.calls.lookup id with
      | some ⟨_, _, .starting _ _ ctx⟩ => some ctx
      | _ => none

-- A callback waits for the spawn it made: its Context is borrowed by the call.
def blocked (s : State P n) (caller : Caller n) : Bool :=
  s.calls.entries.any fun entry => decide (entry.2.via = some caller)

-- Every Addr holds a sender of its worker's channel, and SpawnShared one of
-- each. It lives as long as the Runtime, a worker or a Context does.
def sharedAlive (s : State P n) : Bool :=
  (match s.owner with | .done _ => false | _ => true) ||
    (List.finRange n).any (fun w => match (s.workers w).phase with | .ended _ => false | _ => true) ||
    !s.calls.entries.isEmpty

def msgSenders (s : State P n) (w : Fin n) : Nat :=
  (s.addrs.filter fun addr => decide (addr.tx = w)).length + (if s.sharedAlive then 1 else 0)

def envelopeTo (s : State P n) (addr : Addr P n) (msg : P.Msg) (blocking : Bool) : Message P :=
  ⟨addr.actorId, ⟨addr.ty, msg, blocking, s.nextSerial⟩⟩

def beginSend (s : State P n) (addr : Addr P n) (blocking : Bool) (state : SendState P) : State P n :=
  { s with
    nextSerial := s.nextSerial + 1
    sends := if blocking then Function.update s.sends s.nextSerial (some ⟨addr, state⟩) else s.sends }

-- Addr::send up to the wait for the reply, and Addr::do_send
def post (s : State P n) (i : Nat) (msg : P.Msg) (blocking : Bool) : Option (Outcome P n) :=
  match s.addrs[i]? with
  | none => none
  | some addr =>
      match (s.workers addr.tx).post (s.envelopeTo addr msg blocking) with
      | none => some (s.beginSend addr blocking (.returned (.error .runtimeShutdown)), [])
      | some result => some ((s.beginSend addr blocking .waiting).onWorker addr.tx result)

-- result_rx.recv() in Addr::send
def recvResult (s : State P n) (serial : Nat) : Option (Outcome P n) :=
  match s.sends serial with
  | some ⟨_, .replied reply⟩ => some (s.setSend serial (.returned (.ok reply)), [])
  | some ⟨_, .hungUp⟩ => some (s.setSend serial (.returned (.error .actorNotRunning)), [])
  | _ => none

-- Runtime::spawn
def spawn (s : State P n) (ty : P.Ty) (val : P.Val) : Option (Outcome P n) :=
  match s.owner with
  | .owned =>
      let (id, s) := s.allocateId
      some (s.setCall id ⟨none, ty, .allocated val⟩, [])
  | _ => none

def spawnPick (s : State P n) (id : ActorId) : Option (Outcome P n) :=
  match s.calls.lookup id with
  | some ⟨via, ty, .allocated val⟩ =>
      s.pickWorker.map fun (workerIdx, s) =>
        (s.setCall id ⟨via, ty, .starting val workerIdx (.withSpawner id workerIdx)⟩, [.starting id workerIdx none])
  | _ => none

-- Context::spawn
def ctxSpawn (s : State P n) (via : Caller n) (ty : P.Ty) (val : P.Val) : Option (Outcome P n) :=
  if s.blocked via then none
  else
    match s.callbackCtx via with
    | some ⟨parent, _, some workerIdx⟩ =>
        let (id, s) := s.allocateId
        some (s.setCall id ⟨some via, ty, .starting val workerIdx (.withSpawner id workerIdx)⟩,
          [.starting id workerIdx (some parent)])
    | _ => none

-- ctx.stop()
def ctxStop (s : State P n) (via : Caller n) : Option (Outcome P n) :=
  if s.blocked via then none
  else
    match via with
    | .worker w => (s.workers w).stopCtx.map fun result => s.onWorker w result
    | .started id =>
        match s.calls.lookup id with
        | some ⟨via, ty, .starting val workerIdx ctx⟩ =>
            some (s.setCall id ⟨via, ty, .starting val workerIdx ctx.stop⟩, [])
        | _ => none

def startedReturn (s : State P n) (id : ActorId) (val : P.Val) : Option (Outcome P n) :=
  if s.blocked (.started id) then none
  else
    match s.calls.lookup id with
    | some ⟨via, ty, .starting _ workerIdx _⟩ => some (s.setCall id ⟨via, ty, .started val workerIdx⟩, [.started id])
    | _ => none

-- The panic leaves the spawn call. What the caller makes of it is the caller's.
def startedPanic (s : State P n) (id : ActorId) : Option (Outcome P n) :=
  if s.blocked (.started id) then none
  else
    match s.calls.lookup id with
    | some ⟨_, _, .starting _ _ _⟩ => some (s.endCall id, [.startPanicked id])
    | _ => none

-- spawn_actor_remote up to the send, and spawn_actor_direct. With the control
-- receiver gone the send fails, and expect panics out of Runtime::spawn.
def handOver (s : State P n) (id : ActorId) : Option (Outcome P n) :=
  match s.calls.lookup id with
  | some ⟨none, ty, .started val workerIdx⟩ =>
      match (s.workers workerIdx).postControl (.spawnActor id ⟨ty, val⟩ ty) with
      | none => some (s.endCall id, [.unsent id workerIdx])
      | some result => some ((s.setCall id ⟨none, ty, .confirming workerIdx⟩).onWorker workerIdx result)
  | some ⟨some _, ty, .started val workerIdx⟩ =>
      some ((s.returnAddr id workerIdx ty).onWorker workerIdx
        ((s.workers workerIdx).spawnActorDirect id ⟨ty, val⟩ ty))
  | _ => none

-- confirm_rx.recv() in spawn_actor_remote, and the return of Runtime::spawn
def spawnReturn (s : State P n) (id : ActorId) : Option (Outcome P n) :=
  match s.calls.lookup id with
  | some ⟨_, ty, .confirmed workerIdx⟩ => some (s.returnAddr id workerIdx ty, [])
  | some ⟨_, _, .refused⟩ => some (s.endCall id, [])
  | _ => none

-- One round of the loop in Runtime::shutdown, which ignores a failed send.
def sendShutdown (s : State P n) (w : Fin n) : Outcome P n :=
  match (s.workers w).postControl .shutdown with
  | none => (s, [])
  | some result => s.onWorker w result

-- Runtime::run takes the Runtime, so no Runtime::spawn is in progress.
def run (s : State P n) : Option (Outcome P n) :=
  match s.owner with
  | .owned =>
      if s.calls.entries.any (fun entry => decide (entry.2.via = none)) then none
      else some ({ s with owner := .sleeping }, [])
  | _ => none

-- Drop for Runtime: nothing ever clears shared.running.
def dropRuntime (s : State P n) : Option (Outcome P n) :=
  match s.owner with
  | .owned =>
      if s.calls.entries.any (fun entry => decide (entry.2.via = none)) then none
      else some ({ s with owner := .shutting 0 false }, [])
  | _ => none

-- The rest of run and of Drop: the sleep, shutdown(), and the joins.
def ownerStep (s : State P n) : Option (Outcome P n) :=
  match s.owner with
  | .sleeping => some ({ s with owner := .shutting 0 true }, [])
  | .shutting k expects =>
      if h : k < n then some ({ s with owner := .shutting (k + 1) expects }.sendShutdown ⟨k, h⟩)
      else some ({ s with owner := .joining 0 expects }, [])
  | .joining k expects =>
      if h : k < n then
        match (s.workers ⟨k, h⟩).phase with
        | .ended panicked =>
            some ({ s with owner := if panicked && expects then .done true else .joining (k + 1) expects }, [])
        | _ => none
      else some ({ s with owner := .done false }, [])
  | _ => none

-- The handler and the hooks of a worker end only when the spawn calls they
-- made have ended.
def endsCallback : Worker.Own P → Bool
  | .handlerReturn _ _ => true
  | .handlerPanic _ => true
  | .hookReturn => true
  | .hookPanic => true
  | _ => false

def workerStep (s : State P n) (w : Fin n) (act : Worker.Own P) : Option (Outcome P n) :=
  if endsCallback act && s.blocked (.worker w) then none
  else ((s.workers w).ownStep (s.msgSenders w) act).map fun result => s.onWorker w result

end State

-- One step of one thread. Users hold the addresses by their position.
inductive Action (P : Program) (n : Nat) where
  | cloneAddr (i : Nat)
  | dropAddr (i : Nat)
  | send (i : Nat) (msg : P.Msg)
  | doSend (i : Nat) (msg : P.Msg)
  | recvResult (serial : Nat)
  | spawn (ty : P.Ty) (val : P.Val)
  | spawnPick (id : ActorId)
  | ctxSpawn (via : Caller n) (ty : P.Ty) (val : P.Val)
  | ctxStop (via : Caller n)
  | startedReturn (id : ActorId) (val : P.Val)
  | startedPanic (id : ActorId)
  | handOver (id : ActorId)
  | spawnReturn (id : ActorId)
  | shutdown (w : Fin n)
  | run
  | dropRuntime
  | owner
  | worker (w : Fin n) (act : Worker.Own P)

namespace State

variable {P : Program} {n : Nat}

def step (s : State P n) : Action P n → Option (Outcome P n)
  | .cloneAddr i => s.addrs[i]?.map fun addr => ({ s with addrs := s.addrs ++ [addr] }, [])
  | .dropAddr i => some ({ s with addrs := s.addrs.eraseIdx i }, [])
  | .send i msg => s.post i msg true
  | .doSend i msg => s.post i msg false
  | .recvResult serial => s.recvResult serial
  | .spawn ty val => s.spawn ty val
  | .spawnPick id => s.spawnPick id
  | .ctxSpawn via ty val => s.ctxSpawn via ty val
  | .ctxStop via => s.ctxStop via
  | .startedReturn id val => s.startedReturn id val
  | .startedPanic id => s.startedPanic id
  | .handOver id => s.handOver id
  | .spawnReturn id => s.spawnReturn id
  | .shutdown w => some (s.sendShutdown w)
  | .run => s.run
  | .dropRuntime => s.dropRuntime
  | .owner => s.ownerStep
  | .worker w act => s.workerStep w act

end State

def runtime (P : Program) (n : Nat) : Machine (State P n) (Action P n) (Entry P n) where
  init := fun s => s = State.withThreads P n
  step := State.step

end Actinium
