import Actinium.Runtime

set_option autoImplicit false

namespace Actinium

-- The loop that dispatch was called from: run, or run_once with its count.
inductive Loop where
  | run
  | runOnce (count : Nat)

-- Where control goes when dispatch or remove_actor returns.
inductive Resume where
  | loop (loop : Loop)
  | stopAll (ids : List ActorId)

-- The program counter of the thread that owns the ActorSystem. A panic that
-- leaves run, run_once or spawn puts the owner outside too.
inductive SystemPhase (P : Program) where
  | outside
  | starting (id : ActorId) (ty : P.Ty) (val : P.Val) (ctx : Context Empty)
  | within (resume : Resume)
  | handling (loop : Loop) (envelope : Message P) (cell : ActorCell P) (ctx : Context Empty)
  | stopping (id : ActorId) (cell : ActorCell P) (ctx : Context Empty) (resume : Resume)
  | ended

-- The system has one channel, and every Addr a sender of it, wherever the Addr
-- is kept: by the user, in an actor, or in an envelope of the queue.
structure ActorSystem (P : Program) where
  actors : ActorMap P
  rx : Channel (Message P)
  tx : Bool
  nextId : Nat
  running : Bool
  phase : SystemPhase P
  addrs : List (Addr P 1)
  sends : Nat → Option (SendCall P 1)
  nextSerial : Nat

-- Besides the events a worker has too: the started hooks, the calls of
-- ctx.stop() in handlers, and what run_once returns.
inductive SystemEntry (P : Program) where
  | at (event : Event P)
  | starting (id : ActorId)
  | started (id : ActorId)
  | startPanicked (id : ActorId)
  | stopRequested (envelope : Message P)
  | ranOnce (count : Nat)

-- One step of the owner, of the callback it runs, or of a holder of an Addr.
inductive SystemAction (P : Program) where
  | cloneAddr (i : Nat)
  | dropAddr (i : Nat)
  | send (i : Nat) (msg : P.Msg)
  | doSend (i : Nat) (msg : P.Msg)
  | recvResult (serial : Nat)
  | spawn (ty : P.Ty) (val : P.Val)
  | startedReturn (val : P.Val)
  | startedPanic
  | run
  | runOnce
  | recv
  | ctxStop
  | handlerReturn (val : P.Val) (reply : P.Reply)
  | handlerPanic (val : P.Val)
  | hookReturn
  | hookPanic
  | takeSnapshot (ids : List ActorId)
  | stopNext
  | shutdown
  | dropSystem

namespace ActorSystem

variable {P : Program}

abbrev Outcome (P : Program) := ActorSystem P × List (SystemEntry P)

def new (P : Program) : ActorSystem P := ⟨∅, .new, true, 1, false, .outside, [], fun _ => none, 0⟩

def setSend (s : ActorSystem P) (serial : Nat) (state : SendState P) : ActorSystem P :=
  { s with sends := Function.update s.sends serial ((s.sends serial).map fun call => { call with state := state }) }

def settleSend (s : ActorSystem P) (envelope : Message P) (state : SendState P) : ActorSystem P :=
  if envelope.dispatch.resultTx then s.setSend envelope.dispatch.serial state else s

def envelopeTo (s : ActorSystem P) (addr : Addr P 1) (msg : P.Msg) (blocking : Bool) : Message P :=
  ⟨addr.actorId, ⟨addr.ty, msg, blocking, s.nextSerial⟩⟩

def beginSend (s : ActorSystem P) (addr : Addr P 1) (blocking : Bool) (state : SendState P) : ActorSystem P :=
  { s with
    nextSerial := s.nextSerial + 1
    sends := if blocking then Function.update s.sends s.nextSerial (some ⟨addr, state⟩) else s.sends }

-- Addr::send up to the wait for the reply, and Addr::do_send
def post (s : ActorSystem P) (i : Nat) (msg : P.Msg) (blocking : Bool) : Option (Outcome P) :=
  match s.addrs[i]? with
  | none => none
  | some addr =>
      let envelope := s.envelopeTo addr msg blocking
      match s.rx.send envelope with
      | none => some (s.beginSend addr blocking (.returned (.error .runtimeShutdown)), [])
      | some rx => some ({ s.beginSend addr blocking .waiting with rx := rx }, [.at (.accepted envelope)])

-- result_rx.recv() in Addr::send
def recvResult (s : ActorSystem P) (serial : Nat) : Option (Outcome P) :=
  match s.sends serial with
  | some ⟨_, .replied reply⟩ => some (s.setSend serial (.returned (.ok reply)), [])
  | some ⟨_, .hungUp⟩ => some (s.setSend serial (.returned (.error .actorNotRunning)), [])
  | _ => none

-- spawn: after run the expect on tx panics, the id being taken already.
def spawn (s : ActorSystem P) (ty : P.Ty) (val : P.Val) : Option (Outcome P) :=
  match s.phase with
  | .outside =>
      let id := s.nextId
      let s := { s with nextId := s.nextId + 1 }
      if s.tx then some ({ s with phase := .starting id ty val (.new id) }, [.starting id]) else some (s, [])
  | _ => none

-- The rest of spawn, which does not look at ctx.
def startedReturn (s : ActorSystem P) (val : P.Val) : Option (Outcome P) :=
  match s.phase with
  | .starting id ty _ _ =>
      some ({ s with
        actors := s.actors.insert id ⟨⟨ty, val⟩, ty⟩
        addrs := s.addrs ++ [⟨id, 0, ty⟩]
        phase := .outside }, [.started id, .at (.installed id ty)])
  | _ => none

def startedPanic (s : ActorSystem P) : Option (Outcome P) :=
  match s.phase with
  | .starting id _ _ _ => some ({ s with phase := .outside }, [.startPanicked id])
  | _ => none

-- run up to its loop
def run (s : ActorSystem P) : Option (Outcome P) :=
  match s.phase with
  | .outside => some ({ s with running := true, tx := false, phase := .within (.loop .run) }, [])
  | _ => none

def runOnce (s : ActorSystem P) : Option (Outcome P) :=
  match s.phase with
  | .outside => some ({ s with phase := .within (.loop (.runOnce 0)) }, [])
  | _ => none

def shutdown (s : ActorSystem P) : Option (Outcome P) :=
  match s.phase with
  | .outside => some ({ s with running := false }, [])
  | _ => none

def actorCount (s : ActorSystem P) : Nat := s.actors.keys.length

def senders (s : ActorSystem P) : Nat := s.addrs.length + (if s.tx then 1 else 0)

-- (cell.on_stop)(cell.actor.as_mut(), &mut ctx): on a failed downcast the
-- closure returns without calling the stopped hook.
def onStop (id : ActorId) (cell : ActorCell P) : List (SystemEntry P) :=
  match cell.actor.downcast cell.onStop with
  | some _ => [.at (.stopping id cell.actor)]
  | none => [.at (.stopSkipped id)]

def removeActor (s : ActorSystem P) (actorId : ActorId) (resume : Resume) : Outcome P :=
  match s.actors.lookup actorId with
  | none => ({ s with phase := .within resume }, [])
  | some cell =>
      ({ s with actors := s.actors.erase actorId, phase := .stopping actorId cell (.new actorId) resume },
        onStop actorId cell)

def dispatch (s : ActorSystem P) (loop : Loop) (envelope : Message P) : Outcome P :=
  let actorId := envelope.actorId
  match s.actors.lookup actorId with
  | none => ({ s with phase := .within (.loop loop) }.settleSend envelope .hungUp, [.at (.dropped envelope)])
  | some cell =>
      match cell.actor.downcast envelope.dispatch.ty with
      | some _ => ({ s with phase := .handling loop envelope cell (.new actorId) }, [.at (.handling envelope)])
      | none => ({ s with phase := .outside }.settleSend envelope .hungUp, [.at (.mismatched envelope)])

-- One round of the loop: rx.recv(), which waits while there is a sender, or
-- rx.try_recv(), whose failure makes run_once return.
def recv (s : ActorSystem P) : Option (Outcome P) :=
  match s.phase with
  | .within (.loop .run) =>
      if s.running then
        match s.rx.tryRecv with
        | some (envelope, rx) => some ({ s with rx := rx }.dispatch .run envelope)
        | none => if s.senders = 0 then some ({ s with running := false }, []) else none
      else none
  | .within (.loop (.runOnce count)) =>
      match s.rx.tryRecv with
      | some (envelope, rx) => some ({ s with rx := rx }.dispatch (.runOnce (count + 1)) envelope)
      | none => some ({ s with phase := .outside }, [.ranOnce count])
  | _ => none

-- ctx.stop() in the callback that is running.
def ctxStop (s : ActorSystem P) : Option (Outcome P) :=
  match s.phase with
  | .starting id ty val ctx => some ({ s with phase := .starting id ty val ctx.stop }, [])
  | .handling loop envelope cell ctx =>
      some ({ s with phase := .handling loop envelope cell ctx.stop }, [.stopRequested envelope])
  | .stopping id cell ctx resume =>
      match cell.actor.downcast cell.onStop with
      | some _ => some ({ s with phase := .stopping id cell ctx.stop resume }, [])
      | none => none
  | _ => none

-- The handler returns: the reply goes to the sender, and dispatch goes on.
def handlerReturn (s : ActorSystem P) (val : P.Val) (reply : P.Reply) : Option (Outcome P) :=
  match s.phase with
  | .handling loop envelope cell ctx =>
      let actorId := envelope.actorId
      let s := { s with actors := s.actors.insert actorId (cell.write val) }.settleSend envelope (.replied reply)
      if !ctx.isRunning then
        let result := s.removeActor actorId (.loop loop)
        some (result.1, .at (.handled envelope reply) :: result.2)
      else some ({ s with phase := .within (.loop loop) }, [.at (.handled envelope reply)])
  | _ => none

def handlerPanic (s : ActorSystem P) (val : P.Val) : Option (Outcome P) :=
  match s.phase with
  | .handling _ envelope cell _ =>
      let s := { s with actors := s.actors.insert envelope.actorId (cell.write val), phase := .outside }
      some (s.settleSend envelope .hungUp, [.at (.panicked envelope)])
  | _ => none

def hookReturn (s : ActorSystem P) : Option (Outcome P) :=
  match s.phase with
  | .stopping id cell _ resume =>
      some ({ s with phase := .within resume },
        match cell.actor.downcast cell.onStop with
        | some _ => [.at (.stopped id)]
        | none => [])
  | _ => none

def hookPanic (s : ActorSystem P) : Option (Outcome P) :=
  match s.phase with
  | .stopping id cell _ _ =>
      match cell.actor.downcast cell.onStop with
      | some _ => some ({ s with phase := .outside }, [.at (.stopPanicked id)])
      | none => none
  | _ => none

-- The loop of run has ended, and stop_all_actors collects the keys.
def takeSnapshot (s : ActorSystem P) (ids : List ActorId) : Option (Outcome P) :=
  match s.phase with
  | .within (.loop .run) =>
      if !s.running && decide (ids.Perm s.actors.keys) then
        some ({ s with phase := .within (.stopAll ids) }, [.at (.snapshot ids)])
      else none
  | _ => none

-- One round of the loop in stop_all_actors, with which run returns.
def stopNext (s : ActorSystem P) : Option (Outcome P) :=
  match s.phase with
  | .within (.stopAll []) => some ({ s with phase := .outside }, [])
  | .within (.stopAll (id :: ids)) => some (s.removeActor id (.stopAll ids))
  | _ => none

-- The fields are dropped: the actors without their stopped hooks, then rx.
def dropSystem (s : ActorSystem P) : Option (Outcome P) :=
  match s.phase with
  | .outside =>
      some (s.rx.queue.foldl (fun s envelope => s.settleSend envelope .hungUp)
          { s with actors := ∅, rx := s.rx.dropReceiver, tx := false, phase := .ended },
        s.rx.queue.map fun envelope => .at (.dropped envelope))
  | _ => none

def step (s : ActorSystem P) : SystemAction P → Option (Outcome P)
  | .cloneAddr i => s.addrs[i]?.map fun addr => ({ s with addrs := s.addrs ++ [addr] }, [])
  | .dropAddr i => some ({ s with addrs := s.addrs.eraseIdx i }, [])
  | .send i msg => s.post i msg true
  | .doSend i msg => s.post i msg false
  | .recvResult serial => s.recvResult serial
  | .spawn ty val => s.spawn ty val
  | .startedReturn val => s.startedReturn val
  | .startedPanic => s.startedPanic
  | .run => s.run
  | .runOnce => s.runOnce
  | .recv => s.recv
  | .ctxStop => s.ctxStop
  | .handlerReturn val reply => s.handlerReturn val reply
  | .handlerPanic val => s.handlerPanic val
  | .hookReturn => s.hookReturn
  | .hookPanic => s.hookPanic
  | .takeSnapshot ids => s.takeSnapshot ids
  | .stopNext => s.stopNext
  | .shutdown => s.shutdown
  | .dropSystem => s.dropSystem

end ActorSystem

def actorSystem (P : Program) : Machine (ActorSystem P) (SystemAction P) (SystemEntry P) where
  init := fun s => s = ActorSystem.new P
  step := ActorSystem.step

end Actinium
