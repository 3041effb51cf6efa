import Actinium.ActorSystemSound

set_option autoImplicit false

namespace Actinium

-- TestKit, with the vectors its probes record to under the ids of the probes.
structure TestKit (P : Program) where
  system : ActorSystem P
  probes : AList (fun _ : ActorId => List P.Msg)

-- What a step of the system is to the kit. The handler of a probe is the one of
-- ProbeActor, which only returns; any other handler is the user's.
inductive KitAction (P : Program) where
  | system (action : SystemAction P)
  | spawnProbe (ty : P.Ty) (val : P.Val)
  | probeHandle (reply : P.Reply)
  | reset (id : ActorId)

-- A step of a handler.
def SystemAction.ofHandler {P : Program} : SystemAction P → Bool
  | .ctxStop => true
  | .handlerReturn _ _ => true
  | .handlerPanic _ => true
  | _ => false

namespace TestKit

variable {P : Program}

abbrev Outcome (P : Program) := TestKit P × List (SystemEntry P)

def new (P : Program) : TestKit P := ⟨.new P, ∅⟩

def onSystem (kit : TestKit P) (result : ActorSystem.Outcome P) : Outcome P := ({ kit with system := result.1 }, result.2)

-- The handler that runs is that of a probe.
def probing (kit : TestKit P) : Bool :=
  match kit.system.phase with
  | .handling _ envelope _ _ => (kit.probes.lookup envelope.actorId).isSome
  | _ => false

def stepSystem (kit : TestKit P) (action : SystemAction P) : Option (Outcome P) :=
  if kit.probing && action.ofHandler then none else (kit.system.step action).map kit.onSystem

-- spawn_probe: the started hook of a ProbeActor is the default one.
def spawnProbe (kit : TestKit P) (ty : P.Ty) (val : P.Val) : Option (Outcome P) :=
  match kit.system.spawn ty val with
  | none => none
  | some (s, entries) =>
      match s.startedReturn val with
      | none => some (kit.onSystem (s, entries))
      | some (t, later) => some (⟨t, kit.probes.insert kit.system.nextId []⟩, entries ++ later)

-- ProbeActor::handle pushes the message and returns the default result.
def probeHandle (kit : TestKit P) (reply : P.Reply) : Option (Outcome P) :=
  match kit.system.phase with
  | .handling _ envelope cell _ =>
      match kit.probes.lookup envelope.actorId with
      | none => none
      | some messages =>
          (kit.system.handlerReturn cell.actor.val reply).map fun (s, entries) =>
            (⟨s, kit.probes.insert envelope.actorId (messages ++ [envelope.dispatch.msg])⟩, entries)
  | _ => none

-- all() of the probe
def all (kit : TestKit P) (id : ActorId) : Option (List P.Msg) := kit.probes.lookup id

def reset (kit : TestKit P) (id : ActorId) : Outcome P :=
  match kit.probes.lookup id with
  | none => (kit, [])
  | some _ => ({ kit with probes := kit.probes.insert id [] }, [])

def step (kit : TestKit P) : KitAction P → Option (Outcome P)
  | .system action => kit.stepSystem action
  | .spawnProbe ty val => kit.spawnProbe ty val
  | .probeHandle reply => kit.probeHandle reply
  | .reset id => some (kit.reset id)

end TestKit

def testKit (P : Program) : Machine (TestKit P) (KitAction P) (SystemEntry P) where
  init := fun kit => kit = TestKit.new P
  step := TestKit.step

-- What a callback does before it ends: it uses the Addrs there are, and may
-- call ctx.stop().
inductive CallbackStep (P : Program) where
  | cloneAddr (i : Nat)
  | dropAddr (i : Nat)
  | doSend (i : Nat) (msg : P.Msg)
  | stop

def CallbackStep.action {P : Program} : CallbackStep P → SystemAction P
  | .cloneAddr i => .cloneAddr i
  | .dropAddr i => .dropAddr i
  | .doSend i msg => .doSend i msg
  | .stop => .ctxStop

structure Reaction (P : Program) where
  steps : List (CallbackStep P)
  val : P.Val
  reply : P.Reply

-- The user's handlers and stopped hooks, which may depend on all that has
-- happened. The reply of a probe's handler is M::Result::default().
structure Callbacks (P : Program) where
  handle : SystemTrace P → TestKit P → Reaction P
  stopped : SystemTrace P → TestKit P → List (CallbackStep P)

namespace TestKit

variable {P : Program}

abbrev Exec (P : Program) := SystemTrace P × TestKit P

-- A step that is not possible is left out.
def advance (x : Exec P) (action : KitAction P) : Exec P :=
  match x.2.step action with
  | none => x
  | some (kit, entries) => (x.1 ++ entries, kit)

def perform (x : Exec P) : List (CallbackStep P) → Exec P
  | [] => x
  | step :: rest => perform (advance x (.system step.action)) rest

-- (envelope.dispatch)(cell.actor.as_mut(), &mut ctx)
def handle (cb : Callbacks P) (x : Exec P) : Exec P :=
  match x.2.system.phase with
  | .handling _ _ _ _ =>
      let reaction := cb.handle x.1 x.2
      if x.2.probing then advance x (.probeHandle reaction.reply)
      else advance (perform x reaction.steps) (.system (.handlerReturn reaction.val reaction.reply))
  | _ => x

-- (cell.on_stop)(cell.actor.as_mut(), &mut ctx)
def stopped (cb : Callbacks P) (x : Exec P) : Exec P :=
  match x.2.system.phase with
  | .stopping _ _ _ _ => advance (perform x (cb.stopped x.1 x.2)) (.system .hookReturn)
  | _ => x

-- One envelope is taken out of the channel and dispatched.
def round (cb : Callbacks P) (x : Exec P) : Exec P := stopped cb (handle cb (advance x (.system .recv)))

def rounds (cb : Callbacks P) : Nat → Exec P → Exec P
  | 0, x => x
  | k + 1, x => rounds cb k (round cb x)

-- The loop of run_once, up to its return, for as many rounds as there is fuel.
def runOnceLoop (cb : Callbacks P) : Nat → Exec P → Option (Exec P × Nat)
  | 0, _ => none
  | fuel + 1, x =>
      match x.2.system.phase with
      | .within (.loop (.runOnce count)) =>
          match x.2.system.rx.tryRecv with
          | none => some (advance x (.system .recv), count)
          | some _ => runOnceLoop cb fuel (round cb x)
      | _ => none

def runOnce (cb : Callbacks P) (fuel : Nat) (x : Exec P) : Option (Exec P × Nat) :=
  runOnceLoop cb fuel (advance x (.system .runOnce))

-- while self.system.run_once() > 0 {}
def runUntilIdle (cb : Callbacks P) : Nat → Exec P → Option (Exec P)
  | 0, _ => none
  | fuel + 1, x =>
      match runOnce cb fuel x with
      | none => none
      | some (y, count) => if count > 0 then runUntilIdle cb fuel y else some y

-- However many envelopes are dispatched, no more than this many ever enter the
-- channel.
def FiniteCascade (cb : Callbacks P) (x : Exec P) : Prop :=
  ∃ bound, ∀ k, (rounds cb k (advance x (.system .runOnce))).1.events.accepted.length ≤ bound

end TestKit

end Actinium
