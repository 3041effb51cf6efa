import Actinium.ActorSystemContracts
import Actinium.RuntimeContracts
import Actinium.Stateful

set_option autoImplicit false

namespace Actinium

variable {P : Program} {n : Nat} {A S : Type}

def Handled.reply {A R : Type} : Handled A R → Option R
  | .returned _ result => some result
  | .panicked _ => none

namespace StateMachine

section

variable {M R : Type}

-- The machine has come to where it is by these turns.
def Ran (handler : StateHandler S) (turns : List (M × Option R)) (m : StateMachine A S) : Prop :=
  ∃ log : StateLog S M R, (stateMachine A M R handler).Reach Machine.free log m ∧
    calls log = turns.map Prod.fst ∧ results log = turns.filterMap Prod.snd

theorem ran_new (handler : StateHandler S) (inner : A) (m : StateMachine A S) (created : new handler inner = some m) :
    Ran handler ([] : List (M × Option R)) m :=
  ⟨[], .init m ⟨inner, created⟩, rfl, rfl⟩

theorem ran_handle (handler : StateHandler S) (turns : List (M × Option R)) (m : StateMachine A S) (ran : Ran handler turns m)
    (msg : M) (handled : Handled A R) : Ran handler (turns ++ [(msg, handled.reply)]) (m.handle msg handled).1 := by
  obtain ⟨log, reached, called, resulted⟩ := ran
  have here := List.getElem?_eq_getElem (current_lt handler log m (reach_cycling _ handler log m reached))
  refine ⟨log ++ (m.handle msg handled).2, .step log m _ (.handle msg handled) _ reached trivial rfl, ?_, ?_⟩
  · rw [calls_append, called, List.map_append]
    cases handled <;> simp only [handle, here] <;> rfl
  · rw [results_append, resulted, List.filterMap_append]
    cases handled <;> simp only [handle, here] <;> rfl

-- It is in the state whose turn it is: each reply moves it on by one.
structure InTurn (handler : StateHandler S) (turns : List (M × Option R)) (m : StateMachine A S) : Prop where
  ran : Ran handler turns m
  current : m.current = (turns.filterMap Prod.snd).length % handler.stateSequence.length
  state : ∃ state, m.currentState = some state ∧ handler.stateSequence[m.current]? = some state

theorem ran_in_turn (handler : StateHandler S) (turns : List (M × Option R)) (m : StateMachine A S) (ran : Ran handler turns m) :
    InTurn handler turns m := by
  obtain ⟨log, reached, called, resulted⟩ := ran
  have cycling := reach_cycling _ handler log m reached
  have here := List.getElem?_eq_getElem (current_lt handler log m cycling)
  refine ⟨⟨log, reached, called, resulted⟩, ?_, _, here, ?_⟩
  · rw [cycling.current, ← results_completed, resulted, cycling.states]
  · rw [← cycling.states]
    exact here

end

end StateMachine

section

-- The values of one actor type are state machines. A program may have others.
variable (handler : StateHandler S) (ty : P.Ty) (view : P.Val → StateMachine A S)

-- The actor is what StateMachine::handle leaves of it.
def Handles (before : P.Val) (msg : P.Msg) (reply : Option P.Reply) (after : P.Val) : Prop :=
  ∃ handled : Handled A P.Reply, handled.reply = reply ∧ view after = ((view before).handle msg handled).1

def machineContract : Contract P := fun _ turns actor =>
  actor.ty = ty → StateMachine.Ran handler turns (view actor.val)

theorem machine_keeps (id : ActorId) (msg : P.Msg) (reply : Option P.Reply) (cell : ActorCell P) (val : P.Val)
    (handles : cell.actor.ty = ty → Handles view cell.actor.val msg reply val) :
    (machineContract handler ty view).keeps id (msg, reply) cell.actor (cell.write val).actor := by
  intro turns kept typed
  obtain ⟨handled, rfl, same⟩ := handles typed
  change StateMachine.Ran handler _ (view val)
  rw [same]
  exact StateMachine.ran_handle handler turns _ (kept typed) msg handled

-- Actors of the type are made by StateMachine::new. Their started hook may
-- change the inner actor.
def State.hosts : Machine.Rely (State P n) (Action P n) (Entry P n) := fun _ s action =>
  match action with
  | .startedReturn id val => ∀ via old w ctx, s.calls.lookup id = some ⟨via, ty, .starting old w ctx⟩ →
      ∃ inner, StateMachine.new handler inner = some (view val)
  | .worker w (.handlerReturn val reply) => ∀ turn envelope cell ctx, (s.workers w).phase = .handling turn envelope cell ctx →
      cell.actor.ty = ty → Handles view cell.actor.val envelope.dispatch.msg (some reply) val
  | .worker w (.handlerPanic val) => ∀ turn envelope cell ctx, (s.workers w).phase = .handling turn envelope cell ctx →
      cell.actor.ty = ty → Handles view cell.actor.val envelope.dispatch.msg none val
  | _ => True

def ActorSystem.hosts : Machine.Rely (ActorSystem P) (SystemAction P) (SystemEntry P) := fun _ s action =>
  match action with
  | .startedReturn val => ∀ id old ctx, s.phase = .starting id ty old ctx →
      ∃ inner, StateMachine.new handler inner = some (view val)
  | .handlerReturn val reply => ∀ loop envelope cell ctx, s.phase = .handling loop envelope cell ctx →
      cell.actor.ty = ty → Handles view cell.actor.val envelope.dispatch.msg (some reply) val
  | .handlerPanic val => ∀ loop envelope cell ctx, s.phase = .handling loop envelope cell ctx →
      cell.actor.ty = ty → Handles view cell.actor.val envelope.dispatch.msg none val
  | _ => True

theorem State.hosts_contractual (log : Trace P n) (s : State P n) (action : Action P n)
    (allowed : State.hosts handler ty view log s action) :
    State.contractual (machineContract handler ty view) log s action := by
  cases action with
  | startedReturn id val =>
      intro via own old w ctx found typed
      subst typed
      obtain ⟨inner, created⟩ := allowed via old w ctx found
      exact StateMachine.ran_new handler inner _ created
  | worker w act =>
      cases act with
      | handlerReturn val reply =>
          intro turn envelope cell ctx here
          exact machine_keeps handler ty view _ _ _ cell val (allowed turn envelope cell ctx here)
      | handlerPanic val =>
          intro turn envelope cell ctx here
          exact machine_keeps handler ty view _ _ _ cell val (allowed turn envelope cell ctx here)
      | _ => trivial
  | _ => trivial

theorem ActorSystem.hosts_contractual (log : SystemTrace P) (s : ActorSystem P) (action : SystemAction P)
    (allowed : ActorSystem.hosts handler ty view log s action) :
    ActorSystem.contractual (machineContract handler ty view) log s action := by
  cases action with
  | startedReturn val =>
      intro id own old ctx here typed
      subst typed
      obtain ⟨inner, created⟩ := allowed id old ctx here
      exact StateMachine.ran_new handler inner _ created
  | handlerReturn val reply =>
      intro loop envelope cell ctx here
      exact machine_keeps handler ty view _ _ _ cell val (allowed loop envelope cell ctx here)
  | handlerPanic val =>
      intro loop envelope cell ctx here
      exact machine_keeps handler ty view _ _ _ cell val (allowed loop envelope cell ctx here)
  | _ => trivial

-- A StateMachine that an actor system hosts, in either runtime, is in the state
-- whose turn it is whenever a callback of it begins, whatever the threads do.
theorem hosted_machines (log : Trace P n) (s : State P n) (log' : SystemTrace P) (s' : ActorSystem P)
    (reached : (runtime P n).Reach (State.hosts handler ty view) log s)
    (reached' : (actorSystem P).Reach (ActorSystem.hosts handler ty view) log' s') :
    (∀ w turn envelope cell ctx, (s.workers w).phase = .handling turn envelope cell ctx → cell.actor.ty = ty →
        StateMachine.InTurn handler (log.turns envelope.actorId) (view cell.actor.val)) ∧
      (∀ w id val, .at w (.stopping id ⟨ty, val⟩) ∈ log → StateMachine.InTurn handler (log.turns id) (view val)) ∧
      (∀ loop envelope cell ctx, s'.phase = .handling loop envelope cell ctx → cell.actor.ty = ty →
        StateMachine.InTurn handler (log'.turns envelope.actorId) (view cell.actor.val)) ∧
      ∀ id val, .at (.stopping id ⟨ty, val⟩) ∈ log' → StateMachine.InTurn handler (log'.turns id) (view val) := by
  have kept := Machine.reach_weaken _ _ _ (State.hosts_contractual handler ty view) log s reached
  have kept' := Machine.reach_weaken _ _ _ (ActorSystem.hosts_contractual handler ty view) log' s' reached'
  refine ⟨?_, ?_, ?_, ?_⟩
  · intro w turn envelope cell ctx here typed
    exact StateMachine.ran_in_turn handler _ _ (handling_kept _ log s kept w turn envelope cell ctx here typed)
  · intro w id val member
    exact StateMachine.ran_in_turn handler _ _ (stopping_kept _ log s kept w id _ member rfl)
  · intro loop envelope cell ctx here typed
    exact StateMachine.ran_in_turn handler _ _ (ActorSystem.handling_kept _ log' s' kept' loop envelope cell ctx here typed)
  · intro id val member
    exact StateMachine.ran_in_turn handler _ _ (ActorSystem.stopping_kept _ log' s' kept' id _ member rfl)

end

-- A program whose actors are state machines of two states.
abbrev machines : Program := ⟨Unit, StateMachine Nat Nat, Nat, Nat⟩

def twoStates : StateHandler Nat := ⟨8, [8, 9]⟩

deriving instance DecidableEq for StateMachine

-- The value is the one that StateMachine::handle leaves with this inner actor.
def cycles (before : StateMachine Nat Nat) (msg : Nat) (reply : Option Nat) (after : StateMachine Nat Nat) : Bool :=
  match reply with
  | some result => after = (before.handle msg (.returned after.inner result)).1
  | none => after = (before.handle msg (.panicked after.inner : Handled Nat Nat)).1

theorem cycles_handles (before : StateMachine Nat Nat) (msg : Nat) (reply : Option Nat) (after : StateMachine Nat Nat)
    (cycling : cycles before msg reply after = true) : @Handles machines Nat Nat id before msg reply after := by
  cases reply with
  | some result => exact ⟨_, rfl, of_decide_eq_true cycling⟩
  | none => exact ⟨.panicked after.inner, rfl, of_decide_eq_true cycling⟩

def State.hostsTwo (s : State machines 1) : Action machines 1 → Bool
  | .startedReturn _ val => val.current = 0 ∧ val.states = [8, 9]
  | .worker _ (.handlerReturn val reply) =>
      match (s.workers 0).phase with
      | .handling _ envelope cell _ => cycles cell.actor.val envelope.dispatch.msg (some reply) val
      | _ => true
  | .worker _ (.handlerPanic val) =>
      match (s.workers 0).phase with
      | .handling _ envelope cell _ => cycles cell.actor.val envelope.dispatch.msg none val
      | _ => true
  | _ => true

def ActorSystem.hostsTwo (s : ActorSystem machines) : SystemAction machines → Bool
  | .startedReturn val => val.current = 0 ∧ val.states = [8, 9]
  | .handlerReturn val reply =>
      match s.phase with
      | .handling _ envelope cell _ => cycles cell.actor.val envelope.dispatch.msg (some reply) val
      | _ => true
  | .handlerPanic val =>
      match s.phase with
      | .handling _ envelope cell _ => cycles cell.actor.val envelope.dispatch.msg none val
      | _ => true
  | _ => true

theorem two_states_new (val : StateMachine Nat Nat) (fresh : val.current = 0 ∧ val.states = [8, 9]) :
    ∃ inner, StateMachine.new twoStates inner = some val := by
  obtain ⟨inner, current, states⟩ := val
  obtain ⟨rfl, rfl⟩ := fresh
  exact ⟨inner, rfl⟩

theorem State.hosts_two (log : Trace machines 1) (s : State machines 1) (action : Action machines 1)
    (checked : s.hostsTwo action = true) : State.hosts twoStates () id log s action := by
  cases action with
  | startedReturn id val => exact fun _ _ _ _ _ => two_states_new val (of_decide_eq_true checked)
  | worker w own =>
      obtain rfl := Subsingleton.elim w 0
      cases own with
      | handlerReturn val reply =>
          intro turn envelope cell ctx phase _
          simp only [State.hostsTwo, phase] at checked
          exact cycles_handles _ _ _ _ checked
      | handlerPanic val =>
          intro turn envelope cell ctx phase _
          simp only [State.hostsTwo, phase] at checked
          exact cycles_handles _ _ _ _ checked
      | _ => trivial
  | _ => trivial

theorem ActorSystem.hosts_two (log : SystemTrace machines) (s : ActorSystem machines) (action : SystemAction machines)
    (checked : s.hostsTwo action = true) : ActorSystem.hosts twoStates () id log s action := by
  cases action with
  | startedReturn val => exact fun _ _ _ _ => two_states_new val (of_decide_eq_true checked)
  | handlerReturn val reply =>
      intro loop envelope cell ctx phase _
      simp only [ActorSystem.hostsTwo, phase] at checked
      exact cycles_handles _ _ _ _ checked
  | handlerPanic val =>
      intro loop envelope cell ctx phase _
      simp only [ActorSystem.hostsTwo, phase] at checked
      exact cycles_handles _ _ _ _ checked
  | _ => trivial

-- The second message finds the machine in the second state.
def hostedOnce : List (Action machines 1) :=
  [.spawn () ⟨0, 0, [8, 9]⟩, .spawnPick 1, .startedReturn 1 ⟨0, 0, [8, 9]⟩, .handOver 1, .worker 0 .pollControl,
    .worker 0 .confirm, .spawnReturn 1, .doSend 0 5, .doSend 0 6, .worker 0 .pollControl, .worker 0 .drain, .worker 0 .drain,
    .worker 0 .drain, .worker 0 .runTurn, .worker 0 (.handlerReturn ⟨1, 1, [8, 9]⟩ 50), .worker 0 .settle,
    .worker 0 .pollControl, .worker 0 .drain, .worker 0 .runTurn]

-- The second handler panics, and the third message finds it there still.
def hostedPanic : List (SystemAction machines) :=
  [.spawn () ⟨0, 0, [8, 9]⟩, .startedReturn ⟨0, 0, [8, 9]⟩, .doSend 0 5, .doSend 0 6, .doSend 0 7, .runOnce, .recv,
    .handlerReturn ⟨1, 1, [8, 9]⟩ 50, .recv, .handlerPanic ⟨2, 1, [8, 9]⟩, .runOnce, .recv]

theorem hosted_machines_second :
    let log := (runtime machines 1).history (State.withThreads machines 1) hostedOnce
    let log' := (actorSystem machines).history (ActorSystem.new machines) hostedPanic
    Trace.turns log 1 = [(5, some 50)] ∧ StateMachine.InTurn twoStates (Trace.turns log 1) (⟨1, 1, [8, 9]⟩ : StateMachine Nat Nat) ∧
      SystemTrace.turns log' 1 = [(5, some 50), (6, none)] ∧
      StateMachine.InTurn twoStates (SystemTrace.turns log' 1) (⟨2, 1, [8, 9]⟩ : StateMachine Nat Nat) := by
  intro log log'
  have reached := (runtime machines 1).run_reach_rely (State.hosts twoStates () id) [] log (State.withThreads machines 1)
    ((runtime machines 1).last (State.withThreads machines 1) hostedOnce) hostedOnce (.init _ rfl) rfl
    (Machine.allowed_checked _ _ State.hostsTwo State.hosts_two _ _ _ rfl)
  have reached' := (actorSystem machines).run_reach_rely (ActorSystem.hosts twoStates () id) [] log' (ActorSystem.new machines)
    ((actorSystem machines).last (ActorSystem.new machines) hostedPanic) hostedPanic (.init _ rfl) rfl
    (Machine.allowed_checked _ _ ActorSystem.hostsTwo ActorSystem.hosts_two _ _ _ rfl)
  obtain ⟨handling, _, handling', _⟩ := @hosted_machines machines 1 Nat Nat twoStates () id _ _ _ _ reached reached'
  exact ⟨rfl, handling 0 1 _ _ _ rfl rfl, rfl, handling' _ _ _ _ rfl rfl⟩

end Actinium
