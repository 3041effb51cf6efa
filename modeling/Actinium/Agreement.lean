import Actinium.ActorSystemFates
import Actinium.SelfCleaning
import Actinium.Shutdown
import Actinium.WorkerFates

set_option autoImplicit false

namespace Actinium

variable {P : Program} {n : Nat}

namespace State

-- The handlers and the started hooks compute what they should, without panics,
-- and nothing shuts the runtime down.
def serving (serve : Behaviour P) (initial : ActorId → P.Val) : Machine.Rely (State P n) (Action P n) (Entry P n) :=
  fun _ s action =>
    match action with
    | .startedReturn id val => val = initial id
    | .shutdown _ => False
    | .run => False
    | .dropRuntime => False
    | .worker w (.handlerReturn val reply) => ∀ turn envelope cell ctx,
        (s.workers w).phase = .handling turn envelope cell ctx →
        serve cell.actor.ty cell.actor.val envelope.dispatch.msg = (val, reply, !ctx.running)
    | .worker _ (.handlerPanic _) => False
    | .worker _ .hookPanic => False
    | _ => True

theorem serving_unshut (serve : Behaviour P) (initial : ActorId → P.Val) (log : Trace P n) (s : State P n) (action : Action P n)
    (allowed : serving serve initial log s action) : unshut log s action := by
  cases action <;> trivial

theorem started_value (s next : State P n) (action : Action P n) (entries : Trace P n) (moves : Moves s action entries next)
    (id : ActorId) (via : Option (Caller n)) (ty : P.Ty) (val : P.Val) (w : Fin n)
    (found : next.calls.lookup id = some ⟨via, ty, .started val w⟩) :
    s.calls.lookup id = some ⟨via, ty, .started val w⟩ ∨ action = .startedReturn id val := by
  rcases started_origin s next action entries moves id via ty val w found with old | began
  · exact Or.inl old
  · cases moves with
    | startedReturn other via ty old val w ctx free here =>
        simp only [List.mem_singleton, Entry.started.injEq] at began
        subst began
        rw [lookup_set, if_pos rfl] at found
        cases found
        exact Or.inr rfl
    | _ => simp at began

-- Every worker keeps its actors, and a spawn call carries the value its
-- started hook has left.
structure Serving (serve : Behaviour P) (initial : ActorId → P.Val) (log : Trace P n) (s : State P n) : Prop where
  calls : ∀ id via ty val w, s.calls.lookup id = some ⟨via, ty, .started val w⟩ → val = initial id
  obedient : ∀ w, Worker.Obedient initial (log.worker w) (s.workers w)
  kept : ∀ w, Faithful serve initial (log.worker w) (s.workers w).actorMap (s.workers w).phase.inHand

theorem source_obeys (serve : Behaviour P) (initial : ActorId → P.Val) (log entries : Trace P n) (s next : State P n)
    (action : Action P n) (w : Fin n) (act : Worker.Act P) (serves : Serving serve initial log s) (owned : s.owner = .owned)
    (allowed : serving serve initial log s action) (taken : s.step action = some (next, entries))
    (source : Sourced s action w act) : Worker.obeys serve initial (s.workers w) act := by
  cases act with
  | post => trivial
  | stopCtx => trivial
  | spawnActorDirect id actor onStop =>
      obtain ⟨via, found⟩ := source
      exact serves.calls id via _ _ w found
  | postControl msg =>
      cases msg with
      | spawnActor id actor onStop =>
          obtain ⟨via, found⟩ := source
          exact serves.calls id via _ _ w found
      | shutdown =>
          rcases source with rfl | rfl
          · exact allowed
          · simp [step, ownerStep, owned] at taken
  | own senders own =>
      obtain ⟨rfl, rfl⟩ := source
      cases own with
      | recvTimeout => exact Nat.ne_of_gt (msg_senders_shared s w (shared_alive_owned s owned))
      | handlerReturn val reply => exact allowed
      | handlerPanic val => exact allowed
      | hookPanic => exact allowed
      | _ => trivial

theorem serving_step (serve : Behaviour P) (initial : ActorId → P.Val) (log entries : Trace P n) (s next : State P n)
    (action : Action P n) (routed : Routed log s) (owned : s.owner = .owned) (serves : Serving serve initial log s)
    (allowed : serving serve initial log s action) (taken : s.step action = some (next, entries)) :
    Serving serve initial (log ++ entries) next := by
  have moves := step_moves s next action entries taken
  have workers (w : Fin n) : Worker.Obedient initial ((log ++ entries).worker w) (next.workers w) ∧
      Faithful serve initial ((log ++ entries).worker w) (next.workers w).actorMap (next.workers w).phase.inHand := by
    rw [Trace.worker_append]
    rcases worker_source log entries s next action routed moves w with ⟨same, silent⟩ | ⟨act, source, kindly, stepped⟩
    · rw [same, silent, List.append_nil]
      exact ⟨serves.obedient w, serves.kept w⟩
    · have obeying := source_obeys serve initial log entries s next action w act serves owned allowed taken source
      have steps := Worker.step_moves _ _ _ _ stepped
      exact ⟨Worker.obedient_step serve initial _ _ _ _ act (serves.obedient w) obeying steps,
        Worker.fates_step serve initial _ _ _ _ act (Worker.reach_sound w _ _ (routed.workers w)) (serves.obedient w) (serves.kept w)
          kindly obeying steps⟩
  refine ⟨?_, fun w => (workers w).1, fun w => (workers w).2⟩
  intro id via ty val w found
  rcases started_value s next action entries moves id via ty val w found with old | rfl
  · exact serves.calls id via ty val w old
  · exact allowed

end State

theorem reach_serving (serve : Behaviour P) (initial : ActorId → P.Val) (log : Trace P n) (s : State P n)
    (reached : (runtime P n).Reach (State.serving serve initial) log s) : State.Serving serve initial log s := by
  refine Machine.reach_invariant (runtime P n) (State.serving serve initial) (State.Serving serve initial) ?_ ?_ log s reached
  · rintro s rfl
    refine ⟨?_, ?_, ?_⟩
    · intro id via ty val w found
      simp [State.withThreads] at found
    · intro w
      exact ⟨rfl, List.not_mem_nil, fun _ _ _ member => (List.not_mem_nil member).elim, fun _ => List.not_mem_nil⟩
    · intro w
      refine ⟨fun id member => (List.not_mem_nil member).elim, ?_⟩
      intro id actor stops held
      cases held with
      | mapped cell found => simp [State.withThreads, Worker.start] at found
      | inHand _ _ shown => cases shown
      | stopping _ logged => cases logged
  · intro log s action next entries before serves allowed taken
    have owned := State.reach_owned log s (Machine.reach_weaken _ _ State.unshut (State.serving_unshut serve initial) log s before)
    exact State.serving_step serve initial log entries s next action (reach_routed _ log s before) owned serves allowed taken

-- One and the same actor, in a runtime with any number of workers and in an
-- ActorSystem. When its mail has been the same, and none of it is left, both
-- show the same: the replay of the mail, however the turns were interleaved.
theorem runtimes_agree (serve : Behaviour P) (initial initial' : ActorId → P.Val) (log : Trace P n) (s : State P n)
    (log' : SystemTrace P) (s' : ActorSystem P) (reached : (runtime P n).Reach (State.serving serve initial) log s)
    (reached' : (actorSystem P).Reach (ActorSystem.serving serve initial') log' s') (w : Fin n) (id id' : ActorId) (ty : P.Ty)
    (installed : (id, ty) ∈ (log.worker w).installed) (installed' : (id', ty) ∈ log'.events.installed)
    (twins : initial id = initial' id') (sameMail : payloads id (log.worker w).accepted = payloads id' log'.events.accepted)
    (rests : (s.workers w).phase.calm = true) (nothing : (s.workers w).pending id = [])
    (rests' : s'.phase.current = none) (nothing' : s'.rx.queue = []) :
    let fate := Replay.replay (serve ty) (initial id) (payloads id (log.worker w).accepted)
    Shows (log.worker w) (s.workers w).actorMap id ty fate ∧ Shows log'.events s'.actors id' ty fate := by
  intro fate
  have serves := reach_serving serve initial log s reached
  refine ⟨Worker.shows_replay serve initial _ _ (reach_worker _ log s reached w) (serves.obedient w) (serves.kept w) rests id ty
    installed nothing, ?_⟩
  have shown := ActorSystem.shows_replay serve initial' log' s' reached' nothing' rests' id' ty installed'
  rw [← twins, ← sameMail] at shown
  exact shown

-- A handler that adds up its messages, replies with the old sum and stops at 9.
def sums : Behaviour numbers := fun _ val msg => (val + msg, val, decide (msg = 9))

-- The second of three messages stops the actor, and the third is dropped.
def stopsAtNine : List (Action numbers 1) :=
  spawnOne ++ ([.doSend 0 5, .doSend 0 9, .worker 0 .pollControl, .worker 0 .drain, .worker 0 .drain, .worker 0 .drain,
    .worker 0 .runTurn, .worker 0 (.handlerReturn 5 0), .doSend 0 4, .worker 0 .settle, .worker 0 .pollControl, .worker 0 .drain,
    .worker 0 .drain, .worker 0 .runTurn, .ctxStop (.worker 0), .worker 0 (.handlerReturn 14 5), .worker 0 .settle,
    .worker 0 .hookReturn] : List (Action numbers 1))

def stopsAtNineInSystem : List (SystemAction numbers) :=
  [.spawn () 0, .startedReturn 0, .doSend 0 5, .doSend 0 9, .doSend 0 4, .runOnce, .recv, .handlerReturn 5 0, .recv, .ctxStop,
    .handlerReturn 14 5, .hookReturn, .recv, .recv]

def State.addsUp (s : State numbers 1) : Action numbers 1 → Bool
  | .startedReturn _ val => val = 0
  | .worker _ (.handlerReturn val reply) =>
      match (s.workers 0).phase with
      | .handling _ envelope cell ctx => sums () cell.actor.val envelope.dispatch.msg = (val, reply, !ctx.running)
      | _ => true
  | .shutdown _ | .run | .dropRuntime | .worker _ (.handlerPanic _) | .worker _ .hookPanic => false
  | _ => true

theorem State.addsUp_serving (log : Trace numbers 1) (s : State numbers 1) (action : Action numbers 1)
    (adds : s.addsUp action = true) : State.serving sums (fun _ => 0) log s action := by
  cases action with
  | startedReturn id val => exact (of_decide_eq_true adds : val = 0)
  | worker w own =>
      obtain rfl := Subsingleton.elim w 0
      cases own with
      | handlerReturn val reply =>
          intro turn envelope cell ctx phase
          simp only [addsUp, phase] at adds
          exact of_decide_eq_true adds
      | handlerPanic => cases adds
      | hookPanic => cases adds
      | _ => trivial
  | shutdown => cases adds
  | run => cases adds
  | dropRuntime => cases adds
  | _ => trivial

def ActorSystem.addsUp (s : ActorSystem numbers) : SystemAction numbers → Bool
  | .startedReturn val => val = 0
  | .handlerReturn val reply =>
      match s.phase with
      | .handling _ envelope cell ctx => sums () cell.actor.val envelope.dispatch.msg = (val, reply, !ctx.running)
      | _ => true
  | .startedPanic | .handlerPanic _ | .hookPanic | .takeSnapshot _ | .stopNext | .dropSystem => false
  | _ => true

theorem ActorSystem.addsUp_serving (log : SystemTrace numbers) (s : ActorSystem numbers) (action : SystemAction numbers)
    (adds : s.addsUp action = true) : ActorSystem.serving sums (fun _ => 0) log s action := by
  cases action with
  | startedReturn val => exact fun _ _ _ _ _ => (of_decide_eq_true adds : val = 0)
  | handlerReturn val reply =>
      intro loop envelope cell ctx phase
      simp only [addsUp, phase] at adds
      exact of_decide_eq_true adds
  | startedPanic => cases adds
  | handlerPanic => cases adds
  | hookPanic => cases adds
  | takeSnapshot => cases adds
  | stopNext => cases adds
  | dropSystem => cases adds
  | _ => trivial

theorem runtimes_agree_nine :
    let log := (runtime numbers 1).history (State.withThreads numbers 1) stopsAtNine
    let log' := (actorSystem numbers).history (ActorSystem.new numbers) stopsAtNineInSystem
    let fate := ⟨[(5, 0), (9, 5)], 14, true, [4]⟩
    Shows (Trace.worker 0 log) (((runtime numbers 1).last (State.withThreads numbers 1) stopsAtNine).workers 0).actorMap 1 ()
        fate ∧
      Shows (SystemTrace.events log') ((actorSystem numbers).last (ActorSystem.new numbers) stopsAtNineInSystem).actors 1 ()
        fate := by
  have reached := (runtime numbers 1).run_reach_rely (State.serving sums fun _ => 0) []
    ((runtime numbers 1).history (State.withThreads numbers 1) stopsAtNine) (State.withThreads numbers 1)
    ((runtime numbers 1).last (State.withThreads numbers 1) stopsAtNine) stopsAtNine (.init _ rfl) rfl
    (Machine.allowed_checked _ _ State.addsUp State.addsUp_serving _ _ _ rfl)
  have reached' := (actorSystem numbers).run_reach_rely (ActorSystem.serving sums fun _ => 0) []
    ((actorSystem numbers).history (ActorSystem.new numbers) stopsAtNineInSystem) (ActorSystem.new numbers)
    ((actorSystem numbers).last (ActorSystem.new numbers) stopsAtNineInSystem) stopsAtNineInSystem (.init _ rfl) rfl
    (Machine.allowed_checked _ _ ActorSystem.addsUp ActorSystem.addsUp_serving _ _ _ rfl)
  exact runtimes_agree sums _ _ _ _ _ _ reached reached' 0 1 1 () (@List.mem_of_getElem? _ _ 0 _ rfl)
    (@List.mem_of_getElem? _ _ 0 _ rfl) rfl rfl rfl rfl rfl rfl

end Actinium
