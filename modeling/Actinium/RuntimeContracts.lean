import Actinium.Agreement
import Actinium.WorkerContracts

set_option autoImplicit false

namespace Actinium

variable {P : Program} {n : Nat}

def Trace.turns (log : Trace P n) (id : ActorId) : Turns P := log.seen (Event.turn id)

namespace State

-- Each callback keeps the contract by itself. All else is left open: sends and
-- spawns from anywhere, stops, panics of any callback, shutdown, run and Drop.
def contractual (contract : Contract P) : Machine.Rely (State P n) (Action P n) (Entry P n) := fun _ s action =>
  match action with
  | .startedReturn id val => ∀ via ty old w ctx,
      s.calls.lookup id = some ⟨via, ty, .starting old w ctx⟩ → contract id [] ⟨ty, val⟩
  | .worker w act => Worker.honours contract (s.workers w) act
  | _ => True

structure Contracted (contract : Contract P) (log : Trace P n) (s : State P n) : Prop where
  calls : ∀ id via ty val w, s.calls.lookup id = some ⟨via, ty, .started val w⟩ → contract id [] ⟨ty, val⟩
  queued : ∀ w, Worker.Queued contract (s.workers w)
  upheld : ∀ w, Upheld contract (log.worker w) (s.workers w).actorMap (s.workers w).phase.inHand

theorem source_delivers (contract : Contract P) (log : Trace P n) (s : State P n) (action : Action P n) (w : Fin n)
    (act : Worker.Act P) (contracted : Contracted contract log s) (allowed : contractual contract log s action)
    (source : Sourced s action w act) : Worker.delivers contract (s.workers w) act := by
  cases act with
  | post => trivial
  | stopCtx => trivial
  | spawnActorDirect id actor onStop =>
      obtain ⟨via, found⟩ := source
      exact contracted.calls id via _ _ w found
  | postControl msg =>
      cases msg with
      | spawnActor id actor onStop =>
          obtain ⟨via, found⟩ := source
          exact contracted.calls id via _ _ w found
      | shutdown => trivial
  | own senders own =>
      obtain ⟨rfl, _⟩ := source
      exact allowed

theorem calls_contracted (contract : Contract P) (log entries : Trace P n) (s next : State P n) (action : Action P n)
    (contracted : Contracted contract log s) (allowed : contractual contract log s action)
    (moves : Moves s action entries next) (id : ActorId) (via : Option (Caller n)) (ty : P.Ty) (val : P.Val) (w : Fin n)
    (found : next.calls.lookup id = some ⟨via, ty, .started val w⟩) : contract id [] ⟨ty, val⟩ := by
  rcases started_value s next action entries moves id via ty val w found with old | returns
  · exact contracted.calls id via ty val w old
  · cases moves with
    | startedReturn other via' ty' old val' v ctx free here =>
        cases returns
        rw [lookup_set, if_pos rfl] at found
        cases found
        exact allowed _ _ _ _ _ here
    | post blocking => cases blocking <;> cases returns
    | postFailed blocking => cases blocking <;> cases returns
    | _ => cases returns

theorem contracted_step (contract : Contract P) (log entries : Trace P n) (s next : State P n) (action : Action P n)
    (routed : Routed log s) (contracted : Contracted contract log s) (allowed : contractual contract log s action)
    (taken : s.step action = some (next, entries)) : Contracted contract (log ++ entries) next := by
  have moves := step_moves s next action entries taken
  have workers (w : Fin n) : Worker.Queued contract (next.workers w) ∧
      Upheld contract ((log ++ entries).worker w) (next.workers w).actorMap (next.workers w).phase.inHand := by
    rw [Trace.worker_append]
    rcases worker_source log entries s next action routed moves w with ⟨same, silent⟩ | ⟨act, source, kindly, stepped⟩
    · rw [same, silent, List.append_nil]
      exact ⟨contracted.queued w, contracted.upheld w⟩
    · have delivered := source_delivers contract log s action w act contracted allowed source
      have steps := Worker.step_moves _ _ _ _ stepped
      exact ⟨Worker.queued_step contract _ _ act _ (contracted.queued w) delivered steps,
        Worker.upheld_step contract _ _ _ _ act (Worker.reach_sound w _ _ (routed.workers w)) (contracted.upheld w)
          (contracted.queued w) kindly delivered steps⟩
  exact ⟨calls_contracted contract log entries s next action contracted allowed moves, fun w => (workers w).1,
    fun w => (workers w).2⟩

end State

theorem reach_contracted (contract : Contract P) (log : Trace P n) (s : State P n)
    (reached : (runtime P n).Reach (State.contractual contract) log s) : State.Contracted contract log s := by
  refine Machine.reach_invariant (runtime P n) (State.contractual contract) (State.Contracted contract) ?_ ?_ log s reached
  · rintro s rfl
    refine ⟨?_, ?_, ?_⟩
    · intro id via ty val w found
      cases found
    · intro w id actor onStop member
      cases member
    · intro w id actor stops held
      cases held with
      | mapped cell found => cases found
      | inHand _ _ here => cases here
      | stopping _ logged => cases logged
  · intro log s action next entries before contracted allowed taken
    exact State.contracted_step contract log entries s next action (reach_routed _ log s before) contracted allowed taken

theorem turns_at_home (log : Trace P n) (s : State P n) (routed : State.Routed log s) (id : ActorId) (w : Fin n)
    (claimed : log.Claimed w id) : log.turns id = (log.worker w).turns id := by
  refine Trace.seen_at_one log _ w ?_
  intro v other
  refine Worker.unknown_turns _ _ (Worker.reach_sound v _ _ (routed.workers v)).mail id ?_
  intro known
  exact other (routed.once v w id (Or.inl known) claimed)

theorem upheld_home (contract : Contract P) (log : Trace P n) (s : State P n)
    (reached : (runtime P n).Reach (State.contractual contract) log s) (w : Fin n) (id : ActorId) (actor : AnyBox P) (stops : Bool)
    (known : id ∈ (log.worker w).known)
    (held : Holding (log.worker w) (s.workers w).actorMap (s.workers w).phase.inHand id actor stops) :
    contract id (log.turns id) actor := by
  rw [turns_at_home log s (reach_routed _ log s reached) id w (Or.inl known)]
  exact (reach_contracted contract log s reached).upheld w id actor stops held

theorem mapped_kept (contract : Contract P) (log : Trace P n) (s : State P n)
    (reached : (runtime P n).Reach (State.contractual contract) log s) (w : Fin n) (id : ActorId) (cell : ActorCell P)
    (found : (s.workers w).actorMap.lookup id = some cell) : contract id (log.turns id) cell.actor := by
  have installed := ((reach_worker _ log s reached w).placed.mapped id cell found).1
  exact upheld_home contract log s reached w id _ false (Worker.known_of_installed _ _ _ installed) (.mapped cell found)

theorem handling_kept (contract : Contract P) (log : Trace P n) (s : State P n)
    (reached : (runtime P n).Reach (State.contractual contract) log s) (w : Fin n) (turn : ActorId) (envelope : Message P)
    (cell : ActorCell P) (ctx : Context (Fin n)) (here : (s.workers w).phase = .handling turn envelope cell ctx) :
    contract envelope.actorId (log.turns envelope.actorId) cell.actor := by
  have installed := ((reach_worker _ log s reached w).placed.taken envelope.actorId cell (by rw [here]; rfl)).1
  exact upheld_home contract log s reached w _ _ false (Worker.known_of_installed _ _ _ installed)
    (.inHand _ _ (by rw [here]; rfl))

theorem stopping_kept (contract : Contract P) (log : Trace P n) (s : State P n)
    (reached : (runtime P n).Reach (State.contractual contract) log s) (w : Fin n) (id : ActorId) (actor : AnyBox P)
    (member : .at w (.stopping id actor) ∈ log) : contract id (log.turns id) actor := by
  have logged := (Trace.mem_worker w (.stopping id actor) log).mpr member
  have known := (reach_worker _ log s reached w).placed.gone id ((Log.mem_gone _ _).mpr ⟨actor, logged⟩)
  exact upheld_home contract log s reached w id actor true known (.stopping actor logged)

-- An actor can be reasoned about alone: a promise of its value that the started
-- hook makes and that every handler, by itself, keeps holds of the value every
-- callback of the actor is given, in every run of the runtime.
theorem contracts_kept (contract : Contract P) (log : Trace P n) (s : State P n)
    (reached : (runtime P n).Reach (State.contractual contract) log s) :
    (∀ w id cell, (s.workers w).actorMap.lookup id = some cell → contract id (log.turns id) cell.actor) ∧
      (∀ w turn envelope cell ctx, (s.workers w).phase = .handling turn envelope cell ctx →
        contract envelope.actorId (log.turns envelope.actorId) cell.actor) ∧
      ∀ w id actor, .at w (.stopping id actor) ∈ log → contract id (log.turns id) actor :=
  ⟨mapped_kept contract log s reached, handling_kept contract log s reached, stopping_kept contract log s reached⟩

-- An actor that counts its handlers, also one that panics.
def counting : Contract numbers := fun _ turns actor => actor.val = turns.length

theorem counting_keeps (id : ActorId) (turn : Nat × Option Nat) (old new : AnyBox numbers) (more : new.val = old.val + 1) :
    counting.keeps id turn old new := by
  intro turns counted
  change new.val = (turns ++ [turn]).length
  rw [more, counted, List.length_append, List.length_singleton]

def State.counts (s : State numbers 1) : Action numbers 1 → Bool
  | .startedReturn _ val => val = 0
  | .worker _ (.handlerReturn val _) | .worker _ (.handlerPanic val) =>
      match (s.workers 0).phase with
      | .handling _ _ cell _ => val = cell.actor.val + 1
      | _ => true
  | _ => true

theorem State.counts_contractual (log : Trace numbers 1) (s : State numbers 1) (action : Action numbers 1)
    (counts : s.counts action = true) : State.contractual counting log s action := by
  cases action with
  | startedReturn id val => exact fun _ _ _ _ _ _ => (of_decide_eq_true counts : val = 0)
  | worker w own =>
      obtain rfl := Subsingleton.elim w 0
      cases own with
      | handlerReturn val reply =>
          intro turn envelope cell ctx phase
          simp only [State.counts, phase] at counts
          exact counting_keeps _ _ _ _ (of_decide_eq_true counts)
      | handlerPanic val =>
          intro turn envelope cell ctx phase
          simp only [State.counts, phase] at counts
          exact counting_keeps _ _ _ _ (of_decide_eq_true counts)
      | _ => trivial
  | _ => trivial

def countsTwo : List (Action numbers 1) :=
  spawnOne ++ ([.doSend 0 5, .doSend 0 6, .worker 0 .pollControl, .worker 0 .drain, .worker 0 .drain, .worker 0 .drain,
    .worker 0 .runTurn, .worker 0 (.handlerReturn 1 50), .worker 0 .settle, .worker 0 .pollControl, .worker 0 .drain,
    .worker 0 .runTurn, .worker 0 (.handlerPanic 2), .worker 0 .hookReturn] : List (Action numbers 1))

theorem contracts_kept_counting :
    let log := (runtime numbers 1).history (State.withThreads numbers 1) countsTwo
    Trace.turns log 1 = [(5, some 50), (6, none)] ∧ .at 0 (.stopping 1 ⟨(), 2⟩) ∈ log ∧
      counting 1 (Trace.turns log 1) ⟨(), 2⟩ := by
  intro log
  have reached := (runtime numbers 1).run_reach_rely (State.contractual counting) [] log (State.withThreads numbers 1)
    ((runtime numbers 1).last (State.withThreads numbers 1) countsTwo) countsTwo (.init _ rfl) rfl
    (Machine.allowed_checked _ _ State.counts State.counts_contractual _ _ _ rfl)
  have stopped : .at 0 (.stopping 1 ⟨(), 2⟩) ∈ log := @List.mem_of_getElem? _ _ 11 _ rfl
  exact ⟨rfl, stopped, (contracts_kept counting _ _ reached).2.2 0 1 ⟨(), 2⟩ stopped⟩

end Actinium
