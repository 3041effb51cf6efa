import Actinium.ActorSystemPanics
import Actinium.Contracts

set_option autoImplicit false

namespace Actinium

variable {P : Program}

def SystemTrace.turns (log : SystemTrace P) (id : ActorId) : Turns P := log.events.turns id

namespace ActorSystem

-- Each callback keeps the contract by itself. All else is left open.
def contractual (contract : Contract P) : Machine.Rely (ActorSystem P) (SystemAction P) (SystemEntry P) := fun _ s action =>
  match action with
  | .startedReturn val => ∀ id ty old ctx, s.phase = .starting id ty old ctx → contract id [] ⟨ty, val⟩
  | .handlerReturn val reply => ∀ loop envelope cell ctx, s.phase = .handling loop envelope cell ctx →
      contract.keeps envelope.actorId (envelope.dispatch.msg, some reply) cell.actor (cell.write val).actor
  | .handlerPanic val => ∀ loop envelope cell ctx, s.phase = .handling loop envelope cell ctx →
      contract.keeps envelope.actorId (envelope.dispatch.msg, none) cell.actor (cell.write val).actor
  | _ => True

theorem unknown_turns (log : SystemTrace P) (s : ActorSystem P) (reached : (actorSystem P).Reach Machine.free log s)
    (id : ActorId) (unknown : id ∉ log.events.known) : log.events.turns id = [] := by
  have typed := (reach_system_sound _ log s reached).typed
  have absent : (process log s id).status = .absent := by
    simp [process, status, unknown_calm log s typed id unknown, standing, unknown]
  have silent := (Process.absent_silent true _ _ (reach_process log s reached id) absent).1
  apply List.filterMap_eq_nil_iff.mpr
  intro event member
  have sign := List.filterMap_eq_nil_iff.mp silent event member
  cases event with
  | handled envelope reply =>
      by_cases same : envelope.actorId = id
      · simp [Event.sign, same] at sign
      · simp [Event.turn, same]
  | panicked envelope =>
      by_cases same : envelope.actorId = id
      · simp [Event.sign, same] at sign
      · simp [Event.turn, same]
  | _ => rfl

-- The actor in the map takes a turn and is written back, or begins to stop.
theorem upheld_write (contract : Contract P) (log events : Log P) (map : ActorMap P) (upheld : Upheld contract log map none)
    (id : ActorId) (cell : ActorCell P) (val : P.Val) (turn : P.Msg × Option P.Reply) (present : map.lookup id = some cell)
    (alive : id ∉ log.gone) (keeps : contract.keeps id turn cell.actor (cell.write val).actor)
    (answers : events.turns id = [turn]) (apart : ∀ other, other ≠ id → events.turns other = []) (silent : events.gone = []) :
    Upheld contract (log ++ events) (map.insert id (cell.write val)) none := by
  refine upheld_turn contract log events map _ none none upheld id cell.actor (cell.write val).actor false turn
    (.mapped cell present) keeps answers apart ?_
  intro other actor asked held
  cases held with
  | mapped known found =>
      by_cases same : other = id
      · rw [same, AList.lookup_insert] at found
        cases found
        exact Or.inr ⟨same, rfl⟩
      · rw [AList.lookup_insert_ne same] at found
        exact Or.inl ⟨same, .mapped known found⟩
  | inHand _ _ shown => cases shown
  | stopping _ logged =>
      rcases List.mem_append.mp logged with old | new
      · refine Or.inl ⟨?_, .stopping actor old⟩
        rintro rfl
        exact alive ((Log.mem_gone _ _).mpr ⟨actor, old⟩)
      · have gone := (Log.mem_gone events other).mpr ⟨actor, new⟩
        rw [silent] at gone
        cases gone

theorem upheld_step (contract : Contract P) (log entries : SystemTrace P) (s next : ActorSystem P) (action : SystemAction P)
    (reached : (actorSystem P).Reach Machine.free log s) (upheld : Upheld contract log.events s.actors none)
    (allowed : contractual contract log s action) (moves : Moves s next.sends action entries next) :
    Upheld contract (log ++ entries).events next.actors none := by
  have typed := (reach_system_sound _ log s reached).typed
  have phase := typed.phase
  have alive (id : ActorId) (cell : ActorCell P) (running : s.phase ≠ .ended) (present : s.actors.lookup id = some cell) :
      id ∉ log.events.gone := by
    have inside : id ∈ s.actors := AList.lookup_isSome.mp (by rw [present]; rfl)
    exact ((reach_remains log s reached running id).mp inside).2
  rw [SystemTrace.events_append]
  have still (map : next.actors = s.actors) (quiet : ∀ id, entries.events.turns id = []) (silent : entries.events.gone = []) :=
    upheld_still contract log.events entries.events s.actors next.actors none none upheld quiet silent map rfl
  generalize next.sends = sends at moves
  cases moves with
  | startedReturn id ty old val ctx here =>
      rw [PhaseTyped, here] at phase
      exact upheld_install contract log.events s.actors none upheld id ⟨⟨ty, val⟩, ty⟩
        (unknown_turns log s reached id phase.2) (allowed id ty old ctx here)
  | handled loop envelope cell ctx val reply here running =>
      rw [PhaseTyped, here] at phase
      obtain ⟨answers, apart⟩ := turns_one (.handled envelope reply) [] envelope.actorId (envelope.dispatch.msg, some reply)
        (fun _ => rfl) (fun _ => rfl)
      exact upheld_write contract log.events _ s.actors upheld envelope.actorId cell val _ phase.2.2
        (alive _ cell (by rw [here]; simp) phase.2.2) (allowed loop envelope cell ctx here) answers apart rfl
  | handlerPanic loop envelope cell ctx val here =>
      rw [PhaseTyped, here] at phase
      obtain ⟨answers, apart⟩ := turns_one (.panicked envelope) [] envelope.actorId (envelope.dispatch.msg, none)
        (fun _ => rfl) (fun _ => rfl)
      exact upheld_write contract log.events _ s.actors upheld envelope.actorId cell val _ phase.2.2
        (alive _ cell (by rw [here]; simp) phase.2.2) (allowed loop envelope cell ctx here) answers apart rfl
  | handledStop loop envelope cell ctx val reply here stops =>
      rw [PhaseTyped, here] at phase
      obtain ⟨holds, _, present⟩ := phase
      rw [on_stop_typed _ (cell.write val) holds.2]
      obtain ⟨answers, apart⟩ := turns_one (.handled envelope reply) [Event.stopping envelope.actorId (cell.write val).actor]
        envelope.actorId (envelope.dispatch.msg, some reply) (fun _ => rfl) (fun _ => rfl)
      refine upheld_turn contract log.events _ s.actors _ none none upheld envelope.actorId cell.actor (cell.write val).actor
        false _ (.mapped cell present) (allowed loop envelope cell ctx here) answers apart ?_
      intro other actor asked held
      cases held with
      | mapped known found =>
          obtain ⟨different, before⟩ := lookup_erased _ _ _ _ found
          exact Or.inl ⟨different, .mapped known before⟩
      | inHand _ _ shown => cases shown
      | stopping _ logged =>
          rcases List.mem_append.mp logged with old | new
          · refine Or.inl ⟨?_, .stopping actor old⟩
            rintro rfl
            exact alive _ cell (by rw [here]; simp) present ((Log.mem_gone _ _).mpr ⟨actor, old⟩)
          · simp only [SystemTrace.events_at, List.mem_cons, reduceCtorEq, Event.stopping.injEq, false_or] at new
            rcases new with ⟨rfl, rfl⟩ | wrong
            · exact Or.inr ⟨rfl, rfl⟩
            · cases wrong
  | stopNext id ids cell here present =>
      rw [on_stop_typed id cell (typed.cells id cell present).2]
      refine upheld_stop contract log.events _ s.actors _ none upheld id cell.actor false (.mapped cell present)
        (fun other known found => (lookup_erased _ _ _ _ found).2) (fun _ => rfl) ?_
      intro other box member
      cases List.mem_singleton.mp member
      exact ⟨rfl, rfl⟩
  | dropSystem here =>
      have events : SystemTrace.events (s.rx.queue.map fun envelope => SystemEntry.at (.dropped envelope)) =
          s.rx.queue.map Event.dropped := by
        simp [SystemTrace.events, List.filterMap_map, Function.comp_def, SystemEntry.event]
      rw [events]
      refine upheld_moved contract log.events _ s.actors ∅ none none upheld (Log.turns_dropped _) ?_
      intro other actor asked held
      cases held with
      | mapped known found => cases found
      | inHand _ _ shown => cases shown
      | stopping _ logged =>
          rcases List.mem_append.mp logged with old | new
          · exact ⟨_, .stopping actor old⟩
          · simp at new
  | _ => exact still rfl (fun _ => rfl) rfl

theorem reach_upheld (contract : Contract P) (log : SystemTrace P) (s : ActorSystem P)
    (reached : (actorSystem P).Reach (contractual contract) log s) : Upheld contract log.events s.actors none := by
  refine Machine.reach_invariant (actorSystem P) (contractual contract)
    (fun log s => Upheld contract (SystemTrace.events log) s.actors none) ?_ ?_ log s reached
  · rintro s rfl id actor stops held
    cases held with
    | mapped cell found => cases found
    | inHand _ _ shown => cases shown
    | stopping _ logged => cases logged
  · intro log s action next entries before upheld allowed taken
    exact upheld_step contract log entries s next action
      (Machine.reach_weaken _ _ Machine.free (fun _ _ _ _ => trivial) log s before) upheld allowed
      (step_moves s next action entries taken)

theorem handling_kept (contract : Contract P) (log : SystemTrace P) (s : ActorSystem P)
    (reached : (actorSystem P).Reach (contractual contract) log s) (loop : Loop) (envelope : Message P) (cell : ActorCell P)
    (ctx : Context Empty) (here : s.phase = .handling loop envelope cell ctx) :
    contract envelope.actorId (log.turns envelope.actorId) cell.actor := by
  have phase := (reach_system_sound _ log s reached).typed.phase
  rw [PhaseTyped, here] at phase
  exact reach_upheld contract log s reached envelope.actorId cell.actor false (.mapped cell phase.2.2)

theorem stopping_kept (contract : Contract P) (log : SystemTrace P) (s : ActorSystem P)
    (reached : (actorSystem P).Reach (contractual contract) log s) (id : ActorId) (actor : AnyBox P)
    (member : .at (.stopping id actor) ∈ log) : contract id (log.turns id) actor :=
  reach_upheld contract log s reached id actor true (.stopping actor (List.mem_filterMap.mpr ⟨_, member, rfl⟩))

end ActorSystem

-- The same for an ActorSystem, where an actor whose handler has panicked stays,
-- with what the handler has left of it.
theorem ActorSystem.system_contracts_kept (contract : Contract P) (log : SystemTrace P) (s : ActorSystem P)
    (reached : (actorSystem P).Reach (ActorSystem.contractual contract) log s) :
    (∀ id cell, s.actors.lookup id = some cell → contract id (log.turns id) cell.actor) ∧
      (∀ loop envelope cell ctx, s.phase = .handling loop envelope cell ctx →
        contract envelope.actorId (log.turns envelope.actorId) cell.actor) ∧
      ∀ id actor, .at (.stopping id actor) ∈ log → contract id (log.turns id) actor := by
  refine ⟨?_, ActorSystem.handling_kept contract log s reached, ActorSystem.stopping_kept contract log s reached⟩
  intro id cell found
  exact ActorSystem.reach_upheld contract log s reached id cell.actor false (.mapped cell found)

-- A system whose actors add up their messages, and a panic leaves the sum.
def adding : Contract numbers := fun _ turns actor => actor.val = (turns.map fun turn => turn.2.elim 0 fun _ => turn.1).sum

def ActorSystem.adds (s : ActorSystem numbers) : SystemAction numbers → Bool
  | .startedReturn val => val = 0
  | .handlerReturn val _ =>
      match s.phase with
      | .handling _ envelope cell _ => val = cell.actor.val + envelope.dispatch.msg
      | _ => true
  | .handlerPanic val =>
      match s.phase with
      | .handling _ _ cell _ => val = cell.actor.val
      | _ => true
  | _ => true

theorem adding_keeps (id : ActorId) (turn : Nat × Option Nat) (old new : AnyBox numbers)
    (more : new.val = old.val + turn.2.elim 0 fun _ => turn.1) : adding.keeps id turn old new := by
  intro turns added
  change new.val = ((turns ++ [turn]).map fun turn => turn.2.elim 0 fun _ => turn.1).sum
  rw [more, added, List.map_append, List.sum_append, List.map_singleton, List.sum_singleton]

theorem ActorSystem.adds_contractual (log : SystemTrace numbers) (s : ActorSystem numbers) (action : SystemAction numbers)
    (adds : s.adds action = true) : ActorSystem.contractual adding log s action := by
  cases action with
  | startedReturn val => exact fun _ _ _ _ _ => (of_decide_eq_true adds : val = 0)
  | handlerReturn val reply =>
      intro loop envelope cell ctx phase
      simp only [ActorSystem.adds, phase] at adds
      exact adding_keeps _ _ _ _ (of_decide_eq_true adds)
  | handlerPanic val =>
      intro loop envelope cell ctx phase
      simp only [ActorSystem.adds, phase] at adds
      exact adding_keeps _ _ _ _ (of_decide_eq_true adds)
  | _ => trivial

-- The second of three handlers panics.
def addsAround : List (SystemAction numbers) :=
  [.spawn () 0, .startedReturn 0, .doSend 0 5, .doSend 0 6, .doSend 0 7, .runOnce, .recv, .handlerReturn 5 50, .recv,
    .handlerPanic 5, .runOnce, .recv, .handlerReturn 12 70]

theorem ActorSystem.system_contracts_kept_adding :
    let log := (actorSystem numbers).history (ActorSystem.new numbers) addsAround
    SystemTrace.turns log 1 = [(5, some 50), (6, none), (7, some 70)] ∧ adding 1 (SystemTrace.turns log 1) ⟨(), 12⟩ := by
  intro log
  have reached := (actorSystem numbers).run_reach_rely (ActorSystem.contractual adding) [] log (ActorSystem.new numbers)
    ((actorSystem numbers).last (ActorSystem.new numbers) addsAround) addsAround (.init _ rfl) rfl
    (Machine.allowed_checked _ _ ActorSystem.adds ActorSystem.adds_contractual _ _ _ rfl)
  exact ⟨rfl, (ActorSystem.system_contracts_kept adding _ _ reached).1 1 ⟨⟨(), 12⟩, ()⟩ rfl⟩

end Actinium
