import Actinium.Conservation
import Actinium.ActorSystemProcesses

set_option autoImplicit false

namespace Actinium

variable {P : Program} {n : Nat}

def Entry.seen {β : Type} (f : Event P → Option β) : Entry P n → Option β
  | .at _ event => f event
  | _ => none

namespace Trace

def seen {β : Type} (log : Trace P n) (f : Event P → Option β) : List β := log.filterMap (Entry.seen f)

def signs (log : Trace P n) (id : ActorId) : Signs P := log.seen (Event.sign id)

-- What is seen at one worker only is seen there in the order of the run.
theorem seen_at_one {β : Type} (log : Trace P n) (f : Event P → Option β) (w : Fin n)
    (only : ∀ v, v ≠ w → (log.worker v).filterMap f = []) : log.seen f = (log.worker w).filterMap f := by
  induction log with
  | nil => rfl
  | cons head tail ih =>
      have split (v : Fin n) : (Trace.worker v (head :: tail)).filterMap f =
          (Trace.worker v [head]).filterMap f ++ (Trace.worker v tail).filterMap f := by
        rw [← List.singleton_append, Trace.worker_append, List.filterMap_append]
      have rest := ih fun v other => (List.append_eq_nil_iff.mp ((split v).symm.trans (only v other))).2
      have whole : seen (head :: tail) f = seen [head] f ++ seen tail f := by
        rw [seen, ← List.singleton_append, List.filterMap_append]
        rfl
      have now : seen [head] f = (Trace.worker w [head]).filterMap f := by
        cases head with
        | «at» v event =>
            have here : Trace.worker v [(.at v event : Entry P n)] = [event] := Trace.worker_same v [event]
            by_cases same : v = w
            · subst same
              rw [here]
              rfl
            · have elsewhere : Trace.worker w [(.at v event : Entry P n)] = [] := Trace.worker_other w v (Ne.symm same) [event]
              have none := (List.append_eq_nil_iff.mp ((split v).symm.trans (only v same))).1
              rw [here] at none
              rw [elsewhere]
              exact none
        | _ => rfl
      rw [whole, split w, now, rest]

-- What is seen at no worker is not seen at all.
theorem seen_nowhere {β : Type} (log : Trace P n) (f : Event P → Option β)
    (silent : ∀ w, (log.worker w).filterMap f = []) : log.seen f = [] := by
  apply List.filterMap_eq_nil_iff.mpr
  intro entry member
  cases entry with
  | «at» w event => exact List.filterMap_eq_nil_iff.mp (silent w) event ((Trace.mem_worker w event log).mpr member)
  | _ => rfl

end Trace

theorem unclaimed_signs (log : Trace P n) (s : State P n) (routed : State.Routed log s) (w : Fin n) (id : ActorId)
    (unclaimed : ¬ log.Claimed w id) : (log.worker w).signs id = [] := by
  have led := Worker.reach_process w _ _ (routed.workers w) id
  have unknown : id ∉ (log.worker w).known := fun known => unclaimed (Or.inl known)
  have placed := (Worker.reach_sound w _ _ (routed.workers w)).placed
  exact (Process.absent_silent false _ _ led (Worker.status_absent _ _ placed id unknown)).1

-- Every actor of a Runtime is a sequential process with a mailbox, whatever
-- the threads do. A panicking handler makes its actor leave.
theorem runtime_refines_process (log : Trace P n) (s : State P n) (reached : (runtime P n).Reach Machine.free log s)
    (id : ActorId) :
    (∀ w, log.Claimed w id →
      (Process.machine (Message P) P.Reply false).Reach Machine.free (log.signs id)
          (Worker.process (log.worker w) (s.workers w) id) ∧
        ((Worker.process (log.worker w) (s.workers w) id).status = .idle →
          (∃ cell, (s.workers w).actorMap.lookup id = some cell) ∨ ∃ cell, (s.workers w).phase.out = some (id, cell))) ∧
      ((∀ w, ¬ log.Claimed w id) → log.signs id = []) := by
  have routed := reach_routed _ log s reached
  refine ⟨?_, ?_⟩
  · intro w placed
    have alone : log.signs id = (log.worker w).signs id := by
      refine Trace.seen_at_one log _ w ?_
      intro v other
      exact unclaimed_signs log s routed v id fun claimed => other (routed.once v w id claimed placed)
    rw [alone]
    exact ⟨Worker.reach_process w _ _ (routed.workers w) id,
      Worker.process_idle _ _ (reach_worker _ log s reached w).placed id⟩
  · intro nowhere
    exact Trace.seen_nowhere log _ fun w => unclaimed_signs log s routed w id (nowhere w)

-- The second of two messages makes the handler panic.
def panicSecond : List (Action numbers 1) :=
  spawnOne ++ ([.doSend 0 5, .doSend 0 6, .worker 0 .pollControl, .worker 0 .drain, .worker 0 .drain, .worker 0 .drain,
    .worker 0 .runTurn, .worker 0 (.handlerReturn 5 50), .worker 0 .settle, .worker 0 .pollControl, .worker 0 .drain,
    .worker 0 .runTurn, .doSend 0 7, .worker 0 (.handlerPanic 5), .worker 0 .hookReturn] : List (Action numbers 1))

theorem runtime_refines_process_panic : ∃ (log : Trace numbers 1) (s : State numbers 1),
    (runtime numbers 1).Reach Machine.free log s ∧
      (Process.machine (Message numbers) Nat false).Reach Machine.free
        [.installed, .accepted ⟨1, (), 5, false, 0⟩, .accepted ⟨1, (), 6, false, 1⟩, .handling ⟨1, (), 5, false, 0⟩,
          .handled ⟨1, (), 5, false, 0⟩ 50, .handling ⟨1, (), 6, false, 1⟩, .accepted ⟨1, (), 7, false, 2⟩,
          .panicked ⟨1, (), 6, false, 1⟩, .leaving, .left true]
        ⟨.dead, [⟨1, (), 7, false, 2⟩]⟩ := by
  have reached := Machine.run_reach (runtime numbers 1) _ _ _ panicSecond rfl rfl
  exact ⟨_, _, reached, ((runtime_refines_process _ _ reached 1).1 0 (Or.inl (by decide))).1⟩

end Actinium
