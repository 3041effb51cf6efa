import Actinium.PanicIsolation
import Actinium.RunReturns

set_option autoImplicit false

namespace Actinium

variable {P : Program} {n : Nat}

namespace State

-- How far run (expects) or Drop has come, and what became of the threads that
-- have been joined.
def Ending (expects : Bool) (s : State P n) : Prop :=
  match s.owner with
  | .owned => False
  | .sleeping => expects = true
  | .shutting _ other => other = expects
  | .joining k other =>
      other = expects ∧ ∀ v : Fin n, v.val < k → ∃ crashed, (s.workers v).phase = .ended crashed ∧ (expects = true → crashed = false)
  | .done false => ∀ v, ∃ crashed, (s.workers v).phase = .ended crashed ∧ (expects = true → crashed = false)
  | .done true => expects = true ∧ ∃ w, (s.workers w).phase = .ended true ∧ ∀ v, v < w → (s.workers v).phase = .ended false

theorem ending_step (expects : Bool) (log entries : Trace P n) (s next : State P n) (action : Action P n)
    (routed : Routed log s) (ending : Ending expects s) (moves : Moves s action entries next) : Ending expects next := by
  have ended (v : Fin n) (crashed : Bool) (before : (s.workers v).phase = .ended crashed) :
      (next.workers v).phase = .ended crashed := by
    rcases worker_source log entries s next action routed moves v with ⟨same, _⟩ | ⟨act, _, _, taken⟩
    · rw [same, before]
    · exact Worker.ended_step _ _ act _ (Worker.step_moves _ _ act _ taken) crashed before
  have still (owner : next.owner = s.owner) : Ending expects next := by
    unfold Ending at ending ⊢
    rw [owner]
    split at ending
    · exact ending
    · exact ending
    · exact ending
    · refine ⟨ending.1, ?_⟩
      intro v below
      obtain ⟨crashed, before, calm⟩ := ending.2 v below
      exact ⟨crashed, ended v crashed before, calm⟩
    · intro v
      obtain ⟨crashed, before, calm⟩ := ending v
      exact ⟨crashed, ended v crashed before, calm⟩
    · obtain ⟨asked, w, panicked, earlier⟩ := ending
      exact ⟨asked, w, ended w true panicked, fun v below => ended v false (earlier v below)⟩
  cases moves with
  | run owned =>
      unfold Ending at ending
      rw [owned] at ending
      exact ending.elim
  | dropRuntime owned =>
      unfold Ending at ending
      rw [owned] at ending
      exact ending.elim
  | wake here =>
      unfold Ending at ending
      rw [here] at ending
      exact ending.symm
  | ownerFailed k other bound here failed =>
      unfold Ending at ending
      rw [here] at ending
      exact ending
  | ownerShutdown k other bound result here taken =>
      unfold Ending at ending ⊢
      rw [here] at ending
      rw [on_worker_owner]
      exact ending
  | ownerJoins k other bound here =>
      unfold Ending at ending
      rw [here] at ending
      exact ⟨ending, fun v below => absurd below (Nat.not_lt_zero _)⟩
  | joined k other crashed bound here gone =>
      unfold Ending at ending
      rw [here] at ending
      obtain ⟨rfl, joined⟩ := ending
      have earlier (v : Fin n) (below : v.val < k + 1) (calm : (crashed && other) = false) :
          ∃ crashed, (s.workers v).phase = .ended crashed ∧ (other = true → crashed = false) := by
        by_cases last : v.val = k
        · refine ⟨crashed, by rw [show v = ⟨k, bound⟩ from Fin.ext last]; exact gone, ?_⟩
          intro asked
          rw [asked, Bool.and_true] at calm
          exact calm
        · exact joined v (by omega)
      cases fails : crashed && other with
      | true =>
          rw [Bool.and_eq_true] at fails
          obtain ⟨rfl, rfl⟩ := fails
          refine ⟨rfl, ⟨k, bound⟩, gone, ?_⟩
          intro v below
          obtain ⟨crashed, before, calm⟩ := joined v below
          rw [calm rfl] at before
          exact before
      | false => exact ⟨rfl, fun v below => earlier v below fails⟩
  | allJoined k other bound here =>
      unfold Ending at ending
      rw [here] at ending
      intro v
      exact ending.2 v (by omega)
  | _ => exact still (by first | rfl | exact on_worker_owner _ _ _)

end State

-- run panics exactly if a stopped hook has panicked out of some worker; Drop
-- never does. When either returns, every thread has ended.
theorem owner_outcome (log : Trace P n) (s : State P n) (reached : (runtime P n).Reach Machine.free log s) (expects : Bool)
    (called : s.owner = if expects then .sleeping else .shutting 0 false) (later : Trace P n) (next : State P n)
    (run : (runtime P n).Runs Machine.free log s later next) (panicked : Bool) (returned : next.owner = .done panicked) :
    (panicked = true ↔ expects = true ∧ ∃ w id, .at w (.stopPanicked id) ∈ later) ∧
    (panicked = false → ∀ w, ∃ crashed, (next.workers w).phase = .ended crashed ∧
      (crashed = true ↔ ∃ id, .at w (.stopPanicked id) ∈ later)) ∧
    (panicked = true → ∃ w, (next.workers w).phase = .ended true ∧ ∀ v, v < w → (next.workers v).phase = .ended false) := by
  have ends := Machine.reach_runs _ _ log later s next reached run
  have routed := reach_routed _ later next ends
  have base : State.Ending expects s := by
    unfold State.Ending
    rw [called]
    cases expects <;> rfl
  have ending : State.Ending expects next :=
    Machine.runs_invariant (runtime P n) Machine.free (fun _ s => State.Ending expects s) log s reached base
      (fun later mid action next entries before held _ taken =>
        State.ending_step expects later entries mid next action (reach_routed _ later mid before) held
          (State.step_moves mid next action entries taken)) later next run
  have crashed (w : Fin n) : (next.workers w).phase.crashed = true ↔ ∃ id, .at w (.stopPanicked id) ∈ later := by
    rw [Worker.crashed_iff w _ _ (routed.workers w)]
    simp only [Trace.mem_worker]
  unfold State.Ending at ending
  rw [returned] at ending
  cases panicked with
  | true =>
      obtain ⟨asked, w, gone, earlier⟩ := ending
      refine ⟨⟨fun _ => ⟨asked, w, (crashed w).mp (by rw [gone]; rfl)⟩, fun _ => rfl⟩, by simp, fun _ => ⟨w, gone, earlier⟩⟩
  | false =>
      refine ⟨⟨by simp, ?_⟩, ?_, by simp⟩
      · rintro ⟨asked, w, panics⟩
        obtain ⟨crash, gone, calm⟩ := ending w
        have wrong := (crashed w).mpr panics
        rw [gone, calm asked] at wrong
        cases wrong
      · intro _ w
        obtain ⟨crash, gone, _⟩ := ending w
        refine ⟨crash, gone, ?_⟩
        rw [← crashed w, gone]
        rfl

-- The stopped hook panics in the shutdown that run has asked for.
def runCalled : List (Action numbers 1) := spawnOne ++ ([.run] : List (Action numbers 1))

def hookPanicsLast : List (Action numbers 1) :=
  [.owner, .owner, .owner, .worker 0 .pollControl, .worker 0 (.takeSnapshot [1]), .worker 0 .stopNext, .worker 0 .hookPanic,
    .worker 0 .exit, .worker 0 .exit, .worker 0 .exit, .owner]

def runCalledLog : Trace numbers 1 :=
  [.starting 1 0 none, .started 1, .at 0 (.spawnSent 1 ()), .at 0 (.installed 1 ()), .at 0 (.confirmed 1)]

def hookPanicsLastLog : Trace numbers 1 :=
  runCalledLog ++ ([.at 0 .shutdownSent, .at 0 .tookShutdown, .at 0 (.snapshot [1]), .at 0 (.stopping 1 ⟨(), 0⟩),
    .at 0 (.stopPanicked 1)] : Trace numbers 1)

theorem owner_outcome_panic : ∃ s next : State numbers 1, s.owner = .sleeping ∧
    (runtime numbers 1).Runs Machine.free runCalledLog s hookPanicsLastLog next ∧ next.owner = .done true ∧
      ∃ w id, .at w (.stopPanicked id) ∈ hookPanicsLastLog := by
  have reached := Machine.run_reach (runtime numbers 1) runCalledLog _ _ runCalled rfl rfl
  have run := Machine.run_runs (runtime numbers 1) runCalledLog hookPanicsLastLog
    ((runtime numbers 1).last (State.withThreads numbers 1) runCalled)
    ((runtime numbers 1).last (State.withThreads numbers 1) (runCalled ++ hookPanicsLast)) hookPanicsLast rfl
  exact ⟨_, _, rfl, run, rfl, ((owner_outcome _ _ reached true rfl _ _ run true rfl).1.mp rfl).2⟩

end Actinium
