import Actinium.Conservation

set_option autoImplicit false

namespace Actinium

variable {P : Program} {n : Nat}

namespace State

-- Runs without shutdown: the Runtime is neither run, dropped nor told to stop.
def unshut : Machine.Rely (State P n) (Action P n) (Entry P n) := fun _ _ action =>
  match action with
  | .shutdown _ => False
  | .run => False
  | .dropRuntime => False
  | _ => True

-- A worker's channel is closed once every Addr to its actors is gone.
def SelfCleaning (s : State P n) (w : Fin n) : Prop := (∀ addr ∈ s.addrs, addr.tx ≠ w) → s.msgSenders w = 0

theorem shared_alive_owned (s : State P n) (owned : s.owner = .owned) : s.sharedAlive = true := by
  simp [sharedAlive, owned]

-- A worker holds the structure it would have to see dropped.
theorem shared_alive_worker (s : State P n) (w : Fin n) (running : ∀ panicked, (s.workers w).phase ≠ .ended panicked) :
    s.sharedAlive = true := by
  simp only [sharedAlive, Bool.or_eq_true]
  refine Or.inl (Or.inr (List.any_eq_true.mpr ⟨w, List.mem_finRange w, ?_⟩))
  split
  · rename_i panicked here
    exact absurd here (running panicked)
  · rfl

theorem msg_senders_shared (s : State P n) (w : Fin n) (alive : s.sharedAlive = true) : 0 < s.msgSenders w := by
  rw [msgSenders, if_pos alive]
  omega

theorem owned_step (s next : State P n) (action : Action P n) (entries log : Trace P n) (moves : Moves s action entries next)
    (allowed : unshut log s action) (owned : s.owner = .owned) : next.owner = .owned := by
  cases moves with
  | shutdownFailed => cases allowed
  | shutdown => cases allowed
  | run => cases allowed
  | dropRuntime => cases allowed
  | wake here => simp [owned] at here
  | ownerFailed k expects bound here => simp [owned] at here
  | ownerShutdown k expects bound result here => simp [owned] at here
  | ownerJoins k expects bound here => simp [owned] at here
  | joined k expects panicked bound here => simp [owned] at here
  | allJoined k expects bound here => simp [owned] at here
  | _ => first | exact owned | exact (on_worker_owner _ _ _).trans owned

theorem reach_owned (log : Trace P n) (s : State P n) (reached : (runtime P n).Reach unshut log s) : s.owner = .owned := by
  refine Machine.reach_invariant (runtime P n) unshut (fun _ s => s.owner = .owned) ?_ ?_ log s reached
  · intro s start
    rw [start]
    rfl
  · intro log s action next entries _ owned allowed taken
    exact owned_step s next action entries log (step_moves s next action entries taken) allowed owned

-- recv_timeout never reports Disconnected to a worker in its loop.
theorem receive_connected (s next : State P n) (w : Fin n) (entries : Trace P n)
    (taken : s.step (.worker w .recvTimeout) = some (next, entries)) : (next.workers w).phase = .control := by
  have moves := step_moves s next _ entries taken
  generalize same : Action.worker w .recvTimeout = action at moves
  cases moves with
  | worker v act result free taken =>
      cases same
      obtain ⟨later, events⟩ := result
      have receives := Worker.step_moves _ _ _ _ taken
      rw [on_worker_workers, Function.update_self]
      generalize same : Worker.Act.own (s.msgSenders w) Worker.Own.recvTimeout = act at receives
      cases receives with
      | receive => rfl
      | timeout => rfl
      | disconnected senders here queue none =>
          cases same
          have shared := shared_alive_worker s w (by simp [here])
          have connected := msg_senders_shared s w shared
          omega
      | _ => cases same
  | post blocking => cases blocking <;> cases same
  | postFailed blocking => cases blocking <;> cases same
  | _ => cases same

end State

-- A channel without Addrs stays open: the Runtime and the worker itself hold a
-- sender in what they share.
theorem self_cleaning_iff (log : Trace P n) (s : State P n) (reached : (runtime P n).Reach State.unshut log s) (w : Fin n) :
    (s.SelfCleaning w ↔ ∃ addr ∈ s.addrs, addr.tx = w) ∧
      ∀ next entries, s.step (.worker w .recvTimeout) = some (next, entries) → (next.workers w).phase = .control := by
  refine ⟨?_, fun next entries taken => State.receive_connected s next w entries taken⟩
  have connected := State.msg_senders_shared s w (State.shared_alive_owned s (State.reach_owned log s reached))
  constructor
  · intro cleans
    by_contra none
    have closed := cleans fun addr member same => none ⟨addr, member, same⟩
    omega
  · rintro ⟨addr, member, same⟩ none
    exact absurd same (none addr member)

theorem self_cleaning_iff_cloned : ∃ s : State numbers 1, (∃ log, (runtime numbers 1).Reach State.unshut log s) ∧
    (s.SelfCleaning 0 ↔ ∃ addr ∈ s.addrs, addr.tx = 0) := by
  have reached : (runtime numbers 1).Reach State.unshut _ _ :=
    Machine.run_reach_rely (runtime numbers 1) State.unshut [] _ _ _ (spawnOne ++ [Action.cloneAddr 0, .dropAddr 0])
      (.init _ rfl) rfl
      (Machine.allowed_actions _ _ _ _ _ (by simp [spawnOne, State.unshut]))
  exact ⟨_, ⟨_, reached⟩, (self_cleaning_iff _ _ reached 0).1⟩

-- The only Addr of a runtime is dropped, and its worker goes on polling.
def lastDropped : List (Action numbers 1) :=
  spawnOne ++ ([.dropAddr 0, .worker 0 .pollControl, .worker 0 .drain, .worker 0 .runTurn] : List (Action numbers 1))

theorem channel_kept_open : ∃ s next : State numbers 1, (∃ log, (runtime numbers 1).Reach State.unshut log s) ∧
    s.addrs = [] ∧ (s.workers 0).msgRx.queue = [] ∧ (s.workers 0).scheduler.nextReady.1 = none ∧ ¬ s.SelfCleaning 0 ∧
      s.step (.worker 0 .recvTimeout) = some (next, []) ∧ (next.workers 0).phase = .control := by
  have reached : (runtime numbers 1).Reach State.unshut _ _ :=
    Machine.run_reach_rely (runtime numbers 1) State.unshut [] _ _ _ lastDropped (.init _ rfl) rfl
      (Machine.allowed_actions _ _ _ _ _ (by simp [lastDropped, spawnOne, State.unshut]))
  refine ⟨_, _, ⟨_, reached⟩, rfl, rfl, rfl, ?_, rfl, rfl⟩
  intro cleans
  have none := cleans (by decide)
  cases none

end Actinium
