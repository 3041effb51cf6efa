import Actinium.WorkerShutdown

set_option autoImplicit false

namespace Actinium

variable {P : Program} {n : Nat}

namespace State

-- What becomes of an actor whose started hook has returned: its spawn call is
-- about to hand it over, or has found the worker gone, or has given it away.
structure Followed (log : Trace P n) (s : State P n) : Prop where
  started : ∀ id, .started id ∈ log → (∃ w, .unsent id w ∈ log) ∨ (∃ w, log.Claimed w id) ∨
    ∃ via ty val w, s.calls.lookup id = some ⟨via, ty, .started val w⟩
  claimed : ∀ w id, log.Claimed w id → .started id ∈ log
  leaving : ∀ id via ty val w, s.calls.lookup id = some ⟨via, ty, .started val w⟩ → .started id ∈ log
  unsent : ∀ id w, .unsent id w ∈ log → .started id ∈ log ∧ Unclaimed log id ∧ s.calls.lookup id = none ∧ id < s.nextId

theorem unsent_inv (s next : State P n) (action : Action P n) (entries : Trace P n) (moves : Moves s action entries next)
    (id : ActorId) (w : Fin n) (member : .unsent id w ∈ entries) :
    entries = [.unsent id w] ∧ next.calls.lookup id = none ∧ next.nextId = s.nextId ∧
      ∃ ty val, s.calls.lookup id = some ⟨none, ty, .started val w⟩ := by
  cases moves with
  | remoteFailed other ty val v found failed =>
      simp only [List.mem_singleton, Entry.unsent.injEq] at member
      obtain ⟨rfl, rfl⟩ := member
      exact ⟨rfl, by rw [lookup_end, if_pos rfl], rfl, ty, val, found⟩
  | _ => simp at member

theorem started_inv (s next : State P n) (action : Action P n) (entries : Trace P n) (moves : Moves s action entries next)
    (id : ActorId) (member : .started id ∈ entries) :
    ∃ via ty val w, next.calls.lookup id = some ⟨via, ty, .started val w⟩ := by
  cases moves with
  | startedReturn other via ty old val w ctx free found =>
      simp only [List.mem_singleton, Entry.started.injEq] at member
      subst member
      exact ⟨via, ty, val, w, by rw [lookup_set, if_pos rfl]⟩
  | _ => simp at member

theorem started_kept (s next : State P n) (action : Action P n) (entries : Trace P n)
    (moves : Moves s action entries next) (id : ActorId) (fresh : id ≠ s.nextId) (via : Option (Caller n)) (ty : P.Ty)
    (val : P.Val) (w : Fin n) (found : s.calls.lookup id = some ⟨via, ty, .started val w⟩) :
    next.calls.lookup id = s.calls.lookup id ∨ .unsent id w ∈ entries ∨ entries.Claimed w id := by
  have other (call : SpawnCall P n) (stage : ∀ val v, call.stage ≠ .started val v)
      (before : s.calls.lookup id = some call) : False := by
    rw [found] at before
    cases before
    exact stage val w rfl
  cases call_moves s next action entries moves id with
  | answered events answers =>
      rcases answers with same | ⟨_, _, _, before, _⟩
      · exact Or.inl same
      · exact (other _ (by simp) before).elim
  | unsent ty val v before now trace =>
      rw [found] at before
      cases before
      exact Or.inr (Or.inl (by simp [trace]))
  | sent ty val v before now trace =>
      rw [found] at before
      cases before
      refine Or.inr (Or.inr (Or.inr ?_))
      simp [trace, Trace.worker, Entry.view, Log.spawnsSent, Event.sendsSpawn]
  | installed via ty val v before now trace =>
      rw [found] at before
      cases before
      refine Or.inr (Or.inr (Or.inl ?_))
      simp [trace, Trace.worker, Entry.view, Log.known, Log.installed, Event.installs]
  | allocated ty val same => exact absurd same fresh
  | begun via ty val v parent same => exact absurd same fresh
  | picked via ty val v before => exact (other _ (by simp) before).elim
  | stopped via ty val v ctx before => exact (other _ (by simp) before).elim
  | started via ty old val v ctx before => exact (other _ (by simp) before).elim
  | panicked via ty val v ctx before => exact (other _ (by simp) before).elim
  | returned via ty v before => exact (other _ (by simp) before).elim
  | refused via ty before => exact (other _ (by simp) before).elim

theorem started_origin (s next : State P n) (action : Action P n) (entries : Trace P n)
    (moves : Moves s action entries next) (id : ActorId) (via : Option (Caller n)) (ty : P.Ty) (val : P.Val) (w : Fin n)
    (found : next.calls.lookup id = some ⟨via, ty, .started val w⟩) :
    s.calls.lookup id = some ⟨via, ty, .started val w⟩ ∨ .started id ∈ entries := by
  cases call_moves s next action entries moves id with
  | answered events answers =>
      rcases answers with same | ⟨_, _, _, _, ⟨yes, _⟩ | ⟨no, _⟩⟩
      · exact Or.inl (same ▸ found)
      · simp [yes] at found
      · simp [no] at found
  | started via ty old val v ctx before now trace => exact Or.inr (by simp [trace])
  | _ => simp [*] at found

theorem followed_step (log entries : Trace P n) (s next : State P n) (action : Action P n) (routed : Routed log s)
    (followed : Followed log s) (moves : Moves s action entries next) : Followed (log ++ entries) next := by
  have stillClaimed (id : ActorId) (v : Fin n) (claimed : log.Claimed v id) : (log ++ entries).Claimed v id :=
    (Trace.claimed_append log entries v id).mpr (Or.inl claimed)
  have nowClaimed (id : ActorId) (v : Fin n) (claimed : entries.Claimed v id) : (log ++ entries).Claimed v id :=
    (Trace.claimed_append log entries v id).mpr (Or.inr claimed)
  refine ⟨?_, ?_, ?_, ?_⟩
  · intro id member
    rcases List.mem_append.mp member with old | new
    · rcases followed.started id old with ⟨w, unsent⟩ | ⟨w, claimed⟩ | ⟨via, ty, val, w, found⟩
      · exact Or.inl ⟨w, List.mem_append_left _ unsent⟩
      · exact Or.inr (Or.inl ⟨w, stillClaimed id w claimed⟩)
      · rcases started_kept s next action entries moves id
            (Nat.ne_of_lt (routed.callBound id _ found)) via ty val w found with same | unsent | claimed
        · exact Or.inr (Or.inr ⟨via, ty, val, w, same.trans found⟩)
        · exact Or.inl ⟨w, List.mem_append_right _ unsent⟩
        · exact Or.inr (Or.inl ⟨w, nowClaimed id w claimed⟩)
    · exact Or.inr (Or.inr (started_inv s next action entries moves id new))
  · intro w id claimed
    apply List.mem_append_left
    rcases (Trace.claimed_append log entries w id).mp claimed with old | new
    · exact followed.claimed w id old
    · rcases claimed_step log entries s next action routed moves w id new with old | ⟨_, via, ty, val, found⟩
      · exact followed.claimed w id old
      · exact followed.leaving id via ty val w found
  · intro id via ty val w found
    rcases started_origin s next action entries moves id via ty val w found with old | new
    · exact List.mem_append_left _ (followed.leaving id via ty val w old)
    · exact List.mem_append_right _ new
  · intro id w member
    rcases List.mem_append.mp member with old | new
    · obtain ⟨started, unclaimed, absent, bound⟩ := followed.unsent id w old
      have counters := (counters_step s next action entries moves).1
      refine ⟨List.mem_append_left _ started, ?_, ?_, Nat.lt_of_lt_of_le bound counters⟩
      · intro v claimed
        rcases (Trace.claimed_append log entries v id).mp claimed with before | now
        · exact unclaimed v before
        · rcases claimed_step log entries s next action routed moves v id now with before | ⟨_, _, _, _, found⟩
          · exact unclaimed v before
          · rw [absent] at found
            cases found
      · cases found : next.calls.lookup id with
        | none => rfl
        | some call =>
            rcases call_origin s next action entries moves id call found with ⟨fresh, _⟩ | ⟨prior, before, _⟩
            · exact absurd (fresh ▸ bound) (Nat.lt_irrefl _)
            · rw [absent] at before
              cases before
    · obtain ⟨only, absent, counters, ty, val, found⟩ := unsent_inv s next action entries moves id w new
      have unclaimed : Unclaimed log id := routed.calls id _ found
      refine ⟨List.mem_append_left _ (followed.leaving id none ty val w found), ?_, absent, ?_⟩
      · intro v claimed
        rcases (Trace.claimed_append log entries v id).mp claimed with before | now
        · exact unclaimed v before
        · rw [only] at now
          rcases now with known | sent
          · cases known
          · cases sent
      · rw [counters]
        exact routed.callBound id _ found

theorem followed_start : Followed ([] : Trace P n) (withThreads P n) where
  started := by simp
  claimed := by
    rintro w id (known | sent)
    · cases known
    · cases sent
  leaving := by simp [withThreads]
  unsent := by simp

end State

theorem reach_followed (rely : Machine.Rely (State P n) (Action P n) (Entry P n)) (log : Trace P n) (s : State P n)
    (reached : (runtime P n).Reach rely log s) : State.Followed log s := by
  refine Machine.reach_invariant (runtime P n) rely State.Followed ?_ ?_ log s reached
  · intro s start
    rw [start]
    exact State.followed_start
  · intro log s action next entries before followed _ taken
    exact State.followed_step log entries s next action (reach_routed rely log s before) followed
      (State.step_moves s next action entries taken)

-- Every actor that was started has had its stopped hook called once, at its
-- worker, and no actor is left.
structure Complete (log : Trace P n) (s : State P n) : Prop where
  stopped : ∀ id, .started id ∈ log → ∃ w, (log.worker w).gone.count id = 1 ∧ ∀ v, v ≠ w → id ∉ (log.worker v).gone
  empty : ∀ w, (s.workers w).actorMap = ∅

-- No actor comes to a worker after the keys of its map were taken, and none is
-- sent to it behind a Shutdown or after it is gone.
structure InTime (log : Trace P n) : Prop where
  installed : ∀ w, (log.worker w).lateInstalls = []
  sent : ∀ w, (log.worker w).lateSpawns = []
  reached : ∀ id w, .unsent id w ∉ log

theorem shutdown_complete_iff (log : Trace P n) (s : State P n) (reached : (runtime P n).Reach Machine.free log s)
    (returned : ∀ w, (s.workers w).phase.closing = true) (told : ∀ w, .at w .tookShutdown ∈ log)
    (idle : s.calls = ∅) (calm : ∀ w id, .at w (.stopPanicked id) ∉ log) : Complete log s ↔ InTime log := by
  have routed := reach_routed _ log s reached
  have followed := reach_followed _ log s reached
  have quiet (w : Fin n) (id : ActorId) : .stopPanicked id ∉ log.worker w := by
    rw [Trace.mem_worker]
    exact calm w id
  have stopped (w : Fin n) := Worker.returned_gone_iff w _ _ (routed.workers w) (returned w) (quiet w)
  have emptied (w : Fin n) := Worker.returned_map_iff w _ _ (routed.workers w) (returned w) (quiet w)
  have order (w : Fin n) := Worker.reach_order w _ _ (routed.workers w)
  have known (w : Fin n) (id : ActorId) (gone : id ∈ (log.worker w).gone) : id ∈ (log.worker w).known :=
    (Worker.reach_sound w _ _ (routed.workers w)).placed.gone id gone
  constructor
  · intro complete
    refine ⟨fun w => (emptied w).mp (complete.empty w), ?_, ?_⟩
    · intro w
      apply List.eq_nil_iff_forall_not_mem.mpr
      intro id late
      have claimed : log.Claimed w id := Or.inr (Log.late_spawns_sent _ id late)
      obtain ⟨v, once, _⟩ := complete.stopped id (followed.claimed w id claimed)
      have inside := known v id (List.count_pos_iff.mp (by rw [once]; exact Nat.one_pos))
      cases routed.once v w id (Or.inl inside) claimed
      exact ((order w).late id late).1 inside
    · intro id w unsent
      obtain ⟨started, unclaimed, _⟩ := followed.unsent id w unsent
      obtain ⟨v, once, _⟩ := complete.stopped id started
      exact unclaimed v (Or.inl (known v id (List.count_pos_iff.mp (by rw [once]; exact Nat.one_pos))))
  · intro timely
    refine ⟨?_, fun w => (emptied w).mpr (timely.installed w)⟩
    intro id started
    rcases followed.started id started with ⟨w, unsent⟩ | ⟨w, claimed⟩ | ⟨via, ty, val, w, found⟩
    · exact absurd unsent (timely.reached id w)
    · have here : id ∈ (log.worker w).known := by
        rcases claimed with known | sent
        · exact known
        · rcases (order w).early id sent (by rw [timely.sent w]; exact List.not_mem_nil) with known | ⟨untold, _⟩
          · exact known
          · exact absurd ((Trace.mem_worker w _ log).mpr (told w)) untold
      have gone : id ∈ (log.worker w).gone :=
        (stopped w id here).mpr (by rw [timely.installed w]; exact List.not_mem_nil)
      refine ⟨w, List.count_eq_one_of_mem (Worker.reach_swept w _ _ (routed.workers w)).once gone, ?_⟩
      intro v other wrong
      exact other (routed.once v w id (Or.inl (known v id wrong)) claimed)
    · rw [idle] at found
      cases found

-- One actor, and a Shutdown.
def stopOne : List (Action numbers 1) :=
  spawnOne ++ ([.shutdown 0, .worker 0 .pollControl, .worker 0 (.takeSnapshot [1]), .worker 0 .stopNext] : List (Action numbers 1))

def stopOneLog : Trace numbers 1 :=
  [.starting 1 0 none, .started 1, .at 0 (.spawnSent 1 ()), .at 0 (.installed 1 ()), .at 0 (.confirmed 1), .at 0 .shutdownSent,
    .at 0 .tookShutdown, .at 0 (.snapshot [1]), .at 0 (.stopping 1 ⟨(), 0⟩)]

def hookReturns : List (Action numbers 1) :=
  stopOne ++ ([.worker 0 .hookReturn, .worker 0 .stopNext, .worker 0 .exit, .worker 0 .exit, .worker 0 .exit] :
    List (Action numbers 1))

theorem shutdown_complete_one : ∃ s : State numbers 1,
    (runtime numbers 1).Reach Machine.free (stopOneLog ++ [Entry.at 0 (.stopped 1)]) s ∧
      Complete (stopOneLog ++ [Entry.at 0 (.stopped 1)]) s := by
  have reached : (runtime numbers 1).Reach Machine.free (stopOneLog ++ [Entry.at 0 (.stopped 1)]) _ :=
    Machine.run_reach (runtime numbers 1) _ _ _ hookReturns rfl rfl
  have timely : InTime (stopOneLog ++ [Entry.at 0 (.stopped 1)]) :=
    ⟨Fin.forall_fin_one.mpr rfl, Fin.forall_fin_one.mpr rfl, by simp [stopOneLog]⟩
  exact ⟨_, reached, (shutdown_complete_iff _ _ reached (Fin.forall_fin_one.mpr rfl)
    (Fin.forall_fin_one.mpr (by simp [stopOneLog])) rfl (by simp [stopOneLog])).mpr timely⟩

-- The stopped hook called by the sweep spawns a child, which is never stopped.
def hookSpawns : List (Action numbers 1) :=
  stopOne ++ ([.ctxSpawn (.worker 0) () 0, .startedReturn 2 0, .handOver 2, .worker 0 .hookReturn, .worker 0 .stopNext,
    .worker 0 .exit, .worker 0 .exit, .worker 0 .exit] :
    List (Action numbers 1))

def hookSpawnsLog : Trace numbers 1 :=
  stopOneLog ++ ([.starting 2 0 (some 1), .started 2, .at 0 (.installed 2 ()), .at 0 (.stopped 1)] : Trace numbers 1)

theorem shutdown_incomplete : ∃ s : State numbers 1, (runtime numbers 1).Reach Machine.free hookSpawnsLog s ∧
    (∀ w, (s.workers w).phase = .ended false) ∧ (∀ w, .at w .tookShutdown ∈ hookSpawnsLog) ∧ s.calls = ∅ ∧
      (∀ id, .startPanicked id ∉ hookSpawnsLog) ∧ (∀ w envelope, .at w (.panicked envelope) ∉ hookSpawnsLog) ∧
        (∀ w id, .at w (.stopPanicked id) ∉ hookSpawnsLog) ∧ .started 2 ∈ hookSpawnsLog ∧
          (∀ w, 2 ∉ (hookSpawnsLog.worker w).gone) ∧ (∀ w, (s.workers w).actorMap.lookup 2 = some ⟨⟨(), 0⟩, ()⟩) ∧
            ¬ Complete hookSpawnsLog s := by
  have unstopped : ∀ w, 2 ∉ (hookSpawnsLog.worker w).gone := Fin.forall_fin_one.mpr (by decide)
  have started : .started 2 ∈ hookSpawnsLog := by simp [hookSpawnsLog]
  have reached : (runtime numbers 1).Reach Machine.free hookSpawnsLog _ :=
    Machine.run_reach (runtime numbers 1) _ _ _ hookSpawns rfl rfl
  refine ⟨_, reached, Fin.forall_fin_one.mpr rfl, Fin.forall_fin_one.mpr (by simp [hookSpawnsLog, stopOneLog]), rfl,
    by simp [hookSpawnsLog, stopOneLog], by simp [hookSpawnsLog, stopOneLog], by simp [hookSpawnsLog, stopOneLog], started,
    unstopped, Fin.forall_fin_one.mpr rfl, ?_⟩
  intro complete
  obtain ⟨w, once, _⟩ := complete.stopped 2 started
  rw [List.count_eq_zero.mpr (unstopped w)] at once
  cases once

end Actinium
