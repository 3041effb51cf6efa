import Mathlib.Logic.Relation
import Actinium.Lib.RoundRobin
import Actinium.Lifecycle
import Actinium.Placement

set_option autoImplicit false

namespace Actinium

variable {P : Program} {n : Nat}

namespace Entry

-- The worker that Runtime::spawn picked.
def picked : Entry P n → Option (Fin n)
  | .starting _ w none => some w
  | _ => none

end Entry

namespace Trace

def picks (log : Trace P n) : List (Fin n) := log.filterMap Entry.picked

@[simp] theorem picks_append (a b : Trace P n) : picks (a ++ b) = a.picks ++ picks b := List.filterMap_append

@[simp] theorem picks_at (w : Fin n) (events : Log P) : picks (events.map (Entry.at w)) = [] := by
  simp [picks, List.filterMap_map, Function.comp_def, Entry.picked]

def Starts (log : Trace P n) (id : ActorId) (w : Fin n) : Prop := ∃ parent, .starting id w parent ∈ log

-- The child was spawned through the Context of the parent.
def Parent (log : Trace P n) (parent child : ActorId) : Prop := ∃ w, .starting child w (some parent) ∈ log

theorem starts_append (log entries : Trace P n) (id : ActorId) (w : Fin n) :
    Starts (log ++ entries) id w ↔ log.Starts id w ∨ Starts entries id w := by
  simp only [Starts, List.mem_append, exists_or]

end Trace

namespace State

@[simp] theorem deliver_next_worker (s : State P n) (event : Event P) : (s.deliver event).nextWorker = s.nextWorker := by
  cases event <;> simp only [deliver, settleSend, settleSpawn] <;> (try split) <;> rfl

@[simp] theorem on_worker_next_worker (s : State P n) (w : Fin n) (result : Worker.Outcome P n) :
    (s.onWorker w result).1.nextWorker = s.nextWorker := deliver_all nextWorker deliver_next_worker _ _

-- Only the choice of a worker for a root touches the counter.
theorem picks_step (s next : State P n) (action : Action P n) (entries : Trace P n)
    (taken : s.step action = some (next, entries)) :
    entries.picks = [] ∧ next.nextWorker = s.nextWorker ∨
      ∃ w : Fin n, w.val = s.nextWorker % n ∧ entries.picks = [w] ∧ next.nextWorker = s.nextWorker + 1 := by
  cases step_moves s next action entries taken with
  | spawnPick id via ty val w found =>
      right
      simp only [step, spawnPick, pickWorker, found] at taken
      split at taken
      · cases taken
        exact ⟨_, rfl, rfl, rfl⟩
      · cases taken
  | post blocking i msg addr result found posted => exact Or.inl ⟨Trace.picks_at _ _, on_worker_next_worker _ _ _⟩
  | ctxStopWorker w result free stopped => exact Or.inl ⟨Trace.picks_at _ _, on_worker_next_worker _ _ _⟩
  | remote id ty val w result found sent => exact Or.inl ⟨Trace.picks_at _ _, on_worker_next_worker _ _ _⟩
  | direct id via ty val w result found given => exact Or.inl ⟨Trace.picks_at _ _, on_worker_next_worker _ _ _⟩
  | shutdown w result sent => exact Or.inl ⟨Trace.picks_at _ _, on_worker_next_worker _ _ _⟩
  | ownerShutdown k expects bound result here sent => exact Or.inl ⟨Trace.picks_at _ _, on_worker_next_worker _ _ _⟩
  | worker w act result free stepped => exact Or.inl ⟨Trace.picks_at _ _, on_worker_next_worker _ _ _⟩
  | _ => exact Or.inl ⟨rfl, rfl⟩

-- A started hook runs for a new id, or for a root that was waiting for its
-- worker. A child goes to the worker of the callback that spawns it.
theorem starting_step (s next : State P n) (action : Action P n) (entries : Trace P n)
    (moves : Moves s action entries next) (id : ActorId) (w : Fin n) (parent : Option ActorId)
    (member : .starting id w parent ∈ entries) :
    parent = none ∧ (∃ via ty val, s.calls.lookup id = some ⟨via, ty, .allocated val⟩) ∨
      id = s.nextId ∧ ∃ above via running, parent = some above ∧ s.callbackCtx via = some ⟨above, running, some w⟩ := by
  cases moves with
  | spawnPick other via ty val v found =>
      cases List.mem_singleton.mp member
      exact Or.inl ⟨rfl, via, ty, val, found⟩
  | ctxSpawn via ty val above running v free ctx =>
      cases List.mem_singleton.mp member
      exact Or.inr ⟨rfl, above, via, running, rfl, ctx⟩
  | _ => simp at member

-- What the log says of the started hooks: each id has one, at the worker it is
-- for, and a child comes after its parent.
structure Begun (log : Trace P n) (s : State P n) : Prop where
  bound : ∀ id w, log.Starts id w → id < s.nextId
  waiting : ∀ id via ty val w, s.calls.lookup id = some ⟨via, ty, .allocated val⟩ → ¬ log.Starts id w
  once : ∀ id v w a b, .starting id v a ∈ log → .starting id w b ∈ log → v = w ∧ a = b
  claimed : ∀ w id, log.Claimed w id → log.Starts id w
  calls : ∀ id call w, s.calls.lookup id = some call → call.stage.target = some w → log.Starts id w
  parents : ∀ child w parent, .starting child w (some parent) ∈ log → parent < child ∧ log.Starts parent w
  dealt : RoundRobin.Dealt log.picks
  counted : log.picks.length = s.nextWorker

-- The Context of a callback is that of an actor started for the same worker.
theorem ctx_starts (log : Trace P n) (s : State P n) (routed : Routed log s) (begun : Begun log s) (via : Caller n)
    (parent : ActorId) (running : Bool) (w : Fin n) (ctx : s.callbackCtx via = some ⟨parent, running, some w⟩) :
    log.Starts parent w := by
  cases via with
  | worker v =>
      have sound := Worker.reach_sound v _ _ (routed.workers v)
      have own := Worker.reach_index v _ _ (routed.workers v)
      refine begun.claimed w parent (Or.inl ?_)
      simp only [callbackCtx] at ctx
      split at ctx
      · rename_i turn envelope cell held here
        cases ctx
        obtain ⟨same, _, actor, spawner⟩ := sound.served.handling turn envelope cell _ here
        rw [own] at spawner
        cases spawner
        change parent = turn at actor
        rw [actor, ← same]
        exact Worker.known_of_installed _ _ _ (sound.placed.taken envelope.actorId cell (by rw [here]; rfl)).1
      · rename_i id cell held after here
        obtain ⟨_, _, same⟩ := Option.map_eq_some_iff.mp ctx
        subst same
        obtain ⟨actor, spawner, _⟩ := sound.served.stopping id cell _ after here
        rw [own] at spawner
        cases spawner
        change parent = id at actor
        rw [actor]
        exact sound.placed.gone id (sound.placed.stopping id cell _ after here).1
      · cases ctx
  | started id =>
      simp only [callbackCtx] at ctx
      split at ctx
      · rename_i via ty val v held found
        cases ctx
        obtain ⟨unclaimed, actor, spawner⟩ := routed.calls id _ found
        cases spawner
        change parent = id at actor
        rw [actor]
        exact begun.calls id _ w found rfl
      · cases ctx

-- A stage with a worker comes from one with the same worker, or from the start
-- of the hook.
theorem target_step (log entries : Trace P n) (s next : State P n) (action : Action P n) (begun : Begun log s)
    (moves : Moves s action entries next) (id : ActorId) (call : SpawnCall P n) (w : Fin n)
    (found : next.calls.lookup id = some call) (target : call.stage.target = some w) :
    log.Starts id w ∨ Trace.Starts entries id w := by
  cases call_moves s next action entries moves id with
  | answered events answers =>
      left
      rcases answers with same | ⟨via, ty, v, before, ⟨yes, _⟩ | ⟨no, _⟩⟩
      · exact begun.calls id call w (same ▸ found) target
      · rw [found] at yes
        cases yes
        exact begun.calls id _ w before target
      · rw [found] at no
        cases no
        cases target
  | allocated ty val fresh counter now =>
      rw [found] at now
      cases now
      cases target
  | begun via ty val v parent fresh counter now trace =>
      rw [found] at now
      cases now
      cases target
      exact Or.inr ⟨some parent, trace ▸ List.mem_singleton_self _⟩
  | picked via ty val v before now trace =>
      rw [found] at now
      cases now
      cases target
      exact Or.inr ⟨none, trace ▸ List.mem_singleton_self _⟩
  | stopped via ty val v ctx before now =>
      rw [found] at now
      cases now
      exact Or.inl (begun.calls id _ w before target)
  | started via ty old val v ctx before now =>
      rw [found] at now
      cases now
      exact Or.inl (begun.calls id _ w before target)
  | sent ty val v before now =>
      rw [found] at now
      cases now
      exact Or.inl (begun.calls id _ w before target)
  | panicked via ty val v ctx before now =>
      rw [found] at now
      cases now
  | unsent ty val v before now =>
      rw [found] at now
      cases now
  | installed via ty val v before now =>
      rw [found] at now
      cases now
  | returned via ty v before now =>
      rw [found] at now
      cases now
  | refused via ty before now =>
      rw [found] at now
      cases now

theorem unstarted_step (log entries : Trace P n) (s next : State P n) (action : Action P n) (begun : Begun log s)
    (moves : Moves s action entries next) (id : ActorId) (via : Option (Caller n)) (ty : P.Ty) (val : P.Val) (w : Fin n)
    (found : next.calls.lookup id = some ⟨via, ty, .allocated val⟩) : ¬ Trace.Starts (log ++ entries) id w := by
  intro starts
  have either := (Trace.starts_append log entries id w).mp starts
  cases call_moves s next action entries moves id with
  | answered events answers starting =>
      rcases answers with same | ⟨_, _, v, before, ⟨yes, _⟩ | ⟨no, _⟩⟩
      · rcases either with old | ⟨parent, new⟩
        · exact begun.waiting id via ty val w (same ▸ found) old
        · exact starting w parent new
      · rw [found] at yes
        cases yes
      · rw [found] at no
        cases no
  | allocated _ _ fresh counter now silent =>
      rcases either with old | ⟨parent, new⟩
      · exact absurd (begun.bound id w old) (fresh ▸ Nat.lt_irrefl _)
      · rw [silent] at new
        cases new
  | begun _ _ _ _ _ _ _ now =>
      rw [found] at now
      cases now
  | picked _ _ _ _ before now =>
      rw [found] at now
      cases now
  | stopped _ _ _ _ _ before now =>
      rw [found] at now
      cases now
  | started _ _ _ _ _ _ before now =>
      rw [found] at now
      cases now
  | sent _ _ _ before now =>
      rw [found] at now
      cases now
  | panicked _ _ _ _ _ before now =>
      rw [found] at now
      cases now
  | unsent _ _ _ before now =>
      rw [found] at now
      cases now
  | installed _ _ _ _ before now =>
      rw [found] at now
      cases now
  | returned _ _ _ before now =>
      rw [found] at now
      cases now
  | refused _ _ before now =>
      rw [found] at now
      cases now

-- An id whose hook starts in this step had not started before.
theorem starting_fresh (log entries : Trace P n) (s next : State P n) (action : Action P n) (begun : Begun log s)
    (moves : Moves s action entries next) (id : ActorId) (v w : Fin n) (new : Trace.Starts entries id w) :
    ¬ log.Starts id v := by
  obtain ⟨parent, member⟩ := new
  rcases starting_step s next action entries moves id w parent member with ⟨_, via, ty, val, found⟩ | ⟨fresh, _⟩
  · exact begun.waiting id via ty val v found
  · intro old
    exact absurd (begun.bound id v old) (fresh ▸ Nat.lt_irrefl _)

theorem starting_once (s next : State P n) (action : Action P n) (entries : Trace P n)
    (moves : Moves s action entries next) (id : ActorId) (v w : Fin n) (a b : Option ActorId)
    (left : .starting id v a ∈ entries) (right : .starting id w b ∈ entries) : v = w ∧ a = b := by
  cases moves with
  | spawnPick other via ty val u found =>
      cases List.mem_singleton.mp left
      cases List.mem_singleton.mp right
      exact ⟨rfl, rfl⟩
  | ctxSpawn via ty val above running u free ctx =>
      cases List.mem_singleton.mp left
      cases List.mem_singleton.mp right
      exact ⟨rfl, rfl⟩
  | _ => simp at left

theorem begun_step (log entries : Trace P n) (s next : State P n) (action : Action P n) (routed : Routed log s)
    (begun : Begun log s) (taken : s.step action = some (next, entries)) : Begun (log ++ entries) next := by
  have moves := step_moves s next action entries taken
  have grow (id : ActorId) (w : Fin n) (old : log.Starts id w) : Trace.Starts (log ++ entries) id w :=
    (Trace.starts_append log entries id w).mpr (Or.inl old)
  refine ⟨?_, unstarted_step log entries s next action begun moves, ?_, ?_, ?_, ?_, ?_, ?_⟩
  · intro id w starts
    rcases (Trace.starts_append log entries id w).mp starts with old | ⟨parent, new⟩
    · exact Nat.lt_of_lt_of_le (begun.bound id w old) (counters_step s next action entries moves).1
    · cases moves with
      | spawnPick other via ty val v found =>
          cases List.mem_singleton.mp new
          exact routed.callBound id _ found
      | ctxSpawn via ty val above running v free ctx =>
          cases List.mem_singleton.mp new
          exact Nat.lt_succ_self _
      | _ => simp at new
  · intro id v w a b left right
    have fresh := starting_fresh log entries s next action begun moves id
    rcases List.mem_append.mp left with oldLeft | newLeft <;> rcases List.mem_append.mp right with oldRight | newRight
    · exact begun.once id v w a b oldLeft oldRight
    · exact absurd ⟨a, oldLeft⟩ (fresh v w ⟨b, newRight⟩)
    · exact absurd ⟨b, oldRight⟩ (fresh w v ⟨a, newLeft⟩)
    · exact starting_once s next action entries moves id v w a b newLeft newRight
  · intro w id claimed
    rcases (Trace.claimed_append log entries w id).mp claimed with old | new
    · exact grow id w (begun.claimed w id old)
    · rcases claimed_step log entries s next action routed moves w id new with old | ⟨_, via, ty, val, found⟩
      · exact grow id w (begun.claimed w id old)
      · exact grow id w (begun.calls id _ w found rfl)
  · intro id call w found target
    exact (Trace.starts_append log entries id w).mpr
      (target_step log entries s next action begun moves id call w found target)
  · intro child w parent member
    rcases List.mem_append.mp member with old | new
    · obtain ⟨below, starts⟩ := begun.parents child w parent old
      exact ⟨below, grow parent w starts⟩
    · rcases starting_step s next action entries moves child w _ new with ⟨none, _⟩ | ⟨fresh, above, via, running, same, ctx⟩
      · cases none
      · cases same
        have starts := ctx_starts log s routed begun via parent running w ctx
        exact ⟨fresh ▸ begun.bound parent w starts, grow parent w starts⟩
  · rcases picks_step s next action entries taken with ⟨none, _⟩ | ⟨w, turn, one, _⟩
    · rw [Trace.picks_append, none, List.append_nil]
      exact begun.dealt
    · rw [Trace.picks_append, one]
      exact RoundRobin.dealt_push log.picks w begun.dealt (begun.counted ▸ turn)
  · rcases picks_step s next action entries taken with ⟨none, same⟩ | ⟨w, _, one, more⟩
    · rw [Trace.picks_append, none, List.append_nil, same]
      exact begun.counted
    · rw [Trace.picks_append, one, more, List.length_append, begun.counted]
      rfl

theorem begun_start : Begun ([] : Trace P n) (withThreads P n) where
  bound := by
    rintro id w ⟨parent, member⟩
    cases member
  waiting := by
    rintro id via ty val w found ⟨parent, member⟩
    cases member
  once := by
    intro id v w a b member
    cases member
  claimed := by
    intro w id claimed
    rcases claimed with known | sent
    · cases known
    · cases sent
  calls := by
    intro id call w found
    cases found
  parents := by
    intro child w parent member
    cases member
  dealt := RoundRobin.dealt_nil
  counted := rfl

end State

theorem reach_begun (rely : Machine.Rely (State P n) (Action P n) (Entry P n)) (log : Trace P n) (s : State P n)
    (reached : (runtime P n).Reach rely log s) : State.Begun log s :=
  Machine.reach_invariant (runtime P n) rely State.Begun
    (fun s fresh => by
      cases fresh
      exact State.begun_start)
    (fun log s action next entries before begun _ taken =>
      State.begun_step log entries s next action (reach_routed rely log s before) begun taken) log s reached

-- The line of parents ends at a root, on the same worker: ids shrink along it.
theorem root_of (log : Trace P n) (s : State P n) (begun : State.Begun log s) (id : ActorId) (w : Fin n)
    (starts : log.Starts id w) :
    ∃ root, .starting root w none ∈ log ∧ Relation.ReflTransGen log.Parent root id := by
  induction id using Nat.strong_induction_on with
  | _ id ih =>
      obtain ⟨parent, member⟩ := starts
      cases parent with
      | none => exact ⟨id, member, .refl⟩
      | some parent =>
          obtain ⟨below, above⟩ := begun.parents id w parent member
          obtain ⟨root, top, line⟩ := ih parent below above
          exact ⟨root, top, line.tail ⟨w, member⟩⟩

-- There is one line: an id is started once, by one parent.
theorem root_unique (log : Trace P n) (s : State P n) (begun : State.Begun log s) (id other root : ActorId) (v w : Fin n)
    (first : .starting root v none ∈ log) (line : Relation.ReflTransGen log.Parent root id)
    (second : .starting other w none ∈ log) (again : Relation.ReflTransGen log.Parent other id) : root = other := by
  induction line with
  | refl =>
      rcases again.cases_tail with same | ⟨parent, _, u, member⟩
      · exact same
      · cases (begun.once root v u none (some parent) first member).2
  | tail line step ih =>
      obtain ⟨u, member⟩ := step
      rcases again.cases_tail with same | ⟨parent, rest, u', member'⟩
      · subst same
        cases (begun.once _ w u none _ second member).2
      · cases (begun.once _ u u' _ _ member member').2
        exact ih rest

-- In every reachable state: the roots are dealt to the workers in turn, so no
-- worker has been picked for two more than another, whatever spawns overlap,
-- and every actor a worker was given is of the family of one root there. The
-- counter of the picks does not wrap: there are fewer than 2^64.
theorem families (log : Trace P n) (s : State P n) (reached : (runtime P n).Reach Machine.free log s) :
    (∀ j w, log.picks[j]? = some w → w.val = j % n) ∧
      (∀ w, log.picks.count w = log.picks.length / n + if w.val < log.picks.length % n then 1 else 0) ∧
      (∀ v w, log.picks.count v ≤ log.picks.count w + 1) ∧
      (∀ id v w a b, .starting id v a ∈ log → .starting id w b ∈ log → v = w ∧ a = b) ∧
      (∀ child w parent, .starting child w (some parent) ∈ log → parent < child ∧ log.Starts parent w) ∧
      (∀ w id, log.Claimed w id → log.Starts id w) ∧
      ∀ id w, log.Starts id w → ∃ root, .starting root w none ∈ log ∧ Relation.ReflTransGen log.Parent root id ∧
        ∀ other v, .starting other v none ∈ log → Relation.ReflTransGen log.Parent other id → root = other := by
  have begun := reach_begun _ log s reached
  refine ⟨RoundRobin.dealt_at log.picks begun.dealt, RoundRobin.dealt_count log.picks begun.dealt,
    RoundRobin.dealt_balanced log.picks begun.dealt, begun.once, begun.parents, begun.claimed, ?_⟩
  intro id w starts
  obtain ⟨root, top, line⟩ := root_of log s begun id w starts
  exact ⟨root, top, line, fun other v => root_unique log s begun id other root w v top line⟩

-- Two spawns overlap: the one called second is picked for first. The started
-- hook of that actor then spawns a child, and the hook of the child another.
def twoFamilies : List (Action numbers 2) :=
  [.spawn () 0, .spawn () 0, .spawnPick 2, .spawnPick 1, .ctxSpawn (.started 2) () 0, .ctxSpawn (.started 3) () 0]

def twoFamiliesLog : Trace numbers 2 := (runtime numbers 2).history (State.withThreads numbers 2) twoFamilies

theorem families_two : ∃ s : State numbers 2, (runtime numbers 2).Reach Machine.free twoFamiliesLog s ∧
    twoFamiliesLog = [.starting 2 0 none, .starting 1 1 none, .starting 3 0 (some 2), .starting 4 0 (some 3)] ∧
      twoFamiliesLog.picks.count 0 = 1 ∧
      ∃ root, .starting root 0 none ∈ twoFamiliesLog ∧ Relation.ReflTransGen twoFamiliesLog.Parent root 4 := by
  have reached := Machine.run_reach (runtime numbers 2) twoFamiliesLog _ _ twoFamilies rfl rfl
  obtain ⟨_, shares, _, _, _, _, lines⟩ := families _ _ reached
  obtain ⟨root, top, line, _⟩ := lines 4 0 ⟨some 3, @List.mem_of_getElem? _ _ 3 _ rfl⟩
  exact ⟨_, reached, rfl, shares 0, root, top, line⟩

end Actinium
