import Actinium.Conservation
import Actinium.WorkerLifecycle

set_option autoImplicit false

namespace Actinium

variable {P : Program} {n : Nat}

def Entry.mark (id : ActorId) : Entry P n → Option Mark
  | .at _ event => event.mark id
  | .starting other _ _ => if other = id then some .starting else none
  | .started other => if other = id then some .started else none
  | .startPanicked other => if other = id then some .startPanicked else none
  | .unsent _ _ => none

namespace Trace

-- The callbacks on one actor, in the order of their beginnings and ends.
def marks (log : Trace P n) (id : ActorId) : List Mark := log.filterMap (Entry.mark id)

@[simp] theorem marks_nil (id : ActorId) : marks ([] : Trace P n) id = [] := rfl

@[simp] theorem marks_append (a b : Trace P n) (id : ActorId) : marks (a ++ b) id = a.marks id ++ marks b id :=
  List.filterMap_append

theorem marks_at (w : Fin n) (events : Log P) (id : ActorId) : marks (events.map (Entry.at w)) id = events.marks id := by
  simp [marks, Log.marks, List.filterMap_map, Function.comp_def, Entry.mark]

end Trace

-- What has run on an actor whose spawn call has not handed it over yet.
def SpawnStage.marks : SpawnStage P n → Option (List Mark)
  | .allocated _ => some []
  | .starting _ _ _ => some [.starting]
  | .started _ _ => some [.starting, .started]
  | _ => none

namespace State

structure Lived (log : Trace P n) (s : State P n) : Prop where
  fresh : ∀ id, s.nextId ≤ id → log.marks id = []
  calls : ∀ id call marks, s.calls.lookup id = some call → call.stage.marks = some marks → log.marks id = marks
  claimed : ∀ w id, log.Claimed w id → log.marks id = [Mark.starting, .started] ++ (log.worker w).marks id
  legal : ∀ id, ∃ stage, Stage.unborn.after (log.marks id) = some stage

-- A worker that was not given an actor runs no callback on it.
theorem unknown_marks (log : Trace P n) (s : State P n) (routed : Routed log s) (w : Fin n) (id : ActorId)
    (unclaimed : ¬ log.Claimed w id) : (log.worker w).marks id = [] := by
  apply (Worker.reach_staged w _ _ (routed.workers w)).unknown
  intro known
  exact unclaimed (Or.inl known)

theorem quiet_marks (entries : Trace P n) (id : ActorId) (silent : ∀ w, entries.worker w = [])
    (starting : ∀ w parent, .starting id w parent ∉ entries) (started : .started id ∉ entries)
    (panicked : .startPanicked id ∉ entries) : entries.marks id = [] := by
  apply List.filterMap_eq_nil_iff.mpr
  intro entry member
  cases entry with
  | «at» v event =>
      have inside := (Trace.mem_worker v event entries).mpr member
      rw [silent v] at inside
      cases inside
  | starting other v parent =>
      have different : other ≠ id := fun same => starting v parent (same ▸ member)
      simp [Entry.mark, different]
  | started other =>
      have different : other ≠ id := fun same => started (same ▸ member)
      simp [Entry.mark, different]
  | startPanicked other =>
      have different : other ≠ id := fun same => panicked (same ▸ member)
      simp [Entry.mark, different]
  | unsent other v => rfl

theorem foreign_marks (log : Trace P n) (events : Log P) (next : State P n) (v : Fin n)
    (routed : Routed (log ++ events.map (Entry.at v)) next) (id : ActorId)
    (unclaimed : ¬ Trace.Claimed (log ++ events.map (Entry.at v)) v id) : events.marks id = [] := by
  have none := unknown_marks _ next routed v id unclaimed
  rw [Trace.worker_append, Trace.worker_same, Log.marks_append] at none
  exact (List.append_eq_nil_iff.mp none).2

-- Apart from the started hook, what runs on an actor runs on its worker, and
-- nothing runs on an actor that no worker was given.
theorem claimed_marks (log entries : Trace P n) (s next : State P n) (step : Local log s entries next)
    (routed : Routed (log ++ entries) next) (id : ActorId) (w : Fin n) (claimed : (log ++ entries).Claimed w id)
    (starting : ∀ w parent, .starting id w parent ∉ entries) (started : .started id ∉ entries)
    (panicked : .startPanicked id ∉ entries) : entries.marks id = (entries.worker w).marks id := by
  cases step with
  | quiet workers silent =>
      rw [silent w]
      exact quiet_marks entries id silent starting started panicked
  | «at» v act result kept taken workers trace =>
      subst trace
      rw [Trace.marks_at]
      by_cases same : w = v
      · rw [same, Trace.worker_same]
      · rw [Trace.worker_other w v same]
        exact foreign_marks log result.2 next v routed id fun wrong => same (routed.once w v id claimed wrong)

theorem unclaimed_marks (log entries : Trace P n) (s next : State P n) (step : Local log s entries next)
    (routed : Routed (log ++ entries) next) (id : ActorId) (unclaimed : Unclaimed (log ++ entries) id)
    (starting : ∀ w parent, .starting id w parent ∉ entries) (started : .started id ∉ entries)
    (panicked : .startPanicked id ∉ entries) : entries.marks id = [] := by
  cases step with
  | quiet workers silent => exact quiet_marks entries id silent starting started panicked
  | «at» v act result kept taken workers trace =>
      subst trace
      rw [Trace.marks_at]
      exact foreign_marks log result.2 next v routed id (unclaimed v)

-- The callbacks before the hand-over.
theorem stage_unclaimed (log : Trace P n) (s : State P n) (id : ActorId) (call : SpawnCall P n) (marks : List Mark)
    (expected : Expected log s id call) (early : call.stage.marks = some marks) : Unclaimed log id := by
  obtain ⟨via, ty, stage⟩ := call
  cases stage with
  | allocated val => exact expected
  | starting val w ctx => exact expected.1
  | started val w => exact expected
  | _ => cases early

theorem unhanded (log : Trace P n) (s : State P n) (routed : Routed log s) (id : ActorId) (call : SpawnCall P n)
    (marks : List Mark) (found : s.calls.lookup id = some call) (early : call.stage.marks = some marks) : Unclaimed log id :=
  stage_unclaimed log s id call marks (routed.calls id call found) early

theorem fresh_marks_step (log entries : Trace P n) (s next : State P n) (action : Action P n) (routed : Routed log s)
    (lived : Lived log s) (moves : Moves s action entries next) (id : ActorId)
    (high : next.nextId ≤ id) : (log ++ entries).marks id = [] := by
  have routedNext := routed_step log entries s next action routed moves
  have step := moves_local log entries s next action routed moves
  have counters := (counters_step s next action entries moves).1
  have bound (id : ActorId) (call : SpawnCall P n) (before : s.calls.lookup id = some call) (high : next.nextId ≤ id) : False :=
    absurd (routed.callBound id call before) (Nat.not_lt_of_le (Nat.le_trans counters high))
  rw [Trace.marks_append, lived.fresh id (Nat.le_trans counters high), List.nil_append]
  have nobody : Unclaimed (log ++ entries) id := fun w claimed => absurd (routedNext.bound w id claimed) (Nat.not_lt_of_le high)
  cases call_moves s next action entries moves id with
  | answered events answers starting started panicked => exact unclaimed_marks log entries s next step routedNext id nobody starting started panicked
  | allocated ty val fresh counter now silent => rw [silent]; rfl
  | begun via ty val w parent fresh counter =>
      rw [counter, fresh] at high
      exact absurd high (Nat.not_succ_le_self _)
  | picked via ty val w before => exact (bound id _ before high).elim
  | stopped via ty val w ctx before => exact (bound id _ before high).elim
  | started via ty old val w ctx before => exact (bound id _ before high).elim
  | panicked via ty val w ctx before => exact (bound id _ before high).elim
  | unsent ty val w before => exact (bound id _ before high).elim
  | sent ty val w before => exact (bound id _ before high).elim
  | installed via ty val w before => exact (bound id _ before high).elim
  | returned via ty w before => exact (bound id _ before high).elim
  | refused via ty before => exact (bound id _ before high).elim

theorem calls_marks_step (log entries : Trace P n) (s next : State P n) (action : Action P n) (routed : Routed log s)
    (lived : Lived log s) (moves : Moves s action entries next) (id : ActorId)
    (call : SpawnCall P n) (marks : List Mark) (found : next.calls.lookup id = some call)
    (stage : call.stage.marks = some marks) : (log ++ entries).marks id = marks := by
  have routedNext := routed_step log entries s next action routed moves
  have step := moves_local log entries s next action routed moves
  have nobody := unhanded _ next routedNext id call marks found stage
  rw [Trace.marks_append]
  cases call_moves s next action entries moves id with
  | answered events answers starting started panicked =>
      rw [unclaimed_marks log entries s next step routedNext id nobody starting started panicked, List.append_nil]
      rcases answers with same | ⟨_, _, _, _, ⟨yes, _⟩ | ⟨no, _⟩⟩
      · exact lived.calls id call marks (same ▸ found) stage
      · rw [found] at yes
        cases yes
        cases stage
      · rw [found] at no
        cases no
        cases stage
  | allocated ty val fresh counter now silent =>
      rw [found] at now
      cases now
      cases stage
      rw [silent, lived.fresh id (Nat.le_of_eq fresh.symm)]
      rfl
  | begun via ty val w parent fresh counter now trace =>
      rw [found] at now
      cases now
      cases stage
      rw [trace, lived.fresh id (Nat.le_of_eq fresh.symm)]
      simp [Trace.marks, Entry.mark]
  | picked via ty val w before now trace =>
      rw [found] at now
      cases now
      cases stage
      rw [trace, lived.calls id _ [] before rfl]
      simp [Trace.marks, Entry.mark]
  | stopped via ty val w ctx before now silent =>
      rw [found] at now
      cases now
      cases stage
      rw [silent, lived.calls id _ [.starting] before rfl]
      rfl
  | started via ty old val w ctx before now trace =>
      rw [found] at now
      cases now
      cases stage
      rw [trace, lived.calls id _ [.starting] before rfl]
      simp [Trace.marks, Entry.mark]
  | sent ty val w before now =>
      rw [found] at now
      cases now
      cases stage
  | panicked via ty val w ctx before now => simp [found] at now
  | unsent ty val w before now => simp [found] at now
  | installed via ty val w before now => simp [found] at now
  | returned via ty w before now => simp [found] at now
  | refused via ty before now => simp [found] at now

theorem claimed_marks_step (log entries : Trace P n) (s next : State P n) (action : Action P n) (routed : Routed log s)
    (lived : Lived log s) (moves : Moves s action entries next) (w : Fin n)
    (id : ActorId) (claimed : (log ++ entries).Claimed w id) :
    (log ++ entries).marks id = [Mark.starting, .started] ++ ((log ++ entries).worker w).marks id := by
  have routedNext := routed_step log entries s next action routed moves
  have step := moves_local log entries s next action routed moves
  have early (call : SpawnCall P n) (marks : List Mark) (now : next.calls.lookup id = some call)
      (stage : call.stage.marks = some marks) : False := unhanded _ next routedNext id call marks now stage w claimed
  -- a hand-over leaves no mark, and finds none at the worker
  have handed (ty : P.Ty) (val : P.Val) (via : Option (Caller n)) (v : Fin n) (event : Event P)
      (before : s.calls.lookup id = some ⟨via, ty, .started val v⟩) (silent : event.mark id = none)
      (trace : entries = [.at v event]) :
      log.marks id ++ entries.marks id =
        [Mark.starting, .started] ++ ((log.worker w).marks id ++ (entries.worker w).marks id) := by
    have none : entries.marks id = [] := by simp [trace, Trace.marks, Entry.mark, silent]
    have none' : (entries.worker w).marks id = [] := by
      by_cases same : v = w <;> simp [trace, Trace.worker, Entry.view, Log.marks, same, silent]
    rw [lived.calls id _ _ before rfl, none, none',
      unknown_marks log s routed w id (unhanded log s routed id _ _ before rfl w)]
    rfl
  rw [Trace.marks_append, Trace.worker_append, Log.marks_append]
  cases call_moves s next action entries moves id with
  | answered events answers starting started panicked =>
      rw [claimed_marks log entries s next step routedNext id w claimed starting started panicked, ← List.append_assoc]
      have old : log.Claimed w id := by
        rcases (Trace.claimed_append log entries w id).mp claimed with before | new
        · exact before
        · rcases claimed_step log entries s next action routed moves w id new with before | ⟨_, via, ty, val, found⟩
          · exact before
          · rcases answers with same | ⟨_, _, _, other, _⟩
            · exact (early _ _ (same.trans found) rfl).elim
            · simp [found] at other
      rw [lived.claimed w id old]
  | allocated ty val fresh counter now => exact (early _ _ now rfl).elim
  | begun via ty val v parent fresh counter now => exact (early _ _ now rfl).elim
  | picked via ty val v before now => exact (early _ _ now rfl).elim
  | stopped via ty val v ctx before now => exact (early _ _ now rfl).elim
  | started via ty prior val v ctx before now => exact (early _ _ now rfl).elim
  | panicked via ty val v ctx before now trace =>
      rw [Trace.claimed_append, trace] at claimed
      rcases claimed with old | known | sent
      · exact (unhanded log s routed id _ _ before rfl w old).elim
      · cases known
      · cases sent
  | unsent ty val v before now trace =>
      rw [Trace.claimed_append, trace] at claimed
      rcases claimed with old | known | sent
      · exact (unhanded log s routed id _ _ before rfl w old).elim
      · cases known
      · cases sent
  | sent ty val v before now trace => exact handed ty val none v _ before rfl trace
  | installed via ty val v before now trace => exact handed ty val (some via) v _ before rfl trace
  | returned via ty v before now silent =>
      rw [silent, List.append_nil] at claimed
      rw [silent, lived.claimed w id claimed]
      simp [Log.marks]
  | refused via ty before now silent =>
      rw [silent, List.append_nil] at claimed
      rw [silent, lived.claimed w id claimed]
      simp [Log.marks]

theorem legal_marks_step (log entries : Trace P n) (s next : State P n) (action : Action P n) (routed : Routed log s)
    (lived : Lived log s) (moves : Moves s action entries next) (id : ActorId) :
    ∃ stage, Stage.unborn.after ((log ++ entries).marks id) = some stage := by
  have routedNext := routed_step log entries s next action routed moves
  have step := moves_local log entries s next action routed moves
  by_cases claimed : ∃ w, (log ++ entries).Claimed w id
  · obtain ⟨w, claimed⟩ := claimed
    rw [claimed_marks_step log entries s next action routed lived moves w id claimed]
    exact (Worker.reach_staged w _ _ (routedNext.workers w)).legal id
  · have nobody : Unclaimed (log ++ entries) id := fun w wrong => claimed ⟨w, wrong⟩
    have same (silent : entries.marks id = []) : ∃ stage, Stage.unborn.after ((log ++ entries).marks id) = some stage := by
      rw [Trace.marks_append, silent, List.append_nil]
      exact lived.legal id
    have grown (call : SpawnCall P n) (marks : List Mark) (now : next.calls.lookup id = some call)
        (stage : call.stage.marks = some marks) (legal : ∃ stage, Stage.unborn.after marks = some stage) :
        ∃ stage, Stage.unborn.after ((log ++ entries).marks id) = some stage := by
      rw [calls_marks_step log entries s next action routed lived moves id call marks now stage]
      exact legal
    cases call_moves s next action entries moves id with
    | answered events answers starting started panicked =>
        exact same (unclaimed_marks log entries s next step routedNext id nobody starting started panicked)
    | allocated ty val fresh counter now => exact grown _ _ now rfl ⟨.unborn, rfl⟩
    | begun via ty val w parent fresh counter now => exact grown _ _ now rfl ⟨.starting, rfl⟩
    | picked via ty val w before now => exact grown _ _ now rfl ⟨.starting, rfl⟩
    | stopped via ty val w ctx before now => exact grown _ _ now rfl ⟨.starting, rfl⟩
    | started via ty old val w ctx before now => exact grown _ _ now rfl ⟨.idle, rfl⟩
    | panicked via ty val w ctx before now trace =>
        rw [Trace.marks_append, lived.calls id _ _ before rfl, trace]
        exact ⟨.ended, by simp [Trace.marks, Entry.mark, Automaton.run, Stage.next]⟩
    | unsent ty val w before now trace => exact same (by rw [trace]; rfl)
    | sent ty val w before now trace => exact same (by rw [trace]; rfl)
    | installed via ty val w before now trace => exact same (by rw [trace]; rfl)
    | returned via ty w before now silent => exact same (by rw [silent]; rfl)
    | refused via ty before now silent => exact same (by rw [silent]; rfl)

theorem lived_start : Lived ([] : Trace P n) (withThreads P n) where
  fresh := fun _ _ => rfl
  calls := by simp [withThreads]
  claimed := by
    rintro w id (known | sent)
    · cases known
    · cases sent
  legal := fun _ => ⟨.unborn, rfl⟩

end State

theorem reach_lived (rely : Machine.Rely (State P n) (Action P n) (Entry P n)) (log : Trace P n) (s : State P n)
    (reached : (runtime P n).Reach rely log s) : State.Lived log s := by
  refine Machine.reach_invariant (runtime P n) rely State.Lived ?_ ?_ log s reached
  · intro s start
    rw [start]
    exact State.lived_start
  · intro log s action next entries before lived _ taken
    have routed := reach_routed rely log s before
    have moves := State.step_moves s next action entries taken
    exact {
      fresh := State.fresh_marks_step log entries s next action routed lived moves
      calls := State.calls_marks_step log entries s next action routed lived moves
      claimed := State.claimed_marks_step log entries s next action routed lived moves
      legal := State.legal_marks_step log entries s next action routed lived moves }

theorem handling_after (log : Trace P n) (s : State P n) (lived : State.Lived log s) (id : ActorId)
    (before rest : List Mark) (split : log.marks id = before ++ Mark.handling :: rest) :
    [.starting, .started] <+: before ∧ (before.getLast? = some .started ∨ before.getLast? = some .handled) := by
  obtain ⟨stage, legal⟩ := lived.legal id
  rw [split] at legal
  obtain ⟨mid, early, later⟩ := Automaton.run_split Stage.next .unborn stage before (.handling :: rest) legal
  have idle : mid = .idle := by cases mid <;> first | rfl | cases later
  rw [idle] at early
  refine ⟨?_, Stage.idle_last .unborn before (by simp) early⟩
  rcases Stage.started_first .idle before early (by simp) with panicked | started
  · rw [panicked] at early
    cases early
  · exact started

-- On every actor the callbacks are, or begin to be: the started hook, then
-- handlers one at a time, then the stopped hook and nothing else.
theorem lifecycle_order (log : Trace P n) (s : State P n) (reached : (runtime P n).Reach Machine.free log s) (id : ActorId) :
    (∃ stage, Stage.unborn.after (log.marks id) = some stage) ∧ (log.marks id).count .starting ≤ 1 ∧
      (∀ before rest, log.marks id = before ++ Mark.handling :: rest →
        [.starting, .started] <+: before ∧ (before.getLast? = some .started ∨ before.getLast? = some .handled)) ∧
      (∀ before rest, log.marks id = before ++ Mark.stopping :: rest →
        rest = [] ∨ rest = [.stopped] ∨ rest = [.stopPanicked]) := by
  have lived := reach_lived _ log s reached
  obtain ⟨stage, legal⟩ := lived.legal id
  refine ⟨⟨stage, legal⟩, ?_, fun before rest split => handling_after log s lived id before rest split, ?_⟩
  · cases marks : log.marks id with
    | nil => simp
    | cons first rest =>
        rw [marks] at legal
        cases first with
        | starting =>
            have once := Stage.starting_first .starting stage rest (by simp) legal
            rw [List.count_cons_self, List.count_eq_zero.mpr once]
        | _ => cases legal
  · intro before rest split
    rw [split] at legal
    exact Stage.stopping_last .unborn stage before rest legal

-- The actor stops at its first message, while the second one waits.
def stopsAtFirst : List (Action numbers 1) :=
  spawnOne ++ ([.doSend 0 5, .doSend 0 6, .worker 0 .pollControl, .worker 0 .drain, .worker 0 .drain, .worker 0 .drain,
    .worker 0 .runTurn, .ctxStop (.worker 0), .worker 0 (.handlerReturn 5 50), .worker 0 .settle, .worker 0 .hookReturn] :
    List (Action numbers 1))

def stopsAtFirstLog : Trace numbers 1 :=
  [.starting 1 0 none, .started 1, .at 0 (.spawnSent 1 ()), .at 0 (.installed 1 ()), .at 0 (.confirmed 1),
    .at 0 (.accepted ⟨1, (), 5, false, 0⟩), .at 0 (.accepted ⟨1, (), 6, false, 1⟩), .at 0 (.handling ⟨1, (), 5, false, 0⟩),
    .at 0 (.handled ⟨1, (), 5, false, 0⟩ 50), .at 0 (.stopping 1 ⟨(), 5⟩), .at 0 (.stopped 1),
    .at 0 (.dropped ⟨1, (), 6, false, 1⟩)]

theorem lifecycle_order_stop :
    stopsAtFirstLog.marks 1 = [.starting, .started, .handling, .handled, .stopping, .stopped] ∧
      ∃ stage, Stage.unborn.after (stopsAtFirstLog.marks 1) = some stage := by
  have reached : (runtime numbers 1).Reach Machine.free stopsAtFirstLog _ :=
    Machine.run_reach (runtime numbers 1) _ _ _ stopsAtFirst rfl rfl
  exact ⟨rfl, (lifecycle_order _ _ reached 1).1⟩

end Actinium
