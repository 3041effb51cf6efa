import Actinium.SupervisorTable
import Actinium.Conservation

set_option autoImplicit false

namespace Actinium

variable {P : Program} {n : Nat}

-- What Context::spawn sees of the runtime: the counter of ids and the actor
-- map of the worker; and the actors whose stopped hook has been called there.
structure Host (P : Program) where
  nextId : ActorId
  actorMap : ActorMap P
  stopped : List ActorId

namespace Host

-- Spawning adds actors and takes none away.
structure Grows (host after : Host P) : Prop where
  ids : host.nextId ≤ after.nextId
  kept : ∀ id < host.nextId, after.actorMap.lookup id = host.actorMap.lookup id
  stopped : after.stopped = host.stopped

theorem grows_refl (host : Host P) : host.Grows host := ⟨Nat.le_refl _, fun _ _ => rfl, rfl⟩

theorem grows_trans (a b c : Host P) (first : a.Grows b) (second : b.Grows c) : a.Grows c := by
  refine ⟨Nat.le_trans first.ids second.ids, ?_, second.stopped.trans first.stopped⟩
  intro id old
  rw [second.kept id (Nat.lt_of_lt_of_le old first.ids), first.kept id old]

-- A started hook writes to its actor and may spawn through its Context.
structure StartedHook (P : Program) where
  run : ActorId → P.Val → Host P → P.Val × Host P
  grows : ∀ (id : ActorId) (val : P.Val) (host : Host P), host.Grows (run id val host).2

-- Context::spawn, with allocate_id, the started hook and spawn_actor_direct.
def spawn (host : Host P) (actor : AnyBox P) (hook : StartedHook P) : ActorId × Host P :=
  let id := host.nextId
  let (val, host) := hook.run id actor.val { host with nextId := host.nextId + 1 }
  (id, { host with actorMap := host.actorMap.insert id ⟨⟨actor.ty, val⟩, actor.ty⟩ })

theorem spawn_installs (host : Host P) (actor : AnyBox P) (hook : StartedHook P) :
    host.Grows (host.spawn actor hook).2 ∧ host.nextId < (host.spawn actor hook).2.nextId ∧
      host.nextId ∈ (host.spawn actor hook).2.actorMap := by
  have grows := hook.grows host.nextId actor.val { host with nextId := host.nextId + 1 }
  have more : host.nextId < (host.spawn actor hook).2.nextId := grows.ids
  refine ⟨⟨Nat.le_of_lt more, ?_, grows.stopped⟩, more, ?_⟩
  · intro id old
    exact (AList.lookup_insert_ne (Nat.ne_of_lt old)).trans (grows.kept id (Nat.lt_succ_of_lt old))
  · simp [spawn]

-- A started hook that spawns nothing.
def writes (val : P.Val) : StartedHook P := ⟨fun _ _ host => (val, host), fun _ _ host => grows_refl host⟩

-- A factory that spawns a child with Context::spawn and returns its id.
def Spawns (factory : ChildFactory (Host P)) : Prop := ∀ host, ∃ actor hook, factory host = host.spawn actor hook

def issued (host : Host P) (id : ActorId) : Prop := id < host.nextId

theorem spawns_fresh (factory : ChildFactory (Host P)) (spawns : Spawns factory) : Supervisor.Fresh issued factory := by
  intro host
  obtain ⟨actor, hook, same⟩ := spawns host
  obtain ⟨grows, more, _⟩ := spawn_installs host actor hook
  rw [same]
  refine ⟨Nat.lt_irrefl _, ?_⟩
  rintro id (old | rfl)
  · exact Nat.lt_of_lt_of_le old grows.ids
  · exact more

end Host

def State.host (s : State P n) (log : Trace P n) (w : Fin n) : Host P :=
  ⟨s.nextId, (s.workers w).actorMap, (log.worker w).gone⟩

theorem State.blocked_set (s : State P n) (id : ActorId) (call : SpawnCall P n) (caller : Caller n)
    (unused : s.calls.lookup id = none) (other : call.via ≠ some caller) (free : s.blocked caller = false) :
    (s.setCall id call).blocked caller = false := by
  have absent : id ∉ s.calls := AList.lookup_eq_none.mp unused
  simp only [State.blocked, State.setCall, AList.entries_insert_of_notMem absent, List.any_cons, Bool.or_eq_false_iff,
    decide_eq_false_iff_not]
  exact ⟨other, free⟩

-- In the runtime, Context::spawn is spawn on the host of the caller's worker.
theorem ctx_spawn_host (log : Trace P n) (s : State P n) (via : Caller n) (ty : P.Ty) (val written : P.Val) (parent : ActorId)
    (running : Bool) (w : Fin n) (free : s.blocked via = false) (ctx : s.callbackCtx via = some ⟨parent, running, some w⟩)
    (unused : s.calls.lookup s.nextId = none) (other : via ≠ .started s.nextId)
    (quiet : s.blocked (.started s.nextId) = false) :
    ∃ later next, (runtime P n).run log s [.ctxSpawn via ty val, .startedReturn s.nextId written, .handOver s.nextId] =
      some (later, next) ∧ next.host later w = ((s.host log w).spawn ⟨ty, val⟩ (Host.writes written)).2 := by
  have first : s.step (.ctxSpawn via ty val) =
      some ({ s with nextId := s.nextId + 1 }.setCall s.nextId ⟨some via, ty, .starting val w (.withSpawner s.nextId w)⟩,
        [.starting s.nextId w (some parent)]) := by
    simp only [State.step, State.ctxSpawn, free, ctx, State.allocateId]
    rfl
  generalize started : { s with nextId := s.nextId + 1 }.setCall s.nextId
    ⟨some via, ty, .starting val w (.withSpawner s.nextId w)⟩ = mid at first
  have here : mid.calls.lookup s.nextId = some ⟨some via, ty, .starting val w (.withSpawner s.nextId w)⟩ := by
    rw [← started, State.lookup_set, if_pos rfl]
  have unblocked : mid.blocked (.started s.nextId) = false := by
    rw [← started]
    exact State.blocked_set { s with nextId := s.nextId + 1 } _ _ _ unused (by simpa using other) quiet
  have second : mid.step (.startedReturn s.nextId written) =
      some (mid.setCall s.nextId ⟨some via, ty, .started written w⟩, [.started s.nextId]) := by
    simp only [State.step, State.startedReturn, unblocked, here]
    rfl
  generalize returned : mid.setCall s.nextId ⟨some via, ty, .started written w⟩ = last at second
  have there : last.calls.lookup s.nextId = some ⟨some via, ty, .started written w⟩ := by
    rw [← returned, State.lookup_set, if_pos rfl]
  have third : last.step (.handOver s.nextId) = some ((last.returnAddr s.nextId w ty).onWorker w
      ((last.workers w).spawnActorDirect s.nextId ⟨ty, written⟩ ty)) := by
    simp only [State.step, State.handOver, there]
  refine ⟨log ++ [Entry.starting s.nextId w (some parent)] ++ [Entry.started s.nextId] ++
    ((last.returnAddr s.nextId w ty).onWorker w ((last.workers w).spawnActorDirect s.nextId ⟨ty, written⟩ ty)).2,
    ((last.returnAddr s.nextId w ty).onWorker w ((last.workers w).spawnActorDirect s.nextId ⟨ty, written⟩ ty)).1, ?_, ?_⟩
  · simp only [Machine.run, runtime, first, second, third]
  · have workers : last.workers = s.workers := by rw [← returned, ← started]; rfl
    have counter : last.nextId = s.nextId + 1 := by rw [← returned, ← started]; rfl
    have events : ((last.returnAddr s.nextId w ty).onWorker w
        ((last.workers w).spawnActorDirect s.nextId ⟨ty, written⟩ ty)).2 = [Event.installed s.nextId ty].map (.at w) := rfl
    have gone : Log.gone [Event.installed s.nextId ty] = [] := rfl
    rw [events]
    simp only [State.host, Host.spawn, Host.writes, State.on_worker_workers, State.on_worker_next_id, Function.update_self, workers,
      Trace.worker_append, Trace.worker_starting, Trace.worker_started, Trace.worker_same, Log.gone_append, gone, List.append_nil]
    simp [State.returnAddr, State.endCall, counter, Worker.spawnActorDirect]

namespace Supervisor

open Host

-- Calls in order, with factories that spawn. In between actors are taken out of
-- the map and put back, stop, and are spawned.
def hosted : Machine.Rely (Supervised (Host P)) (Call (Host P)) Report := fun log s call =>
  inOrder Host.issued log s call ∧
    match call with
    | .registerChild factory => Spawns factory
    | _ => True

theorem hosted_fresh (log : List Report) (s : Supervised (Host P)) (call : Call (Host P)) (allowed : hosted log s call) :
    freshly Host.issued log s call := allowed.1.1

theorem hosted_in_order (maxRestarts : Nat) (strategy : Strategy) (log : List Report) (s : Supervised (Host P))
    (reached : (supervision (Host P) strategy maxRestarts).Reach hosted log s) :
    (supervision (Host P) strategy maxRestarts).Reach (inOrder Host.issued) log s :=
  Machine.reach_weaken _ _ _ (fun _ _ _ allowed => allowed.1) log s reached

theorem reach_hosted (strategy : Strategy) (maxRestarts : Nat) (log : List Report) (s : Supervised (Host P))
    (reached : (supervision (Host P) strategy maxRestarts).Reach hosted log s) : Registered Spawns s.sup.childFactories 0 := by
  refine supervision_invariant Host.issued _ hosted_fresh (fun _ s => Registered Spawns s.sup.childFactories 0) ?_ ?_ log s reached
  · intro ctx i factory found
    simp [new] at found
  · intro log s call events next _ old allowed moves
    refine registered_step Host.issued Spawns s next call events old moves ?_
    intro factory same
    have promise := allowed.2
    rw [same] at promise
    exact promise

-- Every id a factory has returned is issued.
theorem reach_made {κ : Type} (issued : κ → ActorId → Prop) (strategy : Strategy) (maxRestarts : Nat)
    (rely : Machine.Rely (Supervised κ) (Call κ) Report) (fresh : ∀ log s call, rely log s call → freshly issued log s call)
    (log : List Report) (s : Supervised κ) (reached : (supervision κ strategy maxRestarts).Reach rely log s) (i : Nat)
    (id : ActorId) (made : .made i id ∈ log) : issued s.ctx id := by
  refine supervision_invariant issued rely fresh (fun log s => ∀ i id, .made i id ∈ log → issued s.ctx id) ?_ ?_ log s reached i id made
  · intro ctx i id made
    cases made
  · intro log s call events next _ known allowed moves i id member
    have listed (ids : List ActorId) (j : Nat) (other : ActorId) (inside : .made j other ∈ madeEach ids) : other ∈ ids := by
      obtain ⟨call, here, same⟩ := List.mem_map.mp inside
      obtain ⟨⟨found, k⟩, zipped, rfl⟩ := List.mem_map.mp here
      cases same
      exact List.mem_of_getElem? (List.mem_zipIdx_iff_getElem?.mp zipped)
    cases moves with
    | registerChild factory => exact known i id (by simpa using member)
    | elsewhere ctx => exact fresh _ _ _ allowed id (known i id (by simpa using member))
    | startAll ids ctx length issues =>
        rcases List.mem_append.mp member with old | new
        · exact issues.marks id (Or.inl (known i id old))
        · exact issues.marks id (Or.inr (listed ids i id (by simpa using new)))
    | exhausted failed spent => exact known i id (by simpa using member)
    | ignored failed left one absent => exact known i id (by simpa using member)
    | restartedOne failed newId front back ctx left one split first issues =>
        rcases List.mem_append.mp member with old | new
        · exact issues.marks id (Or.inl (known i id old))
        · refine issues.marks id (Or.inr ?_)
          have same : i = front.length ∧ id = newId := by simpa using new
          rw [same.2]
          exact List.mem_singleton.mpr rfl
    | restartedAll failed ids ctx left all length issues =>
        rcases List.mem_append.mp member with old | new
        · exact issues.marks id (Or.inl (known i id old))
        · exact issues.marks id (Or.inr (listed ids i id (by simpa using new)))

theorem made_each_member (ids : List ActorId) (id : ActorId) (member : id ∈ ids) : ∃ i, .made i id ∈ madeEach ids := by
  obtain ⟨i, bound, here⟩ := List.getElem_of_mem member
  refine ⟨i, (mem_made_each ids i id).mpr ?_⟩
  rw [List.getElem?_eq_getElem bound, here]

theorem children_made {κ : Type} (issued : κ → ActorId → Prop) (strategy : Strategy) (maxRestarts : Nat)
    (rely : Machine.Rely (Supervised κ) (Call κ) Report) (fresh : ∀ log s call, rely log s call → freshly issued log s call)
    (log : List Report) (s : Supervised κ) (reached : (supervision κ strategy maxRestarts).Reach rely log s) (id : ActorId)
    (member : id ∈ s.sup.children) : ∃ i, .made i id ∈ log := by
  refine supervision_invariant issued rely fresh (fun log s => ∀ id ∈ s.sup.childIds, ∃ i, .made i id ∈ log) ?_ ?_ log s reached
    id member
  · intro ctx id member
    cases member
  · intro log s call events next _ known _ moves id member
    have old (inside : id ∈ s.sup.childIds) : ∃ i, .made i id ∈ log ++ events := by
      obtain ⟨i, made⟩ := known id inside
      exact ⟨i, List.mem_append_left _ made⟩
    cases moves with
    | registerChild factory => exact old member
    | elsewhere ctx => exact old member
    | startAll ids ctx length issues =>
        rcases List.mem_append.mp member with earlier | now
        · exact old earlier
        · obtain ⟨i, made⟩ := made_each_member ids id now
          exact ⟨i, by simp [made]⟩
    | exhausted failed spent => exact old (List.mem_of_mem_filter member)
    | ignored failed left one absent => exact old member
    | restartedOne failed newId front back ctx left one split first issues =>
        by_cases same : id = newId
        · subst same
          exact ⟨front.length, by simp⟩
        · refine old ?_
          rw [split]
          rcases List.mem_append.mp member with early | late
          · exact List.mem_append_left _ early
          · exact List.mem_append_right _ (List.mem_cons_of_mem _ (List.mem_of_ne_of_mem same late))
    | restartedAll failed ids ctx left all length issues =>
        rcases List.mem_append.mp member with now | earlier
        · obtain ⟨i, made⟩ := made_each_member ids id now
          exact ⟨i, by simp [made]⟩
        · exact old (List.mem_of_mem_drop earlier)

theorem spawn_each_hosts (factories : List (ChildFactory (Traced (Host P)))) (offset : Nat) (hosted : Registered Spawns factories offset)
    (host : Host P) (calls : List (Nat × ActorId)) :
    host.Grows (spawnEach factories (host, calls)).2.1 ∧
      ∀ id ∈ (spawnEach factories (host, calls)).1, id ∈ (spawnEach factories (host, calls)).2.1.actorMap := by
  induction factories generalizing offset host calls with
  | nil => exact ⟨grows_refl host, fun id member => by cases member⟩
  | cons factory rest ih =>
      obtain ⟨plain, spawns, same⟩ := hosted 0 factory rfl
      obtain ⟨actor, hook, result⟩ := spawns host
      have later := registered_tail Spawns factory rest offset hosted
      obtain ⟨grows, more, installed⟩ := spawn_installs host actor hook
      obtain ⟨onward, inside⟩ := ih (offset + 1) later (host.spawn actor hook).2 (calls ++ [(offset, host.nextId)])
      have first : factory (host, calls) = (host.nextId, (host.spawn actor hook).2, calls ++ [(offset, host.nextId)]) := by
        simp only [same, traced, result, Nat.add_zero]
        rfl
      simp only [spawnEach, first]
      refine ⟨grows_trans _ _ _ grows onward, ?_⟩
      intro id member
      rcases List.mem_cons.mp member with rfl | tail
      · rw [← AList.lookup_isSome, onward.kept _ more, AList.lookup_isSome]
        exact installed
      · exact inside id tail

-- No child of before the call is installed: it was stopped once, and of the
-- actors the factories ever made just the children are installed.
structure NoOrphan (s next : Supervised (Host P)) (log : List Report) : Prop where
  replaced : ∀ id ∈ s.sup.children, id ∉ next.ctx.actorMap
  stopped : ∀ id ∈ s.sup.children, id ∈ s.ctx.actorMap → next.ctx.stopped.count id = 1
  exactly : ∀ id, id ∈ next.sup.children ↔ (∃ i, .made i id ∈ log) ∧ id ∈ next.ctx.actorMap

theorem restart_group (strategy : Strategy) (maxRestarts : Nat) (log : List Report) (s : Supervised (Host P))
    (reached : (supervision (Host P) strategy maxRestarts).Reach hosted log s) (all : strategy = .allForOne) (failed : ActorId)
    (budget : s.sup.count failed < s.sup.maxRestarts) (next : Supervised (Host P)) (events : List Report)
    (taken : step s (.handleFailure failed) = some (next, events)) :
    s.ctx.Grows next.ctx ∧ (∀ id ∈ next.sup.children, id ∈ next.ctx.actorMap ∧ ¬ Host.issued s.ctx id) ∧
      ∀ id, (∃ i, .made i id ∈ events) ↔ id ∈ next.sup.children := by
  have ordered := hosted_in_order maxRestarts strategy log s reached
  have consistent := in_order_consistent Host.issued log s ordered
  have hosted := reach_hosted strategy maxRestarts log s reached
  have registered := reach_registered Host.issued _ (in_order_fresh Host.issued) log s ordered
  have settings := reach_settings Host.issued _ (in_order_fresh Host.issued) log s ordered
  obtain ⟨ids, after, same, issues⟩ := spawn_each_traced Host.issued s.sup.childFactories 0 registered s.ctx []
  obtain ⟨grows, installed⟩ := spawn_each_hosts s.sup.childFactories 0 hosted s.ctx []
  have length := spawn_each_length s.sup.childFactories (s.ctx, [])
  rw [same] at grows installed length
  have none : s.sup.childIds.drop s.sup.childFactories.length = [] := List.drop_eq_nil_iff.mpr consistent.fits
  have handled : step s (.handleFailure failed) = some (⟨{ s.sup with childIds := ids, restartCounts := zeroCounts ids }, after⟩,
      madeEach ids ++ [Report.failure failed s.sup.childIds ids ids]) := by
    have left : ¬ (s.sup.restartCounts.lookup failed).getD 0 ≥ s.sup.maxRestarts := Nat.not_le_of_lt budget
    simp only [step, handleFailure, if_neg left, settings.1, all, restart_all_eq, same, none, List.append_nil, List.nil_append,
      Option.map_some, Supervisor.children, madeEach]
  rw [handled] at taken
  cases taken
  refine ⟨grows, fun id member => ⟨installed id member, issues.fresh id member⟩, ?_⟩
  intro id
  constructor
  · rintro ⟨i, made⟩
    have inside : .made i id ∈ madeEach ids := by simpa using made
    exact List.mem_of_getElem? ((mem_made_each ids i id).mp inside)
  · intro member
    change id ∈ ids at member
    obtain ⟨i, made⟩ := made_each_member ids id member
    exact ⟨i, List.mem_append_left _ made⟩

-- restart_all leaves no orphan exactly when there was nothing to stop: no
-- actor that the factories made is installed when the failure is handled.
theorem no_orphan_iff (maxRestarts : Nat) (log : List Report) (s : Supervised (Host P))
    (reached : (supervision (Host P) .allForOne maxRestarts).Reach hosted log s) (failed : ActorId)
    (budget : s.sup.count failed < s.sup.maxRestarts) (next : Supervised (Host P))
    (events : List Report) (taken : step s (.handleFailure failed) = some (next, events)) :
    NoOrphan s next (log ++ events) ↔ ∀ i id, .made i id ∈ log → id ∉ s.ctx.actorMap := by
  obtain ⟨grows, fresh, made⟩ := restart_group .allForOne maxRestarts log s reached rfl failed budget next events taken
  have known := reach_made Host.issued .allForOne maxRestarts _ hosted_fresh log s reached
  have ordered := hosted_in_order maxRestarts .allForOne log s reached
  have consistent := in_order_consistent Host.issued log s ordered
  have kept (id : ActorId) (old : Host.issued s.ctx id) : id ∈ next.ctx.actorMap ↔ id ∈ s.ctx.actorMap := by
    rw [← AList.lookup_isSome, grows.kept id old, AList.lookup_isSome]
  constructor
  · intro clean i id member installed
    have old := known i id member
    have inside := (clean.exactly id).mpr ⟨⟨i, List.mem_append_left _ member⟩, (kept id old).mpr installed⟩
    exact (fresh id inside).2 old
  · intro clear
    have gone (id : ActorId) (member : id ∈ s.sup.children) : id ∉ s.ctx.actorMap := by
      obtain ⟨i, here⟩ := children_made Host.issued .allForOne maxRestarts _ hosted_fresh log s reached id member
      exact clear i id here
    refine ⟨?_, ?_, ?_⟩
    · intro id member installed
      exact gone id member ((kept id (consistent.issued id member)).mp installed)
    · intro id member installed
      exact absurd installed (gone id member)
    · intro id
      constructor
      · intro member
        obtain ⟨i, here⟩ := (made id).mpr member
        exact ⟨⟨i, List.mem_append_right _ here⟩, (fresh id member).1⟩
      · rintro ⟨⟨i, member⟩, installed⟩
        rcases List.mem_append.mp member with old | new
        · exact absurd ((kept id (known i id old)).mp installed) (clear i id old)
        · exact (made id).mp ⟨i, new⟩

def spawning : ChildFactory (Host numbers) := fun host => host.spawn ⟨(), 0⟩ (writes 0)

theorem spawning_spawns : Spawns spawning := fun _ => ⟨_, _, rfl⟩

-- Two children, after the first has failed: its stopped hook has been called.
def firstFailed : Host numbers := ⟨3, (∅ : ActorMap numbers).insert 2 ⟨⟨(), 0⟩, ()⟩, [1]⟩

-- The same after both have failed.
def bothFailed : Host numbers := ⟨3, ∅, [1, 2]⟩

def twoChildrenLog : List Report := [.made 0 1, .made 1 2, .startedAll [1, 2]]

def twoChildren (host : Host numbers) : List (Call (Host numbers)) :=
  [.registerChild spawning, .registerChild spawning, .startAll, .elsewhere host]

def twoSupervised : Supervisor (Traced (Host numbers)) :=
  ⟨.allForOne, 1, [traced 0 spawning, traced 1 spawning], [1, 2], zeroCounts [1, 2]⟩

theorem two_children (host : Host numbers) (ids : 3 ≤ host.nextId) :
    (supervision (Host numbers) .allForOne 1).Reach hosted twoChildrenLog ⟨twoSupervised, host⟩ := by
  refine Machine.run_reach_rely (supervision (Host numbers) .allForOne 1) hosted [] _ ⟨new .allForOne 1, ⟨1, ∅, []⟩⟩ _
    (twoChildren host) (.init _ rfl) rfl
    ⟨⟨⟨spawns_fresh spawning spawning_spawns, nofun⟩, spawning_spawns⟩,
      ⟨⟨spawns_fresh spawning spawning_spawns, nofun⟩, spawning_spawns⟩, ⟨⟨trivial, nofun⟩, trivial⟩,
      ⟨⟨fun id old => Nat.lt_of_lt_of_le old ids, trivial⟩, trivial⟩, trivial⟩

theorem no_orphan_both_failed : ∃ (next : Supervised (Host numbers)) (events : List Report),
    (supervision (Host numbers) .allForOne 1).Reach hosted twoChildrenLog ⟨twoSupervised, bothFailed⟩ ∧
      step ⟨twoSupervised, bothFailed⟩ (.handleFailure 1) = some (next, events) ∧ next.sup.children = [3, 4] ∧
        NoOrphan ⟨twoSupervised, bothFailed⟩ next (twoChildrenLog ++ events) := by
  have reached := two_children bothFailed (Nat.le_refl 3)
  refine ⟨_, _, reached, rfl, rfl, (no_orphan_iff 1 _ _ reached 1 (by decide) _ _ rfl).mpr ?_⟩
  intro i id _ installed
  cases installed

-- The first child has failed, the second has not: restarting all leaves the
-- second installed, next to its replacement.
theorem orphan_left : ∃ (next : Supervised (Host numbers)) (events : List Report),
    (supervision (Host numbers) .allForOne 1).Reach hosted twoChildrenLog ⟨twoSupervised, firstFailed⟩ ∧
      step ⟨twoSupervised, firstFailed⟩ (.handleFailure 1) = some (next, events) ∧ next.sup.children = [3, 4] ∧
        2 ∈ next.ctx.actorMap ∧ 2 ∉ next.ctx.stopped ∧
          ¬ NoOrphan ⟨twoSupervised, firstFailed⟩ next (twoChildrenLog ++ events) := by
  have reached := two_children firstFailed (Nat.le_refl 3)
  have left : ∃ next events, step ⟨twoSupervised, firstFailed⟩ (.handleFailure 1) = some (next, events) ∧
      next.sup.children = [3, 4] ∧ next.ctx.actorMap.lookup 2 = some ⟨⟨(), 0⟩, ()⟩ ∧ next.ctx.stopped = [1] :=
    ⟨_, _, rfl, rfl, rfl, rfl⟩
  obtain ⟨next, events, taken, children, there, stopped⟩ := left
  have installed : 2 ∈ next.ctx.actorMap := AList.lookup_isSome.mp (by rw [there]; rfl)
  refine ⟨next, events, reached, taken, children, installed, by rw [stopped]; decide, ?_⟩
  intro clean
  exact clean.replaced 2 (by decide) installed

end Supervisor

end Actinium
