import Actinium.SupervisorOrphans

set_option autoImplicit false

namespace Actinium.Supervisor

variable {κ : Type} {P : Program}

open Host

def Report.makes : Report → Option ActorId
  | .made _ id => some id
  | _ => none

-- What the factories have returned, in order.
def madeIds (log : List Report) : List ActorId := log.filterMap Report.makes

theorem made_ids_append (a b : List Report) : madeIds (a ++ b) = madeIds a ++ madeIds b := List.filterMap_append

theorem made_ids_each (ids : List ActorId) : madeIds (madeEach ids) = ids := by
  rw [madeIds, madeEach, reports, List.map_map, List.filterMap_map]
  have shows : (Report.makes ∘ (fun call : Nat × ActorId => Report.made call.1 call.2) ∘ Prod.swap) =
      some ∘ (Prod.fst : ActorId × Nat → ActorId) := by
    funext pair
    rfl
  rw [shows, ← List.filterMap_map, List.filterMap_some]
  exact List.zipIdx_map_fst 0 ids

theorem mem_made_ids (log : List Report) (id : ActorId) : id ∈ madeIds log ↔ ∃ i, .made i id ∈ log := by
  simp only [madeIds, List.mem_filterMap]
  constructor
  · rintro ⟨report, member, shown⟩
    cases report <;> cases shown
    exact ⟨_, member⟩
  · rintro ⟨i, member⟩
    exact ⟨_, member, rfl⟩

-- The restarts that its children still have left.
def budget (sup : Supervisor (Traced κ)) : Nat := (sup.childIds.map fun id => sup.maxRestarts - sup.count id).sum

theorem sum_filter (ids : List ActorId) (gone : ActorId) (before after : ActorId → Nat) (nothing : before gone = 0)
    (same : ∀ id, id ≠ gone → after id = before id) :
    ((ids.filter fun id => id != gone).map after).sum = (ids.map before).sum := by
  induction ids with
  | nil => rfl
  | cons head tail ih =>
      by_cases out : head = gone
      · simp [out, nothing, ih]
      · simp [out, same head out, ih]

theorem sum_congr (ids : List ActorId) (before after : ActorId → Nat) (same : ∀ id ∈ ids, after id = before id) :
    (ids.map after).sum = (ids.map before).sum := by
  rw [List.map_congr_left same]

-- A restart takes one from the budget of the child it restarts, and giving a
-- child up takes nothing.
theorem budget_step (issued : κ → ActorId → Prop) (s next : Supervised κ) (id : ActorId) (events : List Report)
    (consistent : Consistent issued s) (one : s.sup.strategy = .oneForOne)
    (moves : Moves issued s (.handleFailure id) events next) :
    (madeIds events).length + next.sup.budget = s.sup.budget ∧ next.sup.childFactories = s.sup.childFactories ∧
      next.sup.maxRestarts = s.sup.maxRestarts := by
  cases moves with
  | exhausted _ spent =>
      refine ⟨?_, rfl, rfl⟩
      have nothing : madeIds [Report.failure id s.sup.childIds [] (s.sup.childIds.filter fun other => other != id)] = [] := rfl
      rw [nothing, List.length_nil, Nat.zero_add]
      refine sum_filter s.sup.childIds id _ _ (Nat.sub_eq_zero_of_le spent) ?_
      intro other different
      simp [count, AList.lookup_erase_ne different]
  | ignored _ left one absent => exact ⟨Nat.zero_add _, rfl, rfl⟩
  | restartedOne _ newId front back ctx left one split first issues =>
      refine ⟨?_, rfl, rfl⟩
      have unlisted : newId ∉ s.sup.childIds := by
        intro member
        exact issues.fresh newId (List.mem_singleton.mpr rfl) (consistent.issued newId member)
      have nodup := consistent.nodup
      rw [split] at nodup unlisted
      have out : id ∉ front ++ back := (List.nodup_cons.mp (List.nodup_middle.mp nodup)).1
      have others (ids : List ActorId) (inside : ∀ other ∈ ids, other ∈ front ++ back) :
          (ids.map fun other => s.sup.maxRestarts -
            (((s.sup.restartCounts.erase id).insert newId (s.sup.count id + 1)).lookup other).getD 0).sum =
            (ids.map fun other => s.sup.maxRestarts - s.sup.count other).sum := by
        refine sum_congr ids _ _ ?_
        intro other member
        have place := inside other member
        have notOld : other ≠ id := fun same => out (same ▸ place)
        have notNew : other ≠ newId := by
          rintro rfl
          refine unlisted ?_
          rcases List.mem_append.mp place with early | late
          · exact List.mem_append_left _ early
          · exact List.mem_append_right _ (List.mem_cons_of_mem _ late)
        rw [AList.lookup_insert_ne notNew, AList.lookup_erase_ne notOld]
        rfl
      have early := others front fun other member => List.mem_append_left _ member
      have late := others back fun other member => List.mem_append_right _ member
      have made : (madeIds [Report.made front.length newId,
        Report.failure id s.sup.childIds [newId] (front ++ newId :: back)]).length = 1 := rfl
      rw [made]
      simp only [budget, count, List.map_append, List.map_cons, List.sum_append, List.sum_cons, AList.lookup_insert,
        Option.getD_some, split] at early late left ⊢
      omega
  | restartedAll _ ids ctx left all length issues =>
      rw [one] at all
      cases all

theorem budget_started (ids : List ActorId) (maxRestarts : Nat) (counts : AList (fun _ : ActorId => Nat)) :
    (ids.map fun id => maxRestarts - ((ids.foldl (fun counts id => counts.insert id 0) counts).lookup id).getD 0).sum =
      ids.length * maxRestarts := by
  have full := sum_congr ids (fun _ => maxRestarts)
    (fun id => maxRestarts - ((ids.foldl (fun counts id => counts.insert id 0) counts).lookup id).getD 0) (by
      intro id member
      simp [lookup_zeros, member])
  simpa using full

-- From start_all on, what was spawned and what may still be restarted make up
-- one start and maxRestarts restarts for each factory.
theorem reach_balanced (issued : κ → ActorId → Prop) (maxRestarts : Nat) (log : List Report) (s : Supervised κ)
    (reached : (supervision κ .oneForOne maxRestarts).Reach (inOrder issued) log s) (started : Started log) :
    (madeIds log).length + s.sup.budget = s.sup.childFactories.length * (maxRestarts + 1) := by
  refine supervision_invariant issued _ (in_order_fresh issued) (fun log s => Started log →
    (madeIds log).length + s.sup.budget = s.sup.childFactories.length * (maxRestarts + 1)) ?_ ?_ log s reached started
  · rintro ctx ⟨ids, wrong⟩
    cases wrong
  · intro log s call events next before balanced allowed moves after
    have settings := reach_settings issued _ (in_order_fresh issued) log s before
    have consistent := in_order_consistent issued log s before
    rw [made_ids_append, List.length_append]
    cases call with
    | registerChild factory =>
        cases moves
        obtain ⟨ids, member⟩ := after
        exact absurd ⟨ids, by simpa using member⟩ allowed.2
    | elsewhere ctx =>
        cases moves
        obtain ⟨ids, member⟩ := after
        exact balanced ⟨ids, by simpa using member⟩
    | startAll =>
        have empty := unstarted_empty issued log s before allowed.2
        have silent := unstarted_log issued log s before allowed.2
        cases moves with
        | startAll ids ctx length issues =>
            have made : madeIds (madeEach ids ++ [Report.startedAll ids]) = ids := by
              rw [made_ids_append, made_ids_each]
              exact List.append_nil ids
            rw [silent, made, budget, empty, List.nil_append]
            simp only [count, budget_started, settings.2, ← length, madeIds, List.filterMap_nil, List.length_nil, Nat.zero_add]
            exact (Nat.add_comm _ _).trans (Nat.mul_succ _ _).symm
    | handleFailure id =>
        obtain ⟨same, factories, _⟩ := budget_step issued s next id events consistent settings.1 moves
        rw [Nat.add_assoc, same, factories]
        exact balanced allowed.2

-- A failure is reported for an actor that is not installed any more, as one is
-- not after its handler has panicked, and it does not come back.
def genuine : Machine.Rely (Supervised (Host P)) (Call (Host P)) Report := fun log s call =>
  hosted log s call ∧
    match call with
    | .handleFailure id => id ∉ s.ctx.actorMap
    | .elsewhere host => ∀ i id, .made i id ∈ log → id ∈ host.actorMap → id ∈ s.ctx.actorMap
    | _ => True

theorem genuine_hosted (strategy : Strategy) (maxRestarts : Nat) (log : List Report) (s : Supervised (Host P))
    (reached : (supervision (Host P) strategy maxRestarts).Reach genuine log s) :
    (supervision (Host P) strategy maxRestarts).Reach hosted log s :=
  Machine.reach_weaken _ _ _ (fun _ _ _ allowed => allowed.1) log s reached

-- The calls of the supervisor only add to the map of the worker.
theorem step_grows (s next : Supervised (Host P)) (call : Call (Host P)) (events : List Report)
    (spawns : Registered Spawns s.sup.childFactories 0) (inside : ∀ ctx, call ≠ .elsewhere ctx)
    (taken : step s call = some (next, events)) : s.ctx.Grows next.ctx := by
  cases call with
  | registerChild factory =>
      cases taken
      exact grows_refl s.ctx
  | elsewhere ctx => exact absurd rfl (inside ctx)
  | startAll =>
      simp only [step, startAll, start_loop_eq, Option.some.injEq] at taken
      cases taken
      exact (spawn_each_hosts s.sup.childFactories 0 spawns s.ctx []).1
  | handleFailure id =>
      simp only [step, handleFailure] at taken
      obtain ⟨⟨answer, sup, ctx, calls⟩, handled, same⟩ := Option.map_eq_some_iff.mp taken
      cases same
      split at handled
      · cases handled
        exact grows_refl s.ctx
      · split at handled
        · unfold restartOne at handled
          split at handled
          · cases handled
            exact grows_refl s.ctx
          · split at handled
            · cases handled
            · rename_i factory found
              obtain ⟨plain, spawn, same⟩ := spawns _ factory found
              obtain ⟨actor, hook, result⟩ := spawn s.ctx
              have after : (factory (s.ctx, [])).2.1 = ctx := congrArg (fun answer => answer.2.2.1) (Option.some.inj handled)
              rw [same] at after
              simp only [traced, result] at after
              rw [← after]
              exact (spawn_installs s.ctx actor hook).1
        · rw [restart_all_eq] at handled
          have after : (spawnEach s.sup.childFactories (s.ctx, [])).2.1 = ctx :=
            congrArg (fun answer => answer.2.2.1) (Option.some.inj handled)
          rw [← after]
          exact (spawn_each_hosts s.sup.childFactories 0 spawns s.ctx []).1

-- An installed actor that a factory made is a child, or is not yet.
theorem kept_step (s next : Supervised (Host P)) (call : Call (Host P)) (log events : List Report)
    (moves : Moves Host.issued s call events next) (one : s.sup.strategy = .oneForOne)
    (reported : ∀ id, call = .handleFailure id → id ∉ s.ctx.actorMap)
    (old : ∀ id ∈ madeIds log, id ∈ next.ctx.actorMap → id ∈ s.ctx.actorMap)
    (kept : ∀ id ∈ madeIds log, id ∈ s.ctx.actorMap → id ∈ s.sup.childIds) (id : ActorId)
    (made : id ∈ madeIds (log ++ events)) (installed : id ∈ next.ctx.actorMap) : id ∈ next.sup.childIds := by
  rw [made_ids_append, List.mem_append] at made
  have before (earlier : id ∈ madeIds log) : id ∈ s.sup.childIds := kept id earlier (old id earlier installed)
  have spared (failed : ActorId) (same : call = .handleFailure failed) (earlier : id ∈ madeIds log) : id ≠ failed := by
    rintro rfl
    exact reported id same (old id earlier installed)
  cases moves with
  | registerChild factory => exact before (by simpa [madeIds] using made)
  | elsewhere ctx => exact before (by simpa [madeIds] using made)
  | ignored failed left single absent =>
      have none : madeIds [Report.failure failed s.sup.childIds [] s.sup.childIds] = [] := rfl
      exact before (by simpa [none] using made)
  | startAll ids ctx length issues =>
      rcases made with earlier | now
      · exact List.mem_append_left _ (before earlier)
      · rw [made_ids_append, made_ids_each] at now
        exact List.mem_append_right _ (by simpa [madeIds, Report.makes] using now)
  | exhausted failed spent =>
      have nothing : madeIds
          [Report.failure failed s.sup.childIds [] (s.sup.childIds.filter fun other => other != failed)] = [] := rfl
      have earlier : id ∈ madeIds log := by simpa [nothing] using made
      exact List.mem_filter.mpr ⟨before earlier, by simpa using spared failed rfl earlier⟩
  | restartedOne failed newId front back ctx left single split first issues =>
      rcases made with earlier | now
      · have place := before earlier
        rw [split] at place
        rcases List.mem_append.mp place with early | late
        · exact List.mem_append_left _ early
        · exact List.mem_append_right _ (List.mem_cons_of_mem _ (List.mem_of_ne_of_mem (spared failed rfl earlier) late))
      · have same : id = newId := by simpa [madeIds, Report.makes] using now
        rw [same]
        simp
  | restartedAll failed ids ctx left all length issues =>
      rw [one] at all
      cases all

theorem reach_kept (maxRestarts : Nat) (log : List Report) (s : Supervised (Host P))
    (reached : (supervision (Host P) .oneForOne maxRestarts).Reach genuine log s) :
    ∀ id ∈ madeIds log, id ∈ s.ctx.actorMap → id ∈ s.sup.childIds := by
  refine Machine.reach_invariant (supervision (Host P) .oneForOne maxRestarts) genuine
    (fun log s => ∀ id ∈ madeIds log, id ∈ s.ctx.actorMap → id ∈ s.sup.childIds) ?_ ?_ log s reached
  · intro s _ id member
    cases member
  · intro log s call next events before kept allowed taken
    have earlier := genuine_hosted .oneForOne maxRestarts log s before
    have ordered := hosted_in_order maxRestarts .oneForOne log s earlier
    have registered := reach_registered Host.issued _ (in_order_fresh Host.issued) log s ordered
    have settings := reach_settings Host.issued _ (in_order_fresh Host.issued) log s ordered
    have known := reach_made Host.issued .oneForOne maxRestarts _ hosted_fresh log s earlier
    refine kept_step s next call log events (step_moves Host.issued s next call events registered taken) settings.1 ?_ ?_ kept
    · rintro id rfl
      exact allowed.2
    · intro id made installed
      obtain ⟨i, member⟩ := (mem_made_ids log id).mp made
      by_cases outside : ∃ ctx, call = .elsewhere ctx
      · obtain ⟨ctx, rfl⟩ := outside
        cases taken
        exact allowed.2 i id member installed
      · have grows := step_grows s next call events (reach_hosted .oneForOne maxRestarts log s earlier)
          (fun ctx same => outside ⟨ctx, same⟩) taken
        rw [← AList.lookup_isSome, grows.kept id (known i id member), AList.lookup_isSome] at installed
        exact installed

-- One-for-one supervision of failures that are reported when they happen
-- leaves no orphan, and the actors it ever spawns are as many as its budget
-- says.
theorem failures_contained (maxRestarts : Nat) (log : List Report) (s : Supervised (Host P))
    (reached : (supervision (Host P) .oneForOne maxRestarts).Reach genuine log s) :
    (∀ i id, .made i id ∈ log → id ∈ s.ctx.actorMap → id ∈ s.sup.children) ∧
      (Started log → (madeIds log).length + s.sup.budget = s.sup.childFactories.length * (maxRestarts + 1)) := by
  have ordered := hosted_in_order maxRestarts .oneForOne log s (genuine_hosted .oneForOne maxRestarts log s reached)
  refine ⟨?_, reach_balanced Host.issued maxRestarts log s ordered⟩
  intro i id made installed
  exact reach_kept maxRestarts log s reached id ((mem_made_ids log id).mpr ⟨i, made⟩) installed

-- The first of two children fails and is restarted.
def oneRestart : List (Call (Host numbers)) := twoChildren firstFailed ++ ([.handleFailure 1] : List (Call (Host numbers)))

def oneRestartLog : List Report := twoChildrenLog ++ ([.made 0 3, .failure 1 [1, 2] [3] [3, 2]] : List Report)

theorem failures_contained_one : ∃ s : Supervised (Host numbers),
    (supervision (Host numbers) .oneForOne 1).Reach genuine oneRestartLog s ∧ s.sup.children = [3, 2] ∧
      2 ∈ s.ctx.actorMap ∧ (madeIds oneRestartLog).length + s.sup.budget = 2 * (1 + 1) ∧
        (2 ∈ s.ctx.actorMap → 2 ∈ s.sup.children) := by
  have reached : (supervision (Host numbers) .oneForOne 1).Reach genuine oneRestartLog
      ((supervision (Host numbers) .oneForOne 1).last ⟨new .oneForOne 1, ⟨1, ∅, []⟩⟩ oneRestart) := by
    refine Machine.run_reach_rely (supervision (Host numbers) .oneForOne 1) genuine [] _ ⟨new .oneForOne 1, ⟨1, ∅, []⟩⟩ _
      oneRestart (.init _ rfl) rfl
      ⟨⟨⟨⟨spawns_fresh spawning spawning_spawns, nofun⟩, spawning_spawns⟩, trivial⟩,
        ⟨⟨⟨spawns_fresh spawning spawning_spawns, nofun⟩, spawning_spawns⟩, trivial⟩, ⟨⟨⟨trivial, nofun⟩, trivial⟩, trivial⟩,
        ⟨⟨⟨fun id old => old, trivial⟩, trivial⟩, ?_⟩, ⟨⟨⟨trivial, ⟨[1, 2], by simp⟩⟩, trivial⟩, ?_⟩, trivial⟩
    · intro i id made member
      rcases (AList.mem_insert _).mp member with rfl | wrong
      · exact AList.lookup_isSome.mp rfl
      · cases wrong
    · intro member
      rcases (AList.mem_insert _).mp member with wrong | wrong
      · cases wrong
      · cases wrong
  obtain ⟨kept, balanced⟩ := failures_contained 1 _ _ reached
  have installed : 2 ∈ ((supervision (Host numbers) .oneForOne 1).last ⟨new .oneForOne 1, ⟨1, ∅, []⟩⟩ oneRestart).ctx.actorMap :=
    AList.lookup_isSome.mp rfl
  have started : Report.startedAll [1, 2] ∈ oneRestartLog := by simp [oneRestartLog, twoChildrenLog]
  have made : Report.made 1 2 ∈ oneRestartLog := by simp [oneRestartLog, twoChildrenLog]
  exact ⟨_, reached, rfl, installed, balanced ⟨[1, 2], started⟩, kept 1 2 made⟩

end Actinium.Supervisor
