import Actinium.Supervisor
import Actinium.Lib.Machine

set_option autoImplicit false

namespace Actinium.Supervisor

variable {κ : Type}

-- A Context that keeps the list of the factory calls made through it.
abbrev Traced (κ : Type) := κ × List (Nat × ActorId)

-- The i-th registered factory.
def traced (i : Nat) (factory : ChildFactory κ) : ChildFactory (Traced κ) := fun (ctx, calls) =>
  let (id, ctx) := factory ctx
  (id, ctx, calls ++ [(i, id)])

-- Every call returns an id that was not issued before, and issues it.
def Fresh (issued : κ → ActorId → Prop) (factory : ChildFactory κ) : Prop :=
  ∀ ctx, ¬ issued ctx (factory ctx).1 ∧ ∀ id, issued ctx id ∨ id = (factory ctx).1 → issued (factory ctx).2 id

structure Supervised (κ : Type) where
  sup : Supervisor (Traced κ)
  ctx : κ

inductive Report where
  | made (factory : Nat) (id : ActorId)
  | startedAll (ids : List ActorId)
  | failure (id : ActorId) (before answer after : List ActorId)

-- The calls made to the supervisor, and what happens meanwhile to the rest of
-- the runtime.
inductive Call (κ : Type) where
  | registerChild (factory : ChildFactory κ)
  | startAll
  | handleFailure (id : ActorId)
  | elsewhere (ctx : κ)

def reports (calls : List (Nat × ActorId)) : List Report := calls.map fun call => .made call.1 call.2

def step (s : Supervised κ) : Call κ → Option (Supervised κ × List Report)
  | .registerChild factory => some ({ s with sup := s.sup.registerChild (traced s.sup.childFactories.length factory) }, [])
  | .startAll =>
      let (sup, ctx, calls) := s.sup.startAll (s.ctx, [])
      some (⟨sup, ctx⟩, reports calls ++ [Report.startedAll (calls.map Prod.snd)])
  | .handleFailure id =>
      (s.sup.handleFailure id (s.ctx, [])).map fun (answer, sup, ctx, calls) =>
        (⟨sup, ctx⟩, reports calls ++ [Report.failure id s.sup.children answer sup.children])
  | .elsewhere ctx => some ({ s with ctx := ctx }, [])

def supervision (κ : Type) (strategy : Strategy) (maxRestarts : Nat) : Machine (Supervised κ) (Call κ) Report where
  init := fun s => s.sup = new strategy maxRestarts
  step := step

-- Factories return fresh ids, and an issued id stays one.
def freshly (issued : κ → ActorId → Prop) : Machine.Rely (Supervised κ) (Call κ) Report := fun _ s call =>
  match call with
  | .registerChild factory => Fresh issued factory
  | .elsewhere ctx => ∀ id, issued s.ctx id → issued ctx id
  | _ => True

def Started (log : List Report) : Prop := ∃ ids, .startedAll ids ∈ log

-- All factories are registered, then start_all is called once, then failures
-- are handled.
def inOrder (issued : κ → ActorId → Prop) : Machine.Rely (Supervised κ) (Call κ) Report := fun log s call =>
  freshly issued log s call ∧
    match call with
    | .registerChild _ => ¬ Started log
    | .startAll => ¬ Started log
    | .handleFailure _ => Started log
    | .elsewhere _ => True

-- Several calls of factories that return fresh ids.
structure Issues (issued : κ → ActorId → Prop) (ctx : κ) (ids : List ActorId) (after : κ) : Prop where
  nodup : ids.Nodup
  fresh : ∀ id ∈ ids, ¬ issued ctx id
  marks : ∀ id, issued ctx id ∨ id ∈ ids → issued after id

def Registered (kind : ChildFactory κ → Prop) (factories : List (ChildFactory (Traced κ))) (offset : Nat) : Prop :=
  ∀ i factory, factories[i]? = some factory → ∃ plain, kind plain ∧ factory = traced (offset + i) plain

theorem registered_tail (kind : ChildFactory κ → Prop) (factory : ChildFactory (Traced κ))
    (rest : List (ChildFactory (Traced κ))) (offset : Nat) (registered : Registered kind (factory :: rest) offset) :
    Registered kind rest (offset + 1) := by
  intro i other found
  obtain ⟨plain, good, same⟩ := registered (i + 1) other (by simpa using found)
  exact ⟨plain, good, by rw [same, Nat.add_assoc, Nat.add_comm 1 i]⟩

theorem registered_push (kind : ChildFactory κ → Prop) (factories : List (ChildFactory (Traced κ)))
    (registered : Registered kind factories 0) (factory : ChildFactory κ) (good : kind factory) :
    Registered kind (factories ++ [traced factories.length factory]) 0 := by
  intro i other found
  by_cases inside : i < factories.length
  · rw [List.getElem?_append_left inside] at found
    exact registered i other found
  · rw [List.getElem?_append_right (Nat.le_of_not_lt inside)] at found
    obtain ⟨bound, same⟩ := List.getElem?_eq_some_iff.mp found
    rw [List.length_singleton, Nat.lt_one_iff] at bound
    have last : i = factories.length := by omega
    subst last
    exact ⟨factory, good, by simpa using same.symm⟩

theorem spawn_each_traced (issued : κ → ActorId → Prop) (factories : List (ChildFactory (Traced κ))) (offset : Nat)
    (registered : Registered (Fresh issued) factories offset) (ctx : κ) (calls : List (Nat × ActorId)) :
    ∃ ids after, spawnEach factories (ctx, calls) =
      (ids, after, calls ++ (ids.zipIdx offset).map Prod.swap) ∧ Issues issued ctx ids after := by
  induction factories generalizing offset ctx calls with
  | nil => exact ⟨[], ctx, by simp [spawnEach], List.nodup_nil, by simp, by simp⟩
  | cons factory rest ih =>
      obtain ⟨plain, fresh, same⟩ := registered 0 factory rfl
      subst same
      have later := registered_tail (Fresh issued) _ rest offset registered
      obtain ⟨ids, after, same, issues⟩ := ih (offset + 1) later (plain ctx).2 (calls ++ [(offset, (plain ctx).1)])
      obtain ⟨unissued, marks⟩ := fresh ctx
      refine ⟨(plain ctx).1 :: ids, after, ?_, ?_, ?_, ?_⟩
      · simp [spawnEach, traced, same, List.zipIdx_cons]
      · refine List.nodup_cons.mpr ⟨?_, issues.nodup⟩
        intro member
        exact issues.fresh _ member (marks _ (Or.inr rfl))
      · intro id member old
        rcases List.mem_cons.mp member with first | inside
        · exact unissued (first ▸ old)
        · exact issues.fresh id inside (marks id (Or.inl old))
      · rintro id (old | member)
        · exact issues.marks id (Or.inl (marks id (Or.inl old)))
        · rcases List.mem_cons.mp member with first | inside
          · exact issues.marks id (Or.inl (marks id (Or.inr first)))
          · exact issues.marks id (Or.inr inside)

def count (sup : Supervisor (Traced κ)) (id : ActorId) : Nat := (sup.restartCounts.lookup id).getD 0

def madeEach (ids : List ActorId) : List Report := reports (ids.zipIdx.map Prod.swap)

-- What one call can do.
inductive Moves (issued : κ → ActorId → Prop) (s : Supervised κ) : Call κ → List Report → Supervised κ → Prop where
  | registerChild (factory : ChildFactory κ) :
      Moves issued s (.registerChild factory) []
        { s with sup := s.sup.registerChild (traced s.sup.childFactories.length factory) }
  | elsewhere (ctx : κ) : Moves issued s (.elsewhere ctx) [] { s with ctx := ctx }
  | startAll (ids : List ActorId) (ctx : κ) (length : ids.length = s.sup.childFactories.length)
      (issues : Issues issued s.ctx ids ctx) :
      Moves issued s .startAll (madeEach ids ++ [Report.startedAll ids])
        ⟨{ s.sup with
          childIds := s.sup.childIds ++ ids
          restartCounts := ids.foldl (fun counts id => counts.insert id 0) s.sup.restartCounts }, ctx⟩
  | exhausted (id : ActorId) (spent : s.sup.maxRestarts ≤ s.sup.count id) :
      Moves issued s (.handleFailure id)
        [.failure id s.sup.childIds [] (s.sup.childIds.filter fun other => other != id)]
        { s with sup := { s.sup with
          childIds := s.sup.childIds.filter fun other => other != id
          restartCounts := s.sup.restartCounts.erase id } }
  | ignored (id : ActorId) (left : s.sup.count id < s.sup.maxRestarts) (one : s.sup.strategy = .oneForOne)
      (absent : id ∉ s.sup.childIds) :
      Moves issued s (.handleFailure id) [.failure id s.sup.childIds [] s.sup.childIds] s
  | restartedOne (id newId : ActorId) (front back : List ActorId) (ctx : κ) (left : s.sup.count id < s.sup.maxRestarts)
      (one : s.sup.strategy = .oneForOne) (split : s.sup.childIds = front ++ id :: back) (first : id ∉ front)
      (issues : Issues issued s.ctx [newId] ctx) :
      Moves issued s (.handleFailure id)
        [.made front.length newId, .failure id s.sup.childIds [newId] (front ++ newId :: back)]
        ⟨{ s.sup with
          childIds := front ++ newId :: back
          restartCounts := (s.sup.restartCounts.erase id).insert newId (s.sup.count id + 1) }, ctx⟩
  | restartedAll (id : ActorId) (ids : List ActorId) (ctx : κ) (left : s.sup.count id < s.sup.maxRestarts)
      (all : s.sup.strategy = .allForOne) (length : ids.length = s.sup.childFactories.length)
      (issues : Issues issued s.ctx ids ctx) :
      Moves issued s (.handleFailure id)
        (madeEach ids ++ [Report.failure id s.sup.childIds ids (ids ++ s.sup.childIds.drop ids.length)])
        ⟨{ s.sup with
          childIds := ids ++ s.sup.childIds.drop ids.length
          restartCounts := zeroCounts ids }, ctx⟩

theorem index_split (ids : List ActorId) (id : ActorId) (idx : Nat) (found : ids.idxOf? id = some idx) :
    ∃ front back, ids = front ++ id :: back ∧ id ∉ front ∧ front.length = idx := by
  induction ids generalizing idx with
  | nil => cases found
  | cons head tail ih =>
      rw [List.idxOf?_cons] at found
      split at found
      · rename_i same
        cases found
        exact ⟨[], tail, by simp [beq_iff_eq.mp same], List.not_mem_nil, rfl⟩
      · rename_i different
        obtain ⟨i, inside, rfl⟩ := Option.map_eq_some_iff.mp found
        obtain ⟨front, back, split, first, length⟩ := ih i inside
        refine ⟨head :: front, back, by rw [split]; rfl, ?_, by rw [List.length_cons, length]⟩
        simp only [List.mem_cons, not_or]
        exact ⟨fun same => different (beq_iff_eq.mpr same.symm), first⟩

theorem step_moves (issued : κ → ActorId → Prop) (s next : Supervised κ) (call : Call κ) (events : List Report)
    (registered : Registered (Fresh issued) s.sup.childFactories 0) (taken : step s call = some (next, events)) :
    Moves issued s call events next := by
  cases call with
  | registerChild factory =>
      cases taken
      exact .registerChild factory
  | elsewhere ctx =>
      cases taken
      exact .elsewhere ctx
  | startAll =>
      obtain ⟨ids, ctx, same, issues⟩ := spawn_each_traced issued _ 0 registered s.ctx []
      have length := spawn_each_length s.sup.childFactories (s.ctx, [])
      simp only [same] at length
      simp only [step, Supervisor.startAll, start_loop_eq, same, List.nil_append, Option.some.injEq] at taken
      cases taken
      have seconds : (ids.zipIdx.map Prod.swap).map Prod.snd = ids := by
        rw [List.map_map]
        exact List.zipIdx_map_fst 0 ids
      rw [seconds]
      exact .startAll ids ctx length issues
  | handleFailure id =>
      simp only [step, Supervisor.handleFailure] at taken
      obtain ⟨⟨answer, sup, ctx, calls⟩, handled, same⟩ := Option.map_eq_some_iff.mp taken
      cases same
      split at handled
      · rename_i spent
        cases handled
        exact .exhausted id spent
      · rename_i left
        have left : s.sup.count id < s.sup.maxRestarts := Nat.lt_of_not_ge left
        split at handled
        · rename_i one
          unfold restartOne at handled
          split at handled
          · rename_i absent
            cases handled
            exact .ignored id left one (List.idxOf?_eq_none_iff.mp absent)
          · rename_i idx found
            split at handled
            · cases handled
            · rename_i factory inside
              obtain ⟨front, back, split, first, length⟩ := index_split _ id idx found
              obtain ⟨plain, fresh, rfl⟩ := registered idx factory inside
              obtain ⟨unissued, marks⟩ := fresh s.ctx
              have issues : Issues issued s.ctx [(plain s.ctx).1] (plain s.ctx).2 := by
                refine ⟨List.nodup_singleton _, ?_, ?_⟩
                · intro other member
                  rw [List.mem_singleton.mp member]
                  exact unissued
                · intro other old
                  exact marks other (by simpa using old)
              cases handled
              have move := Moves.restartedOne id (plain s.ctx).1 front back (plain s.ctx).2 left one split first issues
              have put : s.sup.childIds.set idx (plain s.ctx).1 = front ++ (plain s.ctx).1 :: back := by
                rw [split, ← length]
                simp
              simp only [Supervisor.children, put, List.nil_append, Nat.zero_add, reports, List.map_cons,
                List.map_nil, List.cons_append]
              rw [← length]
              exact move
        · rename_i all
          obtain ⟨ids, after, same, issues⟩ := spawn_each_traced issued _ 0 registered s.ctx []
          have length := spawn_each_length s.sup.childFactories (s.ctx, [])
          simp only [same] at length
          simp only [restart_all_eq, same, List.nil_append, Option.some.injEq] at handled
          cases handled
          simp only [Supervisor.children, ← length]
          exact .restartedAll id _ _ left all length issues

theorem registered_step (issued : κ → ActorId → Prop) (kind : ChildFactory κ → Prop) (s next : Supervised κ) (call : Call κ)
    (events : List Report) (registered : Registered kind s.sup.childFactories 0) (moves : Moves issued s call events next)
    (good : ∀ factory, call = .registerChild factory → kind factory) : Registered kind next.sup.childFactories 0 := by
  cases moves with
  | registerChild factory => exact registered_push kind _ registered factory (good factory rfl)
  | _ => exact registered

end Actinium.Supervisor
