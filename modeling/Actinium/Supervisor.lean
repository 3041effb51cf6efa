import Actinium.Actor
import Mathlib.Data.List.AList

set_option autoImplicit false

namespace Actinium

inductive Strategy where
  | oneForOne
  | allForOne
deriving DecidableEq

-- A factory spawns a child through the Context it is given. What the Context
-- leads to is κ: factories are arbitrary code, and κ is all they can change.
abbrev ChildFactory (κ : Type) := κ → ActorId × κ

structure Supervisor (κ : Type) where
  strategy : Strategy
  maxRestarts : Nat
  childFactories : List (ChildFactory κ)
  childIds : List ActorId
  restartCounts : AList (fun _ : ActorId => Nat)

namespace Supervisor

variable {κ : Type}

def new (strategy : Strategy) (maxRestarts : Nat) : Supervisor κ := ⟨strategy, maxRestarts, [], [], ∅⟩

def registerChild (sup : Supervisor κ) (factory : ChildFactory κ) : Supervisor κ :=
  { sup with childFactories := sup.childFactories ++ [factory] }

def children (sup : Supervisor κ) : List ActorId := sup.childIds

def startLoop : List (ChildFactory κ) → Supervisor κ → κ → Supervisor κ × κ
  | [], sup, ctx => (sup, ctx)
  | factory :: rest, sup, ctx =>
      let (id, ctx) := factory ctx
      startLoop rest { sup with childIds := sup.childIds ++ [id], restartCounts := sup.restartCounts.insert id 0 } ctx

def startAll (sup : Supervisor κ) (ctx : κ) : Supervisor κ × κ := startLoop sup.childFactories sup ctx

-- The index child_factories[idx] panics when it is out of bounds: none.
def restartOne (sup : Supervisor κ) (failedId : ActorId) (count : Nat) (ctx : κ) :
    Option (List ActorId × Supervisor κ × κ) :=
  match sup.childIds.idxOf? failedId with
  | none => some ([], sup, ctx)
  | some idx =>
      match sup.childFactories[idx]? with
      | none => none
      | some factory =>
          let (newId, ctx) := factory ctx
          some ([newId], { sup with
            childIds := sup.childIds.set idx newId
            restartCounts := (sup.restartCounts.erase failedId).insert newId (count + 1) }, ctx)

def restartLoop : List (ChildFactory κ) → Nat → List ActorId → Supervisor κ → κ → List ActorId × Supervisor κ × κ
  | [], _, newIds, sup, ctx => (newIds, sup, ctx)
  | factory :: rest, i, newIds, sup, ctx =>
      let (newId, ctx) := factory ctx
      restartLoop rest (i + 1) (newIds ++ [newId]) { sup with
        childIds := if i < sup.childIds.length then sup.childIds.set i newId else sup.childIds ++ [newId]
        restartCounts := sup.restartCounts.insert newId 0 } ctx

def zeroCounts (newIds : List ActorId) : AList (fun _ : ActorId => Nat) :=
  newIds.foldl (fun counts id => counts.insert id 0) ∅

def restartAll (sup : Supervisor κ) (ctx : κ) : List ActorId × Supervisor κ × κ :=
  let (newIds, restarted, ctx) := restartLoop sup.childFactories 0 [] sup ctx
  (newIds, { restarted with restartCounts := zeroCounts newIds }, ctx)

def handleFailure (sup : Supervisor κ) (failedId : ActorId) (ctx : κ) : Option (List ActorId × Supervisor κ × κ) :=
  let count := (sup.restartCounts.lookup failedId).getD 0
  if count ≥ sup.maxRestarts then
    some ([], { sup with
      childIds := sup.childIds.filter (fun id => id != failedId)
      restartCounts := sup.restartCounts.erase failedId }, ctx)
  else
    match sup.strategy with
    | .oneForOne => sup.restartOne failedId count ctx
    | .allForOne => some (sup.restartAll ctx)

-- Calling factories one after the other.
def spawnEach : List (ChildFactory κ) → κ → List ActorId × κ
  | [], ctx => ([], ctx)
  | factory :: rest, ctx =>
      let (id, ctx) := factory ctx
      let (ids, ctx) := spawnEach rest ctx
      (id :: ids, ctx)

theorem spawn_each_length (factories : List (ChildFactory κ)) (ctx : κ) :
    (spawnEach factories ctx).1.length = factories.length := by
  induction factories generalizing ctx with
  | nil => rfl
  | cons factory rest ih => simp [spawnEach, ih]

theorem start_loop_eq (factories : List (ChildFactory κ)) (sup : Supervisor κ) (ctx : κ) :
    startLoop factories sup ctx = ({ sup with
      childIds := sup.childIds ++ (spawnEach factories ctx).1
      restartCounts := (spawnEach factories ctx).1.foldl (fun counts id => counts.insert id 0) sup.restartCounts },
      (spawnEach factories ctx).2) := by
  induction factories generalizing sup ctx with
  | nil => simp [startLoop, spawnEach]
  | cons factory rest ih => simp [startLoop, spawnEach, ih]

theorem restart_loop_eq (factories : List (ChildFactory κ)) (front newIds back : List ActorId) (sup : Supervisor κ) (ctx : κ)
    (split : sup.childIds = front ++ back) :
    ∃ counts, restartLoop factories front.length newIds sup ctx =
      (newIds ++ (spawnEach factories ctx).1,
        { sup with
          childIds := front ++ (spawnEach factories ctx).1 ++ back.drop factories.length
          restartCounts := counts },
        (spawnEach factories ctx).2) := by
  induction factories generalizing front newIds back sup ctx with
  | nil => exact ⟨sup.restartCounts, by simp [restartLoop, spawnEach, ← split]⟩
  | cons factory rest ih =>
      simp only [restartLoop, spawnEach]
      cases back with
      | nil =>
          rw [List.append_nil] at split
          rw [if_neg (by rw [split]; exact Nat.lt_irrefl _), split]
          obtain ⟨counts, same⟩ := ih (front ++ [(factory ctx).1]) (newIds ++ [(factory ctx).1]) []
            { sup with
              childIds := front ++ [(factory ctx).1]
              restartCounts := sup.restartCounts.insert (factory ctx).1 0 } (factory ctx).2 (by simp)
          rw [List.length_append, List.length_singleton] at same
          refine ⟨counts, same.trans ?_⟩
          simp
      | cons old tail =>
          rw [if_pos (by rw [split]; simp), split]
          obtain ⟨counts, same⟩ := ih (front ++ [(factory ctx).1]) (newIds ++ [(factory ctx).1]) tail
            { sup with
              childIds := (front ++ old :: tail).set front.length (factory ctx).1
              restartCounts := sup.restartCounts.insert (factory ctx).1 0 } (factory ctx).2 (by simp)
          rw [List.length_append, List.length_singleton] at same
          refine ⟨counts, same.trans ?_⟩
          simp

-- restart_all takes the first positions for the new children, and leaves the
-- children of further positions, whose counts it forgets.
theorem restart_all_eq (sup : Supervisor κ) (ctx : κ) :
    sup.restartAll ctx = ((spawnEach sup.childFactories ctx).1,
      { sup with
        childIds := (spawnEach sup.childFactories ctx).1 ++ sup.childIds.drop sup.childFactories.length
        restartCounts := zeroCounts (spawnEach sup.childFactories ctx).1 },
      (spawnEach sup.childFactories ctx).2) := by
  obtain ⟨counts, same⟩ := restart_loop_eq sup.childFactories [] [] sup.childIds sup ctx rfl
  rw [List.length_nil] at same
  simp [restartAll, same]

theorem lookup_zeros (ids : List ActorId) (counts : AList (fun _ : ActorId => Nat)) (id : ActorId) :
    (ids.foldl (fun counts id => counts.insert id 0) counts).lookup id = if id ∈ ids then some 0 else counts.lookup id := by
  induction ids generalizing counts with
  | nil => simp
  | cons head tail ih =>
      rw [List.foldl_cons, ih]
      by_cases later : id ∈ tail
      · simp [later]
      · by_cases same : id = head
        · subst same
          simp [later]
        · simp [later, same, AList.lookup_insert_ne same]

end Supervisor

end Actinium
