import Actinium.Lib.Machine

set_option autoImplicit false

namespace Actinium

-- StateHandler<M, S>: what an implementation declares. What its
-- handle_in_state does is part of the step.
structure StateHandler (S : Type) where
  initialState : S
  stateSequence : List S

structure StateMachine (A S : Type) where
  inner : A
  current : Nat
  states : List S

-- How a call of handle_in_state ends, and the actor it leaves.
inductive Handled (A R : Type) where
  | returned (inner : A) (result : R)
  | panicked (inner : A)

inductive StateAction (A M R : Type) where
  | handle (msg : M) (handled : Handled A R)
  -- started, stopped and inner_mut go to the inner actor alone
  | inner (val : A)

inductive StateEvent (S M R : Type) where
  | handleInState (idx : Nat) (state : S) (msg : M)
  | returned (result : R)
  | panicked
  | outOfBounds (idx : Nat)

-- The event a call ends with, and by how much the index moves on.
def Handled.ends {A S M R : Type} : Handled A R → StateEvent S M R
  | .returned _ result => .returned result
  | .panicked _ => .panicked

def Handled.moves {A R : Type} : Handled A R → Nat
  | .returned _ _ => 1
  | .panicked _ => 0

namespace StateMachine

variable {A S M R : Type}

-- The assert on the states, then the machine at index 0.
def new (handler : StateHandler S) (inner : A) : Option (StateMachine A S) :=
  let states := handler.stateSequence
  if states.isEmpty then none else some ⟨inner, 0, states⟩

def currentState (m : StateMachine A S) : Option S := m.states[m.current]?

-- The message is given away with the context, which only the handler uses.
def handle (m : StateMachine A S) (msg : M) (handled : Handled A R) : StateMachine A S × List (StateEvent S M R) :=
  let idx := m.current
  match m.states[idx]? with
  | none => (m, [.outOfBounds idx])
  | some state =>
      match handled with
      | .returned inner result =>
          ({ m with inner := inner, current := (m.current + 1) % m.states.length },
            [.handleInState idx state msg, .returned result])
      | .panicked inner => ({ m with inner := inner }, [.handleInState idx state msg, .panicked])

def step (m : StateMachine A S) : StateAction A M R → StateMachine A S × List (StateEvent S M R)
  | .handle msg handled => m.handle msg handled
  | .inner val => ({ m with inner := val }, [])

end StateMachine

def stateMachine (A M R : Type) {S : Type} (handler : StateHandler S) :
    Machine (StateMachine A S) (StateAction A M R) (StateEvent S M R) where
  init := fun m => ∃ inner, StateMachine.new handler inner = some m
  step := fun m action => some (m.step action)

def StateEvent.completes {S M R : Type} : StateEvent S M R → Bool
  | .returned _ => true
  | _ => false

namespace StateMachine

variable {A S M R : Type}

abbrev StateLog (S M R : Type) := List (StateEvent S M R)

-- The number of messages whose handler has returned.
def completed (log : StateLog S M R) : Nat := log.countP StateEvent.completes

theorem completed_append (a b : StateLog S M R) : completed (a ++ b) = completed a + completed b := List.countP_append

-- The messages handed to handle_in_state, and the results it gave.
def call : StateEvent S M R → Option M
  | .handleInState _ _ msg => some msg
  | _ => none

def result : StateEvent S M R → Option R
  | .returned result => some result
  | _ => none

def calls (log : StateLog S M R) : List M := log.filterMap call
def results (log : StateLog S M R) : List R := log.filterMap result

theorem calls_append (a b : StateLog S M R) : calls (a ++ b) = calls a ++ calls b := List.filterMap_append
theorem results_append (a b : StateLog S M R) : results (a ++ b) = results a ++ results b := List.filterMap_append

theorem results_completed (log : StateLog S M R) : (results log).length = completed log := by
  induction log with
  | nil => rfl
  | cons event rest ih =>
      rw [← List.singleton_append, results_append, completed_append, List.length_append, ih]
      cases event <;> rfl

-- The index counts the messages completed, around the sequence.
structure Cycling (handler : StateHandler S) (log : StateLog S M R) (m : StateMachine A S) : Prop where
  states : m.states = handler.stateSequence
  nonempty : 0 < m.states.length
  current : m.current = completed log % m.states.length
  inBounds : ∀ idx, .outOfBounds idx ∉ log

theorem cycling_new (handler : StateHandler S) (inner : A) (m : StateMachine A S) (created : new handler inner = some m) :
    Cycling handler ([] : StateLog S M R) m := by
  simp only [new] at created
  split at created
  · cases created
  · rename_i full
    cases created
    refine ⟨rfl, ?_, rfl, by simp⟩
    exact List.length_pos_iff.mpr (by simpa using full)

theorem current_lt (handler : StateHandler S) (log : StateLog S M R) (m : StateMachine A S) (cycling : Cycling handler log m) :
    m.current < m.states.length := by
  rw [cycling.current]
  exact Nat.mod_lt _ cycling.nonempty

-- What a message does: one call, in the state whose turn it is, and then the
-- index moves on if the call returns.
theorem handle_calls (handler : StateHandler S) (log : StateLog S M R) (m : StateMachine A S) (cycling : Cycling handler log m)
    (msg : M) (handled : Handled A R) :
    ∃ state, handler.stateSequence[m.current]? = some state ∧
      (m.handle msg handled).2 = [StateEvent.handleInState m.current state msg, handled.ends] ∧
      (m.handle msg handled).1.states = m.states ∧
      (m.handle msg handled).1.current = (m.current + handled.moves) % m.states.length := by
  have bound := current_lt handler log m cycling
  have here := List.getElem?_eq_getElem bound
  have given : handler.stateSequence[m.current]? = some m.states[m.current] := by
    rw [← cycling.states]
    exact here
  refine ⟨_, given, ?_⟩
  cases handled with
  | returned inner result => simp [handle, here, Handled.ends, Handled.moves]
  | panicked inner => simp [handle, here, Handled.ends, Handled.moves, Nat.mod_eq_of_lt bound]

theorem cycling_step (handler : StateHandler S) (log : StateLog S M R) (m : StateMachine A S) (cycling : Cycling handler log m)
    (action : StateAction A M R) : Cycling handler (log ++ (m.step action).2) (m.step action).1 := by
  cases action with
  | inner val =>
      simp only [step, List.append_nil]
      exact ⟨cycling.states, cycling.nonempty, cycling.current, cycling.inBounds⟩
  | handle msg handled =>
      obtain ⟨state, _, events, states, current⟩ := handle_calls handler log m cycling msg handled
      rw [step, events]
      refine ⟨states.trans cycling.states, states ▸ cycling.nonempty, ?_, ?_⟩
      · rw [current, states, completed_append, cycling.current, Nat.mod_add_mod]
        cases handled <;> rfl
      · intro idx member
        rcases List.mem_append.mp member with old | new
        · exact cycling.inBounds idx old
        · cases handled <;> simp [Handled.ends] at new

end StateMachine

theorem reach_cycling {A S M R : Type} (rely : Machine.Rely (StateMachine A S) (StateAction A M R) (StateEvent S M R))
    (handler : StateHandler S) (log : List (StateEvent S M R)) (m : StateMachine A S)
    (reached : (stateMachine A M R handler).Reach rely log m) : StateMachine.Cycling handler log m := by
  refine Machine.reach_invariant (stateMachine A M R handler) rely (StateMachine.Cycling handler) ?_ ?_ log m reached
  · rintro m ⟨inner, created⟩
    exact StateMachine.cycling_new handler inner m created
  · intro log m action next events _ cycling _ taken
    have stepped : m.step action = (next, events) := Option.some.inj taken
    have kept := StateMachine.cycling_step handler log m cycling action
    rwa [stepped] at kept

def StateAction.message {A M R : Type} : StateAction A M R → Option M
  | .handle msg _ => some msg
  | .inner _ => none

def StateAction.returns {A M R : Type} : StateAction A M R → Bool
  | .handle _ (.returned _ _) => true
  | _ => false

def StateAction.panics {A M R : Type} : StateAction A M R → Bool
  | .handle _ (.panicked _) => true
  | _ => false

namespace StateMachine

variable {A S M R : Type}

-- The machine is given these actions one after the other, and used again after
-- a panic.
def serve (m : StateMachine A S) : List (StateAction A M R) → StateMachine A S × StateLog S M R
  | [] => (m, [])
  | action :: rest => (((m.step action).1.serve rest).1, (m.step action).2 ++ ((m.step action).1.serve rest).2)

theorem serve_append (m : StateMachine A S) (first second : List (StateAction A M R)) :
    m.serve (first ++ second) =
      (((m.serve first).1.serve second).1, (m.serve first).2 ++ ((m.serve first).1.serve second).2) := by
  induction first generalizing m with
  | nil => rfl
  | cons action rest ih =>
      simp only [List.cons_append, serve, ih, List.append_assoc]

-- What the machine is given: the messages, and how many of them return.
def messages (actions : List (StateAction A M R)) : List M := actions.filterMap StateAction.message
def returns (actions : List (StateAction A M R)) : Nat := actions.countP StateAction.returns

theorem messages_cons (action : StateAction A M R) (rest : List (StateAction A M R)) :
    messages (action :: rest) = action.message.toList ++ messages rest := by
  cases action <;> rfl

theorem returns_messages (actions : List (StateAction A M R)) (calm : ∀ action ∈ actions, action.panics = false) :
    returns actions = (messages actions).length := by
  induction actions with
  | nil => rfl
  | cons action rest ih =>
      have later := ih fun other member => calm other (List.mem_cons_of_mem _ member)
      rw [messages_cons, List.length_append, ← later, returns, List.countP_cons]
      have now := calm action List.mem_cons_self
      cases action with
      | inner val => simp [StateAction.returns, StateAction.message, returns]
      | handle msg handled =>
          cases handled with
          | returned inner result => simp [StateAction.returns, StateAction.message, returns, Nat.add_comm]
          | panicked inner => cases now

-- The log of a run against what the machine was given.
structure Served (handler : StateHandler S) (actions : List (StateAction A M R)) (log : StateLog S M R)
    (m : StateMachine A S) : Prop where
  cycling : Cycling handler log m
  calls : calls log = messages actions
  completed : completed log = returns actions

theorem served_run (handler : StateHandler S) (earlier actions : List (StateAction A M R)) (log : StateLog S M R)
    (m : StateMachine A S) (served : Served handler earlier log m) :
    Served handler (earlier ++ actions) (log ++ (m.serve actions).2) (m.serve actions).1 := by
  induction actions generalizing earlier log m with
  | nil => simpa [serve] using served
  | cons action rest ih =>
      have kept := cycling_step handler log m served.cycling action
      have stepped : Served handler (earlier ++ [action]) (log ++ (m.step action).2) (m.step action).1 := by
        cases action with
        | inner val =>
            refine ⟨kept, ?_, ?_⟩
            · rw [calls_append, served.calls, messages, messages, List.filterMap_append]
              rfl
            · rw [completed_append, served.completed, returns, returns, List.countP_append]
              rfl
        | handle msg handled =>
            obtain ⟨state, _, events, _⟩ := handle_calls handler log m served.cycling msg handled
            rw [step, events] at kept ⊢
            refine ⟨kept, ?_, ?_⟩
            · rw [calls_append, served.calls, messages, messages, List.filterMap_append]
              cases handled <;> rfl
            · rw [completed_append, served.completed, returns, returns, List.countP_append]
              cases handled <;> rfl
      have later := ih (earlier ++ [action]) _ _ stepped
      rw [List.append_assoc, List.append_assoc] at later
      exact later

theorem served_new (handler : StateHandler S) (inner : A) (start : StateMachine A S) (created : new handler inner = some start)
    (actions : List (StateAction A M R)) : Served handler actions (start.serve actions).2 (start.serve actions).1 := by
  have fresh : Served handler ([] : List (StateAction A M R)) [] start := ⟨cycling_new handler inner start created, rfl, rfl⟩
  simpa using served_run handler [] actions [] start fresh

theorem served_current (handler : StateHandler S) (actions : List (StateAction A M R)) (log : StateLog S M R)
    (m : StateMachine A S) (served : Served handler actions log m) :
    m.current = returns actions % handler.stateSequence.length := by
  rw [served.cycling.current, served.completed, served.cycling.states]

-- The index law, for every sequence of messages, some of whose handlers panic:
-- each message makes one call, at the index that counts the returns before it.
theorem index_law (handler : StateHandler S) (inner : A) (start : StateMachine A S) (created : new handler inner = some start)
    (actions : List (StateAction A M R)) :
    let m := (start.serve actions).1
    let log := (start.serve actions).2
    calls log = messages actions ∧
      (∀ earlier msg handled later, actions = earlier ++ StateAction.handle msg handled :: later → ∃ state rest,
        handler.stateSequence[returns earlier % handler.stateSequence.length]? = some state ∧
          log = (start.serve earlier).2 ++
            StateEvent.handleInState (returns earlier % handler.stateSequence.length) state msg :: handled.ends :: rest) ∧
      (∀ idx, .outOfBounds idx ∉ log) ∧ m.current < m.states.length ∧
      m.current = returns actions % handler.stateSequence.length ∧
      (∃ state, m.currentState = some state ∧ handler.stateSequence[m.current]? = some state) ∧
      ∀ (msg : M) (left : A), (m.handle msg (.panicked left : Handled A R)).1.current = m.current := by
  intro m log
  have served : Served handler actions log m := served_new handler inner start created actions
  have bound := current_lt handler log m served.cycling
  have current := served_current handler actions log m served
  refine ⟨served.calls, ?_, served.cycling.inBounds, bound, current, ?_, ?_⟩
  · rintro earlier msg handled later rfl
    have before := served_new (M := M) (R := R) handler inner start created earlier
    obtain ⟨state, given, events, _⟩ := handle_calls handler _ _ before.cycling msg handled
    rw [served_current handler earlier _ _ before] at given events
    refine ⟨state, (((start.serve earlier).1.handle msg handled).1.serve later).2, given, ?_⟩
    change (start.serve (earlier ++ StateAction.handle msg handled :: later)).2 = _
    simp only [serve_append, serve, step, events, List.cons_append, List.nil_append]
  · have here := List.getElem?_eq_getElem bound
    refine ⟨_, here, ?_⟩
    rw [← served.cycling.states]
    exact here
  · intro msg left
    obtain ⟨_, _, _, _, moved⟩ := handle_calls handler log m served.cycling msg (.panicked left : Handled A R)
    exact moved.trans (Nat.mod_eq_of_lt bound)

-- Two states. The second message panics and is sent again.
def panicsOnce : List (StateAction Nat Nat Nat) :=
  [.handle 5 (.returned 1 50), .handle 6 (.panicked 1), .handle 6 (.returned 2 60), .handle 7 (.returned 3 70)]

def panicsOnceLog : StateLog Nat Nat Nat :=
  [.handleInState 0 8 5, .returned 50, .handleInState 1 9 6, .panicked, .handleInState 1 9 6, .returned 60,
    .handleInState 0 8 7, .returned 70]

theorem index_law_panic :
    ((⟨0, 0, [8, 9]⟩ : StateMachine Nat Nat).serve panicsOnce).2 = panicsOnceLog ∧
      calls panicsOnceLog = [5, 6, 6, 7] ∧ (∃ state rest, [8, 9][1 % 2]? = some state ∧
        panicsOnceLog = panicsOnceLog.take 4 ++ StateEvent.handleInState (1 % 2) state 6 :: .returned 60 :: rest) ∧
      ((⟨0, 0, [8, 9]⟩ : StateMachine Nat Nat).serve panicsOnce).1.current = 3 % 2 := by
  obtain ⟨called, each, _, _, current, _⟩ := index_law (M := Nat) (R := Nat) ⟨8, [8, 9]⟩ 0 ⟨0, 0, [8, 9]⟩ rfl panicsOnce
  exact ⟨rfl, called, each (panicsOnce.take 2) 6 (.returned 2 60) _ rfl, current⟩

-- A place of the initial state from which the states are gone around: where no
-- handler panics, the i-th message makes one call, in the state i places on.
def StartsAt (A M R : Type) (handler : StateHandler S) (place : Nat) : Prop :=
  handler.stateSequence[place]? = some handler.initialState ∧
    ∀ (inner : A) (start : StateMachine A S), new handler inner = some start → ∀ actions : List (StateAction A M R),
      (∀ action ∈ actions, action.panics = false) →
        let m := (start.serve actions).1
        ((messages actions).length % handler.stateSequence.length = 0 → m.currentState = some handler.initialState) ∧
          ∀ (msg : M) (left : A) (result : R), ∃ idx state,
            (m.handle msg (.returned left result)).2 = [StateEvent.handleInState idx state msg, .returned result] ∧
              handler.stateSequence[(place + (messages actions).length) % handler.stateSequence.length]? = some state

-- The machine starts in and returns to the first state of the sequence. It
-- never asks for the initial state.
theorem starts_initial_iff (handler : StateHandler S) (inner : A) (declared : handler.initialState ∈ handler.stateSequence) :
    (∃ place, StartsAt A M R handler place) ↔ handler.stateSequence[0]? = some handler.initialState := by
  have full : handler.stateSequence.isEmpty = false := by
    rw [List.isEmpty_eq_false_iff]
    exact List.ne_nil_of_mem declared
  constructor
  · rintro ⟨place, _, runs⟩
    have created : new handler inner = some ⟨inner, 0, handler.stateSequence⟩ := by simp [new, full]
    exact (runs inner _ created [] (by simp)).1 (Nat.zero_mod _)
  · intro first
    refine ⟨0, first, ?_⟩
    intro inner start created actions calm m
    have served : Served handler actions (start.serve actions).2 m := served_new handler inner start created actions
    have current := served_current handler actions _ m served
    rw [returns_messages actions calm] at current
    constructor
    · intro around
      rw [currentState, current, served.cycling.states, around]
      exact first
    · intro msg left result
      obtain ⟨state, given, events, _⟩ := handle_calls handler _ m served.cycling msg (.returned left result)
      refine ⟨m.current, state, events, ?_⟩
      rw [Nat.zero_add, ← current]
      exact given

-- The third message is handled in the first state again.
theorem starts_initial_iff_first : ∃ place, StartsAt Nat Nat Nat ⟨8, [8, 9]⟩ place ∧
    ∃ idx state, ((⟨0, 0, [8, 9]⟩ : StateMachine Nat Nat).serve
        ([.handle 5 (.returned 1 50), .handle 6 (.returned 2 60)] : List (StateAction Nat Nat Nat))).1.handle 7 (.returned 3 70) =
      (⟨3, 1, [8, 9]⟩, [StateEvent.handleInState idx state 7, .returned 70]) ∧ [8, 9][(place + 2) % 2]? = some state := by
  obtain ⟨place, initial, runs⟩ := (starts_initial_iff ⟨8, [8, 9]⟩ 0 (by decide)).mpr rfl
  obtain ⟨idx, state, events, there⟩ := (runs 0 ⟨0, 0, [8, 9]⟩ rfl
    [.handle 5 (.returned 1 50), .handle 6 (.returned 2 60)] (by decide)).2 7 3 70
  exact ⟨place, ⟨initial, runs⟩, idx, state, Prod.ext rfl events, there⟩

-- The initial state is in the sequence, in the second place.
theorem starts_elsewhere : (9 ∈ [8, 9]) ∧ new ⟨9, [8, 9]⟩ 0 = some ⟨0, 0, [8, 9]⟩ ∧
    currentState (⟨0, 0, [8, 9]⟩ : StateMachine Nat Nat) = some 8 ∧
    ((⟨0, 0, [8, 9]⟩ : StateMachine Nat Nat).handle 5 (.returned 1 50)).2 =
      [StateEvent.handleInState 0 8 5, .returned 50] ∧
    ¬ ∃ place, StartsAt Nat Nat Nat ⟨9, [8, 9]⟩ place := by
  refine ⟨by decide, rfl, rfl, rfl, ?_⟩
  rintro ⟨place, _, runs⟩
  have initial := (runs 0 ⟨0, 0, [8, 9]⟩ rfl [] (by simp)).1 rfl
  cases initial

end StateMachine

end Actinium
