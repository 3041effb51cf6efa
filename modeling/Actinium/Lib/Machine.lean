import Mathlib.Data.List.Basic

set_option autoImplicit false

-- A labelled machine. Every step reports the events it causes, so that a
-- run leaves a log and nothing of the history has to be kept in the state.
structure Machine (σ α ε : Type) where
  init : σ → Prop
  step : σ → α → Option (σ × List ε)

namespace Machine

variable {σ α ε : Type}

-- A rely restricts the actions of a run: what the environment promises, or
-- what a group of results assumes of every step.
abbrev Rely (σ α ε : Type) := List ε → σ → α → Prop

def free : Rely σ α ε := fun _ _ _ => True

inductive Reach (m : Machine σ α ε) (rely : Rely σ α ε) : List ε → σ → Prop where
  | init (s : σ) (start : m.init s) : Reach m rely [] s
  | step (log : List ε) (s next : σ) (action : α) (events : List ε) (before : Reach m rely log s)
      (allowed : rely log s action) (taken : m.step s action = some (next, events)) :
      Reach m rely (log ++ events) next

-- A run that continues from a log and a state.
inductive Runs (m : Machine σ α ε) (rely : Rely σ α ε) (log : List ε) (s : σ) : List ε → σ → Prop where
  | refl : Runs m rely log s log s
  | step (later : List ε) (mid next : σ) (action : α) (events : List ε) (before : Runs m rely log s later mid)
      (allowed : rely later mid action) (taken : m.step mid action = some (next, events)) :
      Runs m rely log s (later ++ events) next

theorem reach_runs (m : Machine σ α ε) (rely : Rely σ α ε) (log later : List ε) (s next : σ)
    (start : m.Reach rely log s) (run : m.Runs rely log s later next) : m.Reach rely later next := by
  induction run with
  | refl => exact start
  | step later mid next action events _ allowed taken ih => exact .step later mid next action events ih allowed taken

theorem runs_trans (m : Machine σ α ε) (rely : Rely σ α ε) (log mid last : List ε) (s t u : σ)
    (first : m.Runs rely log s mid t) (second : m.Runs rely mid t last u) : m.Runs rely log s last u := by
  induction second with
  | refl => exact first
  | step later mid next action events _ allowed taken ih => exact .step later mid next action events ih allowed taken

theorem runs_one (m : Machine σ α ε) (rely : Rely σ α ε) (log events : List ε) (s next : σ) (action : α)
    (allowed : rely log s action) (taken : m.step s action = some (next, events)) :
    m.Runs rely log s (log ++ events) next :=
  .step log s next action events .refl allowed taken

theorem reach_weaken (m : Machine σ α ε) (strong weak : Rely σ α ε)
    (weaker : ∀ log s action, strong log s action → weak log s action) (log : List ε) (s : σ)
    (reached : m.Reach strong log s) : m.Reach weak log s := by
  induction reached with
  | init s start => exact .init s start
  | step log s next action events _ allowed taken ih =>
      exact .step log s next action events ih (weaker log s action allowed) taken

theorem runs_weaken (m : Machine σ α ε) (strong weak : Rely σ α ε)
    (weaker : ∀ log s action, strong log s action → weak log s action) (log later : List ε) (s next : σ)
    (run : m.Runs strong log s later next) : m.Runs weak log s later next := by
  induction run with
  | refl => exact .refl
  | step later mid next action events _ allowed taken ih =>
      exact .step later mid next action events ih (weaker later mid action allowed) taken

-- Safety: what holds at the start and is kept by every step of a reachable
-- state holds in every reachable state.
theorem reach_invariant (m : Machine σ α ε) (rely : Rely σ α ε) (inv : List ε → σ → Prop)
    (base : ∀ s, m.init s → inv [] s)
    (keep : ∀ log s action next events, m.Reach rely log s → inv log s → rely log s action →
      m.step s action = some (next, events) → inv (log ++ events) next)
    (log : List ε) (s : σ) (reached : m.Reach rely log s) : inv log s := by
  induction reached with
  | init s start => exact base s start
  | step log s next action events before allowed taken ih =>
      exact keep log s action next events before ih allowed taken

-- The same for a run that continues from a reachable state.
theorem runs_invariant (m : Machine σ α ε) (rely : Rely σ α ε) (inv : List ε → σ → Prop)
    (log : List ε) (s : σ) (start : m.Reach rely log s) (base : inv log s)
    (keep : ∀ later mid action next events, m.Reach rely later mid → inv later mid → rely later mid action →
      m.step mid action = some (next, events) → inv (later ++ events) next)
    (later : List ε) (next : σ) (run : m.Runs rely log s later next) : inv later next := by
  induction run with
  | refl => exact base
  | step later mid next action events before allowed taken ih =>
      exact keep later mid action next events (reach_runs m rely log later s mid start before) ih allowed taken

theorem runs_log (m : Machine σ α ε) (rely : Rely σ α ε) (log later : List ε) (s next : σ)
    (run : m.Runs rely log s later next) : log <+: later := by
  induction run with
  | refl => exact List.prefix_refl log
  | step later mid next action events _ _ _ ih => exact ih.trans (List.prefix_append later events)

-- However the allowed steps are chosen, the goal is reached. Until then there
-- is a step to choose, unless the machine waits for its environment to act.
inductive Inevitable (m : Machine σ α ε) (rely : Rely σ α ε) (waits : σ → Prop) (goal : List ε → σ → Prop) :
    List ε → σ → Prop where
  | here (log : List ε) (s : σ) (reached : goal log s) : Inevitable m rely waits goal log s
  | later (log : List ε) (s : σ) (enabled : waits s ∨ ∃ action result, rely log s action ∧ m.step s action = some result)
      (steps : ∀ action next events, rely log s action → m.step s action = some (next, events) →
        Inevitable m rely waits goal (log ++ events) next) : Inevitable m rely waits goal log s

-- The ranking rule: short of the goal some step is allowed, and every step
-- allowed keeps the invariant and lowers the rank.
theorem inevitable_of_rank (m : Machine σ α ε) (rely : Rely σ α ε) (waits : σ → Prop) (goal inv : List ε → σ → Prop)
    (rank : List ε → σ → Nat)
    (enabled : ∀ log s, inv log s → ¬ goal log s → waits s ∨ ∃ action result, rely log s action ∧ m.step s action = some result)
    (lower : ∀ log s action next events, inv log s → ¬ goal log s → rely log s action →
      m.step s action = some (next, events) → inv (log ++ events) next ∧ rank (log ++ events) next < rank log s)
    (log : List ε) (s : σ) (start : inv log s) : Inevitable m rely waits goal log s := by
  induction bound : rank log s using Nat.strongRecOn generalizing log s with
  | _ height ih =>
      by_cases reached : goal log s
      · exact .here log s reached
      · refine .later log s (enabled log s start reached) ?_
        intro action next events allowed taken
        obtain ⟨kept, less⟩ := lower log s action next events start reached allowed taken
        exact ih _ (bound ▸ less) (log ++ events) next kept rfl

-- The executable form of a run: the log it leaves and the state it ends in.
def run (m : Machine σ α ε) (log : List ε) (s : σ) : List α → Option (List ε × σ)
  | [] => some (log, s)
  | action :: rest =>
      match m.step s action with
      | none => none
      | some (next, events) => m.run (log ++ events) next rest

theorem run_append (m : Machine σ α ε) (log mid : List ε) (s t : σ) (first second : List α)
    (ran : m.run log s first = some (mid, t)) : m.run log s (first ++ second) = m.run mid t second := by
  induction first generalizing log s with
  | nil =>
      simp only [run, Option.some.injEq, Prod.mk.injEq] at ran
      obtain ⟨rfl, rfl⟩ := ran
      rfl
  | cons action rest ih =>
      simp only [run, List.cons_append] at ran ⊢
      split at ran
      · cases ran
      · exact ih _ _ ran

-- The state in which a run ends, or the first one where there is no run.
def last (m : Machine σ α ε) (s : σ) (actions : List α) : σ :=
  match m.run [] s actions with
  | none => s
  | some (_, next) => next

def history (m : Machine σ α ε) (s : σ) (actions : List α) : List ε :=
  match m.run [] s actions with
  | none => []
  | some (log, _) => log

theorem run_runs (m : Machine σ α ε) (log later : List ε) (s next : σ) (actions : List α)
    (ran : m.run log s actions = some (later, next)) : m.Runs free log s later next := by
  induction actions generalizing log s with
  | nil =>
      simp only [run, Option.some.injEq, Prod.mk.injEq] at ran
      obtain ⟨rfl, rfl⟩ := ran
      exact .refl
  | cons action rest ih =>
      simp only [run] at ran
      split at ran
      · cases ran
      · rename_i mid events taken
        exact runs_trans m free log _ later s mid next (runs_one m free log events s mid action trivial taken)
          (ih _ _ ran)

theorem run_reach (m : Machine σ α ε) (log : List ε) (s next : σ) (actions : List α) (start : m.init s)
    (ran : m.run [] s actions = some (log, next)) : m.Reach free log next :=
  reach_runs m free [] log s next (.init s start) (run_runs m [] log s next actions ran)

-- The same under a rely, which every action of the run meets.
def Allowed (m : Machine σ α ε) (rely : Rely σ α ε) (log : List ε) (s : σ) : List α → Prop
  | [] => True
  | action :: rest =>
      rely log s action ∧
        match m.step s action with
        | none => True
        | some (next, events) => m.Allowed rely (log ++ events) next rest

theorem allowed_actions (m : Machine σ α ε) (rely : Rely σ α ε) (log : List ε) (s : σ) (actions : List α)
    (always : ∀ action ∈ actions, ∀ log s, rely log s action) : m.Allowed rely log s actions := by
  induction actions generalizing log s with
  | nil => trivial
  | cons action rest ih =>
      refine ⟨always action (by simp) log s, ?_⟩
      split
      · trivial
      · exact ih _ _ fun later member => always later (List.mem_cons_of_mem _ member)

-- A rely that a check on each state and action implies can be evaluated.
def Checked (m : Machine σ α ε) (check : σ → α → Bool) (s : σ) : List α → Bool
  | [] => true
  | action :: rest =>
      check s action &&
        match m.step s action with
        | none => true
        | some (next, _) => m.Checked check next rest

theorem allowed_checked (m : Machine σ α ε) (rely : Rely σ α ε) (check : σ → α → Bool)
    (sound : ∀ log s action, check s action = true → rely log s action) (log : List ε) (s : σ) (actions : List α)
    (checked : m.Checked check s actions = true) : m.Allowed rely log s actions := by
  induction actions generalizing log s with
  | nil => trivial
  | cons action rest ih =>
      rw [Checked, Bool.and_eq_true] at checked
      obtain ⟨first, others⟩ := checked
      refine ⟨sound log s action first, ?_⟩
      split
      · trivial
      · rename_i next events taken
        rw [taken] at others
        exact ih _ next others

theorem run_runs_rely (m : Machine σ α ε) (rely : Rely σ α ε) (log later : List ε) (s next : σ) (actions : List α)
    (ran : m.run log s actions = some (later, next)) (allowed : m.Allowed rely log s actions) :
    m.Runs rely log s later next := by
  induction actions generalizing log s with
  | nil =>
      simp only [run, Option.some.injEq, Prod.mk.injEq] at ran
      obtain ⟨rfl, rfl⟩ := ran
      exact .refl
  | cons action rest ih =>
      obtain ⟨first, others⟩ := allowed
      simp only [run] at ran
      split at ran
      · cases ran
      · rename_i mid events taken
        rw [taken] at others
        exact runs_trans m rely log _ later s mid next (runs_one m rely log events s mid action first taken)
          (ih _ _ ran others)

theorem run_reach_rely (m : Machine σ α ε) (rely : Rely σ α ε) (log later : List ε) (s next : σ) (actions : List α)
    (start : m.Reach rely log s) (ran : m.run log s actions = some (later, next)) (allowed : m.Allowed rely log s actions) :
    m.Reach rely later next :=
  reach_runs m rely log later s next start (run_runs_rely m rely log later s next actions ran allowed)

end Machine
