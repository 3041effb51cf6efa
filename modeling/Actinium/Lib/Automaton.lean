import Mathlib.Data.List.Basic

set_option autoImplicit false

-- Runs of a partial deterministic automaton, as a language of words.
namespace Automaton

variable {σ α : Type} (next : σ → α → Option σ)

def run (s : σ) : List α → Option σ
  | [] => some s
  | a :: rest => (next s a).bind fun t => run t rest

@[simp] theorem run_nil (s : σ) : run next s [] = some s := rfl

@[simp] theorem run_one (s : σ) (a : α) : run next s [a] = next s a := by
  cases h : next s a <;> simp [run, h]

theorem run_append (s : σ) (a b : List α) : run next s (a ++ b) = (run next s a).bind fun t => run next t b := by
  induction a generalizing s with
  | nil => rfl
  | cons head tail ih =>
      simp only [List.cons_append, run]
      cases next s head with
      | none => rfl
      | some t => exact ih t

theorem run_then (s t : σ) (a b : List α) (before : run next s a = some t) : run next s (a ++ b) = run next t b := by
  rw [run_append, before]
  rfl

-- What has run can be cut anywhere.
theorem run_split (s t : σ) (a b : List α) (whole : run next s (a ++ b) = some t) :
    ∃ mid, run next s a = some mid ∧ run next mid b = some t := by
  rw [run_append] at whole
  cases first : run next s a with
  | none =>
      rw [first] at whole
      cases whole
  | some mid =>
      rw [first] at whole
      exact ⟨mid, rfl, whole⟩

end Automaton
