import Actinium.Lib.Machine

set_option autoImplicit false

-- Parties that wait for one another: some steps are a party's own, and a party
-- that has made a call takes none of these until another party answers it.
namespace Machine

variable {σ α ε π κ : Type}

def Patient (party : α → Option π) (asks : σ → κ → Option π) (waits : π → Option κ) (s : σ) (action : α) : Prop :=
  ∀ p call, party action = some p → waits p = some call → asks s call = none

-- Whoever waits waits for one who waits.
def Knotted (asks : σ → κ → Option π) (waits : π → Option κ) (s : σ) : Prop :=
  ∀ p call, waits p = some call → ∃ q other, asks s call = some q ∧ waits q = some other

-- No party that waits acts.
def Tied (party : α → Option π) (waits : π → Option κ) (action : α) : Prop := ∀ p call, party action = some p → waits p ≠ some call

theorem knotted_tied (party : α → Option π) (asks : σ → κ → Option π) (waits : π → Option κ) (s : σ) (action : α)
    (knotted : Knotted asks waits s) (patient : Patient party asks waits s action) : Tied party waits action := by
  intro p call own waiting
  obtain ⟨q, _, asked, _⟩ := knotted p call waiting
  rw [patient p call own waiting] at asked
  cases asked

-- What holds at the start of a run and is kept by its steps, the run being
-- restricted and the way to its start not.
theorem runs_keep (m : Machine σ α ε) (rely : Rely σ α ε) (inv : List ε → σ → Prop) (log : List ε) (s : σ)
    (start : m.Reach free log s) (base : inv log s)
    (keep : ∀ later mid action next events, m.Reach free later mid → inv later mid → rely later mid action →
      m.step mid action = some (next, events) → inv (later ++ events) next)
    (later : List ε) (next : σ) (run : m.Runs rely log s later next) : inv later next := by
  induction run with
  | refl => exact base
  | step later mid next action events before allowed taken ih =>
      have there := reach_runs m free log later s mid start
        (runs_weaken m rely free (fun _ _ _ _ => trivial) log later s mid before)
      exact keep later mid action next events there ih allowed taken

-- If only the party that is asked can answer, a knot is never untied.
theorem runs_knotted (m : Machine σ α ε) (rely : Rely σ α ε) (party : α → Option π) (asks : σ → κ → Option π)
    (waits : π → Option κ) (log : List ε) (s : σ) (start : m.Reach free log s) (knotted : Knotted asks waits s)
    (patient : ∀ log s action, rely log s action → Patient party asks waits s action)
    (unanswered : ∀ log s action next events call q, m.Reach free log s → m.step s action = some (next, events) →
      asks s call = some q → party action ≠ some q → asks next call = some q)
    (later : List ε) (next : σ) (run : m.Runs rely log s later next) :
    m.Runs (fun _ _ action => Tied party waits action) log s later next ∧
      ∀ p call, waits p = some call → asks next call = asks s call := by
  induction run with
  | refl => exact ⟨.refl, fun _ _ _ => rfl⟩
  | step later mid next action events before allowed taken ih =>
      obtain ⟨tied, same⟩ := ih
      have still : Knotted asks waits mid := by
        intro p call waiting
        rw [same p call waiting]
        exact knotted p call waiting
      have quiet := knotted_tied party asks waits mid action still (patient later mid action allowed)
      have there := reach_runs m free log later s mid start
        (runs_weaken m rely free (fun _ _ _ _ => trivial) log later s mid before)
      refine ⟨.step later mid next action events tied quiet taken, ?_⟩
      intro p call waiting
      obtain ⟨q, other, asked, stuck⟩ := still p call waiting
      rw [← same p call waiting, asked]
      exact unanswered later mid action next events call q there taken asked (fun own => quiet q other own stuck)

end Machine
