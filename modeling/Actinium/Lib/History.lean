import Mathlib.Data.List.TakeWhile

set_option autoImplicit false

-- What a history holds from the first entry of a kind on.
namespace History

variable {α β : Type}

def since (p : α → Bool) (log : List α) : List α := log.dropWhile (fun a => !p a)

variable (p : α → Bool)

theorem since_unseen (log : List α) (unseen : ∀ a ∈ log, p a = false) : since p log = [] := by
  refine List.dropWhile_eq_nil_iff.mpr ?_
  intro a member
  simp [unseen a member]

theorem since_append_unseen (log later : List α) (unseen : ∀ a ∈ log, p a = false) :
    since p (log ++ later) = since p later := by
  have empty := since_unseen p log unseen
  rw [since] at empty
  rw [since, List.dropWhile_append, empty]
  rfl

theorem since_append_seen (log later : List α) (a : α) (member : a ∈ log) (seen : p a = true) :
    since p (log ++ later) = since p log ++ later := by
  have full : (log.dropWhile fun a => !p a) ≠ [] := by
    intro empty
    have skipped := List.dropWhile_eq_nil_iff.mp empty a member
    rw [seen] at skipped
    cases skipped
  rw [since, List.dropWhile_append, if_neg (by simpa using full)]
  rfl

theorem since_sublist (log : List α) : (since p log).Sublist log := List.dropWhile_sublist _

-- Entries that show nothing change nothing of what the later part shows.
theorem since_append_quiet (f : α → Option β) (log later : List α) (quiet : later.filterMap f = []) :
    (since p (log ++ later)).filterMap f = (since p log).filterMap f := by
  by_cases seen : ∃ a ∈ log, p a = true
  · obtain ⟨a, member, holds⟩ := seen
    rw [since_append_seen p log later a member holds, List.filterMap_append, quiet, List.append_nil]
  · have unseen (a : α) (member : a ∈ log) : p a = false := by
      by_contra holds
      exact seen ⟨a, member, by simpa using holds⟩
    have shown := (since_sublist p later).filterMap f
    rw [quiet] at shown
    rw [since_append_unseen p log later unseen, since_unseen p log unseen, List.sublist_nil.mp shown]
    rfl

-- The part up to and including the first entry of the kind, and the rest.
def through (p : α → Bool) : List α → List α
  | [] => []
  | a :: rest => if p a then [a] else a :: through p rest

def beyond (p : α → Bool) : List α → List α
  | [] => []
  | a :: rest => if p a then rest else beyond p rest

theorem through_beyond (log : List α) : through p log ++ beyond p log = log := by
  induction log with
  | nil => rfl
  | cons a rest ih =>
      simp only [through, beyond]
      split
      · rfl
      · rw [List.cons_append, ih]

theorem through_unseen (log later : List α) (unseen : ∀ a ∈ log, p a = false) :
    through p (log ++ later) = log ++ through p later ∧ beyond p (log ++ later) = beyond p later := by
  induction log with
  | nil => exact ⟨rfl, rfl⟩
  | cons a rest ih =>
      have first : ¬ p a = true := by
        rw [unseen a (by simp)]
        exact Bool.false_ne_true
      obtain ⟨front, back⟩ := ih fun b member => unseen b (List.mem_cons_of_mem _ member)
      simp only [List.cons_append, through, beyond, if_neg first, front, back, and_self]

theorem through_seen (log later : List α) (a : α) (member : a ∈ log) (seen : p a = true) :
    through p (log ++ later) = through p log ∧ beyond p (log ++ later) = beyond p log ++ later := by
  induction log with
  | nil => cases member
  | cons b rest ih =>
      by_cases first : p b = true
      · simp [through, beyond, first]
      · have inside : a ∈ rest := by
          rcases List.mem_cons.mp member with same | inside
          · rw [same] at seen
            exact absurd seen first
          · exact inside
        obtain ⟨front, back⟩ := ih inside
        simp only [List.cons_append, through, beyond, if_neg first, front, back, and_self]

-- The last entry alone may change its kind.
theorem through_last (q : α → Bool) (log : List α) (last : α) (before : ∀ a ∈ log, p a = false) (after : ∀ a ∈ log, q a = false) :
    through p (log ++ [last]) = through q (log ++ [last]) ∧ beyond p (log ++ [last]) = beyond q (log ++ [last]) := by
  rw [(through_unseen p log [last] before).1, (through_unseen p log [last] before).2, (through_unseen q log [last] after).1,
    (through_unseen q log [last] after).2]
  simp [through, beyond]

theorem through_congr (q : α → Bool) (log : List α) (same : ∀ a ∈ log, p a = q a) :
    through p log = through q log ∧ beyond p log = beyond q log := by
  induction log with
  | nil => exact ⟨rfl, rfl⟩
  | cons a rest ih =>
      obtain ⟨front, back⟩ := ih fun b member => same b (List.mem_cons_of_mem _ member)
      simp only [through, beyond, same a (by simp), front, back, and_self]

end History
