import Mathlib.Algebra.BigOperators.Group.List.Basic
import Mathlib.Algebra.GroupWithZero.Nat
import Mathlib.Data.List.Range

set_option autoImplicit false

-- Reading ragged rows column by column, and a queue of rows that serves one
-- element of its first row at a time.
namespace Rounds

variable {α : Type}

def height (rows : List (List α)) : Nat := (rows.map List.length).foldr max 0

def round (rows : List (List α)) (j : Nat) : List α := rows.filterMap fun row => row[j]?

def rounds (rows : List (List α)) : List α := (List.range (height rows)).flatMap (round rows)

def total (rows : List (List α)) : Nat := (rows.map List.length).sum

-- What a row leaves behind when its head is gone.
def left (tail : List α) : List (List α) := if tail = [] then [] else [tail]

def tails (rows : List (List α)) : List (List α) := rows.flatMap fun row => left row.tail

def rotate : Nat → List (List α) → List α
  | fuel + 1, (head :: tail) :: rows => head :: rotate fuel (rows ++ left tail)
  | _, _ => []

@[simp] theorem round_cons (head : α) (tail : List α) (rows : List (List α)) :
    round ((head :: tail) :: rows) 0 = head :: round rows 0 := rfl

@[simp] theorem tails_cons (row : List α) (rows : List (List α)) : tails (row :: rows) = left row.tail ++ tails rows := rfl

@[simp] theorem total_append (a b : List (List α)) : total (a ++ b) = total a + total b := by
  simp [total]

@[simp] theorem total_cons (row : List α) (rows : List (List α)) : total (row :: rows) = row.length + total rows := rfl

theorem total_left (tail : List α) : total (left tail) = tail.length := by
  by_cases empty : tail = [] <;> simp [left, empty, total]

theorem left_full (tail : List α) : ∀ row ∈ left tail, row ≠ [] := by
  intro row member
  unfold left at member
  split at member
  · cases member
  · rename_i full
    rw [List.mem_singleton.mp member]
    exact full

theorem height_le (rows : List (List α)) (row : List α) (member : row ∈ rows) : row.length ≤ height rows := by
  induction rows with
  | nil => cases member
  | cons head others ih =>
      simp only [height, List.map_cons, List.foldr_cons]
      rcases List.mem_cons.mp member with rfl | inside
      · exact Nat.le_max_left _ _
      · exact Nat.le_trans (ih inside) (Nat.le_max_right _ _)

theorem le_height (rows : List (List α)) (bound : Nat) (short : ∀ row ∈ rows, row.length ≤ bound) :
    height rows ≤ bound := by
  induction rows with
  | nil => exact Nat.zero_le bound
  | cons head others ih =>
      have first := short head (by simp)
      have rest := ih fun row inside => short row (List.mem_cons_of_mem _ inside)
      exact Nat.max_le.mpr ⟨first, rest⟩

theorem round_high (rows : List (List α)) (j : Nat) (high : height rows ≤ j) : round rows j = [] := by
  apply List.filterMap_eq_nil_iff.mpr
  intro row member
  have short := height_le rows row member
  exact List.getElem?_eq_none (by omega)

theorem rounds_of_le (rows : List (List α)) (bound : Nat) (high : height rows ≤ bound) :
    (List.range bound).flatMap (round rows) = rounds rows := by
  obtain ⟨extra, rfl⟩ := Nat.exists_eq_add_of_le high
  rw [List.range_add, List.flatMap_append]
  have empty : (List.map (height rows + ·) (List.range extra)).flatMap (round rows) = [] := by
    apply List.flatMap_eq_nil_iff.mpr
    intro j member
    obtain ⟨i, _, rfl⟩ := List.mem_map.mp member
    exact round_high rows _ (by omega)
  rw [empty, List.append_nil]
  rfl

theorem mem_tails (rows : List (List α)) (short : List α) (member : short ∈ tails rows) :
    short ≠ [] ∧ ∃ row ∈ rows, short = row.tail := by
  obtain ⟨row, inside, from_row⟩ := List.mem_flatMap.mp member
  refine ⟨left_full row.tail short from_row, row, inside, ?_⟩
  unfold left at from_row
  split at from_row
  · cases from_row
  · exact List.mem_singleton.mp from_row

theorem round_tails (rows : List (List α)) (j : Nat) : round (tails rows) j = round rows (j + 1) := by
  induction rows with
  | nil => rfl
  | cons row others ih =>
      have one : round (left row.tail) j = (row[j + 1]?).toList := by
        by_cases empty : row.tail = []
        · have short : row[j + 1]? = none := by
            rw [← List.getElem?_tail, empty]
            rfl
          simp [left, empty, round, short]
        · rw [left, if_neg empty]
          cases found : row[j + 1]? <;> simp [round, List.getElem?_tail, found]
      rw [tails_cons, round, List.filterMap_append]
      change round (left row.tail) j ++ round (tails others) j = _
      rw [one, ih, round]
      cases found : row[j + 1]? <;> simp [round, found]

-- The first round is read off the heads, the others are the rounds of the tails.
theorem rounds_step (rows : List (List α)) : rounds rows = round rows 0 ++ rounds (tails rows) := by
  have shorter : height (tails rows) ≤ height rows := by
    apply le_height
    intro short member
    obtain ⟨_, row, inside, same⟩ := mem_tails rows short member
    have long := height_le rows row inside
    rw [same, List.length_tail]
    omega
  rw [← rounds_of_le rows (height rows + 1) (by omega), ← rounds_of_le (tails rows) (height rows) shorter,
    List.range_succ_eq_map, List.flatMap_cons, List.flatMap_map]
  simp only [Nat.succ_eq_add_one, ← round_tails]

-- In the middle of a round, those ahead are served before those behind, who
-- have been served in this round already.
theorem rotate_round (fuel : Nat) (ahead behind : List (List α)) (full : ∀ row ∈ ahead ++ behind, row ≠ [])
    (enough : total (ahead ++ behind) ≤ fuel) :
    rotate fuel (ahead ++ behind) = round ahead 0 ++ rounds (behind ++ tails ahead) := by
  induction fuel generalizing ahead behind with
  | zero =>
      have nothing : ahead ++ behind = [] := by
        cases rows : ahead ++ behind with
        | nil => rfl
        | cons row others =>
            have length := List.length_pos_iff.mpr (full row (by simp [rows]))
            rw [rows, total_cons] at enough
            omega
      obtain ⟨rfl, rfl⟩ := List.append_eq_nil_iff.mp nothing
      rfl
  | succ fuel ih =>
      have serve (head : α) (tail : List α) (others behind : List (List α)) (full : ∀ row ∈ others ++ behind, row ≠ [])
          (enough : (head :: tail).length + total (others ++ behind) ≤ fuel + 1) :
          rotate (fuel + 1) ((head :: tail) :: (others ++ behind)) =
            round ((head :: tail) :: others) 0 ++ rounds (behind ++ tails ((head :: tail) :: others)) := by
        have next := ih others (behind ++ left tail) (by
          rw [← List.append_assoc]
          intro row member
          rcases List.mem_append.mp member with old | last
          · exact full row old
          · exact left_full tail row last) (by
          rw [← List.append_assoc, total_append, total_left]
          rw [List.length_cons] at enough
          omega)
        rw [rotate, List.append_assoc, next]
        simp
      cases ahead with
      | cons row others =>
          obtain ⟨head, tail, rfl⟩ := List.exists_cons_of_ne_nil (full row (by simp))
          exact serve head tail others behind (fun row member => full row (List.mem_cons_of_mem _ member)) enough
      | nil =>
          cases behind with
          | nil => rfl
          | cons row others =>
              obtain ⟨head, tail, rfl⟩ := List.exists_cons_of_ne_nil (full row (by simp))
              have fresh := serve head tail others [] (by
                intro row member
                exact full row (List.mem_cons_of_mem _ (by simpa using member))) (by simpa using enough)
              rw [List.append_nil] at fresh
              rw [List.nil_append, fresh, List.nil_append, ← rounds_step]
              simp [round, tails]

theorem rotate_rounds (fuel : Nat) (rows : List (List α)) (full : ∀ row ∈ rows, row ≠ []) (enough : total rows ≤ fuel) :
    rotate fuel rows = rounds rows := by
  have whole := rotate_round fuel rows [] (by simpa using full) (by simpa using enough)
  rw [List.append_nil] at whole
  rw [whole, List.nil_append, ← rounds_step]

end Rounds
