import Mathlib.Data.Int.CardIntervalMod

set_option autoImplicit false

namespace RoundRobin

variable {n : Nat}

-- The j-th pick is j mod n.
def Dealt (picks : List (Fin n)) : Prop :=
  picks.map (fun pick => pick.val) = (List.range picks.length).map (fun j => j % n)

theorem dealt_nil : Dealt ([] : List (Fin n)) := rfl

theorem dealt_push (picks : List (Fin n)) (pick : Fin n) (dealt : Dealt picks) (next : pick.val = picks.length % n) :
    Dealt (picks ++ [pick]) := by
  unfold Dealt at dealt ⊢
  rw [List.map_append, dealt, List.length_append, List.length_singleton, List.range_succ, List.map_append]
  simp [next]

theorem dealt_at (picks : List (Fin n)) (dealt : Dealt picks) (j : Nat) (pick : Fin n) (here : picks[j]? = some pick) :
    pick.val = j % n := by
  obtain ⟨bound, same⟩ := List.getElem?_eq_some_iff.mp here
  have image := congrArg (fun list => list[j]?) dealt
  simpa [bound, same] using image

theorem count_range (k residue : Nat) :
    ((List.range k).map (fun j => j % n)).count residue = Nat.count (fun j => j % n = residue) k := by
  induction k with
  | zero => rfl
  | succ k ih =>
      rw [List.range_succ, List.map_append, List.count_append, ih, Nat.count_succ]
      simp [List.count_cons]

theorem dealt_count (picks : List (Fin n)) (dealt : Dealt picks) (pick : Fin n) :
    picks.count pick = picks.length / n + if pick.val < picks.length % n then 1 else 0 := by
  have positive : 0 < n := Nat.lt_of_le_of_lt (Nat.zero_le _) pick.isLt
  have own : pick.val % n = pick.val := Nat.mod_eq_of_lt pick.isLt
  calc picks.count pick
      = (picks.map (fun pick => pick.val)).count pick.val :=
          (List.count_map_of_injective picks _ Fin.val_injective pick).symm
    _ = Nat.count (fun j => j % n = pick.val) picks.length := by rw [dealt, count_range]
    _ = Nat.count (fun j => j ≡ pick.val [MOD n]) picks.length := by simp only [Nat.ModEq, own]
    _ = _ := by rw [Nat.count_modEq_card _ positive, own]

theorem dealt_balanced (picks : List (Fin n)) (dealt : Dealt picks) (v w : Fin n) :
    picks.count v ≤ picks.count w + 1 := by
  rw [dealt_count picks dealt, dealt_count picks dealt]
  split <;> split <;> omega

end RoundRobin
