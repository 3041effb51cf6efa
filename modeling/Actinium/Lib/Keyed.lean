import Mathlib.Algebra.BigOperators.Group.List.Basic
import Mathlib.Algebra.GroupWithZero.Nat
import Mathlib.Data.List.AList
import Mathlib.Data.List.Nodup

set_option autoImplicit false

-- Sequences whose elements carry a key, and tables that queue them by key.
namespace Keyed

variable {α κ : Type} [DecidableEq κ]

theorem nodup_push {β : Type} (l : List β) (last : β) (nodup : l.Nodup) (fresh : last ∉ l) : (l ++ [last]).Nodup := by
  rw [← List.concat_eq_append]
  exact nodup.concat fresh

def select (key : α → κ) (k : κ) (l : List α) : List α := l.filter (fun a => decide (key a = k))

variable (key : α → κ)

@[simp] theorem select_nil (k : κ) : select key k [] = [] := rfl

@[simp] theorem select_append (k : κ) (a b : List α) : select key k (a ++ b) = select key k a ++ select key k b :=
  List.filter_append ..

theorem select_cons (k : κ) (head : α) (tail : List α) :
    select key k (head :: tail) = if key head = k then head :: select key k tail else select key k tail := by
  simp [select, List.filter_cons]

theorem select_all (k : κ) (l : List α) (keyed : ∀ a ∈ l, key a = k) : select key k l = l := by
  apply List.filter_eq_self.mpr
  intro a member
  exact decide_eq_true (keyed a member)

theorem select_none (k : κ) (l : List α) (others : ∀ a ∈ l, key a ≠ k) : select key k l = [] := by
  apply List.filter_eq_nil_iff.mpr
  intro a member
  simpa using others a member

theorem mem_select (k : κ) (a : α) (l : List α) : a ∈ select key k l ↔ a ∈ l ∧ key a = k := by
  simp [select]

-- Selecting by a second key first loses nothing when the first key decides it.
theorem select_select {ι : Type} [DecidableEq ι] (other : α → ι) (k : κ) (i : ι) (l : List α)
    (decides : ∀ a ∈ l, key a = k → other a = i) : select key k (select other i l) = select key k l := by
  simp only [select, List.filter_filter]
  apply List.filter_congr
  intro a member
  by_cases same : key a = k
  · simp [same, decides a member same]
  · simp [same]

-- Where keys do not repeat, a key selects its one element.
theorem select_single (l : List α) (a : α) (nodup : (l.map key).Nodup) (member : a ∈ l) : select key (key a) l = [a] := by
  induction l with
  | nil => cases member
  | cons head tail ih =>
      obtain ⟨absent, rest⟩ := List.nodup_cons.mp nodup
      rw [select_cons]
      by_cases same : a = head
      · subst same
        rw [if_pos rfl, select_none]
        intro b inside equal
        exact absent (List.mem_map.mpr ⟨b, inside, equal⟩)
      · have inside := List.mem_of_ne_of_mem same member
        rw [if_neg, ih rest inside]
        intro equal
        exact absent (List.mem_map.mpr ⟨a, inside, equal.symm⟩)

theorem nodup_of_select (l : List α) (nodup : ∀ k, (select key k l).Nodup) : l.Nodup := by
  induction l with
  | nil => exact List.nodup_nil
  | cons head tail ih =>
      have own := nodup (key head)
      rw [select_cons, if_pos rfl] at own
      refine List.nodup_cons.mpr ⟨?_, ih fun k => ?_⟩
      · intro member
        exact (List.nodup_cons.mp own).1 ((mem_select key _ _ _).mpr ⟨member, rfl⟩)
      · have whole := nodup k
        rw [select_cons] at whole
        split at whole
        · exact (List.nodup_cons.mp whole).2
        · exact whole

theorem select_sublist (k : κ) (l : List α) : (select key k l).Sublist l := List.filter_sublist

-- Distinct keys that cover a sequence split its length.
theorem select_lengths (keys : List κ) (l : List α) (nodup : keys.Nodup) (covered : ∀ a ∈ l, key a ∈ keys) :
    (keys.map fun k => (select key k l).length).sum = l.length := by
  induction l with
  | nil => simp
  | cons head tail ih =>
      have rest := ih fun a member => covered a (List.mem_cons_of_mem _ member)
      have each (k : κ) : (select key k (head :: tail)).length = (if k = key head then 1 else 0) + (select key k tail).length := by
        rw [select_cons]
        by_cases same : key head = k
        · simp [same, Nat.add_comm]
        · simp [same, Ne.symm same]
      have once : (keys.map fun k => if k = key head then 1 else 0).sum = 1 := by
        rw [List.sum_map_eq_nsmul_single (key head) _ (fun k other _ => if_neg other),
          List.count_eq_one_of_mem nodup (covered head (by simp)), if_pos rfl, one_nsmul]
      simp only [each, List.sum_map_add, once, rest, List.length_cons]
      omega

-- Emptying a table of queues yields for each key its own queue.
theorem select_flat (k : κ) (table : List (Sigma fun _ : κ => List α)) (nodup : table.NodupKeys)
    (keyed : ∀ entry ∈ table, ∀ a ∈ entry.2, key a = entry.1) :
    select key k (table.flatMap fun entry => entry.2) = (table.dlookup k).getD [] := by
  induction table with
  | nil => rfl
  | cons head tail ih =>
      obtain ⟨k', queue⟩ := head
      obtain ⟨absent, rest⟩ := List.nodupKeys_cons.mp nodup
      have others := ih rest (fun entry member => keyed entry (List.mem_cons_of_mem _ member))
      rw [List.flatMap_cons, select_append, others]
      by_cases same : k = k'
      · subst same
        have missing : tail.dlookup k = none := List.dlookup_eq_none.mpr absent
        rw [select_all key k queue (fun a member => keyed ⟨k, queue⟩ (by simp) a member), missing]
        simp
      · rw [select_none key k queue (fun a member equal => same (equal.symm.trans (keyed ⟨k', queue⟩ (by simp) a member))),
          List.dlookup_cons_ne _ _ same]
        rfl

theorem filter_map_sublist {β : Type} (f g : α → Option β) (l : List α) (narrower : ∀ a shown, f a = some shown → g a = some shown) :
    (l.filterMap f).Sublist (l.filterMap g) := by
  induction l with
  | nil => exact List.Sublist.refl _
  | cons head tail ih =>
      cases left : f head with
      | none =>
          cases right : g head with
          | none => simpa [left, right] using ih
          | some shown => simpa [left, right] using ih.cons shown
      | some shown => simpa [left, narrower head shown left] using ih

-- Entries that show the same element are one entry, where none shows twice.
theorem nodup_filter_map {β : Type} (f : α → Option β) (l : List α) (nodup : (l.filterMap f).Nodup) (a b : α) (shown : β)
    (left : a ∈ l) (right : b ∈ l) (fa : f a = some shown) (fb : f b = some shown) : a = b := by
  induction l with
  | nil => cases left
  | cons head tail ih =>
      have once (other : α) (here : f head = some shown) (inside : other ∈ tail) (same : f other = some shown) : False := by
        rw [List.filterMap_cons, here] at nodup
        exact (List.nodup_cons.mp nodup).1 (List.mem_filterMap.mpr ⟨other, inside, same⟩)
      have rest : (tail.filterMap f).Nodup := by
        rw [List.filterMap_cons] at nodup
        split at nodup
        · exact nodup
        · exact (List.nodup_cons.mp nodup).2
      rcases List.mem_cons.mp left with rfl | inA
      · rcases List.mem_cons.mp right with rfl | inB
        · rfl
        · exact (once b fa inB fb).elim
      · rcases List.mem_cons.mp right with rfl | inB
        · exact (once a fb inA fa).elim
        · exact ih rest inA inB

end Keyed
