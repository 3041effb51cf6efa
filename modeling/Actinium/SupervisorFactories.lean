import Actinium.SupervisorTable

set_option autoImplicit false

namespace Actinium.Supervisor

variable {κ : Type} {strategy : Strategy} {maxRestarts : Nat}

-- One id stands before the other.
def Ahead (ids : List ActorId) (a b : ActorId) : Prop := ∃ p q : Nat, ids[p]? = some a ∧ ids[q]? = some b ∧ p < q

-- A child that stood before this one has been removed.
def Shifted (log : List Report) (id : ActorId) : Prop :=
  ∃ gone before after, .failure gone before [] after ∈ log ∧ Ahead before gone id

theorem shifted_append (log events : List Report) (id : ActorId) :
    Shifted (log ++ events) id ↔ Shifted log id ∨ Shifted events id := by
  constructor
  · rintro ⟨gone, before, after, member, ahead⟩
    rcases List.mem_append.mp member with old | new
    · exact Or.inl ⟨gone, before, after, old, ahead⟩
    · exact Or.inr ⟨gone, before, after, new, ahead⟩
  · rintro (⟨gone, before, after, member, ahead⟩ | ⟨gone, before, after, member, ahead⟩)
    · exact ⟨gone, before, after, List.mem_append_left _ member, ahead⟩
    · exact ⟨gone, before, after, List.mem_append_right _ member, ahead⟩

-- Removing an id moves what stood behind it forward, and nothing else.
theorem remove_moves (ids : List ActorId) (id other : ActorId) (p : Nat)
    (found : (ids.filter fun child => child != id)[p]? = some other) :
    ∃ q, ids[q]? = some other ∧ ((∃ r < q, ids[r]? = some id) ∧ p < q ∨ (∀ r < q, ids[r]? ≠ some id) ∧ p = q) := by
  induction ids generalizing p with
  | nil => simp at found
  | cons head tail ih =>
      by_cases same : head = id
      · subst same
        rw [List.filter_cons, if_neg (by simp)] at found
        obtain ⟨q, inside, moved⟩ := ih p found
        refine ⟨q + 1, by simpa using inside, Or.inl ⟨⟨0, Nat.succ_pos q, rfl⟩, ?_⟩⟩
        rcases moved with ⟨_, less⟩ | ⟨_, equal⟩
        · exact Nat.lt_succ_of_lt less
        · exact equal ▸ Nat.lt_succ_self p
      · rw [List.filter_cons, if_pos (by simpa using same)] at found
        cases p with
        | zero =>
            refine ⟨0, by simpa using found, Or.inr ⟨?_, rfl⟩⟩
            intro r wrong
            exact absurd wrong (Nat.not_lt_zero r)
        | succ p =>
            obtain ⟨q, inside, moved⟩ := ih p (by simpa using found)
            refine ⟨q + 1, by simpa using inside, ?_⟩
            rcases moved with ⟨⟨r, less, here⟩, moved⟩ | ⟨none, equal⟩
            · exact Or.inl ⟨⟨r + 1, Nat.succ_lt_succ less, by simpa using here⟩, Nat.succ_lt_succ moved⟩
            · refine Or.inr ⟨?_, congrArg Nat.succ equal⟩
              intro r less
              cases r with
              | zero => simpa using same
              | succ r => simpa using none r (Nat.lt_of_succ_lt_succ less)

theorem nodup_position (ids : List ActorId) (nodup : ids.Nodup) (p q : Nat) (id : ActorId) (left : ids[p]? = some id)
    (right : ids[q]? = some id) : p = q := by
  obtain ⟨bound, _⟩ := List.getElem?_eq_some_iff.mp left
  exact (List.getElem?_inj bound nodup).mp (left.trans right.symm)

-- The factory that made a child, and how its number compares with the place
-- of the child.
structure Placed (issued : κ → ActorId → Prop) (log : List Report) (s : Supervised κ) : Prop where
  marked : ∀ i id, .made i id ∈ log → issued s.ctx id
  named : ∀ id before answer after, .failure id before answer after ∈ log → ∀ child ∈ before, issued s.ctx child
  unique : ∀ i j id, .made i id ∈ log → .made j id ∈ log → i = j
  place : ∀ p id, s.sup.childIds[p]? = some id →
    ∃ i, .made i id ∈ log ∧ (¬ Shifted log id → i = p) ∧ (Shifted log id → p < i)

theorem unshifted_fresh (issued : κ → ActorId → Prop) (log : List Report) (s : Supervised κ) (placed : Placed issued log s)
    (id : ActorId) (fresh : ¬ issued s.ctx id) : ¬ Shifted log id := by
  rintro ⟨gone, before, after, member, _, q, _, here, _⟩
  exact fresh (placed.named gone before [] after member id (List.mem_of_getElem? here))

theorem placed_removed (issued : κ → ActorId → Prop) (log : List Report) (s : Supervised κ) (placed : Placed issued log s)
    (consistent : Consistent issued s) (id : ActorId) (p : Nat) (other : ActorId)
    (found : (s.sup.childIds.filter fun child => child != id)[p]? = some other) :
    ∃ i, .made i other ∈ log ∧
      (¬ Shifted (log ++ [Report.failure id s.sup.childIds [] (s.sup.childIds.filter fun child => child != id)]) other →
        i = p) ∧
      (Shifted (log ++ [Report.failure id s.sup.childIds [] (s.sup.childIds.filter fun child => child != id)]) other →
        p < i) := by
  obtain ⟨q, here, moved⟩ := remove_moves s.sup.childIds id other p found
  obtain ⟨i, made, still, ahead⟩ := placed.place q other here
  have least : q ≤ i := by
    by_cases shifted : Shifted log other
    · exact Nat.le_of_lt (ahead shifted)
    · exact Nat.le_of_eq (still shifted).symm
  refine ⟨i, made, ?_, ?_⟩
  · intro unshifted
    rw [shifted_append, not_or] at unshifted
    rcases moved with ⟨⟨r, less, gone⟩, _⟩ | ⟨_, equal⟩
    · exact absurd ⟨id, _, _, List.mem_singleton.mpr rfl, r, q, gone, here, less⟩ unshifted.2
    · exact (still unshifted.1).trans equal.symm
  · intro shifted
    rcases moved with ⟨_, less⟩ | ⟨none, equal⟩
    · exact Nat.lt_of_lt_of_le less least
    · rcases (shifted_append _ _ _).mp shifted with old | ⟨gone, before, after, new, r, t, first, second, less⟩
      · exact equal ▸ ahead old
      · cases List.mem_singleton.mp new
        rw [nodup_position _ consistent.nodup t q other second here] at less
        exact absurd first (none r less)

theorem placed_step (issued : κ → ActorId → Prop) (log : List Report) (s next : Supervised κ) (call : Call κ)
    (events : List Report) (placed : Placed issued log s) (consistent : Consistent issued s)
    (one : s.sup.strategy = .oneForOne) (start : call = .startAll → log = [] ∧ s.sup.childIds = [])
    (kept : ∀ ctx, call = .elsewhere ctx → ∀ id, issued s.ctx id → issued ctx id)
    (moves : Moves issued s call events next) : Placed issued (log ++ events) next := by
  cases moves with
  | registerChild factory =>
      rw [List.append_nil]
      exact ⟨placed.marked, placed.named, placed.unique, placed.place⟩
  | elsewhere ctx =>
      rw [List.append_nil]
      refine ⟨?_, ?_, placed.unique, placed.place⟩
      · exact fun i id made => kept ctx rfl id (placed.marked i id made)
      · exact fun id before answer after member child inside =>
          kept ctx rfl child (placed.named id before answer after member child inside)
  | startAll ids ctx length issues =>
      obtain ⟨rfl, empty⟩ := start rfl
      have made (i : Nat) (id : ActorId) :
          .made i id ∈ [] ++ (madeEach ids ++ [Report.startedAll ids]) ↔ ids[i]? = some id := by
        rw [← mem_made_each]
        simp
      refine ⟨?_, ?_, ?_, ?_⟩
      · intro i id member
        exact issues.marks id (Or.inr (List.mem_of_getElem? ((made i id).mp member)))
      · intro id before answer after member
        simp [madeEach, reports] at member
      · intro i j id left right
        exact nodup_position ids issues.nodup i j id ((made i id).mp left) ((made j id).mp right)
      · intro p id found
        rw [empty, List.nil_append] at found
        refine ⟨p, (made p id).mpr found, fun _ => rfl, ?_⟩
        rintro ⟨gone, before, after, member, _⟩
        simp [madeEach, reports] at member
  | exhausted id spent =>
      refine ⟨?_, ?_, ?_, ?_⟩
      · intro i other member
        exact placed.marked i other (by simpa using member)
      · intro other before answer after member child inside
        rcases List.mem_append.mp member with old | new
        · exact placed.named other before answer after old child inside
        · cases List.mem_singleton.mp new
          exact consistent.issued child inside
      · intro i j other left right
        exact placed.unique i j other (by simpa using left) (by simpa using right)
      · intro p other found
        obtain ⟨i, made, place⟩ := placed_removed issued log s placed consistent id p other found
        exact ⟨i, List.mem_append_left _ made, place⟩
  | ignored id left _ absent =>
      have unshifted (other : ActorId) : ¬ Shifted [.failure id s.sup.childIds [] s.sup.childIds] other := by
        rintro ⟨gone, before, after, member, _, _, first, _⟩
        cases List.mem_singleton.mp member
        exact absent (List.mem_of_getElem? first)
      refine ⟨?_, ?_, ?_, ?_⟩
      · intro i other member
        exact placed.marked i other (by simpa using member)
      · intro other before answer after member child inside
        rcases List.mem_append.mp member with old | new
        · exact placed.named other before answer after old child inside
        · cases List.mem_singleton.mp new
          exact consistent.issued child inside
      · intro i j other left right
        exact placed.unique i j other (by simpa using left) (by simpa using right)
      · intro p other found
        obtain ⟨i, made, place⟩ := placed.place p other found
        refine ⟨i, List.mem_append_left _ made, ?_⟩
        rw [shifted_append]
        simpa [unshifted other] using place
  | restartedOne id newId front back ctx left _ split first issues =>
      have fresh := issues.fresh newId (List.mem_singleton.mpr rfl)
      have marks (other : ActorId) (old : issued s.ctx other) : issued ctx other := issues.marks other (Or.inl old)
      have unshifted (other : ActorId) : ¬ Shifted
          [.made front.length newId, .failure id s.sup.childIds [newId] (front ++ newId :: back)] other := by
        rintro ⟨gone, before, after, member, _⟩
        simp at member
      have made (i : Nat) (other : ActorId) (member : .made i other ∈
          log ++ [Report.made front.length newId, .failure id s.sup.childIds [newId] (front ++ newId :: back)]) :
          .made i other ∈ log ∨ i = front.length ∧ other = newId := by
        simpa using member
      refine ⟨?_, ?_, ?_, ?_⟩
      · intro i other member
        rcases made i other member with old | ⟨rfl, rfl⟩
        · exact marks other (placed.marked i other old)
        · exact issues.marks other (Or.inr (List.mem_singleton.mpr rfl))
      · intro other before answer after member child inside
        rcases List.mem_append.mp member with old | new
        · exact marks child (placed.named other before answer after old child inside)
        · have last : before = s.sup.childIds := by simp at new; exact new.2.1
          exact marks child (consistent.issued child (last ▸ inside))
      · intro i j other left right
        rcases made i other left with oldI | ⟨rfl, rfl⟩
        · rcases made j other right with oldJ | ⟨rfl, rfl⟩
          · exact placed.unique i j other oldI oldJ
          · exact absurd (placed.marked i _ oldI) fresh
        · rcases made j _ right with oldJ | ⟨same, _⟩
          · exact absurd (placed.marked j _ oldJ) fresh
          · exact same.symm
      · intro p other found
        change (front ++ newId :: back)[p]? = some other at found
        rw [shifted_append]
        by_cases here : p = front.length
        · subst here
          have same : newId = other := by simpa using found
          subst same
          refine ⟨front.length, by simp, fun _ => rfl, ?_⟩
          rintro (old | new)
          · exact absurd old (unshifted_fresh issued log s placed newId fresh)
          · exact absurd new (unshifted newId)
        · have before : s.sup.childIds[p]? = some other := by
            rw [split, ← found]
            rcases Nat.lt_or_ge p front.length with less | more
            · rw [List.getElem?_append_left less, List.getElem?_append_left less]
            · obtain ⟨k, rfl⟩ := Nat.exists_eq_add_of_le more
              cases k with
              | zero => exact absurd rfl here
              | succ k => simp [List.getElem?_append_right]
          obtain ⟨i, member, place⟩ := placed.place p other before
          exact ⟨i, List.mem_append_left _ member, by simpa [unshifted other] using place⟩
  | restartedAll id ids ctx left all length issues =>
      rw [one] at all
      cases all

theorem reach_placed (issued : κ → ActorId → Prop) (log : List Report) (s : Supervised κ)
    (reached : (supervision κ .oneForOne maxRestarts).Reach (inOrder issued) log s) : Placed issued log s := by
  refine supervision_invariant issued _ (in_order_fresh issued) (Placed issued) ?_ ?_ log s reached
  · intro ctx
    refine ⟨?_, ?_, ?_, ?_⟩
    · intro i id member
      cases member
    · intro id before answer after member
      cases member
    · intro i j id member
      cases member
    · intro p id found
      simp [new] at found
  · intro log s call events next before placed allowed moves
    refine placed_step issued log s next call events placed (in_order_consistent issued log s before)
      (reach_settings issued _ (in_order_fresh issued) log s before).1 ?_ ?_ moves
    · intro same
      have promise := allowed.2
      rw [same] at promise
      exact ⟨unstarted_log issued log s before promise, unstarted_empty issued log s before promise⟩
    · intro ctx same
      have promise := allowed.1
      rw [same] at promise
      exact promise

-- A child is restarted by the factory that made it exactly when no child that
-- stood before it has been removed.
theorem own_factory_iff (issued : κ → ActorId → Prop) (log : List Report) (s : Supervised κ)
    (reached : (supervision κ .oneForOne maxRestarts).Reach (inOrder issued) log s) (failed newId : ActorId)
    (next : Supervised κ) (events : List Report) (taken : step s (.handleFailure failed) = some (next, events))
    (restarted : .failure failed s.sup.children [newId] next.sup.children ∈ events) :
    (∃ i, .made i failed ∈ log ∧ .made i newId ∈ events) ↔ ¬ Shifted log failed := by
  have placed := reach_placed issued log s reached
  have registered := reach_registered issued _ (in_order_fresh issued) log s reached
  have settings := reach_settings issued _ (in_order_fresh issued) log s reached
  cases step_moves issued s next _ events registered taken with
  | exhausted _ spent => simp at restarted
  | ignored _ left _ absent => simp at restarted
  | restartedOne _ other front back ctx left _ split first issues =>
      have same : newId = other := by simp at restarted; exact restarted.2.1
      subst same
      have here : s.sup.childIds[front.length]? = some failed := by simp [split]
      obtain ⟨i, made, still, ahead⟩ := placed.place _ failed here
      have usedBy (j : Nat) : Report.made j newId ∈ [Report.made front.length newId,
          .failure failed s.sup.childIds [newId] (front ++ newId :: back)] ↔ j = front.length := by simp
      constructor
      · rintro ⟨j, old, used⟩ shifted
        have less := ahead shifted
        rw [placed.unique i j failed made old, (usedBy j).mp used] at less
        exact Nat.lt_irrefl _ less
      · intro unshifted
        exact ⟨i, made, (usedBy i).mpr (still unshifted)⟩
  | restartedAll _ ids ctx left all =>
      rw [settings.1] at all
      cases all

def startTwoLog : List Report := [.made 0 0, .made 1 1, .startedAll [0, 1]]

theorem own_factory_second : ∃ (s next : Supervised Nat) (events : List Report),
    (supervision Nat .oneForOne 1).Reach (inOrder below) startTwoLog s ∧ step s (.handleFailure 1) = some (next, events) ∧
      ∃ i, .made i 1 ∈ startTwoLog ∧ .made i 2 ∈ events := by
  have reached : (supervision Nat .oneForOne 1).Reach (inOrder below) startTwoLog _ :=
    Machine.run_reach_rely (supervision Nat .oneForOne 1) (inOrder below) [] _ ⟨new .oneForOne 1, 0⟩ _ startTwo (.init _ rfl) rfl
      ⟨⟨counter_fresh, nofun⟩, ⟨counter_fresh, nofun⟩, ⟨trivial, nofun⟩, trivial⟩
  refine ⟨_, _, [.made 1 2, .failure 1 [0, 1] [2] [0, 2]], reached, rfl,
    (own_factory_iff below _ _ reached 1 2 _ _ rfl (by simp)).mpr ?_⟩
  rintro ⟨gone, before, after, member, _⟩
  simp [startTwoLog] at member

def failTwice : List (Call Nat) :=
  [.registerChild counter, .registerChild counter, .startAll, .handleFailure 0, .handleFailure 2]

def failTwiceLog : List Report :=
  [.made 0 0, .made 1 1, .startedAll [0, 1], .made 0 2, .failure 0 [0, 1] [2] [2, 1], .failure 2 [2, 1] [] [1]]

-- The first child spends its one restart and is removed. The second, made by
-- factory 1, then is restarted by factory 0.
theorem foreign_factory : ∃ (s next : Supervised Nat) (events : List Report),
    (supervision Nat .oneForOne 1).Reach (inOrder below) failTwiceLog s ∧ s.sup.children = [1] ∧
      step s (.handleFailure 1) = some (next, events) ∧ .failure 1 [1] [3] [3] ∈ events ∧
        .made 1 1 ∈ failTwiceLog ∧ .made 0 3 ∈ events ∧ ¬ ∃ i, .made i 1 ∈ failTwiceLog ∧ .made i 3 ∈ events := by
  have reached : (supervision Nat .oneForOne 1).Reach (inOrder below) failTwiceLog _ :=
    Machine.run_reach_rely (supervision Nat .oneForOne 1) (inOrder below) [] _ ⟨new .oneForOne 1, 0⟩ _ failTwice (.init _ rfl) rfl
      ⟨⟨counter_fresh, nofun⟩, ⟨counter_fresh, nofun⟩, ⟨trivial, nofun⟩,
        ⟨trivial, [0, 1], @List.mem_of_getElem? _ _ 2 _ rfl⟩, ⟨trivial, [0, 1], @List.mem_of_getElem? _ _ 2 _ rfl⟩, trivial⟩
  refine ⟨_, _, [.made 0 3, .failure 1 [1] [3] [3]], reached, rfl, rfl, by simp, by simp [failTwiceLog], by simp, ?_⟩
  rintro ⟨i, old, new⟩
  have made : i = 1 := by simpa [failTwiceLog] using old
  have used : i = 0 := by simpa using new
  rw [made] at used
  cases used

end Actinium.Supervisor
