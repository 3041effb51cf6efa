import Actinium.SupervisorRuns

set_option autoImplicit false

namespace Actinium.Supervisor

variable {κ : Type} {strategy : Strategy} {maxRestarts : Nat}

-- Safety of runs in which the factories are fresh, by cases on one call.
theorem supervision_invariant (issued : κ → ActorId → Prop) (rely : Machine.Rely (Supervised κ) (Call κ) Report)
    (fresh : ∀ log s call, rely log s call → freshly issued log s call) (inv : List Report → Supervised κ → Prop)
    (base : ∀ ctx, inv [] ⟨new strategy maxRestarts, ctx⟩)
    (keep : ∀ log s call events next, (supervision κ strategy maxRestarts).Reach rely log s → inv log s → rely log s call →
      Moves issued s call events next → inv (log ++ events) next)
    (log : List Report) (s : Supervised κ) (reached : (supervision κ strategy maxRestarts).Reach rely log s) : inv log s := by
  have both : Registered (Fresh issued) s.sup.childFactories 0 ∧ inv log s := by
    refine Machine.reach_invariant _ rely (fun log s => Registered (Fresh issued) s.sup.childFactories 0 ∧ inv log s) ?_ ?_ log s reached
    · intro s begins
      obtain ⟨sup, ctx⟩ := s
      cases begins
      exact ⟨fun i factory found => by simp at found, base ctx⟩
    · intro log s call next events before both allowed taken
      have moves := step_moves issued s next call events both.1 taken
      refine ⟨registered_step issued (Fresh issued) s next call events both.1 moves ?_, keep log s call events next before both.2 allowed moves⟩
      intro factory same
      have promise := fresh log s call allowed
      rw [same] at promise
      exact promise
  exact both.2

theorem in_order_fresh (issued : κ → ActorId → Prop) (log : List Report) (s : Supervised κ) (call : Call κ)
    (allowed : inOrder issued log s call) : freshly issued log s call := allowed.1

theorem reach_registered (issued : κ → ActorId → Prop) (rely : Machine.Rely (Supervised κ) (Call κ) Report)
    (fresh : ∀ log s call, rely log s call → freshly issued log s call) (log : List Report) (s : Supervised κ)
    (reached : (supervision κ strategy maxRestarts).Reach rely log s) : Registered (Fresh issued) s.sup.childFactories 0 := by
  refine Machine.reach_invariant _ rely (fun _ s => Registered (Fresh issued) s.sup.childFactories 0) ?_ ?_ log s reached
  · intro s begins
    obtain ⟨sup, ctx⟩ := s
    cases begins
    exact fun i factory found => by simp at found
  · intro log s call next events before registered allowed taken
    refine registered_step issued (Fresh issued) s next call events registered (step_moves issued s next call events registered taken) ?_
    intro factory same
    have promise := fresh log s call allowed
    rw [same] at promise
    exact promise

-- The strategy and the limit are those of Supervisor::new.
theorem reach_settings (issued : κ → ActorId → Prop) (rely : Machine.Rely (Supervised κ) (Call κ) Report)
    (fresh : ∀ log s call, rely log s call → freshly issued log s call) (log : List Report) (s : Supervised κ)
    (reached : (supervision κ strategy maxRestarts).Reach rely log s) :
    s.sup.strategy = strategy ∧ s.sup.maxRestarts = maxRestarts := by
  refine supervision_invariant issued rely fresh (fun _ s => s.sup.strategy = strategy ∧ s.sup.maxRestarts = maxRestarts)
    (fun _ => ⟨rfl, rfl⟩) ?_ log s reached
  intro log s call events next _ same _ moves
  cases moves <;> exact same

-- Every child has one place and one restart count, and a factory at its place.
structure Consistent (issued : κ → ActorId → Prop) (s : Supervised κ) : Prop where
  nodup : s.sup.childIds.Nodup
  counted : ∀ id, id ∈ s.sup.restartCounts ↔ id ∈ s.sup.childIds
  fits : s.sup.childIds.length ≤ s.sup.childFactories.length
  issued : ∀ id ∈ s.sup.childIds, issued s.ctx id

theorem mem_zeros (ids : List ActorId) (counts : AList (fun _ : ActorId => Nat)) (id : ActorId) :
    id ∈ ids.foldl (fun counts id => counts.insert id 0) counts ↔ id ∈ ids ∨ id ∈ counts := by
  rw [← AList.lookup_isSome, lookup_zeros]
  by_cases inside : id ∈ ids
  · simp [inside]
  · simp [inside, AList.lookup_isSome]

theorem mem_zero_counts (ids : List ActorId) (id : ActorId) : id ∈ zeroCounts ids ↔ id ∈ ids := by
  rw [zeroCounts, mem_zeros]
  simp

theorem consistent_step (issued : κ → ActorId → Prop) (s next : Supervised κ) (call : Call κ) (events : List Report)
    (consistent : Consistent issued s) (moves : Moves issued s call events next)
    (empty : call = .startAll → s.sup.childIds = [])
    (kept : ∀ ctx, call = .elsewhere ctx → ∀ id, issued s.ctx id → issued ctx id) : Consistent issued next := by
  cases moves with
  | registerChild factory =>
      refine ⟨consistent.nodup, consistent.counted, ?_, consistent.issued⟩
      change s.sup.childIds.length ≤ (s.sup.childFactories ++ [_]).length
      rw [List.length_append]
      exact Nat.le_add_right_of_le consistent.fits
  | elsewhere ctx =>
      exact ⟨consistent.nodup, consistent.counted, consistent.fits, fun id member => kept ctx rfl id (consistent.issued id member)⟩
  | startAll ids ctx length issues =>
      have none := empty rfl
      refine ⟨?_, ?_, ?_, ?_⟩
      · simpa [none] using issues.nodup
      · intro id
        rw [mem_zeros, consistent.counted, none]
        simp
      · simp [none, length]
      · intro id member
        exact issues.marks id (Or.inr (by simpa [none] using member))
  | exhausted id spent =>
      have part : (s.sup.childIds.filter fun other => other != id).Sublist s.sup.childIds := List.filter_sublist
      refine ⟨part.nodup consistent.nodup, ?_, Nat.le_trans part.length_le consistent.fits, ?_⟩
      · intro other
        rw [AList.mem_erase, consistent.counted]
        simp [and_comm]
      · intro other member
        exact consistent.issued other (part.subset member)
  | ignored id left one absent => exact consistent
  | restartedOne id newId front back ctx left one split first issues =>
      have nodup := consistent.nodup
      rw [split] at nodup
      have unlisted : newId ∉ s.sup.childIds := by
        intro member
        exact issues.fresh newId (List.mem_singleton.mpr rfl) (consistent.issued newId member)
      rw [split] at unlisted
      refine ⟨?_, ?_, ?_, ?_⟩
      · have others : (front ++ back).Nodup := nodup.sublist (List.Sublist.append_left (List.sublist_cons_self id back) front)
        refine List.nodup_middle.mpr (List.nodup_cons.mpr ⟨?_, others⟩)
        intro member
        refine unlisted ?_
        rcases List.mem_append.mp member with inside | inside
        · exact List.mem_append_left _ inside
        · exact List.mem_append_right _ (List.mem_cons_of_mem _ inside)
      · intro other
        have gone : id ∉ front ++ back := (List.nodup_cons.mp (List.nodup_middle.mp nodup)).1
        rw [AList.mem_insert, AList.mem_erase, consistent.counted, split]
        by_cases same : other = id
        · subst same
          simp only [ne_eq, not_true_eq_false, false_and, or_false, List.mem_append, List.mem_cons] at gone ⊢
          constructor
          · exact fun equal => Or.inr (Or.inl equal)
          · rintro (inside | equal | inside)
            · exact absurd (Or.inl inside) gone
            · exact equal
            · exact absurd (Or.inr inside) gone
        · simp only [same, List.mem_append, List.mem_cons, false_or, ne_eq, not_false_eq_true, true_and]
          tauto
      · have fits := consistent.fits
        rw [split] at fits
        simpa using fits
      · intro other member
        rcases List.mem_append.mp member with inside | inside
        · exact issues.marks other (Or.inl (consistent.issued other (by rw [split]; exact List.mem_append_left _ inside)))
        · rcases List.mem_cons.mp inside with equal | inside
          · exact issues.marks other (Or.inr (by rw [equal]; exact List.mem_singleton.mpr rfl))
          · refine issues.marks other (Or.inl (consistent.issued other ?_))
            rw [split]
            exact List.mem_append_right _ (List.mem_cons_of_mem _ inside)
  | restartedAll id ids ctx left all length issues =>
      have none : s.sup.childIds.drop ids.length = [] := List.drop_eq_nil_iff.mpr (length ▸ consistent.fits)
      rw [none, List.append_nil]
      exact ⟨issues.nodup, mem_zero_counts ids, Nat.le_of_eq length, fun other member => issues.marks other (Or.inr member)⟩

theorem consistent_start (issued : κ → ActorId → Prop) (ctx : κ) : Consistent issued ⟨new strategy maxRestarts, ctx⟩ :=
  ⟨List.nodup_nil, fun id => by simp [new], Nat.le_refl _, fun id member => by cases member⟩

-- start_all is called only where there are no children.
def startsEmpty (issued : κ → ActorId → Prop) : Machine.Rely (Supervised κ) (Call κ) Report := fun log s call =>
  freshly issued log s call ∧ (call = .startAll → s.sup.childIds = [])

theorem starts_empty_consistent (issued : κ → ActorId → Prop) (log : List Report) (s : Supervised κ)
    (reached : (supervision κ strategy maxRestarts).Reach (startsEmpty issued) log s) : Consistent issued s := by
  refine supervision_invariant issued _ (fun _ _ _ allowed => allowed.1) (fun _ s => Consistent issued s)
    (consistent_start issued) ?_ log s reached
  intro log s call events next _ consistent allowed moves
  refine consistent_step issued s next call events consistent moves allowed.2 ?_
  intro ctx same
  have promise := allowed.1
  rw [same] at promise
  exact promise

theorem mem_made_each (ids : List ActorId) (i : Nat) (id : ActorId) : .made i id ∈ madeEach ids ↔ ids[i]? = some id := by
  simp only [madeEach, reports, List.mem_map, List.map_map, Function.comp, Prod.fst_swap, Prod.snd_swap, Report.made.injEq]
  constructor
  · rintro ⟨⟨other, j⟩, member, rfl, rfl⟩
    exact List.mem_zipIdx_iff_getElem?.mp member
  · intro found
    exact ⟨(id, i), List.mem_zipIdx_iff_getElem?.mpr found, rfl, rfl⟩

theorem made_not_started (ids more : List ActorId) : .startedAll more ∉ madeEach ids := by
  simp [madeEach, reports]

-- Before start_all there are no children.
theorem unstarted_empty (issued : κ → ActorId → Prop) (log : List Report) (s : Supervised κ)
    (reached : (supervision κ strategy maxRestarts).Reach (inOrder issued) log s) (unstarted : ¬ Started log) :
    s.sup.childIds = [] := by
  refine supervision_invariant issued _ (in_order_fresh issued) (fun log s => ¬ Started log → s.sup.childIds = [])
    (fun _ _ => rfl) ?_ log s reached unstarted
  intro log s call events next _ empty allowed moves later
  have before : ¬ Started log := fun ⟨ids, started⟩ => later ⟨ids, List.mem_append_left _ started⟩
  cases moves with
  | registerChild factory => exact empty before
  | elsewhere ctx => exact empty before
  | startAll ids ctx length issues => exact absurd ⟨ids, by simp⟩ later
  | _ => exact absurd allowed.2 before

theorem unstarted_log (issued : κ → ActorId → Prop) (log : List Report) (s : Supervised κ)
    (reached : (supervision κ strategy maxRestarts).Reach (inOrder issued) log s) (unstarted : ¬ Started log) : log = [] := by
  refine supervision_invariant issued _ (in_order_fresh issued) (fun log _ => ¬ Started log → log = [])
    (fun _ _ => rfl) ?_ log s reached unstarted
  intro log s call events next _ empty allowed moves later
  have before : ¬ Started log := fun ⟨ids, started⟩ => later ⟨ids, List.mem_append_left _ started⟩
  cases moves with
  | registerChild factory => rw [empty before, List.append_nil]
  | elsewhere ctx => rw [empty before, List.append_nil]
  | startAll ids ctx length issues => exact absurd ⟨ids, by simp⟩ later
  | _ => exact absurd allowed.2 before

theorem in_order_consistent (issued : κ → ActorId → Prop) (log : List Report) (s : Supervised κ)
    (reached : (supervision κ strategy maxRestarts).Reach (inOrder issued) log s) : Consistent issued s := by
  refine supervision_invariant issued _ (in_order_fresh issued) (fun _ s => Consistent issued s)
    (consistent_start issued) ?_ log s reached
  intro log s call events next before consistent allowed moves
  refine consistent_step issued s next call events consistent moves ?_ ?_
  · intro same
    have promise := allowed.2
    rw [same] at promise
    exact unstarted_empty issued log s before promise
  · intro ctx same
    have promise := allowed.1
    rw [same] at promise
    exact promise

-- The index into child_factories is in bounds.
theorem handle_failure_total (issued : κ → ActorId → Prop) (s : Supervised κ) (consistent : Consistent issued s) (id : ActorId)
    (ctx : Traced κ) : s.sup.handleFailure id ctx ≠ none := by
  unfold handleFailure
  dsimp only
  split
  · simp
  · split
    · unfold restartOne
      split
      · simp
      · rename_i idx found
        obtain ⟨front, back, split, _, length⟩ := index_split _ id idx found
        have bound : idx < s.sup.childFactories.length := by
          have fits := consistent.fits
          rw [split, List.length_append, List.length_cons] at fits
          omega
        rw [List.getElem?_eq_getElem bound]
        simp
    · simp

theorem table_consistent (issued : κ → ActorId → Prop) (log : List Report) (s : Supervised κ)
    (reached : (supervision κ strategy maxRestarts).Reach (startsEmpty issued) log s) :
    (∀ id ctx, s.sup.handleFailure id ctx ≠ none) ∧ s.sup.children.Nodup ∧
      (∀ id, id ∈ s.sup.restartCounts ↔ id ∈ s.sup.children) ∧
        s.sup.children.length ≤ s.sup.childFactories.length := by
  have consistent := starts_empty_consistent issued log s reached
  exact ⟨handle_failure_total issued s consistent, consistent.nodup, consistent.counted, consistent.fits⟩

-- A Context that is the counter of ids, and a factory that takes the next one.
def counter : ChildFactory Nat := fun next => (next, next + 1)

def below (next : Nat) (id : ActorId) : Prop := id < next

theorem counter_fresh : Fresh below counter := by
  intro next
  refine ⟨Nat.lt_irrefl next, ?_⟩
  rintro id (old | rfl)
  · exact Nat.lt_succ_of_lt old
  · exact Nat.lt_succ_self _

def startTwo : List (Call Nat) := [.registerChild counter, .registerChild counter, .startAll]

theorem table_consistent_two : ∃ (log : List Report) (s : Supervised Nat),
    (supervision Nat .oneForOne 1).Reach (startsEmpty below) log s ∧ s.sup.children = [0, 1] ∧
      s.sup.handleFailure 1 (s.ctx, []) ≠ none := by
  have reached := Machine.run_reach_rely (supervision Nat .oneForOne 1) (startsEmpty below) [] _ ⟨new .oneForOne 1, 0⟩ _ startTwo
    (.init _ rfl) rfl ⟨⟨counter_fresh, nofun⟩, ⟨counter_fresh, nofun⟩, ⟨trivial, fun _ => rfl⟩, trivial⟩
  exact ⟨_, _, reached, rfl, (table_consistent below _ _ reached).1 1 _⟩

-- A second start_all gives the one factory a second child, for which there is
-- no factory to restart it with.
theorem second_start_panics : ∃ (log : List Report) (s : Supervised Nat),
    (supervision Nat .oneForOne 1).Reach (freshly below) log s ∧ s.sup.children = [0, 1] ∧
      s.sup.childFactories.length = 1 ∧ s.sup.handleFailure 1 (s.ctx, []) = none := by
  have reached := Machine.run_reach_rely (supervision Nat .oneForOne 1) (freshly below) [] _ ⟨new .oneForOne 1, 0⟩ _
    [.registerChild counter, .startAll, .startAll] (.init _ rfl) rfl ⟨counter_fresh, trivial, trivial, trivial⟩
  exact ⟨_, _, reached, rfl, rfl, rfl⟩

theorem erase_absent (counts : AList (fun _ : ActorId => Nat)) (id : ActorId) (absent : id ∉ counts) : counts.erase id = counts :=
  AList.ext (List.kerase_of_notMem_keys absent)

theorem counts_empty (counts : AList (fun _ : ActorId => Nat)) (absent : ∀ id, id ∉ counts) : counts = ∅ := by
  refine AList.ext ?_
  cases entries : counts.entries with
  | nil => rfl
  | cons head tail =>
      refine absurd ?_ (absent head.1)
      rw [AList.mem_keys, AList.keys, entries]
      exact List.mem_cons_self

theorem stranger_uncounted (issued : κ → ActorId → Prop) (s : Supervised κ) (consistent : Consistent issued s) (id : ActorId)
    (absent : id ∉ s.sup.children) : id ∉ s.sup.restartCounts ∧ s.sup.restartCounts.lookup id = none := by
  have uncounted : id ∉ s.sup.restartCounts := fun member => absent ((consistent.counted id).mp member)
  refine ⟨uncounted, ?_⟩
  rw [← AList.lookup_isSome] at uncounted
  simpa using uncounted

theorem filter_absent (ids : List ActorId) (id : ActorId) (absent : id ∉ ids) : ids.filter (fun other => other != id) = ids := by
  apply List.filter_eq_self.mpr
  intro other member
  simp only [bne_iff_ne, ne_eq]
  rintro rfl
  exact absent member

-- A report for an id that is no child changes nothing, except under AllForOne
-- where it restarts the group.
theorem stranger_ignored_iff (issued : κ → ActorId → Prop) (log : List Report) (s : Supervised κ)
    (reached : (supervision κ strategy maxRestarts).Reach (inOrder issued) log s) (id : ActorId)
    (absent : id ∉ s.sup.children) :
    (∀ ctx, s.sup.handleFailure id ctx = some ([], s.sup, ctx)) ↔
      strategy = .oneForOne ∨ maxRestarts = 0 ∨ s.sup.childFactories = [] := by
  have consistent := in_order_consistent issued log s reached
  obtain ⟨own, limit⟩ := reach_settings issued _ (in_order_fresh issued) log s reached
  obtain ⟨uncounted, none⟩ := stranger_uncounted issued s consistent id absent
  have handled (ctx : Traced κ) : s.sup.handleFailure id ctx =
      if maxRestarts = 0 ∨ strategy = .oneForOne then some ([], s.sup, ctx) else some (s.sup.restartAll ctx) := by
    have unlisted : s.sup.childIds.idxOf? id = .none := List.idxOf?_eq_none_iff.mpr absent
    subst own limit
    unfold handleFailure
    by_cases zero : s.sup.maxRestarts = 0
    · rw [if_pos (Or.inl zero)]
      simp only [none, Option.getD_none, ge_iff_le, Nat.le_zero_eq, if_pos zero, filter_absent s.sup.childIds id absent,
        erase_absent _ _ uncounted]
    · cases s.sup.strategy <;> simp [none, zero, restartOne, unlisted]
  constructor
  · intro same
    by_cases alone : maxRestarts = 0 ∨ strategy = .oneForOne
    · exact alone.elim (fun zero => Or.inr (Or.inl zero)) Or.inl
    · right
      right
      have all := same (s.ctx, [])
      rw [handled, if_neg alone, restart_all_eq] at all
      have answer := congrArg Prod.fst (Option.some.inj all)
      have length := spawn_each_length s.sup.childFactories (s.ctx, [])
      rw [show (spawnEach s.sup.childFactories (s.ctx, [])).1 = [] from answer] at length
      exact List.eq_nil_of_length_eq_zero length.symm
  · intro condition ctx
    rw [handled]
    by_cases alone : maxRestarts = 0 ∨ strategy = .oneForOne
    · rw [if_pos alone]
    · rw [if_neg alone]
      have noFactory : s.sup.childFactories = [] := by
        rcases condition with wrong | wrong | none
        · exact absurd (Or.inr wrong) alone
        · exact absurd (Or.inl wrong) alone
        · exact none
      have noChild : s.sup.childIds = [] := by
        have fits := consistent.fits
        rw [noFactory] at fits
        exact List.eq_nil_of_length_eq_zero (Nat.le_zero.mp fits)
      have noCount : s.sup.restartCounts = ∅ := by
        refine counts_empty _ fun other member => ?_
        have child := (consistent.counted other).mp member
        rw [noChild] at child
        cases child
      rw [restart_all_eq, noFactory]
      obtain ⟨sup, after⟩ := s
      obtain ⟨strategy, max, factories, ids, counts⟩ := sup
      simp only at noFactory noChild noCount
      subst noFactory noChild noCount
      rfl

theorem stranger_ignored_one : ∃ (log : List Report) (s : Supervised Nat),
    (supervision Nat .oneForOne 1).Reach (inOrder below) log s ∧ s.sup.children = [0, 1] ∧
      ∀ ctx, s.sup.handleFailure 7 ctx = some ([], s.sup, ctx) := by
  have reached := Machine.run_reach_rely (supervision Nat .oneForOne 1) (inOrder below) [] _ ⟨new .oneForOne 1, 0⟩ _ startTwo
    (.init _ rfl) rfl ⟨⟨counter_fresh, nofun⟩, ⟨counter_fresh, nofun⟩, ⟨trivial, nofun⟩, trivial⟩
  exact ⟨_, _, reached, rfl, (stranger_ignored_iff below _ _ reached 7 (by decide)).mpr (Or.inl rfl)⟩

-- Under AllForOne a report for an id that never was a child makes two new
-- children and returns them.
theorem stranger_restarts_all : ∃ (log : List Report) (s next : Supervised Nat),
    (supervision Nat .allForOne 1).Reach (inOrder below) log s ∧ 7 ∉ s.sup.children ∧
      step s (.handleFailure 7) = some (next, [.made 0 2, .made 1 3, .failure 7 [0, 1] [2, 3] [2, 3]]) ∧
        next.sup.children ≠ s.sup.children := by
  have reached := Machine.run_reach_rely (supervision Nat .allForOne 1) (inOrder below) [] _ ⟨new .allForOne 1, 0⟩ _ startTwo
    (.init _ rfl) rfl ⟨⟨counter_fresh, nofun⟩, ⟨counter_fresh, nofun⟩, ⟨trivial, nofun⟩, trivial⟩
  exact ⟨_, _, _, reached, by decide, rfl, by decide⟩

end Actinium.Supervisor
