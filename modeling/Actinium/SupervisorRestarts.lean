import Actinium.SupervisorTable

set_option autoImplicit false

namespace Actinium.Supervisor

variable {κ : Type} {strategy : Strategy} {maxRestarts : Nat}

-- The current id of a child, and how often the child was reported failed.
def succeed (child : ActorId × Nat) : Report → ActorId × Nat
  | .failure id _ answer _ => if id = child.1 then (answer.headD child.1, child.2 + 1) else child
  | _ => child

def follow (first : ActorId) (log : List Report) : ActorId × Nat := log.foldl succeed (first, 0)

theorem follow_append (first : ActorId) (log events : List Report) :
    follow first (log ++ events) = events.foldl succeed (follow first log) := List.foldl_append

theorem succeed_made (ids : List ActorId) (child : ActorId × Nat) : (madeEach ids).foldl succeed child = child := by
  unfold madeEach reports
  rw [List.map_map]
  generalize ids.zipIdx = calls
  induction calls with
  | nil => rfl
  | cons head tail ih => exact ih

-- What is left of the budget of a child decides whether it still is one.
structure Budgeted (issued : κ → ActorId → Prop) (s : Supervised κ) (child : ActorId × Nat) : Prop where
  issued : issued s.ctx child.1
  kept : child.2 ≤ s.sup.maxRestarts → child.1 ∈ s.sup.childIds ∧ s.sup.restartCounts.lookup child.1 = some child.2
  gone : s.sup.maxRestarts < child.2 → child.1 ∉ s.sup.childIds

theorem budgeted_other (issued : κ → ActorId → Prop) (s next : Supervised κ) (child : ActorId × Nat)
    (budgeted : Budgeted issued s child) (limit : next.sup.maxRestarts = s.sup.maxRestarts)
    (marks : ∀ id, issued s.ctx id → issued next.ctx id)
    (places : child.1 ∈ next.sup.childIds ↔ child.1 ∈ s.sup.childIds)
    (counts : next.sup.restartCounts.lookup child.1 = s.sup.restartCounts.lookup child.1) : Budgeted issued next child := by
  refine ⟨marks _ budgeted.issued, ?_, ?_⟩
  · intro left
    rw [places, counts]
    exact budgeted.kept (limit ▸ left)
  · intro spent
    rw [places]
    exact budgeted.gone (limit ▸ spent)

theorem mem_replace (front back : List ActorId) (id newId other : ActorId) (notOld : other ≠ id) (notNew : other ≠ newId) :
    other ∈ front ++ newId :: back ↔ other ∈ front ++ id :: back := by
  simp [notOld, notNew]

theorem budgeted_failure (issued : κ → ActorId → Prop) (s next : Supervised κ) (id : ActorId) (events : List Report)
    (child : ActorId × Nat) (budgeted : Budgeted issued s child) (one : s.sup.strategy = .oneForOne)
    (moves : Moves issued s (.handleFailure id) events next) : Budgeted issued next (events.foldl succeed child) := by
  obtain ⟨cur, fails⟩ := child
  cases moves with
  | exhausted _ spent =>
      by_cases same : id = cur
      · subst same
        have after : [Report.failure id s.sup.childIds [] (s.sup.childIds.filter fun other => other != id)].foldl succeed
            (id, fails) = (id, fails + 1) := by simp [succeed]
        rw [after]
        refine ⟨budgeted.issued, ?_, ?_⟩
        · intro left
          have counted := (budgeted.kept (Nat.le_of_succ_le left)).2
          simp only [count, counted, Option.getD_some] at spent
          exact absurd (Nat.le_trans left spent) (Nat.not_succ_le_self _)
        · intro _
          simp
      · have after : [Report.failure id s.sup.childIds [] (s.sup.childIds.filter fun other => other != id)].foldl succeed
            (cur, fails) = (cur, fails) := by simp [succeed, same]
        rw [after]
        refine budgeted_other issued s _ _ budgeted rfl (fun _ old => old) ?_ ?_
        · simp [Ne.symm same]
        · exact AList.lookup_erase_ne (Ne.symm same)
  | ignored _ left _ absent =>
      by_cases same : id = cur
      · subst same
        have after : [Report.failure id s.sup.childIds [] s.sup.childIds].foldl succeed (id, fails) = (id, fails + 1) := by
          simp [succeed]
        rw [after]
        refine ⟨budgeted.issued, ?_, fun _ => absent⟩
        intro fewer
        exact absurd (budgeted.kept (Nat.le_of_succ_le fewer)).1 absent
      · have after : [Report.failure id s.sup.childIds [] s.sup.childIds].foldl succeed (cur, fails) = (cur, fails) := by
          simp [succeed, same]
        rw [after]
        exact budgeted
  | restartedOne _ newId front back ctx left _ split first issues =>
      have marks (other : ActorId) (old : issued s.ctx other) : issued ctx other := issues.marks other (Or.inl old)
      by_cases same : id = cur
      · subst same
        have after : [Report.made front.length newId, .failure id s.sup.childIds [newId] (front ++ newId :: back)].foldl succeed
            (id, fails) = (newId, fails + 1) := by simp [succeed]
        rw [after]
        have inside : id ∈ s.sup.childIds := by rw [split]; simp
        have enough : fails ≤ s.sup.maxRestarts := by
          by_contra more
          exact budgeted.gone (Nat.lt_of_not_le more) inside
        have counted : s.sup.count id = fails := by
          simp [count, (budgeted.kept enough).2]
        refine ⟨issues.marks newId (Or.inr (List.mem_singleton.mpr rfl)), ?_, ?_⟩
        · intro _
          exact ⟨by simp, by simp [counted]⟩
        · intro spent
          rw [counted] at left
          exact absurd left (Nat.not_lt_of_le (Nat.le_of_lt_succ spent))
      · have after : [Report.made front.length newId, .failure id s.sup.childIds [newId] (front ++ newId :: back)].foldl succeed
            (cur, fails) = (cur, fails) := by simp [succeed, same]
        rw [after]
        have different : cur ≠ newId := by
          rintro rfl
          exact issues.fresh cur (List.mem_singleton.mpr rfl) budgeted.issued
        refine budgeted_other issued s _ _ budgeted rfl marks ?_ ?_
        · rw [split]
          exact mem_replace front back id newId cur (Ne.symm same) different
        · exact (AList.lookup_insert_ne different).trans (AList.lookup_erase_ne (Ne.symm same))
  | restartedAll _ ids ctx left all length issues =>
      rw [one] at all
      cases all

theorem reach_budgeted (issued : κ → ActorId → Prop) (log : List Report) (s : Supervised κ)
    (reached : (supervision κ .oneForOne maxRestarts).Reach (inOrder issued) log s) (ids : List ActorId)
    (started : .startedAll ids ∈ log) (first : ActorId) (member : first ∈ ids) : Budgeted issued s (follow first log) := by
  refine supervision_invariant issued _ (in_order_fresh issued)
    (fun log s => ∀ ids, .startedAll ids ∈ log → ∀ first ∈ ids, Budgeted issued s (follow first log))
    (fun _ _ started => by cases started) ?_ log s reached ids started first member
  intro log s call events next before budgeted allowed moves ids started first member
  have settings := reach_settings issued _ (in_order_fresh issued) log s before
  rw [follow_append]
  cases call with
  | registerChild factory =>
      cases moves
      rw [List.append_nil] at started
      exact absurd ⟨ids, started⟩ allowed.2
  | startAll =>
      have unstarted : ¬ Started log := allowed.2
      rw [unstarted_log issued log s before unstarted] at started ⊢
      cases moves with
      | startAll others ctx length issues =>
          have same : ids = others := by simpa [made_not_started] using started
          subst same
          rw [List.foldl_append, succeed_made]
          change Budgeted issued _ (first, 0)
          refine ⟨issues.marks first (Or.inr member), ?_, ?_⟩
          · intro _
            exact ⟨List.mem_append_right _ member, by rw [lookup_zeros, if_pos member]⟩
          · intro wrong
            exact absurd wrong (Nat.not_lt_zero _)
  | elsewhere ctx =>
      cases moves
      rw [List.append_nil] at started
      exact budgeted_other issued s _ _ (budgeted ids started first member) rfl allowed.1 Iff.rfl rfl
  | handleFailure id =>
      have old : .startedAll ids ∈ log := by
        rcases List.mem_append.mp started with old | new
        · exact old
        · cases moves <;> simp [made_not_started] at new
      exact budgeted_failure issued s next id events _ (budgeted ids old first member) settings.1 moves

theorem mem_split (ids : List ActorId) (id : ActorId) (member : id ∈ ids) : ∃ front back, ids = front ++ id :: back ∧ id ∉ front := by
  obtain ⟨idx, found⟩ : ∃ idx, ids.idxOf? id = some idx := by
    cases found : ids.idxOf? id with
    | none => exact absurd member (List.idxOf?_eq_none_iff.mp found)
    | some idx => exact ⟨idx, rfl⟩
  obtain ⟨front, back, split, first, _⟩ := index_split ids id idx found
  exact ⟨front, back, split, first⟩

theorem step_total (issued : κ → ActorId → Prop) (s : Supervised κ) (consistent : Consistent issued s) (id : ActorId) :
    ∃ next events, step s (.handleFailure id) = some (next, events) := by
  obtain ⟨result, handled⟩ := Option.ne_none_iff_exists'.mp (handle_failure_total issued s consistent id (s.ctx, []))
  exact ⟨_, _, by rw [step, handled]; rfl⟩

-- The others stay what they are: their ids, their order and their budgets.
def Others (s next : Supervised κ) (front back : List ActorId) : Prop :=
  ∀ other ∈ front ++ back, next.sup.restartCounts.lookup other = s.sup.restartCounts.lookup other

-- What the next failure of a child does, given how often it has failed.
structure Accounted (s : Supervised κ) (cur : ActorId) (fails : Nat) : Prop where
  restarts : fails < s.sup.maxRestarts → ∃ next front back newId,
    step s (.handleFailure cur) = some (next, [.made front.length newId, .failure cur s.sup.children [newId] next.sup.children]) ∧
      s.sup.children = front ++ cur :: back ∧ next.sup.children = front ++ newId :: back ∧ newId ∉ s.sup.children ∧
        Others s next front back
  removes : fails = s.sup.maxRestarts → ∃ next front back,
    step s (.handleFailure cur) = some (next, [.failure cur s.sup.children [] next.sup.children]) ∧
      s.sup.children = front ++ cur :: back ∧ next.sup.children = front ++ back ∧ Others s next front back
  gone : s.sup.maxRestarts < fails → cur ∉ s.sup.children ∧
    step s (.handleFailure cur) = some (s, [.failure cur s.sup.children [] s.sup.children])

theorem filter_split (front back : List ActorId) (id : ActorId) (nodup : (front ++ id :: back).Nodup) :
    (front ++ id :: back).filter (fun other => other != id) = front ++ back := by
  have absent : id ∉ front ++ back := (List.nodup_cons.mp (List.nodup_middle.mp nodup)).1
  rw [List.mem_append, not_or] at absent
  rw [List.filter_append, List.filter_cons, filter_absent front id absent.1, filter_absent back id absent.2]
  simp

theorem accounted (issued : κ → ActorId → Prop) (log : List Report) (s : Supervised κ)
    (reached : (supervision κ .oneForOne maxRestarts).Reach (inOrder issued) log s) (ids : List ActorId)
    (started : .startedAll ids ∈ log) (first : ActorId) (member : first ∈ ids) :
    Accounted s (follow first log).1 (follow first log).2 := by
  have budgeted := reach_budgeted issued log s reached ids started first member
  have consistent := in_order_consistent issued log s reached
  have settings := reach_settings issued _ (in_order_fresh issued) log s reached
  have registered := reach_registered issued _ (in_order_fresh issued) log s reached
  generalize follow first log = child at budgeted ⊢
  obtain ⟨cur, fails⟩ := child
  obtain ⟨next, events, taken⟩ := step_total issued s consistent cur
  have moves := step_moves issued s next _ events registered taken
  have nodup := consistent.nodup
  have counted (kept : fails ≤ s.sup.maxRestarts) : s.sup.count cur = fails := by
    simp [count, (budgeted.kept kept).2]
  refine ⟨?_, ?_, ?_⟩
  · intro left
    change fails < s.sup.maxRestarts at left
    have kept := Nat.le_of_lt left
    cases moves with
    | exhausted _ spent =>
        rw [counted kept] at spent
        exact absurd left (Nat.not_lt_of_le spent)
    | ignored _ _ _ absent => exact absurd (budgeted.kept kept).1 absent
    | restartedOne _ newId front back ctx _ _ split first issues =>
        refine ⟨_, front, back, newId, taken, split, rfl, ?_, ?_⟩
        · intro inside
          exact issues.fresh newId (List.mem_singleton.mpr rfl) (consistent.issued newId inside)
        · intro other inside
          rw [split] at nodup
          have different : other ≠ cur := by
            rintro rfl
            exact (List.nodup_cons.mp (List.nodup_middle.mp nodup)).1 inside
          have fresh : other ≠ newId := by
            rintro rfl
            refine issues.fresh other (List.mem_singleton.mpr rfl) (consistent.issued other ?_)
            rw [split]
            rcases List.mem_append.mp inside with early | late
            · exact List.mem_append_left _ early
            · exact List.mem_append_right _ (List.mem_cons_of_mem _ late)
          exact (AList.lookup_insert_ne fresh).trans (AList.lookup_erase_ne different)
    | restartedAll _ ids ctx _ all =>
        rw [settings.1] at all
        cases all
  · intro spent
    change fails = s.sup.maxRestarts at spent
    have kept := Nat.le_of_eq spent
    have past : ¬ s.sup.count cur < s.sup.maxRestarts := by
      rw [counted kept, spent]
      exact Nat.lt_irrefl _
    cases moves with
    | exhausted _ _ =>
        obtain ⟨front, back, split, _⟩ := mem_split _ cur (budgeted.kept kept).1
        refine ⟨_, front, back, taken, split, ?_, ?_⟩
        · change s.sup.childIds.filter _ = _
          rw [split] at nodup ⊢
          exact filter_split front back cur nodup
        · intro other inside
          rw [split] at nodup
          have different : other ≠ cur := by
            rintro rfl
            exact (List.nodup_cons.mp (List.nodup_middle.mp nodup)).1 inside
          exact AList.lookup_erase_ne different
    | ignored _ left => exact absurd left past
    | restartedOne _ _ _ _ _ left => exact absurd left past
    | restartedAll _ _ _ left => exact absurd left past
  · intro spent
    have absent := budgeted.gone spent
    refine ⟨absent, ?_⟩
    have ignored := (stranger_ignored_iff issued log s reached cur absent).mpr (Or.inl rfl) (s.ctx, [])
    rw [step, ignored]
    rfl

theorem succeed_gone (issued : κ → ActorId → Prop) (s next : Supervised κ) (call : Call κ) (events : List Report)
    (moves : Moves issued s call events next) (one : s.sup.strategy = .oneForOne) (cur : ActorId) (fails : Nat)
    (absent : cur ∉ s.sup.childIds) :
    (events.foldl succeed (cur, fails)).1 = cur ∧ fails ≤ (events.foldl succeed (cur, fails)).2 := by
  cases moves with
  | registerChild factory => exact ⟨rfl, Nat.le_refl _⟩
  | elsewhere ctx => exact ⟨rfl, Nat.le_refl _⟩
  | startAll ids ctx length issues =>
      rw [List.foldl_append, succeed_made]
      exact ⟨rfl, Nat.le_refl _⟩
  | exhausted id spent =>
      by_cases same : id = cur <;> simp [succeed, same]
  | ignored id left _ unlisted =>
      by_cases same : id = cur <;> simp [succeed, same]
  | restartedOne id newId front back ctx left _ split first issues =>
      have different : id ≠ cur := by
        rintro rfl
        refine absent ?_
        rw [split]
        simp
      simp [succeed, different]
  | restartedAll id ids ctx left all =>
      rw [one] at all
      cases all

-- A child that was removed keeps its last id and is never a child again.
theorem removed_for_good (issued : κ → ActorId → Prop) (log later : List Report) (s next : Supervised κ)
    (reached : (supervision κ .oneForOne maxRestarts).Reach (inOrder issued) log s) (ids : List ActorId)
    (started : .startedAll ids ∈ log) (first : ActorId) (member : first ∈ ids) (spent : maxRestarts < (follow first log).2)
    (run : (supervision κ .oneForOne maxRestarts).Runs (inOrder issued) log s later next) :
    (follow first later).1 = (follow first log).1 ∧ (follow first log).1 ∉ next.sup.children := by
  have kept := Machine.runs_invariant _ _
    (fun later _ => log <+: later ∧ (follow first later).1 = (follow first log).1 ∧ maxRestarts < (follow first later).2)
    log s reached ⟨List.prefix_refl log, rfl, spent⟩ ?_ later next run
  · obtain ⟨front, same, past⟩ := kept
    refine ⟨same, ?_⟩
    have after := Machine.reach_runs _ _ log later s next reached run
    have budgeted := reach_budgeted issued later next after ids (front.subset started) first member
    rw [← same]
    refine budgeted.gone ?_
    rw [(reach_settings issued _ (in_order_fresh issued) later next after).2]
    exact past
  · rintro later mid call next events before ⟨front, same, past⟩ allowed taken
    have settings := reach_settings issued _ (in_order_fresh issued) later mid before
    have registered := reach_registered issued _ (in_order_fresh issued) later mid before
    have budgeted := reach_budgeted issued later mid before ids (front.subset started) first member
    have absent := budgeted.gone (settings.2.symm ▸ past)
    obtain ⟨still, more⟩ := succeed_gone issued mid next call events (step_moves issued mid next call events registered taken)
      settings.1 _ (follow first later).2 absent
    rw [follow_append]
    exact ⟨front.trans (List.prefix_append _ _), still.trans same, Nat.lt_of_lt_of_le past more⟩

theorem restarts_accounted (issued : κ → ActorId → Prop) (log : List Report) (s : Supervised κ)
    (reached : (supervision κ .oneForOne maxRestarts).Reach (inOrder issued) log s) (ids : List ActorId)
    (started : .startedAll ids ∈ log) (first : ActorId) (member : first ∈ ids) :
    Accounted s (follow first log).1 (follow first log).2 ∧
      (maxRestarts < (follow first log).2 → ∀ later next,
        (supervision κ .oneForOne maxRestarts).Runs (inOrder issued) log s later next →
          (follow first later).1 = (follow first log).1 ∧ (follow first log).1 ∉ next.sup.children) :=
  ⟨accounted issued log s reached ids started first member,
    fun spent later next => removed_for_good issued log later s next reached ids started first member spent⟩

def failOnce : List (Call Nat) := [.registerChild counter, .registerChild counter, .startAll, .handleFailure 1]

theorem restarts_accounted_second : ∃ s : Supervised Nat, (supervision Nat .oneForOne 1).Reach (inOrder below)
    [.made 0 0, .made 1 1, .startedAll [0, 1], .made 1 2, .failure 1 [0, 1] [2] [0, 2]] s ∧ Accounted s 2 1 := by
  have reached : (supervision Nat .oneForOne 1).Reach (inOrder below)
      [.made 0 0, .made 1 1, .startedAll [0, 1], .made 1 2, .failure 1 [0, 1] [2] [0, 2]] _ :=
    Machine.run_reach_rely (supervision Nat .oneForOne 1) (inOrder below) [] _ ⟨new .oneForOne 1, 0⟩ _ failOnce (.init _ rfl) rfl
      ⟨⟨counter_fresh, nofun⟩, ⟨counter_fresh, nofun⟩, ⟨trivial, nofun⟩,
        ⟨trivial, [0, 1], @List.mem_of_getElem? _ _ 2 _ rfl⟩, trivial⟩
  exact ⟨_, reached, (restarts_accounted below _ _ reached [0, 1] (by simp) 1 (by simp)).1⟩

-- The report names the child at position i, and is answered with a restart.
def failsAt (i : Nat) : Report → Bool
  | .failure id before _ _ => decide (before[i]? = some id)
  | _ => false

def restartsAt (i : Nat) : Report → Bool
  | .failure id before answer _ => decide (before[i]? = some id) && !answer.isEmpty
  | _ => false

-- restart_all resets every count, so no budget is ever spent.
theorem all_answered (issued : κ → ActorId → Prop) (log : List Report) (s : Supervised κ)
    (reached : (supervision κ .allForOne maxRestarts).Reach (inOrder issued) log s) :
    (∀ id, s.sup.count id = 0) ∧ ∀ id before answer after, .failure id before answer after ∈ log →
      (maxRestarts = 0 → answer = []) ∧ (0 < maxRestarts → id ∈ before → answer ≠ []) := by
  refine supervision_invariant issued _ (in_order_fresh issued)
    (fun log s => (∀ id, s.sup.count id = 0) ∧ ∀ id before answer after, .failure id before answer after ∈ log →
      (maxRestarts = 0 → answer = []) ∧ (0 < maxRestarts → id ∈ before → answer ≠ []))
    (fun _ => ⟨fun _ => rfl, fun _ _ _ _ member => by cases member⟩) ?_ log s reached
  intro log s call events next reached known _ moves
  obtain ⟨zero, answered⟩ := known
  have settings := reach_settings issued _ (in_order_fresh issued) log s reached
  have consistent := in_order_consistent issued log s reached
  have zeros (ids : List ActorId) (counts : AList (fun _ : ActorId => Nat)) (same : ∀ id, (counts.lookup id).getD 0 = 0)
      (id : ActorId) : ((ids.foldl (fun counts id => counts.insert id 0) counts).lookup id).getD 0 = 0 := by
    rw [lookup_zeros]
    split
    · rfl
    · exact same id
  cases moves with
  | registerChild factory => exact ⟨zero, by simpa using answered⟩
  | elsewhere ctx => exact ⟨zero, by simpa using answered⟩
  | startAll ids ctx length issues =>
      refine ⟨zeros ids _ zero, ?_⟩
      intro id before answer after member
      exact answered id before answer after (by simpa [madeEach, reports] using member)
  | exhausted id spent =>
      have none : maxRestarts = 0 := by
        rw [zero id, settings.2] at spent
        exact Nat.le_zero.mp spent
      refine ⟨?_, ?_⟩
      · intro other
        change ((s.sup.restartCounts.erase id).lookup other).getD 0 = 0
        by_cases same : other = id
        · rw [same, AList.lookup_erase]
          rfl
        · rw [AList.lookup_erase_ne same]
          exact zero other
      · intro other before answer after member
        rcases List.mem_append.mp member with old | new
        · exact answered other before answer after old
        · cases List.mem_singleton.mp new
          exact ⟨fun _ => rfl, fun positive => by rw [none] at positive; cases positive⟩
  | ignored id left one absent =>
      rw [settings.1] at one
      cases one
  | restartedOne id newId front back ctx left one split first issues =>
      rw [settings.1] at one
      cases one
  | restartedAll id ids ctx left all length issues =>
      refine ⟨zeros ids ∅ (fun _ => rfl), ?_⟩
      intro other before answer after member
      rcases List.mem_append.mp member with old | new
      · exact answered other before answer after old
      · have last : Report.failure other before answer after =
            .failure id s.sup.childIds ids (ids ++ s.sup.childIds.drop ids.length) := by
          simpa [madeEach, reports] using new
        cases last
        refine ⟨?_, ?_⟩
        · intro none
          rw [settings.2, none] at left
          exact absurd left (Nat.not_lt_zero _)
        · intro _ inside empty
          have fits := consistent.fits
          rw [← length, empty] at fits
          rw [List.eq_nil_of_length_eq_zero (Nat.le_zero.mp fits)] at inside
          cases inside

-- Under AllForOne the restarts of a child stay within the limit exactly when
-- its failures do, unless no restart is allowed at all.
theorem group_restarts_limited_iff (issued : κ → ActorId → Prop) (log : List Report) (s : Supervised κ)
    (reached : (supervision κ .allForOne maxRestarts).Reach (inOrder issued) log s) :
    (∀ i, log.countP (restartsAt i) ≤ maxRestarts) ↔ maxRestarts = 0 ∨ ∀ i, log.countP (failsAt i) ≤ maxRestarts := by
  have answered := (all_answered issued log s reached).2
  by_cases none : maxRestarts = 0
  · refine ⟨fun _ => Or.inl none, fun _ i => ?_⟩
    rw [List.countP_eq_zero.mpr]
    · exact Nat.zero_le _
    intro report member restarts
    cases report with
    | failure id before answer after =>
        simp [restartsAt, (answered id before answer after member).1 none] at restarts
    | made factory id => cases restarts
    | startedAll ids => cases restarts
  · have same (i : Nat) : log.countP (restartsAt i) = log.countP (failsAt i) := by
      refine List.countP_congr ?_
      intro report member
      cases report with
      | failure id before answer after =>
          have nonempty := (answered id before answer after member).2 (Nat.pos_of_ne_zero none)
          simp only [restartsAt, failsAt, Bool.and_eq_true, decide_eq_true_eq, Bool.not_eq_true', List.isEmpty_eq_false_iff]
          exact ⟨fun both => both.1, fun here => ⟨here, nonempty (List.mem_of_getElem? here)⟩⟩
      | made factory id => exact Iff.rfl
      | startedAll ids => exact Iff.rfl
    simp only [same, none, false_or]

theorem group_restarts_limited_one : ∃ s : Supervised Nat, (supervision Nat .allForOne 1).Reach (inOrder below)
    [.made 0 0, .made 1 1, .startedAll [0, 1], .made 0 2, .made 1 3, .failure 1 [0, 1] [2, 3] [2, 3]] s ∧
      ∀ i, List.countP (restartsAt i)
        [.made 0 0, .made 1 1, .startedAll [0, 1], .made 0 2, .made 1 3, .failure 1 [0, 1] [2, 3] [2, 3]] ≤ 1 := by
  have reached : (supervision Nat .allForOne 1).Reach (inOrder below)
      [.made 0 0, .made 1 1, .startedAll [0, 1], .made 0 2, .made 1 3, .failure 1 [0, 1] [2, 3] [2, 3]] _ :=
    Machine.run_reach_rely (supervision Nat .allForOne 1) (inOrder below) [] _ ⟨new .allForOne 1, 0⟩ _ failOnce (.init _ rfl) rfl
      ⟨⟨counter_fresh, nofun⟩, ⟨counter_fresh, nofun⟩, ⟨trivial, nofun⟩,
        ⟨trivial, [0, 1], @List.mem_of_getElem? _ _ 2 _ rfl⟩, trivial⟩
  have once (i : Nat) : List.countP (failsAt i)
      [.made 0 0, .made 1 1, .startedAll [0, 1], .made 0 2, .made 1 3, .failure 1 [0, 1] [2, 3] [2, 3]] ≤ 1 := by
    by_cases here : [0, 1][i]? = some 1 <;> simp [failsAt, here]
  exact ⟨_, reached, (group_restarts_limited_iff below _ _ reached).mpr (Or.inr once)⟩

-- One child fails twice in a row and is restarted twice, where one restart is allowed.
theorem group_restarts_unlimited : ∃ (log : List Report) (s : Supervised Nat),
    (supervision Nat .allForOne 1).Reach (inOrder below) log s ∧ log.countP (restartsAt 0) = 2 ∧
      ¬ ∀ i, log.countP (restartsAt i) ≤ 1 := by
  have reached := Machine.run_reach_rely (supervision Nat .allForOne 1) (inOrder below) [] _ ⟨new .allForOne 1, 0⟩ _
    [.registerChild counter, .startAll, .handleFailure 0, .handleFailure 1] (.init _ rfl) rfl
    ⟨⟨counter_fresh, nofun⟩, ⟨trivial, nofun⟩, ⟨trivial, [0], @List.mem_of_getElem? _ _ 1 _ rfl⟩,
      ⟨trivial, [0], @List.mem_of_getElem? _ _ 1 _ rfl⟩, trivial⟩
  refine ⟨_, _, reached, rfl, ?_⟩
  intro limited
  exact absurd (limited 0) (by decide)

end Actinium.Supervisor
