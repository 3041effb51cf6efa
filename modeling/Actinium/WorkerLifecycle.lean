import Actinium.Lib.Automaton
import Actinium.WorkerSound

set_option autoImplicit false

namespace Actinium

variable {P : Program} {n : Nat}

-- The beginning or the end of a callback on one actor.
inductive Mark where
  | starting
  | started
  | startPanicked
  | handling
  | handled
  | panicked
  | stopping
  | stopped
  | stopPanicked
deriving DecidableEq

inductive Stage where
  | unborn
  | starting
  | idle
  | handling
  | failed
  | stopping
  | ended

namespace Stage

-- The order of the callbacks on an actor: no callback begins in another one,
-- the started hook comes first, and nothing after the stopped hook.
def next : Stage → Mark → Option Stage
  | unborn, .starting => some starting
  | starting, .started => some idle
  | starting, .startPanicked => some ended
  | idle, .handling => some handling
  | handling, .handled => some idle
  | handling, .panicked => some failed
  | idle, .stopping => some stopping
  | failed, .stopping => some stopping
  | stopping, .stopped => some ended
  | stopping, .stopPanicked => some ended
  | _, _ => none

abbrev after (stage : Stage) (marks : List Mark) : Option Stage := Automaton.run next stage marks

theorem after_ended (stage : Stage) (marks : List Mark) (legal : ended.after marks = some stage) : marks = [] := by
  cases marks with
  | nil => rfl
  | cons mark rest => cases mark <;> cases legal

theorem after_stopping (stage : Stage) (marks : List Mark) (legal : stopping.after marks = some stage) :
    marks = [] ∨ marks = [.stopped] ∨ marks = [.stopPanicked] := by
  cases marks with
  | nil => exact Or.inl rfl
  | cons mark rest =>
      cases mark with
      | stopped =>
          rw [after_ended stage rest legal]
          exact Or.inr (Or.inl rfl)
      | stopPanicked =>
          rw [after_ended stage rest legal]
          exact Or.inr (Or.inr rfl)
      | _ => cases legal

-- Nothing follows the stopped hook.
theorem stopping_last (start stage : Stage) (before rest : List Mark)
    (legal : start.after (before ++ Mark.stopping :: rest) = some stage) :
    rest = [] ∨ rest = [.stopped] ∨ rest = [.stopPanicked] := by
  obtain ⟨mid, _, later⟩ := Automaton.run_split next start stage before (.stopping :: rest) legal
  cases mid with
  | idle => exact after_stopping stage rest later
  | failed => exact after_stopping stage rest later
  | _ => cases later

-- Once an actor has begun to start it never does so again.
theorem starting_first (start stage : Stage) (marks : List Mark) (born : start ≠ unborn)
    (legal : start.after marks = some stage) : .starting ∉ marks := by
  induction marks generalizing start with
  | nil => exact List.not_mem_nil
  | cons mark rest ih =>
      cases step : start.next mark with
      | none =>
          rw [after, Automaton.run, step] at legal
          cases legal
      | some mid =>
          rw [after, Automaton.run, step] at legal
          have grown : mid ≠ unborn ∧ mark ≠ .starting := by
            cases start <;> cases mark <;> cases step <;> simp at born ⊢
          intro member
          rcases List.mem_cons.mp member with same | later
          · exact grown.2 same.symm
          · exact ih mid grown.1 legal later

-- An actor that is idle has just started or has just handled a message.
theorem idle_last (start : Stage) (marks : List Mark) (fresh : start ≠ idle) (legal : start.after marks = some idle) :
    marks.getLast? = some .started ∨ marks.getLast? = some .handled := by
  rcases List.eq_nil_or_concat marks with rfl | ⟨earlier, last, rfl⟩
  · cases legal
    exact absurd rfl fresh
  · rw [List.concat_eq_append] at legal ⊢
    obtain ⟨mid, _, step⟩ := Automaton.run_split next start idle earlier [last] legal
    rw [Automaton.run_one] at step
    rw [List.getLast?_concat]
    cases mid <;> cases last <;> cases step <;> simp

-- Callbacks other than the started hook come after it.
theorem started_first (stage : Stage) (marks : List Mark) (legal : unborn.after marks = some stage)
    (later : stage ≠ unborn ∧ stage ≠ starting) :
    marks = [.starting, .startPanicked] ∨ [.starting, .started] <+: marks := by
  cases marks with
  | nil => cases legal; exact absurd rfl later.1
  | cons first rest =>
      cases first with
      | starting =>
          cases rest with
          | nil => cases legal; exact absurd rfl later.2
          | cons second rest =>
              cases second with
              | started => exact Or.inr ⟨rest, rfl⟩
              | startPanicked =>
                  rw [after_ended stage rest legal]
                  exact Or.inl rfl
              | _ => cases legal
      | _ => cases legal

def panics : Mark → Bool
  | .startPanicked => true
  | .panicked => true
  | .stopPanicked => true
  | _ => false

theorem complete_rest (start : Stage) (marks : List Mark) (inside : start = idle ∨ start = handling)
    (legal : start.after marks = some ended) (calm : ∀ mark ∈ marks, panics mark = false) :
    ∃ middle, marks = middle ++ [Mark.stopping, .stopped] ∧ ∀ mark ∈ middle, mark = .handling ∨ mark = .handled := by
  induction marks generalizing start with
  | nil =>
      cases legal
      rcases inside with wrong | wrong <;> cases wrong
  | cons mark rest ih =>
      have others := fun later member => calm later (List.mem_cons_of_mem _ member)
      have step (next : Stage) (again : next = idle ∨ next = handling) (legal : next.after rest = some ended)
          (kind : mark = .handling ∨ mark = .handled) :
          ∃ middle, mark :: rest = middle ++ [Mark.stopping, .stopped] ∧
            ∀ mark ∈ middle, mark = .handling ∨ mark = .handled := by
        obtain ⟨middle, rfl, kinds⟩ := ih next again legal others
        exact ⟨mark :: middle, rfl, List.forall_mem_cons.mpr ⟨kind, kinds⟩⟩
      rcases inside with rfl | rfl
      · cases mark with
        | handling => exact step handling (Or.inr rfl) legal (Or.inl rfl)
        | stopping =>
            rcases after_stopping ended rest legal with rfl | rfl | rfl
            · cases legal
            · exact ⟨[], rfl, nofun⟩
            · cases others .stopPanicked (by simp)
        | _ => cases legal
      · cases mark with
        | handled => exact step idle (Or.inl rfl) legal (Or.inr rfl)
        | panicked => cases calm .panicked (by simp)
        | _ => cases legal

-- The whole life of an actor none of whose callbacks panics.
theorem complete_life (marks : List Mark) (legal : unborn.after marks = some ended)
    (calm : ∀ mark ∈ marks, panics mark = false) :
    ∃ middle, marks = [Mark.starting, .started] ++ middle ++ [Mark.stopping, .stopped] ∧
      ∀ mark ∈ middle, mark = .handling ∨ mark = .handled := by
  rcases started_first ended marks legal ⟨nofun, nofun⟩ with rfl | ⟨rest, rfl⟩
  · cases calm .startPanicked (by simp)
  · obtain ⟨middle, rfl, kinds⟩ := complete_rest idle rest (Or.inl rfl) legal
      fun mark member => calm mark (List.mem_append_right _ member)
    exact ⟨middle, (List.append_assoc ..).symm, kinds⟩

end Stage

def Event.mark (id : ActorId) : Event P → Option Mark
  | .handling envelope => if envelope.actorId = id then some .handling else none
  | .handled envelope _ => if envelope.actorId = id then some .handled else none
  | .panicked envelope => if envelope.actorId = id then some .panicked else none
  | .stopping other _ => if other = id then some .stopping else none
  | .stopped other => if other = id then some .stopped else none
  | .stopPanicked other => if other = id then some .stopPanicked else none
  | _ => none

namespace Log

def marks (log : Log P) (id : ActorId) : List Mark := log.filterMap (Event.mark id)

@[simp] theorem marks_append (a b : Log P) (id : ActorId) : marks (a ++ b) id = a.marks id ++ marks b id :=
  List.filterMap_append

@[simp] theorem marks_dropped (mail : List (Message P)) (id : ActorId) : marks (mail.map Event.dropped) id = [] :=
  filter_map_dropped _ (fun _ => rfl) mail

@[simp] theorem marks_refusals (msgs : List (ControlMsg P)) (id : ActorId) : marks (Worker.refusals msgs) id = [] :=
  filter_map_refusals _ (fun _ => rfl) msgs

end Log

-- The callback a worker is in the middle of, or has just come out of.
def Phase.stageOf (id : ActorId) : Phase P n → Option Stage
  | .handling _ envelope _ _ => if envelope.actorId = id then some .handling else none
  | .handled _ other _ _ => if other = id then some .idle else none
  | .stopping other _ _ _ => if other = id then some .stopping else none
  | _ => none

namespace Worker

-- An actor in the hands of the worker is in the stage the worker is in with
-- it, and an actor in the map is between two callbacks.
def At (w : Worker P n) (id : ActorId) (stage : Stage) : Prop :=
  w.phase.stageOf id = some stage ∨ stage = .idle ∧ ∃ cell, w.actorMap.lookup id = some cell

structure Staged (log : Log P) (w : Worker P n) : Prop where
  here : ∀ id stage, At w id stage → Stage.idle.after (log.marks id) = some stage
  unknown : ∀ id, id ∉ log.known → log.marks id = []
  legal : ∀ id, ∃ stage, Stage.idle.after (log.marks id) = some stage

theorem staged_frame (log events : Log P) (w next : Worker P n) (staged : Staged log w)
    (silent : ∀ id, events.marks id = []) (places : ∀ id stage, At next id stage → At w id stage) :
    Staged (log ++ events) next := by
  refine ⟨?_, ?_, ?_⟩
  · intro id stage at_next
    rw [Log.marks_append, silent, List.append_nil]
    exact staged.here id stage (places id stage at_next)
  · intro id unknown
    rw [Log.known_append, List.mem_append, not_or] at unknown
    rw [Log.marks_append, silent, List.append_nil, staged.unknown id unknown.1]
  · intro id
    rw [Log.marks_append, silent, List.append_nil]
    exact staged.legal id

theorem staged_install (log : Log P) (w next : Worker P n) (staged : Staged log w) (id : ActorId) (ty : P.Ty)
    (fresh : id ∉ log.known) (places : ∀ other stage, At next other stage → other = id ∧ stage = .idle ∨ At w other stage) :
    Staged (log ++ [Event.installed id ty]) next := by
  refine ⟨?_, ?_, ?_⟩
  · intro other stage at_next
    rw [Log.marks_append]
    rcases places other stage at_next with ⟨rfl, rfl⟩ | before
    · rw [staged.unknown other fresh]
      rfl
    · rw [show Log.marks [.installed id ty] other = [] from rfl, List.append_nil]
      exact staged.here other stage before
  · intro other unknown
    rw [Log.known_append, List.mem_append, not_or] at unknown
    rw [Log.marks_append, staged.unknown other unknown.1]
    rfl
  · intro other
    rw [Log.marks_append, show Log.marks [.installed id ty] other = [] from rfl, List.append_nil]
    exact staged.legal other

-- A step that begins or ends callbacks on one actor.
theorem staged_marks (log events : Log P) (w next : Worker P n) (staged : Staged log w) (id : ActorId) (old new : Stage)
    (marks : List Mark) (before : At w id old) (own : events.marks id = marks) (legal : old.after marks = some new)
    (known : id ∈ log.known) (others : ∀ other, other ≠ id → events.marks other = [])
    (places : ∀ other stage, At next other stage → other = id ∧ stage = new ∨ other ≠ id ∧ At w other stage) :
    Staged (log ++ events) next := by
  have moved : Stage.idle.after ((log ++ events).marks id) = some new := by
    rw [Log.marks_append, own, Stage.after, Automaton.run_then Stage.next .idle old _ _ (staged.here id old before)]
    exact legal
  refine ⟨?_, ?_, ?_⟩
  · intro other stage at_next
    rcases places other stage at_next with ⟨rfl, rfl⟩ | ⟨different, same⟩
    · exact moved
    · rw [Log.marks_append, others other different, List.append_nil]
      exact staged.here other stage same
  · intro other unknown
    rw [Log.known_append, List.mem_append, not_or] at unknown
    have different : other ≠ id := fun same => unknown.1 (same ▸ known)
    rw [Log.marks_append, others other different, List.append_nil, staged.unknown other unknown.1]
  · intro other
    by_cases same : other = id
    · rw [same]
      exact ⟨new, moved⟩
    · rw [Log.marks_append, others other same, List.append_nil]
      exact staged.legal other

-- A phase without an actor in hand leaves the places in the map.
theorem at_calm (w next : Worker P n) (calm : ∀ id, next.phase.stageOf id = none)
    (map : ∀ id cell, next.actorMap.lookup id = some cell → w.actorMap.lookup id = some cell) (id : ActorId) (stage : Stage)
    (at_next : At next id stage) : At w id stage := by
  rcases at_next with here | ⟨idle, cell, found⟩
  · rw [calm id] at here
    cases here
  · exact Or.inr ⟨idle, cell, map id cell found⟩

theorem staged_calm (log events : Log P) (w next : Worker P n) (staged : Staged log w) (silent : ∀ id, events.marks id = [])
    (calm : ∀ id, next.phase.stageOf id = none)
    (map : ∀ id cell, next.actorMap.lookup id = some cell → w.actorMap.lookup id = some cell) : Staged (log ++ events) next :=
  staged_frame log events w next staged silent (at_calm w next calm map)

-- An actor in hand is not in the map.
theorem at_hand (w next : Worker P n) (id : ActorId) (new : Stage)
    (phase : ∀ other, next.phase.stageOf other = if id = other then some new else none)
    (absent : next.actorMap.lookup id = none)
    (map : ∀ other cell, next.actorMap.lookup other = some cell → w.actorMap.lookup other = some cell) (other : ActorId)
    (stage : Stage) (at_next : At next other stage) : other = id ∧ stage = new ∨ other ≠ id ∧ At w other stage := by
  rcases at_next with here | ⟨idle, held, found⟩
  · rw [phase other] at here
    split at here
    · rename_i same
      cases here
      exact Or.inl ⟨same.symm, rfl⟩
    · cases here
  · refine Or.inr ⟨?_, Or.inr ⟨idle, held, map other held found⟩⟩
    intro same
    rw [same, absent] at found
    cases found

theorem at_install (w next : Worker P n) (id : ActorId) (cell : ActorCell P)
    (phase : ∀ other, next.phase.stageOf other = w.phase.stageOf other) (map : next.actorMap = w.actorMap.insert id cell)
    (other : ActorId) (stage : Stage) (at_next : At next other stage) : other = id ∧ stage = .idle ∨ At w other stage := by
  rcases at_next with here | ⟨idle, held, found⟩
  · exact Or.inr (Or.inl (phase other ▸ here))
  · by_cases same : other = id
    · exact Or.inl ⟨same, idle⟩
    · rw [map, AList.lookup_insert_ne same] at found
      exact Or.inr (Or.inr ⟨idle, held, found⟩)

-- The stopped hook begins.
theorem staged_stop (log events : Log P) (w next : Worker P n) (staged : Staged log w) (id : ActorId) (actor : AnyBox P)
    (old : Stage) (cell : ActorCell P) (ctx : Context (Fin n)) (after : After) (before : At w id old)
    (legal : old.after (events.marks id ++ [Mark.stopping]) = some .stopping) (known : id ∈ log.known)
    (others : ∀ other, other ≠ id → events.marks other = []) (phase : next.phase = .stopping id cell ctx after)
    (absent : next.actorMap.lookup id = none)
    (map : ∀ other cell, next.actorMap.lookup other = some cell → w.actorMap.lookup other = some cell) :
    Staged (log ++ (events ++ [Event.stopping id actor])) next := by
  refine staged_marks log _ w next staged id old .stopping _ before (Log.marks_append ..) ?_ known ?_ ?_
  · simpa [Log.marks, Event.mark] using legal
  · intro other different
    rw [Log.marks_append, others other different]
    simp [Log.marks, Event.mark, Ne.symm different]
  · exact at_hand w next id .stopping (fun other => by rw [phase]; rfl) absent map

theorem staged_finish (log events : Log P) (w next : Worker P n) (staged : Staged log w) (placed : Placed log w) (id : ActorId)
    (cell : ActorCell P) (ctx : Context (Fin n)) (after : After) (here : w.phase = .stopping id cell ctx after) (mark : Mark)
    (ends : mark = .stopped ∨ mark = .stopPanicked) (own : events.marks id = [mark])
    (others : ∀ other, other ≠ id → events.marks other = []) (calm : ∀ id, next.phase.stageOf id = none)
    (map : next.actorMap = w.actorMap) : Staged (log ++ events) next := by
  have gone := (placed.stopping id cell ctx after here).1
  refine staged_marks log events w next staged id .stopping .ended [mark] ?_ own ?_ (placed.gone id gone) others ?_
  · exact Or.inl (by simp [here, Phase.stageOf])
  · rcases ends with rfl | rfl <;> rfl
  · intro other stage at_next
    rcases at_next with wrong | ⟨idle, held, found⟩
    · rw [calm other] at wrong
      cases wrong
    · rw [map] at found
      refine Or.inr ⟨?_, Or.inr ⟨idle, held, found⟩⟩
      intro same
      exact (placed.mapped other held found).2.2 (same ▸ gone)

theorem staged_step (log events : Log P) (w next : Worker P n) (act : Act P) (staged : Staged log w) (placed : Placed log w)
    (waiting : Waiting log w) (kept : promised log w act) (moves : Moves w act events next) :
    Staged (log ++ events) next := by
  have same (id : ActorId) (cell : ActorCell P) (found : w.actorMap.lookup id = some cell) :
      w.actorMap.lookup id = some cell := found
  have erased (gone id : ActorId) (cell : ActorCell P) (found : (w.actorMap.erase gone).lookup id = some cell) :
      w.actorMap.lookup id = some cell := by
    by_cases equal : id = gone
    · rw [equal, AList.lookup_erase] at found
      cases found
    · rwa [AList.lookup_erase_ne equal] at found
  have installed (id : ActorId) (cell : ActorCell P) (found : w.actorMap.lookup id = some cell) : id ∈ log.known :=
    known_of_installed log _ _ (placed.mapped id cell found).1
  cases moves with
  | post => exact staged_frame _ _ w _ staged (fun _ => rfl) (fun _ _ place => place)
  | postControl msg => exact staged_frame _ _ w _ staged (fun _ => by cases msg <;> rfl) (fun _ _ place => place)
  | direct id actor onStop =>
      exact staged_install log w _ staged id actor.ty kept.2.1 (at_install w _ id ⟨actor, onStop⟩ (fun _ => rfl) rfl)
  | stopHandler turn envelope cell ctx here =>
      refine staged_frame _ _ w _ staged (fun _ => rfl) ?_
      rintro id stage (phase | mapped)
      · exact Or.inl (by rw [here]; exact phase)
      · exact Or.inr mapped
  | stopHook id cell ctx after here =>
      refine staged_frame _ _ w _ staged (fun _ => rfl) ?_
      rintro other stage (phase | mapped)
      · exact Or.inl (by rw [here]; exact phase)
      · exact Or.inr mapped
  | pollSpawn senders id actor onStop rest here queue =>
      exact staged_install log w _ staged id actor.ty (waiting.queued id actor onStop (by simp [queue])).2.2
        (at_install w _ id ⟨actor, onStop⟩ (fun _ => by rw [here]; rfl) rfl)
  | drain senders envelope rest here queue => exact staged_frame _ _ w _ staged (fun _ => rfl) (fun _ _ place => place)
  | handle senders turn popped scheduler envelope cell here ready dequeued present typed =>
      refine staged_marks log _ w _ staged envelope.actorId .idle .handling [.handling] (Or.inr ⟨rfl, cell, present⟩)
        (by simp [Log.marks, Event.mark]) rfl (installed _ cell present) ?_ ?_
      · intro other different
        simp [Log.marks, Event.mark, Ne.symm different]
      · exact at_hand w _ envelope.actorId .handling (fun _ => rfl) (AList.lookup_erase _ _) (erased _)
  | mismatch senders turn popped scheduler envelope cell here ready dequeued present untyped =>
      obtain ⟨_, typed, _⟩ := placed.mapped _ cell present
      rw [begin_stop_events w _ cell _ typed]
      exact staged_stop log [.mismatched envelope] w _ staged _ _ .idle cell _ _ (Or.inr ⟨rfl, cell, present⟩) rfl
        (installed _ cell present) (fun _ _ => rfl) rfl (AList.lookup_erase _ _) (erased _)
  | handlerReturn senders turn envelope cell ctx val reply here =>
      obtain ⟨member, _, _, absent⟩ := placed.taken envelope.actorId cell (by rw [here]; rfl)
      refine staged_marks log _ w _ staged envelope.actorId .handling .idle [.handled] ?_ (by simp [Log.marks, Event.mark]) rfl
        (known_of_installed log _ _ member) ?_ ?_
      · exact Or.inl (by simp [here, Phase.stageOf])
      · intro other different
        simp [Log.marks, Event.mark, Ne.symm different]
      · exact at_hand w _ envelope.actorId .idle (fun _ => rfl) absent same
  | handlerPanic senders turn envelope cell ctx val here =>
      obtain ⟨member, typed, _, absent⟩ := placed.taken envelope.actorId cell (by rw [here]; rfl)
      rw [begin_stop_events w _ (cell.write val) _ typed]
      refine staged_stop log [.panicked envelope] w _ staged _ _ .handling (cell.write val) _ _ ?_ ?_
        (known_of_installed log _ _ member) ?_ rfl absent same
      · exact Or.inl (by simp [here, Phase.stageOf])
      · simp [Log.marks, Event.mark, Stage.after, Automaton.run, Stage.next]
      · intro other different
        simp [Log.marks, Event.mark, Ne.symm different]
  | putBack senders turn id cell here =>
      refine staged_frame _ _ w _ staged (fun _ => rfl) ?_
      rintro other stage (wrong | ⟨idle, held, found⟩)
      · cases wrong
      · by_cases equal : other = id
        · exact Or.inl (by simp [here, Phase.stageOf, equal, idle])
        · exact Or.inr ⟨idle, held, by rwa [endTurn, AList.lookup_insert_ne equal] at found⟩
  | stop senders turn id cell here =>
      obtain ⟨member, typed, _, absent⟩ := placed.taken id cell (by rw [here]; rfl)
      rw [begin_stop_events w _ cell _ typed]
      refine staged_stop log [] w _ staged id _ .idle cell _ _ ?_ rfl (known_of_installed log _ _ member) (fun _ _ => rfl)
        rfl absent same
      exact Or.inl (by simp [here, Phase.stageOf])
  | hookReturn senders id cell ctx after here typed =>
      refine staged_finish log _ w _ staged placed id cell ctx after here .stopped (Or.inl rfl) ?_ ?_ ?_ (finish_stop_map w id after)
      · rw [finish_stop_events, ← List.singleton_append, Log.marks_append, Log.marks_dropped]
        simp [Log.marks, Event.mark]
      · intro other different
        rw [finish_stop_events, ← List.singleton_append, Log.marks_append, Log.marks_dropped]
        simp [Log.marks, Event.mark, Ne.symm different]
      · intro other
        cases after <;> rfl
  | hookSkip senders id cell ctx after here untyped => exact absurd (placed.stopping id cell ctx after here).2.symm untyped
  | hookPanic senders id cell ctx after here typed =>
      refine staged_finish log _ w _ staged placed id cell ctx after here .stopPanicked (Or.inr rfl) ?_ ?_ (fun _ => rfl) rfl
      · simp [Log.marks, Event.mark]
      · intro other different
        simp [Log.marks, Event.mark, Ne.symm different]
  | stopGone senders id ids here absent =>
      exact staged_calm _ _ w _ staged (fun _ => Log.marks_dropped _ _) (fun _ => rfl) same
  | stopNext senders id ids cell here present =>
      obtain ⟨_, typed, _⟩ := placed.mapped id cell present
      rw [begin_stop_events w _ cell _ typed]
      exact staged_stop log [] w _ staged id _ .idle cell _ _ (Or.inr ⟨rfl, cell, present⟩) rfl (installed id cell present)
        (fun _ _ => rfl) rfl (AList.lookup_erase _ _) (erased _)
  | dropControl => exact staged_calm _ _ w _ staged (fun _ => Log.marks_refusals _ _) (fun _ => rfl) same
  | dropMsgs => exact staged_calm _ _ w _ staged (fun _ => Log.marks_dropped _ _) (fun _ => rfl) same
  | dropScheduler => exact staged_calm _ _ w _ staged (fun _ => Log.marks_dropped _ _) (fun _ => rfl) same
  | _ => exact staged_calm _ _ w _ staged (fun _ => rfl) (fun _ => rfl) same

theorem reach_staged (workerIdx : Fin n) (log : Log P) (w : Worker P n) (reached : Reach workerIdx log w) : Staged log w := by
  refine Machine.reach_invariant (machine P workerIdx) promised Staged ?_ ?_ log w reached
  · intro w start
    rw [start]
    refine ⟨?_, fun _ _ => rfl, fun _ => ⟨.idle, rfl⟩⟩
    rintro id stage (wrong | ⟨idle, _, _⟩)
    · cases wrong
    · rw [idle]
      rfl
  · intro log w act next events before staged kept taken
    have sound := reach_sound workerIdx log w before
    exact staged_step log events w next act staged sound.placed sound.waiting kept (step_moves w next act events taken)

end Worker

end Actinium
