import Actinium.ActorSystemSound

set_option autoImplicit false

namespace Actinium

variable {P : Program}

-- No callback panics.
def SystemAction.quiet : SystemAction P → Bool
  | .startedPanic => false
  | .handlerPanic _ => false
  | .hookPanic => false
  | _ => true

-- The callback that runs, if it runs on this actor.
def SystemPhase.stageOf (id : ActorId) : SystemPhase P → Option Stage
  | .starting other _ _ _ => if other = id then some .starting else none
  | .handling _ envelope _ _ => if envelope.actorId = id then some .handling else none
  | .stopping other _ _ _ => if other = id then some .stopping else none
  | _ => none

def SystemPhase.hooks : SystemPhase P → Nat
  | .stopping _ _ _ _ => 1
  | _ => 0

-- The loop goes on only because its condition has not been looked at again, or
-- is one of a run_once called after run.
def Loop.left (s : ActorSystem P) : Loop → Prop
  | .run => s.running = false
  | .runOnce _ => s.tx = false

def Resume.left (s : ActorSystem P) : Resume → Prop
  | .loop around => around.left s
  | .stopAll _ => True

namespace ActorSystem

def quiet : Machine.Rely (ActorSystem P) (SystemAction P) (SystemEntry P) := fun _ _ action => action.quiet = true

theorem no_mismatch (log : SystemTrace P) (s : ActorSystem P) (typed : Typed log s) (envelope : Message P)
    (rest : List (Message P)) (queue : s.rx.queue = envelope :: rest) (cell : ActorCell P)
    (present : s.actors.lookup envelope.actorId = some cell) : cell.actor.ty = envelope.dispatch.ty := by
  have sent := typed.mail envelope (by rw [queue]; exact List.mem_cons_self)
  exact typed_unique log s typed envelope.actorId _ _ (typed.cells _ cell present).1 sent

def At (s : ActorSystem P) (id : ActorId) (stage : Stage) : Prop :=
  s.phase.stageOf id = some stage ∨ s.phase.stageOf id = none ∧ stage = .idle ∧ id ∈ s.actors

-- An actor is in the stage that the running callback or the map says. Other
-- ids have never been used, or their actor has been through its stopped hook.
structure Lived (log : SystemTrace P) (s : ActorSystem P) : Prop where
  here : ∀ id stage, s.At id stage → Stage.unborn.after (log.marks id) = some stage
  gone : s.phase ≠ .ended → ∀ id, (∀ stage, ¬ s.At id stage) →
    log.marks id = [] ∨ Stage.unborn.after (log.marks id) = some .ended
  fresh : ∀ id, s.nextId ≤ id → log.marks id = []
  legal : ∀ id, ∃ stage, Stage.unborn.after (log.marks id) = some stage

theorem lived_frame (log entries : SystemTrace P) (s next : ActorSystem P) (lived : Lived log s)
    (silent : ∀ id, entries.marks id = []) (ids : s.nextId ≤ next.nextId)
    (places : ∀ id stage, next.At id stage ↔ s.At id stage) (alive : next.phase ≠ .ended → s.phase ≠ .ended) :
    Lived (log ++ entries) next := by
  have same (id : ActorId) : (log ++ entries).marks id = log.marks id := by simp [silent]
  refine ⟨?_, ?_, ?_, ?_⟩
  · intro id stage stands
    rw [same]
    exact lived.here id stage ((places id stage).mp stands)
  · intro living id nowhere
    rw [same]
    exact lived.gone (alive living) id fun stage stands => nowhere stage ((places id stage).mpr stands)
  · intro id bound
    rw [same]
    exact lived.fresh id (Nat.le_trans ids bound)
  · intro id
    rw [same]
    exact lived.legal id

-- A step that begins or ends callbacks on one actor.
theorem lived_marks (log entries : SystemTrace P) (s next : ActorSystem P) (lived : Lived log s) (id : ActorId) (new : Stage)
    (moved : Stage.unborn.after (log.marks id ++ entries.marks id) = some new)
    (others : ∀ other, other ≠ id → entries.marks other = []) (own : ∀ stage, next.At id stage → stage = new)
    (left : (∀ stage, ¬ next.At id stage) → new = .ended)
    (places : ∀ other stage, other ≠ id → (next.At other stage ↔ s.At other stage)) (bound : id < next.nextId)
    (ids : s.nextId ≤ next.nextId) (alive : s.phase ≠ .ended) : Lived (log ++ entries) next := by
  have same (other : ActorId) (different : other ≠ id) : (log ++ entries).marks other = log.marks other := by
    simp [others other different]
  refine ⟨?_, ?_, ?_, ?_⟩
  · intro other stage stands
    by_cases equal : other = id
    · subst equal
      rw [SystemTrace.marks_append, own stage stands]
      exact moved
    · rw [same other equal]
      exact lived.here other stage ((places other stage equal).mp stands)
  · intro _ other nowhere
    by_cases equal : other = id
    · subst equal
      right
      rw [SystemTrace.marks_append, ← left nowhere]
      exact moved
    · rw [same other equal]
      exact lived.gone alive other fun stage stands => nowhere stage ((places other stage equal).mpr stands)
  · intro other high
    have different : other ≠ id := by
      intro equal
      rw [equal] at high
      exact Nat.not_lt_of_le high bound
    rw [same other different]
    exact lived.fresh other (Nat.le_trans ids high)
  · intro other
    by_cases equal : other = id
    · rw [equal, SystemTrace.marks_append]
      exact ⟨new, moved⟩
    · rw [same other equal]
      exact lived.legal other

theorem moved_from (log : SystemTrace P) (s : ActorSystem P) (lived : Lived log s) (id : ActorId) (old new : Stage)
    (marks : List Mark) (stands : s.At id old) (legal : old.after marks = some new) :
    Stage.unborn.after (log.marks id ++ marks) = some new := by
  rw [Stage.after, Automaton.run_then Stage.next .unborn old _ _ (lived.here id old stands)]
  exact legal

theorem lived_step (log entries : SystemTrace P) (s next : ActorSystem P) (action : SystemAction P) (typed : Typed log s)
    (lived : Lived log s) (quiet : action.quiet = true) (moves : Moves s next.sends action entries next) :
    Lived (log ++ entries) next := by
  have phase := typed.phase
  generalize next.sends = sends at moves
  cases moves with
  | startedPanic => cases quiet
  | handlerPanic => cases quiet
  | hookPanic => cases quiet
  | mismatch loop envelope rest cell here queue present untyped =>
      exact absurd (no_mismatch log s typed envelope rest queue cell present) untyped
  | hookSkip id cell ctx resume here untyped =>
      simp only [PhaseTyped, here] at phase
      exact absurd phase.1.2 untyped
  | spawn ty val here sender =>
      have nowhere : log.marks s.nextId = [] := lived.fresh _ (Nat.le_refl _)
      have unused : s.nextId ∉ s.actors := by
        intro present
        obtain ⟨cell, found⟩ := Option.isSome_iff_exists.mp (AList.lookup_isSome.mpr present)
        exact Nat.lt_irrefl _ (typed.ids _ (known_of_installed _ _ _ (typed.cells _ cell found).1))
      refine lived_marks log _ s _ lived s.nextId .starting ?_ ?_ ?_ ?_ ?_ (Nat.lt_succ_self _) (Nat.le_succ _) (by simp [here])
      · rw [nowhere]
        simp [SystemTrace.marks, SystemEntry.mark, Stage.next]
      · intro other different
        simp [SystemTrace.marks, SystemEntry.mark, Ne.symm different]
      · intro stage stands
        simpa [At, SystemPhase.stageOf, eq_comm] using stands
      · intro nowhere
        exact absurd (Or.inl (by simp [SystemPhase.stageOf])) (nowhere .starting)
      · intro other stage different
        simp [At, SystemPhase.stageOf, here, Ne.symm different]
  | startedReturn id ty old val ctx here =>
      simp only [PhaseTyped, here] at phase
      refine lived_marks log _ s _ lived id .idle (moved_from log s lived id .starting .idle _ ?_ ?_) ?_ ?_ ?_ ?_ phase.1
        (Nat.le_refl _) (by simp [here])
      · exact Or.inl (by simp [SystemPhase.stageOf, here])
      · simp [SystemTrace.marks, SystemEntry.mark, Event.mark, Stage.next, List.filterMap_cons]
      · intro other different
        simp [SystemTrace.marks, SystemEntry.mark, Event.mark, Ne.symm different]
      · intro stage stands
        simpa [At, SystemPhase.stageOf] using stands
      · intro nowhere
        exact absurd (Or.inr (by simp [SystemPhase.stageOf])) (nowhere .idle)
      · intro other stage different
        simp [At, SystemPhase.stageOf, here, different, Ne.symm different]
  | skip loop envelope rest here queue absent =>
      exact lived_frame log _ s _ lived (fun _ => rfl) (Nat.le_refl _) (by simp [At, SystemPhase.stageOf, here, withMail])
        (by simp [here])
  | handle loop envelope rest cell here queue present right =>
      have inside : envelope.actorId ∈ s.actors := AList.lookup_isSome.mp (by simp [present])
      refine lived_marks log _ s _ lived envelope.actorId .handling (moved_from log s lived _ .idle .handling _ ?_ ?_) ?_ ?_ ?_ ?_
        (typed.ids _ (known_of_installed _ _ _ (typed.cells _ cell present).1)) (Nat.le_refl _) (by simp [here])
      · exact Or.inr ⟨by simp [SystemPhase.stageOf, here], rfl, inside⟩
      · simp [SystemTrace.marks, SystemEntry.mark, Event.mark, Stage.next]
      · intro other different
        simp [SystemTrace.marks, SystemEntry.mark, Event.mark, Ne.symm different]
      · intro stage stands
        simpa [At, SystemPhase.stageOf, eq_comm] using stands
      · intro nowhere
        exact absurd (Or.inl (by simp [SystemPhase.stageOf])) (nowhere .handling)
      · intro other stage different
        simp [At, SystemPhase.stageOf, here, withMail, Ne.symm different]
  | handled loop envelope cell ctx val reply here running =>
      simp only [PhaseTyped, here] at phase
      refine lived_marks log _ s _ lived envelope.actorId .idle (moved_from log s lived _ .handling .idle _ ?_ ?_) ?_ ?_ ?_ ?_
        (typed.ids _ (known_of_installed _ _ _ phase.1.1)) (Nat.le_refl _) (by simp [here])
      · exact Or.inl (by simp [SystemPhase.stageOf, here])
      · simp [SystemTrace.marks, SystemEntry.mark, Event.mark, Stage.next]
      · intro other different
        simp [SystemTrace.marks, SystemEntry.mark, Event.mark, Ne.symm different]
      · intro stage stands
        simpa [At, SystemPhase.stageOf] using stands
      · intro nowhere
        exact absurd (Or.inr (by simp [SystemPhase.stageOf])) (nowhere .idle)
      · intro other stage different
        simp [At, SystemPhase.stageOf, here, different, Ne.symm different]
  | handledStop loop envelope cell ctx val reply here stops =>
      simp only [PhaseTyped, here] at phase
      rw [on_stop_typed _ (cell.write val) phase.1.2]
      refine lived_marks log _ s _ lived envelope.actorId .stopping (moved_from log s lived _ .handling .stopping _ ?_ ?_) ?_ ?_ ?_ ?_
        (typed.ids _ (known_of_installed _ _ _ phase.1.1)) (Nat.le_refl _) (by simp [here])
      · exact Or.inl (by simp [SystemPhase.stageOf, here])
      · simp [SystemTrace.marks, SystemEntry.mark, Event.mark, Automaton.run, Stage.next]
      · intro other different
        simp [SystemTrace.marks, SystemEntry.mark, Event.mark, Ne.symm different]
      · intro stage stands
        simpa [At, SystemPhase.stageOf, eq_comm] using stands
      · intro nowhere
        exact absurd (Or.inl (by simp [SystemPhase.stageOf])) (nowhere .stopping)
      · intro other stage different
        simp [At, SystemPhase.stageOf, here, different, Ne.symm different]
  | stopNext id ids cell here present =>
      have holds := typed.cells id cell present
      have inside : id ∈ s.actors := AList.lookup_isSome.mp (by simp [present])
      rw [on_stop_typed _ cell holds.2]
      refine lived_marks log _ s _ lived id .stopping (moved_from log s lived _ .idle .stopping _ ?_ ?_) ?_ ?_ ?_ ?_
        (typed.ids _ (known_of_installed _ _ _ holds.1)) (Nat.le_refl _) (by simp [here])
      · exact Or.inr ⟨by simp [SystemPhase.stageOf, here], rfl, inside⟩
      · simp [SystemTrace.marks, SystemEntry.mark, Event.mark, Stage.next]
      · intro other different
        simp [SystemTrace.marks, SystemEntry.mark, Event.mark, Ne.symm different]
      · intro stage stands
        simpa [At, SystemPhase.stageOf, eq_comm] using stands
      · intro nowhere
        exact absurd (Or.inl (by simp [SystemPhase.stageOf])) (nowhere .stopping)
      · intro other stage different
        simp [At, SystemPhase.stageOf, here, different, Ne.symm different]
  | hookReturn id cell ctx resume here right =>
      simp only [PhaseTyped, here] at phase
      have absent : id ∉ s.actors := AList.lookup_eq_none.mp phase.2
      refine lived_marks log _ s _ lived id .ended (moved_from log s lived _ .stopping .ended _ ?_ ?_) ?_ ?_ ?_ ?_
        (typed.ids _ (known_of_installed _ _ _ phase.1.1)) (Nat.le_refl _) (by simp [here])
      · exact Or.inl (by simp [SystemPhase.stageOf, here])
      · simp [SystemTrace.marks, SystemEntry.mark, Event.mark, Stage.next]
      · intro other different
        simp [SystemTrace.marks, SystemEntry.mark, Event.mark, Ne.symm different]
      · intro stage stands
        simp [At, SystemPhase.stageOf, absent] at stands
      · exact fun _ => rfl
      · intro other stage different
        simp [At, SystemPhase.stageOf, here, Ne.symm different]
  | stopStarted id ty val ctx here =>
      exact lived_frame log _ s _ lived (fun _ => rfl) (Nat.le_refl _) (by simp [At, SystemPhase.stageOf, here]) (by simp [here])
  | stopHandler loop envelope cell ctx here =>
      exact lived_frame log _ s _ lived (fun _ => rfl) (Nat.le_refl _) (by simp [At, SystemPhase.stageOf, here]) (by simp [here])
  | stopHook id cell ctx resume here =>
      exact lived_frame log _ s _ lived (fun _ => rfl) (Nat.le_refl _) (by simp [At, SystemPhase.stageOf, here]) (by simp [here])
  | dropSystem here =>
      have same (id : ActorId) : (log ++ s.rx.queue.map fun envelope => SystemEntry.at (.dropped envelope)).marks id = log.marks id := by
        simp [SystemTrace.marks, SystemEntry.mark, Event.mark, List.filterMap_map, Function.comp_def]
      refine ⟨?_, fun living => absurd rfl living, ?_, ?_⟩
      · intro id stage stands
        simp [At, SystemPhase.stageOf] at stands
      · intro id bound
        rw [same]
        exact lived.fresh id bound
      · intro id
        rw [same]
        exact lived.legal id
  | cloneAddr => exact lived_frame log _ s _ lived (fun _ => rfl) (Nat.le_refl _) (fun _ _ => Iff.rfl) id
  | dropAddr => exact lived_frame log _ s _ lived (fun _ => rfl) (Nat.le_refl _) (fun _ _ => Iff.rfl) id
  | post => exact lived_frame log _ s _ lived (fun _ => rfl) (Nat.le_refl _) (fun _ _ => Iff.rfl) id
  | postFailed => exact lived_frame log _ s _ lived (fun _ => rfl) (Nat.le_refl _) (fun _ _ => Iff.rfl) id
  | recvResult => exact lived_frame log _ s _ lived (fun _ => rfl) (Nat.le_refl _) (fun _ _ => Iff.rfl) id
  | spawnPanic => exact lived_frame log _ s _ lived (fun _ => rfl) (Nat.le_succ _) (fun _ _ => Iff.rfl) id
  | disconnected => exact lived_frame log _ s _ lived (fun _ => rfl) (Nat.le_refl _) (fun _ _ => Iff.rfl) id
  | shutdown => exact lived_frame log _ s _ lived (fun _ => rfl) (Nat.le_refl _) (fun _ _ => Iff.rfl) id
  | run here =>
      exact lived_frame log _ s _ lived (fun _ => rfl) (Nat.le_refl _) (by simp [At, SystemPhase.stageOf, here]) (by simp [here])
  | runOnce here =>
      exact lived_frame log _ s _ lived (fun _ => rfl) (Nat.le_refl _) (by simp [At, SystemPhase.stageOf, here]) (by simp [here])
  | ranOnce count here empty =>
      exact lived_frame log _ s _ lived (fun _ => rfl) (Nat.le_refl _) (by simp [At, SystemPhase.stageOf, here]) (by simp [here])
  | takeSnapshot ids here left keys =>
      exact lived_frame log _ s _ lived (fun _ => rfl) (Nat.le_refl _) (by simp [At, SystemPhase.stageOf, here]) (by simp [here])
  | returns here =>
      exact lived_frame log _ s _ lived (fun _ => rfl) (Nat.le_refl _) (by simp [At, SystemPhase.stageOf, here]) (by simp [here])
  | stopGone id ids here absent =>
      exact lived_frame log _ s _ lived (fun _ => rfl) (Nat.le_refl _) (by simp [At, SystemPhase.stageOf, here]) (by simp [here])

-- The loop of run has found the channel disconnected.
def Closed (s : ActorSystem P) : Prop :=
  match s.phase with
  | .outside => s.tx = false
  | .starting _ _ _ _ => s.tx = false
  | .within resume => resume.left s
  | .handling loop _ _ _ => loop.left s
  | .stopping _ _ _ resume => resume.left s
  | .ended => False

structure Shut (s : ActorSystem P) : Prop where
  sender : ∀ id ty val ctx, s.phase = .starting id ty val ctx → s.tx = true
  silent : Closed s → s.addrs = [] ∧ s.rx.queue = [] ∧ s.tx = false

theorem counted_left (s : ActorSystem P) (loop : Loop) : loop.counted.left s = loop.left s := by
  cases loop <;> rfl

theorem left_same (s next : ActorSystem P) (resume : Resume) (running : next.running = s.running) (tx : next.tx = s.tx) :
    resume.left next ↔ resume.left s := by
  cases resume with
  | loop around => cases around <;> simp [Resume.left, Loop.left, running, tx]
  | stopAll ids => rfl

theorem shut_frame (s next : ActorSystem P) (shut : Shut s) (started : ∀ id ty val ctx, next.phase ≠ .starting id ty val ctx)
    (closed : Closed next → Closed s) (addrs : next.addrs = s.addrs) (queue : next.rx.queue = s.rx.queue)
    (tx : next.tx = s.tx) : Shut next := by
  refine ⟨fun id ty val ctx here => absurd here (started id ty val ctx), ?_⟩
  intro ends
  rw [addrs, queue, tx]
  exact shut.silent (closed ends)

theorem shut_step (log entries : SystemTrace P) (s next : ActorSystem P) (action : SystemAction P) (typed : Typed log s)
    (shut : Shut s) (quiet : action.quiet = true) (moves : Moves s next.sends action entries next) : Shut next := by
  have used (addr : Addr P 1) (i : Nat) (found : s.addrs[i]? = some addr) : ¬ Closed s := by
    intro ends
    rw [(shut.silent ends).1] at found
    cases found
  have taken (loop : Loop) (here : s.phase = .within (.loop loop)) (envelope : Message P) (rest : List (Message P))
      (queue : s.rx.queue = envelope :: rest) : ¬ loop.left s := by
    intro ends
    rw [(shut.silent (by simp only [Closed, here]; exact ends)).2.1] at queue
    cases queue
  generalize next.sends = sends at moves
  cases moves with
  | startedPanic => cases quiet
  | handlerPanic => cases quiet
  | hookPanic => cases quiet
  | mismatch loop envelope rest cell here queue present untyped =>
      exact absurd (no_mismatch log s typed envelope rest queue cell present) untyped
  | postFailed => exact ⟨shut.sender, shut.silent⟩
  | recvResult => exact ⟨shut.sender, shut.silent⟩
  | spawnPanic ty val here gone => exact ⟨shut.sender, shut.silent⟩
  | cloneAddr i addr found => exact ⟨shut.sender, fun ends => absurd ends (used addr i found)⟩
  | post blocking i msg addr found alive => exact ⟨shut.sender, fun ends => absurd ends (used addr i found)⟩
  | dropAddr i =>
      refine ⟨shut.sender, ?_⟩
      intro ends
      obtain ⟨noAddrs, others⟩ := shut.silent ends
      exact ⟨by simp [noAddrs], others⟩
  | spawn ty val here sender =>
      refine ⟨fun _ _ _ _ _ => sender, ?_⟩
      intro ends
      exact absurd ends (by simp [Closed, sender])
  | startedReturn id ty old val ctx here =>
      refine ⟨by simp, ?_⟩
      intro ends
      exact absurd ends (by simp [Closed, shut.sender _ _ _ _ here])
  | stopStarted id ty val ctx here =>
      refine ⟨fun _ _ _ _ _ => shut.sender _ _ _ _ here, ?_⟩
      intro ends
      exact absurd ends (by simp [Closed, shut.sender _ _ _ _ here])
  | run here =>
      refine ⟨by simp, ?_⟩
      intro ends
      cases ends
  | disconnected here empty none =>
      refine ⟨shut.sender, ?_⟩
      intro _
      unfold senders at none
      cases sender : s.tx with
      | true => simp [sender] at none
      | false => exact ⟨List.length_eq_zero_iff.mp (Nat.eq_zero_of_add_eq_zero_right none), empty, rfl⟩
  | skip loop envelope rest here queue absent =>
      refine ⟨by simp, ?_⟩
      intro ends
      refine absurd ?_ (taken loop here envelope rest queue)
      rw [← counted_left]
      cases loop <;> exact ends
  | handle loop envelope rest cell here queue present right =>
      refine ⟨by simp, ?_⟩
      intro ends
      refine absurd ?_ (taken loop here envelope rest queue)
      rw [← counted_left]
      cases loop <;> exact ends
  | runOnce here => exact shut_frame s _ shut (by simp) (by simp [Closed, here, Resume.left, Loop.left]) rfl rfl rfl
  | ranOnce count here => exact shut_frame s _ shut (by simp) (by simp [Closed, here, Resume.left, Loop.left]) rfl rfl rfl
  | stopHandler loop envelope cell ctx here =>
      exact shut_frame s _ shut (by simp) (by simp only [Closed, here]; exact (left_same s _ (.loop loop) rfl rfl).mp) rfl rfl rfl
  | handled loop envelope cell ctx val reply here =>
      exact shut_frame s _ shut (by simp) (by simp only [Closed, here]; exact (left_same s _ (.loop loop) rfl rfl).mp) rfl rfl rfl
  | handledStop loop envelope cell ctx val reply here =>
      exact shut_frame s _ shut (by simp) (by simp only [Closed, here]; exact (left_same s _ (.loop loop) rfl rfl).mp) rfl rfl rfl
  | stopHook id cell ctx resume here =>
      exact shut_frame s _ shut (by simp) (by simp only [Closed, here]; exact (left_same s _ resume rfl rfl).mp) rfl rfl rfl
  | hookReturn id cell ctx resume here right =>
      exact shut_frame s _ shut (by simp) (by simp only [Closed, here]; exact (left_same s _ resume rfl rfl).mp) rfl rfl rfl
  | hookSkip id cell ctx resume here untyped =>
      exact shut_frame s _ shut (by simp) (by simp only [Closed, here]; exact (left_same s _ resume rfl rfl).mp) rfl rfl rfl
  | takeSnapshot ids here left keys => exact shut_frame s _ shut (by simp) (by simp [Closed, here, Resume.left, Loop.left, left]) rfl rfl rfl
  | returns here => exact shut_frame s _ shut (by simp) (by simp [Closed, here, Resume.left]) rfl rfl rfl
  | stopGone id ids here absent => exact shut_frame s _ shut (by simp) (by simp [Closed, here, Resume.left]) rfl rfl rfl
  | stopNext id ids cell here present => exact shut_frame s _ shut (by simp) (by simp [Closed, here, Resume.left]) rfl rfl rfl
  | shutdown here => exact shut_frame s _ shut (by simp [here]) (by simp [Closed, here]) rfl rfl rfl
  | dropSystem here =>
      refine ⟨by simp, ?_⟩
      intro ends
      cases ends

-- Every actor ever installed is in the map, or its stopped hook has begun.
structure Counted (log : SystemTrace P) (s : ActorSystem P) : Prop where
  actors : s.phase ≠ .ended → s.actorCount + log.events.gone.length = log.events.installed.length
  hooks : log.events.gone.length = log.events.stopped.length + s.phase.hooks

theorem count_insert_new (s : ActorSystem P) (id : ActorId) (cell : ActorCell P) (absent : id ∉ s.actors) :
    (s.actors.insert id cell).keys.length = s.actorCount + 1 := by
  rw [AList.keys_insert, List.erase_of_not_mem (fun member => absent (AList.mem_keys.mpr member)), List.length_cons, actorCount]

theorem count_erase (s : ActorSystem P) (id : ActorId) (present : id ∈ s.actors) :
    (s.actors.erase id).keys.length + 1 = s.actorCount := by
  have member := AList.mem_keys.mp present
  have positive := List.length_pos_of_mem member
  rw [AList.keys_erase, List.length_erase_of_mem member, actorCount]
  omega

theorem count_insert_old (s : ActorSystem P) (id : ActorId) (cell : ActorCell P) (present : id ∈ s.actors) :
    (s.actors.insert id cell).keys.length = s.actorCount := by
  have erased := count_erase s id present
  rw [AList.keys_erase] at erased
  rw [AList.keys_insert, List.length_cons]
  exact erased

theorem counted_frame (log entries : SystemTrace P) (s next : ActorSystem P) (counted : Counted log s)
    (installed : entries.events.installed = []) (gone : entries.events.gone = []) (stopped : entries.events.stopped = [])
    (alive : next.phase ≠ .ended → s.phase ≠ .ended ∧ next.actorCount = s.actorCount) (hooks : next.phase.hooks = s.phase.hooks) :
    Counted (log ++ entries) next := by
  refine ⟨?_, ?_⟩
  · intro living
    obtain ⟨before, same⟩ := alive living
    rw [SystemTrace.events_append, Log.gone_append, Log.installed_append, installed, gone, List.append_nil, List.append_nil, same]
    exact counted.actors before
  · rw [SystemTrace.events_append, Log.gone_append, Log.stopped_append, gone, stopped, List.append_nil, List.append_nil, hooks]
    exact counted.hooks

-- A cell is taken out of the map and its stopped hook called.
theorem counted_stop (log entries : SystemTrace P) (s next : ActorSystem P) (counted : Counted log s) (id : ActorId)
    (installed : entries.events.installed = []) (gone : entries.events.gone = [id]) (stopped : entries.events.stopped = [])
    (living : s.phase ≠ .ended) (present : id ∈ s.actors) (erased : next.actors = s.actors.erase id)
    (before : s.phase.hooks = 0) (after : next.phase.hooks = 1) : Counted (log ++ entries) next := by
  have total := counted.actors living
  have fewer := count_erase s id present
  have calls := counted.hooks
  refine ⟨?_, ?_⟩
  · intro _
    rw [SystemTrace.events_append, Log.gone_append, Log.installed_append, installed, gone, actorCount, erased]
    simp only [List.length_append, List.length_singleton, List.length_nil]
    omega
  · rw [SystemTrace.events_append, Log.gone_append, Log.stopped_append, gone, stopped, after]
    simp only [List.length_append, List.length_singleton, List.length_nil]
    omega

theorem counted_step (log entries : SystemTrace P) (s next : ActorSystem P) (action : SystemAction P) (typed : Typed log s)
    (counted : Counted log s) (quiet : action.quiet = true) (moves : Moves s next.sends action entries next) :
    Counted (log ++ entries) next := by
  have phase := typed.phase
  generalize next.sends = sends at moves
  cases moves with
  | startedPanic => cases quiet
  | handlerPanic => cases quiet
  | hookPanic => cases quiet
  | mismatch loop envelope rest cell here queue present untyped =>
      exact absurd (no_mismatch log s typed envelope rest queue cell present) untyped
  | hookSkip id cell ctx resume here untyped =>
      simp only [PhaseTyped, here] at phase
      exact absurd phase.1.2 untyped
  | startedReturn id ty old val ctx here =>
      simp only [PhaseTyped, here] at phase
      have absent : id ∉ s.actors := by
        intro present
        obtain ⟨cell, found⟩ := Option.isSome_iff_exists.mp (AList.lookup_isSome.mpr present)
        exact phase.2 (known_of_installed _ _ _ (typed.cells id cell found).1)
      have total := counted.actors (by simp [here])
      have calls := counted.hooks
      rw [here] at calls
      refine ⟨?_, ?_⟩
      · intro _
        rw [SystemTrace.events_append, Log.gone_append, Log.installed_append, List.length_append, List.length_append, ← total,
          actorCount, count_insert_new s id ⟨⟨ty, val⟩, ty⟩ absent, Nat.add_right_comm]
        rfl
      · rw [SystemTrace.events_append, Log.gone_append, Log.stopped_append, List.length_append, List.length_append, calls]
        rfl
  | handled loop envelope cell ctx val reply here running =>
      simp only [PhaseTyped, here] at phase
      have inside : envelope.actorId ∈ s.actors := AList.lookup_isSome.mp (by simp [phase.2.2])
      exact counted_frame log _ s _ counted rfl rfl rfl
        (fun _ => ⟨by simp [here], count_insert_old s envelope.actorId (cell.write val) inside⟩) (by rw [here]; rfl)
  | handledStop loop envelope cell ctx val reply here stops =>
      simp only [PhaseTyped, here] at phase
      have inside : envelope.actorId ∈ s.actors := AList.lookup_isSome.mp (by simp [phase.2.2])
      rw [on_stop_typed _ (cell.write val) phase.1.2]
      exact counted_stop log _ s _ counted envelope.actorId rfl rfl rfl (by simp [here]) inside rfl (by rw [here]; rfl) rfl
  | stopNext id ids cell here present =>
      have inside : id ∈ s.actors := AList.lookup_isSome.mp (by simp [present])
      rw [on_stop_typed _ cell (typed.cells id cell present).2]
      exact counted_stop log _ s _ counted id rfl rfl rfl (by simp [here]) inside rfl (by rw [here]; rfl) rfl
  | hookReturn id cell ctx resume here right =>
      have total := counted.actors (by simp [here])
      have calls := counted.hooks
      rw [here] at calls
      refine ⟨?_, ?_⟩
      · intro _
        rw [SystemTrace.events_append, Log.gone_append, Log.installed_append, List.length_append, List.length_append, ← total]
        rfl
      · rw [SystemTrace.events_append, Log.gone_append, Log.stopped_append, List.length_append, List.length_append, calls]
        rfl
  | dropSystem here =>
      refine counted_frame log _ s _ counted (by simp) (by simp) ?_ (fun living => absurd rfl living) (by rw [here]; rfl)
      simp [Log.stopped, List.filterMap_map, Function.comp_def, Event.completes]
  | cloneAddr => exact counted_frame log _ s _ counted rfl rfl rfl (fun living => ⟨living, rfl⟩) rfl
  | dropAddr => exact counted_frame log _ s _ counted rfl rfl rfl (fun living => ⟨living, rfl⟩) rfl
  | post => exact counted_frame log _ s _ counted rfl rfl rfl (fun living => ⟨living, rfl⟩) rfl
  | postFailed => exact counted_frame log _ s _ counted rfl rfl rfl (fun living => ⟨living, rfl⟩) rfl
  | recvResult => exact counted_frame log _ s _ counted rfl rfl rfl (fun living => ⟨living, rfl⟩) rfl
  | spawnPanic => exact counted_frame log _ s _ counted rfl rfl rfl (fun living => ⟨living, rfl⟩) rfl
  | disconnected => exact counted_frame log _ s _ counted rfl rfl rfl (fun living => ⟨living, rfl⟩) rfl
  | shutdown => exact counted_frame log _ s _ counted rfl rfl rfl (fun living => ⟨living, rfl⟩) rfl
  | _ => exact counted_frame log _ s _ counted rfl rfl rfl (fun _ => ⟨by simp [*], rfl⟩) (by simp only [*]; rfl)

end ActorSystem

-- The ids that stop_all_actors has still to go through are all that is left,
-- and after run has returned nothing is.
def Resume.covers (s : ActorSystem P) : Resume → Prop
  | .loop .run => True
  | .loop (.runOnce _) => s.tx = false → ∀ id, id ∉ s.actors
  | .stopAll ids => ∀ id ∈ s.actors, id ∈ ids

namespace ActorSystem

def Covered (s : ActorSystem P) : Prop :=
  match s.phase with
  | .outside => s.tx = false → ∀ id, id ∉ s.actors
  | .starting _ _ _ _ => True
  | .within resume => resume.covers s
  | .handling around _ _ _ => (Resume.loop around).covers s
  | .stopping _ _ _ resume => resume.covers s
  | .ended => True

theorem covers_fewer (s next : ActorSystem P) (resume : Resume) (covers : resume.covers s) (tx : next.tx = s.tx)
    (fewer : ∀ id ∈ next.actors, id ∈ s.actors) : resume.covers next := by
  cases resume with
  | loop around =>
      cases around with
      | run => trivial
      | runOnce count =>
          intro gone id inside
          exact covers (tx.symm.trans gone) id (fewer id inside)
  | stopAll ids =>
      intro id inside
      exact covers id (fewer id inside)

theorem covers_counted (s next : ActorSystem P) (loop : Loop) (covers : (Resume.loop loop).covers s) (tx : next.tx = s.tx)
    (actors : next.actors = s.actors) : (Resume.loop loop.counted).covers next := by
  cases loop with
  | run => trivial
  | runOnce count =>
      intro gone id inside
      rw [actors] at inside
      exact covers (tx.symm.trans gone) id inside

theorem covered_step (log entries : SystemTrace P) (s next : ActorSystem P) (action : SystemAction P) (typed : Typed log s)
    (shut : Shut s) (covered : Covered s) (quiet : action.quiet = true) (moves : Moves s next.sends action entries next) :
    Covered next := by
  have phase := typed.phase
  unfold Covered at covered
  generalize next.sends = sends at moves
  cases moves with
  | startedPanic => cases quiet
  | handlerPanic => cases quiet
  | hookPanic => cases quiet
  | mismatch loop envelope rest cell here queue present untyped =>
      exact absurd (no_mismatch log s typed envelope rest queue cell present) untyped
  | spawn => trivial
  | startedReturn id ty old val ctx here =>
      intro gone
      rw [shut.sender _ _ _ _ here] at gone
      cases gone
  | run => trivial
  | dropSystem => trivial
  | runOnce here =>
      rw [here] at covered
      exact covered
  | ranOnce count here =>
      rw [here] at covered
      exact covered
  | skip loop envelope rest here queue absent =>
      rw [here] at covered
      exact covers_counted s _ loop covered rfl rfl
  | handle loop envelope rest cell here queue present right =>
      rw [here] at covered
      exact covers_counted s _ loop covered rfl rfl
  | stopStarted => trivial
  | stopHandler loop envelope cell ctx here =>
      rw [here] at covered
      exact covers_fewer s _ _ covered rfl fun _ inside => inside
  | stopHook id cell ctx resume here =>
      rw [here] at covered
      exact covers_fewer s _ _ covered rfl fun _ inside => inside
  | handled loop envelope cell ctx val reply here running =>
      simp only [PhaseTyped, here] at phase
      rw [here] at covered
      have present : envelope.actorId ∈ s.actors := AList.lookup_isSome.mp (by simp [phase.2.2])
      refine covers_fewer s _ _ covered rfl ?_
      intro id inside
      rcases (AList.mem_insert _).mp inside with rfl | old
      · exact present
      · exact old
  | handledStop loop envelope cell ctx val reply here stops =>
      rw [here] at covered
      exact covers_fewer s _ (.loop loop) covered rfl fun _ inside => (AList.mem_erase.mp inside).2
  | hookReturn id cell ctx resume here right =>
      rw [here] at covered
      exact covers_fewer s _ _ covered rfl fun _ inside => inside
  | hookSkip id cell ctx resume here untyped =>
      rw [here] at covered
      exact covers_fewer s _ _ covered rfl fun _ inside => inside
  | takeSnapshot ids here left keys =>
      intro id inside
      exact keys.mem_iff.mpr (AList.mem_keys.mp inside)
  | returns here =>
      rw [here] at covered
      intro _ id inside
      exact absurd (covered id inside) List.not_mem_nil
  | stopGone id ids here absent =>
      rw [here] at covered
      intro other inside
      rcases List.mem_cons.mp (covered other inside) with same | later
      · rw [same] at inside
        exact absurd inside (AList.lookup_eq_none.mp absent)
      · exact later
  | stopNext id ids cell here present =>
      rw [here] at covered
      intro other inside
      obtain ⟨different, old⟩ := AList.mem_erase.mp inside
      exact (List.mem_cons.mp (covered other old)).resolve_left different
  | shutdown here =>
      rw [here] at covered
      simp only [Covered, here]
      exact covered
  | disconnected here =>
      simp only [Covered, here, Resume.covers]
  | _ => exact covered

end ActorSystem

end Actinium
