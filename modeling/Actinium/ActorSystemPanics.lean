import Actinium.ActorSystemProcesses

set_option autoImplicit false

namespace Actinium

variable {P : Program}

namespace ActorSystem

-- An actor leaves the map by being stopped, and in no other way as long as
-- there is a system.
def Remains (log : SystemTrace P) (s : ActorSystem P) : Prop :=
  s.phase ≠ .ended → ∀ id, id ∈ s.actors ↔ id ∈ log.events.known ∧ id ∉ log.events.gone

theorem remains_frame (log entries : SystemTrace P) (s next : ActorSystem P) (remains : Remains log s)
    (known : entries.events.known = []) (gone : entries.events.gone = [])
    (alive : next.phase ≠ .ended → s.phase ≠ .ended) (actors : ∀ id, id ∈ next.actors ↔ id ∈ s.actors) :
    Remains (log ++ entries) next := by
  intro running id
  rw [actors, remains (alive running) id]
  simp [known, gone]

theorem mem_insert_old (actors : ActorMap P) (id other : ActorId) (cell : ActorCell P) (present : id ∈ actors) :
    other ∈ actors.insert id cell ↔ other ∈ actors := by
  rw [AList.mem_insert]
  constructor
  · rintro (same | inside)
    · exact same ▸ present
    · exact inside
  · exact Or.inr

theorem remains_stop (log entries : SystemTrace P) (s next : ActorSystem P) (remains : Remains log s)
    (alive : s.phase ≠ .ended) (id : ActorId) (known : entries.events.known = []) (gone : entries.events.gone = [id])
    (actors : next.actors = s.actors.erase id) : Remains (log ++ entries) next := by
  intro _ other
  rw [actors, AList.mem_erase, remains alive other]
  simp only [SystemTrace.events_append, Log.known_append, Log.gone_append, known, gone, List.append_nil, List.mem_append,
    List.mem_singleton, not_or]
  tauto

-- An actor that was never installed is never stopped: nothing is seen of it.
theorem gone_known (log : SystemTrace P) (s : ActorSystem P) (reached : (actorSystem P).Reach Machine.free log s)
    (id : ActorId) (gone : id ∈ log.events.gone) : id ∈ log.events.known := by
  by_contra unknown
  have typed := (reach_system_sound _ log s reached).typed
  have absent : (process log s id).status = .absent := by
    simp [process, status, unknown_calm log s typed id unknown, standing, unknown]
  have silent := (Process.absent_silent true _ _ (reach_process log s reached id) absent).1
  obtain ⟨actor, member⟩ := (Log.mem_gone _ _).mp gone
  have sign := List.filterMap_eq_nil_iff.mp silent _ member
  simp [Event.sign] at sign

theorem remains_step (log entries : SystemTrace P) (s next : ActorSystem P) (action : SystemAction P) (typed : Typed log s)
    (gone : ∀ id ∈ log.events.gone, id ∈ log.events.known) (remains : Remains log s) (moves : Moves s next.sends action entries next) : Remains (log ++ entries) next := by
  have phase := typed.phase
  generalize next.sends = sends at moves
  cases moves with
  | startedReturn id ty old val ctx here =>
      rw [PhaseTyped, here] at phase
      have know : Log.known (SystemTrace.events [SystemEntry.started id, .at (.installed id ty)]) = [id] := rfl
      have stop : Log.gone (SystemTrace.events [SystemEntry.started id, .at (.installed id ty)]) = [] := rfl
      have alive : s.phase ≠ .ended := by simp [here]
      have living : id ∉ log.events.gone  := fun member => phase.2 (gone id member)
      intro _ other
      rw [AList.mem_insert, remains alive other]
      simp only [SystemTrace.events_append, Log.known_append, Log.gone_append, know, stop, List.append_nil, List.mem_append,
        List.mem_singleton]
      constructor
      · rintro (same | ⟨known, living⟩)
        · exact ⟨Or.inr same, same ▸ living⟩
        · exact ⟨Or.inl known, living⟩
      · rintro ⟨known | same, living⟩
        · exact Or.inr ⟨known, living⟩
        · exact Or.inl same
  | handled loop envelope cell ctx val reply here running =>
      rw [PhaseTyped, here] at phase
      have present : envelope.actorId ∈ s.actors := AList.lookup_isSome.mp (by rw [phase.2.2]; rfl)
      exact remains_frame log _ s _ remains rfl rfl (by simp [here]) fun other => mem_insert_old _ _ other _ present
  | handledStop loop envelope cell ctx val reply here stops =>
      rw [PhaseTyped, here] at phase
      rw [on_stop_typed envelope.actorId (cell.write val) phase.1.2]
      exact remains_stop log _ s _ remains (by simp [here]) envelope.actorId rfl rfl rfl
  | handlerPanic loop envelope cell ctx val here =>
      rw [PhaseTyped, here] at phase
      have present : envelope.actorId ∈ s.actors := AList.lookup_isSome.mp (by rw [phase.2.2]; rfl)
      exact remains_frame log _ s _ remains rfl rfl (by simp [here]) fun other => mem_insert_old _ _ other _ present
  | stopNext id ids cell here present =>
      rw [on_stop_typed id cell (typed.cells id cell present).2]
      exact remains_stop log _ s _ remains (by simp [here]) id rfl rfl rfl
  | dropSystem here => exact fun alive => absurd rfl alive
  | cloneAddr => exact remains_frame log _ s _ remains rfl rfl (fun alive => alive) fun _ => Iff.rfl
  | dropAddr => exact remains_frame log _ s _ remains rfl rfl (fun alive => alive) fun _ => Iff.rfl
  | postFailed => exact remains_frame log _ s _ remains rfl rfl (fun alive => alive) fun _ => Iff.rfl
  | post => exact remains_frame log _ s _ remains rfl rfl (fun alive => alive) fun _ => Iff.rfl
  | recvResult => exact remains_frame log _ s _ remains rfl rfl (fun alive => alive) fun _ => Iff.rfl
  | _ => exact remains_frame log _ s _ remains rfl rfl (by simp [*]) fun _ => Iff.rfl

theorem reach_remains (log : SystemTrace P) (s : ActorSystem P) (reached : (actorSystem P).Reach Machine.free log s) :
    Remains log s := by
  refine Machine.reach_invariant (actorSystem P) Machine.free Remains ?_ ?_ log s reached
  · intro s start _ id
    rw [start]
    simp [new, SystemTrace.events, Log.known, Log.installed]
  · intro log s action next entries before remains _ taken
    exact remains_step log entries s next action (reach_system_sound _ log s before).typed (gone_known log s before) remains
      (step_moves s next action entries taken)

theorem present_alive (log : SystemTrace P) (s : ActorSystem P) (typed : Typed log s) (id : ActorId) (present : id ∈ s.actors) :
    (process log s id).status ≠ .dead ∧
      (process log s id).status.current = about id s.phase.current.toList := by
  have known : id ∈ log.events.known := by
    obtain ⟨cell, found⟩ := Option.isSome_iff_exists.mp (AList.lookup_isSome.mpr present)
    exact known_of_installed log _ _ (typed.cells id cell found).1
  have inside : (s.actors.lookup id).isSome = true := AList.lookup_isSome.mpr present
  have phase := typed.phase
  unfold PhaseTyped at phase
  cases here : s.phase with
  | handling loop envelope cell ctx =>
      by_cases same : envelope.actorId = id
      · simp [process, status, here, SystemPhase.callback, SystemPhase.current, same, Keyed.select_cons]
      · simp [process, status, here, SystemPhase.callback, SystemPhase.current, same, Keyed.select_cons, standing, known, inside]
  | stopping other cell ctx resume =>
      rw [here] at phase
      have different : other ≠ id := by
        rintro rfl
        rw [phase.2] at inside
        cases inside
      simp [process, status, here, SystemPhase.callback, SystemPhase.current, different, standing, known, inside]
  | _ => simp [process, status, here, SystemPhase.callback, SystemPhase.current, standing, known, inside]

end ActorSystem

-- Panics of any callbacks and all. A panicking handler costs its own message:
-- its actor stays in the map until it is stopped, and as long as it does every
-- message accepted for it has been taken up in order or waits.
theorem ActorSystem.panics_contained (log : SystemTrace P) (s : ActorSystem P)
    (reached : (actorSystem P).Reach Machine.free log s) (id : ActorId) :
    about id log.events.begun <+: about id log.events.accepted ∧
      (s.phase ≠ .ended → (id ∈ s.actors ↔ id ∈ log.events.known ∧ id ∉ log.events.gone)) ∧
      (id ∈ s.actors → about id log.events.accepted =
        about id log.events.finished ++ about id s.phase.current.toList ++ about id s.rx.queue) ∧
      (∀ before after, log.signs id = before ++ .leaving :: after → Process.Signs.begun after = [] ∧ .leaving ∉ after) := by
  have led := reach_process log s reached id
  have accounted := Process.reach_accounted true _ _ led
  have front := accounted.front
  rw [SystemTrace.signs, Log.signs_begun, Log.signs_accepted] at front
  refine ⟨front, fun alive => reach_remains log s reached alive id, ?_, ?_⟩
  · intro present
    obtain ⟨alive, current⟩ := present_alive log s (reach_system_sound _ log s reached).typed id present
    have order := accounted.order alive
    rwa [SystemTrace.signs, Log.signs_accepted, Log.signs_finished, current] at order
  · intro before after split
    exact Process.leaving_last true _ _ before after led split

-- After the panic the second message is in hand and the third one waits.
def panicThenHandle : List (SystemAction numbers) :=
  [.spawn () 0, .startedReturn 0, .doSend 0 5, .doSend 0 6, .runOnce, .recv, .handlerPanic 1, .doSend 0 7, .runOnce, .recv]

theorem ActorSystem.panics_contained_third : ∃ (log : SystemTrace numbers) (s : ActorSystem numbers),
    (actorSystem numbers).Reach Machine.free log s ∧
      log.signs 1 = [.installed, .accepted ⟨1, (), 5, false, 0⟩, .accepted ⟨1, (), 6, false, 1⟩, .handling ⟨1, (), 5, false, 0⟩,
        .panicked ⟨1, (), 5, false, 0⟩, .accepted ⟨1, (), 7, false, 2⟩, .handling ⟨1, (), 6, false, 1⟩] ∧
      about 1 log.events.accepted =
        about 1 log.events.finished ++ about 1 s.phase.current.toList ++ about 1 s.rx.queue := by
  have reached := Machine.run_reach (actorSystem numbers) _ _ _ panicThenHandle rfl rfl
  exact ⟨_, _, reached, rfl, (ActorSystem.panics_contained _ _ reached 1).2.2.1 (AList.lookup_isSome.mp rfl)⟩

end Actinium
