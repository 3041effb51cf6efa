import Actinium.WorkerPlaces

set_option autoImplicit false

namespace Actinium

variable {P : Program} {n : Nat}

namespace Log

theorem mem_installed (log : Log P) (id : ActorId) (ty : P.Ty) : (id, ty) ∈ log.installed ↔ .installed id ty ∈ log := by
  simp only [installed, List.mem_filterMap]
  constructor
  · rintro ⟨event, member, same⟩
    cases event <;> cases same
    exact member
  · intro member
    exact ⟨_, member, rfl⟩

theorem mem_spawns (log : Log P) (id : ActorId) : id ∈ log.spawnsSent ↔ ∃ ty, .spawnSent id ty ∈ log := by
  simp only [spawnsSent, List.mem_filterMap]
  constructor
  · rintro ⟨event, member, same⟩
    cases event <;> cases same
    exact ⟨_, member⟩
  · rintro ⟨ty, member⟩
    exact ⟨_, member, rfl⟩

theorem mem_accepted (log : Log P) (envelope : Message P) : envelope ∈ log.accepted ↔ .accepted envelope ∈ log := by
  simp only [accepted, List.mem_filterMap]
  constructor
  · rintro ⟨event, member, same⟩
    cases event <;> cases same
    exact member
  · intro member
    exact ⟨_, member, rfl⟩

theorem mem_begun (log : Log P) (envelope : Message P) : envelope ∈ log.begun ↔ .handling envelope ∈ log := by
  simp only [begun, List.mem_filterMap]
  constructor
  · rintro ⟨event, member, same⟩
    cases event <;> cases same
    exact member
  · intro member
    exact ⟨_, member, rfl⟩

theorem mem_finished (log : Log P) (envelope : Message P) :
    envelope ∈ log.finished ↔ (∃ reply, .handled envelope reply ∈ log) ∨ .panicked envelope ∈ log := by
  simp only [finished, List.mem_filterMap]
  constructor
  · rintro ⟨event, member, same⟩
    cases event <;> cases same
    · exact Or.inl ⟨_, member⟩
    · exact Or.inr member
  · rintro (⟨reply, member⟩ | member)
    · exact ⟨_, member, rfl⟩
    · exact ⟨_, member, rfl⟩

theorem mem_dropped (log : Log P) (envelope : Message P) :
    envelope ∈ log.dropped ↔ .dropped envelope ∈ log ∨ .mismatched envelope ∈ log := by
  simp only [dropped, List.mem_filterMap]
  constructor
  · rintro ⟨event, member, same⟩
    cases event <;> cases same
    · exact Or.inr member
    · exact Or.inl member
  · rintro (member | member)
    · exact ⟨_, member, rfl⟩
    · exact ⟨_, member, rfl⟩

theorem mem_gone (log : Log P) (id : ActorId) : id ∈ log.gone ↔ ∃ actor, .stopping id actor ∈ log := by
  simp only [gone, List.mem_filterMap]
  constructor
  · rintro ⟨event, member, same⟩
    cases event <;> cases same
    exact ⟨_, member⟩
  · rintro ⟨actor, member⟩
    exact ⟨_, member, rfl⟩

end Log

namespace Worker

-- Each event is the mark of one kind of step.

theorem mem_begin_stop (w : Worker P n) (id : ActorId) (cell : ActorCell P) (after : After) (event : Event P) :
    event ∈ (w.beginStop id cell after).2 ↔
      cell.actor.ty = cell.onStop ∧ event = .stopping id cell.actor ∨
        cell.actor.ty ≠ cell.onStop ∧ event = .stopSkipped id := by
  simp only [beginStop, AnyBox.downcast]
  by_cases typed : cell.actor.ty = cell.onStop <;> simp [typed]

theorem mem_refusals (msgs : List (ControlMsg P)) (event : Event P) :
    event ∈ refusals msgs ↔ ∃ id ∈ spawnIds msgs, event = .refused id := by
  induction msgs with
  | nil => simp [refusals, spawnIds]
  | cons head tail ih => cases head <;> simp [refusals, spawnIds, ih]

section

variable {w next : Worker P n} {act : Act P} {events : Log P}

theorem accepted_inv (moves : Moves w act events next) (envelope : Message P) (member : .accepted envelope ∈ events) : act = .post envelope := by
  cases moves with
  | post other alive =>
      simp only [List.mem_singleton, Event.accepted.injEq] at member
      rw [member]
  | postControl msg alive => cases msg <;> simp [controlEvent] at member
  | _ => simp [mem_begin_stop, mem_refusals] at member

theorem spawn_sent_inv (moves : Moves w act events next) (id : ActorId) (ty : P.Ty) (member : .spawnSent id ty ∈ events) :
    ∃ actor onStop, act = .postControl (.spawnActor id actor onStop) ∧ actor.ty = ty := by
  cases moves with
  | postControl msg alive =>
      cases msg with
      | spawnActor other actor onStop =>
          simp only [controlEvent, List.mem_singleton, Event.spawnSent.injEq] at member
          exact ⟨actor, onStop, by rw [member.1], member.2.symm⟩
      | shutdown => simp [controlEvent] at member
  | _ => simp [mem_begin_stop, mem_refusals] at member

theorem installed_inv (moves : Moves w act events next) (id : ActorId) (ty : P.Ty) (member : .installed id ty ∈ events) :
    (∃ actor onStop, .spawnActor id actor onStop ∈ w.controlRx.queue ∧ actor.ty = ty) ∨
      ∃ actor onStop, act = .spawnActorDirect id actor onStop ∧ actor.ty = ty := by
  cases moves with
  | direct other actor onStop =>
      simp only [List.mem_singleton, Event.installed.injEq] at member
      exact Or.inr ⟨actor, onStop, by rw [member.1], member.2.symm⟩
  | pollSpawn senders other actor onStop rest here queue =>
      simp only [List.mem_singleton, Event.installed.injEq] at member
      exact Or.inl ⟨actor, onStop, by rw [queue, member.1]; simp, member.2.symm⟩
  | postControl msg alive => cases msg <;> simp [controlEvent] at member
  | _ => simp [mem_begin_stop, mem_refusals] at member

theorem confirmed_inv (moves : Moves w act events next) (id : ActorId) (member : .confirmed id ∈ events) :
    w.phase = .confirming id ∧ ∃ senders, act = .own senders .confirm := by
  cases moves with
  | confirm senders other here =>
      simp only [List.mem_singleton, Event.confirmed.injEq] at member
      exact ⟨by rw [here, member], senders, rfl⟩
  | postControl msg alive => cases msg <;> simp [controlEvent] at member
  | _ => simp [mem_begin_stop, mem_refusals] at member

theorem refused_inv (moves : Moves w act events next) (id : ActorId) (member : .refused id ∈ events) :
    id ∈ spawnIds w.controlRx.queue ∧ ∃ senders, act = .own senders .exit := by
  cases moves with
  | dropControl senders panicked here =>
      obtain ⟨other, queued, same⟩ := (mem_refusals _ _).mp member
      cases same
      exact ⟨queued, senders, rfl⟩
  | postControl msg alive => cases msg <;> simp [controlEvent] at member
  | _ => simp [mem_begin_stop] at member

theorem handled_inv (moves : Moves w act events next) (envelope : Message P) (reply : P.Reply) (member : .handled envelope reply ∈ events) :
    ∃ turn cell ctx, w.phase = .handling turn envelope cell ctx ∧ events = [.handled envelope reply] := by
  cases moves with
  | handlerReturn senders turn other cell ctx val result here =>
      simp only [List.mem_singleton, Event.handled.injEq] at member
      obtain ⟨rfl, rfl⟩ := member
      exact ⟨turn, cell, ctx, here, rfl⟩
  | postControl msg alive => cases msg <;> simp [controlEvent] at member
  | _ => simp [mem_begin_stop, mem_refusals] at member

theorem panicked_inv (moves : Moves w act events next) (envelope : Message P) (member : .panicked envelope ∈ events) :
    ∃ turn cell ctx val, w.phase = .handling turn envelope cell ctx ∧
      events = .panicked envelope :: (w.beginStop envelope.actorId (cell.write val) (.turn turn)).2 := by
  cases moves with
  | handlerPanic senders turn other cell ctx val here =>
      simp only [List.mem_cons, Event.panicked.injEq, mem_begin_stop, reduceCtorEq, and_false, or_self, or_false] at member
      subst member
      exact ⟨turn, cell, ctx, val, here, rfl⟩
  | postControl msg alive => cases msg <;> simp [controlEvent] at member
  | _ => simp [mem_begin_stop, mem_refusals] at member

theorem mismatched_inv (moves : Moves w act events next) (envelope : Message P) (member : .mismatched envelope ∈ events) :
    ∃ turn popped scheduler cell, w.phase = .turn ∧ w.scheduler.nextReady = (some turn, popped) ∧
      popped.dequeue turn = (some envelope, scheduler) ∧ w.actorMap.lookup envelope.actorId = some cell ∧
      cell.actor.ty ≠ envelope.dispatch.ty := by
  cases moves with
  | mismatch senders turn popped scheduler other cell here next dequeued present untyped =>
      simp only [List.mem_cons, Event.mismatched.injEq, mem_begin_stop, reduceCtorEq, and_false, or_self,
        or_false] at member
      subst member
      exact ⟨turn, popped, scheduler, cell, here, next, dequeued, present, untyped⟩
  | postControl msg alive => cases msg <;> simp [controlEvent] at member
  | _ => simp [mem_begin_stop, mem_refusals] at member

-- The actor whose stopped hook is skipped was in the map or in the worker's hands.
theorem stop_skipped_inv (moves : Moves w act events next) (id : ActorId) (member : .stopSkipped id ∈ events) :
    ∃ cell, cell.actor.ty ≠ cell.onStop ∧ (w.actorMap.lookup id = some cell ∨ w.phase.out = some (id, cell)) := by
  cases moves with
  | mismatch senders turn popped scheduler other cell here next dequeued present untyped =>
      simp only [List.mem_cons, mem_begin_stop, reduceCtorEq, and_false, false_or, Event.stopSkipped.injEq] at member
      obtain ⟨skipped, rfl⟩ := member
      exact ⟨cell, skipped, Or.inl present⟩
  | handlerPanic senders turn other cell ctx val here =>
      simp only [List.mem_cons, mem_begin_stop, reduceCtorEq, and_false, false_or, Event.stopSkipped.injEq] at member
      obtain ⟨skipped, rfl⟩ := member
      exact ⟨cell, skipped, Or.inr (by rw [here]; rfl)⟩
  | stop senders turn other cell here =>
      simp only [mem_begin_stop, reduceCtorEq, and_false, false_or, Event.stopSkipped.injEq] at member
      obtain ⟨skipped, rfl⟩ := member
      exact ⟨cell, skipped, Or.inr (by rw [here]; rfl)⟩
  | stopNext senders other ids cell here present =>
      simp only [mem_begin_stop, reduceCtorEq, and_false, false_or, Event.stopSkipped.injEq] at member
      obtain ⟨skipped, rfl⟩ := member
      exact ⟨cell, skipped, Or.inl present⟩
  | postControl msg alive => cases msg <;> simp [controlEvent] at member
  | _ => simp [mem_refusals] at member

theorem snapshot_inv (moves : Moves w act events next) (ids : List ActorId) (member : .snapshot ids ∈ events) :
    w.phase = .snapshot ∧ ids.Perm w.actorMap.keys ∧ next.phase = .stopAll ids := by
  cases moves with
  | snapshot senders taken here keys =>
      simp only [List.mem_singleton, Event.snapshot.injEq] at member
      subst member
      exact ⟨here, keys, rfl⟩
  | postControl msg alive => cases msg <;> simp [controlEvent] at member
  | _ => simp [mem_begin_stop, mem_refusals] at member

-- The control channel grows by what is sent only.
theorem queued_inv (moves : Moves w act events next) (msg : ControlMsg P) (member : msg ∈ next.controlRx.queue) :
    msg ∈ w.controlRx.queue ∨ act = .postControl msg := by
  cases moves with
  | postControl sent alive =>
      rcases List.mem_append.mp member with earlier | last
      · exact Or.inl earlier
      · rw [List.mem_singleton.mp last]
        exact Or.inr rfl
  | pollSpawn senders id actor onStop rest here queue => exact Or.inl (by rw [queue]; exact List.mem_cons_of_mem _ member)
  | pollShutdown senders rest here queue => exact Or.inl (by rw [queue]; exact List.mem_cons_of_mem _ member)
  | hookReturn senders id cell ctx after here typed => cases after <;> exact Or.inl member
  | hookSkip senders id cell ctx after here untyped => cases after <;> exact Or.inl member
  | dropControl senders panicked here => cases member
  | _ => exact Or.inl member

end

end Worker

end Actinium
