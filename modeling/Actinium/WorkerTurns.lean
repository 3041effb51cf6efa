import Actinium.WorkerPlaces

set_option autoImplicit false

namespace Actinium

variable {P : Program} {n : Nat}

-- The ids stop_all_actors has still to remove.
def Phase.toStop : Phase P n → List ActorId
  | .stopAll ids => ids
  | .stopping _ _ _ (.stopAll ids) => ids
  | _ => []

namespace Worker

-- A worker serves one actor at a time, on a Context of its own, and its
-- scheduler is well formed but for the actor it serves.
structure Served (w : Worker P n) : Prop where
  serving : ∀ turn, w.phase.serving = some turn → w.scheduler.WfTurn turn
  resting : w.phase.serving = none → w.phase.closing = false → w.scheduler.Wf
  keyed : ∀ id, ∀ envelope ∈ w.scheduler.mailbox id, envelope.actorId = id
  handling : ∀ turn envelope cell ctx, w.phase = .handling turn envelope cell ctx →
    envelope.actorId = turn ∧ cell.actor.ty = envelope.dispatch.ty ∧ ctx.actorId = turn ∧
      ctx.spawner = some w.workerIdx
  handled : ∀ turn id cell running, w.phase = .handled turn id cell running → id = turn
  stopping : ∀ id cell ctx after, w.phase = .stopping id cell ctx after →
    ctx.actorId = id ∧ ctx.spawner = some w.workerIdx ∧ ∀ turn, after = .turn turn → id = turn

-- What is still to stop is in the map, each id once.
structure Sweeping (w : Worker P n) : Prop where
  nodup : w.phase.toStop.Nodup
  present : ∀ id ∈ w.phase.toStop, ∃ cell, w.actorMap.lookup id = some cell

theorem calm_serving (phase : Phase P n) (quiet : phase.calm = true) : phase.serving = none := by
  cases phase <;> first | rfl | cases quiet

theorem served_calm (next : Worker P n) (calm : next.phase.calm = true)
    (wf : next.phase.closing = false → next.scheduler.Wf)
    (keyed : ∀ id, ∀ envelope ∈ next.scheduler.mailbox id, envelope.actorId = id) : Served next := by
  refine ⟨?_, fun _ => wf, keyed, ?_, ?_, ?_⟩
  · intro turn serving
    rw [calm_serving next.phase calm] at serving
    cases serving
  all_goals
    intro a b c d here
    rw [here] at calm
    cases calm

theorem served_begin (w : Worker P n) (id : ActorId) (cell : ActorCell P) (after : After)
    (serving : ∀ turn, after = .turn turn → id = turn ∧ w.scheduler.WfTurn turn)
    (resting : ∀ ids, after = .stopAll ids → w.scheduler.Wf)
    (keyed : ∀ id, ∀ envelope ∈ w.scheduler.mailbox id, envelope.actorId = id) :
    Served (w.beginStop id cell after).1 := by
  refine ⟨?_, ?_, keyed, ?_, ?_, ?_⟩
  · intro turn here
    cases after with
    | turn served =>
        cases here
        exact (serving turn rfl).2
    | stopAll ids => cases here
  · intro here _
    cases after with
    | turn served => cases here
    | stopAll ids => exact resting ids rfl
  · intro turn envelope held ctx here
    cases here
  · intro turn other held running here
    cases here
  · intro other held ctx next here
    cases here
    exact ⟨rfl, rfl, fun turn same => (serving turn same).1⟩

-- The on_stop of a turn ends it, the on_stop of a sweep goes on with it.
theorem served_finish (w : Worker P n) (served : Served w) (id : ActorId) (after : After)
    (turn : ∀ turn, after = .turn turn → id = turn ∧ w.scheduler.WfTurn turn)
    (sweep : ∀ ids, after = .stopAll ids → w.scheduler.Wf) : Served (w.finishStop id after).1 := by
  have removed : ∀ other, ∀ envelope ∈ (w.scheduler.removeActor id).mailbox other, envelope.actorId = other := by
    intro other envelope member
    rw [Scheduler.mailbox_remove] at member
    split at member
    · cases member
    · exact served.keyed other envelope member
  cases after with
  | turn served =>
      obtain ⟨same, wf⟩ := turn served rfl
      refine served_calm _ rfl (fun _ => Scheduler.requeue_wf _ _ (Scheduler.wf_turn_remove served _ wf id)) ?_
      intro other envelope member
      exact removed other envelope ((Scheduler.mailbox_requeue _ served other) ▸ member)
  | stopAll ids => exact served_calm _ rfl (fun _ => Scheduler.wf_remove _ id (sweep ids rfl)) removed

theorem dequeue_keyed (s popped after : Scheduler (Delivery P)) (turn : ActorId) (envelope : Message P) (wf : s.Wf)
    (next : s.nextReady = (some turn, popped)) (dequeued : popped.dequeue turn = (some envelope, after)) :
    after.WfTurn turn ∧ envelope.actorId = turn :=
  Scheduler.dequeue_turn popped after turn envelope (Scheduler.next_ready_turn s popped wf turn next).1 dequeued

theorem served_step (events : List (Event P)) (w next : Worker P n) (act : Act P) (served : Served w)
    (moves : Moves w act events next) : Served next := by
  have atRest (serving : w.phase.serving = none) (closing : w.phase.closing = false) := served.resting serving closing
  cases moves with
  | post envelope alive => exact ⟨served.serving, served.resting, served.keyed, served.handling, served.handled, served.stopping⟩
  | postControl msg alive => exact ⟨served.serving, served.resting, served.keyed, served.handling, served.handled, served.stopping⟩
  | direct id actor onStop => exact ⟨served.serving, served.resting, served.keyed, served.handling, served.handled, served.stopping⟩
  | stopHandler turn envelope cell ctx here =>
      obtain ⟨same, typed, own, spawner⟩ := served.handling turn envelope cell ctx here
      refine ⟨?_, ?_, served.keyed, ?_, ?_, ?_⟩
      · intro other serving
        exact served.serving other (by rw [here]; exact serving)
      · intro wrong
        cases wrong
      · intro turn envelope cell other same
        cases same
        exact ⟨‹_›, typed, own, spawner⟩
      · intro turn id cell running wrong
        cases wrong
      · intro id cell ctx after wrong
        cases wrong
  | stopHook id cell ctx after here =>
      obtain ⟨own, spawner, turn⟩ := served.stopping id cell ctx after here
      refine ⟨?_, ?_, served.keyed, ?_, ?_, ?_⟩
      · intro other serving
        exact served.serving other (by rw [here]; cases after <;> exact serving)
      · intro serving closing
        exact served.resting (by rw [here]; cases after <;> exact serving) (by rw [here]; rfl)
      · intro turn envelope cell ctx wrong
        cases wrong
      · intro turn id cell running wrong
        cases wrong
      · intro other held ctx next same
        cases same
        exact ⟨own, spawner, turn⟩
  | pollSpawn senders id actor onStop rest here queue =>
      exact served_calm _ rfl (fun _ => atRest (by rw [here]; rfl) (by rw [here]; rfl)) served.keyed
  | pollShutdown senders rest here queue =>
      exact served_calm _ rfl (fun _ => atRest (by rw [here]; rfl) (by rw [here]; rfl)) served.keyed
  | pollEmpty senders here queue =>
      exact served_calm _ rfl (fun _ => atRest (by rw [here]; rfl) (by rw [here]; rfl)) served.keyed
  | confirm senders id here =>
      exact served_calm _ rfl (fun _ => atRest (by rw [here]; rfl) (by rw [here]; rfl)) served.keyed
  | drain senders envelope rest here queue =>
      have wf := Scheduler.wf_enqueue _ envelope (atRest (by rw [here]; rfl) (by rw [here]; rfl))
      have calm : w.phase.calm = true := by rw [here]; rfl
      exact served_calm { w.withMail rest with scheduler := w.scheduler.enqueue envelope } calm (fun _ => wf) wf.keyed
  | drained senders here queue =>
      exact served_calm _ rfl (fun _ => atRest (by rw [here]; rfl) (by rw [here]; rfl)) served.keyed
  | receive senders envelope rest here queue =>
      have wf := Scheduler.wf_enqueue _ envelope (atRest (by rw [here]; rfl) (by rw [here]; rfl))
      exact served_calm _ rfl (fun _ => wf) wf.keyed
  | disconnected senders here queue none =>
      exact served_calm _ rfl (fun _ => atRest (by rw [here]; rfl) (by rw [here]; rfl)) served.keyed
  | timeout senders here queue some =>
      exact served_calm _ rfl (fun _ => atRest (by rw [here]; rfl) (by rw [here]; rfl)) served.keyed
  | idle senders scheduler here next =>
      have wf := atRest (by rw [here]; rfl) (by rw [here]; rfl)
      have same := (Scheduler.next_ready_none _ _ wf next).1
      subst same
      exact served_calm _ rfl (fun _ => wf) wf.keyed
  | nothing senders turn popped scheduler here next dequeued =>
      have wf := atRest (by rw [here]; rfl) (by rw [here]; rfl)
      obtain ⟨_, mail⟩ := Scheduler.next_ready_turn _ _ wf turn next
      exact absurd (Scheduler.dequeue_none _ _ turn dequeued).2 mail
  | missing senders turn popped scheduler envelope here next dequeued absent =>
      have wf := atRest (by rw [here]; rfl) (by rw [here]; rfl)
      have after := Scheduler.requeue_wf _ _ (dequeue_keyed _ _ _ turn envelope wf next dequeued).1
      exact served_calm _ rfl (fun _ => after) after.keyed
  | handle senders turn popped scheduler envelope cell here next dequeued present typed =>
      have wf := atRest (by rw [here]; rfl) (by rw [here]; rfl)
      obtain ⟨inTurn, same⟩ := dequeue_keyed _ _ _ turn envelope wf next dequeued
      refine ⟨?_, ?_, inTurn.keyed, ?_, ?_, ?_⟩
      · intro other serving
        cases serving
        exact inTurn
      · intro wrong
        cases wrong
      · intro other message held ctx here
        cases here
        exact ⟨same, typed, same, rfl⟩
      · intro other id held running wrong
        cases wrong
      · intro id held ctx after wrong
        cases wrong
  | mismatch senders turn popped scheduler envelope cell here next dequeued present untyped =>
      have wf := atRest (by rw [here]; rfl) (by rw [here]; rfl)
      obtain ⟨inTurn, same⟩ := dequeue_keyed _ _ _ turn envelope wf next dequeued
      refine served_begin _ _ cell _ ?_ ?_ inTurn.keyed
      · intro other equal
        cases equal
        exact ⟨same, inTurn⟩
      · intro ids wrong
        cases wrong
  | handlerReturn senders turn envelope cell ctx val reply here =>
      have same := (served.handling turn envelope cell ctx here).1
      refine ⟨?_, ?_, served.keyed, ?_, ?_, ?_⟩
      · intro other serving
        cases serving
        exact served.serving turn (by rw [here]; rfl)
      · intro wrong
        cases wrong
      · intro other message held ctx wrong
        cases wrong
      · intro other id held running here
        cases here
        exact same
      · intro id held ctx after wrong
        cases wrong
  | handlerPanic senders turn envelope cell ctx val here =>
      have same := (served.handling turn envelope cell ctx here).1
      refine served_begin w _ _ _ ?_ ?_ served.keyed
      · intro other equal
        cases equal
        exact ⟨same, served.serving turn (by rw [here]; rfl)⟩
      · intro ids wrong
        cases wrong
  | putBack senders turn id cell here =>
      have after := Scheduler.requeue_wf _ _ (served.serving turn (by rw [here]; rfl))
      exact served_calm _ rfl (fun _ => after) after.keyed
  | stop senders turn id cell here =>
      refine served_begin w _ _ _ ?_ ?_ served.keyed
      · intro other equal
        cases equal
        exact ⟨served.handled turn id cell false here, served.serving turn (by rw [here]; rfl)⟩
      · intro ids wrong
        cases wrong
  | hookReturn senders id cell ctx after here typed =>
      refine served_finish w served id after ?_ ?_
      · intro turn same
        exact ⟨(served.stopping id cell ctx after here).2.2 turn same, served.serving turn (by rw [here, same]; rfl)⟩
      · intro ids same
        exact atRest (by rw [here, same]; rfl) (by rw [here]; rfl)
  | hookSkip senders id cell ctx after here untyped =>
      refine served_finish w served id after ?_ ?_
      · intro turn same
        exact ⟨(served.stopping id cell ctx after here).2.2 turn same, served.serving turn (by rw [here, same]; rfl)⟩
      · intro ids same
        exact atRest (by rw [here, same]; rfl) (by rw [here]; rfl)
  | hookPanic senders id cell ctx after here typed => exact served_calm _ rfl (fun wrong => by cases wrong) served.keyed
  | snapshot senders ids here keys =>
      exact served_calm _ rfl (fun _ => atRest (by rw [here]; rfl) (by rw [here]; rfl)) served.keyed
  | stopDone senders here => exact served_calm _ rfl (fun wrong => by cases wrong) served.keyed
  | stopGone senders id ids here absent =>
      refine served_finish w served id (.stopAll ids) ?_ ?_
      · intro turn wrong
        cases wrong
      · intro _ _
        exact atRest (by rw [here]; rfl) (by rw [here]; rfl)
  | stopNext senders id ids cell here present =>
      refine served_begin _ id cell _ ?_ ?_ served.keyed
      · intro turn wrong
        cases wrong
      · intro _ _
        exact atRest (by rw [here]; rfl) (by rw [here]; rfl)
  | dropControl senders panicked here => exact served_calm _ rfl (fun wrong => by cases wrong) served.keyed
  | dropMsgs senders panicked here => exact served_calm _ rfl (fun wrong => by cases wrong) served.keyed
  | dropScheduler senders panicked here => exact served_calm _ rfl (fun wrong => by cases wrong) (by simp)

theorem sweeping_empty (next : Worker P n) (nothing : next.phase.toStop = []) : Sweeping next :=
  ⟨by simp [nothing], by simp [nothing]⟩

theorem sweeping_step (log events : Log P) (w next : Worker P n) (act : Act P) (sweeping : Sweeping w)
    (placed : Placed log w) (moves : Moves w act events next) : Sweeping next := by
  cases moves with
  | post envelope alive => exact ⟨sweeping.nodup, sweeping.present⟩
  | postControl msg alive => exact ⟨sweeping.nodup, sweeping.present⟩
  | direct id actor onStop =>
      refine ⟨sweeping.nodup, ?_⟩
      intro other member
      by_cases same : other = id
      · subst same
        exact ⟨⟨actor, onStop⟩, AList.lookup_insert _⟩
      · obtain ⟨cell, found⟩ := sweeping.present other member
        exact ⟨cell, (AList.lookup_insert_ne same).trans found⟩
  | stopHook id cell ctx after here =>
      have same : ∀ ctx : Context (Fin n), (Phase.stopping id cell ctx after).toStop = w.phase.toStop := by
        intro ctx
        rw [here]
        cases after <;> rfl
      exact ⟨(same ctx.stop).symm ▸ sweeping.nodup, (same ctx.stop).symm ▸ sweeping.present⟩
  | drain senders envelope rest here queue => exact ⟨sweeping.nodup, sweeping.present⟩
  | hookReturn senders id cell ctx after here typed =>
      cases after with
      | turn turn => exact sweeping_empty _ rfl
      | stopAll ids =>
          have same : w.phase.toStop = ids := by rw [here]; rfl
          exact ⟨same ▸ sweeping.nodup, same ▸ sweeping.present⟩
  | hookSkip senders id cell ctx after here untyped =>
      exact absurd (placed.stopping id cell ctx after here).2.symm untyped
  | snapshot senders ids here keys =>
      refine ⟨keys.nodup_iff.mpr (AList.keys_nodup _), ?_⟩
      intro id member
      have inside : id ∈ w.actorMap := AList.mem_keys.mpr (keys.subset member)
      exact Option.isSome_iff_exists.mp (AList.lookup_isSome.mpr inside)
  | stopGone senders id ids here absent =>
      obtain ⟨cell, found⟩ := sweeping.present id (by rw [here]; simp [Phase.toStop])
      rw [absent] at found
      cases found
  | stopNext senders id ids cell here present =>
      have before : w.phase.toStop = id :: ids := by rw [here]; rfl
      have nodup := sweeping.nodup
      rw [before] at nodup
      obtain ⟨absent, rest⟩ := List.nodup_cons.mp nodup
      refine ⟨rest, ?_⟩
      intro other member
      have different : other ≠ id := fun same => absent (same ▸ member)
      obtain ⟨held, found⟩ := sweeping.present other (by rw [before]; exact List.mem_cons_of_mem id member)
      exact ⟨held, (AList.lookup_erase_ne different).trans found⟩
  | _ => exact sweeping_empty _ rfl

end Worker

end Actinium
