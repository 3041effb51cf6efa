import Actinium.RuntimeRouting

set_option autoImplicit false

namespace Actinium

variable {P : Program} {n : Nat}

namespace Trace

def begins : Entry P n → Option (Message P)
  | .at _ event => event.begins
  | _ => none

-- The messages whose handler has been invoked, anywhere in the runtime.
def begun (log : Trace P n) : List (Message P) := log.filterMap begins

theorem begun_at_one {κ : Type} [DecidableEq κ] (key : Message P → κ) (k : κ) (log : Trace P n) (w : Fin n)
    (only : ∀ v, v ≠ w → Keyed.select key k (log.worker v).begun = []) :
    Keyed.select key k log.begun = Keyed.select key k (log.worker w).begun := by
  induction log with
  | nil => rfl
  | cons head tail ih =>
      have split (v : Fin n) : Keyed.select key k (Trace.worker v (head :: tail)).begun =
          Keyed.select key k (Trace.worker v [head]).begun ++ Keyed.select key k (Trace.worker v tail).begun := by
        rw [← List.singleton_append, Trace.worker_append, Log.begun_append]
        exact Keyed.select_append _ _ _ _
      have rest := ih fun v other => (List.append_eq_nil_iff.mp ((split v).symm.trans (only v other))).2
      have now : Keyed.select key k (begun [head]) = Keyed.select key k (Trace.worker w [head]).begun := by
        cases head with
        | «at» v event =>
            by_cases same : v = w
            · subst same
              have here : Trace.worker v [(.at v event : Entry P n)] = [event] := Trace.worker_same v [event]
              rw [here]
              rfl
            · have here : Trace.worker v [(.at v event : Entry P n)] = [event] := Trace.worker_same v [event]
              have elsewhere : Trace.worker w [(.at v event : Entry P n)] = [] := Trace.worker_other w v (Ne.symm same) [event]
              have none := (List.append_eq_nil_iff.mp ((split v).symm.trans (only v same))).1
              rw [here] at none
              rw [elsewhere]
              exact none
        | starting => rfl
        | started => rfl
        | startPanicked => rfl
        | unsent => rfl
      have whole : begun (head :: tail) = begun [head] ++ begun tail := by
        rw [begun, ← List.singleton_append, List.filterMap_append]
        rfl
      rw [whole, split w, ← now, ← rest]
      exact Keyed.select_append _ _ _ _

end Trace

theorem accepted_claimed (log : Trace P n) (s : State P n) (routed : State.Routed log s) (w : Fin n)
    (envelope : Message P) (member : envelope ∈ (log.worker w).accepted) : log.Claimed w envelope.actorId :=
  Or.inl (Worker.known_of_installed _ _ _ ((Worker.reach_sound w _ _ (routed.workers w)).mail.typed envelope member))

-- Mail for an actor is accepted by the channel of its worker only.
theorem accepted_elsewhere (log : Trace P n) (s : State P n) (routed : State.Routed log s) (v w : Fin n) (id : ActorId)
    (placed : log.Claimed w id) (other : v ≠ w) : about id (log.worker v).accepted = [] := by
  apply Keyed.select_none
  intro envelope member same
  have claimed := accepted_claimed log s routed v envelope member
  rw [same] at claimed
  exact other (routed.once v w id claimed placed)

theorem begun_elsewhere (log : Trace P n) (s : State P n) (routed : State.Routed log s) (v w : Fin n) (id : ActorId)
    (placed : log.Claimed w id) (other : v ≠ w) : about id (log.worker v).begun = [] := by
  have front := (Worker.reach_sound v _ _ (routed.workers v)).mail.front id
  rw [accepted_elsewhere log s routed v w id placed other] at front
  exact List.prefix_nil.mp front

theorem begun_placed (log : Trace P n) (s : State P n) (routed : State.Routed log s) (w : Fin n) (id : ActorId)
    (placed : log.Claimed w id) : about id log.begun = about id (log.worker w).begun :=
  Trace.begun_at_one _ id log w fun v other => begun_elsewhere log s routed v w id placed other

theorem serials_about (log : Log P) (id : ActorId)
    (nodup : (log.accepted.map fun envelope => envelope.dispatch.serial).Nodup) :
    ((about id log.accepted).map fun envelope => envelope.dispatch.serial).Nodup :=
  nodup.sublist ((Keyed.select_sublist Envelope.actorId id log.accepted).map _)

-- What waits has been accepted, and neither handled nor dropped.
theorem Worker.pending_open (log : Log P) (w : Worker P n) (mail : Worker.Mail log w) (envelope : Message P)
    (waits : envelope ∈ w.pending envelope.actorId) :
    envelope ∈ log.accepted ∧ envelope ∉ log.finished ∧ envelope ∉ log.dropped := by
  have every := mail.every envelope.actorId
  have nodup := every.nodup_iff.mp (serials_about log envelope.actorId mail.serials).of_map
  have past (settled : envelope ∈ about envelope.actorId log.finished ++ about envelope.actorId log.dropped) : False :=
    (List.nodup_append.mp nodup).2.2 envelope settled envelope waits rfl
  refine ⟨?_, ?_, ?_⟩
  · have inside : envelope ∈ about envelope.actorId log.accepted := every.mem_iff.mpr (List.mem_append_right _ waits)
    exact ((Keyed.mem_select _ _ _ _).mp inside).1
  · intro finished
    exact past (List.mem_append_left _ ((Keyed.mem_select _ _ _ _).mpr ⟨finished, rfl⟩))
  · intro dropped
    exact past (List.mem_append_right _ ((Keyed.mem_select _ _ _ _).mpr ⟨dropped, rfl⟩))

theorem begun_worker (log : Trace P n) (envelope : Message P) (member : envelope ∈ log.begun) :
    ∃ w, envelope ∈ (log.worker w).begun := by
  obtain ⟨entry, inside, same⟩ := List.mem_filterMap.mp member
  cases entry with
  | «at» w event =>
      refine ⟨w, List.mem_filterMap.mpr ⟨event, ?_, same⟩⟩
      exact List.mem_filterMap.mpr ⟨_, inside, by simp [Entry.view]⟩
  | _ => cases same

theorem nothing_unplaced (log : Trace P n) (s : State P n) (routed : State.Routed log s) (id : ActorId)
    (unplaced : ∀ w, ¬ log.Claimed w id) : about id log.begun = [] ∧ ∀ w, about id (log.worker w).accepted = [] := by
  have accepted (w : Fin n) : about id (log.worker w).accepted = [] := by
    apply Keyed.select_none
    intro envelope member same
    exact unplaced w (same ▸ accepted_claimed log s routed w envelope member)
  refine ⟨?_, accepted⟩
  apply Keyed.select_none
  intro envelope member same
  obtain ⟨w, begun⟩ := begun_worker log envelope member
  have front := (Worker.reach_sound w _ _ (routed.workers w)).mail.front id
  rw [accepted w] at front
  have none := List.prefix_nil.mp front
  have inside : envelope ∈ about id (log.worker w).begun := (Keyed.mem_select _ _ _ _).mpr ⟨begun, same⟩
  rw [none] at inside
  cases inside

-- While an actor has not stopped and its worker is in its loop, what was
-- accepted for it and not handled is in hand, in its mailbox or in the channel.
-- An actor that was given to no worker has no mail.
theorem messages_conserved (log : Trace P n) (s : State P n) (reached : (runtime P n).Reach Machine.free log s)
    (id : ActorId) :
    (∀ w, log.Claimed w id →
      about id log.begun <+: about id (log.worker w).accepted ∧
        ((about id (log.worker w).accepted).map fun envelope => envelope.dispatch.serial).Nodup ∧
        (∀ v, v ≠ w → about id (log.worker v).accepted = []) ∧
        (id ∉ (log.worker w).gone → (s.workers w).phase.closing = false →
          about id (log.worker w).accepted =
            about id (log.worker w).finished ++ (about id (s.workers w).phase.current.toList ++
              (s.workers w).scheduler.mailbox id ++ about id (s.workers w).msgRx.queue))) ∧
      ((∀ w, ¬ log.Claimed w id) → about id log.begun = [] ∧ ∀ w, about id (log.worker w).accepted = []) := by
  have routed := reach_routed _ log s reached
  refine ⟨?_, nothing_unplaced log s routed id⟩
  intro w placed
  have sound := reach_worker _ log s reached w
  refine ⟨?_, serials_about _ id sound.mail.serials, ?_, ?_⟩
  · rw [begun_placed log s routed w id placed]
    exact sound.mail.front id
  · intro v other
    exact accepted_elsewhere log s routed v w id placed other
  · intro living isOpen
    rw [sound.mail.order isOpen id, Worker.dropped_alive _ _ sound.mail id isOpen living, List.append_nil]
    rfl

-- One actor on one worker.
def spawnOne : List (Action numbers 1) :=
  [.spawn () 0, .spawnPick 1, .startedReturn 1 0, .handOver 1, .worker 0 .pollControl, .worker 0 .confirm, .spawnReturn 1]

-- One message has been handled, one is in the mailbox, one in the channel.
def threeSent : List (Action numbers 1) :=
  spawnOne ++ ([.doSend 0 5, .doSend 0 6, .worker 0 .pollControl, .worker 0 .drain, .worker 0 .drain, .worker 0 .drain,
    .worker 0 .runTurn, .worker 0 (.handlerReturn 5 50), .doSend 0 7] : List (Action numbers 1))

theorem messages_conserved_three : ∃ (log : Trace numbers 1) (s : State numbers 1),
    (runtime numbers 1).Reach Machine.free log s ∧ about 1 log.begun = [⟨1, (), 5, false, 0⟩] ∧
      about 1 (log.worker 0).accepted = about 1 (log.worker 0).finished ++
        (about 1 (s.workers 0).phase.current.toList ++ (s.workers 0).scheduler.mailbox 1 ++
          about 1 (s.workers 0).msgRx.queue) := by
  have reached := Machine.run_reach (runtime numbers 1) _ _ _ threeSent rfl rfl
  exact ⟨_, _, reached, rfl, ((messages_conserved _ _ reached 1).1 0 (Or.inl (by decide))).2.2.2 (by decide) rfl⟩

end Actinium
