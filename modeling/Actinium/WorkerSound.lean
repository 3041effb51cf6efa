import Actinium.WorkerMail
import Actinium.WorkerEvents

set_option autoImplicit false

namespace Actinium

variable {P : Program} {n : Nat}

namespace Phase

-- The control receiver is alive; the message receiver is alive.
def polling : Phase P n → Bool
  | .dropMsgs _ => false
  | .dropScheduler _ => false
  | .ended _ => false
  | _ => true

def receiving : Phase P n → Bool
  | .dropScheduler _ => false
  | .ended _ => false
  | _ => true

end Phase

namespace Worker

-- What a worker owns while it runs, and what is left of it afterwards.
structure Owned (log : Log P) (w : Worker P n) : Prop where
  control : w.controlRx.receiver = w.phase.polling
  msgs : w.msgRx.receiver = w.phase.receiving
  noControl : w.phase.polling = false → w.controlRx.queue = []
  noMsgs : w.phase.receiving = false → w.msgRx.queue = []
  noMail : ∀ panicked, w.phase = .ended panicked → ∀ id, w.scheduler.mailbox id = []
  confirming : ∀ id, w.phase = .confirming id → id ∈ log.known

theorem owned_live (log events : Log P) (w next : Worker P n) (owned : Owned log w) (before : w.phase.polling = true)
    (after : next.phase.polling = true) (control : next.controlRx.receiver = w.controlRx.receiver)
    (msgs : next.msgRx.receiver = w.msgRx.receiver) (confirming : ∀ id, next.phase ≠ .confirming id) :
    Owned (log ++ events) next := by
  have receiving (phase : Phase P n) (polling : phase.polling = true) : phase.receiving = true := by
    cases phase <;> first | rfl | cases polling
  refine ⟨?_, ?_, ?_, ?_, ?_, ?_⟩
  · rw [control, owned.control, before, after]
  · rw [msgs, owned.msgs, receiving _ before, receiving _ after]
  · intro wrong
    rw [after] at wrong
    cases wrong
  · intro wrong
    rw [receiving _ after] at wrong
    cases wrong
  · intro panicked ended
    rw [ended] at after
    cases after
  · intro id here
    exact absurd here (confirming id)

theorem owned_step (log events : Log P) (w next : Worker P n) (act : Act P) (owned : Owned log w)
    (moves : Moves w act events next) : Owned (log ++ events) next := by
  have keep (id : ActorId) (here : w.phase = .confirming id) : id ∈ (log ++ events).known := by
    simp [owned.confirming id here]
  cases moves with
  | post envelope alive =>
      refine ⟨owned.control, owned.msgs, owned.noControl, ?_, owned.noMail, keep⟩
      intro closed
      change w.phase.receiving = false at closed
      rw [← owned.msgs, alive] at closed
      cases closed
  | postControl msg alive =>
      refine ⟨owned.control, owned.msgs, ?_, owned.noMsgs, owned.noMail, keep⟩
      intro closed
      change w.phase.polling = false at closed
      rw [← owned.control, alive] at closed
      cases closed
  | direct id actor onStop => exact ⟨owned.control, owned.msgs, owned.noControl, owned.noMsgs, owned.noMail, keep⟩
  | drain senders envelope rest here queue =>
      exact owned_live log _ w _ owned (by rw [here]; rfl) (by change w.phase.polling = true; rw [here]; rfl) rfl rfl
        (fun id wrong => by change w.phase = _ at wrong; rw [here] at wrong; cases wrong)
  | pollSpawn senders id actor onStop rest here queue =>
      refine ⟨owned.control.trans (by rw [here]; rfl), owned.msgs.trans (by rw [here]; rfl), ?_, ?_, ?_, ?_⟩
      · intro wrong
        cases wrong
      · intro wrong
        cases wrong
      · intro panicked wrong
        cases wrong
      · intro other same
        cases same
        have know : Log.known [Event.installed id actor.ty] = [id] := rfl
        simp [know]
  | hookReturn senders id cell ctx after here typed =>
      cases after <;> exact owned_live log _ w _ owned (by rw [here]; rfl) rfl rfl rfl (fun _ wrong => by cases wrong)
  | hookSkip senders id cell ctx after here untyped =>
      cases after <;> exact owned_live log _ w _ owned (by rw [here]; rfl) rfl rfl rfl (fun _ wrong => by cases wrong)
  | dropControl senders panicked here =>
      refine ⟨rfl, owned.msgs.trans (by rw [here]; rfl), fun _ => rfl, ?_, ?_, ?_⟩
      · intro wrong
        cases wrong
      · intro other wrong
        cases wrong
      · intro id wrong
        cases wrong
  | dropMsgs senders panicked here =>
      refine ⟨owned.control.trans (by rw [here]; rfl), rfl, ?_, fun _ => rfl, ?_, ?_⟩
      · intro _
        exact owned.noControl (by rw [here]; rfl)
      · intro other wrong
        cases wrong
      · intro id wrong
        cases wrong
  | dropScheduler senders panicked here =>
      refine ⟨owned.control.trans (by rw [here]; rfl), owned.msgs.trans (by rw [here]; rfl), ?_, ?_, ?_, ?_⟩
      · intro _
        exact owned.noControl (by rw [here]; rfl)
      · intro _
        exact owned.noMsgs (by rw [here]; rfl)
      · intro _ _ id
        simp
      · intro id wrong
        cases wrong
  | stopHandler turn envelope cell ctx here =>
      exact owned_live log _ w _ owned (by rw [here]; rfl) rfl rfl rfl (fun _ wrong => by cases wrong)
  | stopHook id cell ctx after here =>
      exact owned_live log _ w _ owned (by rw [here]; rfl) rfl rfl rfl (fun _ wrong => by cases wrong)
  | _ => exact owned_live log _ w _ owned (by simp only [*]; rfl) rfl rfl rfl (fun _ wrong => by cases wrong)

-- Everything known of a worker that is given only what was promised to it.
structure Sound (log : Log P) (w : Worker P n) : Prop where
  placed : Placed log w
  waiting : Waiting log w
  served : Served w
  sweeping : Sweeping w
  mail : Mail log w
  owned : Owned log w

theorem sound_start (workerIdx : Fin n) : Sound ([] : Log P) (start workerIdx) where
  placed := ⟨List.nodup_nil, by simp [Log.gone], by simp [start], by simp [start, Phase.out], by simp [Log.known, Log.installed],
    by simp [start]⟩
  waiting := ⟨List.nodup_nil, by simp [start, Channel.new], List.nodup_nil⟩
  served := served_calm _ rfl (fun _ => Scheduler.wf_new) Scheduler.wf_new.keyed
  sweeping := sweeping_empty _ rfl
  mail := ⟨by simp [Log.accepted], List.nodup_nil, by
      intro _ id
      simp [Log.accepted, Log.finished, Log.dropped, pending, start, Phase.current, Channel.new], by
      intro id
      simp [Log.accepted, Log.finished, Log.dropped, pending, start, Phase.current, Channel.new], rfl, by
      intro id
      exact List.prefix_refl _, by simp [Log.dropped]⟩
  owned := ⟨rfl, rfl, by simp [start, Phase.polling], by simp [start, Phase.receiving], by simp [start], by simp [start]⟩

theorem sound_step (log events : Log P) (w next : Worker P n) (act : Act P) (sound : Sound log w)
    (kept : promised log w act) (taken : w.step act = some (next, events)) : Sound (log ++ events) next := by
  have moves := step_moves w next act events taken
  exact {
    placed := placed_step log events w next act sound.placed sound.waiting kept moves
    waiting := waiting_step log events w next act sound.waiting kept moves
    served := served_step events w next act sound.served moves
    sweeping := sweeping_step log events w next act sound.sweeping sound.placed moves
    mail := mail_step log events w next act sound.placed sound.served sound.sweeping sound.mail kept moves
    owned := owned_step log events w next act sound.owned moves }

theorem reach_sound (workerIdx : Fin n) (log : Log P) (w : Worker P n) (reached : Reach workerIdx log w) : Sound log w :=
  Machine.reach_invariant (machine P workerIdx) promised Sound
    (fun s start => by rw [start]; exact sound_start workerIdx)
    (fun log s act next events _ sound kept taken => sound_step log events s next act sound kept taken) log w reached

-- What is closed stays closed.
theorem closing_step (w next : Worker P n) (act : Act P) (events : Log P) (moves : Moves w act events next)
    (closed : w.phase.closing = true) : next.phase.closing = true := by
  cases moves with
  | post => exact closed
  | postControl => exact closed
  | direct => exact closed
  | drain senders envelope rest here => exact closed
  | dropControl => rfl
  | dropMsgs => rfl
  | dropScheduler => rfl
  | _ => simp only [*, Phase.closing, Bool.false_eq_true] at closed

theorem receiving_step (w next : Worker P n) (act : Act P) (events : Log P) (moves : Moves w act events next)
    (closed : w.phase.receiving = false) : next.phase.receiving = false := by
  cases moves with
  | post => exact closed
  | postControl => exact closed
  | direct => exact closed
  | drain senders envelope rest here => exact closed
  | dropMsgs => rfl
  | dropScheduler => rfl
  | _ => simp only [*, Phase.receiving, Bool.true_eq_false] at closed

theorem accepted_of_over (log : Log P) (w : Worker P n) (mail : Mail log w) (envelope : Message P)
    (past : envelope ∈ log.finished ∨ envelope ∈ log.dropped) : envelope ∈ log.accepted := by
  have inside : envelope ∈ about envelope.actorId log.accepted := by
    rw [(mail.every envelope.actorId).mem_iff]
    rcases past with finished | dropped
    · simp [Keyed.mem_select, finished]
    · simp [Keyed.mem_select, dropped]
  exact ((Keyed.mem_select _ _ _ _).mp inside).1

-- Serial numbers tell the mail of a worker apart.
theorem accepted_unique (log : Log P) (w : Worker P n) (mail : Mail log w) (a b : Message P) (left : a ∈ log.accepted)
    (right : b ∈ log.accepted) (same : a.dispatch.serial = b.dispatch.serial) : a = b :=
  List.inj_on_of_nodup_map mail.serials left right same

theorem step_index (w next : Worker P n) (act : Act P) (events : Log P) (taken : w.step act = some (next, events)) :
    next.workerIdx = w.workerIdx := by
  have moves := step_moves w next act events taken
  cases moves with
  | hookReturn senders id cell ctx after here typed => cases after <;> rfl
  | hookSkip senders id cell ctx after here untyped => cases after <;> rfl
  | _ => rfl

theorem reach_index (workerIdx : Fin n) (log : Log P) (w : Worker P n) (reached : Reach workerIdx log w) :
    w.workerIdx = workerIdx :=
  Machine.reach_invariant (machine P workerIdx) promised (fun _ w => w.workerIdx = workerIdx)
    (fun s start => by rw [start]; rfl)
    (fun _ s act next events _ same _ taken => (step_index s next act events taken).trans same) log w reached

-- No handler of this actor will run again.
def Dead (log : Log P) (w : Worker P n) (id : ActorId) : Prop := id ∈ log.gone ∨ w.phase.closing = true

theorem dead_step (log events : Log P) (w next : Worker P n) (act : Act P) (moves : Moves w act events next)
    (id : ActorId) (dead : Dead log w id) : Dead (log ++ events) next id := by
  rcases dead with stopped | closed
  · left
    simp [stopped]
  · exact Or.inr (closing_step w next act events moves closed)

theorem dead_handles (log events : Log P) (w next : Worker P n) (act : Act P) (placed : Placed log w)
    (moves : Moves w act events next) (envelope : Message P) (reply : P.Reply)
    (handled : .handled envelope reply ∈ events) : ¬ Dead log w envelope.actorId := by
  obtain ⟨turn, cell, ctx, here, _⟩ := handled_inv moves envelope reply handled
  rintro (stopped | closed)
  · exact (placed.taken envelope.actorId cell (by rw [here]; rfl)).2.2.1 stopped
  · rw [here] at closed
    cases closed

theorem panicked_gone (workerIdx : Fin n) (log : Log P) (w : Worker P n) (reached : Reach workerIdx log w) :
    ∀ envelope, .panicked envelope ∈ log → envelope.actorId ∈ log.gone := by
  refine Machine.reach_invariant (machine P workerIdx) promised
    (fun log _ => ∀ envelope, .panicked envelope ∈ log → envelope.actorId ∈ Log.gone log) (by simp) ?_ log w reached
  intro log s act next events before panics kept taken envelope member
  rw [Log.gone_append]
  rcases List.mem_append.mp member with old | new
  · exact List.mem_append_left _ (panics envelope old)
  · have placed := (reach_sound workerIdx log s before).placed
    obtain ⟨turn, cell, ctx, val, here, events_⟩ := panicked_inv (step_moves _ _ _ _ taken) envelope new
    have typed := (placed.taken envelope.actorId cell (by rw [here]; rfl)).2.1
    rw [events_, begin_stop_events s _ (cell.write val) _ typed]
    exact List.mem_append_right _ (List.mem_singleton.mpr rfl)

-- The types agree: no message meets an actor of another type, and no stopped
-- hook is skipped.
theorem well_typed (workerIdx : Fin n) (log : Log P) (w : Worker P n) (reached : Reach workerIdx log w) :
    (∀ envelope, .mismatched envelope ∉ log) ∧ ∀ id, .stopSkipped id ∉ log := by
  refine Machine.reach_invariant (machine P workerIdx) promised
    (fun log _ => (∀ envelope, .mismatched envelope ∉ log) ∧ ∀ id, .stopSkipped id ∉ log) (by simp) ?_ log w reached
  intro log s act next events before typed kept taken
  have sound := reach_sound workerIdx log s before
  have moves := step_moves s next act events taken
  constructor
  · intro envelope member
    rcases List.mem_append.mp member with old | new
    · exact typed.1 envelope old
    · obtain ⟨turn, popped, scheduler, cell, _, ready, dequeued, present, untyped⟩ := mismatched_inv moves envelope new
      have head := (dequeue_head _ _ _ turn envelope ready dequeued).1
      exact untyped (dispatched_typed log s sound.placed sound.mail turn envelope cell (by simp [head]) present)
  · intro id member
    rcases List.mem_append.mp member with old | new
    · exact typed.2 id old
    · obtain ⟨cell, untyped, present | inHand⟩ := stop_skipped_inv moves id new
      · exact untyped (sound.placed.mapped id cell present).2.1.symm
      · exact untyped (sound.placed.taken id cell inHand).2.1.symm

end Worker

end Actinium
