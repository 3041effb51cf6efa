import Actinium.RuntimeSends

set_option autoImplicit false

namespace Actinium

variable {P : Program} {n : Nat}

-- The runs of the handler on one message, anywhere in the runtime.
def Trace.runsOf (log : Trace P n) (serial : Nat) : List (Message P) :=
  Keyed.select (fun envelope => envelope.dispatch.serial) serial log.begun

theorem begun_accepted (log : Log P) (w : Worker P n) (mail : Worker.Mail log w) (envelope : Message P)
    (begun : envelope ∈ log.begun) : envelope ∈ log.accepted := by
  have inside : envelope ∈ about envelope.actorId log.begun := (Keyed.mem_select _ _ _ _).mpr ⟨begun, rfl⟩
  exact ((Keyed.mem_select _ _ _ _).mp ((mail.front envelope.actorId).subset inside)).1

theorem runs_once (log : Trace P n) (s : State P n) (routed : State.Routed log s) (w : Fin n) (envelope : Message P)
    (begun : envelope ∈ (log.worker w).begun) : log.runsOf envelope.dispatch.serial = [envelope] := by
  have mail (v : Fin n) := (Worker.reach_sound v _ _ (routed.workers v)).mail
  have accepted := begun_accepted _ _ (mail w) envelope begun
  have here : log.runsOf envelope.dispatch.serial =
      Keyed.select (fun envelope => envelope.dispatch.serial) envelope.dispatch.serial (log.worker w).begun := by
    refine Trace.begun_at_one _ _ log w fun v other => ?_
    apply Keyed.select_none
    intro mail' member same
    exact other (routed.apart v w _ (begun_accepted _ _ (mail v) mail' member) envelope accepted same)
  rw [here, ← Keyed.select_select _ Envelope.actorId _ envelope.actorId]
  · refine Keyed.select_single _ _ envelope ?_ ((Keyed.mem_select _ _ _ _).mpr ⟨begun, rfl⟩)
    exact (serials_about (log.worker w) _ (mail w).serials).sublist (((mail w).front envelope.actorId).sublist.map _)
  · intro other member same
    have equal := Worker.accepted_unique _ _ (mail w) other envelope (begun_accepted _ _ (mail w) other member) accepted same
    rw [equal]

theorem over_nodup (log : Log P) (w : Worker P n) (mail : Worker.Mail log w) (id : ActorId) :
    (about id log.finished ++ about id log.dropped).Nodup := by
  have accepted := (serials_about log id mail.serials).of_map
  exact ((mail.every id).nodup_iff.mp accepted).sublist (List.sublist_append_left _ _)

-- A message that was handled was not lost as well, nor handled with another reply.
theorem handled_only (log : Log P) (w : Worker P n) (mail : Worker.Mail log w) (envelope : Message P) (reply : P.Reply)
    (handled : .handled envelope reply ∈ log) :
    (∀ other, .handled envelope other ∈ log → other = reply) ∧ .panicked envelope ∉ log ∧ envelope ∉ log.dropped := by
  have nodup : log.finished.Nodup := Keyed.nodup_of_select Envelope.actorId _ fun id =>
    (over_nodup log w mail id).sublist (List.sublist_append_left _ _)
  refine ⟨?_, ?_, ?_⟩
  · intro other again
    have same := Keyed.nodup_filter_map _ log nodup _ _ envelope handled again rfl rfl
    exact (Event.handled.inj same).2.symm
  · intro panicked
    have same := Keyed.nodup_filter_map _ log nodup _ _ envelope handled panicked rfl rfl
    cases same
  · intro dropped
    have finished := (Log.mem_finished log envelope).mpr (Or.inl ⟨reply, handled⟩)
    refine (List.nodup_append.mp (over_nodup log w mail envelope.actorId)).2.2 envelope ?_ envelope ?_ rfl
    · exact (Keyed.mem_select _ _ _ _).mpr ⟨finished, rfl⟩
    · exact (Keyed.mem_select _ _ _ _).mpr ⟨dropped, rfl⟩

-- The envelope of a send, once its channel has taken it.
theorem send_envelope (log : Trace P n) (s : State P n) (routed : State.Routed log s) (answered : Answered log s)
    (k : Nat) (call : SendCall P n) (found : s.sends k = some call) (w : Fin n) (envelope : Message P)
    (accepted : envelope ∈ (log.worker w).accepted) (serial : envelope.dispatch.serial = k) :
    w = call.addr.tx ∧ envelope.actorId = call.addr.actorId ∧ call.state.Agrees (log.worker call.addr.tx) envelope := by
  rcases answered.answers k call found with ⟨own, taken, number, _, actor, agrees⟩ | ⟨_, _, never⟩
  · have same := routed.apart w call.addr.tx envelope accepted own taken (serial.trans number.symm)
    subst same
    have equal := Worker.accepted_unique _ _ (Worker.reach_sound _ _ _ (routed.workers _)).mail envelope own accepted taken
      (serial.trans number.symm)
    exact ⟨rfl, equal ▸ actor, equal ▸ agrees⟩
  · exact absurd serial (never w envelope accepted)

-- A handler that returned has answered its send, and nothing else has.
theorem handled_answers (log : Trace P n) (s : State P n) (routed : State.Routed log s) (answered : Answered log s)
    (k : Nat) (addr : Addr P n) (state : SendState P) (found : s.sends k = some ⟨addr, state⟩) (w : Fin n)
    (envelope : Message P) (reply : P.Reply) (handled : .at w (.handled envelope reply) ∈ log)
    (serial : envelope.dispatch.serial = k) :
    w = addr.tx ∧ envelope.actorId = addr.actorId ∧ (state = .replied reply ∨ state = .returned (.ok reply)) := by
  have here : .handled envelope reply ∈ log.worker w := (Trace.mem_worker w _ log).mpr handled
  have mail := (Worker.reach_sound w _ _ (routed.workers w)).mail
  have finished := (Log.mem_finished _ envelope).mpr (Or.inl ⟨reply, here⟩)
  obtain ⟨rfl, actor, agrees⟩ := send_envelope log s routed answered k _ found w envelope
    (Worker.accepted_of_over _ _ mail envelope (Or.inl finished)) serial
  obtain ⟨only, noPanic, noDrop⟩ := handled_only _ _ mail envelope reply here
  refine ⟨rfl, actor, ?_⟩
  cases state with
  | waiting => exact absurd finished agrees.1
  | replied other => exact Or.inl (by rw [only other agrees])
  | hungUp => exact (agrees.elim noPanic noDrop).elim
  | returned result =>
      cases result with
      | ok other => exact Or.inr (by rw [only other agrees])
      | error error =>
          cases error with
          | actorNotRunning => exact (agrees.elim noPanic noDrop).elim
          | runtimeShutdown => exact agrees.elim

theorem reply_handled (log : Trace P n) (s : State P n) (routed : State.Routed log s) (answered : Answered log s)
    (k : Nat) (addr : Addr P n) (state : SendState P) (found : s.sends k = some ⟨addr, state⟩) (reply : P.Reply)
    (replied : state = .replied reply ∨ state = .returned (.ok reply)) :
    ∃ envelope, log.runsOf k = [envelope] ∧ envelope.actorId = addr.actorId ∧ .at addr.tx (.handled envelope reply) ∈ log := by
  have mail := (Worker.reach_sound _ _ _ (routed.workers addr.tx)).mail
  rcases answered.answers k _ found with ⟨envelope, taken, number, _, actor, agrees⟩ | ⟨closed, _⟩
  · have handled : .handled envelope reply ∈ log.worker addr.tx := by
      rcases replied with rfl | rfl <;> exact agrees
    have begun : envelope ∈ (log.worker addr.tx).begun := by
      rw [mail.begun]
      exact List.mem_append_left _ ((Log.mem_finished _ _).mpr (Or.inl ⟨reply, handled⟩))
    refine ⟨envelope, ?_, actor, (Trace.mem_worker _ _ _).mp handled⟩
    rw [← number]
    exact runs_once log s routed addr.tx envelope begun
  · rcases replied with rfl | rfl <;> cases closed

theorem receiving_closing (phase : Phase P n) (closed : phase.receiving = false) : phase.closing = true := by
  cases phase <;> first | rfl | cases closed

-- A send fails only when its actor is gone for good.
theorem failed_dead (log : Trace P n) (s : State P n) (routed : State.Routed log s) (answered : Answered log s) (k : Nat)
    (addr : Addr P n) (error : SendError) (found : s.sends k = some ⟨addr, .returned (.error error)⟩) :
    Worker.Dead (log.worker addr.tx) (s.workers addr.tx) addr.actorId := by
  have reached := routed.workers addr.tx
  rcases answered.answers k _ found with ⟨envelope, _, _, _, actor, agrees⟩ | ⟨_, closed, _⟩
  · change envelope.actorId = addr.actorId at actor
    rw [← actor]
    cases error with
    | actorNotRunning =>
        rcases agrees with panicked | dropped
        · exact Or.inl (Worker.panicked_gone _ _ _ reached envelope panicked)
        · exact (Worker.reach_sound _ _ _ reached).mail.dropped envelope dropped
    | runtimeShutdown => exact agrees.elim
  · exact Or.inr (receiving_closing _ closed)

theorem dead_later (log later : Trace P n) (s next : State P n) (routed : State.Routed log s)
    (run : (runtime P n).Runs Machine.free log s later next) (w : Fin n) (id : ActorId)
    (dead : Worker.Dead (log.worker w) (s.workers w) id) (envelope : Message P) (reply : P.Reply)
    (handled : .handled envelope reply ∈ later.worker w) (own : envelope.actorId = id) :
    .handled envelope reply ∈ log.worker w := by
  have kept := Machine.runs_invariant (Worker.machine P w) Worker.promised
    (fun mid worker => Worker.Dead mid worker id ∧
      (.handled envelope reply ∈ mid → .handled envelope reply ∈ log.worker w))
    (log.worker w) (s.workers w) (routed.workers w) ⟨dead, fun member => member⟩ ?_ _ _
    (runs_worker log later s next routed run w).1
  · exact kept.2 handled
  · intro mid worker act next events before inv promise taken
    have moves := Worker.step_moves worker next act events taken
    refine ⟨Worker.dead_step mid events worker next act moves id inv.1, ?_⟩
    intro member
    rcases List.mem_append.mp member with old | new
    · exact inv.2 old
    · have placed := (Worker.reach_sound w _ _ before).placed
      exact absurd (own ▸ inv.1) (Worker.dead_handles mid events worker next act placed moves envelope reply new)

theorem accepted_later (log later : Trace P n) (s next : State P n) (reached : (runtime P n).Reach Machine.free log s)
    (run : (runtime P n).Runs Machine.free log s later next) (w : Fin n) (envelope : Message P)
    (member : envelope ∈ (later.worker w).accepted) :
    envelope ∈ (log.worker w).accepted ∨ s.nextSerial ≤ envelope.dispatch.serial := by
  have kept := Machine.runs_invariant (runtime P n) Machine.free
    (fun mid between => s.nextSerial ≤ between.nextSerial ∧ ∀ envelope ∈ (Trace.worker w mid).accepted,
      envelope ∈ (log.worker w).accepted ∨ s.nextSerial ≤ envelope.dispatch.serial)
    log s reached ⟨Nat.le_refl _, fun _ inside => Or.inl inside⟩ ?_ later next run
  · exact kept.2 envelope member
  · intro mid between action next entries before inv _ taken
    have moves := State.step_moves between next action entries taken
    refine ⟨Nat.le_trans inv.1 (State.counters_step between next action entries moves).2, ?_⟩
    intro mail inside
    rw [Trace.worker_append, Log.accepted_append] at inside
    rcases List.mem_append.mp inside with old | new
    · exact inv.2 mail old
    · obtain ⟨blocking, i, msg, addr, result, _, _, equal, _⟩ :=
        State.accepted_source between next action entries moves w mail new
      right
      rw [equal]
      exact inv.1

-- A send that failed was not handled, and never will be.
theorem failed_unhandled (log later : Trace P n) (s next : State P n) (reached : (runtime P n).Reach Machine.free log s)
    (run : (runtime P n).Runs Machine.free log s later next) (k : Nat) (addr : Addr P n) (error : SendError)
    (found : s.sends k = some ⟨addr, .returned (.error error)⟩) (w : Fin n) (envelope : Message P) (reply : P.Reply)
    (handled : .at w (.handled envelope reply) ∈ later) : envelope.dispatch.serial ≠ k := by
  intro serial
  have routed := reach_routed _ later next (Machine.reach_runs (runtime P n) _ log later s next reached run)
  have mail (v : Fin n) := (Worker.reach_sound v _ _ (routed.workers v)).mail
  have here : .handled envelope reply ∈ later.worker w := (Trace.mem_worker w _ later).mpr handled
  have taken := Worker.accepted_of_over _ _ (mail w) envelope (Or.inl ((Log.mem_finished _ _).mpr (Or.inl ⟨reply, here⟩)))
  obtain ⟨rest, rfl⟩ := Machine.runs_log (runtime P n) Machine.free log later s next run
  have answered := reach_answered _ log s reached
  rcases answered.answers k _ found with ⟨own, asked, number, _, _, agrees⟩ | ⟨_, _, never⟩
  · have alsoTaken : own ∈ (Trace.worker addr.tx (log ++ rest)).accepted := by
      rw [Trace.worker_append, Log.accepted_append]
      exact List.mem_append_left _ asked
    have same := routed.apart w addr.tx envelope taken own alsoTaken (serial.trans number.symm)
    subst same
    have equal := Worker.accepted_unique _ _ (mail _) envelope own taken alsoTaken (serial.trans number.symm)
    subst equal
    obtain ⟨_, noPanic, noDrop⟩ := handled_only _ _ (mail _) envelope reply here
    rw [Trace.worker_append] at noPanic noDrop
    cases error with
    | actorNotRunning =>
        rcases agrees with panicked | dropped
        · exact noPanic (List.mem_append_left _ panicked)
        · refine noDrop ?_
          rw [Log.dropped_append]
          exact List.mem_append_left _ dropped
    | runtimeShutdown => exact agrees.elim
  · rcases accepted_later log _ s next reached run w envelope taken with old | new
    · exact never w envelope old serial
    · rw [serial] at new
      exact absurd (answered.fresh k _ found) (Nat.not_lt.mpr new)

-- After a send failed, no send to the same actor succeeds.
theorem failed_forever (log later : Trace P n) (s next : State P n) (reached : (runtime P n).Reach Machine.free log s)
    (run : (runtime P n).Runs Machine.free log s later next) (k : Nat) (addr : Addr P n) (error : SendError)
    (found : s.sends k = some ⟨addr, .returned (.error error)⟩) (k' : Nat) (addr' : Addr P n) (state : SendState P)
    (begun : s.nextSerial ≤ k') (sent : next.sends k' = some ⟨addr', state⟩) (same : addr'.actorId = addr.actorId)
    (reply : P.Reply) : state ≠ .replied reply ∧ state ≠ .returned (.ok reply) := by
  rw [← not_or]
  intro succeeded
  have after := Machine.reach_runs (runtime P n) _ log later s next reached run
  have before := reach_routed _ log s reached
  have routed := reach_routed _ later next after
  have answered := reach_answered _ log s reached
  obtain ⟨envelope, runs, actor, handled⟩ :=
    reply_handled later next routed (reach_answered _ later next after) k' addr' state sent reply succeeded
  have serial : envelope.dispatch.serial = k' := by
    have member : envelope ∈ later.runsOf k' := by simp [runs]
    exact ((Keyed.mem_select _ _ _ _).mp member).2
  obtain ⟨rest, rfl⟩ := Machine.runs_log (runtime P n) Machine.free log later s next run
  have there : (log ++ rest).Claimed addr.tx addr.actorId := by
    refine (Trace.claimed_append _ _ _ _).mpr (Or.inl (Or.inl ?_))
    exact Worker.known_of_installed _ _ _ (answered.target k _ found)
  have here : .handled envelope reply ∈ Trace.worker addr'.tx (log ++ rest) := (Trace.mem_worker _ _ _).mpr handled
  have taken := Worker.accepted_of_over _ _ (Worker.reach_sound _ _ _ (routed.workers addr'.tx)).mail envelope
    (Or.inl ((Log.mem_finished _ _).mpr (Or.inl ⟨reply, here⟩)))
  have claimed := accepted_claimed _ next routed addr'.tx envelope taken
  have tx := routed.once _ _ _ (actor.trans same ▸ claimed) there
  rw [tx] at here
  have earlier := dead_later log _ s next before run addr.tx addr.actorId
    (failed_dead log s before answered k addr error found) envelope reply here (actor.trans same)
  have bound := before.serials addr.tx envelope (Worker.accepted_of_over _ _
    (Worker.reach_sound _ _ _ (before.workers addr.tx)).mail envelope
    (Or.inl ((Log.mem_finished _ _).mpr (Or.inl ⟨reply, earlier⟩))))
  rw [serial] at bound
  exact absurd bound (Nat.not_lt.mpr begun)

-- The envelope of a send that waits is on its way or in the hands of the worker.
theorem waiting_pending (log : Trace P n) (s : State P n) (routed : State.Routed log s) (answered : Answered log s)
    (k : Nat) (addr : Addr P n) (found : s.sends k = some ⟨addr, .waiting⟩) :
    ∃ envelope ∈ (s.workers addr.tx).pending addr.actorId, envelope.dispatch.serial = k := by
  have mail := (Worker.reach_sound _ _ _ (routed.workers addr.tx)).mail
  rcases answered.answers k _ found with ⟨envelope, taken, number, _, actor, agrees⟩ | ⟨closed, _⟩
  · refine ⟨envelope, ?_, number⟩
    have inside : envelope ∈ about addr.actorId (log.worker addr.tx).accepted := (Keyed.mem_select _ _ _ _).mpr ⟨taken, actor⟩
    rw [(mail.every addr.actorId).mem_iff] at inside
    rcases List.mem_append.mp inside with past | still
    · rcases List.mem_append.mp past with finished | dropped
      · exact absurd ((Keyed.mem_select _ _ _ _).mp finished).1 agrees.1
      · exact absurd ((Keyed.mem_select _ _ _ _).mp dropped).1 agrees.2
    · exact still
  · cases closed

theorem ended_empty (log : Log P) (w : Worker P n) (sound : Worker.Sound log w) (panicked : Bool)
    (ended : w.phase = .ended panicked) (id : ActorId) : w.pending id = [] := by
  simp [Worker.pending, ended, Phase.current, sound.owned.noMail panicked ended id,
    sound.owned.noMsgs (by rw [ended]; rfl)]

-- A blocking send, at any moment of any run: it returns Ok exactly for the
-- reply of the one run of its handler; once it failed nothing handles it, nor
-- any later send to the actor; and its envelope is never left behind.
theorem send_outcome (log : Trace P n) (s : State P n) (reached : (runtime P n).Reach Machine.free log s) (k : Nat)
    (addr : Addr P n) (state : SendState P) (found : s.sends k = some ⟨addr, state⟩) :
    (∀ result reply, state = .returned result → (result = .ok reply ↔
      ∃ envelope, log.runsOf k = [envelope] ∧ envelope.actorId = addr.actorId ∧
        .at addr.tx (.handled envelope reply) ∈ log)) ∧
    (∀ w envelope reply, .at w (.handled envelope reply) ∈ log → envelope.dispatch.serial = k →
      state = .replied reply ∨ state = .returned (.ok reply)) ∧
    (∀ error, state = .returned (.error error) → ∀ later next, (runtime P n).Runs Machine.free log s later next →
      (∀ w envelope reply, .at w (.handled envelope reply) ∈ later → envelope.dispatch.serial ≠ k) ∧
      ∀ k' addr' after, s.nextSerial ≤ k' → next.sends k' = some ⟨addr', after⟩ → addr'.actorId = addr.actorId →
        ∀ reply, after ≠ .replied reply ∧ after ≠ .returned (.ok reply)) ∧
    (state = .waiting → ∃ envelope ∈ (s.workers addr.tx).pending addr.actorId, envelope.dispatch.serial = k) ∧
    (∀ panicked, (s.workers addr.tx).phase = .ended panicked → state ≠ .waiting) := by
  have routed := reach_routed _ log s reached
  have answered := reach_answered _ log s reached
  refine ⟨?_, ?_, ?_, ?_, ?_⟩
  · rintro result reply rfl
    constructor
    · rintro rfl
      exact reply_handled log s routed answered k addr _ found reply (Or.inr rfl)
    · rintro ⟨envelope, runs, _, handled⟩
      have member : envelope ∈ log.runsOf k := by simp [runs]
      have serial := ((Keyed.mem_select _ _ _ _).mp member).2
      rcases (handled_answers log s routed answered k addr _ found _ envelope reply handled serial).2.2 with wrong | same
      · cases wrong
      · exact SendState.returned.inj same
  · intro w envelope reply handled serial
    exact (handled_answers log s routed answered k addr state found w envelope reply handled serial).2.2
  · rintro error rfl later next run
    exact ⟨failed_unhandled log later s next reached run k addr error found,
      failed_forever log later s next reached run k addr error found⟩
  · rintro rfl
    exact waiting_pending log s routed answered k addr found
  · rintro panicked ended rfl
    obtain ⟨envelope, member, _⟩ := waiting_pending log s routed answered k addr found
    rw [ended_empty _ _ (reach_worker _ log s reached addr.tx) panicked ended] at member
    cases member

-- The handler panics on the first of two messages sent.
def panicOnFirst : List (Action numbers 1) :=
  spawnOne ++ ([.send 0 5, .doSend 0 6, .worker 0 .pollControl, .worker 0 .drain, .worker 0 .drain, .worker 0 .drain,
    .worker 0 .runTurn, .worker 0 (.handlerPanic 3), .worker 0 .hookReturn, .recvResult 0] : List (Action numbers 1))

theorem send_outcome_panic : ∃ (log : Trace numbers 1) (s : State numbers 1),
    (runtime numbers 1).Reach Machine.free log s ∧ s.nextSerial = 2 ∧
      s.sends 0 = some ⟨⟨1, 0, ()⟩, .returned (.error .actorNotRunning)⟩ ∧
      ∀ later next, (runtime numbers 1).Runs Machine.free log s later next →
        ∀ k' addr' after, 2 ≤ k' → next.sends k' = some ⟨addr', after⟩ → addr'.actorId = 1 →
          ∀ reply, after ≠ .replied reply ∧ after ≠ .returned (.ok reply) := by
  have reached := Machine.run_reach (runtime numbers 1) _ _ _ panicOnFirst rfl rfl
  refine ⟨_, _, reached, rfl, rfl, ?_⟩
  intro later next run
  exact ((send_outcome _ _ reached 0 ⟨1, 0, ()⟩ _ rfl).2.2.1 _ rfl later next run).2

end Actinium
