import Actinium.Replies

set_option autoImplicit false

namespace Actinium

variable {P : Program} {n : Nat}

namespace Phase

-- A panic has unwound out of Worker::run.
def crashed : Phase P n → Bool
  | .dropControl panicked => panicked
  | .dropMsgs panicked => panicked
  | .dropScheduler panicked => panicked
  | .ended panicked => panicked
  | _ => false

-- The worker is in the loop of Worker::run.
def looping : Phase P n → Bool
  | .control => true
  | .confirming _ => true
  | .drain => true
  | .turn => true
  | .idle => true
  | .handling _ _ _ _ => true
  | .handled _ _ _ _ => true
  | .stopping _ _ _ (.turn _) => true
  | _ => false

-- The actor has called ctx.stop() and its stopped hook is next.
def leaving (id : ActorId) : Phase P n → Bool
  | .handling _ envelope _ ctx => decide (envelope.actorId = id) && !ctx.running
  | .handled _ other _ running => decide (other = id) && !running
  | _ => false

-- A callback runs: the next step of the worker is up to it.
def inCallback : Phase P n → Bool
  | .handling _ _ _ _ => true
  | .stopping _ _ _ _ => true
  | _ => false

-- How far the worker is from its next poll for messages.
def distance : Phase P n → Nat
  | .handling _ _ _ ctx => if ctx.running then 9 else 8
  | .handled _ _ _ _ => 7
  | .stopping _ _ ctx _ => if ctx.running then 6 else 5
  | .confirming _ => 4
  | .control => 3
  | .drain => 2
  | .turn => 1
  | _ => 0

theorem looping_open (phase : Phase P n) (loops : phase.looping = true) : phase.closing = false := by
  cases phase <;> first | rfl | cases loops

theorem closing_to_stop (phase : Phase P n) (closes : phase.closing = true) : phase.toStop = [] := by
  cases phase <;> first | rfl | cases closes

end Phase

namespace Worker

-- A panic ends Worker::run only where a stopped hook is called.
theorem crashed_step (w next : Worker P n) (act : Act P) (events : Log P) (moves : Moves w act events next) :
    next.phase.crashed = w.phase.crashed ∧ (∀ id, .stopPanicked id ∉ events) ∨
      next.phase.crashed = true ∧ ∃ id, .stopPanicked id ∈ events := by
  cases moves with
  | hookPanic senders id cell ctx after here typed => exact Or.inr ⟨rfl, id, List.mem_singleton.mpr rfl⟩
  | post => exact Or.inl ⟨rfl, by simp⟩
  | postControl msg alive => exact Or.inl ⟨rfl, by cases msg <;> simp [controlEvent]⟩
  | direct => exact Or.inl ⟨rfl, by simp⟩
  | drain => exact Or.inl ⟨rfl, by simp⟩
  | hookReturn senders id cell ctx after here typed =>
      exact Or.inl ⟨by rw [here]; cases after <;> rfl, by simp⟩
  | hookSkip senders id cell ctx after here untyped =>
      exact Or.inl ⟨by rw [here]; cases after <;> rfl, by simp⟩
  | _ => exact Or.inl ⟨by simp only [*]; rfl, by simp [mem_begin_stop, mem_refusals]⟩

theorem crashed_iff (workerIdx : Fin n) (log : Log P) (w : Worker P n) (reached : Reach workerIdx log w) :
    w.phase.crashed = true ↔ ∃ id, .stopPanicked id ∈ log := by
  refine Machine.reach_invariant (machine P workerIdx) promised
    (fun log w => w.phase.crashed = true ↔ ∃ id, .stopPanicked id ∈ log) ?_ ?_ log w reached
  · intro s begins
    rw [begins]
    simp [start, Phase.crashed]
  · intro log s act next events before same kept taken
    rcases crashed_step s next act events (step_moves s next act events taken) with ⟨phase, silent⟩ | ⟨phase, id, member⟩
    · rw [phase, same]
      simp [silent]
    · simp only [phase, true_iff]
      exact ⟨id, List.mem_append_right _ member⟩

-- A worker that waits for messages has none in its mailboxes.
theorem idle_empty (workerIdx : Fin n) (log : Log P) (w : Worker P n) (reached : Reach workerIdx log w)
    (idle : w.phase = .idle) (id : ActorId) : w.scheduler.mailbox id = [] := by
  refine Machine.reach_invariant (machine P workerIdx) promised
    (fun _ w => w.phase = .idle → ∀ id, w.scheduler.mailbox id = []) ?_ ?_ log w reached idle id
  · intro s begins idle
    rw [begins] at idle
    cases idle
  · intro log s act next events before same kept taken idle id
    have served := (reach_sound workerIdx log s before).served
    cases step_moves s next act events taken with
    | post => exact same idle id
    | postControl => exact same idle id
    | direct => exact same idle id
    | drain senders envelope rest here =>
        change s.phase = .idle at idle
        rw [here] at idle
        cases idle
    | idle senders scheduler here ready =>
        have wf := served.resting (by rw [here]; rfl) (by rw [here]; rfl)
        have mail := Scheduler.mailbox_next_ready s.scheduler id
        rw [ready] at mail
        change scheduler.mailbox id = []
        rw [mail]
        exact (Scheduler.wf_idle_iff s.scheduler wf).mp (by rw [ready]) id
    | hookReturn senders other cell ctx after => cases after <;> cases idle
    | hookSkip senders other cell ctx after => cases after <;> cases idle
    | _ => cases idle

-- A sweep lets go of an id by calling its stopped hook, or by crashing.
theorem sweep_step (log events : Log P) (w next : Worker P n) (act : Act P) (placed : Placed log w) (sweeping : Sweeping w)
    (moves : Moves w act events next) (id : ActorId) (member : id ∈ w.phase.toStop) :
    id ∈ events.gone ∨ id ∈ next.phase.toStop ∨ ∃ other, .stopPanicked other ∈ events := by
  cases moves with
  | post => exact Or.inr (Or.inl member)
  | postControl => exact Or.inr (Or.inl member)
  | direct => exact Or.inr (Or.inl member)
  | drain => exact Or.inr (Or.inl member)
  | stopHook other cell ctx after here =>
      rw [here] at member
      cases after with
      | turn turn => cases member
      | stopAll ids => exact Or.inr (Or.inl member)
  | hookReturn senders other cell ctx after here typed =>
      rw [here] at member
      cases after with
      | turn turn => cases member
      | stopAll ids => exact Or.inr (Or.inl member)
  | hookSkip senders other cell ctx after here untyped =>
      rw [here] at member
      cases after with
      | turn turn => cases member
      | stopAll ids => exact Or.inr (Or.inl member)
  | hookPanic senders other cell ctx after here typed => exact Or.inr (Or.inr ⟨other, List.mem_singleton.mpr rfl⟩)
  | stopGone senders other ids here absent =>
      obtain ⟨cell, found⟩ := sweeping.present other (by rw [here]; simp [Phase.toStop])
      rw [absent] at found
      cases found
  | stopNext senders other ids cell here present =>
      rw [here] at member
      rcases List.mem_cons.mp member with rfl | later
      · left
        rw [begin_stop_events w _ cell _ (placed.mapped _ cell present).2.1]
        exact List.mem_singleton.mpr rfl
      · exact Or.inr (Or.inl later)
  | _ =>
      simp only [*, Phase.toStop] at member
      cases member

-- What a sweep was to stop it has stopped, or will still.
theorem snapshot_swept (workerIdx : Fin n) (log : Log P) (w : Worker P n) (reached : Reach workerIdx log w)
    (calm : ∀ id, .stopPanicked id ∉ log) (ids : List ActorId) (taken : .snapshot ids ∈ log) (id : ActorId)
    (member : id ∈ ids) : id ∈ log.gone ∨ id ∈ w.phase.toStop := by
  refine Machine.reach_invariant (machine P workerIdx) promised
    (fun log w => (∀ id, .stopPanicked id ∉ log) → ∀ ids, .snapshot ids ∈ log → ∀ id ∈ ids,
      id ∈ Log.gone log ∨ id ∈ w.phase.toStop) ?_ ?_ log w reached calm ids taken id member
  · intro s begins calm ids taken
    cases taken
  · intro log s act next events before same kept stepped calm ids taken id member
    have sound := reach_sound workerIdx log s before
    have moves := step_moves s next act events stepped
    have quiet (other : ActorId) : .stopPanicked other ∉ log := fun wrong => calm other (List.mem_append_left _ wrong)
    rw [Log.gone_append]
    rcases List.mem_append.mp taken with old | new
    · rcases same quiet ids old id member with stopped | waits
      · exact Or.inl (List.mem_append_left _ stopped)
      · rcases sweep_step log events s next act sound.placed sound.sweeping moves id waits with now | later | ⟨other, wrong⟩
        · exact Or.inl (List.mem_append_right _ now)
        · exact Or.inr later
        · exact absurd (List.mem_append_right _ wrong) (calm other)
    · right
      rw [(snapshot_inv moves ids new).2.2]
      exact member

-- The worker and the callbacks it runs, of which no stopped hook panics, and
-- this actor's handler neither panics nor asks to stop.
def steadfast (id : ActorId) : Machine.Rely (Worker P n) (Act P) (Event P) := fun _ w act =>
  match act with
  | .own _ .hookPanic => False
  | .own _ (.handlerPanic _) => ∀ envelope, w.phase.current = some envelope → envelope.actorId ≠ id
  | .own _ _ => True
  | .stopCtx => (∀ envelope, w.phase.current = some envelope → envelope.actorId ≠ id) ∧
      match w.phase with
      | .handling _ _ _ ctx => ctx.running = true
      | .stopping _ _ ctx _ => ctx.running = true
      | _ => False
  | _ => False

-- Panics do not crash the worker, lose the mail of others, keep it from being
-- handled, or keep a sweep from calling the stopped hooks that are left.
structure Isolated (log : Log P) (w : Worker P n) : Prop where
  alive : w.phase.crashed = false
  kept : w.phase.closing = false → ∀ id, id ∉ log.gone → about id log.accepted = about id log.finished ++ w.pending id
  handles : w.phase.looping = true → .shutdown ∉ w.controlRx.queue →
    ∀ envelope ∈ log.accepted, envelope.actorId ∉ log.gone → w.phase.leaving envelope.actorId = false →
      (machine P w.workerIdx).Inevitable (steadfast envelope.actorId) (fun w => w.phase.inCallback = true)
        (fun later _ => ∃ reply, .handled envelope reply ∈ later) log w
  swept : w.phase.closing = true → ∀ ids, .snapshot ids ∈ log → ∀ id ∈ ids, id ∈ log.gone

-- What was begun or dropped was accepted, each message once.
theorem taken_length (log : Log P) (w : Worker P n) (mail : Mail log w) :
    log.begun.length + log.dropped.length ≤ log.accepted.length := by
  have nodup : (log.begun ++ log.dropped).Nodup := by
    refine Keyed.nodup_of_select Envelope.actorId _ fun id => ?_
    have accepted := (mail.every id).nodup_iff.mp (serials_about log id mail.serials).of_map
    rw [Keyed.select_append, mail.begun]
    have part : (about id log.finished ++ about id log.dropped ++ about id w.phase.current.toList).Sublist
        (about id log.finished ++ about id log.dropped ++ w.pending id) := by
      simp only [pending, List.append_assoc]
      exact List.Sublist.append_left (List.Sublist.append_left (List.sublist_append_left _ _) _) _
    refine (List.Perm.nodup_iff ?_).mp (accepted.sublist part)
    simp only [Keyed.select_append, List.append_assoc]
    exact List.Perm.append_left _ List.perm_append_comm
  rw [← List.length_append]
  refine (List.subperm_of_subset nodup ?_).length_le
  intro envelope member
  rcases List.mem_append.mp member with begun | dropped
  · exact begun_accepted log w mail envelope begun
  · exact accepted_of_over log w mail envelope (Or.inr dropped)

def todo (log : Log P) (w : Worker P n) : Nat :=
  10 * (log.accepted.length - (log.begun.length + log.dropped.length) + w.msgRx.queue.length + w.controlRx.queue.length) +
    w.phase.distance

-- What holds until the message is handled.
structure Awaiting (envelope : Message P) (log : Log P) (w : Worker P n) : Prop where
  reached : Reach w.workerIdx log w
  loops : w.phase.looping = true
  noShutdown : .shutdown ∉ w.controlRx.queue
  accepted : envelope ∈ log.accepted
  living : envelope.actorId ∉ log.gone
  staying : w.phase.leaving envelope.actorId = false

theorem awaiting_pending (envelope : Message P) (log : Log P) (w : Worker P n) (awaiting : Awaiting envelope log w)
    (unhandled : ¬ ∃ reply, .handled envelope reply ∈ log) : envelope ∈ w.pending envelope.actorId := by
  have mail := (reach_sound _ log w awaiting.reached).mail
  have isOpen := Phase.looping_open _ awaiting.loops
  have inside : envelope ∈ about envelope.actorId log.accepted := (Keyed.mem_select _ _ _ _).mpr ⟨awaiting.accepted, rfl⟩
  rw [mail.order isOpen, dropped_alive log w mail _ isOpen awaiting.living, List.append_nil] at inside
  rcases List.mem_append.mp inside with finished | pending
  · exfalso
    rcases (Log.mem_finished _ _).mp ((Keyed.mem_select _ _ _ _).mp finished).1 with handled | panicked
    · exact unhandled handled
    · exact awaiting.living (panicked_gone _ log w awaiting.reached envelope panicked)
  · exact pending

theorem awaiting_enabled (envelope : Message P) (log : Log P) (w : Worker P n) (awaiting : Awaiting envelope log w) :
    w.phase.inCallback = true ∨ ∃ act result, steadfast envelope.actorId log w act ∧ w.step act = some result := by
  have takes (act : Own P) (allowed : steadfast envelope.actorId log w (.own 1 act))
      (enabled : (w.ownStep 1 act).isSome = true) :
      ∃ act result, steadfast envelope.actorId log w act ∧ w.step act = some result := by
    obtain ⟨result, taken⟩ := Option.isSome_iff_exists.mp enabled
    exact ⟨.own 1 act, result, allowed, taken⟩
  have loops := awaiting.loops
  cases here : w.phase with
  | handling turn other cell ctx => exact Or.inl rfl
  | stopping id cell ctx after => exact Or.inl rfl
  | control =>
      refine Or.inr (takes .pollControl trivial ?_)
      simp only [ownStep, pollControl, here]
      split <;> rfl
  | confirming id => exact Or.inr (takes .confirm trivial (by simp [ownStep, confirm, here]))
  | drain =>
      refine Or.inr (takes .drain trivial ?_)
      simp only [ownStep, drain, here]
      split <;> rfl
  | turn =>
      refine Or.inr (takes .runTurn trivial ?_)
      simp only [ownStep, runTurn, here]
      split
      · rfl
      · split <;> rfl
  | idle =>
      refine Or.inr (takes .recvTimeout trivial ?_)
      simp only [ownStep, recvTimeout, here]
      split <;> rfl
  | handled turn id cell running =>
      refine Or.inr (takes .settle trivial ?_)
      cases running <;> simp [ownStep, settle, here]
  | _ =>
      rw [here] at loops
      cases loops

theorem todo_lower (log events : Log P) (w next : Worker P n) (mail : Mail (log ++ events) next)
    (noAccept : events.accepted = [])
    (less : 10 * (next.msgRx.queue.length + next.controlRx.queue.length) + next.phase.distance <
      10 * (events.begun.length + events.dropped.length + w.msgRx.queue.length + w.controlRx.queue.length) +
        w.phase.distance) : todo (log ++ events) next < todo log w := by
  have bound := taken_length _ _ mail
  simp only [todo, Log.accepted_append, Log.begun_append, Log.dropped_append, List.length_append, noAccept,
    List.length_nil] at bound ⊢
  omega

theorem awaiting_lower (envelope : Message P) (log events : Log P) (w next : Worker P n) (act : Act P)
    (awaiting : Awaiting envelope log w) (unhandled : ¬ ∃ reply, .handled envelope reply ∈ log)
    (allowed : steadfast envelope.actorId log w act) (taken : w.step act = some (next, events)) :
    Awaiting envelope (log ++ events) next ∧ todo (log ++ events) next < todo log w := by
  have moves := step_moves w next act events taken
  have sound := reach_sound _ log w awaiting.reached
  have kept : promised log w act := by
    cases act with
    | own senders own => trivial
    | stopCtx => trivial
    | _ => exact allowed.elim
  have after := sound_step log events w next act sound kept taken
  have waiting := awaiting_pending envelope log w awaiting unhandled
  have loops := awaiting.loops
  have frame (noAccept : events.accepted = []) (stillLoops : next.phase.looping = true)
      (living : envelope.actorId ∉ events.gone) (staying : next.phase.leaving envelope.actorId = false)
      (less : 10 * (next.msgRx.queue.length + next.controlRx.queue.length) + next.phase.distance <
        10 * (events.begun.length + events.dropped.length + w.msgRx.queue.length + w.controlRx.queue.length) +
          w.phase.distance) :
      Awaiting envelope (log ++ events) next ∧ todo (log ++ events) next < todo log w := by
    refine ⟨⟨?_, stillLoops, ?_, ?_, ?_, staying⟩, todo_lower log events w next after.mail noAccept less⟩
    · have same := step_index w next act events taken
      rw [same]
      exact .step log w next act events awaiting.reached kept taken
    · intro queued
      rcases queued_inv moves _ queued with earlier | posted
      · exact awaiting.noShutdown earlier
      · rw [posted] at allowed
        exact allowed
    · rw [Log.accepted_append]
      exact List.mem_append_left _ awaiting.accepted
    · rw [Log.gone_append]
      intro stopped
      rcases List.mem_append.mp stopped with earlier | now
      · exact awaiting.living earlier
      · exact living now
  -- the step only brings the worker nearer to its next poll
  have nearer (noAccept : events.accepted = []) (stillLoops : next.phase.looping = true)
      (living : envelope.actorId ∉ events.gone) (staying : next.phase.leaving envelope.actorId = false)
      (msgs : next.msgRx = w.msgRx) (control : next.controlRx = w.controlRx)
      (less : next.phase.distance < w.phase.distance) :
      Awaiting envelope (log ++ events) next ∧ todo (log ++ events) next < todo log w := by
    refine frame noAccept stillLoops living staying ?_
    rw [msgs, control]
    omega
  -- the step takes one thing off what is to be done
  have fewer (noAccept : events.accepted = []) (stillLoops : next.phase.looping = true)
      (living : envelope.actorId ∉ events.gone) (staying : next.phase.leaving envelope.actorId = false)
      (one : next.msgRx.queue.length + next.controlRx.queue.length + 1 ≤
        events.begun.length + events.dropped.length + w.msgRx.queue.length + w.controlRx.queue.length)
      (near : next.phase.distance < w.phase.distance + 10) :
      Awaiting envelope (log ++ events) next ∧ todo (log ++ events) next < todo log w := by
    refine frame noAccept stillLoops living staying ?_
    omega
  cases moves with
  | post => exact allowed.elim
  | postControl => exact allowed.elim
  | direct => exact allowed.elim
  | stopHandler turn other cell ctx here =>
      obtain ⟨different, running⟩ := allowed
      rw [here] at running
      have elsewhere := different other (by rw [here]; rfl)
      refine nearer rfl rfl List.not_mem_nil (by simp [Phase.leaving, elsewhere]) rfl rfl ?_
      simp [here, Phase.distance, running, Context.stop]
  | stopHook id cell ctx next here =>
      obtain ⟨_, running⟩ := allowed
      rw [here] at running loops
      cases next with
      | turn turn =>
          refine nearer rfl rfl List.not_mem_nil rfl rfl rfl ?_
          simp [here, Phase.distance, running, Context.stop]
      | stopAll ids => cases loops
  | pollSpawn senders id actor onStop rest here queue =>
      refine fewer rfl rfl List.not_mem_nil rfl ?_ (by simp [here, Phase.distance])
      simp only [withControl, queue, List.length_cons]
      omega
  | pollShutdown senders rest here queue =>
      refine absurd ?_ awaiting.noShutdown
      rw [queue]
      exact List.mem_cons_self
  | pollEmpty senders here queue => exact nearer rfl rfl List.not_mem_nil rfl rfl rfl (by simp [here, Phase.distance])
  | confirm senders id here => exact nearer rfl rfl List.not_mem_nil rfl rfl rfl (by simp [here, Phase.distance])
  | drain senders mail rest here queue =>
      refine fewer rfl (by simp [withMail, here, Phase.looping]) List.not_mem_nil (by simp [withMail, here, Phase.leaving]) ?_
        (by simp [withMail, here, Phase.distance])
      simp only [withMail, queue, List.length_cons]
      omega
  | drained senders here queue => exact nearer rfl rfl List.not_mem_nil rfl rfl rfl (by simp [here, Phase.distance])
  | receive senders mail rest here queue =>
      refine fewer rfl rfl List.not_mem_nil rfl ?_ (by simp [here, Phase.distance])
      simp only [withMail, queue, List.length_cons]
      omega
  | disconnected senders here queue none =>
      simp [pending, here, Phase.current, idle_empty _ log w awaiting.reached here, queue] at waiting
  | timeout senders here queue some =>
      simp [pending, here, Phase.current, idle_empty _ log w awaiting.reached here, queue] at waiting
  | idle senders scheduler here ready => exact nearer rfl rfl List.not_mem_nil rfl rfl rfl (by simp [here, Phase.distance])
  | nothing senders turn popped scheduler here ready dequeued =>
      have wf := sound.served.resting (by rw [here]; rfl) (by rw [here]; rfl)
      obtain ⟨mail, rest, served, _⟩ := Scheduler.wf_serves w.scheduler popped wf turn ready
      rw [dequeued] at served
      cases served
  | missing senders turn popped scheduler mail here ready dequeued absent =>
      refine fewer rfl rfl List.not_mem_nil rfl ?_ (by simp [endTurn, here, Phase.distance])
      have one : Log.dropped [Event.dropped mail] = [mail] := rfl
      simp only [endTurn, one, List.length_cons]
      omega
  | handle senders turn popped scheduler mail cell here ready dequeued present typed =>
      refine fewer rfl rfl List.not_mem_nil (by simp [Phase.leaving, Context.withSpawner]) ?_
        (by simp [here, Phase.distance, Context.withSpawner])
      have one : Log.begun [Event.handling mail] = [mail] := rfl
      simp only [one, List.length_cons]
      omega
  | mismatch senders turn popped scheduler mail cell here ready dequeued present untyped =>
      have head := (dequeue_head _ _ _ turn mail ready dequeued).1
      exact absurd (dispatched_typed log w sound.placed sound.mail turn mail cell (by simp [head]) present) untyped
  | handlerReturn senders turn mail cell ctx val reply here =>
      have staying := awaiting.staying
      rw [here] at staying
      refine nearer rfl rfl List.not_mem_nil staying rfl rfl ?_
      simp only [here, Phase.distance]
      split <;> omega
  | handlerPanic senders turn mail cell ctx val here =>
      have typed := (sound.placed.taken mail.actorId cell (by rw [here]; rfl)).2.1
      have events_ := begin_stop_events w mail.actorId (cell.write val) (.turn turn) typed
      have other := allowed mail (by rw [here]; rfl)
      refine nearer ?_ rfl ?_ rfl rfl rfl ?_
      · rw [events_]
        rfl
      · rw [events_]
        have gone : Log.gone [Event.panicked mail, .stopping mail.actorId (cell.write val).actor] = [mail.actorId] := rfl
        rw [gone]
        simpa using Ne.symm other
      · by_cases running : ctx.running = true <;> simp [here, Phase.distance, Context.withSpawner, running]
  | putBack senders turn id cell here => exact nearer rfl rfl List.not_mem_nil rfl rfl rfl (by simp [endTurn, here, Phase.distance])
  | stop senders turn id cell here =>
      have typed := (sound.placed.taken id cell (by rw [here]; rfl)).2.1
      have events_ := begin_stop_events w id cell (.turn turn) typed
      have staying := awaiting.staying
      rw [here] at staying
      have other : id ≠ envelope.actorId := by simpa [Phase.leaving] using staying
      refine nearer ?_ rfl ?_ rfl rfl rfl ?_
      · rw [events_]
        rfl
      · rw [events_]
        have gone : Log.gone [Event.stopping id cell.actor] = [id] := rfl
        rw [gone]
        simpa using Ne.symm other
      · simp [here, Phase.distance, Context.withSpawner]
  | hookReturn senders id cell ctx next here typed =>
      rw [here] at loops
      cases next with
      | stopAll ids => cases loops
      | turn turn =>
          refine nearer (Log.accepted_dropped _) rfl ?_ rfl rfl rfl ?_
          · have gone := Log.gone_dropped (w.scheduler.mailbox id)
            change envelope.actorId ∉ Log.gone ((w.scheduler.mailbox id).map Event.dropped)
            rw [gone]
            exact List.not_mem_nil
          · simp only [here, Phase.distance, finishStop, endTurn]
            split <;> omega
  | hookSkip senders id cell ctx next here untyped =>
      exact absurd (sound.placed.stopping id cell ctx next here).2.symm untyped
  | hookPanic => exact allowed.elim
  | _ =>
      simp only [*, Phase.looping] at loops
      cases loops

theorem accepted_handled (log : Log P) (w : Worker P n) (reached : Reach w.workerIdx log w) (loops : w.phase.looping = true)
    (noShutdown : .shutdown ∉ w.controlRx.queue) (envelope : Message P) (accepted : envelope ∈ log.accepted)
    (living : envelope.actorId ∉ log.gone) (staying : w.phase.leaving envelope.actorId = false) :
    (machine P w.workerIdx).Inevitable (steadfast envelope.actorId) (fun w => w.phase.inCallback = true)
      (fun later _ => ∃ reply, .handled envelope reply ∈ later) log w := by
  refine Machine.inevitable_of_rank _ _ _ _ (fun log v => v.workerIdx = w.workerIdx ∧ Awaiting envelope log v) todo ?_ ?_ log w
    ⟨rfl, reached, loops, noShutdown, accepted, living, staying⟩
  · intro log v inv _
    exact awaiting_enabled envelope log v inv.2
  · intro log v act next events inv unhandled allowed taken
    obtain ⟨kept, less⟩ := awaiting_lower envelope log events v next act inv.2 unhandled allowed taken
    exact ⟨⟨(step_index v next act events taken).trans inv.1, kept⟩, less⟩

theorem isolated_iff (workerIdx : Fin n) (log : Log P) (w : Worker P n) (reached : Reach workerIdx log w) :
    Isolated log w ↔ ∀ id, .stopPanicked id ∉ log := by
  have crash := crashed_iff workerIdx log w reached
  have sound := reach_sound workerIdx log w reached
  constructor
  · intro isolated id panicked
    have crashed := crash.mpr ⟨id, panicked⟩
    rw [isolated.alive] at crashed
    cases crashed
  · intro calm
    refine ⟨?_, ?_, ?_, ?_⟩
    · cases state : w.phase.crashed with
      | false => rfl
      | true =>
          obtain ⟨id, panicked⟩ := crash.mp state
          exact absurd panicked (calm id)
    · intro isOpen id living
      rw [sound.mail.order isOpen id, dropped_alive log w sound.mail id isOpen living, List.append_nil]
    · intro loops noShutdown envelope accepted living staying
      refine accepted_handled log w ?_ loops noShutdown envelope accepted living staying
      rw [reach_index workerIdx log w reached]
      exact reached
    · intro closing ids taken id member
      rcases snapshot_swept workerIdx log w reached calm ids taken id member with stopped | waits
      · exact stopped
      · rw [Phase.closing_to_stop w.phase closing] at waits
        cases waits

end Worker

-- Panics are isolated in exactly the runs in which no stopped hook panics.
theorem panics_isolated_iff (log : Trace P n) (s : State P n) (reached : (runtime P n).Reach Machine.free log s)
    (w : Fin n) : Worker.Isolated (log.worker w) (s.workers w) ↔ ∀ id, .at w (.stopPanicked id) ∉ log := by
  rw [Worker.isolated_iff w _ _ ((reach_routed _ log s reached).workers w)]
  simp only [Trace.mem_worker]

-- Two actors on one worker, each with a message.
def spawnTwo : List (Action numbers 1) :=
  spawnOne ++ ([.spawn () 0, .spawnPick 2, .startedReturn 2 0, .handOver 2, .worker 0 .pollControl, .worker 0 .confirm,
    .spawnReturn 2, .doSend 0 5, .doSend 1 6] : List (Action numbers 1))

-- The handler of the first panics, and its stopped hook returns.
def handlerPanics : List (Action numbers 1) :=
  spawnTwo ++ ([.worker 0 .pollControl, .worker 0 .drain, .worker 0 .drain, .worker 0 .drain, .worker 0 .runTurn,
    .worker 0 (.handlerPanic 0)] : List (Action numbers 1))

def handlerPanicsLog : Trace numbers 1 :=
  [.starting 1 0 none, .started 1, .at 0 (.spawnSent 1 ()), .at 0 (.installed 1 ()), .at 0 (.confirmed 1),
    .starting 2 0 none, .started 2, .at 0 (.spawnSent 2 ()), .at 0 (.installed 2 ()), .at 0 (.confirmed 2),
    .at 0 (.accepted ⟨1, (), 5, false, 0⟩), .at 0 (.accepted ⟨2, (), 6, false, 1⟩),
    .at 0 (.handling ⟨1, (), 5, false, 0⟩), .at 0 (.panicked ⟨1, (), 5, false, 0⟩), .at 0 (.stopping 1 ⟨(), 0⟩)]

theorem panics_isolated_iff_handler : ∃ s : State numbers 1, (runtime numbers 1).Reach Machine.free handlerPanicsLog s ∧
    Worker.Isolated (handlerPanicsLog.worker 0) (s.workers 0) := by
  have reached : (runtime numbers 1).Reach Machine.free handlerPanicsLog _ :=
    Machine.run_reach (runtime numbers 1) _ _ _ handlerPanics rfl rfl
  refine ⟨_, reached, (panics_isolated_iff _ _ reached 0).mpr ?_⟩
  simp [handlerPanicsLog]

-- The handler of the first panics, and so does its stopped hook: the worker is
-- gone, the message of the second is dropped and its stopped hook not called.
def hookPanics : List (Action numbers 1) :=
  handlerPanics ++ ([.worker 0 .hookPanic, .worker 0 .exit, .worker 0 .exit, .worker 0 .exit] :
    List (Action numbers 1))

theorem panics_not_isolated : ∃ s : State numbers 1,
    let log : Trace numbers 1 := handlerPanicsLog ++
      ([.at 0 (.stopPanicked 1), .at 0 (.dropped ⟨2, (), 6, false, 1⟩)] : Trace numbers 1)
    (runtime numbers 1).Reach Machine.free log s ∧ (s.workers 0).phase.crashed = true ∧
      about 2 log.begun = [] ∧ 2 ∉ (log.worker 0).gone ∧ ¬ Worker.Isolated (log.worker 0) (s.workers 0) := by
  refine ⟨_, Machine.run_reach (runtime numbers 1) _ _ _ hookPanics rfl rfl, rfl, rfl, by decide, ?_⟩
  intro isolated
  exact absurd isolated.alive (by decide)

end Actinium
