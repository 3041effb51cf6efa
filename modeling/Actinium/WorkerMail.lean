import Actinium.WorkerTurns
import Actinium.Lib.Keyed

set_option autoImplicit false

namespace Actinium

variable {P : Program} {n : Nat}

-- The messages of a list that are for one actor.
abbrev about (id : ActorId) (mail : List (Message P)) : List (Message P) := Keyed.select Envelope.actorId id mail

def payloads (id : ActorId) (mail : List (Message P)) : List P.Msg :=
  (about id mail).map fun envelope => envelope.dispatch.msg

theorem payloads_append (id : ActorId) (a b : List (Message P)) : payloads id (a ++ b) = payloads id a ++ payloads id b := by
  rw [payloads, about, Keyed.select_append, List.map_append]
  rfl

namespace Worker

-- The mail of one actor in the worker, in the order it will be handled.
def pending (w : Worker P n) (id : ActorId) : List (Message P) :=
  about id w.phase.current.toList ++ w.scheduler.mailbox id ++ about id w.msgRx.queue

-- Conservation: what was accepted for an actor has been handled, then dropped,
-- then is pending, in this order. While a worker is torn down the order among
-- the dropped is lost, but nothing is.
structure Mail (log : Log P) (w : Worker P n) : Prop where
  typed : ∀ envelope ∈ log.accepted, (envelope.actorId, envelope.dispatch.ty) ∈ log.installed
  serials : (log.accepted.map fun envelope => envelope.dispatch.serial).Nodup
  order : w.phase.closing = false → ∀ id,
    about id log.accepted = about id log.finished ++ about id log.dropped ++ w.pending id
  every : ∀ id, (about id log.accepted).Perm (about id log.finished ++ about id log.dropped ++ w.pending id)
  begun : log.begun = log.finished ++ w.phase.current.toList
  front : ∀ id, about id log.begun <+: about id log.accepted
  dropped : ∀ envelope ∈ log.dropped, envelope.actorId ∈ log.gone ∨ w.phase.closing = true

theorem front_of_order (log : Log P) (w : Worker P n) (id : ActorId)
    (order : about id log.accepted = about id log.finished ++ about id log.dropped ++ w.pending id)
    (begun : log.begun = log.finished ++ w.phase.current.toList)
    (inHand : about id w.phase.current.toList = [] ∨ about id log.dropped = []) :
    about id log.begun <+: about id log.accepted := by
  rw [order, begun]
  simp only [Keyed.select_append, pending]
  rcases inHand with nothing | kept
  · simp [nothing, List.append_assoc]
  · simp [kept, List.append_assoc]

-- A step of an open worker that takes up mail, finishes it or drops it.
theorem mail_open (log events : Log P) (w next : Worker P n) (mail : Mail log w) (isOpen : w.phase.closing = false)
    (beg fin drop : List (Message P)) (noAccept : events.accepted = []) (begins : events.begun = beg)
    (finishes : events.finished = fin) (drops : events.dropped = drop)
    (order : ∀ id, about id log.dropped ++ w.pending id =
      about id fin ++ (about id log.dropped ++ (about id drop ++ next.pending id)))
    (inHand : w.phase.current.toList ++ beg = fin ++ next.phase.current.toList)
    (clear : ∀ id, about id next.phase.current.toList = [] ∨ about id (log.dropped ++ drop) = [])
    (gone : ∀ envelope ∈ drop, envelope.actorId ∈ log.gone) : Mail (log ++ events) next := by
  have accepted : (log ++ events).accepted = log.accepted := by simp [noAccept]
  have begun : (log ++ events).begun = (log ++ events).finished ++ next.phase.current.toList := by
    rw [Log.begun_append, Log.finished_append, begins, finishes, mail.begun, List.append_assoc, inHand, List.append_assoc]
  have ordered : ∀ id, about id (log ++ events).accepted =
      about id (log ++ events).finished ++ about id (log ++ events).dropped ++ next.pending id := by
    intro id
    rw [accepted, mail.order isOpen id, Log.finished_append, Log.dropped_append, finishes, drops]
    simp only [Keyed.select_append, List.append_assoc, order id]
  refine ⟨?_, accepted ▸ mail.serials, fun _ => ordered, ?_, begun, ?_, ?_⟩
  · intro envelope member
    rw [accepted] at member
    simp [mail.typed envelope member]
  · intro id
    rw [ordered id]
  · intro id
    refine front_of_order (log ++ events) next id (ordered id) begun ?_
    rw [Log.dropped_append, drops]
    exact clear id
  · intro envelope member
    rw [Log.dropped_append, drops] at member
    rcases List.mem_append.mp member with earlier | now
    · rcases mail.dropped envelope earlier with dead | closing
      · simp [dead]
      · rw [isOpen] at closing
        cases closing
    · simp [gone envelope now]

-- A step that keeps the mail of every actor, wherever it puts it.
theorem mail_still (log events : Log P) (w next : Worker P n) (mail : Mail log w) (noAccept : events.accepted = [])
    (noBegin : events.begun = []) (noFinish : events.finished = []) (noDrop : events.dropped = [])
    (current : next.phase.current = w.phase.current) (pending : ∀ id, next.pending id = w.pending id)
    (closing : w.phase.closing = true → next.phase.closing = true) : Mail (log ++ events) next := by
  have accepted : (log ++ events).accepted = log.accepted := by simp [noAccept]
  refine ⟨?_, accepted ▸ mail.serials, ?_, ?_, ?_, ?_, ?_⟩
  · intro envelope member
    rw [accepted] at member
    simp [mail.typed envelope member]
  · intro isOpen id
    have before : w.phase.closing = false := by
      cases state : w.phase.closing with
      | false => rfl
      | true => rw [closing state] at isOpen; cases isOpen
    simpa [noAccept, noFinish, noDrop, pending] using mail.order before id
  · intro id
    simpa [noAccept, noFinish, noDrop, pending] using mail.every id
  · simpa [noBegin, noFinish, current] using mail.begun
  · intro id
    simpa [noAccept, noBegin] using mail.front id
  · intro envelope member
    rw [Log.dropped_append, noDrop, List.append_nil] at member
    rcases mail.dropped envelope member with dead | earlier
    · simp [dead]
    · exact Or.inr (closing earlier)

-- A step of an open worker that does not touch mail.
theorem mail_frame (log events : Log P) (w next : Worker P n) (mail : Mail log w) (noAccept : events.accepted = [])
    (noBegin : events.begun = []) (noFinish : events.finished = []) (noDrop : events.dropped = [])
    (current : next.phase.current = w.phase.current) (boxes : ∀ id, next.scheduler.mailbox id = w.scheduler.mailbox id)
    (queue : next.msgRx.queue = w.msgRx.queue) (isOpen : w.phase.closing = false) : Mail (log ++ events) next := by
  refine mail_still log events w next mail noAccept noBegin noFinish noDrop current ?_ ?_
  · intro id
    simp [Worker.pending, current, boxes, queue]
  · intro closing
    rw [isOpen] at closing
    cases closing

theorem pending_receive (w next : Worker P n) (envelope : Message P) (rest : List (Message P))
    (queue : w.msgRx.queue = envelope :: rest) (received : next.msgRx.queue = rest)
    (scheduler : next.scheduler = w.scheduler.enqueue envelope) (current : next.phase.current = w.phase.current)
    (id : ActorId) : next.pending id = w.pending id := by
  simp only [pending, current, scheduler, received, queue, Scheduler.mailbox_enqueue, Keyed.select_cons]
  by_cases same : envelope.actorId = id
  · simp [same]
  · simp [same, Ne.symm same]

theorem mail_post (log : Log P) (w : Worker P n) (mail : Mail log w) (envelope : Message P)
    (known : (envelope.actorId, envelope.dispatch.ty) ∈ log.installed)
    (fresh : envelope.dispatch.serial ∉ log.accepted.map (fun sent => sent.dispatch.serial)) :
    Mail (log ++ [Event.accepted envelope]) (w.withMail (w.msgRx.queue ++ [envelope])) := by
  have accept : Log.accepted [Event.accepted envelope] = [envelope] := rfl
  have noFinish : Log.finished [Event.accepted envelope] = [] := rfl
  have noDrop : Log.dropped [Event.accepted envelope] = [] := rfl
  have noBegin : Log.begun [Event.accepted envelope] = [] := rfl
  have pending : ∀ id, (w.withMail (w.msgRx.queue ++ [envelope])).pending id = w.pending id ++ about id [envelope] := by
    intro id
    simp [Worker.pending, withMail]
  refine ⟨?_, ?_, ?_, ?_, ?_, ?_, ?_⟩
  · intro other member
    rw [Log.accepted_append, accept] at member
    rcases List.mem_append.mp member with earlier | last
    · simp [mail.typed other earlier]
    · rw [List.mem_singleton.mp last]
      simp [known]
  · rw [Log.accepted_append, accept, List.map_append]
    exact Keyed.nodup_push _ _ mail.serials fresh
  · intro isOpen id
    simp only [Log.accepted_append, Log.finished_append, Log.dropped_append, accept, noFinish, noDrop, List.append_nil,
      Keyed.select_append, pending, mail.order isOpen id, List.append_assoc]
  · intro id
    simp only [Log.accepted_append, Log.finished_append, Log.dropped_append, accept, noFinish, noDrop, List.append_nil,
      Keyed.select_append, pending]
    rw [← List.append_assoc]
    exact (mail.every id).append_right _
  · rw [Log.begun_append, Log.finished_append, noBegin, noFinish, List.append_nil, List.append_nil]
    exact mail.begun
  · intro id
    simp only [Log.begun_append, Log.accepted_append, noBegin, List.append_nil, Keyed.select_append]
    exact (mail.front id).trans (List.prefix_append _ _)
  · intro other member
    rw [Log.dropped_append, noDrop, List.append_nil] at member
    rcases mail.dropped other member with dead | closing
    · simp [dead]
    · exact Or.inr closing

-- Tearing a worker down: nothing is handled any more.
theorem mail_close (log events : Log P) (w next : Worker P n) (mail : Mail log w) (noAccept : events.accepted = [])
    (noBegin : events.begun = []) (noFinish : events.finished = []) (before : w.phase.current = none)
    (closing : next.phase.closing = true) (current : next.phase.current = none)
    (every : ∀ id, (about id log.dropped ++ w.pending id).Perm
      (about id (log ++ events).dropped ++ next.pending id)) : Mail (log ++ events) next := by
  have accepted : (log ++ events).accepted = log.accepted := by simp [noAccept]
  refine ⟨?_, accepted ▸ mail.serials, ?_, ?_, ?_, ?_, fun _ _ => Or.inr closing⟩
  · intro envelope member
    rw [accepted] at member
    simp [mail.typed envelope member]
  · intro isOpen
    rw [closing] at isOpen
    cases isOpen
  · intro id
    have moved := (every id).append_left (about id log.finished)
    simp only [← List.append_assoc] at moved
    rw [accepted, Log.finished_append, noFinish, List.append_nil]
    exact (mail.every id).trans moved
  · have begun := mail.begun
    rw [before] at begun
    simpa [noBegin, noFinish, current] using begun
  · intro id
    simpa [noAccept, noBegin] using mail.front id

theorem installed_unique (log : Log P) (w : Worker P n) (placed : Placed log w) (id : ActorId) (a b : P.Ty)
    (left : (id, a) ∈ log.installed) (right : (id, b) ∈ log.installed) : a = b := by
  have same := List.inj_on_of_nodup_map placed.nodup left right rfl
  exact (Prod.mk.inj same).2

theorem mailbox_accepted (log : Log P) (w : Worker P n) (mail : Mail log w) (id : ActorId)
    (envelope : Message P) (member : envelope ∈ w.scheduler.mailbox id) : envelope ∈ log.accepted := by
  have inside : envelope ∈ about id log.accepted := by
    rw [(mail.every id).mem_iff]
    simp [pending, member]
  exact ((Keyed.mem_select _ _ _ _).mp inside).1

-- The mail a dispatch takes up is for an actor that is known, so a missing
-- cell means that the actor has stopped.
theorem missing_gone (log : Log P) (w : Worker P n) (placed : Placed log w) (mail : Mail log w) (id : ActorId)
    (envelope : Message P) (member : envelope ∈ w.scheduler.mailbox id)
    (resting : w.phase.out = none) (absent : w.actorMap.lookup envelope.actorId = none) :
    envelope.actorId ∈ log.gone := by
  have known := known_of_installed log _ _ (mail.typed envelope (mailbox_accepted log w mail id envelope member))
  rcases placed.total envelope.actorId known with dead | ⟨cell, found⟩ | ⟨cell, found⟩
  · exact dead
  · rw [absent] at found
    cases found
  · rw [resting] at found
    cases found

theorem dispatched_typed (log : Log P) (w : Worker P n) (placed : Placed log w) (mail : Mail log w) (id : ActorId)
    (envelope : Message P) (cell : ActorCell P) (member : envelope ∈ w.scheduler.mailbox id)
    (present : w.actorMap.lookup envelope.actorId = some cell) : cell.actor.ty = envelope.dispatch.ty :=
  installed_unique log w placed envelope.actorId _ _ (placed.mapped _ cell present).1
    (mail.typed envelope (mailbox_accepted log w mail id envelope member))

-- next_ready followed by dequeue takes the head of one mailbox.
theorem dequeue_head (s popped after : Scheduler (Delivery P)) (turn : ActorId) (envelope : Message P)
    (next : s.nextReady = (some turn, popped)) (dequeued : popped.dequeue turn = (some envelope, after)) :
    s.mailbox turn = envelope :: after.mailbox turn ∧ ∀ id, id ≠ turn → after.mailbox id = s.mailbox id := by
  have boxes : ∀ id, popped.mailbox id = s.mailbox id := by
    intro id
    have same := Scheduler.mailbox_next_ready s id
    rwa [next] at same
  obtain ⟨head, _, others⟩ := Scheduler.dequeue_some popped after turn envelope dequeued
  refine ⟨by rw [← boxes turn, head], ?_⟩
  intro id different
  rw [← boxes id]
  simp [Scheduler.mailbox, others id different]

theorem mailbox_split (s after : Scheduler (Delivery P)) (turn id : ActorId) (envelope : Message P)
    (same : envelope.actorId = turn) (head : s.mailbox turn = envelope :: after.mailbox turn)
    (others : ∀ id, id ≠ turn → after.mailbox id = s.mailbox id) :
    s.mailbox id = about id [envelope] ++ after.mailbox id := by
  by_cases equal : id = turn
  · subst equal
    simp [head, Keyed.select_cons, same]
  · have different : envelope.actorId ≠ id := fun wrong => equal (wrong.symm.trans same)
    simp [others id equal, Keyed.select_cons, different]

theorem dropped_alive (log : Log P) (w : Worker P n) (mail : Mail log w) (id : ActorId)
    (isOpen : w.phase.closing = false) (living : id ∉ log.gone) : about id log.dropped = [] := by
  apply Keyed.select_none
  intro envelope member same
  rcases mail.dropped envelope member with dead | closing
  · exact living (same ▸ dead)
  · rw [isOpen] at closing
    cases closing

-- The handler ends, by returning or by a panic.
theorem mail_finish (log events : Log P) (w next : Worker P n) (placed : Placed log w) (mail : Mail log w)
    (turn : ActorId) (envelope : Message P) (cell : ActorCell P) (ctx : Context (Fin n))
    (here : w.phase = .handling turn envelope cell ctx) (noAccept : events.accepted = []) (noBegin : events.begun = [])
    (finishes : events.finished = [envelope]) (noDrop : events.dropped = []) (current : next.phase.current = none)
    (scheduler : next.scheduler = w.scheduler) (queue : next.msgRx = w.msgRx) : Mail (log ++ events) next := by
  have isOpen : w.phase.closing = false := by rw [here]; rfl
  have inHand : w.phase.current = some envelope := by rw [here]; rfl
  have living := (placed.taken envelope.actorId cell (by rw [here]; rfl)).2.2.1
  refine mail_open log events w next mail isOpen [] [envelope] [] noAccept noBegin finishes noDrop ?_
    (by rw [inHand, current]; rfl) (fun _ => Or.inl (by rw [current]; rfl)) (by simp)
  intro id
  rw [pending, pending, inHand, current, scheduler, queue]
  by_cases same : envelope.actorId = id
  · rw [dropped_alive log w mail id isOpen (same ▸ living)]
    simp
  · simp [Keyed.select_cons, same]

theorem about_queued (s : Scheduler (Delivery P)) (keyed : ∀ id, ∀ envelope ∈ s.mailbox id, envelope.actorId = id)
    (id : ActorId) : about id (queued s) = s.mailbox id := by
  refine Keyed.select_flat _ id s.mailboxes.entries s.mailboxes.nodupKeys ?_
  intro entry member envelope inside
  obtain ⟨k, queue⟩ := entry
  have found : s.mailboxes.lookup k = some queue := AList.mem_lookup_iff.mpr member
  exact keyed k envelope (by simpa [Scheduler.mailbox, found] using inside)

theorem mail_step (log events : Log P) (w next : Worker P n) (act : Act P) (placed : Placed log w) (served : Served w)
    (sweeping : Sweeping w) (mail : Mail log w) (kept : promised log w act) (moves : Moves w act events next) :
    Mail (log ++ events) next := by
  cases moves with
  | post envelope alive => exact mail_post log w mail envelope kept.1 kept.2
  | postControl msg alive =>
      refine mail_still log _ w _ mail ?_ ?_ ?_ ?_ rfl (fun _ => rfl) id <;> cases msg <;> rfl
  | direct id actor onStop => exact mail_still log _ w _ mail rfl rfl rfl rfl rfl (fun _ => rfl) (fun same => same)
  | stopHandler turn envelope cell ctx here =>
      exact mail_frame log _ w _ mail rfl rfl rfl rfl (by rw [here]; rfl) (fun _ => rfl) rfl (by rw [here]; rfl)
  | stopHook id cell ctx after here =>
      exact mail_frame log _ w _ mail rfl rfl rfl rfl (by rw [here]; rfl) (fun _ => rfl) rfl (by rw [here]; rfl)
  | pollSpawn senders id actor onStop rest here queue =>
      exact mail_frame log _ w _ mail rfl rfl rfl rfl (by rw [here]; rfl) (fun _ => rfl) rfl (by rw [here]; rfl)
  | pollShutdown senders rest here queue =>
      exact mail_frame log _ w _ mail rfl rfl rfl rfl (by rw [here]; rfl) (fun _ => rfl) rfl (by rw [here]; rfl)
  | pollEmpty senders here queue =>
      exact mail_frame log _ w _ mail rfl rfl rfl rfl (by rw [here]; rfl) (fun _ => rfl) rfl (by rw [here]; rfl)
  | confirm senders id here =>
      exact mail_frame log _ w _ mail rfl rfl rfl rfl (by rw [here]; rfl) (fun _ => rfl) rfl (by rw [here]; rfl)
  | drain senders envelope rest here queue =>
      exact mail_still log _ w _ mail rfl rfl rfl rfl rfl (pending_receive w _ envelope rest queue rfl rfl rfl) id
  | drained senders here queue =>
      exact mail_frame log _ w _ mail rfl rfl rfl rfl (by rw [here]; rfl) (fun _ => rfl) rfl (by rw [here]; rfl)
  | receive senders envelope rest here queue =>
      have nothing : w.phase.current = none := by rw [here]; rfl
      exact mail_still log _ w _ mail rfl rfl rfl rfl nothing.symm
        (pending_receive w _ envelope rest queue rfl rfl nothing.symm) (fun wrong => by rw [here] at wrong; cases wrong)
  | disconnected senders here queue none =>
      exact mail_frame log _ w _ mail rfl rfl rfl rfl (by rw [here]; rfl) (fun _ => rfl) rfl (by rw [here]; rfl)
  | timeout senders here queue some =>
      exact mail_frame log _ w _ mail rfl rfl rfl rfl (by rw [here]; rfl) (fun _ => rfl) rfl (by rw [here]; rfl)
  | idle senders scheduler here next =>
      have boxes : ∀ id, scheduler.mailbox id = w.scheduler.mailbox id := by
        intro id
        have same := Scheduler.mailbox_next_ready w.scheduler id
        rwa [next] at same
      exact mail_frame log _ w _ mail rfl rfl rfl rfl (by rw [here]; rfl) boxes rfl (by rw [here]; rfl)
  | nothing senders turn popped scheduler here next dequeued =>
      have boxes : ∀ id, scheduler.mailbox id = w.scheduler.mailbox id := by
        intro id
        have same := Scheduler.mailbox_next_ready w.scheduler id
        rw [next] at same
        rw [(Scheduler.dequeue_none popped scheduler turn dequeued).1]
        exact same
      exact mail_frame log _ w _ mail rfl rfl rfl rfl (by rw [here]; rfl) boxes rfl (by rw [here]; rfl)
  | missing senders turn popped scheduler envelope here next dequeued absent =>
      have isOpen : w.phase.closing = false := by rw [here]; rfl
      have nothing : w.phase.current = none := by rw [here]; rfl
      have same := (dequeue_keyed _ _ _ turn envelope (served.resting (by rw [here]; rfl) isOpen) next dequeued).2
      obtain ⟨head, others⟩ := dequeue_head _ _ _ turn envelope next dequeued
      refine mail_open log _ w _ mail isOpen [] [] [envelope] rfl rfl rfl rfl ?_ (by rw [nothing]; rfl)
        (fun _ => Or.inl rfl) ?_
      · intro id
        have after : ({ w with scheduler := scheduler }.endTurn turn).pending id =
            scheduler.mailbox id ++ about id w.msgRx.queue := by
          simp [pending, endTurn, Phase.current]
        rw [after, pending, nothing, mailbox_split _ _ turn id envelope same head others]
        simp
      · intro other member
        rw [List.mem_singleton.mp member]
        exact missing_gone log w placed mail turn envelope (by simp [head]) (by rw [here]; rfl) absent
  | handle senders turn popped scheduler envelope cell here next dequeued present typed =>
      have isOpen : w.phase.closing = false := by rw [here]; rfl
      have nothing : w.phase.current = none := by rw [here]; rfl
      have same := (dequeue_keyed _ _ _ turn envelope (served.resting (by rw [here]; rfl) isOpen) next dequeued).2
      obtain ⟨head, others⟩ := dequeue_head _ _ _ turn envelope next dequeued
      have living := (placed.mapped envelope.actorId cell present).2.2
      refine mail_open log _ w _ mail isOpen [envelope] [] [] rfl rfl rfl rfl ?_ (by rw [nothing]; rfl) ?_ (by simp)
      · intro id
        rw [pending, nothing, mailbox_split _ _ turn id envelope same head others]
        simp [pending, Phase.current]
      · intro id
        rw [List.append_nil]
        by_cases equal : envelope.actorId = id
        · right
          exact dropped_alive log w mail id isOpen (equal ▸ living)
        · left
          simp [Phase.current, Keyed.select_cons, equal]
  | mismatch senders turn popped scheduler envelope cell here next dequeued present untyped =>
      have head := (dequeue_head _ _ _ turn envelope next dequeued).1
      exact absurd (dispatched_typed log w placed mail turn envelope cell (by simp [head]) present) untyped
  | handlerReturn senders turn envelope cell ctx val reply here =>
      exact mail_finish log _ w _ placed mail turn envelope cell ctx here rfl rfl rfl rfl rfl rfl rfl
  | handlerPanic senders turn envelope cell ctx val here =>
      obtain ⟨_, typed, _⟩ := placed.taken envelope.actorId cell (by rw [here]; rfl)
      rw [begin_stop_events w _ (cell.write val) _ typed]
      exact mail_finish log _ w _ placed mail turn envelope cell ctx here rfl rfl rfl rfl rfl rfl rfl
  | putBack senders turn id cell here =>
      exact mail_frame log _ w _ mail rfl rfl rfl rfl (by rw [here]; rfl) (Scheduler.mailbox_requeue _ turn) rfl
        (by rw [here]; rfl)
  | stop senders turn id cell here =>
      refine mail_frame log _ w _ mail ?_ ?_ ?_ ?_ (by rw [here]; rfl) (fun _ => rfl) rfl (by rw [here]; rfl) <;>
        simp only [beginStop] <;> split <;> rfl
  | hookReturn senders id cell ctx after here typed =>
      have isOpen : w.phase.closing = false := by rw [here]; rfl
      have nothing : w.phase.current = none := by rw [here]; rfl
      have finished : (w.finishStop id after).1.phase.current = none := by cases after <;> rfl
      refine mail_open log _ w _ mail isOpen [] [] (w.scheduler.mailbox id) (Log.accepted_dropped _)
        (Log.begun_dropped _) (Log.finished_dropped _) (Log.dropped_dropped _) ?_ (by rw [nothing, finished]; rfl)
        (fun _ => Or.inl (by rw [finished]; rfl)) ?_
      · intro other
        have boxes : (w.finishStop id after).1.scheduler.mailbox other = if other = id then [] else w.scheduler.mailbox other := by
          cases after with
          | turn turn => exact (Scheduler.mailbox_requeue _ turn other).trans (Scheduler.mailbox_remove _ id other)
          | stopAll ids => exact Scheduler.mailbox_remove _ id other
        have queue : (w.finishStop id after).1.msgRx = w.msgRx := by cases after <;> rfl
        rw [pending, pending, nothing, finished, boxes, queue]
        by_cases same : other = id
        · subst same
          simp [Keyed.select_all Envelope.actorId other _ (served.keyed other)]
        · have elsewhere : about other (w.scheduler.mailbox id) = [] :=
            Keyed.select_none _ _ _ fun envelope member wrong =>
              same (wrong.symm.trans (served.keyed id envelope member))
          simp [same, elsewhere]
      · intro envelope member
        rw [served.keyed id envelope member]
        exact (placed.stopping id cell ctx after here).1
  | hookSkip senders id cell ctx after here untyped =>
      exact absurd (placed.stopping id cell ctx after here).2.symm untyped
  | hookPanic senders id cell ctx after here typed =>
      exact mail_frame log _ w _ mail rfl rfl rfl rfl (by rw [here]; rfl) (fun _ => rfl) rfl (by rw [here]; rfl)
  | snapshot senders ids here keys =>
      exact mail_frame log _ w _ mail rfl rfl rfl rfl (by rw [here]; rfl) (fun _ => rfl) rfl (by rw [here]; rfl)
  | stopDone senders here =>
      exact mail_frame log _ w _ mail rfl rfl rfl rfl (by rw [here]; rfl) (fun _ => rfl) rfl (by rw [here]; rfl)
  | stopGone senders id ids here absent =>
      obtain ⟨cell, found⟩ := sweeping.present id (by rw [here]; simp [Phase.toStop])
      rw [absent] at found
      cases found
  | stopNext senders id ids cell here present =>
      refine mail_frame log _ w _ mail ?_ ?_ ?_ ?_ (by rw [here]; rfl) (fun _ => rfl) rfl (by rw [here]; rfl) <;>
        simp only [beginStop] <;> split <;> rfl
  | dropControl senders panicked here =>
      have nothing : w.phase.current = none := by rw [here]; rfl
      refine mail_close log _ w _ mail (Log.accepted_refusals _) (Log.begun_refusals _) (Log.finished_refusals _) nothing
        rfl rfl ?_
      intro id
      rw [Log.dropped_append, Log.dropped_refusals, List.append_nil, pending, nothing]
      exact List.Perm.refl _
  | dropMsgs senders panicked here =>
      have nothing : w.phase.current = none := by rw [here]; rfl
      refine mail_close log _ w _ mail (Log.accepted_dropped _) (Log.begun_dropped _) (Log.finished_dropped _) nothing
        rfl rfl ?_
      intro id
      rw [Log.dropped_append, Log.dropped_dropped, pending, nothing]
      simp only [pending, Phase.current, Channel.dropReceiver, Option.toList_none, Keyed.select_nil, Keyed.select_append,
        List.nil_append, List.append_nil, List.append_assoc]
      exact (List.perm_append_comm).append_left _
  | dropScheduler senders panicked here =>
      have nothing : w.phase.current = none := by rw [here]; rfl
      refine mail_close log _ w _ mail (Log.accepted_dropped _) (Log.begun_dropped _) (Log.finished_dropped _) nothing
        rfl rfl ?_
      intro id
      rw [Log.dropped_append, Log.dropped_dropped, pending, nothing]
      simp only [pending, Phase.current, Scheduler.mailbox_new, about_queued _ served.keyed, Option.toList_none,
        Keyed.select_nil, Keyed.select_append, List.nil_append, List.append_nil, List.append_assoc]
      exact List.Perm.refl _

end Worker

end Actinium
