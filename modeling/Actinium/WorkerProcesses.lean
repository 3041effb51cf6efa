import Actinium.Lib.Process
import Actinium.Lib.Simulation
import Actinium.WorkerSound

set_option autoImplicit false

namespace Actinium

variable {P : Program} {n : Nat}

-- What a step of a runtime shows of one actor.
def Event.sign (id : ActorId) : Event P → Option (Process.Sign (Message P) P.Reply)
  | .installed other _ => if other = id then some .installed else none
  | .accepted envelope => if envelope.actorId = id then some (.accepted envelope) else none
  | .handling envelope => if envelope.actorId = id then some (.handling envelope) else none
  | .handled envelope reply => if envelope.actorId = id then some (.handled envelope reply) else none
  | .panicked envelope => if envelope.actorId = id then some (.panicked envelope) else none
  | .dropped envelope => if envelope.actorId = id then some (.lost envelope) else none
  | .stopping other _ => if other = id then some .leaving else none
  | .stopped other => if other = id then some (.left true) else none
  | .stopPanicked other => if other = id then some (.left false) else none
  | _ => none

abbrev Signs (P : Program) := Process.Signs (Message P) P.Reply

namespace Log

def signs (log : Log P) (id : ActorId) : Signs P := log.filterMap (Event.sign id)

@[simp] theorem signs_append (a b : Log P) (id : ActorId) : signs (a ++ b) id = a.signs id ++ signs b id :=
  List.filterMap_append

theorem signs_dropped (mail : List (Message P)) (id : ActorId) :
    signs (mail.map Event.dropped) id = (about id mail).map .lost := by
  induction mail with
  | nil => rfl
  | cons head tail ih =>
      simp only [signs] at ih
      by_cases same : head.actorId = id <;> simp [signs, Event.sign, Keyed.select_cons, same, ih]

theorem signs_refusals (msgs : List (ControlMsg P)) (id : ActorId) : signs (Worker.refusals msgs) id = [] :=
  filter_map_refusals _ (fun _ => rfl) msgs

-- What a process tells of its messages is what the log tells of them.
theorem signs_tell (look : Process.Sign (Message P) P.Reply → Option (Message P)) (tell : Event P → Option (Message P))
    (log : Log P) (id : ActorId)
    (agree : ∀ event : Event P, (event.sign id).bind look = (tell event).filter fun envelope => decide (envelope.actorId = id)) :
    (log.signs id).filterMap look = about id (log.filterMap tell) := by
  rw [signs, List.filterMap_filterMap, about, Keyed.select, List.filter_filterMap]
  exact List.filterMap_congr fun event _ => agree event

theorem signs_accepted (log : Log P) (id : ActorId) : Process.Signs.accepted (log.signs id) = about id log.accepted := by
  refine signs_tell _ Event.accepts log id ?_
  intro event
  cases event <;> simp only [Event.sign, Event.accepts, Option.filter] <;> (try split) <;> simp_all [Process.Sign.accepts]

theorem signs_begun (log : Log P) (id : ActorId) : Process.Signs.begun (log.signs id) = about id log.begun := by
  refine signs_tell _ Event.begins log id ?_
  intro event
  cases event <;> simp only [Event.sign, Event.begins, Option.filter] <;> (try split) <;> simp_all [Process.Sign.begins]

theorem signs_finished (log : Log P) (id : ActorId) : Process.Signs.finished (log.signs id) = about id log.finished := by
  refine signs_tell _ Event.finishes log id ?_
  intro event
  cases event <;> simp only [Event.sign, Event.finishes, Option.filter] <;> (try split) <;> simp_all [Process.Sign.finishes]

-- The process goes on with the signs of the events.
def Leads (keeps : Bool) (log events : Log P) (id : ActorId) (p q : Process (Message P)) : Prop :=
  (Process.machine (Message P) P.Reply keeps).Runs Machine.free (log.signs id) p ((log ++ events).signs id) q

theorem leads_quiet (keeps : Bool) (log events : Log P) (id : ActorId) (p q : Process (Message P))
    (silent : events.signs id = []) (same : q = p) : Leads keeps log events id p q := by
  rw [Leads, signs_append, silent, List.append_nil, same]
  exact .refl

theorem leads_one (keeps : Bool) (log events : Log P) (id : ActorId) (p q : Process (Message P))
    (act : Process.Act (Message P) P.Reply) (taken : p.step keeps act = some (q, events.signs id)) :
    Leads keeps log events id p q := by
  rw [Leads, signs_append]
  exact Machine.runs_one _ _ _ _ _ _ act trivial taken

theorem leads_lose (keeps : Bool) (log : Log P) (id : ActorId) (mail front gone rest : List (Message P))
    (selected : about id mail = gone) :
    Leads keeps log (mail.map Event.dropped) id ⟨.dead, front ++ gone ++ rest⟩ ⟨.dead, front ++ rest⟩ := by
  rw [Leads, signs_append, signs_dropped, selected]
  exact Process.runs_lose keeps _ front gone rest

theorem leads_then (keeps : Bool) (log first second : Log P) (id : ActorId) (p q r : Process (Message P))
    (left : Leads keeps log first id p q) (right : Leads keeps (log ++ first) second id q r) :
    Leads keeps log (first ++ second) id p r := by
  rw [Leads, ← List.append_assoc]
  exact Machine.runs_trans _ _ _ _ _ _ _ _ left right

end Log

-- The callback that is running on the actor.
def Phase.callback (id : ActorId) : Phase P n → Option (Process.Status (Message P))
  | .handling _ envelope _ _ => if envelope.actorId = id then some (.busy envelope) else none
  | .stopping other _ _ _ => if other = id then some .leaving else none
  | _ => none

theorem Phase.callback_cases (phase : Phase P n) (id : ActorId) (status : Process.Status (Message P))
    (running : phase.callback id = some status) : (∃ envelope, status = .busy envelope) ∨ status = .leaving := by
  unfold callback at running
  split at running
  · rename_i envelope _ _
    split at running <;> cases running
    exact Or.inl ⟨envelope, rfl⟩
  · split at running <;> cases running
    exact Or.inr rfl
  · cases running

namespace Worker

def standing (log : Log P) (w : Worker P n) (id : ActorId) : Process.Status (Message P) :=
  if id ∈ log.known then (if id ∈ log.gone ∨ w.phase.closing = true then .dead else .idle) else .absent

def status (log : Log P) (w : Worker P n) (id : ActorId) : Process.Status (Message P) :=
  match w.phase.callback id with
  | some status => status
  | none => standing log w id

-- An actor of the worker, as a process.
def process (log : Log P) (w : Worker P n) (id : ActorId) : Process (Message P) :=
  ⟨status log w id, w.scheduler.mailbox id ++ about id w.msgRx.queue⟩

theorem status_frame (log events : Log P) (w next : Worker P n) (id : ActorId) (known : events.known = [])
    (gone : events.gone = []) (callback : next.phase.callback id = w.phase.callback id)
    (closing : next.phase.closing = w.phase.closing) : status (log ++ events) next id = status log w id := by
  simp [status, standing, callback, closing, known, gone]

theorem process_frame (log events : Log P) (w next : Worker P n) (id : ActorId) (known : events.known = [])
    (gone : events.gone = []) (callback : next.phase.callback id = w.phase.callback id)
    (closing : next.phase.closing = w.phase.closing)
    (mail : next.scheduler.mailbox id ++ about id next.msgRx.queue = w.scheduler.mailbox id ++ about id w.msgRx.queue) :
    process (log ++ events) next id = process log w id := by
  rw [process, process, status_frame log events w next id known gone callback closing, mail]

-- A step of the worker that does not concern the actor.
theorem leads_still (log events : Log P) (w next : Worker P n) (id : ActorId) (silent : events.signs id = [])
    (known : events.known = []) (gone : events.gone = []) (callback : next.phase.callback id = w.phase.callback id)
    (closing : next.phase.closing = w.phase.closing) (boxes : next.scheduler.mailbox id = w.scheduler.mailbox id)
    (queue : next.msgRx.queue = w.msgRx.queue) :
    Log.Leads false log events id (process log w id) (process (log ++ events) next id) := by
  refine Log.leads_quiet false log events id _ _ silent ?_
  exact process_frame log events w next id known gone callback closing (by rw [boxes, queue])

theorem unknown_callback (log : Log P) (w : Worker P n) (placed : Placed log w) (id : ActorId) (unknown : id ∉ log.known) :
    w.phase.callback id = none := by
  cases here : w.phase with
  | handling turn envelope cell ctx =>
      have known := known_of_installed log _ _ (placed.taken envelope.actorId cell (by rw [here]; rfl)).1
      have other : envelope.actorId ≠ id := fun same => unknown (same ▸ known)
      simp [Phase.callback, other]
  | stopping other cell ctx after =>
      have known := placed.gone other (placed.stopping other cell ctx after here).1
      have different : other ≠ id := fun same => unknown (same ▸ known)
      simp [Phase.callback, different]
  | _ => rfl

theorem status_absent (log : Log P) (w : Worker P n) (placed : Placed log w) (id : ActorId) (unknown : id ∉ log.known) :
    status log w id = .absent := by
  simp [status, unknown_callback log w placed id unknown, standing, unknown]

theorem status_idle (log : Log P) (w : Worker P n) (id : ActorId) (calm : w.phase.callback id = none)
    (isOpen : w.phase.closing = false) (known : id ∈ log.known) (living : id ∉ log.gone) : status log w id = .idle := by
  simp [status, calm, standing, known, living, isOpen]

theorem status_dead (log : Log P) (w : Worker P n) (id : ActorId) (calm : w.phase.callback id = none)
    (known : id ∈ log.known) (dead : id ∈ log.gone ∨ w.phase.closing = true) : status log w id = .dead := by
  simp [status, calm, standing, known, dead]

theorem status_born (log : Log P) (w : Worker P n) (id : ActorId) (known : id ∈ log.known) : status log w id ≠ .absent := by
  cases running : w.phase.callback id with
  | none =>
      simp only [status, running, standing, known, if_true]
      split <;> simp
  | some busy =>
      simp only [status, running]
      rcases w.phase.callback_cases id busy running with ⟨envelope, same⟩ | same <;> simp [same]

-- An actor that is handed to the worker. Where nobody will ever serve it, it
-- is abandoned at once.
theorem leads_install (log : Log P) (w next : Worker P n) (placed : Placed log w) (id other : ActorId) (ty : P.Ty)
    (fresh : other ∉ log.known) (callback : next.phase.callback id = w.phase.callback id)
    (closing : next.phase.closing = w.phase.closing) (boxes : next.scheduler.mailbox id = w.scheduler.mailbox id)
    (queue : next.msgRx.queue = w.msgRx.queue) :
    Log.Leads false log [.installed other ty] id (process log w id) (process (log ++ [.installed other ty]) next id) := by
  by_cases same : other = id
  · subst same
    have calm := unknown_callback log w placed other fresh
    have living : other ∉ log.gone := fun member => fresh (placed.gone other member)
    have known : other ∈ (log ++ [Event.installed other ty]).known := by simp [Log.known, Log.installed, Event.installs]
    have here : other ∉ (log ++ [Event.installed other ty]).gone := by simpa [Log.gone, Event.stops] using living
    have before := status_absent log w placed other fresh
    have first : Log.Leads false log [.installed other ty] other (process log w other)
        ⟨.idle, w.scheduler.mailbox other ++ about other w.msgRx.queue⟩ := by
      refine Log.leads_one false log _ other _ _ .install ?_
      simp [Process.step, process, before, Log.signs, Event.sign]
    have resting : next.phase.callback other = none := callback.trans calm
    have after : process (log ++ [Event.installed other ty]) next other =
        ⟨status (log ++ [Event.installed other ty]) next other, w.scheduler.mailbox other ++ about other w.msgRx.queue⟩ := by
      rw [process, boxes, queue]
    rw [after]
    cases closed : w.phase.closing with
    | false =>
        rw [status_idle _ next other resting (closing.trans closed) known here]
        exact first
    | true =>
        rw [status_dead _ next other resting known (Or.inr (closing.trans closed))]
        have second : Log.Leads false (log ++ [.installed other ty]) [] other
            ⟨.idle, w.scheduler.mailbox other ++ about other w.msgRx.queue⟩
            ⟨.dead, w.scheduler.mailbox other ++ about other w.msgRx.queue⟩ := Log.leads_one false _ _ other _ _ .abandon rfl
        exact Log.leads_then false log [.installed other ty] [] other _ _ _ first second
  · refine Log.leads_quiet false log _ id _ _ (by simp [Log.signs, Event.sign, same]) ?_
    have apart : id ≠ other := fun wrong => same wrong.symm
    have know : Log.known [Event.installed other ty] = [other] := rfl
    have stop : Log.gone [Event.installed other ty] = [] := rfl
    simp only [process, status, standing, callback, closing, boxes, queue, Log.known_append, know, Log.gone_append, stop,
      List.mem_append, List.mem_singleton, apart, or_false, List.append_nil]

-- With the loop of the worker the actors that have not stopped are abandoned.
theorem leads_close (log events : Log P) (w next : Worker P n) (id : ActorId) (silent : events.signs id = [])
    (known : events.known = []) (before : w.phase.callback id = none)
    (isOpen : w.phase.closing = false) (after : next.phase.callback id = none) (closing : next.phase.closing = true)
    (boxes : next.scheduler.mailbox id = w.scheduler.mailbox id) (queue : next.msgRx.queue = w.msgRx.queue) :
    Log.Leads false log events id (process log w id) (process (log ++ events) next id) := by
  have same : process (log ++ events) next id =
      ⟨standing (log ++ events) next id, w.scheduler.mailbox id ++ about id w.msgRx.queue⟩ := by
    rw [process, status, after, boxes, queue]
  have here : process log w id = ⟨standing log w id, w.scheduler.mailbox id ++ about id w.msgRx.queue⟩ := by
    rw [process, status, before]
  by_cases living : id ∈ log.known ∧ id ∉ log.gone
  · have idle : standing log w id = .idle := by simp [standing, living, isOpen]
    have dead : standing (log ++ events) next id = .dead := by simp [standing, living, known, closing]
    rw [same, here, idle, dead]
    exact Log.leads_one false _ _ id _ _ .abandon (by rw [silent]; rfl)
  · refine Log.leads_quiet false log events id _ _ silent ?_
    rw [same, here]
    by_cases given : id ∈ log.known
    · have stopped : id ∈ log.gone := by
        by_contra alive
        exact living ⟨given, alive⟩
      simp [standing, given, stopped, known]
    · simp [standing, given, known]

-- The mail of a worker is for actors it was given.
theorem mail_known (log : Log P) (w : Worker P n) (mail : Mail log w) (id : ActorId) (envelope : Message P)
    (member : envelope ∈ w.scheduler.mailbox id ++ about id w.msgRx.queue) : id ∈ log.known := by
  have waits : envelope ∈ w.pending id := by
    rw [pending, List.append_assoc]
    exact List.mem_append_right _ member
  have accepted : envelope ∈ about id log.accepted := by
    rw [(mail.every id).mem_iff]
    exact List.mem_append_right _ waits
  obtain ⟨inside, same⟩ := (Keyed.mem_select _ _ _ _).mp accepted
  exact same ▸ known_of_installed log _ _ (mail.typed envelope inside)

-- A worker that is dropped takes a stretch of an actor's mail with it.
theorem leads_teardown (log : Log P) (w next : Worker P n) (mail : Mail log w) (id : ActorId)
    (taken front gone rest : List (Message P)) (before : w.phase.callback id = none) (closed : w.phase.closing = true)
    (after : next.phase.callback id = none) (closing : next.phase.closing = true) (selected : about id taken = gone)
    (here : w.scheduler.mailbox id ++ about id w.msgRx.queue = front ++ gone ++ rest)
    (left : next.scheduler.mailbox id ++ about id next.msgRx.queue = front ++ rest) :
    Log.Leads false log (taken.map Event.dropped) id (process log w id) (process (log ++ taken.map Event.dropped) next id) := by
  have known : Log.known (taken.map Event.dropped) = [] := by
    simp [Log.known, Log.installed, Log.filter_map_dropped Event.installs fun _ => rfl]
  by_cases given : id ∈ log.known
  · have now : process log w id = ⟨.dead, front ++ gone ++ rest⟩ := by
      rw [process, here, status_dead log w id before given (Or.inr closed)]
    have later : process (log ++ taken.map Event.dropped) next id = ⟨.dead, front ++ rest⟩ := by
      rw [process, left, status_dead _ next id after (by simp [given]) (Or.inr closing)]
    rw [now, later]
    exact Log.leads_lose false log id taken front gone rest selected
  · have empty : front ++ gone ++ rest = [] := by
      rw [← here]
      by_contra full
      obtain ⟨envelope, member⟩ := List.exists_mem_of_ne_nil _ full
      exact given (mail_known log w mail id envelope member)
    obtain ⟨rfl, rfl, rfl⟩ : front = [] ∧ gone = [] ∧ rest = [] := by simpa using empty
    refine Log.leads_quiet false log _ id _ _ (by rw [Log.signs_dropped, selected]; rfl) ?_
    simp [process, left, here, status, before, after, standing, given, known]

-- The stopped hook of an actor has begun.
theorem leads_stopping (log : Log P) (w next : Worker P n) (id other : ActorId) (actor : AnyBox P)
    (before : w.phase.callback id = none) (isOpen : w.phase.closing = false) (known : other ∈ log.known)
    (living : other ∉ log.gone)
    (after : next.phase.callback id = if other = id then some .leaving else none) (closing : next.phase.closing = false)
    (boxes : next.scheduler.mailbox id = w.scheduler.mailbox id) (queue : next.msgRx.queue = w.msgRx.queue) :
    Log.Leads false log [.stopping other actor] id (process log w id) (process (log ++ [.stopping other actor]) next id) := by
  have know : Log.known [Event.stopping other actor] = [] := rfl
  have stop : Log.gone [Event.stopping other actor] = [other] := rfl
  by_cases same : other = id
  · subst same
    have now : process log w other = ⟨.idle, w.scheduler.mailbox other ++ about other w.msgRx.queue⟩ := by
      rw [process, status_idle log w other before isOpen known living]
    have later : process (log ++ [Event.stopping other actor]) next other =
        ⟨.leaving, w.scheduler.mailbox other ++ about other w.msgRx.queue⟩ := by
      rw [process, status, after, if_pos rfl, boxes, queue]
    rw [now, later]
    exact Log.leads_one false log _ other _ _ .leave (by simp [Process.step, Log.signs, Event.sign])
  · refine Log.leads_quiet false log _ id _ _ (by simp [Log.signs, Event.sign, same]) ?_
    have apart : id ≠ other := fun wrong => same wrong.symm
    simp only [process, status, standing, before, after, same, if_false, boxes, queue, closing, isOpen, Log.known_append, know,
      Log.gone_append, stop, List.append_nil, List.mem_append, List.mem_singleton, apart, or_false]

-- The stopped hook of an actor has returned, and its mail is dropped.
theorem leads_stopped (log : Log P) (w : Worker P n) (placed : Placed log w) (served : Served w) (id other : ActorId)
    (cell : ActorCell P) (ctx : Context (Fin n)) (after : After) (here : w.phase = .stopping other cell ctx after) :
    Log.Leads false log (.stopped other :: (w.finishStop other after).2) id (process log w id)
      (process (log ++ .stopped other :: (w.finishStop other after).2) (w.finishStop other after).1 id) := by
  have gone := (placed.stopping other cell ctx after here).1
  have known : Log.known (.stopped other :: (w.finishStop other after).2) = [] := by
    simp [Log.known, Log.installed, Event.installs]
  have stops : Log.gone (.stopped other :: (w.finishStop other after).2) = [] := by
    simp [Log.gone, Event.stops]
  have calm : (w.finishStop other after).1.phase.callback id = none := by cases after <;> rfl
  have isOpen : (w.finishStop other after).1.phase.closing = false := by cases after <;> rfl
  have queue : (w.finishStop other after).1.msgRx = w.msgRx := by cases after <;> rfl
  have boxes : (w.finishStop other after).1.scheduler.mailbox id = if id = other then [] else w.scheduler.mailbox id := by
    cases after with
    | turn turn => exact (Scheduler.mailbox_requeue _ turn id).trans (Scheduler.mailbox_remove _ other id)
    | stopAll ids => exact Scheduler.mailbox_remove _ other id
  have keyed := served.keyed other
  by_cases same : other = id
  · subst same
    have first : Log.Leads false log [.stopped other] other (process log w other)
        ⟨.dead, [] ++ w.scheduler.mailbox other ++ about other w.msgRx.queue⟩ := by
      refine Log.leads_one false log _ other _ _ (.exit true) ?_
      simp [Process.step, process, status, here, Phase.callback, Log.signs, Event.sign]
    have second := Log.leads_lose false (log ++ [Event.stopped other]) other (w.scheduler.mailbox other) []
      (w.scheduler.mailbox other) (about other w.msgRx.queue) (Keyed.select_all _ other _ keyed)
    have last : process (log ++ .stopped other :: (w.finishStop other after).2) (w.finishStop other after).1 other =
        ⟨.dead, [] ++ about other w.msgRx.queue⟩ := by
      rw [process, boxes, queue, if_pos rfl, status_dead _ _ other calm (by simp [placed.gone other gone])
        (Or.inl (by simp [gone]))]
    rw [last]
    exact Log.leads_then false log [.stopped other] _ other _ _ _ first second
  · have apart : id ≠ other := fun wrong => same wrong.symm
    have silent : Log.signs (.stopped other :: (w.finishStop other after).2) id = [] := by
      have none : about id (w.scheduler.mailbox other) = [] :=
        Keyed.select_none _ _ _ fun envelope member wrong => same ((keyed envelope member).symm.trans wrong)
      rw [← List.singleton_append, Log.signs_append, finish_stop_events, Log.signs_dropped, none]
      simp [Log.signs, Event.sign, same]
    refine Log.leads_quiet false log _ id _ _ silent ?_
    refine process_frame log _ w _ id known stops ?_ ?_ ?_
    · rw [calm, here]
      simp [Phase.callback, same]
    · rw [isOpen, here]
      rfl
    · rw [boxes, queue, if_neg apart]

theorem leads_post (log : Log P) (w : Worker P n) (id : ActorId) (envelope : Message P)
    (known : (envelope.actorId, envelope.dispatch.ty) ∈ log.installed) :
    Log.Leads false log [.accepted envelope] id (process log w id)
      (process (log ++ [.accepted envelope]) (w.withMail (w.msgRx.queue ++ [envelope])) id) := by
  have same : status (log ++ [Event.accepted envelope]) (w.withMail (w.msgRx.queue ++ [envelope])) id = status log w id :=
    status_frame log _ w _ id rfl rfl rfl rfl
  have after : process (log ++ [Event.accepted envelope]) (w.withMail (w.msgRx.queue ++ [envelope])) id =
      ⟨status log w id, w.scheduler.mailbox id ++ about id w.msgRx.queue ++ about id [envelope]⟩ := by
    rw [process, same, List.append_assoc, ← Keyed.select_append]
    rfl
  rw [after]
  by_cases here : envelope.actorId = id
  · have born : (process log w id).status ≠ .absent := status_born log w id (here ▸ known_of_installed log _ _ known)
    have shown : Log.signs [Event.accepted envelope] id = [.accepted envelope] := by simp [Log.signs, Event.sign, here]
    have one : about id [envelope] = [envelope] := by simp [Keyed.select_cons, here]
    rw [one]
    exact Log.leads_one false log _ id _ _ (.arrive envelope) (by rw [shown]; exact Process.step_arrive false _ envelope born)
  · have none : about id [envelope] = [] := by simp [Keyed.select_cons, here]
    rw [none, List.append_nil]
    exact Log.leads_quiet false log _ id _ _ (by simp [Log.signs, Event.sign, here]) rfl

theorem mail_receive (w : Worker P n) (envelope : Message P) (rest : List (Message P))
    (queue : w.msgRx.queue = envelope :: rest) (id : ActorId) :
    (w.scheduler.enqueue envelope).mailbox id ++ about id rest = w.scheduler.mailbox id ++ about id w.msgRx.queue := by
  rw [Scheduler.mailbox_enqueue, queue]
  by_cases same : envelope.actorId = id
  · simp [same, Keyed.select_cons]
  · simp [same, Ne.symm same, Keyed.select_cons]

-- The envelope that a turn takes out of the scheduler.
theorem mail_taken (w : Worker P n) (served : Served w) (here : w.phase = .turn) (turn : ActorId)
    (popped scheduler : Scheduler (Delivery P)) (envelope : Message P) (next : w.scheduler.nextReady = (some turn, popped))
    (dequeued : popped.dequeue turn = (some envelope, scheduler)) (id : ActorId) :
    w.scheduler.mailbox id = about id [envelope] ++ scheduler.mailbox id := by
  have same := (dequeue_keyed _ _ _ turn envelope (served.resting (by rw [here]; rfl) (by rw [here]; rfl)) next dequeued).2
  obtain ⟨head, others⟩ := dequeue_head _ _ _ turn envelope next dequeued
  exact mailbox_split _ _ turn id envelope same head others

theorem leads_missing (log : Log P) (w : Worker P n) (sound : Sound log w) (id turn : ActorId)
    (popped scheduler : Scheduler (Delivery P)) (envelope : Message P) (here : w.phase = .turn)
    (next : w.scheduler.nextReady = (some turn, popped)) (dequeued : popped.dequeue turn = (some envelope, scheduler))
    (absent : w.actorMap.lookup envelope.actorId = none) :
    Log.Leads false log [.dropped envelope] id (process log w id)
      (process (log ++ [.dropped envelope]) ({ w with scheduler := scheduler }.endTurn turn) id) := by
  have taken := mail_taken w sound.served here turn popped scheduler envelope next dequeued id
  have head := (dequeue_head _ _ _ turn envelope next dequeued).1
  have gone := missing_gone log w sound.placed sound.mail turn envelope (by simp [head]) (by rw [here]; rfl) absent
  have boxes : ({ w with scheduler := scheduler }.endTurn turn).scheduler.mailbox id = scheduler.mailbox id :=
    Scheduler.mailbox_requeue _ turn id
  by_cases same : envelope.actorId = id
  · have one : about id [envelope] = [envelope] := by simp [Keyed.select_cons, same]
    have dead (scope : Log P) (worker : Worker P n) (calm : worker.phase.callback id = none) (longer : log <+: scope) :
        status scope worker id = .dead := by
      obtain ⟨rest, rfl⟩ := longer
      exact status_dead _ worker id calm (by simp [same ▸ sound.placed.gone _ gone]) (Or.inl (by simp [same ▸ gone]))
    have now : process log w id = ⟨.dead, [] ++ [envelope] ++ (scheduler.mailbox id ++ about id w.msgRx.queue)⟩ := by
      rw [process, dead log w (by rw [here]; rfl) (List.prefix_refl _), taken, one]
      simp
    have later : process (log ++ [Event.dropped envelope]) ({ w with scheduler := scheduler }.endTurn turn) id =
        ⟨.dead, [] ++ (scheduler.mailbox id ++ about id w.msgRx.queue)⟩ := by
      rw [process, dead _ _ rfl (List.prefix_append _ _), boxes]
      rfl
    rw [now, later]
    exact Log.leads_lose false log id [envelope] [] [envelope] _ one
  · have none : about id [envelope] = [] := by simp [Keyed.select_cons, same]
    rw [none, List.nil_append] at taken
    exact leads_still log _ w _ id (by simp [Log.signs, Event.sign, same]) rfl rfl (by rw [here]; rfl) (by rw [here]; rfl)
      (boxes.trans taken.symm) rfl

theorem leads_handle (log : Log P) (w next : Worker P n) (sound : Sound log w) (id : ActorId) (envelope : Message P)
    (cell : ActorCell P) (here : w.phase = .turn) (present : w.actorMap.lookup envelope.actorId = some cell)
    (taken : w.scheduler.mailbox id = about id [envelope] ++ next.scheduler.mailbox id)
    (after : next.phase.callback id = if envelope.actorId = id then some (.busy envelope) else none)
    (closing : next.phase.closing = false) (queue : next.msgRx.queue = w.msgRx.queue) :
    Log.Leads false log [.handling envelope] id (process log w id) (process (log ++ [.handling envelope]) next id) := by
  obtain ⟨installed, _, living⟩ := sound.placed.mapped envelope.actorId cell present
  have calm : w.phase.callback id = none := by rw [here]; rfl
  by_cases same : envelope.actorId = id
  · have one : about id [envelope] = [envelope] := by simp [Keyed.select_cons, same]
    have now : process log w id = ⟨.idle, envelope :: (next.scheduler.mailbox id ++ about id w.msgRx.queue)⟩ := by
      rw [process, taken, one, status_idle log w id calm (by rw [here]; rfl) (same ▸ known_of_installed log _ _ installed)
        (same ▸ living)]
      rfl
    have later : process (log ++ [Event.handling envelope]) next id =
        ⟨.busy envelope, next.scheduler.mailbox id ++ about id w.msgRx.queue⟩ := by
      rw [process, status, after, if_pos same, queue]
    rw [now, later]
    exact Log.leads_one false log _ id _ _ .take (by simp [Process.step, Log.signs, Event.sign, same])
  · have none : about id [envelope] = [] := by simp [Keyed.select_cons, same]
    rw [none, List.nil_append] at taken
    exact leads_still log _ w next id (by simp [Log.signs, Event.sign, same]) rfl rfl
      (by rw [after, if_neg same, calm]) (by rw [closing, here]; rfl) taken.symm queue

theorem leads_handled (log : Log P) (w next : Worker P n) (sound : Sound log w) (id turn : ActorId) (envelope : Message P)
    (cell : ActorCell P) (ctx : Context (Fin n)) (reply : P.Reply) (here : w.phase = .handling turn envelope cell ctx)
    (after : next.phase.callback id = none) (closing : next.phase.closing = false)
    (boxes : next.scheduler.mailbox id = w.scheduler.mailbox id) (queue : next.msgRx.queue = w.msgRx.queue) :
    Log.Leads false log [.handled envelope reply] id (process log w id) (process (log ++ [.handled envelope reply]) next id) := by
  obtain ⟨installed, _, living, _⟩ := sound.placed.taken envelope.actorId cell (by rw [here]; rfl)
  by_cases same : envelope.actorId = id
  · have now : process log w id = ⟨.busy envelope, w.scheduler.mailbox id ++ about id w.msgRx.queue⟩ := by
      simp [process, status, here, Phase.callback, same]
    have know : Log.known [Event.handled envelope reply] = [] := rfl
    have stop : Log.gone [Event.handled envelope reply] = [] := rfl
    have later : process (log ++ [Event.handled envelope reply]) next id =
        ⟨.idle, w.scheduler.mailbox id ++ about id w.msgRx.queue⟩ := by
      rw [process, boxes, queue, status_idle _ next id after closing
        (by simp [same ▸ known_of_installed log _ _ installed]) (by simpa [stop] using same ▸ living)]
    rw [now, later]
    exact Log.leads_one false log _ id _ _ (.finish reply) (by simp [Process.step, Log.signs, Event.sign, same])
  · exact leads_still log _ w next id (by simp [Log.signs, Event.sign, same]) rfl rfl
      (by rw [after, here]; simp [Phase.callback, same]) (by rw [closing, here]; rfl) boxes queue

-- A panicking handler makes its actor leave.
theorem leads_panicked (log : Log P) (w : Worker P n) (sound : Sound log w) (id turn : ActorId) (envelope : Message P)
    (cell : ActorCell P) (ctx : Context (Fin n)) (val : P.Val) (here : w.phase = .handling turn envelope cell ctx) :
    Log.Leads false log (.panicked envelope :: (w.beginStop envelope.actorId (cell.write val) (.turn turn)).2) id
      (process log w id) (process (log ++ .panicked envelope :: (w.beginStop envelope.actorId (cell.write val) (.turn turn)).2)
        (w.beginStop envelope.actorId (cell.write val) (.turn turn)).1 id) := by
  obtain ⟨_, typed, _⟩ := sound.placed.taken envelope.actorId cell (by rw [here]; rfl)
  rw [begin_stop_events w _ (cell.write val) _ typed]
  by_cases same : envelope.actorId = id
  · have now : process log w id = ⟨.busy envelope, w.scheduler.mailbox id ++ about id w.msgRx.queue⟩ := by
      simp [process, status, here, Phase.callback, same]
    have later : process (log ++ Event.panicked envelope :: [.stopping envelope.actorId (cell.write val).actor])
        (w.beginStop envelope.actorId (cell.write val) (.turn turn)).1 id =
          ⟨.leaving, w.scheduler.mailbox id ++ about id w.msgRx.queue⟩ := by
      simp [process, status, beginStop, Phase.callback, same]
    have first : Log.Leads false log [.panicked envelope] id
        ⟨.busy envelope, w.scheduler.mailbox id ++ about id w.msgRx.queue⟩
        ⟨.failed, w.scheduler.mailbox id ++ about id w.msgRx.queue⟩ :=
      Log.leads_one false log _ id _ _ .panic (by simp [Process.step, Log.signs, Event.sign, same])
    have second : Log.Leads false (log ++ [.panicked envelope]) [.stopping envelope.actorId (cell.write val).actor] id
        ⟨.failed, w.scheduler.mailbox id ++ about id w.msgRx.queue⟩
        ⟨.leaving, w.scheduler.mailbox id ++ about id w.msgRx.queue⟩ :=
      Log.leads_one false _ _ id _ _ .leave (by simp [Process.step, Log.signs, Event.sign, same])
    rw [now, later]
    exact Log.leads_then false log [.panicked envelope] _ id _ _ _ first second
  · refine Log.leads_quiet false log _ id _ _ (by simp [Log.signs, Event.sign, same]) ?_
    have apart : id ≠ envelope.actorId := fun wrong => same wrong.symm
    have know : Log.known (Event.panicked envelope :: [.stopping envelope.actorId (cell.write val).actor]) = [] := rfl
    have stop : Log.gone (Event.panicked envelope :: [.stopping envelope.actorId (cell.write val).actor]) =
        [envelope.actorId] := rfl
    simp only [process, status, standing, begin_stop_phase, here, Phase.callback, same, if_false, Log.known_append, know,
      Log.gone_append, stop, List.append_nil, List.mem_append, List.mem_singleton, apart, or_false, Phase.closing]
    rfl

theorem process_step (log events : Log P) (w next : Worker P n) (act : Act P) (id : ActorId) (sound : Sound log w)
    (kept : promised log w act) (moves : Moves w act events next) :
    Log.Leads false log events id (process log w id) (process (log ++ events) next id) := by
  have placed := sound.placed
  cases moves with
  | post envelope alive => exact leads_post log w id envelope kept.1
  | postControl msg alive =>
      cases msg <;> exact leads_still log _ w _ id rfl rfl rfl rfl rfl rfl rfl
  | direct other actor onStop =>
      exact leads_install log w _ placed id other actor.ty kept.2.1 rfl rfl rfl rfl
  | pollSpawn senders other actor onStop rest here queue =>
      have fresh := (sound.waiting.queued other actor onStop (by rw [queue]; simp)).2.2
      exact leads_install log w _ placed id other actor.ty fresh (by rw [here]; rfl) (by rw [here]; rfl) rfl rfl
  | drain senders envelope rest here queue =>
      exact Log.leads_quiet false log _ id _ _ rfl (process_frame log _ w _ id rfl rfl rfl rfl
        (mail_receive w envelope rest queue id))
  | receive senders envelope rest here queue =>
      exact Log.leads_quiet false log _ id _ _ rfl (process_frame log _ w _ id rfl rfl (by rw [here]; rfl) (by rw [here]; rfl)
        (mail_receive w envelope rest queue id))
  | idle senders scheduler here next =>
      have same := Scheduler.mailbox_next_ready w.scheduler id
      rw [next] at same
      exact leads_still log _ w _ id rfl rfl rfl (by rw [here]; rfl) (by rw [here]; rfl) same rfl
  | nothing senders turn popped scheduler here next dequeued =>
      have same := Scheduler.mailbox_next_ready w.scheduler id
      rw [next] at same
      rw [← (Scheduler.dequeue_none popped scheduler turn dequeued).1] at same
      exact leads_still log _ w _ id rfl rfl rfl (by rw [here]; rfl) (by rw [here]; rfl) same rfl
  | missing senders turn popped scheduler envelope here next dequeued absent =>
      exact leads_missing log w sound id turn popped scheduler envelope here next dequeued absent
  | handle senders turn popped scheduler envelope cell here next dequeued present typed =>
      exact leads_handle log w _ sound id envelope cell here present
        (mail_taken w sound.served here turn popped scheduler envelope next dequeued id) rfl rfl rfl
  | mismatch senders turn popped scheduler envelope cell here next dequeued present untyped =>
      have head := (dequeue_head _ _ _ turn envelope next dequeued).1
      exact absurd (dispatched_typed log w placed sound.mail turn envelope cell (by simp [head]) present) untyped
  | handlerReturn senders turn envelope cell ctx val reply here =>
      exact leads_handled log w _ sound id turn envelope cell ctx reply here rfl rfl rfl rfl
  | handlerPanic senders turn envelope cell ctx val here => exact leads_panicked log w sound id turn envelope cell ctx val here
  | putBack senders turn other cell here =>
      exact leads_still log _ w _ id rfl rfl rfl (by rw [here]; rfl) (by rw [here]; rfl) (Scheduler.mailbox_requeue _ turn id) rfl
  | stop senders turn other cell here =>
      obtain ⟨installed, typed, living, _⟩ := placed.taken other cell (by rw [here]; rfl)
      rw [begin_stop_events w other cell _ typed]
      exact leads_stopping log w _ id other cell.actor (by rw [here]; rfl) (by rw [here]; rfl)
        (known_of_installed log _ _ installed) living rfl rfl rfl rfl
  | hookReturn senders other cell ctx after here typed =>
      exact leads_stopped log w placed sound.served id other cell ctx after here
  | hookSkip senders other cell ctx after here untyped =>
      exact absurd (placed.stopping other cell ctx after here).2.symm untyped
  | hookPanic senders other cell ctx after here typed =>
      have gone := (placed.stopping other cell ctx after here).1
      by_cases same : other = id
      · subst same
        have now : process log w other = ⟨.leaving, w.scheduler.mailbox other ++ about other w.msgRx.queue⟩ := by
          simp [process, status, here, Phase.callback]
        have later : process (log ++ [Event.stopPanicked other]) { w with phase := .dropControl true } other =
            ⟨.dead, w.scheduler.mailbox other ++ about other w.msgRx.queue⟩ := by
          rw [process, status_dead _ _ other rfl (by simp [placed.gone other gone]) (Or.inr rfl)]
        rw [now, later]
        exact Log.leads_one false log _ other _ _ (.exit false) (by simp [Process.step, Log.signs, Event.sign])
      · exact leads_close log _ w _ id (by simp [Log.signs, Event.sign, same]) rfl (by rw [here]; simp [Phase.callback, same])
          (by rw [here]; rfl) rfl rfl rfl rfl
  | stopDone senders here =>
      exact leads_close log _ w _ id rfl rfl (by rw [here]; rfl) (by rw [here]; rfl) rfl rfl rfl rfl
  | stopGone senders other ids here absent =>
      obtain ⟨cell, found⟩ := sound.sweeping.present other (by rw [here]; simp [Phase.toStop])
      rw [absent] at found
      cases found
  | stopNext senders other ids cell here present =>
      obtain ⟨installed, typed, living⟩ := placed.mapped other cell present
      rw [begin_stop_events w other cell _ typed]
      exact leads_stopping log w _ id other cell.actor (by rw [here]; rfl) (by rw [here]; rfl)
        (known_of_installed log _ _ installed) living rfl rfl rfl rfl
  | dropControl senders panicked here =>
      refine leads_still log _ w _ id (Log.signs_refusals _ id) ?_ ?_ (by rw [here]; rfl) (by rw [here]; rfl) rfl rfl
      · simp [Log.known, Log.installed, Log.filter_map_refusals Event.installs fun _ => rfl]
      · exact Log.filter_map_refusals Event.stops (fun _ => rfl) _
  | dropMsgs senders panicked here =>
      exact leads_teardown log w _ sound.mail id w.msgRx.queue (w.scheduler.mailbox id) (about id w.msgRx.queue) []
        (by rw [here]; rfl) (by rw [here]; rfl) rfl rfl rfl (by simp) (by simp [Channel.dropReceiver])
  | dropScheduler senders panicked here =>
      exact leads_teardown log w _ sound.mail id (queued w.scheduler) [] (w.scheduler.mailbox id) (about id w.msgRx.queue)
        (by rw [here]; rfl) (by rw [here]; rfl) rfl rfl (about_queued _ sound.served.keyed id) (by simp) (by simp)
  | stopHandler turn envelope cell ctx here =>
      exact leads_still log _ w _ id rfl rfl rfl (by rw [here]; rfl) (by rw [here]; rfl) rfl rfl
  | stopHook other cell ctx after here =>
      exact leads_still log _ w _ id rfl rfl rfl (by rw [here]; rfl) (by rw [here]; rfl) rfl rfl
  | _ => exact leads_still log _ w _ id rfl rfl rfl (by simp only [*]; rfl) (by simp only [*]; rfl) rfl rfl

theorem process_start (workerIdx : Fin n) (id : ActorId) : process ([] : Log P) (start workerIdx) id = Process.new := by
  simp [process, status, start, Phase.callback, standing, Log.known, Log.installed, Process.new, Channel.new]

theorem reach_process (workerIdx : Fin n) (log : Log P) (w : Worker P n) (reached : Reach workerIdx log w) (id : ActorId) :
    (Process.machine (Message P) P.Reply false).Reach Machine.free (log.signs id) (process log w id) := by
  obtain ⟨p, led, same⟩ := Machine.reach_simulated (machine P workerIdx) promised (Process.machine (Message P) P.Reply false)
    (Event.sign id) (fun log w p => p = process log w id)
    (fun w begins => ⟨Process.new, rfl, by rw [begins, process_start]⟩)
    (fun log w p act next events before same kept taken => ⟨_, same ▸ process_step log events w next act id
      (reach_sound workerIdx log w before) kept (step_moves w next act events taken), rfl⟩) log w reached
  exact same ▸ led

-- The actor of an idle process is at hand: in the map, or about to be put back.
theorem process_idle (log : Log P) (w : Worker P n) (placed : Placed log w) (id : ActorId)
    (idle : (process log w id).status = .idle) :
    (∃ cell, w.actorMap.lookup id = some cell) ∨ ∃ cell, w.phase.out = some (id, cell) := by
  have shown : id ∈ log.known ∧ id ∉ log.gone := by
    cases running : w.phase.callback id with
    | none =>
        simp only [process, status, running, standing] at idle
        split at idle
        · rename_i known
          split at idle
          · cases idle
          · rename_i living
            exact ⟨known, fun gone => living (Or.inl gone)⟩
        · cases idle
    | some busy =>
        simp only [process, status, running] at idle
        rcases w.phase.callback_cases id busy running with ⟨envelope, same⟩ | same <;> simp [same] at idle
  rcases placed.total id shown.1 with gone | present
  · exact absurd gone shown.2
  · exact present

end Worker

end Actinium
