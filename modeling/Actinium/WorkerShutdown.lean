import Actinium.PanicIsolation
import Actinium.Lib.History

set_option autoImplicit false

namespace Actinium

variable {P : Program} {n : Nat}

namespace Event

def isShutdown : Event P → Bool
  | .shutdownSent => true
  | _ => false

def isSnapshot : Event P → Bool
  | .snapshot _ => true
  | _ => false

end Event

namespace Log

-- The spawns sent behind a Shutdown.
def lateSpawns (log : Log P) : List ActorId := spawnsSent (History.since Event.isShutdown log)

-- The actors installed after the keys of the map were taken.
def lateInstalls (log : Log P) : List ActorId := known (History.since Event.isSnapshot log)

theorem late_spawns_sent (log : Log P) (id : ActorId) (late : id ∈ log.lateSpawns) : id ∈ log.spawnsSent :=
  ((History.since_sublist Event.isShutdown log).filterMap Event.sendsSpawn).subset late

theorem late_installs_known (log : Log P) (id : ActorId) (late : id ∈ log.lateInstalls) : id ∈ log.known :=
  (((History.since_sublist Event.isSnapshot log).filterMap Event.installs).map Prod.fst).subset late

theorem is_shutdown_iff (event : Event P) : event.isShutdown = true ↔ event = .shutdownSent := by
  cases event <;> simp [Event.isShutdown]

theorem is_snapshot_iff (event : Event P) : event.isSnapshot = true ↔ ∃ ids, event = .snapshot ids := by
  cases event <;> simp [Event.isSnapshot]

theorem late_spawns_seen (log events : Log P) (seen : .shutdownSent ∈ log) :
    lateSpawns (log ++ events) = log.lateSpawns ++ events.spawnsSent := by
  unfold lateSpawns
  rw [History.since_append_seen Event.isShutdown log events _ seen rfl, spawns_append]

theorem no_shutdown (log : Log P) (unseen : .shutdownSent ∉ log) (event : Event P) (member : event ∈ log) :
    event.isShutdown = false := by
  by_contra shut
  exact unseen ((is_shutdown_iff event).mp (by simpa using shut) ▸ member)

theorem late_spawns_unseen (log events : Log P) (unseen : .shutdownSent ∉ log) :
    lateSpawns (log ++ events) = events.lateSpawns := by
  unfold lateSpawns
  rw [History.since_append_unseen Event.isShutdown log events (no_shutdown log unseen)]

theorem late_spawns_none (log : Log P) (unseen : .shutdownSent ∉ log) : log.lateSpawns = [] := by
  rw [lateSpawns, History.since_unseen Event.isShutdown log (no_shutdown log unseen)]
  rfl

theorem late_spawns_quiet (log events : Log P) (noSpawn : events.spawnsSent = []) :
    lateSpawns (log ++ events) = log.lateSpawns :=
  History.since_append_quiet Event.isShutdown Event.sendsSpawn log events noSpawn

theorem late_installs_seen (log events : Log P) (ids : List ActorId) (seen : .snapshot ids ∈ log) :
    lateInstalls (log ++ events) = log.lateInstalls ++ events.known := by
  unfold lateInstalls
  rw [History.since_append_seen Event.isSnapshot log events _ seen rfl, known_append]

theorem no_snapshot (log : Log P) (unseen : ∀ ids, .snapshot ids ∉ log) (event : Event P) (member : event ∈ log) :
    event.isSnapshot = false := by
  by_contra taken
  obtain ⟨ids, same⟩ := (is_snapshot_iff event).mp (by simpa using taken)
  exact unseen ids (same ▸ member)

theorem late_installs_unseen (log events : Log P) (unseen : ∀ ids, .snapshot ids ∉ log) :
    lateInstalls (log ++ events) = events.lateInstalls := by
  unfold lateInstalls
  rw [History.since_append_unseen Event.isSnapshot log events (no_snapshot log unseen)]

theorem late_installs_none (log : Log P) (unseen : ∀ ids, .snapshot ids ∉ log) : log.lateInstalls = [] := by
  rw [lateInstalls, History.since_unseen Event.isSnapshot log (no_snapshot log unseen)]
  rfl

theorem late_installs_quiet (log events : Log P) (noInstall : events.installed = []) :
    lateInstalls (log ++ events) = log.lateInstalls :=
  congrArg (List.map Prod.fst) (History.since_append_quiet Event.isSnapshot Event.installs log events noInstall)

end Log

namespace Worker

-- A spawn sent behind a Shutdown is never installed, one sent before is.
structure ControlOrder (log : Log P) (w : Worker P n) : Prop where
  took : .tookShutdown ∈ log → w.phase.looping = false ∧ .shutdownSent ∈ log
  waits : w.phase.looping = true → (.shutdownSent ∈ log ↔ .shutdown ∈ w.controlRx.queue)
  late : ∀ id ∈ log.lateSpawns, id ∉ log.known ∧
    (w.phase.looping = true → ∃ front back, w.controlRx.queue = front ++ ControlMsg.shutdown :: back ∧ id ∈ spawnIds back)
  early : ∀ id ∈ log.spawnsSent, id ∉ log.lateSpawns → id ∈ log.known ∨ .tookShutdown ∉ log ∧
    (w.phase.looping = true → ∃ front back, w.controlRx.queue = front ++ back ∧ id ∈ spawnIds front ∧ .shutdown ∉ front)

-- Nothing brings a worker back into its loop.
theorem looping_before (w next : Worker P n) (act : Act P) (events : Log P) (moves : Moves w act events next)
    (loops : next.phase.looping = true) : w.phase.looping = true := by
  cases moves with
  | post => exact loops
  | postControl => exact loops
  | direct => exact loops
  | drain => exact loops
  | stopHook id cell ctx after here =>
      rw [here]
      cases after with
      | turn turn => rfl
      | stopAll ids => cases loops
  | hookReturn senders id cell ctx after here =>
      rw [here]
      cases after with
      | turn turn => rfl
      | stopAll ids => cases loops
  | hookSkip senders id cell ctx after here =>
      rw [here]
      cases after with
      | turn turn => rfl
      | stopAll ids => cases loops
  | snapshot => cases loops
  | stopDone => cases loops
  | stopGone => cases loops
  | stopNext => cases loops
  | hookPanic => cases loops
  | dropControl => cases loops
  | dropMsgs => cases loops
  | dropScheduler => cases loops
  | _ => simp only [*, Phase.looping]

-- A step that neither sends nor takes anything on the control channel.
theorem order_frame (log events : Log P) (w next : Worker P n) (order : ControlOrder log w)
    (noInstall : events.installed = []) (noSpawn : events.spawnsSent = []) (noShutdown : .shutdownSent ∉ events)
    (noTake : .tookShutdown ∉ events)
    (loops : next.phase.looping = true → w.phase.looping = true ∧ next.controlRx.queue = w.controlRx.queue)
    (stays : w.phase.looping = false → next.phase.looping = false) : ControlOrder (log ++ events) next := by
  have noKnown : events.known = [] := by simp [Log.known, noInstall]
  have late : (log ++ events).lateSpawns = log.lateSpawns := Log.late_spawns_quiet log events noSpawn
  refine ⟨?_, ?_, ?_, ?_⟩
  · intro taken
    rcases List.mem_append.mp taken with old | new
    · exact ⟨stays (order.took old).1, List.mem_append_left _ (order.took old).2⟩
    · exact absurd new noTake
  · intro again
    obtain ⟨before, same⟩ := loops again
    rw [same, ← order.waits before]
    simp [noShutdown]
  · intro id member
    rw [late] at member
    obtain ⟨unknown, behind⟩ := order.late id member
    refine ⟨by simpa [noKnown] using unknown, ?_⟩
    intro again
    obtain ⟨before, same⟩ := loops again
    rw [same]
    exact behind before
  · intro id sent notLate
    rw [late] at notLate
    rw [Log.spawns_append, noSpawn, List.append_nil] at sent
    rcases order.early id sent notLate with known | ⟨untaken, ahead⟩
    · exact Or.inl (by simp [known])
    · refine Or.inr ⟨by simp [untaken, noTake], ?_⟩
      intro again
      obtain ⟨before, same⟩ := loops again
      rw [same]
      exact ahead before

theorem order_post_spawn (log : Log P) (w : Worker P n) (order : ControlOrder log w) (id : ActorId) (actor : AnyBox P)
    (onStop : P.Ty) (unknown : id ∉ log.known) :
    ControlOrder (log ++ [Event.spawnSent id actor.ty])
      (w.withControl (w.controlRx.queue ++ [ControlMsg.spawnActor id actor onStop])) := by
  have sent : Log.spawnsSent [Event.spawnSent (P := P) id actor.ty] = [id] := rfl
  have noKnown : Log.known [Event.spawnSent (P := P) id actor.ty] = [] := rfl
  have alone : Log.lateSpawns [Event.spawnSent (P := P) id actor.ty] = [] := rfl
  have last : spawnIds [ControlMsg.spawnActor id actor onStop] = [id] := rfl
  refine ⟨?_, ?_, ?_, ?_⟩
  · intro taken
    have before := order.took (by simpa using taken)
    exact ⟨before.1, List.mem_append_left _ before.2⟩
  · intro loops
    have same := order.waits loops
    simpa [withControl] using same
  · intro other member
    have old (late : other ∈ log.lateSpawns) : other ∉ log.known ∧ (w.phase.looping = true → ∃ front back,
        w.controlRx.queue ++ [ControlMsg.spawnActor id actor onStop] = front ++ ControlMsg.shutdown :: back ∧
          other ∈ spawnIds back) := by
      obtain ⟨unknown, behind⟩ := order.late other late
      refine ⟨unknown, fun loops => ?_⟩
      obtain ⟨front, back, queue, inside⟩ := behind loops
      exact ⟨front, back ++ [ControlMsg.spawnActor id actor onStop], by simp [queue], by simp [spawn_ids_append, inside]⟩
    rw [Log.known_append, noKnown, List.append_nil]
    by_cases seen : .shutdownSent ∈ log
    · rw [Log.late_spawns_seen _ _ seen, sent] at member
      rcases List.mem_append.mp member with before | now
      · exact old before
      · cases List.mem_singleton.mp now
        refine ⟨unknown, fun loops => ?_⟩
        obtain ⟨front, back, queue⟩ := List.append_of_mem ((order.waits loops).mp seen)
        exact ⟨front, back ++ [ControlMsg.spawnActor id actor onStop], by simp [withControl, queue],
          by simp [spawn_ids_append, last]⟩
    · rw [Log.late_spawns_unseen _ _ seen, alone] at member
      cases member
  · intro other member notLate
    rw [Log.known_append, noKnown, List.append_nil]
    rw [Log.spawns_append, sent] at member
    rcases List.mem_append.mp member with before | now
    · have earlier : other ∉ log.lateSpawns := by
        intro late
        refine notLate ?_
        by_cases seen : .shutdownSent ∈ log
        · rw [Log.late_spawns_seen _ _ seen]
          exact List.mem_append_left _ late
        · rw [Log.late_spawns_none _ seen] at late
          cases late
      rcases order.early other before earlier with known | ⟨untaken, ahead⟩
      · exact Or.inl known
      · refine Or.inr ⟨by simpa using untaken, fun loops => ?_⟩
        obtain ⟨front, back, queue, inside, none⟩ := ahead loops
        exact ⟨front, back ++ [ControlMsg.spawnActor id actor onStop], by simp [withControl, queue], inside, none⟩
    · cases List.mem_singleton.mp now
      have unseen : .shutdownSent ∉ log := by
        intro seen
        refine notLate ?_
        rw [Log.late_spawns_seen _ _ seen, sent]
        simp
      refine Or.inr ⟨?_, fun loops => ?_⟩
      · intro taken
        exact unseen (order.took (by simpa using taken)).2
      · refine ⟨w.controlRx.queue ++ [ControlMsg.spawnActor id actor onStop], [], by simp [withControl],
          by simp [spawn_ids_append, last], ?_⟩
        intro queued
        rcases List.mem_append.mp queued with earlier | wrong
        · exact unseen ((order.waits loops).mpr earlier)
        · cases List.mem_singleton.mp wrong

theorem order_post_shutdown (log : Log P) (w : Worker P n) (order : ControlOrder log w) :
    ControlOrder (log ++ [Event.shutdownSent]) (w.withControl (w.controlRx.queue ++ [ControlMsg.shutdown])) := by
  have late : Log.lateSpawns (log ++ [Event.shutdownSent]) = log.lateSpawns := Log.late_spawns_quiet log _ rfl
  refine ⟨?_, ?_, ?_, ?_⟩
  · intro taken
    exact ⟨(order.took (by simpa using taken)).1, by simp⟩
  · intro loops
    simp [withControl]
  · intro id member
    obtain ⟨unknown, behind⟩ := order.late id (late ▸ member)
    refine ⟨by simpa [Log.known, Log.installed, Event.installs] using unknown, fun loops => ?_⟩
    obtain ⟨front, back, queue, inside⟩ := behind loops
    exact ⟨front, back ++ [ControlMsg.shutdown], by simp [withControl, queue], by simp [spawn_ids_append, inside]⟩
  · intro id sent notLate
    have before : id ∈ log.spawnsSent := by simpa [Log.spawnsSent, Event.sendsSpawn] using sent
    rcases order.early id before (late ▸ notLate) with known | ⟨untaken, ahead⟩
    · exact Or.inl (by simp [known])
    · refine Or.inr ⟨by simpa using untaken, fun loops => ?_⟩
      obtain ⟨front, back, queue, inside, none⟩ := ahead loops
      exact ⟨front, back ++ [ControlMsg.shutdown], by simp [withControl, queue], inside, none⟩

-- An installation, from the head of the control channel or past it.
theorem order_install (log : Log P) (w next : Worker P n) (order : ControlOrder log w) (id : ActorId) (ty : P.Ty)
    (other : ∀ late ∈ log.lateSpawns, late ≠ id) (loops : next.phase.looping = w.phase.looping)
    (shutdown : .shutdown ∈ next.controlRx.queue ↔ .shutdown ∈ w.controlRx.queue)
    (behind : ∀ late, late ≠ id → ∀ front back, w.controlRx.queue = front ++ ControlMsg.shutdown :: back →
      late ∈ spawnIds back →
      ∃ front back, next.controlRx.queue = front ++ ControlMsg.shutdown :: back ∧ late ∈ spawnIds back)
    (ahead : ∀ soon, soon ≠ id → ∀ front back, w.controlRx.queue = front ++ back → soon ∈ spawnIds front →
      .shutdown ∉ front → ∃ front back, next.controlRx.queue = front ++ back ∧ soon ∈ spawnIds front ∧ .shutdown ∉ front) :
    ControlOrder (log ++ [Event.installed id ty]) next := by
  have install : Log.known [Event.installed id ty] = [id] := rfl
  have late : Log.lateSpawns (log ++ [Event.installed id ty]) = log.lateSpawns := Log.late_spawns_quiet log _ rfl
  refine ⟨?_, ?_, ?_, ?_⟩
  · intro taken
    obtain ⟨still, sent⟩ := order.took (by simpa using taken)
    exact ⟨loops ▸ still, List.mem_append_left _ sent⟩
  · intro again
    rw [shutdown, ← order.waits (loops ▸ again)]
    simp
  · intro spawned member
    rw [late] at member
    obtain ⟨unknown, queued⟩ := order.late spawned member
    have different := other spawned member
    refine ⟨by simp [install, unknown, different], fun again => ?_⟩
    obtain ⟨front, back, queue, inside⟩ := queued (loops ▸ again)
    exact behind spawned different front back queue inside
  · intro spawned sent notLate
    rw [late] at notLate
    have before : spawned ∈ log.spawnsSent := by simpa [Log.spawnsSent, Event.sendsSpawn] using sent
    by_cases same : spawned = id
    · exact Or.inl (by simp [install, same])
    · rcases order.early spawned before notLate with known | ⟨untaken, queued⟩
      · exact Or.inl (by simp [known])
      · refine Or.inr ⟨by simpa using untaken, fun again => ?_⟩
        obtain ⟨front, back, queue, inside, none⟩ := queued (loops ▸ again)
        exact ahead spawned same front back queue inside none

theorem order_poll_spawn (log : Log P) (w : Worker P n) (order : ControlOrder log w) (waiting : Waiting log w) (id : ActorId)
    (actor : AnyBox P) (onStop : P.Ty) (rest : List (ControlMsg P)) (here : w.phase = .control)
    (queue : w.controlRx.queue = .spawnActor id actor onStop :: rest) :
    ControlOrder (log ++ [Event.installed id actor.ty])
      { w.withControl rest with actorMap := w.actorMap.insert id ⟨actor, onStop⟩, phase := .confirming id } := by
  have loops : w.phase.looping = true := by rw [here]; rfl
  have once := waiting.once
  rw [queue] at once
  refine order_install log w _ order id actor.ty ?_ (by rw [loops]; rfl) (by simp [withControl, queue]) ?_ ?_
  · rintro late member rfl
    obtain ⟨front, back, split, inside⟩ := (order.late late member).2 loops
    cases front with
    | nil =>
        rw [queue] at split
        cases split
    | cons head tail =>
        rw [queue] at split
        cases split
        refine (List.nodup_cons.mp once).1 ?_
        change late ∈ spawnIds (tail ++ ControlMsg.shutdown :: back)
        rw [spawn_ids_append]
        exact List.mem_append_right _ inside
  · intro late different front back split inside
    cases front with
    | nil =>
        rw [queue] at split
        cases split
    | cons head tail =>
        rw [queue] at split
        cases split
        exact ⟨tail, back, rfl, inside⟩
  · intro soon different front back split inside none
    cases front with
    | nil => cases inside
    | cons head tail =>
        rw [queue] at split
        cases split
        rcases List.mem_cons.mp inside with same | later
        · exact absurd same different
        · exact ⟨tail, back, rfl, later, fun wrong => none (List.mem_cons_of_mem _ wrong)⟩

theorem order_poll_shutdown (log : Log P) (w : Worker P n) (order : ControlOrder log w) (rest : List (ControlMsg P))
    (here : w.phase = .control) (queue : w.controlRx.queue = .shutdown :: rest) :
    ControlOrder (log ++ [Event.tookShutdown]) { w.withControl rest with phase := .snapshot } := by
  have loops : w.phase.looping = true := by rw [here]; rfl
  have sent : .shutdownSent ∈ log := (order.waits loops).mpr (by simp [queue])
  have late : Log.lateSpawns (log ++ [Event.tookShutdown]) = log.lateSpawns := Log.late_spawns_quiet log _ rfl
  refine ⟨?_, ?_, ?_, ?_⟩
  · intro _
    exact ⟨rfl, List.mem_append_left _ sent⟩
  · intro wrong
    cases wrong
  · intro id member
    obtain ⟨unknown, _⟩ := order.late id (late ▸ member)
    exact ⟨by simpa [Log.known, Log.installed, Event.installs] using unknown, fun wrong => by cases wrong⟩
  · intro id spawned notLate
    have before : id ∈ log.spawnsSent := by simpa [Log.spawnsSent, Event.sendsSpawn] using spawned
    rcases order.early id before (late ▸ notLate) with known | ⟨_, ahead⟩
    · exact Or.inl (by simp [known])
    · obtain ⟨front, back, split, inside, none⟩ := ahead loops
      cases front with
      | nil => cases inside
      | cons head tail =>
          rw [queue] at split
          cases split
          simp at none

theorem order_step (log events : Log P) (w next : Worker P n) (act : Act P) (order : ControlOrder log w)
    (waiting : Waiting log w) (kept : promised log w act) (moves : Moves w act events next) :
    ControlOrder (log ++ events) next := by
  have back := looping_before w next act events moves
  have stays (out : w.phase.looping = false) : next.phase.looping = false := by
    cases still : next.phase.looping with
    | false => rfl
    | true => rw [back still] at out; cases out
  cases moves with
  | postControl msg alive =>
      cases msg with
      | shutdown => exact order_post_shutdown log w order
      | spawnActor id actor onStop => exact order_post_spawn log w order id actor onStop kept.2.1
  | direct id actor onStop =>
      refine order_install log w _ order id actor.ty ?_ rfl Iff.rfl ?_ ?_
      · rintro late member rfl
        exact kept.2.2 (Log.late_spawns_sent log late member)
      · exact fun late _ front back queue inside => ⟨front, back, queue, inside⟩
      · exact fun soon _ front back queue inside none => ⟨front, back, queue, inside, none⟩
  | pollSpawn senders id actor onStop rest here queue =>
      exact order_poll_spawn log w order waiting id actor onStop rest here queue
  | pollShutdown senders rest here queue => exact order_poll_shutdown log w order rest here queue
  | mismatch senders turn popped scheduler envelope cell here ready dequeued present untyped =>
      refine order_frame log _ w _ order ?_ ?_ ?_ ?_ (fun again => ⟨back again, rfl⟩) stays <;>
        simp [Log.installed, Log.spawnsSent, Event.installs, Event.sendsSpawn, beginStop] <;> split <;> simp
  | handlerPanic senders turn envelope cell ctx val here =>
      refine order_frame log _ w _ order ?_ ?_ ?_ ?_ (fun again => ⟨back again, rfl⟩) stays <;>
        simp [Log.installed, Log.spawnsSent, Event.installs, Event.sendsSpawn, beginStop] <;> split <;> simp
  | stop senders turn id cell here =>
      refine order_frame log _ w _ order ?_ ?_ ?_ ?_ (fun again => ⟨back again, rfl⟩) stays <;>
        simp [Log.installed, Log.spawnsSent, Event.installs, Event.sendsSpawn, beginStop] <;> split <;> simp
  | stopNext senders id ids cell here present =>
      refine order_frame log _ w _ order ?_ ?_ ?_ ?_ (fun again => ⟨back again, rfl⟩) stays <;>
        simp [Log.installed, Log.spawnsSent, Event.installs, Event.sendsSpawn, beginStop] <;> split <;> simp
  | hookReturn senders id cell ctx after here typed =>
      refine order_frame log _ w _ order ?_ ?_ (by simp) (by simp) (fun again => ⟨back again, by cases after <;> rfl⟩) stays
      · exact Log.installed_dropped _
      · exact Log.spawns_dropped _
  | hookSkip senders id cell ctx after here untyped =>
      exact order_frame log _ w _ order (Log.installed_dropped _) (Log.spawns_dropped _) (by simp) (by simp)
        (fun again => ⟨back again, by cases after <;> rfl⟩) stays
  | stopGone senders id ids here absent =>
      exact order_frame log _ w _ order (Log.installed_dropped _) (Log.spawns_dropped _) (by simp) (by simp)
        (fun again => ⟨back again, rfl⟩) stays
  | dropControl senders panicked here =>
      exact order_frame log _ w _ order (Log.installed_refusals _) (Log.spawns_refusals _) (by simp [mem_refusals])
        (by simp [mem_refusals]) (fun again => by cases again) stays
  | dropMsgs senders panicked here =>
      exact order_frame log _ w _ order (Log.installed_dropped _) (Log.spawns_dropped _) (by simp) (by simp)
        (fun again => ⟨back again, rfl⟩) stays
  | dropScheduler senders panicked here =>
      exact order_frame log _ w _ order (Log.installed_dropped _) (Log.spawns_dropped _) (by simp) (by simp)
        (fun again => ⟨back again, rfl⟩) stays
  | _ => exact order_frame log _ w _ order rfl rfl (by simp) (by simp) (fun again => ⟨back again, rfl⟩) stays

theorem reach_order (workerIdx : Fin n) (log : Log P) (w : Worker P n) (reached : Reach workerIdx log w) :
    ControlOrder log w := by
  refine Machine.reach_invariant (machine P workerIdx) promised ControlOrder ?_ ?_ log w reached
  · intro s begins
    rw [begins]
    refine ⟨by simp, by simp [start, Channel.new], ?_, by simp [Log.spawnsSent]⟩
    intro id late
    cases late
  · intro log s act next events before order kept taken
    exact order_step log events s next act order (reach_sound workerIdx log s before).waiting kept
      (step_moves s next act events taken)

end Worker

namespace Phase

-- The keys of the map have been taken, and nothing more is dispatched.
def swept : Phase P n → Bool
  | .stopAll _ => true
  | .stopping _ _ _ (.stopAll _) => true
  | phase => phase.closing

theorem closing_swept (phase : Phase P n) (closes : phase.closing = true) : phase.swept = true := by
  cases phase <;> first | rfl | cases closes

theorem closing_out (phase : Phase P n) (closes : phase.closing = true) : phase.out = none := by
  cases phase <;> first | rfl | cases closes

end Phase

namespace Worker

-- The sweep calls the stopped hook of every actor that was in the map when
-- its keys were taken, and of no actor that came later.
structure Swept (log : Log P) (w : Worker P n) : Prop where
  once : log.gone.Nodup
  taken : ∀ ids, .snapshot ids ∈ log → w.phase.swept = true ∧
    ∀ id ∈ log.known, id ∉ log.lateInstalls → id ∈ log.gone ∨ id ∈ ids
  late : ∀ id ∈ log.lateInstalls, id ∉ log.gone ∧ id ∉ w.phase.toStop
  left : w.phase.swept = true → w.phase.crashed = false → ∃ ids, .snapshot ids ∈ log

-- A step that installs nothing and takes no keys.
theorem swept_move (log events : Log P) (w next : Worker P n) (swept : Swept log w) (noInstall : events.installed = [])
    (noSnapshot : ∀ ids, .snapshot ids ∉ events) (once : (log.gone ++ events.gone).Nodup)
    (timely : ∀ id ∈ events.gone, id ∉ log.lateInstalls) (stays : w.phase.swept = true → next.phase.swept = true)
    (fewer : ∀ id ∈ next.phase.toStop, id ∈ w.phase.toStop)
    (before : next.phase.swept = true → next.phase.crashed = false → w.phase.swept = true ∧ w.phase.crashed = false) :
    Swept (log ++ events) next := by
  have noKnown : events.known = [] := by simp [Log.known, noInstall]
  have late : (log ++ events).lateInstalls = log.lateInstalls := Log.late_installs_quiet log events noInstall
  refine ⟨?_, ?_, ?_, ?_⟩
  · rw [Log.gone_append]
    exact once
  · intro ids member
    rcases List.mem_append.mp member with old | new
    · obtain ⟨phase, covers⟩ := swept.taken ids old
      refine ⟨stays phase, ?_⟩
      intro id known timely
      rw [late] at timely
      rw [Log.known_append, noKnown, List.append_nil] at known
      rcases covers id known timely with gone | inside
      · exact Or.inl (by simp [gone])
      · exact Or.inr inside
    · exact absurd new (noSnapshot ids)
  · intro id member
    rw [late] at member
    obtain ⟨living, unlisted⟩ := swept.late id member
    refine ⟨?_, fun inside => unlisted (fewer id inside)⟩
    intro gone
    rw [Log.gone_append] at gone
    rcases List.mem_append.mp gone with old | new
    · exact living old
    · exact timely id new member
  · intro phase calm
    obtain ⟨same, quiet⟩ := before phase calm
    obtain ⟨ids, member⟩ := swept.left same quiet
    exact ⟨ids, List.mem_append_left _ member⟩

theorem swept_frame (log events : Log P) (w next : Worker P n) (swept : Swept log w) (noInstall : events.installed = [])
    (noStop : events.gone = []) (noSnapshot : ∀ ids, .snapshot ids ∉ events)
    (stays : w.phase.swept = true → next.phase.swept = true) (fewer : ∀ id ∈ next.phase.toStop, id ∈ w.phase.toStop)
    (before : next.phase.swept = true → next.phase.crashed = false → w.phase.swept = true ∧ w.phase.crashed = false) :
    Swept (log ++ events) next :=
  swept_move log events w next swept noInstall noSnapshot (by rw [noStop, List.append_nil]; exact swept.once)
    (by simp [noStop]) stays fewer before

theorem swept_install (log : Log P) (w next : Worker P n) (swept : Swept log w) (placed : Placed log w)
    (sweeping : Sweeping w) (id : ActorId) (ty : P.Ty) (fresh : id ∉ log.known)
    (same : next.phase = w.phase ∨ w.phase.swept = false ∧ next.phase.swept = false) :
    Swept (log ++ [Event.installed id ty]) next := by
  have install : Log.known [Event.installed id ty] = [id] := rfl
  have noStop : Log.gone [Event.installed id ty] = [] := rfl
  have phase : next.phase.swept = w.phase.swept := by
    rcases same with same | ⟨before, after⟩
    · rw [same]
    · rw [before, after]
  have unseen (loops : w.phase.swept = false) (ids : List ActorId) : .snapshot ids ∉ log := by
    intro member
    rw [(swept.taken ids member).1] at loops
    cases loops
  refine ⟨?_, ?_, ?_, ?_⟩
  · rw [Log.gone_append, noStop, List.append_nil]
    exact swept.once
  · intro ids member
    have old : .snapshot ids ∈ log := by simpa using member
    obtain ⟨before, covers⟩ := swept.taken ids old
    refine ⟨phase.trans before, ?_⟩
    intro other known timely
    rw [Log.late_installs_seen log _ ids old, install, List.mem_append, not_or] at timely
    rw [Log.known_append, install] at known
    rcases List.mem_append.mp known with earlier | now
    · rcases covers other earlier timely.1 with gone | inside
      · exact Or.inl (by simp [gone])
      · exact Or.inr inside
    · exact absurd now timely.2
  · intro other member
    rw [Log.gone_append, noStop, List.append_nil]
    rcases same with same | ⟨before, _⟩
    · rw [same]
      by_cases taken : ∃ ids, .snapshot ids ∈ log
      · obtain ⟨ids, seen⟩ := taken
        rw [Log.late_installs_seen log _ ids seen, install] at member
        rcases List.mem_append.mp member with earlier | now
        · exact swept.late other earlier
        · cases List.mem_singleton.mp now
          refine ⟨fun gone => fresh (placed.gone id gone), ?_⟩
          intro inside
          obtain ⟨cell, found⟩ := sweeping.present id inside
          exact fresh (known_of_installed log id _ (placed.mapped id cell found).1)
      · rw [Log.late_installs_unseen log _ (not_exists.mp taken)] at member
        cases member
    · rw [Log.late_installs_unseen log _ (unseen before)] at member
      cases member
  · intro after calm
    rcases same with same | ⟨_, never⟩
    · rw [same] at after calm
      obtain ⟨ids, member⟩ := swept.left after calm
      exact ⟨ids, List.mem_append_left _ member⟩
    · rw [never] at after
      cases after

theorem swept_snapshot (log : Log P) (w : Worker P n) (swept : Swept log w) (placed : Placed log w) (ids : List ActorId)
    (here : w.phase = .snapshot) (keys : ids.Perm w.actorMap.keys) :
    Swept (log ++ [Event.snapshot ids]) { w with phase := .stopAll ids } := by
  have unseen (other : List ActorId) : .snapshot other ∉ log := by
    intro member
    have before := (swept.taken other member).1
    rw [here] at before
    cases before
  have late : Log.lateInstalls (log ++ [Event.snapshot ids]) = [] := Log.late_installs_unseen log _ unseen
  refine ⟨?_, ?_, ?_, ?_⟩
  · rw [Log.gone_append]
    exact (List.append_nil log.gone).symm ▸ swept.once
  · intro other member
    refine ⟨rfl, ?_⟩
    intro id known _
    rcases List.mem_append.mp member with old | new
    · exact absurd old (unseen other)
    · cases List.mem_singleton.mp new
      have before : id ∈ log.known := by simpa [Log.known, Log.installed, Event.installs] using known
      rcases placed.total id before with gone | ⟨cell, found⟩ | ⟨cell, held⟩
      · exact Or.inl (by simp [gone])
      · refine Or.inr (keys.mem_iff.mpr ?_)
        exact AList.mem_keys.mp (AList.lookup_isSome.mp (by rw [found]; rfl))
      · rw [here] at held
        cases held
  · intro id member
    rw [late] at member
    cases member
  · intro _ _
    exact ⟨ids, by simp⟩

theorem swept_step (log events : Log P) (w next : Worker P n) (act : Act P) (swept : Swept log w) (placed : Placed log w)
    (waiting : Waiting log w) (sweeping : Sweeping w) (kept : promised log w act) (moves : Moves w act events next) :
    Swept (log ++ events) next := by
  have unlate (loops : w.phase.swept = false) : log.lateInstalls = [] := by
    refine Log.late_installs_none log ?_
    intro ids member
    rw [(swept.taken ids member).1] at loops
    cases loops
  -- a turn stops the actor it has taken out of the map
  have stopped (shown : Log P) (id : ActorId) (cell : ActorCell P) (gone : shown.gone = [id]) (loops : w.phase.swept = false)
      (living : id ∉ log.gone) (noInstall : shown.installed = []) (noSnapshot : ∀ ids, .snapshot ids ∉ shown)
      (turn : next.phase.swept = false) (list : next.phase.toStop = []) : Swept (log ++ shown) next := by
    refine swept_move log shown w next swept noInstall noSnapshot ?_ ?_ ?_ ?_ ?_
    · rw [gone]
      exact Keyed.nodup_push _ id swept.once living
    · rw [unlate loops]
      exact fun _ _ => List.not_mem_nil
    · intro wrong
      rw [loops] at wrong
      cases wrong
    · rw [list]
      exact fun _ wrong => by cases wrong
    · intro wrong
      rw [turn] at wrong
      cases wrong
  cases moves with
  | direct id actor onStop => exact swept_install log w _ swept placed sweeping id actor.ty kept.2.1 (Or.inl rfl)
  | pollSpawn senders id actor onStop rest here queue =>
      exact swept_install log w _ swept placed sweeping id actor.ty (waiting.queued id actor onStop (by simp [queue])).2.2
        (Or.inr ⟨by rw [here]; rfl, rfl⟩)
  | snapshot senders ids here keys => exact swept_snapshot log w swept placed ids here keys
  | mismatch senders turn popped scheduler envelope cell here ready dequeued present untyped =>
      obtain ⟨member, typed, living⟩ := placed.mapped _ cell present
      rw [begin_stop_events w _ cell _ typed]
      exact stopped _ envelope.actorId cell rfl (by rw [here]; rfl) living rfl (by simp) rfl rfl
  | handlerPanic senders turn envelope cell ctx val here =>
      obtain ⟨member, typed, living, _⟩ := placed.taken envelope.actorId cell (by rw [here]; rfl)
      rw [begin_stop_events w _ (cell.write val) _ typed]
      exact stopped _ envelope.actorId cell rfl (by rw [here]; rfl) living rfl (by simp) rfl rfl
  | stop senders turn id cell here =>
      obtain ⟨member, typed, living, _⟩ := placed.taken id cell (by rw [here]; rfl)
      rw [begin_stop_events w _ cell _ typed]
      exact stopped _ id cell rfl (by rw [here]; rfl) living rfl (by simp) rfl rfl
  | stopNext senders id ids cell here present =>
      obtain ⟨member, typed, living⟩ := placed.mapped id cell present
      rw [begin_stop_events w _ cell _ typed]
      have listed : id ∈ w.phase.toStop := by rw [here]; simp [Phase.toStop]
      refine swept_move log _ w _ swept rfl (by simp) ?_ ?_ (fun _ => rfl) ?_ (fun _ _ => ⟨by rw [here]; rfl, by rw [here]; rfl⟩)
      · exact Keyed.nodup_push _ id swept.once living
      · intro other gone late
        cases List.mem_singleton.mp gone
        exact (swept.late id late).2 listed
      · intro other inside
        rw [here]
        exact List.mem_cons_of_mem _ inside
  | stopGone senders id ids here absent =>
      refine swept_frame log _ w _ swept (Log.installed_dropped _) (Log.gone_dropped _) (by simp) (fun _ => rfl) ?_
        (fun _ _ => ⟨by rw [here]; rfl, by rw [here]; rfl⟩)
      intro other inside
      rw [here]
      exact List.mem_cons_of_mem _ inside
  | hookReturn senders id cell ctx after here typed =>
      refine swept_frame log _ w _ swept (Log.installed_dropped _) (Log.gone_dropped _) (by simp) ?_ ?_ ?_ <;> rw [here] <;>
        cases after <;> simp [finishStop, endTurn, Phase.swept, Phase.closing, Phase.toStop, Phase.crashed]
  | hookSkip senders id cell ctx after here untyped =>
      refine swept_frame log _ w _ swept (Log.installed_dropped _) (Log.gone_dropped _) (by simp) ?_ ?_ ?_ <;> rw [here] <;>
        cases after <;> simp [finishStop, endTurn, Phase.swept, Phase.closing, Phase.toStop, Phase.crashed]
  | stopHook id cell ctx after here =>
      refine swept_frame log _ w _ swept rfl rfl (by simp) ?_ ?_ ?_ <;> rw [here] <;>
        cases after <;> simp [Phase.swept, Phase.closing, Phase.toStop, Phase.crashed]
  | dropControl senders panicked here =>
      exact swept_frame log _ w _ swept (Log.installed_refusals _) (Log.gone_refusals _) (by simp [mem_refusals])
        (fun _ => rfl) (fun _ wrong => by cases wrong) (fun _ calm => ⟨by rw [here]; rfl, by rw [here]; exact calm⟩)
  | dropMsgs senders panicked here =>
      exact swept_frame log _ w _ swept (Log.installed_dropped _) (Log.gone_dropped _) (by simp)
        (fun _ => rfl) (fun _ wrong => by cases wrong) (fun _ calm => ⟨by rw [here]; rfl, by rw [here]; exact calm⟩)
  | dropScheduler senders panicked here =>
      exact swept_frame log _ w _ swept (Log.installed_dropped _) (Log.gone_dropped _) (by simp)
        (fun _ => rfl) (fun _ wrong => by cases wrong) (fun _ calm => ⟨by rw [here]; rfl, by rw [here]; exact calm⟩)
  | postControl msg alive =>
      refine swept_frame log _ w _ swept ?_ ?_ ?_ (fun same => same) (fun _ inside => inside)
        (fun same calm => ⟨same, calm⟩) <;> cases msg <;> simp [controlEvent, Log.installed, Log.gone, Event.installs, Event.stops]
  | post => exact swept_frame log _ w _ swept rfl rfl (by simp) (fun same => same) (fun _ inside => inside) (fun same calm => ⟨same, calm⟩)
  | drain => exact swept_frame log _ w _ swept rfl rfl (by simp) (fun same => same) (fun _ inside => inside) (fun same calm => ⟨same, calm⟩)
  | _ => exact swept_frame log _ w _ swept rfl rfl (by simp) (by simp [*, Phase.swept, Phase.closing]) (by simp [Phase.toStop, endTurn]) (by simp [*, Phase.swept, Phase.closing, Phase.crashed, endTurn])

theorem reach_swept (workerIdx : Fin n) (log : Log P) (w : Worker P n) (reached : Reach workerIdx log w) : Swept log w := by
  refine Machine.reach_invariant (machine P workerIdx) promised Swept ?_ ?_ log w reached
  · intro s begins
    rw [begins]
    refine ⟨List.nodup_nil, ?_, ?_, ?_⟩
    · intro ids taken
      cases taken
    · intro id late
      cases late
    · intro wrong
      cases wrong
  · intro log s act next events before swept kept taken
    have sound := reach_sound workerIdx log s before
    exact swept_step log events s next act swept sound.placed sound.waiting sound.sweeping kept (step_moves s next act events taken)

-- Once Worker::run has returned, the actors stopped are those that came in time.
theorem returned_gone_iff (workerIdx : Fin n) (log : Log P) (w : Worker P n) (reached : Reach workerIdx log w)
    (closing : w.phase.closing = true) (calm : ∀ id, .stopPanicked id ∉ log) (id : ActorId) (known : id ∈ log.known) :
    id ∈ log.gone ↔ id ∉ log.lateInstalls := by
  have swept := reach_swept workerIdx log w reached
  constructor
  · intro gone late
    exact (swept.late id late).1 gone
  · intro timely
    have quiet : w.phase.crashed = false := by
      cases state : w.phase.crashed with
      | false => rfl
      | true =>
          obtain ⟨other, panicked⟩ := (crashed_iff workerIdx log w reached).mp state
          exact absurd panicked (calm other)
    obtain ⟨ids, taken⟩ := swept.left (Phase.closing_swept w.phase closing) quiet
    rcases (swept.taken ids taken).2 id known timely with gone | inside
    · exact gone
    · rcases snapshot_swept workerIdx log w reached calm ids taken id inside with gone | waits
      · exact gone
      · rw [Phase.closing_to_stop w.phase closing] at waits
        cases waits

theorem map_empty (map : ActorMap P) (absent : ∀ id, map.lookup id = none) : map = ∅ := by
  cases keys : map.keys with
  | nil =>
      refine AList.ext ?_
      exact List.map_eq_nil_iff.mp keys
  | cons id rest =>
      have inside : id ∈ map := AList.mem_keys.mpr (by rw [keys]; exact List.mem_cons_self)
      have found := AList.lookup_isSome.mpr inside
      rw [absent id] at found
      cases found

theorem returned_map_iff (workerIdx : Fin n) (log : Log P) (w : Worker P n) (reached : Reach workerIdx log w)
    (closing : w.phase.closing = true) (calm : ∀ id, .stopPanicked id ∉ log) : w.actorMap = ∅ ↔ log.lateInstalls = [] := by
  have placed := (reach_sound workerIdx log w reached).placed
  have stopped := returned_gone_iff workerIdx log w reached closing calm
  constructor
  · intro empty
    apply List.eq_nil_iff_forall_not_mem.mpr
    intro id late
    have known := Log.late_installs_known log id late
    rcases placed.total id known with gone | ⟨cell, found⟩ | ⟨cell, held⟩
    · exact (stopped id known).mp gone late
    · rw [empty] at found
      cases found
    · rw [Phase.closing_out w.phase closing] at held
      cases held
  · intro none
    apply map_empty
    intro id
    cases found : w.actorMap.lookup id with
    | none => rfl
    | some cell =>
        obtain ⟨installed, _, living⟩ := placed.mapped id cell found
        refine absurd ((stopped id (known_of_installed log id _ installed)).mpr ?_) living
        rw [none]
        exact List.not_mem_nil

end Worker

end Actinium
