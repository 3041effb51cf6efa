import Actinium.SpawnCalls
import Actinium.Replies
import Actinium.RunReturns
import Actinium.Lib.WaitFor

set_option autoImplicit false

namespace Actinium

variable {P : Program} {n : Nat}

-- What the thread of a worker can be given while it stands still.
def Event.given : Event P → Bool
  | .accepted _ => true
  | .spawnSent _ _ => true
  | .shutdownSent => true
  | .installed _ _ => true
  | _ => false

theorem given_unsettling (event : Event P) (given : event.given = true) : event.settles = none := by
  cases event <;> first | rfl | cases given

namespace Worker

-- The acts of other threads leave the worker in its callback.
theorem foreign_step (w next : Worker P n) (act : Act P) (events : Log P) (moves : Moves w act events next)
    (foreign : ∀ senders own, act ≠ .own senders own) :
    (∀ event ∈ events, event.given = true) ∧ next.phase.calm = w.phase.calm ∧ next.phase.current = w.phase.current := by
  cases moves with
  | post envelope alive => exact ⟨by simp [Event.given], rfl, rfl⟩
  | postControl msg alive => exact ⟨by cases msg <;> simp [controlEvent, Event.given], rfl, rfl⟩
  | direct id actor onStop => exact ⟨by simp [Event.given], rfl, rfl⟩
  | stopHandler turn envelope cell ctx here => exact ⟨by simp, by rw [here]; rfl, by rw [here]; rfl⟩
  | stopHook id cell ctx after here => exact ⟨by simp, by rw [here]; rfl, by rw [here]; rfl⟩
  | _ => exact absurd rfl (foreign _ _)

theorem busy_receiving (phase : Phase P n) (busy : phase.calm = false) : phase.receiving = true := by
  cases phase <;> first | rfl | cases busy

end Worker

-- A call that a callback can be in: a blocking send, or Runtime::spawn.
inductive Awaited where
  | reply (serial : Nat)
  | confirm (id : ActorId)

namespace Action

-- The worker whose thread takes the step.
def thread : Action P n → Option (Fin n)
  | .worker w _ => some w
  | _ => none

end Action

namespace State

-- The worker that has yet to answer the call.
def asks (s : State P n) : Awaited → Option (Fin n)
  | .reply serial =>
      match s.sends serial with
      | some ⟨addr, .waiting⟩ => some addr.tx
      | _ => none
  | .confirm id =>
      match s.calls.lookup id with
      | some ⟨_, _, .confirming workerIdx⟩ => some workerIdx
      | _ => none

theorem asks_reply (s : State P n) (serial : Nat) (v : Fin n) :
    s.asks (.reply serial) = some v ↔ ∃ addr, s.sends serial = some ⟨addr, .waiting⟩ ∧ addr.tx = v := by
  simp only [asks]
  constructor
  · intro asked
    split at asked
    · rename_i addr found
      exact ⟨addr, found, Option.some.inj asked⟩
    · cases asked
  · rintro ⟨addr, found, rfl⟩
    rw [found]

theorem asks_confirm (s : State P n) (id : ActorId) (v : Fin n) :
    s.asks (.confirm id) = some v ↔ ∃ via ty, s.calls.lookup id = some ⟨via, ty, .confirming v⟩ := by
  simp only [asks]
  constructor
  · intro asked
    split at asked
    · rename_i via ty w found
      cases asked
      exact ⟨via, ty, found⟩
    · cases asked
  · rintro ⟨via, ty, found⟩
    rw [found]

theorem sends_unsettled (s : State P n) (w : Fin n) (result : Worker.Outcome P n)
    (quiet : ∀ event ∈ result.2, event.given = true) (k : Nat) : (s.onWorker w result).1.sends k = s.sends k := by
  rcases on_worker_sends s w result k with ⟨_, same⟩ | ⟨event, member, state, settles, _⟩
  · exact same
  · rw [given_unsettling event (quiet event member)] at settles
    cases settles

-- Only the worker that has the envelope answers a blocking send.
theorem waiting_step_sends (log entries : Trace P n) (s next : State P n) (action : Action P n) (routed : Routed log s)
    (answered : Answered log s) (moves : Moves s action entries next) (k : Nat) (addr : Addr P n)
    (waiting : s.sends k = some ⟨addr, .waiting⟩) :
    next.sends k = some ⟨addr, .waiting⟩ ∨ ∃ act, action = .worker addr.tx act := by
  have bound := answered.fresh k _ waiting
  have quiet (t : State P n) (v : Fin n) (act : Worker.Act P) (result : Worker.Outcome P n)
      (taken : (s.workers v).step act = some result) (foreign : ∀ senders own, act ≠ .own senders own)
      (kept : t.sends k = some ⟨addr, .waiting⟩) : (t.onWorker v result).1.sends k = some ⟨addr, .waiting⟩ := by
    rw [sends_unsettled t v result (Worker.foreign_step _ _ act _ (Worker.step_moves _ _ act _ taken) foreign).1]
    exact kept
  cases moves with
  | postFailed blocking i msg other found failed => exact Or.inl (begin_send_kept s other blocking _ k _ bound waiting)
  | post blocking i msg other result found taken =>
      exact Or.inl (quiet _ other.tx _ result taken (by simp) (begin_send_kept s other blocking _ k _ bound waiting))
  | recvReply serial other reply found =>
      left
      rw [set_send_at, if_neg, waiting]
      rintro rfl
      rw [waiting] at found
      cases found
  | recvError serial other found =>
      left
      rw [set_send_at, if_neg, waiting]
      rintro rfl
      rw [waiting] at found
      cases found
  | ctxStopWorker w result free taken => exact Or.inl (quiet s w _ result taken (by simp) waiting)
  | remote id ty val w result found taken => exact Or.inl (quiet _ w _ result taken (by simp) waiting)
  | direct id via ty val w result found taken => exact Or.inl (quiet _ w _ result taken (by simp) waiting)
  | shutdown w result taken => exact Or.inl (quiet s w _ result taken (by simp) waiting)
  | ownerShutdown i expects inside result here taken => exact Or.inl (quiet _ _ _ result taken (by simp) waiting)
  | worker w act result free taken =>
      rcases on_worker_sends s w result k with ⟨_, same⟩ | ⟨event, member, state, settles, _⟩
      · exact Or.inl (same.trans waiting)
      · right
        obtain ⟨envelope, serial, _, past, _⟩ := settles_source (log.worker w) result.2 event member k state settles
        have sound := Worker.sound_step _ _ _ _ (.own (s.msgSenders w) act)
          (Worker.reach_sound w _ _ (routed.workers w)) trivial taken
        have none : Log.accepted result.2 = [] := no_accept _ _ _ taken (by simp)
        have accepted : envelope ∈ (log.worker w).accepted := by
          have inside := Worker.accepted_of_over _ _ sound.mail envelope
            (by simp only [Log.finished_append, Log.dropped_append, List.mem_append]; tauto)
          rw [Log.accepted_append, none, List.append_nil] at inside
          exact inside
        obtain ⟨rfl, _⟩ := send_envelope log s routed answered k _ waiting w envelope accepted serial
        exact ⟨act, rfl⟩
  | _ => exact Or.inl waiting

-- Only the worker that is asked can answer.
theorem asks_unanswered (log entries : Trace P n) (s next : State P n) (action : Action P n) (routed : Routed log s)
    (answered : Answered log s) (moves : Moves s action entries next) (call : Awaited) (v : Fin n)
    (asked : s.asks call = some v) (idle : action.thread ≠ some v) : next.asks call = some v := by
  cases call with
  | reply serial =>
      obtain ⟨addr, waiting, rfl⟩ := (asks_reply s serial v).mp asked
      rcases waiting_step_sends log entries s next action routed answered moves serial addr waiting with still | ⟨act, rfl⟩
      · exact (asks_reply next serial addr.tx).mpr ⟨addr, still, rfl⟩
      · exact absurd rfl idle
  | confirm id =>
      obtain ⟨via, ty, found⟩ := (asks_confirm s id v).mp asked
      rcases confirming_step log entries s next action routed moves id via ty v found with still | ⟨⟨act, rfl⟩, _⟩
      · exact (asks_confirm next id v).mpr ⟨via, ty, still⟩
      · exact absurd rfl idle

theorem running_busy (s : State P n) (w : Fin n) (running : (s.callbackCtx (.worker w)).isSome = true) :
    (s.workers w).phase.calm = false := by
  cases here : (s.workers w).phase <;> simp_all [callbackCtx, Phase.calm]

-- A worker whose thread takes no step stays in its callback, and nothing
-- happens there but what other threads put into its channels.
def Frozen (start : Log P) (w : Fin n) (log : Trace P n) (s : State P n) : Prop :=
  (s.workers w).phase.calm = false ∧
    ∃ rest, log.worker w = start ++ rest ∧ ∀ event ∈ rest, event.given = true

theorem frozen_step (start : Log P) (w : Fin n) (log entries : Trace P n) (s next : State P n) (action : Action P n)
    (routed : Routed log s) (moves : Moves s action entries next) (idle : action.thread ≠ some w)
    (frozen : Frozen start w log s) : Frozen start w (log ++ entries) next := by
  obtain ⟨busy, rest, whole, given⟩ := frozen
  rw [Frozen, Trace.worker_append, whole]
  rcases worker_source log entries s next action routed moves w with ⟨same, silent⟩ | ⟨act, source, _, taken⟩
  · rw [same, silent, List.append_nil]
    exact ⟨busy, rest, rfl, given⟩
  · have foreign : ∀ senders own, act ≠ .own senders own := by
      rintro senders own rfl
      exact idle (by rw [source.1]; rfl)
    obtain ⟨quiet, calm, _⟩ := Worker.foreign_step _ _ act _ (Worker.step_moves _ _ act _ taken) foreign
    refine ⟨calm.trans busy, rest ++ entries.worker w, by rw [List.append_assoc], ?_⟩
    intro event member
    rcases List.mem_append.mp member with old | new
    · exact given event old
    · exact quiet event new

-- A blocking send to the worker that was made since, or that waited, waits.
def Unheard (start : State P n) (w : Fin n) (s : State P n) : Prop :=
  ∀ k addr state, s.sends k = some ⟨addr, state⟩ → addr.tx = w →
    start.sends k = none ∨ start.sends k = some ⟨addr, .waiting⟩ → state = .waiting

theorem on_worker_origin (s : State P n) (w : Fin n) (result : Worker.Outcome P n) (k : Nat) (addr : Addr P n)
    (state : SendState P) (found : (s.onWorker w result).1.sends k = some ⟨addr, state⟩) :
    ∃ before, s.sends k = some ⟨addr, before⟩ := by
  rcases on_worker_sends s w result k with ⟨_, same⟩ | ⟨_, _, after, _, now⟩
  · exact ⟨state, same ▸ found⟩
  · rw [found] at now
    obtain ⟨⟨other, before⟩, inside, equal⟩ := Option.map_eq_some_iff.mp now.symm
    cases equal
    exact ⟨before, inside⟩

theorem set_send_origin (s : State P n) (serial k : Nat) (after state : SendState P) (addr : Addr P n)
    (found : (s.setSend serial after).sends k = some ⟨addr, state⟩) : ∃ before, s.sends k = some ⟨addr, before⟩ := by
  rw [set_send_at] at found
  split at found
  · obtain ⟨⟨other, before⟩, inside, equal⟩ := Option.map_eq_some_iff.mp found
    cases equal
    exact ⟨before, inside⟩
  · exact ⟨state, found⟩

-- A blocking send begins waiting, unless the channel is closed.
theorem send_origin (s next : State P n) (action : Action P n) (entries : Trace P n) (moves : Moves s action entries next)
    (k : Nat) (addr : Addr P n) (state : SendState P) (found : next.sends k = some ⟨addr, state⟩) :
    (∃ before, s.sends k = some ⟨addr, before⟩) ∨ state = .waiting ∨
      ∃ envelope, (s.workers addr.tx).post envelope = none := by
  cases moves with
  | postFailed blocking i msg other known failed =>
      rcases begin_send_source s other blocking _ k _ found with old | ⟨_, _, same⟩
      · exact Or.inl ⟨_, old⟩
      · cases same
        exact Or.inr (Or.inr ⟨_, failed⟩)
  | post blocking i msg other result known taken =>
      have quiet := (Worker.foreign_step _ _ _ _ (Worker.step_moves _ _ _ _ taken) (by simp)).1
      rw [sends_unsettled _ other.tx result quiet] at found
      rcases begin_send_source s other blocking _ k _ found with old | ⟨_, _, same⟩
      · exact Or.inl ⟨_, old⟩
      · cases same
        exact Or.inr (Or.inl rfl)
  | recvReply serial other reply known => exact Or.inl (set_send_origin s serial k _ state addr found)
  | recvError serial other known => exact Or.inl (set_send_origin s serial k _ state addr found)
  | ctxStopWorker w result free taken => exact Or.inl (on_worker_origin _ _ _ k addr state found)
  | remote id ty val w result known taken => exact Or.inl (on_worker_origin (s.setCall id _) w _ k addr state found)
  | direct id via ty val w result known taken => exact Or.inl (on_worker_origin (s.returnAddr id w ty) w _ k addr state found)
  | shutdown w result taken => exact Or.inl (on_worker_origin _ _ _ k addr state found)
  | ownerShutdown i expects inside result here taken =>
      exact Or.inl (on_worker_origin { s with owner := .shutting (i + 1) expects } _ _ k addr state found)
  | worker w act result free taken => exact Or.inl (on_worker_origin _ _ _ k addr state found)
  | _ => exact Or.inl ⟨state, found⟩

theorem unheard_step (start : State P n) (w : Fin n) (log entries : Trace P n) (s next : State P n) (action : Action P n)
    (routed : Routed log s) (answered : Answered log s) (moves : Moves s action entries next)
    (idle : action.thread ≠ some w) (busy : (s.workers w).phase.calm = false) (unheard : Unheard start w s) :
    Unheard start w next := by
  rintro k addr state found rfl recent
  rcases send_origin s next action entries moves k addr state found with ⟨before, earlier⟩ | waiting | ⟨envelope, failed⟩
  · obtain rfl := unheard k addr before earlier rfl recent
    rcases waiting_step_sends log entries s next action routed answered moves k addr earlier with still | ⟨act, rfl⟩
    · rw [found] at still
      cases still
      rfl
    · exact absurd rfl idle
  · exact waiting
  · -- the worker is in a callback, so its channel is open
    have owned := (Worker.reach_sound addr.tx _ _ (routed.workers addr.tx)).owned
    have live : (s.workers addr.tx).msgRx.receiver = true := by
      rw [owned.msgs]
      exact Worker.busy_receiving _ busy
    simp [Worker.post, Channel.send, live] at failed

end State

-- Callbacks whose calls wait for one another's workers wait for ever: none of
-- these workers takes a step, no send to their actors is answered, and the
-- thread that joins the workers does not return.
theorem callbacks_deadlock (waits : Fin n → Option Awaited) (log : Trace P n) (s : State P n)
    (reached : (runtime P n).Reach Machine.free log s)
    (running : ∀ w call, waits w = some call → (s.callbackCtx (.worker w)).isSome = true)
    (knotted : Machine.Knotted State.asks waits s) (later : Trace P n) (next : State P n)
    (run : (runtime P n).Runs (fun _ s action => Machine.Patient Action.thread State.asks waits s action) log s later next)
    (w : Fin n) (call : Awaited) (stuck : waits w = some call) :
    next.asks call = s.asks call ∧
    (∃ rest, later.worker w = log.worker w ++ rest ∧ ∀ event ∈ rest, event.given = true) ∧
    (∀ k addr state, next.sends k = some ⟨addr, state⟩ → addr.tx = w →
      s.sends k = none ∨ s.sends k = some ⟨addr, .waiting⟩ → state = .waiting) ∧
    next.owner ≠ .done false := by
  have unanswered (log : Trace P n) (s : State P n) (action : Action P n) (next : State P n) (entries : Trace P n)
      (call : Awaited) (v : Fin n) (before : (runtime P n).Reach Machine.free log s)
      (taken : (runtime P n).step s action = some (next, entries)) (asked : s.asks call = some v)
      (idle : action.thread ≠ some v) : next.asks call = some v :=
    State.asks_unanswered log entries s next action (reach_routed _ log s before) (reach_answered _ log s before)
      (State.step_moves s next action entries taken) call v asked idle
  obtain ⟨tied, same⟩ := Machine.runs_knotted (runtime P n) _ Action.thread State.asks waits log s reached knotted
    (fun _ _ _ patient => patient) unanswered later next run
  have base : State.Frozen (log.worker w) w log s ∧ State.Unheard s w s := by
    refine ⟨⟨State.running_busy s w (running w call stuck), [], by simp, by simp⟩, ?_⟩
    rintro k addr state found _ (none | waiting)
    · rw [none] at found
      cases found
    · rw [waiting] at found
      cases found
      rfl
  obtain ⟨⟨busy, rest, whole, given⟩, unheard⟩ : State.Frozen (log.worker w) w later next ∧ State.Unheard s w next := by
    refine Machine.runs_keep (runtime P n) _
      (fun later mid => State.Frozen (log.worker w) w later mid ∧ State.Unheard s w mid) log s reached base ?_ later next tied
    intro later mid action next entries before held quiet taken
    have routed := reach_routed _ later mid before
    have answered := reach_answered _ later mid before
    have moves := State.step_moves mid next action entries taken
    have idle : action.thread ≠ some w := fun own => quiet w call own stuck
    exact ⟨State.frozen_step _ w later entries mid next action routed moves idle held.1,
      State.unheard_step s w later entries mid next action routed answered moves idle held.1.1 held.2⟩
  refine ⟨same w call stuck, ⟨rest, whole, given⟩, unheard, ?_⟩
  intro returned
  have ends := Machine.reach_runs _ _ log later s next reached
    (Machine.runs_weaken _ _ Machine.free (fun _ _ _ _ => trivial) log later s next run)
  have joined := reach_joined _ later next ends
  unfold State.Joined at joined
  rw [returned] at joined
  obtain ⟨panicked, ended⟩ := joined w
  rw [ended] at busy
  cases busy

-- Two handlers on two workers that send to each other.
def embrace : List (Action numbers 2) :=
  [.spawn () 0, .spawnPick 1, .startedReturn 1 0, .handOver 1, .worker 0 .pollControl, .worker 0 .confirm, .spawnReturn 1,
    .spawn () 0, .spawnPick 2, .startedReturn 2 0, .handOver 2, .worker 1 .pollControl, .worker 1 .confirm, .spawnReturn 2,
    .doSend 0 5, .doSend 1 6, .worker 0 .pollControl, .worker 0 .drain, .worker 0 .drain, .worker 0 .runTurn,
    .worker 1 .pollControl, .worker 1 .drain, .worker 1 .drain, .worker 1 .runTurn, .send 1 7, .send 0 8]

def embraceWaits : Fin 2 → Option Awaited
  | 0 => some (.reply 2)
  | 1 => some (.reply 3)

theorem callbacks_deadlock_embrace : ∃ (log : Trace numbers 2) (s : State numbers 2),
    (runtime numbers 2).Reach Machine.free log s ∧ ∀ later next,
      (runtime numbers 2).Runs (fun _ s action => Machine.Patient Action.thread State.asks embraceWaits s action)
        log s later next → next.asks (.reply 2) = some 1 ∧ next.asks (.reply 3) = some 0 ∧ next.owner ≠ .done false := by
  have reached := Machine.run_reach (runtime numbers 2) _ _ _ embrace rfl rfl
  refine ⟨_, _, reached, ?_⟩
  intro later next run
  have stuck := callbacks_deadlock embraceWaits _ _ reached
    (Fin.forall_fin_two.mpr ⟨fun _ _ => rfl, fun _ _ => rfl⟩)
    (Fin.forall_fin_two.mpr ⟨fun _ waiting => ⟨1, .reply 3, Option.some.inj waiting ▸ rfl, rfl⟩,
      fun _ waiting => ⟨0, .reply 2, Option.some.inj waiting ▸ rfl, rfl⟩⟩) later next run
  exact ⟨(stuck 0 (.reply 2) rfl).1, (stuck 1 (.reply 3) rfl).1, (stuck 0 (.reply 2) rfl).2.2.2⟩

end Actinium
