import Mathlib.Algebra.BigOperators.Fin
import Actinium.Lib.Potential
import Actinium.OwnerOutcome

set_option autoImplicit false

namespace Actinium

variable {P : Program} {n : Nat}

namespace Worker

-- A Shutdown is on its way, or the worker has left its loop.
def Pending (w : Worker P n) : Prop := .shutdown ∈ w.controlRx.queue ∨ w.phase.looping = false

theorem pending_step (w next : Worker P n) (act : Act P) (events : Log P) (moves : Moves w act events next)
    (pending : w.Pending) : next.Pending := by
  rcases pending with queued | left
  · cases moves with
    | postControl msg alive => exact Or.inl (List.mem_append_left _ queued)
    | pollSpawn senders id actor onStop rest here queue =>
        rw [queue, List.mem_cons] at queued
        rcases queued with wrong | later
        · cases wrong
        · exact Or.inl later
    | pollShutdown => exact Or.inr rfl
    | dropControl => exact Or.inr rfl
    | mismatch => exact Or.inl queued
    | handlerPanic => exact Or.inl queued
    | stop => exact Or.inl queued
    | stopNext => exact Or.inl queued
    | hookReturn senders id cell ctx after here typed => exact Or.inl (by cases after <;> exact queued)
    | hookSkip senders id cell ctx after here untyped => exact Or.inl (by cases after <;> exact queued)
    | _ => exact Or.inl queued
  · right
    cases loops : next.phase.looping with
    | false => rfl
    | true =>
        rw [looping_before w next act events moves loops] at left
        cases left

theorem pending_posted (w next : Worker P n) (events : Log P) (taken : w.step (.postControl .shutdown) = some (next, events)) :
    next.Pending := by
  cases step_moves _ _ _ _ taken with
  | postControl msg alive => exact Or.inl (List.mem_append_right _ (List.mem_singleton.mpr rfl))

theorem pending_gone (log : Log P) (w : Worker P n) (owned : Owned log w) (failed : w.postControl .shutdown = none) :
    w.Pending := by
  right
  have gone : w.phase.polling = false := by
    rw [← owned.control]
    cases alive : w.controlRx.receiver with
    | false => rfl
    | true => simp [postControl, Channel.send, alive] at failed
  cases here : w.phase <;> first | rfl | (rw [here] at gone; cases gone)

-- The steps a worker still takes once its Shutdown is on its way. In the loop
-- every spawn may add an actor to be stopped.
def remaining (w : Worker P n) : Nat :=
  let actors := w.actorMap.keys.length
  let loop (extra : Nat) := 2 * actors + 4 * w.controlRx.queue.length + 5 + extra
  match w.phase with
  | .control => loop 0
  | .confirming _ => loop 1
  | .drain => loop (4 + w.msgRx.queue.length)
  | .turn => loop 3
  | .handling _ _ _ _ => loop 4
  | .handled _ _ _ _ => loop 3
  | .stopping _ _ _ (.turn _) => loop 1
  | .idle => loop 1
  | .snapshot => 2 * actors + 5
  | .stopping _ _ _ (.stopAll ids) => 2 * ids.length + 5
  | .stopAll ids => 2 * ids.length + 4
  | .dropControl _ => 3
  | .dropMsgs _ => 2
  | .dropScheduler _ => 1
  | .ended _ => 0

theorem insert_length (actors : ActorMap P) (id : ActorId) (cell : ActorCell P) :
    (actors.insert id cell).keys.length ≤ actors.keys.length + 1 := by
  rw [AList.keys_insert, List.length_cons]
  exact Nat.succ_le_succ List.length_erase_le

theorem erase_length (actors : ActorMap P) (id : ActorId) (cell : ActorCell P) (present : actors.lookup id = some cell) :
    (actors.erase id).keys.length + 1 = actors.keys.length := by
  have member : id ∈ actors.keys := AList.mem_keys.mp (AList.lookup_isSome.mp (by rw [present]; rfl))
  rw [AList.keys_erase, List.length_erase_of_mem member]
  have positive := List.length_pos_of_mem member
  omega

theorem remaining_lower (w next : Worker P n) (senders : Nat) (own : Own P) (events : Log P)
    (moves : Moves w (.own senders own) events next) (pending : w.Pending) : next.remaining < w.remaining := by
  have queued (loops : w.phase.looping = true) : .shutdown ∈ w.controlRx.queue := by
    rcases pending with queued | left
    · exact queued
    · rw [loops] at left
      cases left
  cases moves with
  | pollSpawn _ id actor onStop rest here queue =>
      have more := insert_length w.actorMap id ⟨actor, onStop⟩
      simp only [remaining, here, queue, withControl, List.length_cons]
      omega
  | pollShutdown _ rest here queue =>
      simp only [remaining, here, queue, withControl, List.length_cons]
      omega
  | pollEmpty _ here queue =>
      have inside := queued (by rw [here]; rfl)
      rw [queue] at inside
      cases inside
  | drain _ envelope rest here queue =>
      simp only [remaining, here, queue, withMail, List.length_cons]
      omega
  | handle _ turn popped scheduler envelope cell here ready dequeued present typed =>
      have less := erase_length w.actorMap envelope.actorId cell present
      simp only [remaining, here]
      omega
  | mismatch _ turn popped scheduler envelope cell here ready dequeued present untyped =>
      have less := erase_length w.actorMap envelope.actorId cell present
      simp only [remaining, here, beginStop]
      omega
  | putBack _ turn id cell here =>
      have more := insert_length w.actorMap id cell
      simp only [remaining, here, endTurn]
      omega
  | hookReturn _ id cell ctx after here typed =>
      cases after <;> simp only [remaining, here, finishStop, endTurn] <;> omega
  | hookSkip _ id cell ctx after here untyped =>
      cases after <;> simp only [remaining, here, finishStop, endTurn] <;> omega
  | hookPanic _ id cell ctx after here typed => cases after <;> simp only [remaining, here] <;> omega
  | snapshot _ ids here keys =>
      simp only [remaining, here, keys.length_eq]
      omega
  | _ =>
      simp only [remaining, withMail, endTurn, beginStop, finishStop, List.length_cons, *]
      omega

theorem remaining_raise (w next : Worker P n) (act : Act P) (events : Log P) (moves : Moves w act events next)
    (foreign : ∀ senders own, act ≠ .own senders own) : next.remaining ≤ w.remaining + 4 := by
  cases moves with
  | post envelope alive =>
      unfold remaining
      simp only [withMail, List.length_append, List.length_singleton]
      split <;> omega
  | postControl msg alive =>
      unfold remaining
      simp only [withControl, List.length_append, List.length_singleton]
      split <;> omega
  | direct id actor onStop =>
      have more := insert_length w.actorMap id ⟨actor, onStop⟩
      unfold remaining
      dsimp only
      split <;> omega
  | stopHandler turn envelope cell ctx here => simp [remaining, here]
  | stopHook id cell ctx after here => cases after <;> simp [remaining, here]
  | _ => exact absurd rfl (foreign _ _)

-- A worker whose thread runs has a step to take, or is in a callback.
theorem running_enabled (w : Worker P n) (senders : Nat) (runs : ∀ crashed, w.phase ≠ .ended crashed) :
    w.phase.inCallback = true ∨ ∃ own, State.endsCallback own = false ∧ (w.ownStep senders own).isSome = true := by
  cases here : w.phase with
  | control =>
      refine Or.inr ⟨.pollControl, rfl, ?_⟩
      simp only [ownStep, pollControl, here]
      split <;> rfl
  | confirming id => exact Or.inr ⟨.confirm, rfl, by simp [ownStep, confirm, here]⟩
  | drain =>
      refine Or.inr ⟨.drain, rfl, ?_⟩
      simp only [ownStep, drain, here]
      split <;> rfl
  | turn =>
      refine Or.inr ⟨.runTurn, rfl, ?_⟩
      simp only [ownStep, runTurn, here]
      split
      · rfl
      · split <;> rfl
  | handling turn envelope cell ctx => exact Or.inl rfl
  | handled turn id cell running =>
      refine Or.inr ⟨.settle, rfl, ?_⟩
      cases running <;> simp [ownStep, settle, here]
  | stopping id cell ctx after => exact Or.inl rfl
  | idle =>
      refine Or.inr ⟨.recvTimeout, rfl, ?_⟩
      simp only [ownStep, recvTimeout, here]
      split
      · rfl
      · split <;> rfl
  | snapshot => exact Or.inr ⟨.takeSnapshot w.actorMap.keys, rfl, by simp [ownStep, takeSnapshot, here]⟩
  | stopAll ids =>
      refine Or.inr ⟨.stopNext, rfl, ?_⟩
      cases ids with
      | nil => simp [ownStep, stopNext, here]
      | cons id rest =>
          simp only [ownStep, stopNext, here]
          split <;> rfl
  | dropControl crashed => exact Or.inr ⟨.exit, rfl, by simp [ownStep, exit, here]⟩
  | dropMsgs crashed => exact Or.inr ⟨.exit, rfl, by simp [ownStep, exit, here]⟩
  | dropScheduler crashed => exact Or.inr ⟨.exit, rfl, by simp [ownStep, exit, here]⟩
  | ended crashed => exact absurd here (runs crashed)

end Worker

-- The steps of the threads that run waits for, and of its own.
def Action.own : Action P n → Bool
  | .worker _ _ => true
  | .owner => true
  | _ => false

namespace State

-- Whom shutdown() has reached.
def Told (s : State P n) : Prop :=
  match s.owner with
  | .shutting k _ => ∀ v : Fin n, v.val < k → (s.workers v).Pending
  | .joining _ _ => ∀ v, (s.workers v).Pending
  | .done _ => ∀ v, (s.workers v).Pending
  | _ => True

theorem told_step (log entries : Trace P n) (s next : State P n) (action : Action P n) (routed : Routed log s)
    (told : Told s) (moves : Moves s action entries next) : Told next := by
  have still (v : Fin n) (before : (s.workers v).Pending) : (next.workers v).Pending := by
    rcases worker_source log entries s next action routed moves v with ⟨same, _⟩ | ⟨act, _, _, taken⟩
    · rw [same]
      exact before
    · exact Worker.pending_step _ _ act _ (Worker.step_moves _ _ act _ taken) before
  have same (owner : next.owner = s.owner) : Told next := by
    unfold Told at told ⊢
    rw [owner]
    split at told
    · exact fun v below => still v (told v below)
    · exact fun v => still v (told v)
    · exact fun v => still v (told v)
    · trivial
  cases moves with
  | run => trivial
  | dropRuntime => exact fun v below => absurd below (Nat.not_lt_zero _)
  | wake => exact fun v below => absurd below (Nat.not_lt_zero _)
  | ownerFailed k expects bound here failed =>
      unfold Told at told
      rw [here] at told
      intro v below
      by_cases last : v.val = k
      · rw [show v = ⟨k, bound⟩ from Fin.ext last]
        exact Worker.pending_gone _ _ (Worker.reach_sound _ _ _ (routed.workers ⟨k, bound⟩)).owned failed
      · exact told v (by omega)
  | ownerShutdown k expects bound result here taken =>
      unfold Told at told ⊢
      rw [here] at told
      rw [on_worker_owner, on_worker_workers]
      intro v below
      by_cases last : v = ⟨k, bound⟩
      · rw [last, Function.update_self]
        exact Worker.pending_posted _ _ _ taken
      · have other : v.val ≠ k := fun equal => last (Fin.ext equal)
        rw [Function.update_of_ne last]
        exact told v (by omega)
  | ownerJoins k expects bound here =>
      unfold Told at told
      rw [here] at told
      exact fun v => told v (by omega)
  | joined k expects crashed bound here gone =>
      unfold Told at told
      rw [here] at told
      unfold Told
      by_cases fails : (crashed && expects) = true
      · simpa only [fails, if_true] using told
      · simpa only [fails, Bool.false_eq_true, if_false] using told
  | allJoined k expects bound here =>
      unfold Told at told
      rw [here] at told
      exact told
  | _ => exact same (by first | rfl | exact on_worker_owner _ _ _)

-- The owner joins its workers, or has returned.
def Joins (s : State P n) : Prop := (∃ k expects, s.owner = .joining k expects) ∨ ∃ panicked, s.owner = .done panicked

theorem joins_not (s : State P n) (joins : Joins s) (owner : Owner) (here : s.owner = owner)
    (other : (∀ k expects, owner ≠ .joining k expects) ∧ ∀ panicked, owner ≠ .done panicked) : False := by
  rcases joins with ⟨k, expects, joining⟩ | ⟨panicked, done⟩
  · exact other.1 k expects (here.symm.trans joining)
  · exact other.2 panicked (here.symm.trans done)

theorem joins_step (s next : State P n) (action : Action P n) (entries : Trace P n) (joins : Joins s)
    (moves : Moves s action entries next) : Joins next := by
  have same (owner : next.owner = s.owner) : Joins next := by
    unfold Joins
    rw [owner]
    exact joins
  cases moves with
  | run owned => exact (joins_not s joins _ owned (by simp)).elim
  | dropRuntime owned => exact (joins_not s joins _ owned (by simp)).elim
  | wake here => exact (joins_not s joins _ here (by simp)).elim
  | ownerFailed k expects bound here => exact (joins_not s joins _ here (by simp)).elim
  | ownerShutdown k expects bound result here => exact (joins_not s joins _ here (by simp)).elim
  | ownerJoins k expects bound here => exact Or.inl ⟨0, expects, rfl⟩
  | joined k expects crashed bound here gone =>
      by_cases fails : (crashed && expects) = true
      · exact Or.inr ⟨true, by simp only [fails, if_true]⟩
      · exact Or.inl ⟨k + 1, expects, by simp only [fails, Bool.false_eq_true, if_false]⟩
  | allJoined k expects bound here => exact Or.inr ⟨false, rfl⟩
  | _ => exact same (by first | rfl | exact on_worker_owner _ _ _)

-- The joins that are left.
def toJoin (n : Nat) : Owner → Nat
  | .joining k _ => n - k + 1
  | _ => 0

def remaining (s : State P n) : Nat := ∑ w, (s.workers w).remaining + toJoin n s.owner

theorem remaining_update (workers : Fin n → Worker P n) (w : Fin n) (next : Worker P n) :
    ∑ v, (Function.update workers w next v).remaining + (workers w).remaining =
      ∑ v, (workers v).remaining + next.remaining := by
  rw [← Finset.add_sum_erase _ (fun v => (Function.update workers w next v).remaining) (Finset.mem_univ w),
    ← Finset.add_sum_erase _ (fun v => (workers v).remaining) (Finset.mem_univ w)]
  have others : ∑ v ∈ Finset.univ.erase w, (Function.update workers w next v).remaining =
      ∑ v ∈ Finset.univ.erase w, (workers v).remaining :=
    Finset.sum_congr rfl fun v member => by rw [Function.update_of_ne (Finset.ne_of_mem_erase member)]
  rw [others]
  simp only [Function.update_self]
  omega

theorem own_lower (s next : State P n) (action : Action P n) (entries : Trace P n) (told : Told s) (joins : Joins s)
    (moves : Moves s action entries next) (own : action.own = true) : next.remaining < s.remaining := by
  have pending (v : Fin n) : (s.workers v).Pending := by
    unfold Told at told
    rcases joins with ⟨k, expects, joining⟩ | ⟨panicked, done⟩
    · rw [joining] at told
      exact told v
    · rw [done] at told
      exact told v
  cases moves with
  | worker w act result free taken =>
      have less := Worker.remaining_lower _ result.1 _ act result.2 (Worker.step_moves _ _ _ _ taken) (pending w)
      have sums := remaining_update s.workers w result.1
      unfold remaining
      rw [on_worker_workers, on_worker_owner]
      omega
  | wake here => exact (joins_not s joins _ here (by simp)).elim
  | ownerFailed k expects bound here => exact (joins_not s joins _ here (by simp)).elim
  | ownerShutdown k expects bound result here => exact (joins_not s joins _ here (by simp)).elim
  | ownerJoins k expects bound here => exact (joins_not s joins _ here (by simp)).elim
  | joined k expects crashed bound here gone =>
      unfold remaining
      rw [here]
      by_cases fails : (crashed && expects) = true
      · simp only [fails, if_true, toJoin]
        omega
      · simp only [fails, Bool.false_eq_true, if_false, toJoin]
        omega
  | allJoined k expects bound here =>
      unfold remaining
      rw [here]
      simp only [toJoin]
      omega
  | post blocking => cases blocking <;> cases own
  | postFailed blocking => cases blocking <;> cases own
  | _ => cases own

theorem other_raise (log entries : Trace P n) (s next : State P n) (action : Action P n) (routed : Routed log s)
    (moves : Moves s action entries next) (joins : Joins s) (other : action.own = false) :
    next.remaining ≤ s.remaining + 4 := by
  have owner : next.owner = s.owner := by
    cases moves with
    | run owned => exact (joins_not s joins _ owned (by simp)).elim
    | dropRuntime owned => exact (joins_not s joins _ owned (by simp)).elim
    | worker => cases other
    | wake => cases other
    | ownerFailed => cases other
    | ownerShutdown => cases other
    | ownerJoins => cases other
    | joined => cases other
    | allJoined => cases other
    | _ => first | rfl | exact on_worker_owner _ _ _
  have workers : ∑ v, (next.workers v).remaining ≤ ∑ v, (s.workers v).remaining + 4 := by
    cases moves_local log entries s next action routed moves with
    | quiet same silent => rw [same]; omega
    | «at» w act result kept taken update trace =>
        have raise : (next.workers w).remaining ≤ (s.workers w).remaining + 4 := by
          rcases worker_source log entries s next action routed moves w with ⟨same, _⟩ | ⟨act, source, _, stepped⟩
          · rw [same]
            omega
          · refine Worker.remaining_raise _ _ act _ (Worker.step_moves _ _ act _ stepped) ?_
            rintro senders own rfl
            rw [source.1] at other
            cases other
        have sums := remaining_update s.workers w result.1
        rw [update] at raise ⊢
        rw [Function.update_self] at raise
        omega
  unfold remaining
  rw [owner]
  omega

-- As long as the owner has not returned, some thread can go on.
theorem joins_enabled (s : State P n) (joins : Joins s) (waits : ∀ panicked, s.owner ≠ .done panicked) :
    (∃ action result, action.own = true ∧ s.step action = some result) ∨ ∃ w, (s.workers w).phase.inCallback = true := by
  rcases joins with ⟨k, expects, here⟩ | ⟨panicked, done⟩
  · by_cases bound : k < n
    · by_cases ended : ∃ crashed, (s.workers ⟨k, bound⟩).phase = .ended crashed
      · obtain ⟨crashed, gone⟩ := ended
        exact Or.inl ⟨.owner, _, rfl, by simp only [step, ownerStep, here, dif_pos bound, gone]; rfl⟩
      · rcases Worker.running_enabled (s.workers ⟨k, bound⟩) (s.msgSenders ⟨k, bound⟩)
          (fun crashed gone => ended ⟨crashed, gone⟩) with busy | ⟨own, free, enabled⟩
        · exact Or.inr ⟨⟨k, bound⟩, busy⟩
        · obtain ⟨result, taken⟩ := Option.isSome_iff_exists.mp enabled
          exact Or.inl ⟨.worker ⟨k, bound⟩ own, _, rfl, by simp only [step, workerStep, free, taken]; rfl⟩
    · exact Or.inl ⟨.owner, _, rfl, by simp only [step, ownerStep, here, dif_neg bound]; rfl⟩
  · exact absurd done (waits panicked)

end State

theorem reach_told (log : Trace P n) (s : State P n) (reached : (runtime P n).Reach Machine.free log s) : State.Told s := by
  refine Machine.reach_invariant (runtime P n) Machine.free (fun _ s => State.Told s) ?_ ?_ log s reached
  · intro s start
    rw [start]
    trivial
  · intro log s action next entries before told _ taken
    exact State.told_step log entries s next action (reach_routed _ log s before) told (State.step_moves s next action entries taken)

-- Once run or Drop has sent its Shutdowns and joins, whatever the schedule, the
-- workers and the owner take only so many steps for each step of another
-- thread, and some thread can go on until the owner has returned.
theorem joins_end (log : Trace P n) (s : State P n) (reached : (runtime P n).Reach Machine.free log s) (k : Nat)
    (expects : Bool) (here : s.owner = .joining k expects) (actions : List (Action P n)) (later : Trace P n)
    (next : State P n) (ran : (runtime P n).run log s actions = some (later, next)) :
    actions.countP Action.own ≤ s.remaining + 4 * actions.countP (fun action => !action.own) ∧
    ((∀ panicked, next.owner ≠ .done panicked) →
      (∃ action result, action.own = true ∧ next.step action = some result) ∨
        ∃ w, (next.workers w).phase.inCallback = true) := by
  have bounded := Machine.run_potential (runtime P n) Action.own State.remaining 4
    (fun log s => (runtime P n).Reach Machine.free log s ∧ State.Joins s)
    (fun log s action next entries held taken => ⟨.step log s next action entries held.1 trivial taken,
      State.joins_step s next action entries held.2 (State.step_moves s next action entries taken)⟩)
    (fun log s action next entries held taken own => State.own_lower s next action entries (reach_told log s held.1) held.2
      (State.step_moves s next action entries taken) own)
    (fun log s action next entries held taken other => State.other_raise log entries s next action
      (reach_routed _ log s held.1) (State.step_moves s next action entries taken) held.2 other)
    actions log later s next ⟨reached, Or.inl ⟨k, expects, here⟩⟩ ran
  refine ⟨by omega, ?_⟩
  intro waits
  have joins : State.Joins next := by
    refine Machine.runs_invariant (runtime P n) Machine.free (fun _ s => State.Joins s) log s reached
      (Or.inl ⟨k, expects, here⟩) ?_ later next (Machine.run_runs _ log later s next actions ran)
    intro later mid action next entries _ held _ taken
    exact State.joins_step mid next action entries held (State.step_moves mid next action entries taken)
  exact State.joins_enabled next joins waits

-- From the joins on, one actor is stopped and its worker joined.
def joinsOne : List (Action numbers 1) := runCalled ++ ([.owner, .owner, .owner] : List (Action numbers 1))

def joinsOneLog : Trace numbers 1 := runCalledLog ++ ([.at 0 .shutdownSent] : Trace numbers 1)

def joinedOne : List (Action numbers 1) :=
  [.doSend 0 5, .worker 0 .pollControl, .worker 0 (.takeSnapshot [1]), .worker 0 .stopNext, .worker 0 .hookReturn]

theorem joins_end_one : ∃ s next : State numbers 1, (∃ later, (runtime numbers 1).run joinsOneLog s joinedOne = some (later, next)) ∧
    joinedOne.countP Action.own ≤ s.remaining + 4 * joinedOne.countP (fun action => !action.own) ∧
    ((∃ action result, action.own = true ∧ next.step action = some result) ∨ ∃ w, (next.workers w).phase.inCallback = true) := by
  have reached := Machine.run_reach (runtime numbers 1) joinsOneLog _ _ joinsOne rfl rfl
  obtain ⟨bound, goes⟩ := joins_end joinsOneLog _ reached 0 true rfl joinedOne _ _ rfl
  exact ⟨_, _, ⟨_, rfl⟩, bound, goes (fun panicked wrong => by cases wrong)⟩

namespace State

-- A message that is sent to a worker while this empties its channel is taken
-- out, and the worker goes on emptying its channel.
theorem flood_step (log : Trace P n) (s : State P n) (reached : (runtime P n).Reach Machine.free log s) (i : Nat)
    (addr : Addr P n) (msg : P.Msg) (found : s.addrs[i]? = some addr) (here : (s.workers addr.tx).phase = .drain)
    (empty : (s.workers addr.tx).msgRx.queue = []) :
    ∃ next, (runtime P n).run log s [.doSend i msg, .worker addr.tx .drain] =
        some (log ++ [.at addr.tx (.accepted (s.envelopeTo addr msg false))], next) ∧
      next.addrs = s.addrs ∧ (next.workers addr.tx).phase = .drain ∧ (next.workers addr.tx).msgRx.queue = [] ∧
      (next.workers addr.tx).scheduler = (s.workers addr.tx).scheduler.enqueue (s.envelopeTo addr msg false) ∧
      (next.workers addr.tx).controlRx = (s.workers addr.tx).controlRx := by
  have alive : (s.workers addr.tx).msgRx.receiver = true := by
    rw [(reach_worker _ log s reached addr.tx).owned.msgs, here]
    rfl
  have sent : (runtime P n).step s (.doSend i msg) = some ((s.beginSend addr false .waiting).onWorker addr.tx
      ((s.workers addr.tx).withMail [s.envelopeTo addr msg false], [.accepted (s.envelopeTo addr msg false)])) := by
    simp [runtime, step, post, found, Worker.post, Channel.send, alive, empty, Worker.withMail]
  generalize mid : (s.beginSend addr false .waiting).onWorker addr.tx
    ((s.workers addr.tx).withMail [s.envelopeTo addr msg false], [.accepted (s.envelopeTo addr msg false)]) = result at sent
  have worker : result.1.workers addr.tx = (s.workers addr.tx).withMail [s.envelopeTo addr msg false] := by
    rw [← mid, on_worker_workers, Function.update_self]
  have trace : result.2 = [.at addr.tx (.accepted (s.envelopeTo addr msg false))] := by
    rw [← mid]
    rfl
  have addrs : result.1.addrs = s.addrs := by
    rw [← mid, on_worker_addrs]
    rfl
  have drained : (runtime P n).step result.1 (.worker addr.tx .drain) = some (result.1.onWorker addr.tx
      ({ (s.workers addr.tx).withMail [] with
        scheduler := (s.workers addr.tx).scheduler.enqueue (s.envelopeTo addr msg false) }, [])) := by
    simp [runtime, step, workerStep, endsCallback, Worker.ownStep, Worker.drain, worker, here, Worker.withMail, Channel.tryRecv]
  refine ⟨(result.1.onWorker addr.tx ({ (s.workers addr.tx).withMail [] with
    scheduler := (s.workers addr.tx).scheduler.enqueue (s.envelopeTo addr msg false) }, [])).1, ?_, addrs, ?_, ?_, ?_, ?_⟩
  · have silent : (result.1.onWorker addr.tx ({ (s.workers addr.tx).withMail [] with
        scheduler := (s.workers addr.tx).scheduler.enqueue (s.envelopeTo addr msg false) }, [])).2 = [] := rfl
    simp only [Machine.run, sent, drained, trace, silent, List.append_nil]
  · rw [on_worker_workers, Function.update_self]
    exact here
  · rw [on_worker_workers, Function.update_self]
    rfl
  · rw [on_worker_workers, Function.update_self]
  · rw [on_worker_workers, Function.update_self]
    rfl

end State

-- Somebody sends, and the worker takes the message out of its channel.
def flood (i : Nat) (w : Fin n) (msg : P.Msg) (rounds : Nat) : List (Action P n) :=
  (List.replicate rounds [.doSend i msg, .worker w .drain]).flatten

-- The loop that empties the channel has no bound: as long as messages keep
-- coming, the worker looks at no control message and handles nothing.
theorem flood_starves (log : Trace P n) (s : State P n) (reached : (runtime P n).Reach Machine.free log s) (i : Nat)
    (addr : Addr P n) (msg : P.Msg) (found : s.addrs[i]? = some addr) (here : (s.workers addr.tx).phase = .drain)
    (empty : (s.workers addr.tx).msgRx.queue = []) (rounds : Nat) :
    ∃ rest next, (runtime P n).run log s (flood i addr.tx msg rounds) = some (log ++ rest, next) ∧ rest.length = rounds ∧
      (∀ entry ∈ rest, ∃ envelope, entry = .at addr.tx (.accepted envelope)) ∧ (next.workers addr.tx).phase = .drain ∧
      (next.workers addr.tx).msgRx.queue = [] ∧
      ((next.workers addr.tx).scheduler.mailbox addr.actorId).length =
        ((s.workers addr.tx).scheduler.mailbox addr.actorId).length + rounds ∧
      (next.workers addr.tx).controlRx = (s.workers addr.tx).controlRx := by
  induction rounds generalizing log s with
  | zero => exact ⟨[], s, by rw [List.append_nil]; rfl, rfl, by simp, here, empty, rfl, rfl⟩
  | succ rounds ih =>
      obtain ⟨mid, first, addrs, still, taken, enqueued, control⟩ := State.flood_step log s reached i addr msg found here empty
      have there := Machine.reach_runs _ _ log _ s mid reached (Machine.run_runs _ log _ s mid _ first)
      obtain ⟨rest, next, ran, length, sent, still', taken', grown, control'⟩ := ih _ mid there (addrs ▸ found) still taken
      refine ⟨.at addr.tx (.accepted (s.envelopeTo addr msg false)) :: rest, next, ?_, by rw [List.length_cons, length], ?_,
        still', taken', ?_, control'.trans control⟩
      · rw [flood, List.replicate_succ, List.flatten_cons, Machine.run_append _ log _ s mid _ _ first]
        exact ran.trans (by rw [List.append_assoc]; rfl)
      · intro entry member
        rcases List.mem_cons.mp member with now | later
        · exact ⟨_, now⟩
        · exact sent entry later
      · have own : addr.actorId = (s.envelopeTo addr msg false).actorId := rfl
        rw [grown, enqueued, Scheduler.mailbox_enqueue, if_pos own, List.length_append, List.length_singleton]
        omega

-- The Shutdown comes when the worker is already emptying its channel.
def drainsOne : List (Action numbers 1) := spawnOne ++ ([.worker 0 .pollControl, .shutdown 0] : List (Action numbers 1))

theorem flood_starves_shutdown : ∃ (log : Trace numbers 1) (next : State numbers 1),
    (runtime numbers 1).run [] (State.withThreads numbers 1) (drainsOne ++ @flood numbers 1 0 0 5 1000) = some (log, next) ∧
      (next.workers 0).phase = .drain ∧ (next.workers 0).msgRx.queue = [] ∧
      ((next.workers 0).scheduler.mailbox 1).length = 1000 ∧ (next.workers 0).controlRx.queue = [.shutdown] := by
  have first : (runtime numbers 1).run [] (State.withThreads numbers 1) drainsOne = some (_, _) := rfl
  have reached := Machine.run_reach (runtime numbers 1) _ _ _ drainsOne rfl first
  obtain ⟨rest, next, ran, _, _, still, taken, grown, control⟩ := flood_starves _ _ reached 0 ⟨1, 0, ()⟩ 5 rfl rfl rfl 1000
  have whole := Machine.run_append (runtime numbers 1) [] _ _ _ drainsOne (@flood numbers 1 0 0 5 1000) first
  refine ⟨_, next, whole.trans ran, still, taken, grown.trans ?_, ?_⟩
  · exact Nat.zero_add 1000
  · rw [control]
    rfl

end Actinium
