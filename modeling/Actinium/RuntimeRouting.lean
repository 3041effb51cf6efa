import Actinium.RuntimeMoves
import Actinium.WorkerSound
import Actinium.WorkerEvents

set_option autoImplicit false

namespace Actinium

variable {P : Program} {n : Nat}

namespace Entry

def view (w : Fin n) : Entry P n → Option (Event P)
  | .at v event => if v = w then some event else none
  | _ => none

end Entry

abbrev Trace (P : Program) (n : Nat) := List (Entry P n)

namespace Trace

-- What happened at one worker.
def worker (w : Fin n) (log : Trace P n) : Log P := log.filterMap (Entry.view w)

@[simp] theorem worker_nil (w : Fin n) : worker w ([] : Trace P n) = [] := rfl

@[simp] theorem worker_append (w : Fin n) (a b : Trace P n) : worker w (a ++ b) = worker w a ++ worker w b :=
  List.filterMap_append

@[simp] theorem worker_starting (w v : Fin n) (id : ActorId) (parent : Option ActorId) :
    worker w [(.starting id v parent : Entry P n)] = [] := rfl

@[simp] theorem worker_started (w : Fin n) (id : ActorId) : worker w [(.started id : Entry P n)] = [] := rfl

@[simp] theorem worker_start_panicked (w : Fin n) (id : ActorId) : worker w [(.startPanicked id : Entry P n)] = [] := rfl

@[simp] theorem worker_unsent (w v : Fin n) (id : ActorId) : worker w [(.unsent id v : Entry P n)] = [] := rfl

@[simp] theorem worker_same (w : Fin n) (events : Log P) : worker w (events.map (.at w)) = events := by
  induction events with
  | nil => rfl
  | cons head tail ih => simpa [worker, Entry.view] using ih

theorem worker_other (w v : Fin n) (other : w ≠ v) (events : Log P) : worker w (events.map (.at v)) = [] := by
  induction events with
  | nil => rfl
  | cons head tail ih => simp [worker, Entry.view, Ne.symm other]

theorem mem_worker (w : Fin n) (event : Event P) (log : Trace P n) : event ∈ log.worker w ↔ .at w event ∈ log := by
  simp only [worker, List.mem_filterMap]
  constructor
  · rintro ⟨entry, member, same⟩
    cases entry with
    | «at» v other =>
        simp only [Entry.view] at same
        split at same
        · rename_i here
          cases same
          rw [← here]
          exact member
        · cases same
    | _ => cases same
  · intro member
    exact ⟨_, member, by simp [Entry.view]⟩

-- The actor was given to this worker, or a spawn of it was sent there.
def Claimed (log : Trace P n) (w : Fin n) (id : ActorId) : Prop :=
  id ∈ (log.worker w).known ∨ id ∈ (log.worker w).spawnsSent

theorem claimed_append (log entries : Trace P n) (w : Fin n) (id : ActorId) :
    Claimed (log ++ entries) w id ↔ Claimed log w id ∨ Claimed entries w id := by
  simp only [Claimed, worker_append, Log.known_append, Log.spawns_append, List.mem_append]
  tauto

end Trace

namespace State

-- Delivering to the callers touches their channels only.

@[simp] theorem deliver_workers (s : State P n) (event : Event P) : (s.deliver event).workers = s.workers := by
  cases event <;> simp only [deliver, settleSend, settleSpawn] <;> (try split) <;> rfl

@[simp] theorem deliver_addrs (s : State P n) (event : Event P) : (s.deliver event).addrs = s.addrs := by
  cases event <;> simp only [deliver, settleSend, settleSpawn] <;> (try split) <;> rfl

@[simp] theorem deliver_next_id (s : State P n) (event : Event P) : (s.deliver event).nextId = s.nextId := by
  cases event <;> simp only [deliver, settleSend, settleSpawn] <;> (try split) <;> rfl

@[simp] theorem deliver_next_serial (s : State P n) (event : Event P) : (s.deliver event).nextSerial = s.nextSerial := by
  cases event <;> simp only [deliver, settleSend, settleSpawn] <;> (try split) <;> rfl

@[simp] theorem deliver_owner (s : State P n) (event : Event P) : (s.deliver event).owner = s.owner := by
  cases event <;> simp only [deliver, settleSend, settleSpawn] <;> (try split) <;> rfl

theorem deliver_all {β : Type} (part : State P n → β) (same : ∀ s event, part (deliver s event) = part s)
    (s : State P n) (events : Log P) : part (events.foldl deliver s) = part s := by
  induction events generalizing s with
  | nil => rfl
  | cons head tail ih => rw [List.foldl_cons, ih, same]

@[simp] theorem on_worker_workers (s : State P n) (w : Fin n) (result : Worker.Outcome P n) :
    (s.onWorker w result).1.workers = Function.update s.workers w result.1 :=
  deliver_all workers deliver_workers _ _

@[simp] theorem on_worker_addrs (s : State P n) (w : Fin n) (result : Worker.Outcome P n) :
    (s.onWorker w result).1.addrs = s.addrs := deliver_all addrs deliver_addrs _ _

@[simp] theorem on_worker_next_id (s : State P n) (w : Fin n) (result : Worker.Outcome P n) :
    (s.onWorker w result).1.nextId = s.nextId := deliver_all nextId deliver_next_id _ _

@[simp] theorem on_worker_next_serial (s : State P n) (w : Fin n) (result : Worker.Outcome P n) :
    (s.onWorker w result).1.nextSerial = s.nextSerial := deliver_all nextSerial deliver_next_serial _ _

@[simp] theorem on_worker_owner (s : State P n) (w : Fin n) (result : Worker.Outcome P n) :
    (s.onWorker w result).1.owner = s.owner := deliver_all owner deliver_owner _ _

-- A spawn call changes under a worker's step only by being answered.
def Answers (id : ActorId) (events : Log P) (before after : Option (SpawnCall P n)) : Prop :=
  after = before ∨ ∃ via ty w, before = some ⟨via, ty, .confirming w⟩ ∧
    (after = some ⟨via, ty, .confirmed w⟩ ∧ .confirmed id ∈ events ∨
      after = some ⟨via, ty, .refused⟩ ∧ .refused id ∈ events)

theorem settle_spawn_answers (s : State P n) (id other : ActorId) (yes : Bool) (event : Event P)
    (shape : event = if yes then .confirmed id else .refused id) :
    Answers other [event] (s.calls.lookup other) ((s.settleSpawn id yes).calls.lookup other) := by
  unfold settleSpawn
  split
  · rename_i via ty w found
    by_cases same : other = id
    · subst same
      right
      refine ⟨via, ty, w, found, ?_⟩
      cases yes <;> simp [setCall, shape]
    · left
      simp [setCall, AList.lookup_insert_ne same]
  · exact Or.inl rfl

theorem deliver_answers (s : State P n) (id : ActorId) (event : Event P) :
    Answers id [event] (s.calls.lookup id) ((s.deliver event).calls.lookup id) := by
  cases event with
  | confirmed other => exact settle_spawn_answers s other id true _ rfl
  | refused other => exact settle_spawn_answers s other id false _ rfl
  | handled envelope reply => left; simp only [deliver, settleSend]; split <;> rfl
  | panicked envelope => left; simp only [deliver, settleSend]; split <;> rfl
  | mismatched envelope => left; simp only [deliver, settleSend]; split <;> rfl
  | dropped envelope => left; simp only [deliver, settleSend]; split <;> rfl
  | _ => exact Or.inl rfl

theorem deliver_all_answers (s : State P n) (id : ActorId) (events : Log P) :
    Answers id events (s.calls.lookup id) ((events.foldl deliver s).calls.lookup id) := by
  induction events generalizing s with
  | nil => exact Or.inl rfl
  | cons head tail ih =>
      rw [List.foldl_cons]
      rcases deliver_answers s id head with same | ⟨via, ty, w, before, now⟩
      · rcases ih (s.deliver head) with still | ⟨via, ty, w, before, later⟩
        · exact Or.inl (still.trans same)
        · refine Or.inr ⟨via, ty, w, same ▸ before, ?_⟩
          rcases later with ⟨after, member⟩ | ⟨after, member⟩
          · exact Or.inl ⟨after, List.mem_cons_of_mem _ member⟩
          · exact Or.inr ⟨after, List.mem_cons_of_mem _ member⟩
      · rcases ih (s.deliver head) with still | ⟨via', ty', w', between, _⟩
        · refine Or.inr ⟨via, ty, w, before, ?_⟩
          rcases now with ⟨after, member⟩ | ⟨after, member⟩
          · exact Or.inl ⟨still.trans after, by simp at member; simp [member]⟩
          · exact Or.inr ⟨still.trans after, by simp at member; simp [member]⟩
        · -- an answered call is not waiting for its answer
          rcases now with ⟨after, _⟩ | ⟨after, _⟩ <;> rw [between] at after <;> cases after

theorem on_worker_answers (s : State P n) (w : Fin n) (result : Worker.Outcome P n) (id : ActorId) :
    Answers id result.2 (s.calls.lookup id) ((s.onWorker w result).1.calls.lookup id) :=
  deliver_all_answers _ id result.2

end State

namespace SpawnStage

-- The worker picked for the actor, once there is one.
def target : SpawnStage P n → Option (Fin n)
  | .starting _ w _ => some w
  | .started _ w => some w
  | .confirming w => some w
  | .confirmed w => some w
  | _ => none

-- The actor goes to this worker, if it goes to any.
def goesTo (w : Fin n) : SpawnStage P n → Prop
  | .refused => True
  | stage => stage.target = some w

end SpawnStage

namespace State

def Unclaimed (log : Trace P n) (id : ActorId) : Prop := ∀ w, ¬ log.Claimed w id

-- What the log says of a spawn call: its actor is given to a worker only at
-- the hand-over, and an actor that was confirmed is installed with its type.
def Expected (log : Trace P n) (s : State P n) (id : ActorId) : SpawnCall P n → Prop
  | ⟨_, _, .allocated _⟩ => Unclaimed log id
  | ⟨_, _, .starting _ w ctx⟩ => Unclaimed log id ∧ ctx.actorId = id ∧ ctx.spawner = some w
  | ⟨_, _, .started _ _⟩ => Unclaimed log id
  | ⟨_, ty, .confirming w⟩ =>
      id ∈ (log.worker w).spawnsSent ∧ (∀ other, (id, other) ∈ (log.worker w).installed → other = ty) ∧
        ∀ actor onStop, .spawnActor id actor onStop ∈ (s.workers w).controlRx.queue → actor.ty = ty
  | ⟨_, ty, .confirmed w⟩ => (id, ty) ∈ (log.worker w).installed
  | ⟨_, _, .refused⟩ => True

-- Every id goes to one worker, and every Addr leads to the worker that was
-- given the actor, with the type it was given with.
structure Routed (log : Trace P n) (s : State P n) : Prop where
  workers : ∀ w, Worker.Reach w (log.worker w) (s.workers w)
  bound : ∀ w id, log.Claimed w id → id < s.nextId
  callBound : ∀ id call, s.calls.lookup id = some call → id < s.nextId
  once : ∀ v w id, log.Claimed v id → log.Claimed w id → v = w
  addrs : ∀ addr ∈ s.addrs, (addr.actorId, addr.ty) ∈ (log.worker addr.tx).installed
  serials : ∀ w, ∀ envelope ∈ (log.worker w).accepted, envelope.dispatch.serial < s.nextSerial
  apart : ∀ v w, ∀ a ∈ (log.worker v).accepted, ∀ b ∈ (log.worker w).accepted,
    a.dispatch.serial = b.dispatch.serial → v = w
  calls : ∀ id call, s.calls.lookup id = some call → Expected log s id call

-- A step of the runtime is a step of at most one worker, and what the worker
-- is given is what it was promised.
inductive Local (log : Trace P n) (s : State P n) (entries : Trace P n) (next : State P n) : Prop where
  | quiet (workers : next.workers = s.workers) (silent : ∀ w, entries.worker w = []) : Local log s entries next
  | at (w : Fin n) (act : Worker.Act P) (result : Worker.Outcome P n)
      (kept : Worker.promised (log.worker w) (s.workers w) act) (taken : (s.workers w).step act = some result)
      (workers : next.workers = Function.update s.workers w result.1) (trace : entries = result.2.map (.at w)) :
      Local log s entries next

theorem serial_fresh (log : Trace P n) (s : State P n) (routed : Routed log s) (w : Fin n) :
    s.nextSerial ∉ (log.worker w).accepted.map (fun sent => sent.dispatch.serial) := by
  intro member
  obtain ⟨envelope, accepted, same⟩ := List.mem_map.mp member
  have bound := routed.serials w envelope accepted
  rw [same] at bound
  exact absurd bound (Nat.lt_irrefl _)

theorem moves_local (log entries : Trace P n) (s next : State P n) (action : Action P n) (routed : Routed log s)
    (moves : Moves s action entries next) : Local log s entries next := by
  have fresh (id : ActorId) (w : Fin n) (unclaimed : Unclaimed log id) :
      id ∉ (log.worker w).known ∧ id ∉ (log.worker w).spawnsSent :=
    ⟨fun known => unclaimed w (Or.inl known), fun sent => unclaimed w (Or.inr sent)⟩
  cases moves with
  | post blocking i msg addr result found taken =>
      exact .at addr.tx (.post (s.envelopeTo addr msg blocking)) result
        ⟨routed.addrs addr (List.mem_of_getElem? found), serial_fresh log s routed addr.tx⟩ taken
        (on_worker_workers _ _ _) rfl
  | ctxStopWorker w result free taken => exact .at w .stopCtx result trivial taken (on_worker_workers _ _ _) rfl
  | remote id ty val w result found taken =>
      exact .at w (.postControl (.spawnActor id ⟨ty, val⟩ ty)) result ⟨rfl, fresh id w (routed.calls id _ found)⟩ taken
        (on_worker_workers _ _ _) rfl
  | direct id via ty val w result found taken =>
      exact .at w (.spawnActorDirect id ⟨ty, val⟩ ty) result ⟨rfl, fresh id w (routed.calls id _ found)⟩ taken
        (on_worker_workers _ _ _) rfl
  | shutdown w result taken => exact .at w (.postControl .shutdown) result trivial taken (on_worker_workers _ _ _) rfl
  | ownerShutdown k expects bound result here taken =>
      exact .at ⟨k, bound⟩ (.postControl .shutdown) result trivial taken (on_worker_workers _ _ _) rfl
  | worker w act result free taken =>
      exact .at w (.own (s.msgSenders w) act) result trivial taken (on_worker_workers _ _ _) rfl
  | _ => exact .quiet rfl (fun _ => rfl)

-- Each worker either stands still in a step of the runtime or takes one of its own.
theorem local_worker (log entries : Trace P n) (s next : State P n) (step : Local log s entries next) (w : Fin n) :
    next.workers w = s.workers w ∧ entries.worker w = [] ∨
      ∃ act, Worker.promised (log.worker w) (s.workers w) act ∧
        (s.workers w).step act = some (next.workers w, entries.worker w) := by
  cases step with
  | quiet workers silent => exact Or.inl ⟨by rw [workers], silent w⟩
  | «at» v act result kept taken workers trace =>
      by_cases same : w = v
      · subst same
        refine Or.inr ⟨act, kept, ?_⟩
        rw [workers, trace, Trace.worker_same, Function.update_self]
        exact taken
      · exact Or.inl ⟨by rw [workers, Function.update_of_ne same], by rw [trace, Trace.worker_other w v same]⟩

-- The worker acts on its own, or stops on a Context of its own, in actions of
-- its own. An actor is given to it by the spawn call that has started it.
def Sourced (s : State P n) (action : Action P n) (w : Fin n) : Worker.Act P → Prop
  | .post _ => True
  | .postControl .shutdown => action = .shutdown w ∨ action = .owner
  | .postControl (.spawnActor id actor _) => ∃ via, s.calls.lookup id = some ⟨via, actor.ty, .started actor.val w⟩
  | .spawnActorDirect id actor _ => ∃ via, s.calls.lookup id = some ⟨via, actor.ty, .started actor.val w⟩
  | .stopCtx => action = .ctxStop (.worker w)
  | .own senders own => action = .worker w own ∧ senders = s.msgSenders w

theorem worker_source (log entries : Trace P n) (s next : State P n) (action : Action P n) (routed : Routed log s)
    (moves : Moves s action entries next) (w : Fin n) :
    next.workers w = s.workers w ∧ entries.worker w = [] ∨
      ∃ act, Sourced s action w act ∧ Worker.promised (log.worker w) (s.workers w) act ∧
        (s.workers w).step act = some (next.workers w, entries.worker w) := by
  have at_worker (v : Fin n) (act : Worker.Act P) (result : Worker.Outcome P n)
      (taken : (s.workers v).step act = some result) (source : Sourced s action v act) (workers : next.workers = Function.update s.workers v result.1)
      (trace : entries = result.2.map (.at v)) (kept : Worker.promised (log.worker v) (s.workers v) act) :
      next.workers w = s.workers w ∧ entries.worker w = [] ∨
        ∃ act, Sourced s action w act ∧ Worker.promised (log.worker w) (s.workers w) act ∧
          (s.workers w).step act = some (next.workers w, entries.worker w) := by
    by_cases same : w = v
    · subst same
      refine Or.inr ⟨act, source, kept, ?_⟩
      rw [workers, trace, Trace.worker_same, Function.update_self]
      exact taken
    · exact Or.inl ⟨by rw [workers, Function.update_of_ne same], by rw [trace, Trace.worker_other w v same]⟩
  have fresh (id : ActorId) (v : Fin n) (unclaimed : Unclaimed log id) :
      id ∉ (log.worker v).known ∧ id ∉ (log.worker v).spawnsSent :=
    ⟨fun known => unclaimed v (Or.inl known), fun sent => unclaimed v (Or.inr sent)⟩
  cases moves with
  | post blocking i msg addr result found taken =>
      exact at_worker addr.tx _ result taken trivial (on_worker_workers _ _ _) rfl
        ⟨routed.addrs addr (List.mem_of_getElem? found), serial_fresh log s routed addr.tx⟩
  | ctxStopWorker v result free taken => exact at_worker v _ result taken rfl (on_worker_workers _ _ _) rfl trivial
  | remote id ty val v result found taken =>
      exact at_worker v _ result taken ⟨none, found⟩ (on_worker_workers _ _ _) rfl ⟨rfl, fresh id v (routed.calls id _ found)⟩
  | direct id via ty val v result found taken =>
      exact at_worker v _ result taken ⟨some via, found⟩ (on_worker_workers _ _ _) rfl ⟨rfl, fresh id v (routed.calls id _ found)⟩
  | shutdown v result taken => exact at_worker v _ result taken (Or.inl rfl) (on_worker_workers _ _ _) rfl trivial
  | ownerShutdown k expects bound result here taken =>
      exact at_worker ⟨k, bound⟩ _ result taken (Or.inr rfl) (on_worker_workers _ _ _) rfl trivial
  | worker v act result free taken => exact at_worker v _ result taken ⟨rfl, rfl⟩ (on_worker_workers _ _ _) rfl trivial
  | _ => exact Or.inl ⟨rfl, rfl⟩

theorem local_workers (log entries : Trace P n) (s next : State P n) (routed : Routed log s)
    (step : Local log s entries next) (w : Fin n) : Worker.Reach w ((log ++ entries).worker w) (next.workers w) := by
  rw [Trace.worker_append]
  rcases local_worker log entries s next step w with ⟨same, silent⟩ | ⟨act, kept, taken⟩
  · rw [same, silent, List.append_nil]
    exact routed.workers w
  · exact .step _ _ _ act _ (routed.workers w) kept taken

-- The id a worker is given by an act of another thread.
theorem claimed_source (log : Trace P n) (s : State P n) (routed : Routed log s) (w v : Fin n) (act : Worker.Act P)
    (result : Worker.Outcome P n) (taken : (s.workers v).step act = some result) (id : ActorId)
    (claimed : Trace.Claimed (result.2.map (.at v)) w id) :
    w = v ∧ (log.Claimed v id ∨ (∃ actor onStop, act = .postControl (.spawnActor id actor onStop)) ∨
      ∃ actor onStop, act = .spawnActorDirect id actor onStop) := by
  have moves := Worker.step_moves (s.workers v) result.1 act result.2 taken
  by_cases same : w = v
  · refine ⟨same, ?_⟩
    rw [same, Trace.Claimed, Trace.worker_same] at claimed
    rcases claimed with known | sent
    · obtain ⟨ty, installed⟩ := Worker.installed_of_known _ _ known
      rcases Worker.installed_inv moves id ty ((Log.mem_installed _ _ _).mp installed) with
        ⟨actor, onStop, queued, _⟩ | ⟨actor, onStop, direct, _⟩
      · left
        exact Or.inr ((Worker.reach_sound v _ _ (routed.workers v)).waiting.queued id actor onStop queued).2.1
      · exact Or.inr (Or.inr ⟨actor, onStop, direct⟩)
    · obtain ⟨ty, member⟩ := (Log.mem_spawns _ _).mp sent
      obtain ⟨actor, onStop, posted, _⟩ := Worker.spawn_sent_inv moves id ty member
      exact Or.inr (Or.inl ⟨actor, onStop, posted⟩)
  · rw [Trace.Claimed, Trace.worker_other w v same] at claimed
    rcases claimed with known | sent
    · cases known
    · cases sent

theorem claimed_step (log entries : Trace P n) (s next : State P n) (action : Action P n) (routed : Routed log s)
    (moves : Moves s action entries next) (w : Fin n) (id : ActorId) (claimed : entries.Claimed w id) :
    log.Claimed w id ∨ action = .handOver id ∧ ∃ via ty val, s.calls.lookup id = some ⟨via, ty, .started val w⟩ := by
  have source := claimed_source log s routed w
  have silent (empty : Trace.worker w entries = []) : log.Claimed w id := by
    rw [Trace.Claimed, empty] at claimed
    rcases claimed with known | sent
    · cases known
    · cases sent
  cases moves with
  | post blocking i msg addr result found taken =>
      obtain ⟨rfl, old | ⟨actor, onStop, wrong⟩ | ⟨actor, onStop, wrong⟩⟩ := source _ _ result taken id claimed
      · exact Or.inl old
      · cases wrong
      · cases wrong
  | ctxStopWorker v result free taken =>
      obtain ⟨rfl, old | ⟨actor, onStop, wrong⟩ | ⟨actor, onStop, wrong⟩⟩ := source _ _ result taken id claimed
      · exact Or.inl old
      · cases wrong
      · cases wrong
  | remote other ty val v result found taken =>
      obtain ⟨rfl, old | ⟨actor, onStop, same⟩ | ⟨actor, onStop, wrong⟩⟩ := source _ _ result taken id claimed
      · exact Or.inl old
      · cases same
        exact Or.inr ⟨rfl, none, ty, val, found⟩
      · cases wrong
  | direct other via ty val v result found taken =>
      obtain ⟨rfl, old | ⟨actor, onStop, wrong⟩ | ⟨actor, onStop, same⟩⟩ := source _ _ result taken id claimed
      · exact Or.inl old
      · cases wrong
      · cases same
        exact Or.inr ⟨rfl, some via, ty, val, found⟩
  | shutdown v result taken =>
      obtain ⟨rfl, old | ⟨actor, onStop, wrong⟩ | ⟨actor, onStop, wrong⟩⟩ := source _ _ result taken id claimed
      · exact Or.inl old
      · cases wrong
      · cases wrong
  | ownerShutdown k expects bound result here taken =>
      obtain ⟨rfl, old | ⟨actor, onStop, wrong⟩ | ⟨actor, onStop, wrong⟩⟩ := source _ _ result taken id claimed
      · exact Or.inl old
      · cases wrong
      · cases wrong
  | worker v act result free taken =>
      obtain ⟨rfl, old | ⟨actor, onStop, wrong⟩ | ⟨actor, onStop, wrong⟩⟩ := source _ _ result taken id claimed
      · exact Or.inl old
      · cases wrong
      · cases wrong
  | _ => exact Or.inl (silent rfl)

theorem once_step (log entries : Trace P n) (s next : State P n) (action : Action P n) (routed : Routed log s)
    (moves : Moves s action entries next) (v w : Fin n) (id : ActorId) (left : (log ++ entries).Claimed v id)
    (right : (log ++ entries).Claimed w id) : v = w := by
  have origin (u : Fin n) (claimed : (log ++ entries).Claimed u id) :
      log.Claimed u id ∨ ∃ via ty val, s.calls.lookup id = some ⟨via, ty, .started val u⟩ := by
    rcases (Trace.claimed_append log entries u id).mp claimed with old | new
    · exact Or.inl old
    · rcases claimed_step log entries s next action routed moves u id new with old | ⟨_, found⟩
      · exact Or.inl old
      · exact Or.inr found
  rcases origin v left with oldV | ⟨via, ty, val, found⟩
  · rcases origin w right with oldW | ⟨via, ty, val, found⟩
    · exact routed.once v w id oldV oldW
    · exact absurd oldV (routed.calls id _ found v)
  · rcases origin w right with oldW | ⟨via', ty', val', found'⟩
    · exact absurd oldW (routed.calls id _ found w)
    · rw [found] at found'
      cases found'
      rfl

theorem lookup_set (s : State P n) (id other : ActorId) (call : SpawnCall P n) :
    (s.setCall id call).calls.lookup other = if other = id then some call else s.calls.lookup other := by
  unfold setCall
  split
  · rename_i same
    rw [same]
    exact AList.lookup_insert _
  · rename_i different
    exact AList.lookup_insert_ne different

theorem lookup_end (s : State P n) (id other : ActorId) :
    (s.endCall id).calls.lookup other = if other = id then none else s.calls.lookup other := by
  unfold endCall
  split
  · rename_i same
    rw [same]
    exact AList.lookup_erase _ _
  · rename_i different
    exact AList.lookup_erase_ne different

theorem blocked_iff (s : State P n) (caller : Caller n) :
    s.blocked caller = true ↔ ∃ id call, s.calls.lookup id = some call ∧ call.via = some caller := by
  simp only [blocked, List.any_eq_true, decide_eq_true_eq]
  constructor
  · rintro ⟨⟨id, call⟩, member, via⟩
    exact ⟨id, call, AList.mem_lookup_iff.mpr member, via⟩
  · rintro ⟨id, call, found, via⟩
    exact ⟨⟨id, call⟩, AList.mem_lookup_iff.mp found, via⟩

-- Only the worker itself answers a spawn call.
theorem calls_unanswered (s : State P n) (old : Worker P n) (w : Fin n) (act : Worker.Act P)
    (result : Worker.Outcome P n) (taken : old.step act = some result) (foreign : ∀ senders own, act ≠ .own senders own)
    (id : ActorId) : (s.onWorker w result).1.calls.lookup id = s.calls.lookup id := by
  have moves := Worker.step_moves old result.1 act result.2 taken
  rcases on_worker_answers s w result id with same | ⟨_, _, _, _, ⟨_, yes⟩ | ⟨_, no⟩⟩
  · exact same
  · obtain ⟨_, senders, own⟩ := Worker.confirmed_inv moves id yes
    exact absurd own (foreign senders _)
  · obtain ⟨_, senders, own⟩ := Worker.refused_inv moves id no
    exact absurd own (foreign senders _)

-- The spawn call an action is about.
def subject (s : State P n) : Action P n → Option ActorId
  | .spawn _ _ => some s.nextId
  | .ctxSpawn _ _ _ => some s.nextId
  | .spawnPick id => some id
  | .ctxStop (.started id) => some id
  | .startedReturn id _ => some id
  | .startedPanic id => some id
  | .handOver id => some id
  | .spawnReturn id => some id
  | _ => none

-- Any other call can only be answered.
theorem call_untouched (s next : State P n) (action : Action P n) (entries : Trace P n)
    (moves : Moves s action entries next) (id : ActorId) (other : s.subject action ≠ some id) :
    ∃ events, Answers id events (s.calls.lookup id) (next.calls.lookup id) := by
  have same (equal : next.calls.lookup id = s.calls.lookup id) :
      ∃ events, Answers id events (s.calls.lookup id) (next.calls.lookup id) := ⟨[], Or.inl equal⟩
  have different (about : ActorId) (subject : s.subject action = some about) : id ≠ about := by
    intro equal
    exact other (by rw [subject, equal])
  cases moves with
  | spawn ty val owned => exact same (by rw [lookup_set, if_neg (different s.nextId rfl)])
  | ctxSpawn via ty val parent running w free ctx => exact same (by rw [lookup_set, if_neg (different s.nextId rfl)])
  | spawnPick about via ty val w found => exact same (by rw [lookup_set, if_neg (different about rfl)])
  | ctxStopStarted about via ty val w ctx free found => exact same (by rw [lookup_set, if_neg (different about rfl)])
  | startedReturn about via ty old val w ctx free found => exact same (by rw [lookup_set, if_neg (different about rfl)])
  | startedPanic about via ty val w ctx free found => exact same (by rw [lookup_end, if_neg (different about rfl)])
  | remoteFailed about ty val w found failed => exact same (by rw [lookup_end, if_neg (different about rfl)])
  | spawnReturn about via ty w found => exact same ((lookup_end s about id).trans (if_neg (different about rfl)))
  | spawnRefused about via ty found => exact same (by rw [lookup_end, if_neg (different about rfl)])
  | remote about ty val w result found taken =>
      have answers := on_worker_answers (s.setCall about ⟨none, ty, .confirming w⟩) w result id
      rw [lookup_set, if_neg (different about rfl)] at answers
      exact ⟨_, answers⟩
  | direct about via ty val w result found taken =>
      have answers := on_worker_answers (s.returnAddr about w ty) w result id
      have before : (s.returnAddr about w ty).calls.lookup id = s.calls.lookup id :=
        (lookup_end s about id).trans (if_neg (different about rfl))
      rw [before] at answers
      exact ⟨_, answers⟩
  | post blocking i msg addr result found taken => exact ⟨_, on_worker_answers (s.beginSend addr blocking .waiting) addr.tx result id⟩
  | ctxStopWorker w result free taken => exact ⟨_, on_worker_answers s w result id⟩
  | shutdown w result taken => exact ⟨_, on_worker_answers s w result id⟩
  | ownerShutdown k expects bound result here taken =>
      exact ⟨_, on_worker_answers { s with owner := .shutting (k + 1) expects } ⟨k, bound⟩ result id⟩
  | worker w act result free taken => exact ⟨_, on_worker_answers s w result id⟩
  | _ => exact same rfl

-- What one step can do to the spawn call of one id, with the entries it leaves.
-- A step that is about another call leaves no entry about this one.
inductive CallMoves (s next : State P n) (id : ActorId) (entries : Trace P n) : Prop where
  | answered (events : Log P) (answers : Answers id events (s.calls.lookup id) (next.calls.lookup id))
      (starting : ∀ w parent, .starting id w parent ∉ entries) (started : .started id ∉ entries)
      (panicked : .startPanicked id ∉ entries) (unsent : ∀ w, .unsent id w ∉ entries)
  | allocated (ty : P.Ty) (val : P.Val) (fresh : id = s.nextId) (counter : next.nextId = s.nextId + 1)
      (now : next.calls.lookup id = some ⟨none, ty, .allocated val⟩) (silent : entries = [])
  | begun (via : Caller n) (ty : P.Ty) (val : P.Val) (w : Fin n) (parent : ActorId) (fresh : id = s.nextId)
      (counter : next.nextId = s.nextId + 1)
      (now : next.calls.lookup id = some ⟨some via, ty, .starting val w (.withSpawner id w)⟩)
      (trace : entries = [.starting id w (some parent)])
  | picked (via : Option (Caller n)) (ty : P.Ty) (val : P.Val) (w : Fin n)
      (before : s.calls.lookup id = some ⟨via, ty, .allocated val⟩)
      (now : next.calls.lookup id = some ⟨via, ty, .starting val w (.withSpawner id w)⟩)
      (trace : entries = [.starting id w none])
  | stopped (via : Option (Caller n)) (ty : P.Ty) (val : P.Val) (w : Fin n) (ctx : Context (Fin n))
      (before : s.calls.lookup id = some ⟨via, ty, .starting val w ctx⟩)
      (now : next.calls.lookup id = some ⟨via, ty, .starting val w ctx.stop⟩) (silent : entries = [])
  | started (via : Option (Caller n)) (ty : P.Ty) (old val : P.Val) (w : Fin n) (ctx : Context (Fin n))
      (before : s.calls.lookup id = some ⟨via, ty, .starting old w ctx⟩)
      (now : next.calls.lookup id = some ⟨via, ty, .started val w⟩) (trace : entries = [.started id])
  | panicked (via : Option (Caller n)) (ty : P.Ty) (val : P.Val) (w : Fin n) (ctx : Context (Fin n))
      (before : s.calls.lookup id = some ⟨via, ty, .starting val w ctx⟩) (now : next.calls.lookup id = none)
      (trace : entries = [.startPanicked id])
  | unsent (ty : P.Ty) (val : P.Val) (w : Fin n) (before : s.calls.lookup id = some ⟨none, ty, .started val w⟩)
      (now : next.calls.lookup id = none) (trace : entries = [.unsent id w])
  | sent (ty : P.Ty) (val : P.Val) (w : Fin n) (before : s.calls.lookup id = some ⟨none, ty, .started val w⟩)
      (now : next.calls.lookup id = some ⟨none, ty, .confirming w⟩) (trace : entries = [.at w (.spawnSent id ty)])
  | installed (via : Caller n) (ty : P.Ty) (val : P.Val) (w : Fin n)
      (before : s.calls.lookup id = some ⟨some via, ty, .started val w⟩) (now : next.calls.lookup id = none)
      (trace : entries = [.at w (.installed id ty)])
  | returned (via : Option (Caller n)) (ty : P.Ty) (w : Fin n)
      (before : s.calls.lookup id = some ⟨via, ty, .confirmed w⟩) (now : next.calls.lookup id = none) (silent : entries = [])
  | refused (via : Option (Caller n)) (ty : P.Ty) (before : s.calls.lookup id = some ⟨via, ty, .refused⟩)
      (now : next.calls.lookup id = none) (silent : entries = [])

theorem call_moves (s next : State P n) (action : Action P n) (entries : Trace P n)
    (moves : Moves s action entries next) (id : ActorId) : CallMoves s next id entries := by
  by_cases about : s.subject action = some id
  · cases moves with
    | spawn ty val owned =>
        cases about
        exact .allocated ty val rfl rfl (by rw [lookup_set, if_pos rfl]) rfl
    | ctxSpawn via ty val parent running w free ctx =>
        cases about
        exact .begun via ty val w parent rfl rfl (by rw [lookup_set, if_pos rfl]) rfl
    | spawnPick other via ty val w before =>
        cases about
        exact .picked via ty val w before (by rw [lookup_set, if_pos rfl]) rfl
    | ctxStopStarted other via ty val w ctx free before =>
        cases about
        exact .stopped via ty val w ctx before (by rw [lookup_set, if_pos rfl]) rfl
    | startedReturn other via ty old val w ctx free before =>
        cases about
        exact .started via ty old val w ctx before (by rw [lookup_set, if_pos rfl]) rfl
    | startedPanic other via ty val w ctx free before =>
        cases about
        exact .panicked via ty val w ctx before (by rw [lookup_end, if_pos rfl]) rfl
    | remoteFailed other ty val w before failed =>
        cases about
        exact .unsent ty val w before (by rw [lookup_end, if_pos rfl]) rfl
    | remote other ty val w result before taken =>
        cases about
        have now : ((s.setCall id ⟨none, ty, .confirming w⟩).onWorker w result).1.calls.lookup id =
            some ⟨none, ty, .confirming w⟩ := by
          rw [calls_unanswered _ _ w _ result taken (by simp), lookup_set, if_pos rfl]
        obtain ⟨worker, events⟩ := result
        cases Worker.step_moves _ _ _ _ taken with
        | postControl msg alive => exact .sent ty val w before now rfl
    | direct other via ty val w result before taken =>
        cases about
        have now : ((s.returnAddr id w ty).onWorker w result).1.calls.lookup id = none := by
          rw [calls_unanswered _ _ w _ result taken (by simp), returnAddr]
          exact (lookup_end s id id).trans (if_pos rfl)
        obtain ⟨worker, events⟩ := result
        cases Worker.step_moves _ _ _ _ taken with
        | direct => exact .installed via ty val w before now rfl
    | spawnReturn other via ty w before =>
        cases about
        exact .returned via ty w before ((lookup_end s id id).trans (if_pos rfl)) rfl
    | spawnRefused other via ty before =>
        cases about
        exact .refused via ty before (by rw [lookup_end, if_pos rfl]) rfl
    | post blocking => cases blocking <;> cases about
    | postFailed blocking => cases blocking <;> cases about
    | _ => cases about
  · obtain ⟨events, answers⟩ := call_untouched s next action entries moves id about
    have different (other : ActorId) (subject : s.subject action = some other) : other ≠ id := by
      intro equal
      exact about (by rw [subject, equal])
    cases moves with
    | ctxSpawn via ty val parent running w free ctx =>
        have other := different s.nextId rfl
        exact .answered events answers (by simp [Ne.symm other]) (by simp) (by simp) (by simp)
    | spawnPick subject via ty val w before =>
        have other := different subject rfl
        exact .answered events answers (by simp [Ne.symm other]) (by simp) (by simp) (by simp)
    | startedReturn subject via ty old val w ctx free before =>
        have other := different subject rfl
        exact .answered events answers (by simp) (by simp [Ne.symm other]) (by simp) (by simp)
    | startedPanic subject via ty val w ctx free before =>
        have other := different subject rfl
        exact .answered events answers (by simp) (by simp) (by simp [Ne.symm other]) (by simp)
    | remoteFailed subject ty val w before failed =>
        have other := different subject rfl
        exact .answered events answers (by simp) (by simp) (by simp) (by simp [Ne.symm other])
    | _ => exact .answered events answers (by simp) (by simp) (by simp) (by simp)

theorem expected_frame (log entries : Trace P n) (s next : State P n)
    (step : Local log s entries next) (id : ActorId) (call : SpawnCall P n) (expected : Expected log s id call)
    (kept : ∀ w, entries.Claimed w id → log.Claimed w id) : Expected (log ++ entries) next id call := by
  have unclaimed (before : Unclaimed log id) : Unclaimed (log ++ entries) id := by
    intro w claimed
    rcases (Trace.claimed_append log entries w id).mp claimed with old | new
    · exact before w old
    · exact before w (kept w new)
  obtain ⟨via, ty, stage⟩ := call
  cases stage with
  | allocated val => exact unclaimed expected
  | starting val w ctx => exact ⟨unclaimed expected.1, expected.2⟩
  | started val w => exact unclaimed expected
  | refused => trivial
  | confirmed w =>
      change (id, ty) ∈ ((log ++ entries).worker w).installed
      rw [Trace.worker_append, Log.installed_append]
      exact List.mem_append_left _ expected
  | confirming w =>
      obtain ⟨sent, typed, queued⟩ := expected
      refine ⟨?_, ?_, ?_⟩
      · rw [Trace.worker_append, Log.spawns_append]
        exact List.mem_append_left _ sent
      · intro other installed
        rw [Trace.worker_append, Log.installed_append] at installed
        rcases List.mem_append.mp installed with old | new
        · exact typed other old
        · cases step with
          | quiet workers silent =>
              rw [silent w] at new
              cases new
          | «at» v act result promise taken workers trace =>
              rw [trace] at new
              by_cases same : w = v
              · subst same
                rw [Trace.worker_same] at new
                have moves := Worker.step_moves _ _ act _ taken
                rcases Worker.installed_inv moves id other ((Log.mem_installed _ _ _).mp new) with
                  ⟨actor, onStop, inside, rfl⟩ | ⟨actor, onStop, rfl, _⟩
                · exact queued actor onStop inside
                · exact absurd sent promise.2.2
              · rw [Trace.worker_other w v same] at new
                cases new
      · intro actor onStop inside
        cases step with
        | quiet workers silent => exact queued actor onStop (workers ▸ inside)
        | «at» v act result promise taken workers trace =>
            rw [workers] at inside
            by_cases same : w = v
            · subst same
              rw [Function.update_self] at inside
              rcases Worker.queued_inv (Worker.step_moves _ _ act _ taken) _ inside with earlier | rfl
              · exact queued actor onStop earlier
              · exact absurd sent promise.2.2
            · rw [Function.update_of_ne same] at inside
              exact queued actor onStop inside

-- An answer reaches the call that waits for it: a confirmed actor is installed.
theorem expected_answer (log : Trace P n) (s : State P n) (routed : Routed log s) (v : Fin n) (act : Worker.Act P)
    (result : Worker.Outcome P n) (promise : Worker.promised (log.worker v) (s.workers v) act)
    (taken : (s.workers v).step act = some result) (id : ActorId) (call : SpawnCall P n)
    (found : (s.onWorker v result).1.calls.lookup id = some call)
    (kept : ∀ w, Trace.Claimed (result.2.map (.at v)) w id → log.Claimed w id) :
    Expected (log ++ result.2.map (Entry.at v)) (s.onWorker v result).1 id call := by
  have step : Local log s (result.2.map (.at v)) (s.onWorker v result).1 :=
    .at v act result promise taken (on_worker_workers s v result) rfl
  have answers := on_worker_answers s v result id
  rw [found] at answers
  rcases answers with same | ⟨via, ty, w, before, ⟨after, yes⟩ | ⟨after, no⟩⟩
  · exact expected_frame log _ s _ step id call (routed.calls id call same.symm) kept
  · cases after
    obtain ⟨sent, typed, _⟩ := routed.calls id _ before
    obtain ⟨here, _⟩ := Worker.confirmed_inv (Worker.step_moves _ _ act _ taken) id yes
    have known := (Worker.reach_sound v _ _ (routed.workers v)).owned.confirming id here
    have same := routed.once v w id (Or.inl known) (Or.inr sent)
    subst same
    obtain ⟨other, installed⟩ := Worker.installed_of_known _ id known
    rw [typed other installed] at installed
    change (id, ty) ∈ (Trace.worker v (log ++ result.2.map (Entry.at v))).installed
    rw [Trace.worker_append, Log.installed_append]
    exact List.mem_append_left _ installed
  · cases after
    trivial

theorem calls_step (log entries : Trace P n) (s next : State P n) (action : Action P n) (routed : Routed log s)
    (moves : Moves s action entries next) (id : ActorId) (call : SpawnCall P n)
    (found : next.calls.lookup id = some call) : Expected (log ++ entries) next id call := by
  have step := moves_local log entries s next action routed moves
  have kept (other : action ≠ .handOver id) (w : Fin n) (claimed : entries.Claimed w id) : log.Claimed w id := by
    rcases claimed_step log entries s next action routed moves w id claimed with old | ⟨same, _⟩
    · exact old
    · exact absurd same other
  have unchanged (other : action ≠ .handOver id) (same : s.calls.lookup id = some call) :
      Expected (log ++ entries) next id call :=
    expected_frame log entries s next step id call (routed.calls id call same) (kept other)
  -- an id that no call had before is unclaimed: ids are handed out in order
  have new (w : Fin n) : ¬ log.Claimed w s.nextId := fun claimed =>
    absurd (routed.bound w s.nextId claimed) (Nat.lt_irrefl _)
  have early (other : action ≠ .handOver id) (before : Unclaimed log id) : Unclaimed (log ++ entries) id := by
    intro w claimed
    rcases (Trace.claimed_append log entries w id).mp claimed with old | now
    · exact before w old
    · exact before w (kept other w now)
  cases moves with
  | cloneAddr i addr inside => exact unchanged (by simp) found
  | dropAddr i => exact unchanged (by simp) found
  | postFailed blocking i msg addr inside failed => exact unchanged (by cases blocking <;> simp [postAction]) found
  | post blocking i msg addr result inside taken =>
      rw [calls_unanswered _ _ addr.tx _ result taken (by simp)] at found
      exact unchanged (by cases blocking <;> simp [postAction]) found
  | recvReply serial addr reply state => exact unchanged (by simp) found
  | recvError serial addr state => exact unchanged (by simp) found
  | spawn ty val owned =>
      rw [lookup_set] at found
      split at found
      · rename_i same
        cases found
        exact early (by simp) (same ▸ new)
      · exact unchanged (by simp) found
  | spawnPick other via ty val w before =>
      rw [lookup_set] at found
      split at found
      · rename_i same
        cases found
        subst same
        exact ⟨early (by simp) (routed.calls id _ before), rfl, rfl⟩
      · exact unchanged (by simp) found
  | ctxSpawn via ty val parent running w free ctx =>
      rw [lookup_set] at found
      split at found
      · rename_i same
        cases found
        exact ⟨early (by simp) (same ▸ new), same.symm, rfl⟩
      · exact unchanged (by simp) found
  | ctxStopWorker w result free taken =>
      rw [calls_unanswered _ _ w _ result taken (by simp)] at found
      exact unchanged (by simp) found
  | ctxStopStarted other via ty val w ctx free before =>
      rw [lookup_set] at found
      split at found
      · rename_i same
        cases found
        subst same
        obtain ⟨unclaimed, own, spawner⟩ := routed.calls id _ before
        exact ⟨early (by simp) unclaimed, own, spawner⟩
      · exact unchanged (by simp) found
  | startedReturn other via ty old val w ctx free before =>
      rw [lookup_set] at found
      split at found
      · rename_i same
        cases found
        subst same
        exact early (by simp) (routed.calls id _ before).1
      · exact unchanged (by simp) found
  | startedPanic other via ty val w ctx free before =>
      rw [lookup_end] at found
      split at found
      · cases found
      · exact unchanged (by simp) found
  | remoteFailed other ty val w before failed =>
      rw [lookup_end] at found
      split at found
      · cases found
      · rename_i different
        exact unchanged (by simp [Ne.symm different]) found
  | remote other ty val w result before taken =>
      rw [calls_unanswered _ _ w _ result taken (by simp), lookup_set] at found
      split at found
      · rename_i same
        cases found
        subst same
        have unclaimed : Unclaimed log id := routed.calls id _ before
        obtain ⟨worker, events⟩ := result
        cases Worker.step_moves _ _ _ _ taken with
        | postControl msg alive =>
            refine ⟨?_, ?_, ?_⟩
            · rw [Trace.worker_append, Log.spawns_append, Trace.worker_same]
              exact List.mem_append_right _ (by simp [Worker.controlEvent, Log.spawnsSent, Event.sendsSpawn])
            · intro ty' installed
              rw [Trace.worker_append, Log.installed_append, Trace.worker_same] at installed
              rcases List.mem_append.mp installed with old | now
              · exact absurd (Or.inl (Worker.known_of_installed _ _ _ old)) (unclaimed w)
              · cases now
            · intro actor onStop inside
              rw [on_worker_workers, Function.update_self] at inside
              rcases List.mem_append.mp inside with old | now
              · have queued := (Worker.reach_sound w _ _ (routed.workers w)).waiting.queued id actor onStop old
                exact absurd (Or.inr queued.2.1) (unclaimed w)
              · cases List.mem_singleton.mp now
                rfl
      · rename_i different
        exact unchanged (by simp [Ne.symm different]) found
  | direct other via ty val w result before taken =>
      rw [calls_unanswered _ _ w _ result taken (by simp)] at found
      change (s.endCall other).calls.lookup id = some call at found
      rw [lookup_end] at found
      split at found
      · cases found
      · rename_i different
        exact unchanged (by simp [Ne.symm different]) found
  | spawnReturn other via ty w before =>
      change (s.endCall other).calls.lookup id = some call at found
      rw [lookup_end] at found
      split at found
      · cases found
      · exact unchanged (by simp) found
  | spawnRefused other via ty before =>
      rw [lookup_end] at found
      split at found
      · cases found
      · exact unchanged (by simp) found
  | shutdownFailed w failed => exact unchanged (by simp) found
  | shutdown w result taken =>
      rw [calls_unanswered _ _ w _ result taken (by simp)] at found
      exact unchanged (by simp) found
  | run owned idle => exact unchanged (by simp) found
  | dropRuntime owned idle => exact unchanged (by simp) found
  | wake here => exact unchanged (by simp) found
  | ownerFailed k expects bound here failed => exact unchanged (by simp) found
  | ownerShutdown k expects bound result here taken =>
      rw [calls_unanswered _ _ _ _ result taken (by simp)] at found
      exact unchanged (by simp) found
  | ownerJoins k expects bound here => exact unchanged (by simp) found
  | joined k expects panicked bound here ended => exact unchanged (by simp) found
  | allJoined k expects bound here => exact unchanged (by simp) found
  | worker w act result free taken =>
      exact expected_answer log s routed w (.own (s.msgSenders w) act) result trivial taken id call found (kept (by simp))

theorem addrs_step (log entries : Trace P n) (s next : State P n) (action : Action P n) (routed : Routed log s)
    (moves : Moves s action entries next) (addr : Addr P n) (member : addr ∈ next.addrs) :
    (addr.actorId, addr.ty) ∈ ((log ++ entries).worker addr.tx).installed := by
  have old (before : addr ∈ s.addrs) : (addr.actorId, addr.ty) ∈ ((log ++ entries).worker addr.tx).installed := by
    rw [Trace.worker_append, Log.installed_append]
    exact List.mem_append_left _ (routed.addrs addr before)
  cases moves with
  | cloneAddr i other found =>
      rcases List.mem_append.mp member with earlier | last
      · exact old earlier
      · rw [List.mem_singleton.mp last] at old ⊢
        exact old (List.mem_of_getElem? found)
  | dropAddr i => exact old (List.mem_of_mem_eraseIdx member)
  | direct id via ty val w result found taken =>
      rw [on_worker_addrs] at member
      rcases List.mem_append.mp member with earlier | last
      · exact old earlier
      · rw [List.mem_singleton.mp last, Trace.worker_append, Log.installed_append, Trace.worker_same]
        obtain ⟨worker, events⟩ := result
        cases Worker.step_moves _ _ _ _ taken with
        | direct => exact List.mem_append_right _ (List.mem_singleton.mpr rfl)
  | spawnReturn id via ty w found =>
      rcases List.mem_append.mp member with earlier | last
      · exact old earlier
      · rw [List.mem_singleton.mp last, Trace.worker_append, Log.installed_append]
        exact List.mem_append_left _ (routed.calls id _ found)
  | post blocking i msg other result found taken =>
      rw [on_worker_addrs] at member
      exact old member
  | ctxStopWorker w result free taken =>
      rw [on_worker_addrs] at member
      exact old member
  | remote id ty val w result found taken =>
      rw [on_worker_addrs] at member
      exact old member
  | shutdown w result taken =>
      rw [on_worker_addrs] at member
      exact old member
  | ownerShutdown k expects bound result here taken =>
      rw [on_worker_addrs] at member
      exact old member
  | worker w act result free taken =>
      rw [on_worker_addrs] at member
      exact old member
  | _ => exact old member

-- The counters of ids and of serials never go back.
theorem counters_step (s next : State P n) (action : Action P n) (entries : Trace P n)
    (moves : Moves s action entries next) : s.nextId ≤ next.nextId ∧ s.nextSerial ≤ next.nextSerial := by
  cases moves with
  | spawn ty val owned => exact ⟨Nat.le_succ _, Nat.le_refl _⟩
  | ctxSpawn via ty val parent running w free ctx => exact ⟨Nat.le_succ _, Nat.le_refl _⟩
  | postFailed blocking i msg addr found failed => exact ⟨Nat.le_refl _, Nat.le_succ _⟩
  | post blocking i msg addr result found taken =>
      rw [on_worker_next_id, on_worker_next_serial]
      exact ⟨Nat.le_refl _, Nat.le_succ _⟩
  | ctxStopWorker w result free taken => simp
  | remote id ty val w result found taken =>
      rw [on_worker_next_id, on_worker_next_serial]
      exact ⟨Nat.le_refl _, Nat.le_refl _⟩
  | direct id via ty val w result found taken =>
      rw [on_worker_next_id, on_worker_next_serial]
      exact ⟨Nat.le_refl _, Nat.le_refl _⟩
  | shutdown w result taken => simp
  | ownerShutdown k expects bound result here taken => simp
  | worker w act result free taken => simp
  | _ => exact ⟨Nat.le_refl _, Nat.le_refl _⟩

theorem accepts_nothing (old : Worker P n) (v w : Fin n) (act : Worker.Act P) (result : Worker.Outcome P n)
    (taken : old.step act = some result) (other : ∀ envelope, act ≠ .post envelope) (envelope : Message P) :
    envelope ∉ (Trace.worker w (result.2.map (Entry.at v))).accepted := by
  intro member
  by_cases same : w = v
  · rw [same, Trace.worker_same] at member
    exact other envelope (Worker.accepted_inv (Worker.step_moves _ _ _ _ taken) envelope ((Log.mem_accepted _ _).mp member))
  · rw [Trace.worker_other w v same] at member
    cases member

-- Mail enters a channel by a send through an Addr that leads there.
theorem accepted_source (s next : State P n) (action : Action P n) (entries : Trace P n)
    (moves : Moves s action entries next) (w : Fin n) (envelope : Message P)
    (member : envelope ∈ (entries.worker w).accepted) :
    ∃ blocking i msg addr result, s.addrs[i]? = some addr ∧ addr.tx = w ∧ envelope = s.envelopeTo addr msg blocking ∧
      action = postAction blocking i msg ∧ next = ((s.beginSend addr blocking .waiting).onWorker addr.tx result).1 ∧
      result.2 = [.accepted envelope] := by
  cases moves with
  | post blocking i msg addr result found taken =>
      obtain ⟨worker, events⟩ := result
      cases Worker.step_moves _ _ _ _ taken with
      | post _ alive =>
          by_cases same : w = addr.tx
          · rw [same, Trace.worker_same] at member
            have equal := List.mem_singleton.mp member
            exact ⟨blocking, i, msg, addr, _, found, same.symm, equal, rfl, rfl, by rw [equal]⟩
          · rw [Trace.worker_other w _ same] at member
            cases member
  | ctxStopWorker v result free taken => exact absurd member (accepts_nothing _ v w _ result taken (by simp) envelope)
  | remote id ty val v result found taken => exact absurd member (accepts_nothing _ v w _ result taken (by simp) envelope)
  | direct id via ty val v result found taken =>
      exact absurd member (accepts_nothing _ v w _ result taken (by simp) envelope)
  | shutdown v result taken => exact absurd member (accepts_nothing _ v w _ result taken (by simp) envelope)
  | ownerShutdown k expects bound result here taken =>
      exact absurd member (accepts_nothing _ _ w _ result taken (by simp) envelope)
  | worker v act result free taken => exact absurd member (accepts_nothing _ v w _ result taken (by simp) envelope)
  | _ => cases member

theorem serials_step (log entries : Trace P n) (s next : State P n) (action : Action P n) (routed : Routed log s)
    (moves : Moves s action entries next) (w : Fin n) (envelope : Message P)
    (member : envelope ∈ ((log ++ entries).worker w).accepted) : envelope.dispatch.serial < next.nextSerial := by
  rw [Trace.worker_append, Log.accepted_append] at member
  rcases List.mem_append.mp member with old | new
  · exact Nat.lt_of_lt_of_le (routed.serials w envelope old) (counters_step s next action entries moves).2
  · obtain ⟨blocking, i, msg, addr, result, _, _, equal, _, after, _⟩ :=
      accepted_source s next action entries moves w envelope new
    rw [equal, after, on_worker_next_serial]
    exact Nat.lt_succ_self _

theorem apart_step (log entries : Trace P n) (s next : State P n) (action : Action P n) (routed : Routed log s)
    (moves : Moves s action entries next) (v w : Fin n) (a : Message P)
    (left : a ∈ ((log ++ entries).worker v).accepted) (b : Message P) (right : b ∈ ((log ++ entries).worker w).accepted)
    (same : a.dispatch.serial = b.dispatch.serial) : v = w := by
  have fresh (u : Fin n) (envelope : Message P) (new : envelope ∈ (entries.worker u).accepted) :
      envelope.dispatch.serial = s.nextSerial := by
    obtain ⟨blocking, i, msg, addr, result, _, _, equal, _⟩ := accepted_source s next action entries moves u envelope new
    rw [equal]
    rfl
  rw [Trace.worker_append, Log.accepted_append] at left right
  rcases List.mem_append.mp left with oldA | newA
  · rcases List.mem_append.mp right with oldB | newB
    · exact routed.apart v w a oldA b oldB same
    · have bound := routed.serials v a oldA
      rw [same, fresh w b newB] at bound
      exact absurd bound (Nat.lt_irrefl _)
  · rcases List.mem_append.mp right with oldB | newB
    · have bound := routed.serials w b oldB
      rw [← same, fresh v a newA] at bound
      exact absurd bound (Nat.lt_irrefl _)
    · cases moves_local log entries s next action routed moves with
      | quiet workers silent =>
          rw [silent] at newA
          cases newA
      | «at» u act result kept taken workers trace =>
          rw [trace] at newA newB
          have lands (x : Fin n) (envelope : Message P) (new : envelope ∈ (Trace.worker x (result.2.map (.at u))).accepted) :
              x = u := by
            by_contra other
            rw [Trace.worker_other x u other] at new
            cases new
          rw [lands v a newA, lands w b newB]

-- Calls are entered under the ids handed out for them, and none changes its worker.
theorem call_origin (s next : State P n) (action : Action P n) (entries : Trace P n)
    (moves : Moves s action entries next) (id : ActorId) (call : SpawnCall P n)
    (found : next.calls.lookup id = some call) :
    id = s.nextId ∧ next.nextId = s.nextId + 1 ∨
      ∃ before, s.calls.lookup id = some before ∧ ∀ w, before.stage.goesTo w → call.stage.goesTo w := by
  have gone (now : next.calls.lookup id = none) : False := by
    rw [found] at now
    cases now
  cases call_moves s next action entries moves id with
  | answered events answers =>
      right
      rcases answers with same | ⟨via, ty, v, before, ⟨yes, _⟩ | ⟨no, _⟩⟩
      · exact ⟨call, same ▸ found, fun _ goes => goes⟩
      · rw [found] at yes
        cases yes
        exact ⟨_, before, fun _ goes => goes⟩
      · rw [found] at no
        cases no
        exact ⟨_, before, fun _ _ => trivial⟩
  | allocated ty val fresh counter => exact Or.inl ⟨fresh, counter⟩
  | begun via ty val w parent fresh counter => exact Or.inl ⟨fresh, counter⟩
  | picked via ty val w before => exact Or.inr ⟨_, before, fun _ goes => by cases goes⟩
  | stopped via ty val w ctx before now =>
      rw [found] at now
      cases now
      exact Or.inr ⟨_, before, fun _ goes => goes⟩
  | started via ty old val w ctx before now =>
      rw [found] at now
      cases now
      exact Or.inr ⟨_, before, fun _ goes => goes⟩
  | sent ty val w before now =>
      rw [found] at now
      cases now
      exact Or.inr ⟨_, before, fun _ goes => goes⟩
  | panicked via ty val w ctx before now => exact (gone now).elim
  | unsent ty val w before now => exact (gone now).elim
  | installed via ty val w before now => exact (gone now).elim
  | returned via ty w before now => exact (gone now).elim
  | refused via ty before now => exact (gone now).elim

theorem call_bound_step (log entries : Trace P n) (s next : State P n) (action : Action P n) (routed : Routed log s)
    (moves : Moves s action entries next) (id : ActorId) (call : SpawnCall P n)
    (found : next.calls.lookup id = some call) : id < next.nextId := by
  rcases call_origin s next action entries moves id call found with ⟨same, more⟩ | ⟨before, inside, _⟩
  · rw [same, more]
    exact Nat.lt_succ_self _
  · exact Nat.lt_of_lt_of_le (routed.callBound id before inside) (counters_step s next action entries moves).1

theorem routed_step (log entries : Trace P n) (s next : State P n) (action : Action P n) (routed : Routed log s)
    (moves : Moves s action entries next) : Routed (log ++ entries) next where
  workers := local_workers log entries s next routed (moves_local log entries s next action routed moves)
  bound := by
    intro w id claimed
    refine Nat.lt_of_lt_of_le ?_ (counters_step s next action entries moves).1
    rcases (Trace.claimed_append log entries w id).mp claimed with old | new
    · exact routed.bound w id old
    · rcases claimed_step log entries s next action routed moves w id new with old | ⟨_, _, _, _, found⟩
      · exact routed.bound w id old
      · exact routed.callBound id _ found
  callBound := call_bound_step log entries s next action routed moves
  once := once_step log entries s next action routed moves
  addrs := addrs_step log entries s next action routed moves
  serials := serials_step log entries s next action routed moves
  apart := apart_step log entries s next action routed moves
  calls := calls_step log entries s next action routed moves

theorem routed_start : Routed ([] : Trace P n) (withThreads P n) where
  workers := fun w => .init _ rfl
  bound := by
    intro w id claimed
    rcases claimed with known | sent
    · cases known
    · cases sent
  callBound := by simp [withThreads]
  once := by
    intro v w id claimed
    rcases claimed with known | sent
    · cases known
    · cases sent
  addrs := by simp [withThreads]
  serials := by simp [Log.accepted]
  apart := by simp [Log.accepted]
  calls := by simp [withThreads]

end State

theorem reach_routed (rely : Machine.Rely (State P n) (Action P n) (Entry P n)) (log : Trace P n) (s : State P n)
    (reached : (runtime P n).Reach rely log s) : State.Routed log s :=
  Machine.reach_invariant (runtime P n) rely State.Routed
    (fun s start => by rw [start]; exact State.routed_start)
    (fun log s action next entries _ routed _ taken =>
      State.routed_step log entries s next action routed (State.step_moves s next action entries taken)) log s reached

theorem reach_worker (rely : Machine.Rely (State P n) (Action P n) (Entry P n)) (log : Trace P n) (s : State P n)
    (reached : (runtime P n).Reach rely log s) (w : Fin n) : Worker.Sound (log.worker w) (s.workers w) :=
  Worker.reach_sound w _ _ ((reach_routed rely log s reached).workers w)

-- A run of the runtime is a run of each of its workers.
theorem runs_worker (log later : Trace P n) (s next : State P n) (routed : State.Routed log s)
    (run : (runtime P n).Runs Machine.free log s later next) (w : Fin n) :
    (Worker.machine P w).Runs Worker.promised (log.worker w) (s.workers w) (later.worker w) (next.workers w) ∧
      State.Routed later next := by
  induction run with
  | refl => exact ⟨.refl, routed⟩
  | step later mid next action entries _ _ taken ih =>
      obtain ⟨before, between⟩ := ih
      have moves := State.step_moves mid next action entries taken
      refine ⟨?_, State.routed_step later entries mid next action between moves⟩
      rw [Trace.worker_append]
      rcases State.local_worker later entries mid next
        (State.moves_local later entries mid next action between moves) w with ⟨same, silent⟩ | ⟨act, kept, stepped⟩
      · rw [same, silent, List.append_nil]
        exact before
      · exact .step _ _ _ act _ before kept stepped

end Actinium
