import Actinium.Conservation

set_option autoImplicit false

namespace Actinium

variable {P : Program} {n : Nat}

namespace Worker

-- The spawn is in the control queue, or the worker is about to confirm it.
def Hears (w : Worker P n) (id : ActorId) : Prop := id ∈ spawnIds w.controlRx.queue ∨ w.phase = .confirming id

-- A worker hears a spawn until it answers.
theorem hears_step (w next : Worker P n) (act : Act P) (events : Log P) (moves : Moves w act events next) (id : ActorId)
    (hears : w.Hears id) : next.Hears id ∨ .confirmed id ∈ events ∨ .refused id ∈ events := by
  have keep (queue : next.controlRx.queue = w.controlRx.queue) (calm : ∀ other, w.phase ≠ .confirming other) :
      next.Hears id := by
    rcases hears with queued | confirming
    · exact Or.inl (queue ▸ queued)
    · exact absurd confirming (calm id)
  cases moves with
  | post envelope alive => exact Or.inl hears
  | postControl msg alive =>
      rcases hears with queued | confirming
      · refine Or.inl (Or.inl ?_)
        change id ∈ spawnIds (w.controlRx.queue ++ [msg])
        rw [spawn_ids_append]
        exact List.mem_append_left _ queued
      · exact Or.inl (Or.inr confirming)
  | direct other actor onStop => exact Or.inl hears
  | pollSpawn senders other actor onStop rest here queue =>
      rcases hears with queued | confirming
      · rw [queue, spawnIds, List.mem_cons] at queued
        rcases queued with rfl | later
        · exact Or.inl (Or.inr rfl)
        · exact Or.inl (Or.inl later)
      · rw [here] at confirming
        cases confirming
  | pollShutdown senders rest here queue =>
      rcases hears with queued | confirming
      · rw [queue, spawnIds] at queued
        exact Or.inl (Or.inl queued)
      · rw [here] at confirming
        cases confirming
  | confirm senders other here =>
      rcases hears with queued | confirming
      · exact Or.inl (Or.inl queued)
      · rw [here] at confirming
        cases confirming
        exact Or.inr (Or.inl (by simp))
  | dropControl senders panicked here =>
      rcases hears with queued | confirming
      · exact Or.inr (Or.inr ((mem_refusals _ _).mpr ⟨id, queued, rfl⟩))
      · rw [here] at confirming
        cases confirming
  | hookReturn senders other cell ctx after here typed =>
      exact Or.inl (keep (by cases after <;> rfl) (by simp [here]))
  | hookSkip senders other cell ctx after here untyped =>
      exact Or.inl (keep (by cases after <;> rfl) (by simp [here]))
  | _ => exact Or.inl (keep rfl (by simp [*]))

theorem sent_hears (w next : Worker P n) (act : Act P) (events : Log P) (moves : Moves w act events next) (id : ActorId)
    (ty : P.Ty) (sent : .spawnSent id ty ∈ events) : next.Hears id := by
  obtain ⟨actor, onStop, rfl, _⟩ := spawn_sent_inv moves id ty sent
  cases moves with
  | postControl _ alive =>
      left
      change id ∈ spawnIds (w.controlRx.queue ++ [.spawnActor id actor onStop])
      rw [spawn_ids_append]
      exact List.mem_append_right _ (by simp [spawnIds])

theorem hears_polling (log : Log P) (w : Worker P n) (owned : Owned log w) (id : ActorId) (hears : w.Hears id) :
    w.phase.polling = true := by
  rcases hears with queued | confirming
  · cases polling : w.phase.polling with
    | true => rfl
    | false =>
        rw [owned.noControl polling] at queued
        cases queued
  · rw [confirming]
    rfl

theorem polling_step (w next : Worker P n) (act : Act P) (events : Log P) (moves : Moves w act events next)
    (past : w.phase.polling = false) : next.phase.polling = false := by
  cases moves with
  | post => exact past
  | postControl => exact past
  | direct => exact past
  | drain => exact past
  | dropControl => rfl
  | dropMsgs => rfl
  | dropScheduler => rfl
  | _ => simp_all only [Phase.polling, Bool.true_eq_false]

-- A spawn that is refused was in the queue with which the worker ended, so the
-- worker never had the actor and never gets it.
def Turned (log : Log P) (w : Worker P n) (id : ActorId) : Prop :=
  id ∈ log.spawnsSent ∧ id ∉ log.known ∧ w.phase.polling = false

theorem turned_step (log events : Log P) (w next : Worker P n) (act : Act P) (owned : Owned log w) (id : ActorId)
    (turned : Turned log w id) (kept : promised log w act) (moves : Moves w act events next) :
    Turned (log ++ events) next id := by
  obtain ⟨sent, unknown, past⟩ := turned
  refine ⟨by simp [sent], ?_, polling_step w next act events moves past⟩
  rw [Log.known_append, List.mem_append]
  rintro (old | new)
  · exact unknown old
  · obtain ⟨ty, installed⟩ := installed_of_known events id new
    rcases installed_inv moves id ty ((Log.mem_installed _ _ _).mp installed) with
      ⟨actor, onStop, queued, _⟩ | ⟨actor, onStop, rfl, _⟩
    · rw [owned.noControl past] at queued
      cases queued
    · exact kept.2.2 sent

theorem turned_refused (log events : Log P) (w next : Worker P n) (act : Act P) (waiting : Waiting log w) (id : ActorId)
    (moves : Moves w act events next) (refused : .refused id ∈ events) : Turned (log ++ events) next id := by
  cases moves with
  | dropControl senders panicked here =>
      obtain ⟨other, queued, same⟩ := (mem_refusals _ _).mp refused
      cases same
      obtain ⟨actor, onStop, inside⟩ := spawn_ids_mem _ id queued
      obtain ⟨_, sent, unknown⟩ := waiting.queued id actor onStop inside
      refine ⟨by simp [sent], ?_, rfl⟩
      simpa [Log.known, Log.installed, Log.filter_map_refusals Event.installs fun _ => rfl] using unknown
  | postControl msg alive => cases msg <;> simp [controlEvent] at refused
  | _ => simp [mem_begin_stop] at refused

theorem reach_turned (workerIdx : Fin n) (log : Log P) (w : Worker P n) (reached : Reach workerIdx log w) (id : ActorId)
    (refused : .refused id ∈ log) : Turned log w id := by
  refine Machine.reach_invariant (machine P workerIdx) promised (fun log w => .refused id ∈ log → Turned log w id)
    (by simp) ?_ log w reached refused
  intro log w act next events before turned kept taken member
  have sound := reach_sound workerIdx log w before
  have moves := step_moves w next act events taken
  rcases List.mem_append.mp member with old | new
  · exact turned_step log events w next act sound.owned id (turned old) kept moves
  · exact turned_refused log events w next act sound.waiting id moves new

end Worker

namespace State

-- Only the worker that a spawn was sent to answers it.
theorem confirming_step (log entries : Trace P n) (s next : State P n) (action : Action P n) (routed : Routed log s)
    (moves : Moves s action entries next) (id : ActorId) (via : Option (Caller n)) (ty : P.Ty) (v : Fin n)
    (before : s.calls.lookup id = some ⟨via, ty, .confirming v⟩) :
    next.calls.lookup id = some ⟨via, ty, .confirming v⟩ ∨
      (∃ act, action = .worker v act) ∧
        (next.calls.lookup id = some ⟨via, ty, .confirmed v⟩ ∧ .confirmed id ∈ entries.worker v ∨
          next.calls.lookup id = some ⟨via, ty, .refused⟩ ∧ .refused id ∈ entries.worker v) := by
  have sent := (routed.calls id _ before).1
  have bound := routed.callBound id _ before
  have still (other : ActorId) (call : SpawnCall P n) (found : s.calls.lookup other = some call)
      (stage : call.stage ≠ .confirming v) : id ≠ other := by
    rintro rfl
    rw [before] at found
    cases found
    exact stage rfl
  cases moves with
  | worker w act result free taken =>
      have moved := Worker.step_moves _ _ _ _ taken
      have sound := Worker.reach_sound w _ _ (routed.workers w)
      rcases on_worker_answers s w result id with same | ⟨via', ty', w', found, answer⟩
      · exact Or.inl (same.trans before)
      · rw [before] at found
        cases found
        have own : w = v := by
          refine routed.once w v id ?_ (Or.inr sent)
          rcases answer with ⟨_, yes⟩ | ⟨_, no⟩
          · exact Or.inl (sound.owned.confirming id (Worker.confirmed_inv moved id yes).1)
          · obtain ⟨actor, onStop, queued⟩ := Worker.spawn_ids_mem _ id (Worker.refused_inv moved id no).1
            exact Or.inr (sound.waiting.queued id actor onStop queued).2.1
        subst own
        rw [Trace.worker_same]
        exact Or.inr ⟨⟨act, rfl⟩, answer⟩
  | spawn ty' val owned =>
      left
      rw [lookup_set, if_neg (Nat.ne_of_lt bound)]
      exact before
  | ctxSpawn via' ty' val parent running w free ctx =>
      left
      rw [lookup_set, if_neg (Nat.ne_of_lt bound)]
      exact before
  | spawnPick other via' ty' val w found =>
      left
      rw [lookup_set, if_neg (still other _ found (by simp))]
      exact before
  | ctxStopStarted other via' ty' val w ctx free found =>
      left
      rw [lookup_set, if_neg (still other _ found (by simp))]
      exact before
  | startedReturn other via' ty' old val w ctx free found =>
      left
      rw [lookup_set, if_neg (still other _ found (by simp))]
      exact before
  | startedPanic other via' ty' val w ctx free found =>
      left
      rw [lookup_end, if_neg (still other _ found (by simp))]
      exact before
  | remoteFailed other ty' val w found failed =>
      left
      rw [lookup_end, if_neg (still other _ found (by simp))]
      exact before
  | remote other ty' val w result found taken =>
      left
      rw [calls_unanswered _ _ w _ result taken (by simp), lookup_set, if_neg (still other _ found (by simp))]
      exact before
  | direct other via' ty' val w result found taken =>
      left
      rw [calls_unanswered _ _ w _ result taken (by simp), returnAddr]
      exact (lookup_end s other id).trans ((if_neg (still other _ found (by simp))).trans before)
  | spawnReturn other via' ty' w found =>
      left
      exact (lookup_end s other id).trans ((if_neg (still other _ found (by simp))).trans before)
  | spawnRefused other via' ty' found =>
      left
      rw [lookup_end, if_neg (still other _ found (by simp))]
      exact before
  | post blocking i msg addr result found taken =>
      exact Or.inl ((calls_unanswered _ _ addr.tx _ result taken (by simp) id).trans before)
  | ctxStopWorker w result free taken => exact Or.inl ((calls_unanswered _ _ w _ result taken (by simp) id).trans before)
  | shutdown w result taken => exact Or.inl ((calls_unanswered _ _ w _ result taken (by simp) id).trans before)
  | ownerShutdown k expects inside result here taken =>
      exact Or.inl ((calls_unanswered _ _ ⟨k, inside⟩ _ result taken (by simp) id).trans before)
  | _ => exact Or.inl before

def Undecided (call : Option (SpawnCall P n)) : Prop := ∃ via ty w, call = some ⟨via, ty, .confirming w⟩

theorem answers_decided (id : ActorId) (events : Log P) (before after : Option (SpawnCall P n))
    (answers : Answers id events before after) (decided : ¬ Undecided before) : ¬ Undecided after := by
  rcases answers with same | ⟨via, ty, w, asking, _⟩
  · exact same ▸ decided
  · exact absurd ⟨via, ty, w, asking⟩ decided

theorem settle_spawn_decides (s : State P n) (id : ActorId) (yes : Bool) :
    ¬ Undecided ((s.settleSpawn id yes).calls.lookup id) := by
  rintro ⟨via, ty, w, found⟩
  unfold settleSpawn at found
  split at found
  · rw [lookup_set, if_pos rfl] at found
    cases yes <;> cases found
  · rename_i other
    exact other via ty w found

-- The answer reaches the caller: the call waits no more.
theorem deliver_all_decides (s : State P n) (id : ActorId) (events : Log P)
    (answer : .confirmed id ∈ events ∨ .refused id ∈ events) : ¬ Undecided ((events.foldl deliver s).calls.lookup id) := by
  induction events generalizing s with
  | nil => simp at answer
  | cons head tail ih =>
      have rest (decided : ¬ Undecided ((s.deliver head).calls.lookup id)) :
          ¬ Undecided ((tail.foldl deliver (s.deliver head)).calls.lookup id) :=
        answers_decided id tail _ _ (deliver_all_answers _ id tail) decided
      rw [List.foldl_cons]
      rcases answer with yes | no
      · rcases List.mem_cons.mp yes with rfl | later
        · exact rest (settle_spawn_decides s id true)
        · exact ih _ (Or.inl later)
      · rcases List.mem_cons.mp no with rfl | later
        · exact rest (settle_spawn_decides s id false)
        · exact ih _ (Or.inr later)

-- What a spawn call waits for is on its way, and a refusal was the worker's.
structure Heard (log : Trace P n) (s : State P n) : Prop where
  waiting : ∀ id via ty v, s.calls.lookup id = some ⟨via, ty, .confirming v⟩ → (s.workers v).Hears id
  refused : ∀ id via ty, s.calls.lookup id = some ⟨via, ty, .refused⟩ → ∃ v, .refused id ∈ log.worker v

theorem worker_inv (s next : State P n) (w : Fin n) (act : Worker.Own P) (entries : Trace P n)
    (moves : Moves s (.worker w act) entries next) :
    ∃ result, next = (s.onWorker w result).1 ∧ entries = result.2.map (.at w) := by
  generalize same : Action.worker w act = action at moves
  cases moves with
  | worker v other result free taken =>
      cases same
      exact ⟨result, rfl, rfl⟩
  | post blocking => cases blocking <;> cases same
  | postFailed blocking => cases blocking <;> cases same
  | _ => cases same

-- A call comes to wait when the spawn is sent, and to its refusal when it waits.
theorem call_stage (s next : State P n) (id : ActorId) (entries : Trace P n)
    (moves : CallMoves s next id entries) (call : SpawnCall P n) (after : next.calls.lookup id = some call) :
    (∀ v, call.stage = .confirming v →
      s.calls.lookup id = some call ∨ entries = [.at v (.spawnSent id call.ty)]) ∧
    (call.stage = .refused →
      s.calls.lookup id = some call ∨ ∃ v, s.calls.lookup id = some ⟨call.via, call.ty, .confirming v⟩) := by
  cases moves with
  | answered events answers =>
      rcases answers with kept | ⟨via, ty, w, before, ⟨now, _⟩ | ⟨now, _⟩⟩
      · exact ⟨fun _ _ => Or.inl (kept ▸ after), fun _ => Or.inl (kept ▸ after)⟩
      · rw [after] at now
        cases now
        simp
      · rw [after] at now
        cases now
        simp [before]
  | sent ty val w before now trace =>
      rw [after] at now
      cases now
      simp [trace]
  | _ => grind

theorem waiting_step (log entries : Trace P n) (s next : State P n) (action : Action P n) (routed : Routed log s)
    (heard : Heard log s) (moves : Moves s action entries next) (id : ActorId) (via : Option (Caller n)) (ty : P.Ty)
    (v : Fin n) (after : next.calls.lookup id = some ⟨via, ty, .confirming v⟩) : (next.workers v).Hears id := by
  have source := worker_source log entries s next action routed moves v
  rcases (call_stage s next id entries (call_moves s next action entries moves id) _ after).1 v rfl with before | trace
  · have hears := heard.waiting id via ty v before
    rcases source with ⟨workers, _⟩ | ⟨act, source, _, taken⟩
    · rw [workers]
      exact hears
    · have stepped := Worker.step_moves _ _ act _ taken
      rcases Worker.hears_step _ _ act _ stepped id hears with still | answer
      · exact still
      · -- the worker answers in a step of its own, and then the call waits no more
        have own : ∃ own, action = .worker v own := by
          rcases answer with yes | no
          · obtain ⟨_, senders, rfl⟩ := Worker.confirmed_inv stepped id yes
            exact ⟨_, source.1⟩
          · obtain ⟨_, senders, rfl⟩ := Worker.refused_inv stepped id no
            exact ⟨_, source.1⟩
        obtain ⟨own, rfl⟩ := own
        obtain ⟨result, rfl, rfl⟩ := worker_inv s next v own entries moves
        rw [Trace.worker_same] at answer
        exact absurd ⟨via, ty, v, after⟩ (deliver_all_decides _ id result.2 answer)
  · have here : entries.worker v = [.spawnSent id ty] := by simp [trace, Trace.worker, Entry.view]
    rcases source with ⟨_, silent⟩ | ⟨act, _, _, taken⟩
    · rw [here] at silent
      cases silent
    · exact Worker.sent_hears _ _ act _ (Worker.step_moves _ _ act _ taken) id ty (by simp [here])

theorem heard_step (log entries : Trace P n) (s next : State P n) (action : Action P n) (routed : Routed log s)
    (heard : Heard log s) (moves : Moves s action entries next) : Heard (log ++ entries) next where
  waiting := waiting_step log entries s next action routed heard moves
  refused := by
    intro id via ty after
    simp only [Trace.worker_append, List.mem_append]
    rcases (call_stage s next id entries (call_moves s next action entries moves id) _ after).2 rfl with before | ⟨v, before⟩
    · obtain ⟨v, member⟩ := heard.refused id via ty before
      exact ⟨v, Or.inl member⟩
    · rcases confirming_step log entries s next action routed moves id via ty v before with
        still | ⟨_, ⟨yes, _⟩ | ⟨_, member⟩⟩
      · rw [after] at still
        cases still
      · rw [after] at yes
        cases yes
      · exact ⟨v, Or.inr member⟩

theorem heard_start : Heard ([] : Trace P n) (withThreads P n) where
  waiting := by simp [withThreads]
  refused := by simp [withThreads]

-- An actor whose spawn call has ended without handing it over is in nobody's hands.
def Lost (log : Trace P n) (s : State P n) (id : ActorId) : Prop :=
  Unclaimed log id ∧ s.calls.lookup id = none ∧ id < s.nextId

theorem lost_step (log entries : Trace P n) (s next : State P n) (action : Action P n) (routed : Routed log s)
    (moves : Moves s action entries next) (id : ActorId) (lost : Lost log s id) : Lost (log ++ entries) next id := by
  obtain ⟨unclaimed, ended, old⟩ := lost
  refine ⟨?_, ?_, Nat.lt_of_lt_of_le old (counters_step s next action entries moves).1⟩
  · intro w claimed
    rcases (Trace.claimed_append log entries w id).mp claimed with before | now
    · exact unclaimed w before
    · rcases claimed_step log entries s next action routed moves w id now with before | ⟨_, _, _, _, found⟩
      · exact unclaimed w before
      · rw [ended] at found
        cases found
  · cases after : next.calls.lookup id with
    | none => rfl
    | some call =>
        rcases call_origin s next action entries moves id call after with ⟨fresh, _⟩ | ⟨before, found, _⟩
        · exact absurd old (by rw [fresh]; exact Nat.lt_irrefl _)
        · rw [ended] at found
          cases found

theorem lost_begins (log entries : Trace P n) (s next : State P n) (action : Action P n) (routed : Routed log s)
    (moves : Moves s action entries next) (id : ActorId)
    (failed : .startPanicked id ∈ entries ∨ ∃ w, .unsent id w ∈ entries) : Lost (log ++ entries) next id := by
  have frame (call : SpawnCall P n) (before : s.calls.lookup id = some call) (unclaimed : Unclaimed log id)
      (silent : ∀ w, entries.worker w = []) (now : next.calls.lookup id = none) : Lost (log ++ entries) next id := by
    refine ⟨?_, now, Nat.lt_of_lt_of_le (routed.callBound id call before) (counters_step s next action entries moves).1⟩
    intro w claimed
    rw [Trace.Claimed, Trace.worker_append, silent w, List.append_nil] at claimed
    exact unclaimed w claimed
  cases call_moves s next action entries moves id with
  | answered events answers starting started panicked unsent =>
      rcases failed with threw | ⟨w, refused⟩
      · exact absurd threw panicked
      · exact absurd refused (unsent w)
  | panicked via ty val w ctx before now trace =>
      exact frame _ before (routed.calls id _ before).1 (fun v => by rw [trace]; rfl) now
  | unsent ty val w before now trace =>
      exact frame _ before (routed.calls id _ before) (fun v => by rw [trace]; rfl) now
  | _ => simp_all

theorem reach_heard (rely : Machine.Rely (State P n) (Action P n) (Entry P n)) (log : Trace P n) (s : State P n)
    (reached : (runtime P n).Reach rely log s) : Heard log s := by
  refine Machine.reach_invariant (runtime P n) rely Heard ?_ ?_ log s reached
  · intro s start
    rw [start]
    exact heard_start
  · intro log s action next entries before heard _ taken
    exact heard_step log entries s next action (reach_routed rely log s before) heard (step_moves s next action entries taken)

theorem reach_lost (rely : Machine.Rely (State P n) (Action P n) (Entry P n)) (log : Trace P n) (s : State P n)
    (reached : (runtime P n).Reach rely log s) (id : ActorId)
    (failed : .startPanicked id ∈ log ∨ ∃ w, .unsent id w ∈ log) : Lost log s id := by
  refine Machine.reach_invariant (runtime P n) rely
    (fun log s => (.startPanicked id ∈ log ∨ ∃ w, .unsent id w ∈ log) → Lost log s id) (by simp) ?_ log s reached failed
  intro log s action next entries before held _ taken failed
  have routed := reach_routed rely log s before
  have moves := step_moves s next action entries taken
  simp only [List.mem_append, exists_or] at failed
  rcases failed with (old | new) | (old | new)
  · exact lost_step log entries s next action routed moves id (held (Or.inl old))
  · exact lost_begins log entries s next action routed moves id (Or.inl new)
  · exact lost_step log entries s next action routed moves id (held (Or.inr old))
  · exact lost_begins log entries s next action routed moves id (Or.inr new)

end State

theorem installed_claimed (log : Trace P n) (w : Fin n) (id : ActorId) (ty : P.Ty)
    (installed : .at w (.installed id ty) ∈ log) : log.Claimed w id :=
  Or.inl (Worker.known_of_installed _ id ty ((Log.mem_installed _ _ _).mpr ((Trace.mem_worker w _ log).mpr installed)))

-- The spawn of this actor has failed, for one of three reasons.
def Trace.Failed (log : Trace P n) (id : ActorId) : Prop :=
  (∃ v, .at v (.refused id) ∈ log) ∨ .startPanicked id ∈ log ∨ ∃ w, .unsent id w ∈ log

theorem failed_uninstalled (log : Trace P n) (s : State P n) (reached : (runtime P n).Reach Machine.free log s)
    (id : ActorId) (failed : log.Failed id) (w : Fin n) (ty : P.Ty) : .at w (.installed id ty) ∉ log := by
  intro installed
  have routed := reach_routed _ log s reached
  have claimed := installed_claimed log w id ty installed
  rcases failed with ⟨v, refused⟩ | ended
  · have turned := Worker.reach_turned v _ _ (routed.workers v) id ((Trace.mem_worker v _ log).mpr refused)
    obtain rfl := routed.once w v id claimed (Or.inr turned.1)
    exact turned.2.1 (Worker.known_of_installed _ id ty ((Log.mem_installed _ _ _).mpr ((Trace.mem_worker w _ log).mpr installed)))
  · exact (State.reach_lost _ log s reached id ended).1 w claimed

-- A worker that a spawn call waits for has the spawn before it and has not
-- dropped its control channel. A spawn that has failed stays failed: the actor
-- is never given to a worker and no Addr ever leads to it.
theorem spawn_outcome (log : Trace P n) (s : State P n) (reached : (runtime P n).Reach Machine.free log s) (id : ActorId) :
    (∀ via ty v, s.calls.lookup id = some ⟨via, ty, .confirming v⟩ →
      (s.workers v).Hears id ∧ (s.workers v).phase.polling = true) ∧
    (∀ via ty v, s.calls.lookup id = some ⟨via, ty, .confirmed v⟩ → .at v (.installed id ty) ∈ log) ∧
    (∀ via ty, s.calls.lookup id = some ⟨via, ty, .refused⟩ → ∃ v, .at v (.refused id) ∈ log) ∧
    (log.Failed id → ∀ later next, (runtime P n).Runs Machine.free log s later next →
      (∀ w ty, .at w (.installed id ty) ∉ later) ∧ ∀ addr ∈ next.addrs, addr.actorId ≠ id) := by
  have routed := reach_routed _ log s reached
  have heard := State.reach_heard _ log s reached
  refine ⟨?_, ?_, ?_, ?_⟩
  · intro via ty v found
    have hears := heard.waiting id via ty v found
    exact ⟨hears, Worker.hears_polling _ _ (reach_worker _ log s reached v).owned id hears⟩
  · intro via ty v found
    exact (Trace.mem_worker v _ log).mp ((Log.mem_installed _ _ _).mp (routed.calls id _ found))
  · intro via ty found
    obtain ⟨v, member⟩ := heard.refused id via ty found
    exact ⟨v, (Trace.mem_worker v _ log).mp member⟩
  · intro failed later next run
    have ends := Machine.reach_runs _ _ log later s next reached run
    obtain ⟨rest, rfl⟩ := Machine.runs_log _ _ log later s next run
    have still : Trace.Failed (log ++ rest) id := by
      rcases failed with ⟨v, refused⟩ | panicked | ⟨w, unsent⟩
      · exact Or.inl ⟨v, List.mem_append_left _ refused⟩
      · exact Or.inr (Or.inl (List.mem_append_left _ panicked))
      · exact Or.inr (Or.inr ⟨w, List.mem_append_left _ unsent⟩)
    have never := failed_uninstalled _ next ends id still
    refine ⟨never, ?_⟩
    intro addr member same
    have installed := (reach_routed _ _ next ends).addrs addr member
    rw [same] at installed
    exact never addr.tx addr.ty ((Trace.mem_worker _ _ _).mp ((Log.mem_installed _ _ _).mp installed))

-- The spawn reaches a worker that has taken its Shutdown.
def spawnLate : List (Action numbers 1) :=
  [.shutdown 0, .worker 0 .pollControl, .spawn () 0, .spawnPick 1, .startedReturn 1 0, .handOver 1,
    .worker 0 (.takeSnapshot []), .worker 0 .stopNext, .worker 0 .exit]

def spawnLateLog : Trace numbers 1 :=
  [.at 0 .shutdownSent, .at 0 .tookShutdown, .starting 1 0 none, .started 1, .at 0 (.spawnSent 1 ()), .at 0 (.snapshot []),
    .at 0 (.refused 1)]

theorem spawn_outcome_refused : ∃ s : State numbers 1, (runtime numbers 1).Reach Machine.free spawnLateLog s ∧
    ∀ later next, (runtime numbers 1).Runs Machine.free spawnLateLog s later next →
      (∀ w ty, .at w (.installed 1 ty) ∉ later) ∧ ∀ addr ∈ next.addrs, addr.actorId ≠ 1 := by
  have reached := Machine.run_reach (runtime numbers 1) spawnLateLog _ _ spawnLate rfl rfl
  exact ⟨_, reached, (spawn_outcome _ _ reached 1).2.2.2 (Or.inl ⟨0, by simp [spawnLateLog]⟩)⟩

end Actinium
