import Actinium.Conservation

set_option autoImplicit false

namespace Actinium

variable {P : Program} {n : Nat}

namespace State

-- Whatever is known of the actor, it is on this worker.
structure Home (log : Trace P n) (s : State P n) (id : ActorId) (w : Fin n) : Prop where
  bound : id < s.nextId
  claimed : ∀ v, log.Claimed v id → v = w
  call : ∀ call, s.calls.lookup id = some call → call.stage.goesTo w

theorem home_step (log entries : Trace P n) (s next : State P n) (action : Action P n) (routed : Routed log s)
    (moves : Moves s action entries next) (id : ActorId) (w : Fin n) (home : Home log s id w) :
    Home (log ++ entries) next id w := by
  refine ⟨?_, ?_, ?_⟩
  · exact Nat.lt_of_lt_of_le home.bound (counters_step s next action entries moves).1
  · intro v claimed
    rcases (Trace.claimed_append log entries v id).mp claimed with old | new
    · exact home.claimed v old
    · rcases claimed_step log entries s next action routed moves v id new with old | ⟨_, via, ty, val, found⟩
      · exact home.claimed v old
      · exact Option.some.inj (home.call _ found)
  · intro call found
    rcases call_origin s next action entries moves id call found with ⟨same, _⟩ | ⟨before, inside, goes⟩
    · exact absurd home.bound (same ▸ Nat.lt_irrefl _)
    · exact goes w (home.call before inside)

-- An actor that was given to a worker is at home there.
theorem home_of_claimed (log : Trace P n) (s : State P n) (routed : Routed log s) (id : ActorId) (w : Fin n)
    (claimed : log.Claimed w id) : Home log s id w := by
  refine ⟨routed.bound w id claimed, fun v other => routed.once v w id other claimed, ?_⟩
  intro call found
  have expected := routed.calls id call found
  obtain ⟨via, ty, stage⟩ := call
  cases stage with
  | allocated val => exact absurd claimed (expected w)
  | starting val v ctx => exact absurd claimed (expected.1 w)
  | started val v => exact absurd claimed (expected w)
  | confirming v => exact congrArg some (routed.once v w id (Or.inr expected.1) claimed)
  | confirmed v =>
      exact congrArg some (routed.once v w id (Or.inl (Worker.known_of_installed _ _ _ expected)) claimed)
  | refused => trivial

-- The Context of a callback is that of an actor at home on the worker it names.
theorem home_of_ctx (log : Trace P n) (s : State P n) (routed : Routed log s) (via : Caller n) (parent : ActorId)
    (running : Bool) (w : Fin n) (ctx : s.callbackCtx via = some ⟨parent, running, some w⟩) : Home log s parent w := by
  cases via with
  | worker v =>
      have sound := Worker.reach_sound v _ _ (routed.workers v)
      have own := Worker.reach_index v _ _ (routed.workers v)
      simp only [callbackCtx] at ctx
      split at ctx
      · rename_i turn envelope cell held here
        cases ctx
        obtain ⟨same, _, actor, spawner⟩ := sound.served.handling turn envelope cell _ here
        rw [own] at spawner
        cases spawner
        change parent = turn at actor
        rw [actor, ← same]
        refine home_of_claimed log s routed _ w (Or.inl ?_)
        exact Worker.known_of_installed _ _ _ (sound.placed.taken envelope.actorId cell (by rw [here]; rfl)).1
      · rename_i id cell held after here
        obtain ⟨_, _, same⟩ := Option.map_eq_some_iff.mp ctx
        subst same
        obtain ⟨actor, spawner, _⟩ := sound.served.stopping id cell _ after here
        rw [own] at spawner
        cases spawner
        change parent = id at actor
        rw [actor]
        exact home_of_claimed log s routed id w
          (Or.inl (sound.placed.gone id (sound.placed.stopping id cell _ after here).1))
      · cases ctx
  | started id =>
      simp only [callbackCtx] at ctx
      split at ctx
      · rename_i via ty val v held found
        cases ctx
        obtain ⟨unclaimed, actor, spawner⟩ := routed.calls id _ found
        cases spawner
        change parent = id at actor
        rw [actor]
        refine ⟨routed.callBound id _ found, fun u claimed => absurd claimed (unclaimed u), ?_⟩
        intro call again
        rw [found] at again
        cases again
        rfl
      · cases ctx

-- The started hook of an actor runs for the worker the actor is given to, and
-- a child goes to the worker of its parent.
def Homes (log : Trace P n) (s : State P n) : Prop :=
  ∀ child w parent, .starting child w parent ∈ log →
    Home log s child w ∧ ∀ id, parent = some id → Home log s id w

theorem no_starting (w : Fin n) (events : Log P) (child : ActorId) (v : Fin n) (parent : Option ActorId) :
    .starting child v parent ∉ events.map (Entry.at w) := by
  simp

theorem homes_step (log entries : Trace P n) (s next : State P n) (action : Action P n) (routed : Routed log s)
    (homes : Homes log s) (moves : Moves s action entries next) : Homes (log ++ entries) next := by
  intro child w parent member
  have step (id : ActorId) (home : Home log s id w) := home_step log entries s next action routed moves id w home
  rcases List.mem_append.mp member with old | new
  · obtain ⟨own, others⟩ := homes child w parent old
    exact ⟨step child own, fun id same => step id (others id same)⟩
  · have claimless (v : Fin n) (unclaimed : Unclaimed log child) (notStarted : ∀ via ty val,
        s.calls.lookup child ≠ some ⟨via, ty, .started val v⟩) : ¬ (log ++ entries).Claimed v child := by
      intro claimed
      rcases (Trace.claimed_append log entries v child).mp claimed with before | now
      · exact unclaimed v before
      · rcases claimed_step log entries s next action routed moves v child now with before | ⟨_, via, ty, val, found⟩
        · exact unclaimed v before
        · exact notStarted via ty val found
    have bound := (counters_step s next action entries moves).1
    cases moves with
    | spawnPick id via ty val v found =>
        cases List.mem_singleton.mp new
        refine ⟨⟨Nat.lt_of_lt_of_le (routed.callBound _ _ found) bound, ?_, ?_⟩, by simp⟩
        · intro u claimed
          exact absurd claimed (claimless u (routed.calls _ _ found) (by simp [found]))
        · intro call inside
          rw [lookup_set, if_pos rfl] at inside
          cases inside
          rfl
    | ctxSpawn via ty val id running v free ctx =>
        cases List.mem_singleton.mp new
        refine ⟨⟨Nat.lt_succ_self _, ?_, ?_⟩, ?_⟩
        · intro u claimed
          refine absurd claimed (claimless u ?_ ?_)
          · intro x before
            exact absurd (routed.bound x _ before) (Nat.lt_irrefl _)
          · intro via ty val inside
            exact absurd (routed.callBound _ _ inside) (Nat.lt_irrefl _)
        · intro call inside
          rw [lookup_set, if_pos rfl] at inside
          cases inside
          rfl
        · intro other same
          cases same
          exact step id (home_of_ctx log s routed via id running w ctx)
    | post => exact absurd new (no_starting _ _ _ _ _)
    | ctxStopWorker => exact absurd new (no_starting _ _ _ _ _)
    | remote => exact absurd new (no_starting _ _ _ _ _)
    | direct => exact absurd new (no_starting _ _ _ _ _)
    | shutdown => exact absurd new (no_starting _ _ _ _ _)
    | ownerShutdown => exact absurd new (no_starting _ _ _ _ _)
    | worker => exact absurd new (no_starting _ _ _ _ _)
    | _ => simp at new

end State

theorem reach_homes (rely : Machine.Rely (State P n) (Action P n) (Entry P n)) (log : Trace P n) (s : State P n)
    (reached : (runtime P n).Reach rely log s) : State.Homes log s :=
  Machine.reach_invariant (runtime P n) rely State.Homes (fun s _ child w parent member => by cases member)
    (fun log s action next entries before homes _ taken =>
      State.homes_step log entries s next action (reach_routed rely log s before) homes
        (State.step_moves s next action entries taken)) log s reached

-- Where an actor can be.
inductive Place (n : Nat) where
  | control (w : Fin n)
  | map (w : Fin n)
  | dispatch (w : Fin n)
deriving DecidableEq

-- The cell a worker holds outside the map, while a callback of it runs.
def Phase.held : Phase P n → Option ActorId
  | .handling _ envelope _ _ => some envelope.actorId
  | .handled _ id _ _ => some id
  | .stopping id _ _ _ => some id
  | _ => none

def State.isAt (s : State P n) (id : ActorId) : Place n → Prop
  | .control w => id ∈ Worker.spawnIds (s.workers w).controlRx.queue
  | .map w => ∃ cell, (s.workers w).actorMap.lookup id = some cell
  | .dispatch w => (s.workers w).phase.held = some id

def Place.worker : Place n → Fin n
  | .control w => w
  | .map w => w
  | .dispatch w => w

theorem held_known (log : Log P) (w : Worker P n) (placed : Worker.Placed log w) (id : ActorId)
    (held : w.phase.held = some id) : id ∈ log.known ∧ w.actorMap.lookup id = none := by
  have stopped (gone : id ∈ log.gone) : id ∈ log.known ∧ w.actorMap.lookup id = none := by
    refine ⟨placed.gone id gone, ?_⟩
    cases found : w.actorMap.lookup id with
    | none => rfl
    | some cell => exact absurd gone (placed.mapped id cell found).2.2
  cases here : w.phase with
  | handling turn envelope cell ctx =>
      rw [here] at held
      cases held
      obtain ⟨member, _, _, absent⟩ := placed.taken envelope.actorId cell (by rw [here]; rfl)
      exact ⟨Worker.known_of_installed _ _ _ member, absent⟩
  | handled turn other cell running =>
      rw [here] at held
      cases held
      obtain ⟨member, _, _, absent⟩ := placed.taken id cell (by rw [here]; rfl)
      exact ⟨Worker.known_of_installed _ _ _ member, absent⟩
  | stopping other cell ctx after =>
      rw [here] at held
      cases held
      exact stopped (placed.stopping id cell ctx after here).1
  | _ =>
      rw [here] at held
      cases held

theorem is_at_claimed (log : Trace P n) (s : State P n) (routed : State.Routed log s) (id : ActorId) (place : Place n)
    (here : s.isAt id place) : log.Claimed place.worker id := by
  have sound := Worker.reach_sound place.worker _ _ (routed.workers place.worker)
  cases place with
  | control w =>
      obtain ⟨actor, onStop, member⟩ := Worker.spawn_ids_mem _ id here
      exact Or.inr (sound.waiting.queued id actor onStop member).2.1
  | map w =>
      obtain ⟨cell, found⟩ := here
      exact Or.inl (Worker.known_of_installed _ _ _ (sound.placed.mapped id cell found).1)
  | dispatch w => exact Or.inl (held_known _ _ sound.placed id here).1

theorem place_unique (log : Trace P n) (s : State P n) (routed : State.Routed log s) (id : ActorId) (p q : Place n)
    (here : s.isAt id p) (there : s.isAt id q) : p = q := by
  have same := routed.once _ _ id (is_at_claimed log s routed id p here) (is_at_claimed log s routed id q there)
  have sound := Worker.reach_sound p.worker _ _ (routed.workers p.worker)
  -- what waits in the control channel is not installed yet
  have waits (w : Fin n) (own : p.worker = w) (queued : s.isAt id (.control w)) : id ∉ (log.worker w).known := by
    subst own
    obtain ⟨actor, onStop, member⟩ := Worker.spawn_ids_mem _ id queued
    exact (sound.waiting.queued id actor onStop member).2.2
  have mapped (w : Fin n) (own : p.worker = w) (inside : s.isAt id (.map w)) : id ∈ (log.worker w).known := by
    subst own
    obtain ⟨cell, found⟩ := inside
    exact Worker.known_of_installed _ _ _ (sound.placed.mapped id cell found).1
  have held (w : Fin n) (own : p.worker = w) (inHand : s.isAt id (.dispatch w)) :
      id ∈ (log.worker w).known ∧ (s.workers w).actorMap.lookup id = none := by
    subst own
    exact held_known _ _ sound.placed id inHand
  cases p with
  | control v =>
      cases q with
      | control w => exact congrArg Place.control same
      | map w =>
          obtain rfl : v = w := same
          exact absurd (mapped v rfl there) (waits v rfl here)
      | dispatch w =>
          obtain rfl : v = w := same
          exact absurd (held v rfl there).1 (waits v rfl here)
  | map v =>
      cases q with
      | control w =>
          obtain rfl : v = w := same
          exact absurd (mapped v rfl here) (waits v rfl there)
      | map w => exact congrArg Place.map same
      | dispatch w =>
          obtain rfl : v = w := same
          obtain ⟨cell, found⟩ := here
          rw [(held v rfl there).2] at found
          cases found
  | dispatch v =>
      cases q with
      | control w =>
          obtain rfl : v = w := same
          exact absurd (held v rfl here).1 (waits v rfl there)
      | map w =>
          obtain rfl : v = w := same
          obtain ⟨cell, found⟩ := there
          rw [(held v rfl here).2] at found
          cases found
      | dispatch w => exact congrArg Place.dispatch same

-- An Addr leads to the worker of its actor, which stores it with the type of
-- the Addr and with the on_stop of that type.
theorem addr_leads (log : Trace P n) (s : State P n) (routed : State.Routed log s) (addr : Addr P n)
    (member : addr ∈ s.addrs) :
    (∀ v, log.Claimed v addr.actorId → v = addr.tx) ∧
      ∀ w cell, (s.workers w).actorMap.lookup addr.actorId = some cell →
        w = addr.tx ∧ cell.actor.ty = addr.ty ∧ cell.onStop = addr.ty := by
  have installed := routed.addrs addr member
  have known : log.Claimed addr.tx addr.actorId := Or.inl (Worker.known_of_installed _ _ _ installed)
  refine ⟨fun v claimed => routed.once v addr.tx _ claimed known, ?_⟩
  intro w cell found
  have same := routed.once w addr.tx _ (is_at_claimed log s routed _ (.map w) ⟨cell, found⟩) known
  subst same
  have placed := (Worker.reach_sound _ _ _ (routed.workers addr.tx)).placed
  obtain ⟨stored, own, _⟩ := placed.mapped _ cell found
  have typed := Worker.installed_unique _ _ placed _ _ _ stored installed
  exact ⟨rfl, typed, own.trans typed⟩

-- Routing and typing, in every reachable state: an actor is in one place, its
-- Addr leads there and has its type, a child is where its parent is, no cast
-- fails, and only a stopped actor is missing when its mail is dispatched.
theorem routing_and_typing (log : Trace P n) (s : State P n) (reached : (runtime P n).Reach Machine.free log s) :
    (∀ id p q, s.isAt id p → s.isAt id q → p = q) ∧
      (∀ w, (Worker.spawnIds (s.workers w).controlRx.queue).Nodup) ∧
      (∀ v w a b, .at v (.handling a) ∈ log → .at w (.handling b) ∈ log → a.actorId = b.actorId → v = w) ∧
      (∀ addr ∈ s.addrs, (∀ v, log.Claimed v addr.actorId → v = addr.tx) ∧
        ∀ w cell, (s.workers w).actorMap.lookup addr.actorId = some cell →
          w = addr.tx ∧ cell.actor.ty = addr.ty ∧ cell.onStop = addr.ty) ∧
      (∀ child w parent, .starting child w (some parent) ∈ log →
        (∀ v, log.Claimed v child → v = w) ∧ (∀ v, log.Claimed v parent → v = w) ∧
          ∀ addr ∈ s.addrs, addr.actorId = child ∨ addr.actorId = parent → addr.tx = w) ∧
      (∀ w envelope, .at w (.mismatched envelope) ∉ log) ∧
      (∀ w id, .at w (.stopSkipped id) ∉ log) ∧
      (∀ w turn popped scheduler envelope, (s.workers w).phase = .turn →
        (s.workers w).scheduler.nextReady = (some turn, popped) → popped.dequeue turn = (some envelope, scheduler) →
        (s.workers w).actorMap.lookup envelope.actorId = none →
        ∃ actor, .at w (.stopping envelope.actorId actor) ∈ log) := by
  have routed := reach_routed _ log s reached
  have sound := reach_worker _ log s reached
  refine ⟨place_unique log s routed, fun w => (sound w).waiting.once, ?_, addr_leads log s routed, ?_, ?_, ?_, ?_⟩
  · intro v w a b left right same
    have taken (u : Fin n) (envelope : Message P) (here : .at u (.handling envelope) ∈ log) :
        log.Claimed u envelope.actorId := by
      have begun := (Log.mem_begun _ _).mpr ((Trace.mem_worker u _ log).mpr here)
      have front := ((sound u).mail.front envelope.actorId).subset ((Keyed.mem_select _ _ _ _).mpr ⟨begun, rfl⟩)
      exact accepted_claimed log s routed u envelope ((Keyed.mem_select _ _ _ _).mp front).1
    exact routed.once v w _ (taken v a left) (same ▸ taken w b right)
  · intro child w parent started
    obtain ⟨own, others⟩ := reach_homes _ log s reached child w (some parent) started
    have above := others parent rfl
    refine ⟨own.claimed, above.claimed, ?_⟩
    intro addr member which
    have claimed : log.Claimed addr.tx addr.actorId :=
      Or.inl (Worker.known_of_installed _ _ _ (routed.addrs addr member))
    rcases which with same | same
    · exact own.claimed _ (same ▸ claimed)
    · exact above.claimed _ (same ▸ claimed)
  · intro w envelope member
    exact (Worker.well_typed w _ _ (routed.workers w)).1 envelope ((Trace.mem_worker w _ log).mpr member)
  · intro w id member
    exact (Worker.well_typed w _ _ (routed.workers w)).2 id ((Trace.mem_worker w _ log).mpr member)
  · intro w turn popped scheduler envelope here ready dequeued absent
    have head := (Worker.dequeue_head _ _ _ turn envelope ready dequeued).1
    have gone := Worker.missing_gone _ _ (sound w).placed (sound w).mail turn envelope (by simp [head])
      (by rw [here]; rfl) absent
    obtain ⟨actor, stopped⟩ := (Log.mem_gone _ _).mp gone
    exact ⟨actor, (Trace.mem_worker w _ log).mp stopped⟩

-- A handler has spawned a child, and its own actor is in the worker's hands.
def spawnInHandler : List (Action numbers 1) :=
  spawnOne ++ ([.doSend 0 5, .worker 0 .pollControl, .worker 0 .drain, .worker 0 .drain, .worker 0 .runTurn,
    .ctxSpawn (.worker 0) () 1, .startedReturn 2 1, .handOver 2] : List (Action numbers 1))

theorem routing_and_typing_child : ∃ (log : Trace numbers 1) (s : State numbers 1),
    (runtime numbers 1).Reach Machine.free log s ∧ s.isAt 1 (.dispatch 0) ∧
      s.addrs = [⟨1, 0, ()⟩, ⟨2, 0, ()⟩] ∧ .starting 2 0 (some 1) ∈ log ∧
      (∀ v, log.Claimed v 2 → v = 0) ∧ ∀ id p q, s.isAt id p → s.isAt id q → p = q := by
  have reached := Machine.run_reach (runtime numbers 1) _ _ _ spawnInHandler rfl rfl
  have facts := routing_and_typing _ _ reached
  refine ⟨_, _, reached, rfl, rfl, ?_, (facts.2.2.2.2.1 2 0 1 ?_).1, facts.1⟩
  · exact @List.mem_of_getElem? _ _ 7 _ rfl
  · exact @List.mem_of_getElem? _ _ 7 _ rfl

end Actinium
