import Actinium.WorkerMoves

set_option autoImplicit false

namespace Actinium

variable {P : Program} {n : Nat}

namespace Event

def installs : Event P → Option (ActorId × P.Ty)
  | .installed id ty => some (id, ty)
  | _ => none

def sendsSpawn : Event P → Option ActorId
  | .spawnSent id _ => some id
  | _ => none

def stops : Event P → Option ActorId
  | .stopping id _ => some id
  | _ => none

def accepts : Event P → Option (Message P)
  | .accepted envelope => some envelope
  | _ => none

-- The handler was invoked; it has returned or panicked; the envelope was
-- dropped and its handler never ran.
def begins : Event P → Option (Message P)
  | .handling envelope => some envelope
  | _ => none

def finishes : Event P → Option (Message P)
  | .handled envelope _ => some envelope
  | .panicked envelope => some envelope
  | _ => none

def drops : Event P → Option (Message P)
  | .dropped envelope => some envelope
  | .mismatched envelope => some envelope
  | _ => none

end Event

abbrev Log (P : Program) := List (Event P)

namespace Log

def installed (log : Log P) : List (ActorId × P.Ty) := log.filterMap Event.installs
def spawnsSent (log : Log P) : List ActorId := log.filterMap Event.sendsSpawn
def gone (log : Log P) : List ActorId := log.filterMap Event.stops
def accepted (log : Log P) : List (Message P) := log.filterMap Event.accepts
def begun (log : Log P) : List (Message P) := log.filterMap Event.begins
def finished (log : Log P) : List (Message P) := log.filterMap Event.finishes
def dropped (log : Log P) : List (Message P) := log.filterMap Event.drops

-- Ids that have been given to this worker, by either path.
def known (log : Log P) : List ActorId := log.installed.map Prod.fst

@[simp] theorem installed_append (a b : Log P) : installed (a ++ b) = a.installed ++ installed b := List.filterMap_append
@[simp] theorem spawns_append (a b : Log P) : spawnsSent (a ++ b) = a.spawnsSent ++ spawnsSent b := List.filterMap_append
@[simp] theorem gone_append (a b : Log P) : gone (a ++ b) = a.gone ++ gone b := List.filterMap_append
@[simp] theorem accepted_append (a b : Log P) : accepted (a ++ b) = a.accepted ++ accepted b := List.filterMap_append
@[simp] theorem begun_append (a b : Log P) : begun (a ++ b) = a.begun ++ begun b := List.filterMap_append
@[simp] theorem finished_append (a b : Log P) : finished (a ++ b) = a.finished ++ finished b := List.filterMap_append
@[simp] theorem dropped_append (a b : Log P) : dropped (a ++ b) = a.dropped ++ dropped b := List.filterMap_append
@[simp] theorem known_append (a b : Log P) : known (a ++ b) = a.known ++ known b := by simp [known]

-- Dropping mail and refusing spawns leave no other trace.
theorem filter_map_dropped {β : Type} (f : Event P → Option β) (silent : ∀ envelope, f (.dropped envelope) = none)
    (mail : List (Message P)) : (mail.map Event.dropped).filterMap f = [] := by
  induction mail with
  | nil => rfl
  | cons head tail ih => simp [silent, ih]

theorem filter_map_refusals {β : Type} (f : Event P → Option β) (silent : ∀ id, f (.refused id) = none)
    (msgs : List (ControlMsg P)) : (Worker.refusals msgs).filterMap f = [] := by
  induction msgs with
  | nil => rfl
  | cons head tail ih => cases head <;> simp [Worker.refusals, silent, ih]

@[simp] theorem installed_dropped (mail : List (Message P)) : installed (mail.map Event.dropped) = [] :=
  filter_map_dropped _ (fun _ => rfl) mail
@[simp] theorem spawns_dropped (mail : List (Message P)) : spawnsSent (mail.map Event.dropped) = [] :=
  filter_map_dropped _ (fun _ => rfl) mail
@[simp] theorem gone_dropped (mail : List (Message P)) : gone (mail.map Event.dropped) = [] :=
  filter_map_dropped _ (fun _ => rfl) mail
@[simp] theorem accepted_dropped (mail : List (Message P)) : accepted (mail.map Event.dropped) = [] :=
  filter_map_dropped _ (fun _ => rfl) mail
@[simp] theorem begun_dropped (mail : List (Message P)) : begun (mail.map Event.dropped) = [] :=
  filter_map_dropped _ (fun _ => rfl) mail
@[simp] theorem finished_dropped (mail : List (Message P)) : finished (mail.map Event.dropped) = [] :=
  filter_map_dropped _ (fun _ => rfl) mail
@[simp] theorem dropped_dropped (mail : List (Message P)) : dropped (mail.map Event.dropped) = mail := by
  induction mail with
  | nil => rfl
  | cons head tail ih => exact congrArg (head :: ·) ih

@[simp] theorem installed_refusals (msgs : List (ControlMsg P)) : installed (Worker.refusals msgs) = [] :=
  filter_map_refusals _ (fun _ => rfl) msgs
@[simp] theorem spawns_refusals (msgs : List (ControlMsg P)) : spawnsSent (Worker.refusals msgs) = [] :=
  filter_map_refusals _ (fun _ => rfl) msgs
@[simp] theorem gone_refusals (msgs : List (ControlMsg P)) : gone (Worker.refusals msgs) = [] :=
  filter_map_refusals _ (fun _ => rfl) msgs
@[simp] theorem accepted_refusals (msgs : List (ControlMsg P)) : accepted (Worker.refusals msgs) = [] :=
  filter_map_refusals _ (fun _ => rfl) msgs
@[simp] theorem begun_refusals (msgs : List (ControlMsg P)) : begun (Worker.refusals msgs) = [] :=
  filter_map_refusals _ (fun _ => rfl) msgs
@[simp] theorem finished_refusals (msgs : List (ControlMsg P)) : finished (Worker.refusals msgs) = [] :=
  filter_map_refusals _ (fun _ => rfl) msgs
@[simp] theorem dropped_refusals (msgs : List (ControlMsg P)) : dropped (Worker.refusals msgs) = [] :=
  filter_map_refusals _ (fun _ => rfl) msgs

end Log

namespace Phase

-- The actor a dispatch has taken out of the map and not given up.
def out : Phase P n → Option (ActorId × ActorCell P)
  | .handling _ envelope cell _ => some (envelope.actorId, cell)
  | .handled _ id cell _ => some (id, cell)
  | _ => none

-- The actor whose turn is in progress.
def serving : Phase P n → Option ActorId
  | .handling served _ _ _ => some served
  | .handled served _ _ _ => some served
  | .stopping _ _ _ (.turn served) => some served
  | _ => none

-- The message whose handler is running.
def current : Phase P n → Option (Message P)
  | .handling _ envelope _ _ => some envelope
  | _ => none

-- Worker::run has returned or been unwound, and the worker is being dropped.
def closing : Phase P n → Bool
  | .dropControl _ => true
  | .dropMsgs _ => true
  | .dropScheduler _ => true
  | .ended _ => true
  | _ => false

-- No actor is in the hands of the worker.
def calm : Phase P n → Bool
  | .handling _ _ _ _ => false
  | .handled _ _ _ _ => false
  | .stopping _ _ _ _ => false
  | _ => true

theorem calm_out (phase : Phase P n) (quiet : phase.calm = true) : phase.out = none := by
  cases phase <;> first | rfl | cases quiet

end Phase

namespace Worker

-- What the rest of the runtime promises a worker: an id is given to it once,
-- with the on_stop of the actor's own type, and mail is for actors it was given.
def promised (log : Log P) (_ : Worker P n) : Act P → Prop
  | .post envelope =>
      (envelope.actorId, envelope.dispatch.ty) ∈ log.installed ∧
        envelope.dispatch.serial ∉ log.accepted.map (fun sent => sent.dispatch.serial)
  | .postControl (.spawnActor id actor onStop) => onStop = actor.ty ∧ id ∉ log.known ∧ id ∉ log.spawnsSent
  | .postControl .shutdown => True
  | .spawnActorDirect id actor onStop => onStop = actor.ty ∧ id ∉ log.known ∧ id ∉ log.spawnsSent
  | .stopCtx => True
  | .own _ _ => True

abbrev Reach (workerIdx : Fin n) (log : Log P) (w : Worker P n) : Prop :=
  (machine P workerIdx).Reach promised log w

-- The mail of a worker is for actors it knows, and a stopped actor is one.
structure Placed (log : Log P) (w : Worker P n) : Prop where
  nodup : log.known.Nodup
  gone : ∀ id ∈ log.gone, id ∈ log.known
  mapped : ∀ id cell, w.actorMap.lookup id = some cell →
    (id, cell.actor.ty) ∈ log.installed ∧ cell.onStop = cell.actor.ty ∧ id ∉ log.gone
  taken : ∀ id cell, w.phase.out = some (id, cell) →
    (id, cell.actor.ty) ∈ log.installed ∧ cell.onStop = cell.actor.ty ∧ id ∉ log.gone ∧ w.actorMap.lookup id = none
  total : ∀ id ∈ log.known,
    id ∈ log.gone ∨ (∃ cell, w.actorMap.lookup id = some cell) ∨ ∃ cell, w.phase.out = some (id, cell)
  stopping : ∀ id cell ctx after, w.phase = .stopping id cell ctx after →
    id ∈ log.gone ∧ cell.onStop = cell.actor.ty

def spawnIds : List (ControlMsg P) → List ActorId
  | [] => []
  | .spawnActor id _ _ :: rest => id :: spawnIds rest
  | .shutdown :: rest => spawnIds rest

-- The spawns that wait in the control channel.
structure Waiting (log : Log P) (w : Worker P n) : Prop where
  sent : log.spawnsSent.Nodup
  queued : ∀ id actor onStop, .spawnActor id actor onStop ∈ w.controlRx.queue →
    onStop = actor.ty ∧ id ∈ log.spawnsSent ∧ id ∉ log.known
  once : (spawnIds w.controlRx.queue).Nodup

theorem known_of_installed (log : Log P) (id : ActorId) (ty : P.Ty) (member : (id, ty) ∈ log.installed) :
    id ∈ log.known := List.mem_map.mpr ⟨(id, ty), member, rfl⟩

theorem installed_of_known (log : Log P) (id : ActorId) (member : id ∈ log.known) :
    ∃ ty, (id, ty) ∈ log.installed := by
  obtain ⟨⟨same, ty⟩, found, rfl⟩ := List.mem_map.mp member
  exact ⟨ty, found⟩

@[simp] theorem begin_stop_map (w : Worker P n) (id : ActorId) (cell : ActorCell P) (after : After) :
    (w.beginStop id cell after).1.actorMap = w.actorMap := rfl

@[simp] theorem begin_stop_phase (w : Worker P n) (id : ActorId) (cell : ActorCell P) (after : After) :
    (w.beginStop id cell after).1.phase = .stopping id cell (.withSpawner id w.workerIdx) after := rfl

theorem begin_stop_events (w : Worker P n) (id : ActorId) (cell : ActorCell P) (after : After)
    (typed : cell.onStop = cell.actor.ty) : (w.beginStop id cell after).2 = [.stopping id cell.actor] := by
  simp [beginStop, AnyBox.downcast, typed]

@[simp] theorem finish_stop_map (w : Worker P n) (id : ActorId) (after : After) :
    (w.finishStop id after).1.actorMap = w.actorMap := by
  cases after <;> rfl

@[simp] theorem finish_stop_events (w : Worker P n) (id : ActorId) (after : After) :
    (w.finishStop id after).2 = (w.scheduler.mailbox id).map .dropped := rfl

@[simp] theorem finish_stop_out (w : Worker P n) (id : ActorId) (after : After) :
    (w.finishStop id after).1.phase.out = none := by
  cases after <;> rfl

theorem finish_stop_stopping (w : Worker P n) (id other : ActorId) (after next : After) (cell : ActorCell P)
    (ctx : Context (Fin n)) : (w.finishStop id after).1.phase ≠ .stopping other cell ctx next := by
  cases after <;> simp [finishStop, endTurn]

-- The steps that neither install, stop, take nor return an actor.
theorem placed_frame (log events : Log P) (w next : Worker P n) (placed : Placed log w)
    (noInstall : events.installed = []) (noStop : events.gone = []) (map : next.actorMap = w.actorMap)
    (out : next.phase.out = w.phase.out)
    (stopping : ∀ id cell ctx after, next.phase = .stopping id cell ctx after →
      ∃ old, w.phase = .stopping id cell old after) : Placed (log ++ events) next := by
  have noKnown : events.known = [] := by simp [Log.known, noInstall]
  refine ⟨?_, ?_, ?_, ?_, ?_, ?_⟩
  · simpa [noKnown] using placed.nodup
  · simpa [noKnown, noStop] using placed.gone
  · simpa [noInstall, noStop, map] using placed.mapped
  · simpa [noInstall, noStop, map, out] using placed.taken
  · simpa [noKnown, noStop, map, out] using placed.total
  · intro id cell ctx after here
    obtain ⟨old, before⟩ := stopping id cell ctx after here
    simpa [noStop] using placed.stopping id cell old after before

theorem placed_install (log : Log P) (w next : Worker P n) (placed : Placed log w) (id : ActorId) (actor : AnyBox P)
    (fresh : id ∉ log.known) (map : next.actorMap = w.actorMap.insert id ⟨actor, actor.ty⟩)
    (out : next.phase.out = w.phase.out)
    (stopping : ∀ id cell ctx after, next.phase = .stopping id cell ctx after →
      w.phase = .stopping id cell ctx after) : Placed (log ++ [Event.installed id actor.ty]) next := by
  have install : Log.installed [Event.installed id actor.ty] = [(id, actor.ty)] := rfl
  have noStop : Log.gone [Event.installed id actor.ty] = [] := rfl
  have know : Log.known [Event.installed id actor.ty] = [id] := rfl
  have alive : id ∉ log.gone := fun member => fresh (placed.gone id member)
  refine ⟨?_, ?_, ?_, ?_, ?_, ?_⟩
  · rw [Log.known_append, know]
    exact Keyed.nodup_push _ id placed.nodup fresh
  · intro other member
    rw [Log.gone_append, noStop, List.append_nil] at member
    simp [placed.gone other member]
  · intro other cell found
    rw [map] at found
    rw [Log.installed_append, Log.gone_append, install, noStop, List.append_nil]
    by_cases same : other = id
    · subst same
      rw [AList.lookup_insert, Option.some.injEq] at found
      subst found
      exact ⟨by simp, rfl, alive⟩
    · rw [AList.lookup_insert_ne same] at found
      obtain ⟨member, typed, living⟩ := placed.mapped other cell found
      exact ⟨by simp [member], typed, living⟩
  · intro other cell found
    rw [out] at found
    obtain ⟨member, typed, living, absent⟩ := placed.taken other cell found
    have different : other ≠ id := fun same => fresh (same ▸ known_of_installed log other _ member)
    rw [Log.installed_append, Log.gone_append, install, noStop, List.append_nil, map, AList.lookup_insert_ne different]
    exact ⟨by simp [member], typed, living, absent⟩
  · intro other member
    rw [Log.gone_append, noStop, List.append_nil, map, out]
    by_cases same : other = id
    · subst same
      exact Or.inr (Or.inl ⟨⟨actor, actor.ty⟩, AList.lookup_insert _⟩)
    · rw [AList.lookup_insert_ne same]
      refine placed.total other ?_
      simpa [know, same] using member
  · intro other cell ctx after here
    rw [Log.gone_append, noStop, List.append_nil]
    exact placed.stopping other cell ctx after (stopping other cell ctx after here)

-- dispatch takes an actor out of the map, settle puts it back, and in between
-- the handler may have written to it.
theorem placed_take (log events : Log P) (w next : Worker P n) (placed : Placed log w) (id : ActorId)
    (cell : ActorCell P) (noInstall : events.installed = []) (noStop : events.gone = [])
    (present : w.actorMap.lookup id = some cell) (absent : next.actorMap.lookup id = none)
    (others : ∀ other, other ≠ id → next.actorMap.lookup other = w.actorMap.lookup other)
    (out : next.phase.out = some (id, cell)) (before : w.phase.out = none)
    (stopping : ∀ id cell ctx after, next.phase ≠ .stopping id cell ctx after) : Placed (log ++ events) next := by
  have noKnown : events.known = [] := by simp [Log.known, noInstall]
  refine ⟨?_, ?_, ?_, ?_, ?_, ?_⟩
  · simpa [noKnown] using placed.nodup
  · simpa [noKnown, noStop] using placed.gone
  · intro other held found
    have different : other ≠ id := by
      intro same
      rw [same, absent] at found
      cases found
    rw [others other different] at found
    simpa [noInstall, noStop] using placed.mapped other held found
  · intro other held found
    rw [out] at found
    cases found
    simpa [noInstall, noStop, absent] using placed.mapped id cell present
  · intro other member
    simp only [Log.known_append, noKnown, List.append_nil] at member
    simp only [Log.gone_append, noStop, List.append_nil]
    by_cases same : other = id
    · exact Or.inr (Or.inr ⟨cell, same ▸ out⟩)
    · rw [others other same]
      rcases placed.total other member with dead | here | ⟨held, found⟩
      · exact Or.inl dead
      · exact Or.inr (Or.inl here)
      · rw [before] at found
        cases found
  · intro other held ctx after here
    exact absurd here (stopping other held ctx after)

theorem placed_write (log events : Log P) (w next : Worker P n) (placed : Placed log w) (id : ActorId)
    (cell written : ActorCell P) (noInstall : events.installed = []) (noStop : events.gone = [])
    (ty : written.actor.ty = cell.actor.ty) (onStop : written.onStop = cell.onStop)
    (map : next.actorMap = w.actorMap) (before : w.phase.out = some (id, cell))
    (out : next.phase.out = some (id, written))
    (stopping : ∀ id cell ctx after, next.phase ≠ .stopping id cell ctx after) : Placed (log ++ events) next := by
  have noKnown : events.known = [] := by simp [Log.known, noInstall]
  refine ⟨?_, ?_, ?_, ?_, ?_, ?_⟩
  · simpa [noKnown] using placed.nodup
  · simpa [noKnown, noStop] using placed.gone
  · simpa [noInstall, noStop, map] using placed.mapped
  · intro other held found
    rw [out] at found
    cases found
    simpa [noInstall, noStop, map, ty, onStop] using placed.taken id cell before
  · intro other member
    simp only [Log.known_append, noKnown, List.append_nil] at member
    simp only [Log.gone_append, noStop, List.append_nil]
    rw [map]
    rcases placed.total other member with dead | here | ⟨held, found⟩
    · exact Or.inl dead
    · exact Or.inr (Or.inl here)
    · rw [before] at found
      cases found
      exact Or.inr (Or.inr ⟨written, out⟩)
  · intro other held ctx after here
    exact absurd here (stopping other held ctx after)

theorem placed_return (log : Log P) (w next : Worker P n) (placed : Placed log w) (id : ActorId) (cell : ActorCell P)
    (before : w.phase.out = some (id, cell)) (map : next.actorMap = w.actorMap.insert id cell)
    (out : next.phase.out = none) (stopping : ∀ id cell ctx after, next.phase ≠ .stopping id cell ctx after) :
    Placed (log ++ []) next := by
  obtain ⟨member, typed, living, _⟩ := placed.taken id cell before
  rw [List.append_nil]
  refine ⟨placed.nodup, placed.gone, ?_, by simp [out], ?_, ?_⟩
  · intro other held found
    rw [map] at found
    by_cases same : other = id
    · subst same
      rw [AList.lookup_insert, Option.some.injEq] at found
      subst found
      exact ⟨member, typed, living⟩
    · rw [AList.lookup_insert_ne same] at found
      exact placed.mapped other held found
  · intro other known
    rw [map]
    by_cases same : other = id
    · subst same
      exact Or.inr (Or.inl ⟨cell, AList.lookup_insert _⟩)
    · rw [AList.lookup_insert_ne same]
      rcases placed.total other known with dead | here | ⟨held, found⟩
      · exact Or.inl dead
      · exact Or.inr (Or.inl here)
      · rw [before] at found
        cases found
        exact absurd rfl same
  · intro other held ctx after here
    exact absurd here (stopping other held ctx after)

-- An actor in the map or taken out of it gets its stopped hook called.
theorem placed_stop (log before : Log P) (w next : Worker P n) (placed : Placed log w) (id : ActorId)
    (cell : ActorCell P) (ctx : Context (Fin n)) (after : After) (noInstall : before.installed = [])
    (noStop : before.gone = []) (typed : cell.onStop = cell.actor.ty) (known : id ∈ log.known)
    (phase : next.phase = .stopping id cell ctx after)
    (absent : next.actorMap.lookup id = none)
    (others : ∀ other, other ≠ id → next.actorMap.lookup other = w.actorMap.lookup other)
    (out : ∀ other held, w.phase.out = some (other, held) → other = id) :
    Placed (log ++ (before ++ [Event.stopping id cell.actor])) next := by
  have noKnown : before.known = [] := by simp [Log.known, noInstall]
  have install : Log.installed [Event.stopping id cell.actor] = [] := rfl
  have stop : Log.gone [Event.stopping id cell.actor] = [id] := rfl
  have know : Log.known [Event.stopping id cell.actor] = [] := rfl
  have nothing : next.phase.out = none := by rw [phase]; rfl
  refine ⟨?_, ?_, ?_, ?_, ?_, ?_⟩
  · simpa [noKnown, know] using placed.nodup
  · intro other member
    simp only [Log.gone_append, noStop, stop, List.nil_append, List.mem_append, List.mem_singleton] at member
    simp only [Log.known_append, noKnown, know, List.append_nil]
    rcases member with earlier | same
    · exact placed.gone other earlier
    · exact same ▸ known
  · intro other held found
    have different : other ≠ id := by
      intro same
      rw [same, absent] at found
      cases found
    rw [others other different] at found
    obtain ⟨member, heldTyped, living⟩ := placed.mapped other held found
    exact ⟨by simp [member], heldTyped, by simp [noStop, stop, living, different]⟩
  · simp [nothing]
  · intro other member
    simp only [Log.known_append, noKnown, know, List.append_nil] at member
    by_cases same : other = id
    · left
      simp [same, stop]
    · rcases placed.total other member with dead | ⟨held, found⟩ | ⟨held, found⟩
      · left
        simp [dead]
      · right
        left
        exact ⟨held, (others other same).trans found⟩
      · exact absurd (out other held found) same
  · intro other held ctx' after' here
    rw [phase] at here
    cases here
    exact ⟨by simp [stop], typed⟩

-- The steps between two states with no actor in hand.
theorem placed_calm (log events : Log P) (w next : Worker P n) (placed : Placed log w)
    (noInstall : events.installed = []) (noStop : events.gone = []) (map : next.actorMap = w.actorMap)
    (before : w.phase.out = none) (calm : next.phase.calm = true) : Placed (log ++ events) next := by
  refine placed_frame log events w next placed noInstall noStop map ?_ ?_
  · rw [before, Phase.calm_out next.phase calm]
  · intro id cell ctx after here
    rw [here] at calm
    cases calm

theorem spawn_ids_append (a b : List (ControlMsg P)) : spawnIds (a ++ b) = spawnIds a ++ spawnIds b := by
  induction a with
  | nil => rfl
  | cons head tail ih => cases head <;> simp [spawnIds, ih]

theorem spawn_ids_mem (msgs : List (ControlMsg P)) (id : ActorId) (member : id ∈ spawnIds msgs) :
    ∃ actor onStop, .spawnActor id actor onStop ∈ msgs := by
  induction msgs with
  | nil => cases member
  | cons head tail ih =>
      cases head with
      | spawnActor other actor onStop =>
          rcases List.mem_cons.mp member with same | later
          · subst same
            exact ⟨actor, onStop, by simp⟩
          · obtain ⟨found, stop, inside⟩ := ih later
            exact ⟨found, stop, by simp [inside]⟩
      | shutdown =>
          obtain ⟨found, stop, inside⟩ := ih member
          exact ⟨found, stop, by simp [inside]⟩

theorem waiting_frame (log events : Log P) (w next : Worker P n) (waiting : Waiting log w)
    (noInstall : events.installed = []) (noSpawn : events.spawnsSent = [])
    (queue : next.controlRx.queue.Sublist w.controlRx.queue) : Waiting (log ++ events) next := by
  have noKnown : events.known = [] := by simp [Log.known, noInstall]
  have ids : (spawnIds next.controlRx.queue).Sublist (spawnIds w.controlRx.queue) := by
    generalize next.controlRx.queue = a at queue ⊢
    generalize w.controlRx.queue = b at queue ⊢
    induction queue with
    | slnil => exact List.Sublist.refl _
    | cons head _ ih => cases head with
      | spawnActor id _ _ => exact ih.cons id
      | shutdown => exact ih
    | cons_cons head _ ih => cases head with
      | spawnActor id _ _ => exact ih.cons_cons id
      | shutdown => exact ih
  refine ⟨?_, ?_, ids.nodup waiting.once⟩
  · simpa [noSpawn] using waiting.sent
  · intro id actor onStop member
    simpa [noSpawn, noKnown] using waiting.queued id actor onStop (queue.subset member)

theorem waiting_install (log : Log P) (w next : Worker P n) (waiting : Waiting log w) (id : ActorId) (ty : P.Ty)
    (fresh : id ∉ spawnIds next.controlRx.queue)
    (queue : next.controlRx.queue.Sublist w.controlRx.queue) : Waiting (log ++ [Event.installed id ty]) next := by
  have frame := waiting_frame log [] w next waiting rfl rfl queue
  rw [List.append_nil] at frame
  have noSpawn : Log.spawnsSent [Event.installed (P := P) id ty] = [] := rfl
  refine ⟨by simpa [noSpawn] using frame.sent, ?_, frame.once⟩
  intro other actor onStop member
  obtain ⟨typed, sent, unknown⟩ := frame.queued other actor onStop member
  refine ⟨typed, by simp [sent], ?_⟩
  have different : other ≠ id := by
    intro same
    subst same
    apply fresh
    obtain ⟨front, back, split⟩ := List.append_of_mem member
    rw [split, spawn_ids_append]
    simp [spawnIds]
  have know : Log.known [Event.installed (P := P) id ty] = [id] := rfl
  rw [Log.known_append, know]
  simp [unknown, different]

theorem waiting_step (log events : Log P) (w next : Worker P n) (act : Act P) (waiting : Waiting log w)
    (kept : promised log w act) (moves : Moves w act events next) : Waiting (log ++ events) next := by
  have same : w.controlRx.queue.Sublist w.controlRx.queue := List.Sublist.refl _
  cases moves with
  | postControl msg alive =>
      cases msg with
      | shutdown =>
          have sent : Log.spawnsSent [controlEvent (P := P) .shutdown] = [] := rfl
          have know : Log.known [controlEvent (P := P) .shutdown] = [] := rfl
          refine ⟨by simpa [sent] using waiting.sent, ?_, ?_⟩
          · intro id actor onStop member
            have queued : ControlMsg.spawnActor id actor onStop ∈ w.controlRx.queue := by
              simpa [withControl] using member
            simpa [sent, know] using waiting.queued id actor onStop queued
          · simpa [withControl, spawn_ids_append, spawnIds] using waiting.once
      | spawnActor id actor onStop =>
          obtain ⟨typed, unknown, unsent⟩ := kept
          have sent : Log.spawnsSent [controlEvent (ControlMsg.spawnActor id actor onStop)] = [id] := rfl
          have know : Log.known [controlEvent (ControlMsg.spawnActor id actor onStop)] = [] := rfl
          have absent : id ∉ spawnIds w.controlRx.queue := by
            intro member
            obtain ⟨found, stop, inside⟩ := spawn_ids_mem _ id member
            exact unsent (waiting.queued id found stop inside).2.1
          refine ⟨?_, ?_, ?_⟩
          · rw [Log.spawns_append, sent]
            exact Keyed.nodup_push _ id waiting.sent unsent
          · intro other found stop member
            rw [Log.spawns_append, sent, Log.known_append, know, List.append_nil]
            rcases List.mem_append.mp member with earlier | last
            · obtain ⟨foundTyped, foundSent, foundUnknown⟩ := waiting.queued other found stop earlier
              exact ⟨foundTyped, by simp [foundSent], foundUnknown⟩
            · cases List.mem_singleton.mp last
              exact ⟨typed, by simp, unknown⟩
          · simp only [withControl, spawn_ids_append, spawnIds]
            exact Keyed.nodup_push _ id waiting.once absent
  | direct id actor onStop =>
      refine waiting_install log w _ waiting id actor.ty ?_ same
      intro member
      obtain ⟨found, stop, inside⟩ := spawn_ids_mem _ id member
      exact kept.2.2 (waiting.queued id found stop inside).2.1
  | pollSpawn senders id actor onStop rest here queue =>
      have once := waiting.once
      rw [queue] at once
      refine waiting_install log w _ waiting id actor.ty (List.nodup_cons.mp once).1 ?_
      rw [queue]
      exact List.sublist_cons_self _ rest
  | pollShutdown senders rest here queue =>
      refine waiting_frame _ _ w _ waiting rfl rfl ?_
      rw [queue]
      exact List.sublist_cons_self _ rest
  | mismatch senders turn popped scheduler envelope cell here next dequeued present untyped =>
      refine waiting_frame _ _ w _ waiting ?_ ?_ same <;> simp only [beginStop] <;> split <;> rfl
  | handlerPanic senders turn envelope cell ctx val here =>
      refine waiting_frame _ _ w _ waiting ?_ ?_ same <;> simp only [beginStop] <;> split <;> rfl
  | stop senders turn id cell here =>
      refine waiting_frame _ _ w _ waiting ?_ ?_ same <;> simp only [beginStop] <;> split <;> rfl
  | stopNext senders id ids cell here present =>
      refine waiting_frame _ _ w _ waiting ?_ ?_ same <;> simp only [beginStop] <;> split <;> rfl
  | hookReturn senders id cell ctx after here typed =>
      refine waiting_frame _ _ w _ waiting (Log.installed_dropped _) (Log.spawns_dropped _) ?_
      cases after <;> exact same
  | hookSkip senders id cell ctx after here untyped =>
      refine waiting_frame _ _ w _ waiting (Log.installed_dropped _) (Log.spawns_dropped _) ?_
      cases after <;> exact same
  | stopGone senders id ids here absent =>
      exact waiting_frame _ _ w _ waiting (Log.installed_dropped _) (Log.spawns_dropped _) same
  | dropControl senders panicked here =>
      exact waiting_frame _ _ w _ waiting (Log.installed_refusals _) (Log.spawns_refusals _) (List.nil_sublist _)
  | dropMsgs senders panicked here =>
      exact waiting_frame _ _ w _ waiting (Log.installed_dropped _) (Log.spawns_dropped _) same
  | dropScheduler senders panicked here =>
      exact waiting_frame _ _ w _ waiting (Log.installed_dropped _) (Log.spawns_dropped _) same
  | _ => exact waiting_frame _ _ w _ waiting rfl rfl same

theorem placed_step (log events : Log P) (w next : Worker P n) (act : Act P) (placed : Placed log w)
    (waiting : Waiting log w) (kept : promised log w act) (moves : Moves w act events next) :
    Placed (log ++ events) next := by
  have gone (id : ActorId) (cell : ActorCell P) (ctx : Context (Fin n)) (after : After)
      (here : w.phase = .stopping id cell ctx after) : w.phase.out = none := by rw [here]; rfl
  cases moves with
  | post envelope alive => exact placed_frame _ _ w _ placed rfl rfl rfl rfl (fun id cell ctx after here => ⟨ctx, here⟩)
  | postControl msg alive =>
      refine placed_frame _ _ w _ placed ?_ ?_ rfl rfl (fun id cell ctx after here => ⟨ctx, here⟩) <;> cases msg <;> rfl
  | direct id actor onStop =>
      obtain ⟨typed, fresh, _⟩ := kept
      subst typed
      exact placed_install log w _ placed id actor fresh rfl rfl (fun _ _ _ _ here => here)
  | stopHandler turn envelope cell ctx here =>
      refine placed_frame _ _ w _ placed rfl rfl rfl ?_ ?_
      · rw [here]; rfl
      · intro id cell ctx after wrong
        cases wrong
  | stopHook id cell ctx after here =>
      refine placed_frame _ _ w _ placed rfl rfl rfl ?_ ?_
      · rw [here]; rfl
      · intro id cell ctx after same
        cases same
        exact ⟨_, here⟩
  | pollSpawn senders id actor onStop rest here queue =>
      obtain ⟨typed, _, fresh⟩ := waiting.queued id actor onStop (by simp [queue])
      subst typed
      refine placed_install log w _ placed id actor fresh rfl ?_ ?_
      · rw [here]; rfl
      · intro id cell ctx after wrong
        cases wrong
  | pollShutdown senders rest here queue => exact placed_calm _ _ w _ placed rfl rfl rfl (by rw [here]; rfl) rfl
  | pollEmpty senders here queue => exact placed_calm _ _ w _ placed rfl rfl rfl (by rw [here]; rfl) rfl
  | confirm senders id here => exact placed_calm _ _ w _ placed rfl rfl rfl (by rw [here]; rfl) rfl
  | drain senders envelope rest here queue =>
      exact placed_frame _ _ w _ placed rfl rfl rfl rfl (fun id cell ctx after same => ⟨ctx, same⟩)
  | drained senders here queue => exact placed_calm _ _ w _ placed rfl rfl rfl (by rw [here]; rfl) rfl
  | receive senders envelope rest here queue => exact placed_calm _ _ w _ placed rfl rfl rfl (by rw [here]; rfl) rfl
  | disconnected senders here queue none => exact placed_calm _ _ w _ placed rfl rfl rfl (by rw [here]; rfl) rfl
  | timeout senders here queue some => exact placed_calm _ _ w _ placed rfl rfl rfl (by rw [here]; rfl) rfl
  | idle senders scheduler here next => exact placed_calm _ _ w _ placed rfl rfl rfl (by rw [here]; rfl) rfl
  | nothing senders turn popped scheduler here next dequeued =>
      exact placed_calm _ _ w _ placed rfl rfl rfl (by rw [here]; rfl) rfl
  | missing senders turn popped scheduler envelope here next dequeued absent =>
      exact placed_calm _ _ w _ placed rfl rfl rfl (by rw [here]; rfl) rfl
  | handle senders turn popped scheduler envelope cell here next dequeued present typed =>
      exact placed_take log _ w _ placed envelope.actorId cell rfl rfl present (AList.lookup_erase _ _)
        (fun other different => AList.lookup_erase_ne different) rfl (by rw [here]; rfl) (fun _ _ _ _ wrong => by cases wrong)
  | mismatch senders turn popped scheduler envelope cell here next dequeued present untyped =>
      obtain ⟨member, typed, _⟩ := placed.mapped _ cell present
      rw [begin_stop_events w _ cell _ typed]
      exact placed_stop log [.mismatched envelope] w _ placed _ cell _ _ rfl rfl typed (known_of_installed log _ _ member)
        rfl (AList.lookup_erase _ _) (fun other different => AList.lookup_erase_ne different)
        (fun other held wrong => by rw [here] at wrong; cases wrong)
  | handlerReturn senders turn envelope cell ctx val reply here =>
      exact placed_write log _ w _ placed envelope.actorId cell (cell.write val) rfl rfl rfl rfl rfl
        (by rw [here]; rfl) rfl (fun _ _ _ _ wrong => by cases wrong)
  | handlerPanic senders turn envelope cell ctx val here =>
      obtain ⟨member, typed, _, absent⟩ := placed.taken envelope.actorId cell (by rw [here]; rfl)
      rw [begin_stop_events w _ (cell.write val) _ typed]
      exact placed_stop log [.panicked envelope] w _ placed _ (cell.write val) _ _ rfl rfl typed
        (known_of_installed log _ _ member) rfl absent (fun _ _ => rfl)
        (fun other held same => by rw [here] at same; cases same; rfl)
  | putBack senders turn id cell here =>
      exact placed_return log w _ placed id cell (by rw [here]; rfl) rfl rfl (fun _ _ _ _ wrong => by cases wrong)
  | stop senders turn id cell here =>
      obtain ⟨member, typed, _, absent⟩ := placed.taken id cell (by rw [here]; rfl)
      rw [begin_stop_events w _ cell _ typed]
      exact placed_stop log [] w _ placed _ cell _ _ rfl rfl typed (known_of_installed log _ _ member) rfl absent
        (fun _ _ => rfl) (fun other held same => by rw [here] at same; cases same; rfl)
  | hookReturn senders id cell ctx after here typed =>
      refine placed_frame _ _ w _ placed ?_ ?_ (finish_stop_map w id after) ?_ ?_
      · exact Log.installed_dropped _
      · exact Log.gone_dropped _
      · rw [finish_stop_out, gone id cell ctx after here]
      · exact fun other held ctx' next wrong => absurd wrong (finish_stop_stopping w id other after next held ctx')
  | hookSkip senders id cell ctx after here untyped =>
      exact absurd (placed.stopping id cell ctx after here).2.symm untyped
  | hookPanic senders id cell ctx after here typed =>
      exact placed_calm _ _ w _ placed rfl rfl rfl (gone id cell ctx after here) rfl
  | snapshot senders ids here keys => exact placed_calm _ _ w _ placed rfl rfl rfl (by rw [here]; rfl) rfl
  | stopDone senders here => exact placed_calm _ _ w _ placed rfl rfl rfl (by rw [here]; rfl) rfl
  | stopGone senders id ids here absent =>
      exact placed_calm _ _ w _ placed (Log.installed_dropped _) (Log.gone_dropped _) rfl (by rw [here]; rfl) rfl
  | stopNext senders id ids cell here present =>
      obtain ⟨member, typed, _⟩ := placed.mapped id cell present
      rw [begin_stop_events w _ cell _ typed]
      exact placed_stop log [] w _ placed _ cell _ _ rfl rfl typed (known_of_installed log _ _ member) rfl
        (AList.lookup_erase _ _) (fun other different => AList.lookup_erase_ne different)
        (fun other held wrong => by rw [here] at wrong; cases wrong)
  | dropControl senders panicked here =>
      exact placed_calm _ _ w _ placed (Log.installed_refusals _) (Log.gone_refusals _) rfl (by rw [here]; rfl) rfl
  | dropMsgs senders panicked here =>
      exact placed_calm _ _ w _ placed (Log.installed_dropped _) (Log.gone_dropped _) rfl (by rw [here]; rfl) rfl
  | dropScheduler senders panicked here =>
      exact placed_calm _ _ w _ placed (Log.installed_dropped _) (Log.gone_dropped _) rfl (by rw [here]; rfl) rfl

end Worker

end Actinium
