import Actinium.ActorSystemSound
import Actinium.WorkerProcesses

set_option autoImplicit false

namespace Actinium

variable {P : Program}

def SystemPhase.callback (id : ActorId) : SystemPhase P → Option (Process.Status (Message P))
  | .handling _ envelope _ _ => if envelope.actorId = id then some (.busy envelope) else none
  | .stopping other _ _ _ => if other = id then some .leaving else none
  | _ => none

namespace SystemTrace

-- What is seen of one actor.
def signs (log : SystemTrace P) (id : ActorId) : Signs P := log.events.signs id

end SystemTrace

namespace ActorSystem

def standing (log : SystemTrace P) (s : ActorSystem P) (id : ActorId) : Process.Status (Message P) :=
  if id ∈ log.events.known then (if (s.actors.lookup id).isSome then .idle else .dead) else .absent

def status (log : SystemTrace P) (s : ActorSystem P) (id : ActorId) : Process.Status (Message P) :=
  match s.phase.callback id with
  | some status => status
  | none => standing log s id

-- An actor of the system, as a process.
def process (log : SystemTrace P) (s : ActorSystem P) (id : ActorId) : Process (Message P) :=
  ⟨status log s id, about id s.rx.queue⟩

def Leads (log entries : SystemTrace P) (s next : ActorSystem P) (id : ActorId) : Prop :=
  Log.Leads true log.events entries.events id (process log s id) (process (log ++ entries) next id)

theorem standing_frame (log entries : SystemTrace P) (s next : ActorSystem P) (id : ActorId)
    (known : entries.events.known = []) (actors : (next.actors.lookup id).isSome = (s.actors.lookup id).isSome) :
    standing (log ++ entries) next id = standing log s id := by
  simp only [standing, SystemTrace.events_append, Log.known_append, known, List.append_nil, actors]

-- A step of the system that does not concern the actor.
theorem leads_still (log entries : SystemTrace P) (s next : ActorSystem P) (id : ActorId) (silent : entries.signs id = [])
    (known : entries.events.known = []) (callback : next.phase.callback id = s.phase.callback id)
    (actors : (next.actors.lookup id).isSome = (s.actors.lookup id).isSome)
    (mail : about id next.rx.queue = about id s.rx.queue) : Leads log entries s next id := by
  refine Log.leads_quiet true _ _ id _ _ silent ?_
  rw [process, process, status, status, callback, standing_frame log entries s next id known actors, mail]

theorem unknown_calm (log : SystemTrace P) (s : ActorSystem P) (typed : Typed log s) (id : ActorId)
    (unknown : id ∉ log.events.known) : s.phase.callback id = none := by
  have phase := typed.phase
  unfold PhaseTyped at phase
  cases here : s.phase with
  | handling loop envelope cell ctx =>
      rw [here] at phase
      have other : envelope.actorId ≠ id := fun same => unknown (same ▸ known_of_installed log _ _ phase.1.1)
      simp [SystemPhase.callback, other]
  | stopping other cell ctx resume =>
      rw [here] at phase
      have different : other ≠ id := fun same => unknown (same ▸ known_of_installed log _ _ phase.1.1)
      simp [SystemPhase.callback, different]
  | _ => rfl

theorem process_idle (log : SystemTrace P) (s : ActorSystem P) (id : ActorId) (calm : s.phase.callback id = none)
    (known : id ∈ log.events.known) (present : (s.actors.lookup id).isSome = true) :
    process log s id = ⟨.idle, about id s.rx.queue⟩ := by
  simp [process, status, calm, standing, known, present]

theorem process_dead (log : SystemTrace P) (s : ActorSystem P) (id : ActorId) (calm : s.phase.callback id = none)
    (known : id ∈ log.events.known) (absent : s.actors.lookup id = none) :
    process log s id = ⟨.dead, about id s.rx.queue⟩ := by
  simp [process, status, calm, standing, known, absent]

theorem process_busy (log : SystemTrace P) (s : ActorSystem P) (id : ActorId) (busy : Process.Status (Message P))
    (running : s.phase.callback id = some busy) : process log s id = ⟨busy, about id s.rx.queue⟩ := by
  simp [process, status, running]

theorem status_born (log : SystemTrace P) (s : ActorSystem P) (id : ActorId) (known : id ∈ log.events.known) :
    status log s id ≠ .absent := by
  cases here : s.phase with
  | handling loop envelope cell ctx =>
      simp only [status, here, SystemPhase.callback, standing, known, if_true]
      split
      · rename_i busy running
        split at running <;> cases running
        simp
      · split <;> simp
  | stopping other cell ctx resume =>
      simp only [status, here, SystemPhase.callback, standing, known, if_true]
      split
      · rename_i busy running
        split at running <;> cases running
        simp
      · split <;> simp
  | _ =>
      simp only [status, here, SystemPhase.callback, standing, known, if_true]
      split <;> simp

theorem leads_post (log : SystemTrace P) (s next : ActorSystem P) (id : ActorId) (envelope : Message P)
    (known : (envelope.actorId, envelope.dispatch.ty) ∈ log.events.installed) (phase : next.phase = s.phase)
    (actors : next.actors = s.actors) (queue : next.rx.queue = s.rx.queue ++ [envelope]) :
    Leads log [.at (.accepted envelope)] s next id := by
  by_cases here : envelope.actorId = id
  · have mail : about id next.rx.queue = about id s.rx.queue ++ [envelope] := by
      rw [queue]
      simp [Keyed.select_cons, here]
    have given : id ∈ log.events.known := here ▸ known_of_installed log _ _ known
    have after : process (log ++ [SystemEntry.at (.accepted envelope)]) next id = ⟨status log s id, about id s.rx.queue ++ [envelope]⟩ := by
      rw [process, status, status, phase, mail,
        standing_frame log [.at (.accepted envelope)] s next id rfl (by rw [actors])]
    have shown : Log.signs (SystemTrace.events [.at (.accepted envelope)]) id = [.accepted envelope] := by
      simp [SystemTrace.events, SystemEntry.event, Log.signs, Event.sign, here]
    rw [Leads, after]
    refine Log.leads_one true _ _ id _ _ (.arrive envelope) ?_
    rw [shown]
    exact Process.step_arrive true _ envelope (status_born log s id given)
  · refine leads_still log _ s next id ?_ rfl (by rw [phase]) (by rw [actors]) ?_
    · simp [SystemTrace.signs, SystemTrace.events, SystemEntry.event, Log.signs, Event.sign, here]
    · rw [queue]
      simp [Keyed.select_cons, here]

theorem leads_install (log : SystemTrace P) (s next : ActorSystem P) (id other : ActorId) (ty : P.Ty)
    (cell : ActorCell P) (fresh : other ∉ log.events.known) (before : s.phase.callback id = none)
    (after : next.phase.callback id = none) (actors : next.actors = s.actors.insert other cell)
    (queue : next.rx.queue = s.rx.queue) : Leads log [.started other, .at (.installed other ty)] s next id := by
  have know : Log.known (SystemTrace.events [SystemEntry.started other, .at (.installed other ty)]) = [other] := rfl
  by_cases same : other = id
  · subst same
    have absent : process log s other = ⟨.absent, about other s.rx.queue⟩ := by
      simp [process, status, before, standing, fresh]
    have idle := process_idle (log ++ [SystemEntry.started other, .at (.installed other ty)]) next other after
      (by rw [SystemTrace.events_append, Log.known_append, know]; simp) (by rw [actors, AList.lookup_insert]; rfl)
    rw [Leads, absent, idle, queue]
    refine Log.leads_one true _ _ other _ _ .install ?_
    simp [Process.step, SystemTrace.events, SystemEntry.event, Log.signs, Event.sign, List.filterMap_cons]
  · have apart : id ≠ other := fun wrong => same wrong.symm
    refine Log.leads_quiet true _ _ id _ _ ?_ ?_
    · simp [SystemTrace.events, SystemEntry.event, Log.signs, Event.sign, same]
    · simp only [process, status, before, after, standing, queue, actors, AList.lookup_insert_ne apart,
        SystemTrace.events_append, Log.known_append, know, List.mem_append, List.mem_singleton, apart, or_false]

-- A message taken out of the channel for an actor that is gone.
theorem leads_skip (log : SystemTrace P) (s next : ActorSystem P) (typed : Typed log s) (id : ActorId) (envelope : Message P)
    (rest : List (Message P)) (queue : s.rx.queue = envelope :: rest) (absent : s.actors.lookup envelope.actorId = none)
    (before : s.phase.callback id = none) (after : next.phase.callback id = none) (actors : next.actors = s.actors)
    (left : next.rx.queue = rest) : Leads log [.at (.dropped envelope)] s next id := by
  by_cases same : envelope.actorId = id
  · have known : id ∈ log.events.known :=
      same ▸ known_of_installed log _ _ (typed.mail envelope (by rw [queue]; simp))
    have one : about id [envelope] = [envelope] := by simp [Keyed.select_cons, same]
    have now : process log s id = ⟨.dead, [] ++ [envelope] ++ about id rest⟩ := by
      rw [process_dead log s id before known (same ▸ absent), queue]
      simp [Keyed.select_cons, same]
    have later : process (log ++ [SystemEntry.at (.dropped envelope)]) next id = ⟨.dead, [] ++ about id rest⟩ := by
      rw [process_dead _ next id after (by simp [known]) (by rw [actors, ← same, absent]), left]
      rfl
    rw [Leads, now, later]
    exact Log.leads_lose true log.events id [envelope] [] [envelope] (about id rest) one
  · refine leads_still log _ s next id ?_ rfl (by rw [after, before]) (by rw [actors]) ?_
    · simp [SystemTrace.signs, SystemTrace.events, SystemEntry.event, Log.signs, Event.sign, same]
    · rw [left, queue]
      simp [Keyed.select_cons, same]

theorem leads_handle (log : SystemTrace P) (s next : ActorSystem P) (typed : Typed log s) (id : ActorId) (envelope : Message P)
    (rest : List (Message P)) (cell : ActorCell P) (queue : s.rx.queue = envelope :: rest)
    (present : s.actors.lookup envelope.actorId = some cell) (before : s.phase.callback id = none)
    (after : next.phase.callback id = if envelope.actorId = id then some (.busy envelope) else none)
    (actors : next.actors = s.actors) (left : next.rx.queue = rest) : Leads log [.at (.handling envelope)] s next id := by
  by_cases same : envelope.actorId = id
  · have known := known_of_installed log _ _ (typed.cells envelope.actorId cell present).1
    have now : process log s id = ⟨.idle, envelope :: about id rest⟩ := by
      rw [process_idle log s id before (same ▸ known) (by rw [← same, present]; rfl), queue]
      simp [Keyed.select_cons, same]
    have later : process (log ++ [SystemEntry.at (.handling envelope)]) next id = ⟨.busy envelope, about id rest⟩ := by
      rw [process_busy _ next id (.busy envelope) (by rw [after, if_pos same]), left]
    rw [Leads, now, later]
    refine Log.leads_one true _ _ id _ _ .take ?_
    simp [Process.step, SystemTrace.events, SystemEntry.event, Log.signs, Event.sign, same]
  · refine leads_still log _ s next id ?_ rfl (by rw [after, if_neg same, before]) (by rw [actors]) ?_
    · simp [SystemTrace.signs, SystemTrace.events, SystemEntry.event, Log.signs, Event.sign, same]
    · rw [left, queue]
      simp [Keyed.select_cons, same]

-- What is left of an actor whose handler has ended.
theorem leads_handled (log : SystemTrace P) (s next : ActorSystem P) (typed : Typed log s) (id : ActorId) (loop : Loop)
    (envelope : Message P) (cell kept : ActorCell P) (ctx : Context Empty) (event : Event P)
    (act : Process.Act (Message P) P.Reply) (here : s.phase = .handling loop envelope cell ctx)
    (known : Log.known [event] = []) (silent : envelope.actorId ≠ id → Log.signs [event] id = [])
    (taken : envelope.actorId = id → ∀ mail, Process.step true ⟨.busy envelope, mail⟩ act = some (⟨.idle, mail⟩, Log.signs [event] id))
    (after : next.phase.callback id = none) (actors : next.actors = s.actors.insert envelope.actorId kept)
    (queue : next.rx.queue = s.rx.queue) : Leads log [.at event] s next id := by
  have phase := typed.phase
  rw [PhaseTyped, here] at phase
  by_cases same : envelope.actorId = id
  · have now : process log s id = ⟨.busy envelope, about id s.rx.queue⟩ :=
      process_busy log s id _ (by rw [here]; simp [SystemPhase.callback, same])
    have given : id ∈ (log ++ [SystemEntry.at event]).events.known := by
      rw [SystemTrace.events_append, Log.known_append]
      exact List.mem_append_left _ (same ▸ known_of_installed log _ _ phase.1.1)
    have later : process (log ++ [SystemEntry.at event]) next id = ⟨.idle, about id s.rx.queue⟩ := by
      rw [process_idle _ next id after given (by rw [actors, same, AList.lookup_insert]; rfl), queue]
    rw [Leads, now, later]
    exact Log.leads_one true _ _ id _ _ act (taken same _)
  · have apart : id ≠ envelope.actorId := fun wrong => same wrong.symm
    refine leads_still log _ s next id (silent same) known ?_ ?_ (by rw [queue])
    · rw [after, here]
      simp [SystemPhase.callback, same]
    · rw [actors, AList.lookup_insert_ne apart]

-- An actor that is taken out of the map to be stopped.
theorem leads_stopping (log : SystemTrace P) (s next : ActorSystem P) (id other : ActorId) (actor : AnyBox P)
    (known : other ∈ log.events.known) (before : s.phase.callback id = none)
    (present : (s.actors.lookup other).isSome = true)
    (after : next.phase.callback id = if other = id then some .leaving else none)
    (actors : next.actors = s.actors.erase other) (queue : next.rx.queue = s.rx.queue) :
    Leads log [.at (.stopping other actor)] s next id := by
  by_cases same : other = id
  · subst same
    have now := process_idle log s other before known present
    have later : process (log ++ [SystemEntry.at (.stopping other actor)]) next other = ⟨.leaving, about other s.rx.queue⟩ := by
      rw [process_busy _ next other .leaving (by rw [after, if_pos rfl]), queue]
    rw [Leads, now, later]
    refine Log.leads_one true _ _ other _ _ .leave ?_
    simp [Process.step, SystemTrace.events, SystemEntry.event, Log.signs, Event.sign]
  · have apart : id ≠ other := fun wrong => same wrong.symm
    refine leads_still log _ s next id ?_ rfl (by rw [after, if_neg same, before]) ?_ (by rw [queue])
    · simp [SystemTrace.signs, SystemTrace.events, SystemEntry.event, Log.signs, Event.sign, same]
    · rw [actors, AList.lookup_erase_ne apart]

theorem leads_stopped (log : SystemTrace P) (s next : ActorSystem P) (typed : Typed log s) (id other : ActorId)
    (cell : ActorCell P) (ctx : Context Empty) (resume : Resume) (event : Event P) (clean : Bool)
    (here : s.phase = .stopping other cell ctx resume) (known : Log.known [event] = [])
    (shown : Log.signs [event] id = if other = id then [.left clean] else []) (after : next.phase.callback id = none)
    (actors : next.actors = s.actors) (queue : next.rx.queue = s.rx.queue) : Leads log [.at event] s next id := by
  have phase := typed.phase
  rw [PhaseTyped, here] at phase
  by_cases same : other = id
  · subst same
    have now : process log s other = ⟨.leaving, about other s.rx.queue⟩ :=
      process_busy log s other _ (by rw [here]; simp [SystemPhase.callback])
    have given : other ∈ (log ++ [SystemEntry.at event]).events.known := by
      rw [SystemTrace.events_append, Log.known_append]
      exact List.mem_append_left _ (known_of_installed log _ _ phase.1.1)
    have later := process_dead (log ++ [SystemEntry.at event]) next other after given (by rw [actors, phase.2])
    rw [Leads, now, later, queue]
    refine Log.leads_one true _ _ other _ _ (.exit clean) ?_
    rw [if_pos rfl] at shown
    exact congrArg (fun signs => some (_, signs)) shown.symm
  · refine leads_still log _ s next id (shown.trans (if_neg same)) known ?_ (by rw [actors]) (by rw [queue])
    rw [after, here]
    simp [SystemPhase.callback, same]

-- The system is dropped, with the actors and the mail that are left.
theorem leads_drop (log : SystemTrace P) (s next : ActorSystem P) (typed : Typed log s) (id : ActorId)
    (before : s.phase.callback id = none) (after : next.phase.callback id = none) (actors : next.actors = ∅)
    (queue : next.rx.queue = []) : Leads log (s.rx.queue.map fun envelope => .at (.dropped envelope)) s next id := by
  have events : SystemTrace.events (s.rx.queue.map fun envelope => SystemEntry.at (.dropped envelope)) =
      s.rx.queue.map Event.dropped := by
    simp [SystemTrace.events, List.filterMap_map, Function.comp_def, SystemEntry.event]
  have know : Log.known (s.rx.queue.map Event.dropped) = [] := by
    simp [Log.known, Log.installed, Log.filter_map_dropped Event.installs fun _ => rfl]
  by_cases known : id ∈ log.events.known
  · have later : process (log ++ s.rx.queue.map fun envelope => SystemEntry.at (.dropped envelope)) next id = ⟨.dead, []⟩ := by
      rw [process_dead _ next id after (by simp [known]) (by rw [actors]; rfl), queue]
      rfl
    have lose (log : Log P) : Log.Leads true log (s.rx.queue.map Event.dropped) id ⟨.dead, about id s.rx.queue⟩ ⟨.dead, []⟩ := by
      have gone := Log.leads_lose true log id s.rx.queue [] (about id s.rx.queue) [] rfl
      simpa using gone
    rw [Leads, later, events]
    cases present : (s.actors.lookup id).isSome with
    | true =>
        rw [process_idle log s id before known present]
        have first : Log.Leads true log.events [] id ⟨.idle, about id s.rx.queue⟩ ⟨.dead, about id s.rx.queue⟩ :=
          Log.leads_one true log.events [] id _ _ .abandon rfl
        exact Log.leads_then true log.events [] _ id _ _ _ first (lose _)
    | false =>
        rw [process_dead log s id before known (Option.isSome_eq_false_iff.mp present |> Option.isNone_iff_eq_none.mp)]
        exact lose _
  · have mail : about id s.rx.queue = [] := by
      apply Keyed.select_none
      intro envelope member same
      exact known (same ▸ known_of_installed log _ _ (typed.mail envelope member))
    refine Log.leads_quiet true _ _ id _ _ ?_ ?_
    · rw [events, Log.signs_dropped, mail]
      rfl
    · simp [process, status, before, after, standing, known, know, events, queue, mail]

theorem leads_then (log first second : SystemTrace P) (s mid next : ActorSystem P) (id : ActorId)
    (left : Leads log first s mid id) (right : Leads (log ++ first) second mid next id) :
    Leads log (first ++ second) s next id := by
  rw [Leads, ← List.append_assoc, SystemTrace.events_append]
  rw [Leads, SystemTrace.events_append] at right
  exact Log.leads_then true _ _ _ id _ _ _ left right

theorem process_step (log entries : SystemTrace P) (s next : ActorSystem P) (action : SystemAction P) (id : ActorId)
    (typed : Typed log s) (moves : Moves s next.sends action entries next) : Leads log entries s next id := by
  have phase := typed.phase
  generalize next.sends = sends at moves
  cases moves with
  | post blocking i msg addr found alive =>
      exact leads_post log s _ id (s.envelopeTo addr msg blocking) (typed.addrs addr (List.mem_of_getElem? found)) rfl rfl rfl
  | startedReturn other ty old val ctx here =>
      rw [PhaseTyped, here] at phase
      exact leads_install log s _ id other ty _ phase.2 (by rw [here]; rfl) rfl rfl rfl
  | skip loop envelope rest here queue absent =>
      exact leads_skip log s _ typed id envelope rest queue absent (by rw [here]; rfl) rfl rfl rfl
  | mismatch loop envelope rest cell here queue present untyped =>
      have holds := typed.cells envelope.actorId cell present
      exact absurd (typed_unique log s typed envelope.actorId _ _ holds.1 (typed.mail envelope (by rw [queue]; simp))) untyped
  | handle loop envelope rest cell here queue present same =>
      exact leads_handle log s _ typed id envelope rest cell queue present (by rw [here]; rfl) rfl rfl rfl
  | handled loop envelope cell ctx val reply here running =>
      exact leads_handled log s _ typed id loop envelope cell _ ctx (.handled envelope reply) (.finish reply) here rfl
        (fun other => by simp [Log.signs, Event.sign, other])
        (fun same mail => by simp [Process.step, Log.signs, Event.sign, same]) rfl rfl rfl
  | handlerPanic loop envelope cell ctx val here =>
      exact leads_handled log s _ typed id loop envelope cell _ ctx (.panicked envelope) .panic here rfl
        (fun other => by simp [Log.signs, Event.sign, other])
        (fun same mail => by simp [Process.step, Log.signs, Event.sign, same]) rfl rfl rfl
  | handledStop loop envelope cell ctx val reply here stops =>
      rw [PhaseTyped, here] at phase
      obtain ⟨installed, sameTy⟩ := phase.1
      rw [on_stop_typed envelope.actorId (cell.write val) sameTy]
      have handled : Leads log [.at (.handled envelope reply)] s
          { s with actors := s.actors.insert envelope.actorId (cell.write val), phase := .within (.loop loop) } id :=
        leads_handled log s _ typed id loop envelope cell _ ctx (.handled envelope reply) (.finish reply) here rfl
          (fun other => by simp [Log.signs, Event.sign, other])
          (fun same mail => by simp [Process.step, Log.signs, Event.sign, same]) rfl rfl rfl
      refine leads_then log [.at (.handled envelope reply)] _ s _ _ id handled ?_
      refine leads_stopping _ _ _ id envelope.actorId (cell.write val).actor ?_ rfl ?_ rfl ?_ rfl
      · simp [known_of_installed log _ _ installed]
      · rw [AList.lookup_insert]
        rfl
      · exact (erase_insert _ _ _).symm
  | hookReturn other cell ctx resume here same =>
      exact leads_stopped log s _ typed id other cell ctx resume (.stopped other) true here rfl
        (by by_cases equal : other = id <;> simp [Log.signs, Event.sign, equal]) rfl rfl rfl
  | hookSkip other cell ctx resume here untyped =>
      rw [PhaseTyped, here] at phase
      exact absurd phase.1.2 untyped
  | hookPanic other cell ctx resume here =>
      exact leads_stopped log s _ typed id other cell ctx resume (.stopPanicked other) false here rfl
        (by by_cases equal : other = id <;> simp [Log.signs, Event.sign, equal]) rfl rfl rfl
  | stopNext other ids cell here present =>
      have holds := typed.cells other cell present
      rw [on_stop_typed other cell holds.2]
      exact leads_stopping log s _ id other cell.actor (known_of_installed log _ _ holds.1) (by rw [here]; rfl)
        (by rw [present]; rfl) rfl rfl rfl
  | dropSystem here => exact leads_drop log s _ typed id (by rw [here]; rfl) rfl rfl rfl
  | cloneAddr => exact leads_still log _ s _ id rfl rfl rfl rfl rfl
  | dropAddr => exact leads_still log _ s _ id rfl rfl rfl rfl rfl
  | postFailed => exact leads_still log _ s _ id rfl rfl rfl rfl rfl
  | recvResult => exact leads_still log _ s _ id rfl rfl rfl rfl rfl
  | spawnPanic => exact leads_still log _ s _ id rfl rfl rfl rfl rfl
  | disconnected => exact leads_still log _ s _ id rfl rfl rfl rfl rfl
  | stopHandler loop envelope cell ctx here => exact leads_still log _ s _ id rfl rfl (by rw [here]; rfl) rfl rfl
  | stopHook other cell ctx resume here => exact leads_still log _ s _ id rfl rfl (by rw [here]; rfl) rfl rfl
  | shutdown => exact leads_still log _ s _ id rfl rfl rfl rfl rfl
  | _ => exact leads_still log _ s _ id rfl rfl (by simp only [*]; rfl) rfl rfl

theorem idle_present (log : SystemTrace P) (s : ActorSystem P) (id : ActorId) (idle : (process log s id).status = .idle) :
    id ∈ s.actors := by
  cases running : s.phase.callback id with
  | some busy =>
      simp only [process, status, running] at idle
      unfold SystemPhase.callback at running
      split at running
      · split at running <;> cases running
        cases idle
      · split at running <;> cases running
        cases idle
      · cases running
  | none =>
      simp only [process, status, running, standing] at idle
      split at idle
      · split at idle
        · rename_i present
          exact AList.lookup_isSome.mp present
        · cases idle
      · cases idle

theorem process_start (id : ActorId) : process [] (new P) id = Process.new := by
  simp [process, status, new, SystemPhase.callback, standing, SystemTrace.events, Log.known, Log.installed, Process.new,
    Channel.new]

end ActorSystem

theorem ActorSystem.reach_process (log : SystemTrace P) (s : ActorSystem P)
    (reached : (actorSystem P).Reach Machine.free log s) (id : ActorId) :
    (Process.machine (Message P) P.Reply true).Reach Machine.free (log.signs id) (ActorSystem.process log s id) := by
  have shown (log : SystemTrace P) : log.filterMap (fun entry => entry.event.bind (Event.sign id)) = log.signs id := by
    rw [SystemTrace.signs, SystemTrace.events, Log.signs, List.filterMap_filterMap]
  obtain ⟨p, led, same⟩ := Machine.reach_simulated (actorSystem P) Machine.free (Process.machine (Message P) P.Reply true)
    (fun entry => entry.event.bind (Event.sign id)) (fun log s p => p = ActorSystem.process log s id)
    (fun s begins => ⟨Process.new, rfl, by rw [begins, process_start]⟩)
    (fun log s p action next entries before same allowed taken => ⟨_, by
      have moves := ActorSystem.step_moves s next action entries taken
      have step := ActorSystem.process_step log entries s next action id (reach_system_sound _ log s before).typed moves
      rw [ActorSystem.Leads, Log.Leads, ← SystemTrace.events_append] at step
      rw [shown, shown, same]
      exact step, rfl⟩) log s reached
  rw [shown] at led
  exact same ▸ led

-- Every actor of an ActorSystem is a sequential process with a mailbox, under
-- any panics. A panicking handler leaves its actor in place.
theorem ActorSystem.system_refines_process (log : SystemTrace P) (s : ActorSystem P)
    (reached : (actorSystem P).Reach Machine.free log s) (id : ActorId) :
    (Process.machine (Message P) P.Reply true).Reach Machine.free (log.signs id) (ActorSystem.process log s id) ∧
      ((ActorSystem.process log s id).status = .idle → id ∈ s.actors) :=
  ⟨ActorSystem.reach_process log s reached id, ActorSystem.idle_present log s id⟩

-- The first of two messages makes the handler panic, the second stops the actor.
def panicFirst : List (SystemAction numbers) :=
  [.spawn () 0, .startedReturn 0, .doSend 0 5, .doSend 0 6, .runOnce, .recv, .handlerPanic 1, .doSend 0 7, .runOnce, .recv,
    .ctxStop, .handlerReturn 2 60, .hookReturn]

theorem ActorSystem.system_refines_process_panic : ∃ (log : SystemTrace numbers) (s : ActorSystem numbers),
    (actorSystem numbers).Reach Machine.free log s ∧
      (Process.machine (Message numbers) Nat true).Reach Machine.free
        [.installed, .accepted ⟨1, (), 5, false, 0⟩, .accepted ⟨1, (), 6, false, 1⟩, .handling ⟨1, (), 5, false, 0⟩,
          .panicked ⟨1, (), 5, false, 0⟩, .accepted ⟨1, (), 7, false, 2⟩, .handling ⟨1, (), 6, false, 1⟩,
          .handled ⟨1, (), 6, false, 1⟩ 60, .leaving, .left true]
        ⟨.dead, [⟨1, (), 7, false, 2⟩]⟩ := by
  have reached := Machine.run_reach (actorSystem numbers) _ _ _ panicFirst rfl rfl
  exact ⟨_, _, reached, (ActorSystem.system_refines_process _ _ reached 1).1⟩

end Actinium
