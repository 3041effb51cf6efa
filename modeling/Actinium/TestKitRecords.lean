import Actinium.TestKitIdle

set_option autoImplicit false

namespace Actinium

variable {P : Program}

namespace ActorSystem

-- Once the loop of run is left, nothing is in the channel.
def Emptied (s : ActorSystem P) : Prop :=
  match s.phase with
  | .within (.loop .run) => s.running = true ∨ s.rx.queue = []
  | .within (.stopAll _) => s.rx.queue = []
  | .stopping _ _ _ (.stopAll _) => s.rx.queue = []
  | _ => True

theorem emptied_same (s next : ActorSystem P) (emptied : Emptied s) (phase : next.phase = s.phase)
    (running : next.running = s.running) (queue : next.rx.queue = s.rx.queue) : Emptied next := by
  unfold Emptied at emptied ⊢
  rw [phase, running, queue]
  exact emptied

-- Who can post keeps the loop of run from being left.
theorem emptied_post (s next : ActorSystem P) (manned : Manned s) (phase : next.phase = s.phase)
    (running : next.running = s.running) (addr : Addr P 1) (held : addr ∈ s.addrs) : Emptied next := by
  have reached : ¬ Unheld s := by
    intro unheld
    rw [unheld.1] at held
    cases held
  unfold Emptied Manned at *
  rw [phase, running]
  cases here : s.phase with
  | within resume =>
      rw [here] at manned
      cases resume with
      | loop around =>
          cases around with
          | run => exact Or.inl (manned.resolve_right reached)
          | runOnce count => trivial
      | stopAll ids => exact absurd manned reached
  | stopping id cell ctx resume =>
      rw [here] at manned
      cases resume with
      | loop around => trivial
      | stopAll ids => exact absurd manned reached
  | _ => trivial

theorem emptied_hook (s next : ActorSystem P) (id : ActorId) (cell : ActorCell P) (ctx : Context Empty) (resume : Resume)
    (emptied : Emptied s) (manned : Manned s) (here : s.phase = .stopping id cell ctx resume)
    (phase : next.phase = .within resume) (running : next.running = s.running)
    (queue : next.rx.queue = s.rx.queue) : Emptied next := by
  rw [Emptied, here] at emptied
  rw [Manned, here] at manned
  rw [Emptied, phase]
  cases resume with
  | loop around =>
      cases around with
      | run => exact Or.inl (running.trans manned)
      | runOnce count => trivial
  | stopAll ids => exact queue.trans emptied

theorem emptied_step (s next : ActorSystem P) (action : SystemAction P) (entries : SystemTrace P) (emptied : Emptied s)
    (manned : Manned s) (taken : s.step action = some (next, entries)) : Emptied next := by
  have moves := step_moves s next action entries taken
  generalize next.sends = sends at moves
  cases moves with
  | cloneAddr => exact emptied_same s _ emptied rfl rfl rfl
  | dropAddr => exact emptied_same s _ emptied rfl rfl rfl
  | postFailed => exact emptied_same s _ emptied rfl rfl rfl
  | recvResult => exact emptied_same s _ emptied rfl rfl rfl
  | spawnPanic => exact emptied_same s _ emptied rfl rfl rfl
  | post blocking i msg addr found alive =>
      exact emptied_post s _ manned rfl rfl addr (List.mem_of_getElem? found)
  | shutdown here => simp [Emptied, here]
  | run => exact Or.inl rfl
  | disconnected here empty none =>
      rw [Emptied, here]
      exact Or.inr empty
  | skip loop envelope rest here queue absent =>
      cases loop with
      | run => exact Or.inl (recv_running s _ _ here taken)
      | runOnce count => trivial
  | handled loop envelope cell ctx val reply here running =>
      rw [Manned, here] at manned
      cases loop with
      | run => exact Or.inl manned
      | runOnce count => trivial
  | stopHook id cell ctx resume here =>
      rw [Emptied, here] at emptied
      cases resume with
      | loop around => trivial
      | stopAll ids => exact emptied
  | hookReturn id cell ctx resume here typed => exact emptied_hook s _ id cell ctx resume emptied manned here rfl rfl rfl
  | hookSkip id cell ctx resume here untyped => exact emptied_hook s _ id cell ctx resume emptied manned here rfl rfl rfl
  | takeSnapshot ids here left keys =>
      rw [Emptied, here, left] at emptied
      exact emptied.resolve_left Bool.false_ne_true
  | stopGone id ids here absent =>
      rw [Emptied, here] at emptied
      exact emptied
  | stopNext id ids cell here present =>
      rw [Emptied, here] at emptied
      exact emptied
  | _ => trivial

theorem silent_step (s next : ActorSystem P) (action : SystemAction P) (entries : SystemTrace P) (manned : Manned s)
    (silent : Silent s) (moves : Moves s next.sends action entries next) : Silent next := by
  obtain ⟨noAddrs, empty, gone⟩ := silent
  have unheld := unheld_step s next action entries manned ⟨noAddrs, gone⟩ moves
  refine ⟨unheld.1, ?_, unheld.2⟩
  generalize next.sends = sends at moves
  cases moves with
  | post blocking i msg addr found alive => simp [noAddrs] at found
  | skip loop envelope rest here queue absent => simp [empty] at queue
  | mismatch loop envelope rest cell here queue present untyped => simp [empty] at queue
  | handle loop envelope rest cell here queue present typed => simp [empty] at queue
  | dropSystem => rfl
  | _ => exact empty

-- An actor that does not ask to stop leaves the map only when all is said.
theorem attended_step (s next : ActorSystem P) (action : SystemAction P) (entries : SystemTrace P) (manned : Manned s)
    (emptied : Emptied s) (id : ActorId) (inside : id ∈ s.actors)
    (staying : ∀ loop envelope cell ctx, s.phase = .handling loop envelope cell ctx → envelope.actorId = id → ctx.running = true)
    (moves : Moves s next.sends action entries next) : id ∈ next.actors ∨ Silent next ∨ next.phase = .ended := by
  by_cases kept : id ∈ next.actors
  · exact Or.inl kept
  · rcases mapped_step s next action entries manned id inside staying moves with still | unheld | ended
    · exact Or.inl still
    · refine Or.inr (Or.inl ⟨unheld.1, ?_, unheld.2⟩)
      generalize next.sends = sends at moves
      cases moves with
      | startedReturn => exact absurd ((AList.mem_insert _).mpr (Or.inr inside)) kept
      | handled => exact absurd ((AList.mem_insert _).mpr (Or.inr inside)) kept
      | handlerPanic => exact absurd ((AList.mem_insert _).mpr (Or.inr inside)) kept
      | handledStop loop envelope cell ctx val reply here stops =>
          refine absurd (AList.mem_erase.mpr ⟨?_, inside⟩) kept
          intro same
          rw [staying loop envelope cell ctx here same.symm] at stops
          cases stops
      | stopNext other ids cell here present =>
          rw [Emptied, here] at emptied
          exact emptied
      | dropSystem => rfl
      | _ => exact absurd inside kept
    · exact Or.inr (Or.inr ended)

-- The message in the handler of an actor, and those behind it in the channel.
def waiting (s : ActorSystem P) (id : ActorId) : List (Message P) := about id s.phase.current.toList ++ about id s.rx.queue

theorem waiting_moves (s next : ActorSystem P) (entries : SystemTrace P) (id : ActorId) (finished : entries.events.finished = [])
    (accepted : entries.events.accepted = []) (same : next.waiting id = s.waiting id) :
    about id entries.events.finished ++ next.waiting id = s.waiting id ++ about id entries.events.accepted := by
  simp [finished, accepted, same]

theorem waiting_same (s next : ActorSystem P) (entries : SystemTrace P) (id : ActorId) (finished : entries.events.finished = [])
    (accepted : entries.events.accepted = []) (current : next.phase.current = s.phase.current)
    (queue : next.rx.queue = s.rx.queue) :
    about id entries.events.finished ++ next.waiting id = s.waiting id ++ about id entries.events.accepted :=
  waiting_moves s next entries id finished accepted (by rw [waiting, waiting, current, queue])

theorem waiting_arrives (s next : ActorSystem P) (entries : SystemTrace P) (id : ActorId) (envelope : Message P)
    (finished : entries.events.finished = []) (accepted : entries.events.accepted = [envelope])
    (current : next.phase.current = s.phase.current) (queue : next.rx.queue = s.rx.queue ++ [envelope]) :
    about id entries.events.finished ++ next.waiting id = s.waiting id ++ about id entries.events.accepted := by
  simp [waiting, finished, accepted, current, queue]

theorem waiting_ends (s next : ActorSystem P) (entries : SystemTrace P) (id : ActorId) (envelope : Message P)
    (finished : entries.events.finished = [envelope]) (accepted : entries.events.accepted = [])
    (before : s.phase.current = some envelope) (after : next.phase.current = none) (queue : next.rx.queue = s.rx.queue) :
    about id entries.events.finished ++ next.waiting id = s.waiting id ++ about id entries.events.accepted := by
  simp [waiting, finished, accepted, before, after, queue]

-- Of what was accepted for an actor that is there nothing is lost: it waits
-- until the handler has ended.
theorem waiting_step (log entries : SystemTrace P) (s next : ActorSystem P) (action : SystemAction P) (typed : Typed log s)
    (id : ActorId) (attended : id ∈ s.actors ∨ s.rx.queue = []) (living : next.phase ≠ .ended)
    (moves : Moves s next.sends action entries next) :
    about id entries.events.finished ++ next.waiting id = s.waiting id ++ about id entries.events.accepted := by
  have phase := typed.phase
  generalize next.sends = sends at moves
  cases moves with
  | post blocking i msg addr found alive =>
      exact waiting_arrives s _ _ id (s.envelopeTo addr msg blocking) rfl rfl rfl rfl
  | skip loop envelope rest here queue absent =>
      have different : envelope.actorId ≠ id := by
        rintro rfl
        rcases attended with inside | empty
        · exact AList.lookup_eq_none.mp absent inside
        · simp [empty] at queue
      refine waiting_moves s _ _ id rfl rfl ?_
      simp [waiting, withMail, here, queue, SystemPhase.current, Keyed.select_cons, different]
  | mismatch loop envelope rest cell here queue present untyped =>
      have sent := typed.mail envelope (by rw [queue]; exact List.mem_cons_self)
      exact absurd (typed_unique log s typed _ _ _ (typed.cells _ cell present).1 sent) untyped
  | handle loop envelope rest cell here queue present right =>
      refine waiting_moves s _ _ id rfl rfl ?_
      simp only [waiting, withMail, here, queue, SystemPhase.current, Option.toList_none, Option.toList_some]
      rw [← about_append, ← about_append]
      rfl
  | handled loop envelope cell ctx val reply here running =>
      exact waiting_ends s _ _ id envelope rfl rfl (by rw [here]; rfl) rfl rfl
  | handledStop loop envelope cell ctx val reply here stops =>
      rw [PhaseTyped, here] at phase
      rw [on_stop_typed envelope.actorId (cell.write val) phase.1.2]
      exact waiting_ends s _ _ id envelope rfl rfl (by rw [here]; rfl) rfl rfl
  | handlerPanic loop envelope cell ctx val here =>
      exact waiting_ends s _ _ id envelope rfl rfl (by rw [here]; rfl) rfl rfl
  | stopNext other ids cell here present =>
      rw [on_stop_typed other cell (typed.cells other cell present).2]
      exact waiting_same s _ _ id rfl rfl (by simp [here, SystemPhase.current]) rfl
  | dropSystem => exact absurd rfl living
  | cloneAddr => exact waiting_same s _ _ id rfl rfl rfl rfl
  | dropAddr => exact waiting_same s _ _ id rfl rfl rfl rfl
  | postFailed => exact waiting_same s _ _ id rfl rfl rfl rfl
  | recvResult => exact waiting_same s _ _ id rfl rfl rfl rfl
  | spawnPanic => exact waiting_same s _ _ id rfl rfl rfl rfl
  | disconnected => exact waiting_same s _ _ id rfl rfl rfl rfl
  | shutdown => exact waiting_same s _ _ id rfl rfl rfl rfl
  | _ => exact waiting_same s _ _ id rfl rfl (by simp [*, SystemPhase.current]) rfl

-- A handler of the actor has ended in a step of that handler.
theorem finished_step (log entries : SystemTrace P) (s next : ActorSystem P) (action : SystemAction P) (typed : Typed log s)
    (id : ActorId)
    (busy : ∀ loop envelope cell ctx, s.phase = .handling loop envelope cell ctx → envelope.actorId = id →
      action.ofHandler = false)
    (moves : Moves s next.sends action entries next) : about id entries.events.finished = [] := by
  have phase := typed.phase
  have other (loop : Loop) (envelope : Message P) (cell : ActorCell P) (ctx : Context Empty)
      (here : s.phase = .handling loop envelope cell ctx) (own : action.ofHandler = true) : about id [envelope] = [] := by
    refine Keyed.select_none Envelope.actorId id _ ?_
    intro one member same
    rw [List.mem_singleton.mp member] at same
    rw [busy loop envelope cell ctx here same] at own
    cases own
  generalize next.sends = sends at moves
  cases moves with
  | handled loop envelope cell ctx val reply here running => exact other loop envelope cell ctx here rfl
  | handledStop loop envelope cell ctx val reply here stops =>
      rw [PhaseTyped, here] at phase
      rw [on_stop_typed envelope.actorId (cell.write val) phase.1.2]
      exact other loop envelope cell ctx here rfl
  | handlerPanic loop envelope cell ctx val here => exact other loop envelope cell ctx here rfl
  | mismatch loop envelope rest cell here queue present untyped =>
      have sent := typed.mail envelope (by rw [queue]; exact List.mem_cons_self)
      exact absurd (typed_unique log s typed _ _ _ (typed.cells _ cell present).1 sent) untyped
  | stopNext removed ids cell here present =>
      rw [on_stop_typed removed cell (typed.cells removed cell present).2]
      rfl
  | dropSystem here =>
      rw [SystemTrace.events_drops, Log.finished, Log.filter_map_dropped Event.finishes fun _ => rfl]
      rfl
  | _ => rfl

end ActorSystem

namespace TestKit

-- While the system is there a probe is too, until all is said.
def Attended (kit : TestKit P) : Prop :=
  kit.system.phase ≠ .ended → ∀ id ∈ kit.probes, id ∈ kit.system.actors ∨ kit.system.Silent

theorem attended_system (kit : TestKit P) (tended : Tended kit) (emptied : kit.system.Emptied) (attended : Attended kit)
    (s : ActorSystem P) (action : SystemAction P) (entries : SystemTrace P)
    (taken : kit.system.step action = some (s, entries)) : Attended { kit with system := s } := by
  have moves := ActorSystem.step_moves kit.system s action entries taken
  intro living id member
  have before : kit.system.phase ≠ .ended := fun ended => living (ended_step kit.system s action entries moves ended)
  rcases attended before id member with inside | silent
  · have staying := fun loop envelope cell ctx here (same : envelope.actorId = id) =>
      tended.staying loop envelope cell ctx here (same ▸ member)
    rcases ActorSystem.attended_step kit.system s action entries tended.manned emptied id inside staying moves with
      kept | silent | ended
    · exact Or.inl kept
    · exact Or.inr silent
    · exact absurd ended living
  · exact Or.inr (ActorSystem.silent_step kit.system s action entries tended.manned silent moves)

end TestKit

theorem reach_attended (log : SystemTrace P) (kit : TestKit P) (reached : (testKit P).Reach Machine.free log kit) :
    kit.system.Emptied ∧ TestKit.Attended kit := by
  refine Machine.reach_invariant (testKit P) Machine.free (fun _ kit => kit.system.Emptied ∧ TestKit.Attended kit) ?_ ?_
    log kit reached
  · intro kit start
    rw [start]
    exact ⟨trivial, fun _ id member => by simp [TestKit.new] at member⟩
  · intro log kit action next entries before held _ taken
    obtain ⟨emptied, attended⟩ := held
    have tended := reach_tended log kit before
    have one (s : ActorSystem P) (action : SystemAction P) (entries : SystemTrace P)
        (taken : kit.system.step action = some (s, entries)) :
        s.Emptied ∧ TestKit.Attended { kit with system := s } :=
      ⟨ActorSystem.emptied_step kit.system s action entries emptied tended.manned taken,
        TestKit.attended_system kit tended emptied attended s action entries taken⟩
    cases TestKit.step_moves kit next action entries taken with
    | system action s _ free stepped => exact one s action entries stepped
    | spawned ty val s t first second spawned started =>
        obtain ⟨_, outside, inside⟩ := TestKit.spawned_shape _ _ _ ty val _ _ spawned started
        obtain ⟨mid, there⟩ := one s _ first spawned
        have manned := ActorSystem.manned_step kit.system s _ first tended.manned spawned
        have reached := TestKit.tended_system kit tended s (.spawn ty val) first (fun _ wrong => by cases wrong) spawned
        refine ⟨ActorSystem.emptied_step s t _ second mid manned started, ?_⟩
        intro living id member
        rcases (AList.mem_insert _).mp member with same | old
        · exact Or.inl (same ▸ inside)
        · exact TestKit.attended_system { kit with system := s } reached mid there t _ second started living id old
    | probeHandle reply loop envelope cell ctx messages s _ here found stepped =>
        obtain ⟨mid, there⟩ := one s _ entries stepped
        refine ⟨mid, ?_⟩
        intro living id member
        refine there living id ?_
        rcases (AList.mem_insert _).mp member with same | old
        · exact same ▸ AList.lookup_isSome.mp (by rw [found]; rfl)
        · exact old
    | reset id messages found =>
        refine ⟨emptied, ?_⟩
        intro living other member
        refine attended living other ?_
        rcases (AList.mem_insert _).mp member with same | old
        · exact same ▸ AList.lookup_isSome.mp (by rw [found]; rfl)
        · exact old
    | still => exact ⟨emptied, attended⟩

namespace TestKit

-- The probe is not reset.
def keeping (id : ActorId) : Machine.Rely (TestKit P) (KitAction P) (SystemEntry P) := fun _ _ action =>
  match action with
  | .reset other => other ≠ id
  | _ => True

theorem return_finished (log entries : SystemTrace P) (s next : ActorSystem P) (typed : ActorSystem.Typed log s) (loop : Loop)
    (envelope : Message P) (cell : ActorCell P) (ctx : Context Empty) (here : s.phase = .handling loop envelope cell ctx)
    (val : P.Val) (reply : P.Reply) (taken : s.step (.handlerReturn val reply) = some (next, entries)) :
    entries.events.finished = [envelope] := by
  have moves := ActorSystem.step_moves s next _ entries taken
  have phase := typed.phase
  rw [ActorSystem.PhaseTyped, here] at phase
  generalize next.sends = sends at moves
  generalize returning : SystemAction.handlerReturn val reply = action at moves
  cases moves with
  | handled around other found before value answer same running =>
      rw [here] at same
      cases same
      rfl
  | handledStop around other found before value answer same stops =>
      rw [here] at same
      cases same
      rw [ActorSystem.on_stop_typed envelope.actorId (cell.write value) phase.1.2]
      rfl
  | post blocking => cases blocking <;> cases returning
  | postFailed blocking => cases blocking <;> cases returning
  | _ => cases returning

-- A probe records what its handler has finished with, and nothing else.
theorem records_step (log entries : SystemTrace P) (kit next : TestKit P) (reached : (testKit P).Reach Machine.free log kit)
    (action : KitAction P) (id : ActorId) (recorded : List P.Msg) (known : kit.all id = some recorded)
    (keeps : keeping id log kit action) (taken : kit.step action = some (next, entries)) :
    next.all id = some (recorded ++ payloads id entries.events.finished) := by
  have typed := (reach_system_sound _ _ _ (reach_kit_system log kit reached)).typed
  have member : id ∈ kit.probes := AList.lookup_isSome.mp (by rw [show kit.probes.lookup id = some recorded from known]; rfl)
  have same (s : ActorSystem P) (action : SystemAction P) (entries : SystemTrace P)
      (free : kit.probing = true → action.ofHandler = false) (stepped : kit.system.step action = some (s, entries)) :
      about id entries.events.finished = [] := by
    refine ActorSystem.finished_step log entries kit.system s action typed id ?_ (ActorSystem.step_moves _ _ _ _ stepped)
    intro loop envelope cell ctx here own
    exact free (probing_of_mem kit loop envelope cell ctx here (own ▸ member))
  have nothing (entries : SystemTrace P) (quiet : about id entries.events.finished = []) :
      recorded ++ payloads id entries.events.finished = recorded := by
    rw [payloads, quiet, List.map_nil, List.append_nil]
  cases action with
  | system action =>
      simp only [step, stepSystem] at taken
      split at taken
      · cases taken
      · rename_i allowed
        obtain ⟨⟨s, later⟩, stepped, result⟩ := Option.map_eq_some_iff.mp taken
        cases result
        have quiet := same s action later (by intro probing; simpa [probing] using allowed) stepped
        rw [nothing later quiet]
        exact known
  | spawnProbe ty val =>
      simp only [step, spawnProbe] at taken
      split at taken
      · cases taken
      · rename_i s first spawned
        have quiet := same s (.spawn ty val) first (fun _ => rfl) spawned
        split at taken
        · cases taken
          rw [nothing first quiet]
          exact known
        · rename_i t second started
          cases taken
          have older : id ≠ kit.system.nextId := Nat.ne_of_lt ((reach_tended log kit reached).ids id member)
          have silent : Log.finished (SystemTrace.events second) = [] := by
            simp only [ActorSystem.startedReturn] at started
            split at started <;> cases started
            rfl
          have both : about id (SystemTrace.events (first ++ second)).finished = [] := by
            rw [SystemTrace.events_append, Log.finished_append, silent, List.append_nil]
            exact quiet
          rw [nothing (first ++ second) both]
          exact (AList.lookup_insert_ne older).trans known
  | probeHandle reply =>
      simp only [step, probeHandle] at taken
      split at taken
      · rename_i loop envelope cell ctx here
        split at taken
        · cases taken
        · rename_i messages found
          obtain ⟨⟨s, later⟩, stepped, result⟩ := Option.map_eq_some_iff.mp taken
          cases result
          have ended := return_finished log later kit.system s typed loop envelope cell ctx here _ reply stepped
          rw [ended]
          by_cases own : id = envelope.actorId
          · subst own
            rw [payloads_own, all, AList.lookup_insert]
            rw [all, found] at known
            cases known
            rfl
          · rw [payloads_apart id envelope own, List.append_nil, all, AList.lookup_insert_ne own]
            exact known
      · cases taken
  | reset other =>
      simp only [step, reset, Option.some.injEq] at taken
      split at taken
      · cases taken
        rw [nothing [] rfl]
        exact known
      · cases taken
        rw [nothing [] rfl]
        exact (AList.lookup_insert_ne (Ne.symm keeps)).trans known

theorem waiting_step (log entries : SystemTrace P) (kit next : TestKit P) (reached : (testKit P).Reach Machine.free log kit)
    (action : KitAction P) (id : ActorId) (member : id ∈ kit.probes) (living : next.system.phase ≠ .ended)
    (taken : kit.step action = some (next, entries)) :
    about id entries.events.finished ++ next.system.waiting id = kit.system.waiting id ++ about id entries.events.accepted := by
  have sound := reach_kit_system log kit reached
  have tended := reach_tended log kit reached
  obtain ⟨emptied, attended⟩ := reach_attended log kit reached
  have one (s : ActorSystem P) (action : SystemAction P) (entries : SystemTrace P) (living : s.phase ≠ .ended)
      (stepped : kit.system.step action = some (s, entries)) :
      about id entries.events.finished ++ s.waiting id = kit.system.waiting id ++ about id entries.events.accepted := by
    have moves := ActorSystem.step_moves kit.system s action entries stepped
    have before : kit.system.phase ≠ .ended := fun ended => living (ended_step kit.system s action entries moves ended)
    exact ActorSystem.waiting_step log entries kit.system s action (reach_system_sound _ _ _ sound).typed id
      ((attended before id member).imp_right fun silent => silent.2.1) living moves
  cases step_moves kit next action entries taken with
  | system action s _ free stepped => exact one s action entries living stepped
  | probeHandle reply loop envelope cell ctx messages s _ here found stepped => exact one s _ entries living stepped
  | reset => simp [SystemTrace.events, Log.finished, Log.accepted]
  | still => simp [SystemTrace.events, Log.finished, Log.accepted]
  | spawned ty val s t first second spawned started =>
      have moves := ActorSystem.step_moves s t _ second started
      have alive : s.phase ≠ .ended := fun ended => living (ended_step s t _ second moves ended)
      have mid : (actorSystem P).Reach Machine.free (log ++ first) s :=
        .step log kit.system s (SystemAction.spawn ty val) first sound trivial spawned
      have there := attended_system kit tended emptied attended s _ first spawned alive id member
      have later := ActorSystem.waiting_step (log ++ first) second s t _ (reach_system_sound _ _ _ mid).typed id
        (there.imp_right fun silent => silent.2.1) living moves
      have early := one s _ first alive spawned
      rw [SystemTrace.events_append, Log.finished_append, Log.accepted_append, ActorSystem.about_append,
        ActorSystem.about_append, List.append_assoc, later, ← List.append_assoc, early, List.append_assoc]

-- What is on its way to a probe.
def pending (kit : TestKit P) (id : ActorId) : List P.Msg := (kit.system.waiting id).map fun envelope => envelope.dispatch.msg

-- Since a state in which the probe had recorded these messages.
structure Lossless (id : ActorId) (messages : List P.Msg) (kit : TestKit P) (entries : SystemTrace P) (next : TestKit P)
    (recorded : List P.Msg) : Prop where
  grown : recorded = messages ++ payloads id entries.events.finished
  order : recorded <+: messages ++ kit.pending id ++ payloads id entries.events.accepted
  rest : next.system.phase ≠ .ended →
    recorded ++ next.pending id = messages ++ kit.pending id ++ payloads id entries.events.accepted

theorem ended_quiet (kit next : TestKit P) (action : KitAction P) (entries : SystemTrace P) (ended : next.system.phase = .ended)
    (taken : kit.step action = some (next, entries)) : entries.events.finished = [] := by
  have one (s : ActorSystem P) (action : SystemAction P) (entries : SystemTrace P) (ended : s.phase = .ended)
      (stepped : kit.system.step action = some (s, entries)) : entries.events.finished = [] := by
    have moves := ActorSystem.step_moves kit.system s action entries stepped
    generalize s.sends = sends at moves
    cases moves with
    | dropSystem here =>
        rw [SystemTrace.events_drops, Log.finished]
        exact Log.filter_map_dropped Event.finishes (fun _ => rfl) _
    | _ => first | rfl | cases ended
  cases step_moves kit next action entries taken with
  | system action s _ free stepped => exact one s action entries ended stepped
  | probeHandle reply loop envelope cell ctx messages s _ here found stepped => exact one s _ entries ended stepped
  | reset => rfl
  | still => rfl
  | spawned ty val s t first second spawned started =>
      obtain ⟨_, outside, _⟩ := spawned_shape _ _ _ ty val _ _ spawned started
      change t.phase = _ at ended
      rw [outside] at ended
      cases ended

theorem lossless_step (log earlier entries : SystemTrace P) (kit mid next : TestKit P)
    (reached : (testKit P).Reach Machine.free log mid) (action : KitAction P) (id : ActorId) (messages recorded : List P.Msg)
    (known : mid.all id = some recorded) (lossless : Lossless id messages kit earlier mid recorded)
    (taken : mid.step action = some (next, entries)) :
    Lossless id messages kit (earlier ++ entries) next (recorded ++ payloads id entries.events.finished) := by
  have member : id ∈ mid.probes := AList.lookup_isSome.mp (by rw [show mid.probes.lookup id = some recorded from known]; rfl)
  obtain ⟨grown, order, rest⟩ := lossless
  have more : recorded ++ payloads id entries.events.finished =
      messages ++ payloads id (earlier ++ entries).events.finished := by
    rw [SystemTrace.events_append, Log.finished_append, payloads_append, grown, List.append_assoc]
  have accepted : payloads id (earlier ++ entries).events.accepted =
      payloads id earlier.events.accepted ++ payloads id entries.events.accepted := by
    rw [SystemTrace.events_append, Log.accepted_append, payloads_append]
  by_cases ended : next.system.phase = .ended
  · refine ⟨more, ?_, fun living => absurd ended living⟩
    rw [ended_quiet mid next action entries ended taken, accepted, ← List.append_assoc]
    simpa [payloads] using order.trans (List.prefix_append _ _)
  · have alive : mid.system.phase ≠ .ended := by
      intro gone
      refine ended ?_
      cases step_moves mid next action entries taken with
      | system action s _ free stepped => exact ended_step _ _ _ _ (ActorSystem.step_moves _ _ _ _ stepped) gone
      | probeHandle reply loop envelope cell ctx messages s _ here found stepped => simp [here] at gone
      | reset => exact gone
      | still => exact gone
      | spawned ty val s t first second spawned started =>
          have mid := ended_step _ _ _ _ (ActorSystem.step_moves _ _ _ _ spawned) gone
          exact ended_step _ _ _ _ (ActorSystem.step_moves _ _ _ _ started) mid
    have moved := congrArg (List.map fun envelope => envelope.dispatch.msg)
      (waiting_step log entries mid next reached action id member ended taken)
    rw [List.map_append, List.map_append] at moved
    have balance : recorded ++ payloads id entries.events.finished ++ next.pending id =
        messages ++ kit.pending id ++ payloads id (earlier ++ entries).events.accepted := by
      calc recorded ++ payloads id entries.events.finished ++ next.pending id
          = recorded ++ (payloads id entries.events.finished ++ next.pending id) := List.append_assoc ..
        _ = recorded ++ (mid.pending id ++ payloads id entries.events.accepted) := congrArg (recorded ++ ·) moved
        _ = recorded ++ mid.pending id ++ payloads id entries.events.accepted := (List.append_assoc ..).symm
        _ = messages ++ kit.pending id ++ payloads id (earlier ++ entries).events.accepted := by
          rw [rest alive, accepted, List.append_assoc, List.append_assoc]
    exact ⟨more, ⟨next.pending id, balance⟩, fun _ => balance⟩

-- From any moment on a probe that is not reset records the messages that are
-- accepted for it, each once and in order, whatever the other actors and
-- threads do. While the system is there the rest is on its way.
theorem probes_lossless (log : SystemTrace P) (kit : TestKit P) (reached : (testKit P).Reach Machine.free log kit) (id : ActorId)
    (messages : List P.Msg) (known : kit.all id = some messages) (later : SystemTrace P) (next : TestKit P)
    (run : (testKit P).Runs (keeping id) log kit later next) :
    ∃ entries recorded, later = log ++ entries ∧ next.all id = some recorded ∧
      Lossless id messages kit entries next recorded := by
  induction run with
  | refl =>
      refine ⟨[], messages, (List.append_nil log).symm, known, ?_, ?_, ?_⟩
      · simp [SystemTrace.events, Log.finished, payloads]
      · rw [List.append_assoc]
        exact List.prefix_append _ _
      · intro _
        simp [SystemTrace.events, Log.accepted, payloads]
  | step later mid next action events before allowed taken ih =>
      obtain ⟨entries, recorded, split, there, lossless⟩ := ih
      have weak := Machine.runs_weaken (testKit P) _ _ (fun _ _ _ _ => trivial) log later kit mid before
      have again := Machine.reach_runs (testKit P) Machine.free log later kit mid reached weak
      refine ⟨entries ++ events, recorded ++ payloads id (SystemTrace.events events).finished, ?_, ?_, ?_⟩
      · rw [split, List.append_assoc]
      · exact records_step later events mid next again action id recorded there allowed taken
      · exact lossless_step later entries events kit mid next again action id messages recorded there lossless taken

-- A probe records one message, has the next in hand, and one more waits.
def probeHears : List (KitAction numbers) :=
  [.system (.doSend 0 5), .system .runOnce, .system .recv, .probeHandle 0, .system (.doSend 0 6), .system (.doSend 0 7),
    .system .recv]

theorem probes_lossless_two :
    let kit := (testKit numbers).last (new numbers) [.spawnProbe () 0]
    let next := (testKit numbers).last kit probeHears
    next.all 1 = some [5] ∧ next.pending 1 = [6, 7] ∧ ∃ entries, Lossless 1 [] kit entries next [5] := by
  have reached := Machine.run_reach (testKit numbers) ((testKit numbers).history (new numbers) [.spawnProbe () 0]) (new numbers)
    ((testKit numbers).last (new numbers) [.spawnProbe () 0]) [.spawnProbe () 0] rfl rfl
  have run := Machine.run_runs_rely (testKit numbers) (keeping 1) ((testKit numbers).history (new numbers) [.spawnProbe () 0]) _
    ((testKit numbers).last (new numbers) [.spawnProbe () 0])
    ((testKit numbers).last ((testKit numbers).last (new numbers) [.spawnProbe () 0]) probeHears) probeHears rfl
    (Machine.allowed_actions _ _ _ _ _ (by simp [probeHears, keeping]))
  obtain ⟨entries, recorded, _, there, lossless⟩ := probes_lossless _ _ reached 1 [] rfl _ _ run
  cases there
  exact ⟨rfl, rfl, entries, lossless⟩

end TestKit

end Actinium
