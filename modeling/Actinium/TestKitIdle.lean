import Actinium.TestKitProbes

set_option autoImplicit false

namespace Actinium

variable {P : Program}

def SystemEntry.returns : SystemEntry P → Option Nat
  | .ranOnce count => some count
  | _ => none

namespace SystemTrace

-- What the calls of run_once returned.
def counts (log : SystemTrace P) : List Nat := log.filterMap SystemEntry.returns

@[simp] theorem counts_append (a b : SystemTrace P) : counts (a ++ b) = a.counts ++ counts b := List.filterMap_append

end SystemTrace

-- The same callback, whatever it has done to its Context.
def SystemPhase.sameCallback (before : SystemPhase P) (after : SystemPhase P) : Prop :=
  match before with
  | .handling loop envelope cell _ => ∃ ctx, after = .handling loop envelope cell ctx
  | .stopping id cell _ resume => ∃ ctx, after = .stopping id cell ctx resume
  | _ => False

theorem SystemPhase.same_callback_trans (a b c : SystemPhase P) (first : a.sameCallback b) (second : b.sameCallback c) :
    a.sameCallback c := by
  cases a with
  | handling loop envelope cell ctx =>
      obtain ⟨ctx, rfl⟩ := first
      exact second
  | stopping id cell ctx resume =>
      obtain ⟨ctx, rfl⟩ := first
      exact second
  | _ => exact first.elim

theorem SystemPhase.same_callback_self (a b : SystemPhase P) (same : a.sameCallback b) : b.sameCallback b := by
  cases a with
  | handling loop envelope cell ctx =>
      obtain ⟨ctx, rfl⟩ := same
      exact ⟨ctx, rfl⟩
  | stopping id cell ctx resume =>
      obtain ⟨ctx, rfl⟩ := same
      exact ⟨ctx, rfl⟩
  | _ => exact same.elim

namespace ActorSystem

-- A step of a callback takes nothing out of the channel and moves no actor.
theorem callback_step (s next : ActorSystem P) (step : CallbackStep P) (entries : SystemTrace P)
    (inside : s.phase.sameCallback s.phase) (taken : s.step step.action = some (next, entries)) :
    next.actors = s.actors ∧ entries.events.consumed = [] ∧ entries.counts = [] ∧ s.phase.sameCallback next.phase := by
  cases step with
  | cloneAddr i =>
      simp only [CallbackStep.action, ActorSystem.step, Option.map_eq_some_iff] at taken
      obtain ⟨addr, _, same⟩ := taken
      cases same
      exact ⟨rfl, rfl, rfl, inside⟩
  | dropAddr i =>
      cases taken
      exact ⟨rfl, rfl, rfl, inside⟩
  | doSend i msg =>
      simp only [CallbackStep.action, ActorSystem.step, post] at taken
      split at taken
      · cases taken
      · split at taken <;> cases taken <;> exact ⟨rfl, rfl, rfl, inside⟩
  | stop =>
      simp only [CallbackStep.action, ActorSystem.step, ctxStop] at taken
      split at taken
      · rename_i here
        rw [here] at inside
        exact inside.elim
      · rename_i loop envelope cell ctx here
        cases taken
        refine ⟨rfl, rfl, rfl, ?_⟩
        rw [here]
        exact ⟨ctx.stop, rfl⟩
      · rename_i id cell ctx resume here
        split at taken
        · cases taken
          refine ⟨rfl, rfl, rfl, ?_⟩
          rw [here]
          exact ⟨ctx.stop, rfl⟩
        · cases taken
      · cases taken

end ActorSystem

namespace TestKit

theorem step_system (kit next : TestKit P) (action : SystemAction P) (entries : SystemTrace P)
    (taken : kit.step (.system action) = some (next, entries)) :
    ∃ s, kit.system.step action = some (s, entries) ∧ next = { kit with system := s } := by
  simp only [step, stepSystem] at taken
  split at taken
  · cases taken
  · simp only [Option.map_eq_some_iff] at taken
    obtain ⟨⟨s, later⟩, stepped, same⟩ := taken
    cases same
    exact ⟨s, stepped, rfl⟩

theorem advance_none (x : Exec P) (action : KitAction P) (blocked : x.2.step action = none) : advance x action = x := by
  rw [advance, blocked]

theorem advance_some (x : Exec P) (action : KitAction P) (next : TestKit P) (entries : SystemTrace P)
    (taken : x.2.step action = some (next, entries)) : advance x action = (x.1 ++ entries, next) := by
  rw [advance, taken]

-- What goes on between two of the loop's own steps.
structure Passed (x y : Exec P) (entries : SystemTrace P) : Prop where
  reached : (testKit P).Reach Machine.free y.1 y.2
  grown : y.1 = x.1 ++ entries
  silent : entries.counts = []

theorem passed_refl (x : Exec P) (reached : (testKit P).Reach Machine.free x.1 x.2) : Passed x x [] :=
  ⟨reached, (List.append_nil _).symm, rfl⟩

theorem passed_trans (x y z : Exec P) (a b : SystemTrace P) (first : Passed x y a) (second : Passed y z b) :
    Passed x z (a ++ b) :=
  ⟨second.reached, by rw [second.grown, first.grown, List.append_assoc],
    by rw [SystemTrace.counts_append, first.silent, second.silent]; rfl⟩

theorem passed_step (x : Exec P) (action : KitAction P) (next : TestKit P) (entries : SystemTrace P)
    (reached : (testKit P).Reach Machine.free x.1 x.2) (taken : x.2.step action = some (next, entries))
    (silent : entries.counts = []) : Passed x (advance x action) entries := by
  rw [advance_some x action next entries taken]
  exact ⟨.step x.1 x.2 next action entries reached trivial taken, rfl, silent⟩

-- A callback, up to its return.
theorem perform_passed (x : Exec P) (steps : List (CallbackStep P)) (reached : (testKit P).Reach Machine.free x.1 x.2)
    (inside : x.2.system.phase.sameCallback x.2.system.phase) :
    ∃ entries, Passed x (perform x steps) entries ∧ entries.events.consumed = [] ∧
      (perform x steps).2.probes = x.2.probes ∧ (perform x steps).2.system.actors = x.2.system.actors ∧
      x.2.system.phase.sameCallback (perform x steps).2.system.phase := by
  induction steps generalizing x with
  | nil => exact ⟨[], passed_refl x reached, rfl, rfl, rfl, inside⟩
  | cons first rest ih =>
      rw [perform]
      cases taken : x.2.step (.system first.action) with
      | none =>
          rw [advance_none x _ taken]
          exact ih x reached inside
      | some result =>
          obtain ⟨next, entries⟩ := result
          obtain ⟨s, stepped, rfl⟩ := step_system x.2 next first.action entries taken
          obtain ⟨actors, consumed, counts, same⟩ := ActorSystem.callback_step x.2.system s first entries inside stepped
          have passed := passed_step x _ _ entries reached taken counts
          rw [advance_some x _ _ _ taken] at passed ⊢
          have again := SystemPhase.same_callback_self _ _ same
          obtain ⟨later, more, quiet, probes, map, phase⟩ := ih (x.1 ++ entries, { x.2 with system := s }) passed.reached again
          refine ⟨entries ++ later, passed_trans _ _ _ _ _ passed more, ?_, probes, map.trans actors,
            SystemPhase.same_callback_trans _ _ _ same phase⟩
          rw [SystemTrace.events_append, Log.consumed_append, consumed, quiet]
          rfl

-- A probe whose actor is in the map has recorded these messages more, and its
-- actor still is.
def Records (x y : Exec P) (mail : List (Message P)) : Prop :=
  ∀ id messages, x.2.probes.lookup id = some messages → id ∈ x.2.system.actors →
    y.2.probes.lookup id = some (messages ++ payloads id mail) ∧ id ∈ y.2.system.actors

theorem payloads_own (envelope : Message P) : payloads envelope.actorId [envelope] = [envelope.dispatch.msg] := by
  simp [payloads, Keyed.select_cons]

theorem payloads_apart (id : ActorId) (envelope : Message P) (different : id ≠ envelope.actorId) : payloads id [envelope] = [] := by
  simp [payloads, Keyed.select_cons, Ne.symm different]

-- The loop goes on, at once or after a stopped hook.
def Resumes (loop : Loop) (phase : SystemPhase P) : Prop :=
  phase = .within (.loop loop) ∨ ∃ id cell ctx, phase = .stopping id cell ctx (.loop loop)

theorem on_stop_quiet (id : ActorId) (cell : ActorCell P) :
    (SystemTrace.events (ActorSystem.onStop id cell)).consumed = [] ∧ SystemTrace.counts (ActorSystem.onStop id cell) = [] := by
  unfold ActorSystem.onStop
  split <;> exact ⟨rfl, rfl⟩

-- A handler that returns goes back to the loop. If it asked to stop, its actor
-- and no other leaves the map.
theorem handler_return_shape (s : ActorSystem P) (loop : Loop) (envelope : Message P) (cell : ActorCell P) (ctx : Context Empty)
    (here : s.phase = .handling loop envelope cell ctx) (val : P.Val) (reply : P.Reply) :
    ∃ (next : ActorSystem P) (entries : SystemTrace P), s.step (.handlerReturn val reply) = some (next, entries) ∧ entries.events.consumed = [] ∧
      entries.counts = [] ∧ Resumes loop next.phase ∧
      ∀ id ∈ s.actors, (ctx.running = true ∨ id ≠ envelope.actorId) → id ∈ next.actors := by
  obtain ⟨⟨next, entries⟩, taken⟩ : ∃ result, s.step (.handlerReturn val reply) = some result := by
    rw [← Option.isSome_iff_exists]
    simp only [ActorSystem.step, ActorSystem.handlerReturn, here]
    split <;> rfl
  refine ⟨next, entries, taken, ?_⟩
  have moves := ActorSystem.step_moves s next _ entries taken
  generalize next.sends = sends at moves
  generalize returning : SystemAction.handlerReturn val reply = action at moves
  cases moves with
  | handled around other found before value answer same running =>
      rw [here] at same
      cases same
      exact ⟨rfl, rfl, Or.inl rfl, fun id inside _ => (AList.mem_insert _).mpr (Or.inr inside)⟩
  | handledStop around other found before value answer same stops =>
      rw [here] at same
      cases same
      obtain ⟨consumed, counts⟩ := on_stop_quiet envelope.actorId (cell.write value)
      refine ⟨consumed, counts, Or.inr ⟨_, _, _, rfl⟩, ?_⟩
      rintro id inside (running | different)
      · rw [stops] at running
        cases running
      · exact AList.mem_erase.mpr ⟨different, inside⟩
  | post blocking => cases blocking <;> cases returning
  | postFailed blocking => cases blocking <;> cases returning
  | _ => cases returning

-- The handler of one envelope, from its beginning to its return.
theorem handle_passed (cb : Callbacks P) (x : Exec P) (reached : (testKit P).Reach Machine.free x.1 x.2) (loop : Loop)
    (envelope : Message P) (cell : ActorCell P) (ctx : Context Empty)
    (here : x.2.system.phase = .handling loop envelope cell ctx) :
    ∃ entries, Passed x (handle cb x) entries ∧ entries.events.consumed = [] ∧ Resumes loop (handle cb x).2.system.phase ∧
      Records x (handle cb x) [envelope] := by
  have tended := reach_tended x.1 x.2 reached
  have unfolded : handle cb x = if x.2.probing then advance x (.probeHandle (cb.handle x.1 x.2).reply)
      else advance (perform x (cb.handle x.1 x.2).steps)
        (.system (.handlerReturn (cb.handle x.1 x.2).val (cb.handle x.1 x.2).reply)) := by
    simp only [handle, here]
  rw [unfolded]
  cases found : x.2.probes.lookup envelope.actorId with
  | some messages =>
      have member : envelope.actorId ∈ x.2.probes := AList.lookup_isSome.mp (by rw [found]; rfl)
      rw [if_pos (probing_of_mem x.2 loop envelope cell ctx here member)]
      obtain ⟨s, entries, stepped, consumed, counts, resumes, stays⟩ :=
        handler_return_shape x.2.system loop envelope cell ctx here cell.actor.val (cb.handle x.1 x.2).reply
      have taken : x.2.step (.probeHandle (cb.handle x.1 x.2).reply) =
          some (⟨s, x.2.probes.insert envelope.actorId (messages ++ [envelope.dispatch.msg])⟩, entries) := by
        have returned : x.2.system.handlerReturn cell.actor.val (cb.handle x.1 x.2).reply = some (s, entries) := stepped
        simp [step, probeHandle, here, found, returned]
      refine ⟨entries, passed_step x _ _ entries reached taken counts, consumed, ?_, ?_⟩
      · rw [advance_some x _ _ _ taken]
        exact resumes
      · rw [advance_some x _ _ _ taken]
        intro id recorded known inside
        have kept := stays id inside (Or.inl (tended.staying loop envelope cell ctx here member))
        by_cases same : id = envelope.actorId
        · subst same
          rw [found] at known
          cases known
          exact ⟨by rw [AList.lookup_insert, payloads_own], kept⟩
        · exact ⟨by rw [AList.lookup_insert_ne same, payloads_apart id envelope same, List.append_nil]; exact known, kept⟩
  | none =>
      have missing : x.2.probing = false := by simp [probing, here, found]
      rw [if_neg (by simp [missing])]
      obtain ⟨entries, passed, consumed, probes, actors, phase⟩ :=
        perform_passed x (cb.handle x.1 x.2).steps reached (by rw [here]; exact ⟨ctx, rfl⟩)
      rw [here] at phase
      obtain ⟨left, later⟩ := phase
      generalize perform x (cb.handle x.1 x.2).steps = y at passed probes actors later
      obtain ⟨s, more, stepped, quiet, counts, resumes, stays⟩ :=
        handler_return_shape y.2.system loop envelope cell left later (cb.handle x.1 x.2).val (cb.handle x.1 x.2).reply
      have still : y.2.probing = false := by simp [probing, later, probes, found]
      have taken : y.2.step (.system (.handlerReturn (cb.handle x.1 x.2).val (cb.handle x.1 x.2).reply)) =
          some ({ y.2 with system := s }, more) := by simp [step, stepSystem, still, stepped, onSystem]
      have last := passed_step y _ _ more passed.reached taken counts
      refine ⟨entries ++ more, passed_trans x y _ _ _ passed last, ?_, ?_, ?_⟩
      · rw [SystemTrace.events_append, Log.consumed_append, consumed, quiet]
        rfl
      · rw [advance_some y _ _ _ taken]
        exact resumes
      · rw [advance_some y _ _ _ taken]
        intro id recorded known inside
        have different : id ≠ envelope.actorId := by
          intro same
          rw [same, found] at known
          cases known
        refine ⟨?_, stays id (actors ▸ inside) (Or.inr different)⟩
        rw [payloads_apart id envelope different, List.append_nil, ← known]
        exact congrArg (fun map => AList.lookup id map) probes

theorem hook_return_shape (s : ActorSystem P) (id : ActorId) (cell : ActorCell P) (ctx : Context Empty) (resume : Resume)
    (here : s.phase = .stopping id cell ctx resume) :
    ∃ entries : SystemTrace P, s.step .hookReturn = some ({ s with phase := .within resume }, entries) ∧
      entries.events.consumed = [] ∧ entries.counts = [] := by
  simp only [ActorSystem.step, ActorSystem.hookReturn, here]
  split <;> exact ⟨_, rfl, rfl, rfl⟩

theorem stopped_passed (cb : Callbacks P) (x : Exec P) (reached : (testKit P).Reach Machine.free x.1 x.2) (loop : Loop)
    (resumes : Resumes loop x.2.system.phase) :
    ∃ entries, Passed x (stopped cb x) entries ∧ entries.events.consumed = [] ∧
      (stopped cb x).2.system.phase = .within (.loop loop) ∧ Records x (stopped cb x) [] := by
  have kept (y : Exec P) (probes : y.2.probes = x.2.probes) (actors : y.2.system.actors = x.2.system.actors) : Records x y [] := by
    intro id messages known inside
    rw [probes, actors, known]
    exact ⟨congrArg some (List.append_nil messages).symm, inside⟩
  rcases resumes with here | ⟨id, cell, ctx, here⟩
  · have unfolded : stopped cb x = x := by simp only [stopped, here]
    rw [unfolded]
    exact ⟨[], passed_refl x reached, rfl, here, kept x rfl rfl⟩
  · have unfolded : stopped cb x = advance (perform x (cb.stopped x.1 x.2)) (.system .hookReturn) := by simp only [stopped, here]
    rw [unfolded]
    obtain ⟨entries, passed, consumed, probes, actors, phase⟩ :=
      perform_passed x (cb.stopped x.1 x.2) reached (by rw [here]; exact ⟨ctx, rfl⟩)
    rw [here] at phase
    obtain ⟨left, later⟩ := phase
    generalize perform x (cb.stopped x.1 x.2) = y at passed probes actors later
    obtain ⟨more, stepped, quiet, counts⟩ := hook_return_shape y.2.system id cell left (.loop loop) later
    have taken : y.2.step (.system .hookReturn) =
        some ({ y.2 with system := { y.2.system with phase := .within (.loop loop) } }, more) := by
      simp [step, stepSystem, SystemAction.ofHandler, stepped, onSystem]
    refine ⟨entries ++ more, passed_trans x y _ _ _ passed (passed_step y _ _ more passed.reached taken counts), ?_, ?_, ?_⟩
    · rw [SystemTrace.events_append, Log.consumed_append, consumed, quiet]
      rfl
    · rw [advance_some y _ _ _ taken]
    · rw [advance_some y _ _ _ taken]
      exact kept _ probes actors

theorem records_trans (x y z : Exec P) (a b : List (Message P)) (first : Records x y a) (second : Records y z b) :
    Records x z (a ++ b) := by
  intro id messages known inside
  obtain ⟨mid, kept⟩ := first id messages known inside
  rw [payloads_append, ← List.append_assoc]
  exact second id _ mid kept

-- recv takes the first envelope, which its actor is given unless it is gone.
theorem recv_shape (s : ActorSystem P) (typed : ∃ log, ActorSystem.Typed log s) (count : Nat)
    (here : s.phase = .within (.loop (.runOnce count))) (envelope : Message P) (rest : List (Message P))
    (queue : s.rx.queue = envelope :: rest) :
    ∃ (next : ActorSystem P) (entries : SystemTrace P), s.step .recv = some (next, entries) ∧
      entries.events.consumed = [envelope] ∧ entries.counts = [] ∧ next.actors = s.actors ∧
      (envelope.actorId ∉ s.actors ∧ next.phase = .within (.loop (.runOnce (count + 1))) ∨
        ∃ cell, next.phase = .handling (.runOnce (count + 1)) envelope cell (.new envelope.actorId)) := by
  obtain ⟨next, entries, taken⟩ : ∃ next entries, s.step .recv = some (next, entries) := by
    have received : s.rx.tryRecv = some (envelope, { s.rx with queue := rest }) := by simp [Channel.tryRecv, queue]
    cases shape : ({ s with rx := { s.rx with queue := rest } } : ActorSystem P).dispatch (.runOnce (count + 1)) envelope with
    | mk next entries => exact ⟨next, entries, by simp [ActorSystem.step, ActorSystem.recv, here, received, ← shape]⟩
  refine ⟨next, entries, taken, ?_⟩
  obtain ⟨log, typed⟩ := typed
  have moves := ActorSystem.step_moves s next _ entries taken
  generalize next.sends = sends at moves
  generalize receiving : SystemAction.recv = action at moves
  cases moves with
  | ranOnce other same empty => simp [queue] at empty
  | disconnected same => simp [here] at same
  | skip loop other others same found absent =>
      rw [here] at same
      rw [queue] at found
      cases same
      cases found
      exact ⟨rfl, rfl, rfl, Or.inl ⟨AList.lookup_eq_none.mp absent, rfl⟩⟩
  | mismatch loop other others cell same found present untyped =>
      exact absurd (ActorSystem.no_mismatch log s typed other others found cell present) untyped
  | handle loop other others cell same found present right =>
      rw [here] at same
      rw [queue] at found
      cases same
      cases found
      exact ⟨rfl, rfl, rfl, Or.inr ⟨cell, rfl⟩⟩
  | post blocking => cases blocking <;> cases receiving
  | postFailed blocking => cases blocking <;> cases receiving
  | _ => cases receiving

-- One round of the loop of run_once.
theorem round_passed (cb : Callbacks P) (x : Exec P) (reached : (testKit P).Reach Machine.free x.1 x.2) (count : Nat)
    (here : x.2.system.phase = .within (.loop (.runOnce count))) (envelope : Message P) (rest : List (Message P))
    (queue : x.2.system.rx.queue = envelope :: rest) :
    ∃ entries, Passed x (round cb x) entries ∧ entries.events.consumed = [envelope] ∧
      (round cb x).2.system.phase = .within (.loop (.runOnce (count + 1))) ∧ Records x (round cb x) [envelope] := by
  have typed := (reach_system_sound _ _ _ (reach_kit_system x.1 x.2 reached)).typed
  obtain ⟨s, first, stepped, consumed, counts, actors, next⟩ := recv_shape x.2.system ⟨x.1, typed⟩ count here envelope rest queue
  have taken : x.2.step (.system .recv) = some ({ x.2 with system := s }, first) := by
    simp [step, stepSystem, SystemAction.ofHandler, stepped, onSystem]
  have begun := passed_step x _ _ first reached taken counts
  rw [advance_some x _ _ _ taken] at begun
  have unfolded : round cb x = stopped cb (handle cb (x.1 ++ first, { x.2 with system := s })) := by
    rw [round, advance_some x _ _ _ taken]
  rw [unfolded]
  generalize same : (x.1 ++ first, ({ x.2 with system := s } : TestKit P)) = y at begun
  rcases next with ⟨absent, phase⟩ | ⟨cell, phase⟩
  · have skipped : Records x y [envelope] := by
      intro id messages known inside
      have different : id ≠ envelope.actorId := fun equal => absent (equal ▸ inside)
      rw [payloads_apart id envelope different, List.append_nil, ← same]
      exact ⟨known, actors ▸ inside⟩
    have here : y.2.system.phase = .within (.loop (.runOnce (count + 1))) := by rw [← same]; exact phase
    have idle : handle cb y = y := by simp only [handle, here]
    rw [idle]
    obtain ⟨last, ended, quiet, back, records⟩ := stopped_passed cb y begun.reached _ (Or.inl here)
    refine ⟨first ++ last, passed_trans x y _ _ _ begun ended, ?_, back, records_trans x y _ [envelope] [] skipped records⟩
    rw [SystemTrace.events_append, Log.consumed_append, consumed, quiet]
    rfl
  · have here : y.2.system.phase = .handling (.runOnce (count + 1)) envelope cell (.new envelope.actorId) := by
      rw [← same]
      exact phase
    have untouched : Records x y [] := by
      intro id messages known inside
      rw [← same]
      exact ⟨known.trans (congrArg some (List.append_nil messages).symm), actors ▸ inside⟩
    obtain ⟨middle, handled, silent, resumes, served⟩ := handle_passed cb y begun.reached _ envelope cell _ here
    obtain ⟨last, ended, quiet, back, records⟩ := stopped_passed cb (handle cb y) handled.reached _ resumes
    refine ⟨first ++ (middle ++ last), passed_trans x y _ _ _ begun (passed_trans y _ _ _ _ handled ended), ?_, back, ?_⟩
    · rw [SystemTrace.events_append, SystemTrace.events_append, Log.consumed_append, Log.consumed_append, consumed, silent, quiet]
      rfl
    · exact records_trans x y _ [] [envelope] untouched (records_trans y _ _ [envelope] [] served records)

theorem idle_shape (s : ActorSystem P) (count : Nat) (here : s.phase = .within (.loop (.runOnce count)))
    (empty : s.rx.queue = []) : s.step .recv = some ({ s with phase := .outside }, [.ranOnce count]) := by
  have received := (Channel.try_recv_none s.rx).mpr empty
  simp [ActorSystem.step, ActorSystem.recv, here, received]

-- The loop of run_once, by induction on the fuel. Every round consumes one of
-- the envelopes there can be, so there are fewer left than before.
theorem run_once_loop_ends (cb : Callbacks P) (bound fuel : Nat) (x : Exec P) (reached : (testKit P).Reach Machine.free x.1 x.2)
    (count : Nat) (here : x.2.system.phase = .within (.loop (.runOnce count)))
    (finite : ∀ k, (rounds cb k x).1.events.accepted.length ≤ bound) (enough : bound - x.1.events.consumed.length < fuel) :
    ∃ entries y, runOnceLoop cb fuel x = some (y, count + entries.events.consumed.length) ∧
      (testKit P).Reach Machine.free y.1 y.2 ∧ y.1 = x.1 ++ entries ∧ y.2.system.phase = .outside ∧
      y.2.system.rx.queue = [] ∧ entries.counts = [count + entries.events.consumed.length] ∧
      Records x y entries.events.consumed := by
  induction fuel generalizing x count with
  | zero => exact absurd enough (Nat.not_lt_zero _)
  | succ fuel ih =>
      rw [runOnceLoop, here]
      cases queue : x.2.system.rx.queue with
      | nil =>
          have received := (Channel.try_recv_none x.2.system.rx).mpr queue
          have stepped := idle_shape x.2.system count here queue
          have taken : x.2.step (.system .recv) =
              some ({ x.2 with system := { x.2.system with phase := .outside } }, [.ranOnce count]) := by
            simp [step, stepSystem, SystemAction.ofHandler, stepped, onSystem]
          refine ⟨[.ranOnce count], advance x (.system .recv), ?_, ?_, ?_⟩
          · simp only [received]
            rfl
          · rw [advance_some x _ _ _ taken]
            exact .step x.1 x.2 _ (KitAction.system .recv) _ reached trivial taken
          · rw [advance_some x _ _ _ taken]
            refine ⟨rfl, rfl, queue, rfl, ?_⟩
            intro id messages known inside
            exact ⟨known.trans (congrArg some (List.append_nil messages).symm), inside⟩
      | cons envelope rest =>
          have received : x.2.system.rx.tryRecv = some (envelope, { x.2.system.rx with queue := rest }) := by
            simp [Channel.tryRecv, queue]
          have flow := (reach_system_sound _ _ _ (reach_kit_system x.1 x.2 reached)).flow
          have room : x.1.events.consumed.length < bound := by
            have most := finite 0
            rw [rounds, flow.order, queue, List.length_append, List.length_cons] at most
            omega
          obtain ⟨first, passed, consumed, phase, records⟩ := round_passed cb x reached count here envelope rest queue
          obtain ⟨later, y, ended, again, grown, outside, empty, counts, others⟩ :=
            ih (round cb x) passed.reached (count + 1) phase (fun k => finite (k + 1)) (by
              rw [passed.grown, SystemTrace.events_append, Log.consumed_append, consumed, List.length_append, List.length_singleton]
              omega)
          have total : count + (first ++ later).events.consumed.length = count + 1 + later.events.consumed.length := by
            rw [SystemTrace.events_append, Log.consumed_append, consumed, List.length_append, List.length_singleton]
            omega
          refine ⟨first ++ later, y, ?_, again, ?_, outside, empty, ?_, ?_⟩
          · simp only [received, ended, total]
          · rw [grown, passed.grown, List.append_assoc]
          · rw [SystemTrace.counts_append, passed.silent, counts, total]
            rfl
          · rw [SystemTrace.events_append, Log.consumed_append, consumed]
            exact records_trans x _ y _ _ records others

theorem run_once_begins (x : Exec P) (reached : (testKit P).Reach Machine.free x.1 x.2) (here : x.2.system.phase = .outside) :
    (testKit P).Reach Machine.free (advance x (.system .runOnce)).1 (advance x (.system .runOnce)).2 ∧
      (advance x (.system .runOnce)).1 = x.1 ∧ (advance x (.system .runOnce)).2.probes = x.2.probes ∧
      (advance x (.system .runOnce)).2.system = { x.2.system with phase := .within (.loop (.runOnce 0)) } := by
  have taken : x.2.step (.system .runOnce) =
      some ({ x.2 with system := { x.2.system with phase := .within (.loop (.runOnce 0)) } }, []) := by
    simp [step, stepSystem, SystemAction.ofHandler, ActorSystem.step, ActorSystem.runOnce, here, onSystem]
  rw [advance_some x _ _ _ taken, List.append_nil]
  refine ⟨?_, rfl, rfl, rfl⟩
  have stepped : (testKit P).Reach Machine.free (x.1 ++ []) { x.2 with system := { x.2.system with phase := .within (.loop (.runOnce 0)) } } :=
    .step x.1 x.2 _ (KitAction.system .runOnce) [] reached trivial taken
  rwa [List.append_nil] at stepped

-- What a call of run_once has done when it returns.
structure RanOnce (x y : Exec P) (entries : SystemTrace P) : Prop where
  reached : (testKit P).Reach Machine.free y.1 y.2
  grown : y.1 = x.1 ++ entries
  outside : y.2.system.phase = .outside
  empty : y.2.system.rx.queue = []
  counts : entries.counts = [entries.events.consumed.length]
  records : Records x y entries.events.consumed

theorem run_once_ends (cb : Callbacks P) (bound fuel : Nat) (x : Exec P) (reached : (testKit P).Reach Machine.free x.1 x.2)
    (here : x.2.system.phase = .outside)
    (finite : ∀ k, (rounds cb k (advance x (.system .runOnce))).1.events.accepted.length ≤ bound) (enough : bound < fuel) :
    ∃ entries y, runOnce cb fuel x = some (y, entries.events.consumed.length) ∧ RanOnce x y entries := by
  obtain ⟨begun, log, probes, system⟩ := run_once_begins x reached here
  obtain ⟨entries, y, ended, again, grown, outside, empty, counts, records⟩ :=
    run_once_loop_ends cb bound fuel _ begun 0 (by rw [system]) finite (Nat.lt_of_le_of_lt (Nat.sub_le _ _) enough)
  rw [Nat.zero_add] at ended counts
  refine ⟨entries, y, ended, again, by rw [grown, log], outside, empty, counts, ?_⟩
  intro id messages known inside
  exact records id messages (by rw [probes]; exact known) (by rw [system]; exact inside)

-- A call with nothing pending returns 0.
theorem run_once_idle (cb : Callbacks P) (fuel : Nat) (x : Exec P) (reached : (testKit P).Reach Machine.free x.1 x.2)
    (here : x.2.system.phase = .outside) (nothing : x.2.system.rx.queue = []) :
    ∃ y, runOnce cb (fuel + 1) x = some (y, 0) ∧ RanOnce x y [.ranOnce 0] := by
  obtain ⟨begun, log, probes, system⟩ := run_once_begins x reached here
  rw [runOnce]
  generalize advance x (.system .runOnce) = mid at begun log probes system
  have phase : mid.2.system.phase = .within (.loop (.runOnce 0)) := by rw [system]
  have empty : mid.2.system.rx.queue = [] := by rw [system]; exact nothing
  have received := (Channel.try_recv_none mid.2.system.rx).mpr empty
  have stepped := idle_shape mid.2.system 0 phase empty
  have taken : mid.2.step (.system .recv) =
      some ({ mid.2 with system := { mid.2.system with phase := .outside } }, [.ranOnce 0]) := by
    simp [step, stepSystem, SystemAction.ofHandler, stepped, onSystem]
  have passed : (testKit P).Reach Machine.free (mid.1 ++ [SystemEntry.ranOnce 0])
      { mid.2 with system := { mid.2.system with phase := .outside } } :=
    .step mid.1 mid.2 _ (KitAction.system .recv) _ begun trivial taken
  refine ⟨(mid.1 ++ [SystemEntry.ranOnce 0], { mid.2 with system := { mid.2.system with phase := .outside } }), ?_, passed,
    congrArg (· ++ [SystemEntry.ranOnce 0]) log, rfl, empty, rfl, ?_⟩
  · simp only [runOnceLoop, phase, received, advance_some mid _ _ _ taken]
  · intro id messages known inside
    refine ⟨?_, ?_⟩
    · rw [← probes] at known
      exact known.trans (congrArg some (List.append_nil messages).symm)
    · change id ∈ mid.2.system.actors
      rw [system]
      exact inside

-- The loop calls run_once until it has nothing to do, which is once more than
-- it takes.
theorem run_until_idle_ends (cb : Callbacks P) (bound fuel : Nat) (x : Exec P)
    (reached : (testKit P).Reach Machine.free x.1 x.2) (here : x.2.system.phase = .outside)
    (finite : ∀ k, (rounds cb k (advance x (.system .runOnce))).1.events.accepted.length ≤ bound) :
    ∃ later y, runUntilIdle cb (bound + fuel + 3) x = some y ∧ (testKit P).Reach Machine.free y.1 y.2 ∧ y.1 = x.1 ++ later ∧
      y.2.system.rx.queue = [] ∧ later.counts.sum = later.events.consumed.length ∧ Records x y later.events.consumed := by
  obtain ⟨first, y, ran, once⟩ := run_once_ends cb bound (bound + fuel + 2) x reached here finite (by omega)
  rw [runUntilIdle, ran]
  by_cases more : first.events.consumed.length > 0
  · simp only [if_pos more]
    obtain ⟨z, again, twice⟩ := run_once_idle cb (bound + fuel) y once.reached once.outside once.empty
    refine ⟨first ++ [SystemEntry.ranOnce 0], z, ?_, twice.reached, ?_, twice.empty, ?_, ?_⟩
    · rw [runUntilIdle, again]
      rfl
    · rw [twice.grown, once.grown, List.append_assoc]
    · rw [SystemTrace.counts_append, once.counts, SystemTrace.events_append, Log.consumed_append]
      simp [SystemTrace.counts, SystemEntry.returns, SystemTrace.events, SystemEntry.event, Log.consumed]
    · rw [SystemTrace.events_append, Log.consumed_append]
      exact records_trans x y z _ _ once.records twice.records
  · simp only [if_neg more]
    refine ⟨first, y, rfl, once.reached, once.grown, once.empty, ?_, once.records⟩
    rw [once.counts]
    rfl

-- run_until_idle comes to an end with nothing pending. What was pending and
-- what was sent meanwhile has been consumed in the order in which it entered
-- the channel, each envelope once, and every probe has recorded its share.
theorem run_until_idle_quiesces (cb : Callbacks P) (log : SystemTrace P) (kit : TestKit P)
    (reached : (testKit P).Reach Machine.free log kit) (here : kit.system.phase = .outside)
    (finite : FiniteCascade cb (log, kit)) :
    ∃ enough, ∀ fuel, enough ≤ fuel → ∃ (later : SystemTrace P) (final : TestKit P),
      runUntilIdle cb fuel (log, kit) = some (log ++ later, final) ∧ final.system.rx.queue = [] ∧
        later.events.consumed = kit.system.rx.queue ++ later.events.accepted ∧
        (later.events.consumed.map fun envelope => envelope.dispatch.serial).Nodup ∧
        (∀ id messages, kit.all id = some messages → (∃ addr ∈ kit.system.addrs, addr.actorId = id) →
          final.all id = some (messages ++ payloads id later.events.consumed)) ∧
        later.counts.sum = later.events.consumed.length := by
  obtain ⟨bound, most⟩ := finite
  refine ⟨bound + 3, ?_⟩
  intro fuel enough
  obtain ⟨later, ⟨whole, final⟩, ended, again, grown, empty, counts, records⟩ :=
    run_until_idle_ends cb bound (fuel - (bound + 3)) (log, kit) reached here most
  rw [show bound + (fuel - (bound + 3)) + 3 = fuel by omega] at ended
  simp only at grown again empty
  subst grown
  have before := (reach_system_sound _ _ _ (reach_kit_system log kit reached)).flow
  have after := (reach_system_sound _ _ _ (reach_kit_system _ _ again)).flow
  have order := after.order
  rw [empty, List.append_nil] at order
  refine ⟨later, final, ended, empty, ?_, ?_, ?_, counts⟩
  · rw [SystemTrace.events_append, Log.accepted_append, Log.consumed_append, before.order, List.append_assoc] at order
    exact (List.append_cancel_left order).symm
  · have nodup := after.nodup
    rw [order, SystemTrace.events_append, Log.consumed_append, List.map_append] at nodup
    exact nodup.of_append_right
  · rintro id messages known ⟨addr, held, _⟩
    have member : id ∈ kit.probes := AList.lookup_isSome.mp (by rw [show kit.probes.lookup id = some messages from known]; rfl)
    rcases (reach_tended log kit reached).alive (by simp [here]) id member with inside | unheld
    · exact (records id messages known inside).1
    · rw [unheld.1] at held
      cases held

theorem rounds_still (cb : Callbacks P) (x : Exec P) (still : round cb x = x) (k : Nat) : rounds cb k x = x := by
  induction k with
  | zero => rfl
  | succ k ih => rw [rounds, still, ih]

-- A probe and an actor that passes on to it what it gets.
def probeAndWorker : List (KitAction numbers) :=
  [.spawnProbe () 0, .system (.spawn () 0), .system (.startedReturn 0), .system (.doSend 1 5)]

def probeAndWorkerLog : SystemTrace numbers :=
  [.starting 1, .started 1, .at (.installed 1 ()), .starting 2, .started 2, .at (.installed 2 ()),
    .at (.accepted ⟨2, (), 5, false, 0⟩)]

def passesOn : Callbacks numbers := ⟨fun _ _ => ⟨[.doSend 0 7], 0, 0⟩, fun _ _ => []⟩

theorem run_until_idle_chain : ∃ fuel later final,
    runUntilIdle passesOn fuel (probeAndWorkerLog, (testKit numbers).last (new numbers) probeAndWorker) =
      some (probeAndWorkerLog ++ later, final) ∧ payloads 1 later.events.consumed = [7] ∧ final.all 1 = some [7] := by
  have reached := Machine.run_reach (testKit numbers) probeAndWorkerLog (new numbers)
    ((testKit numbers).last (new numbers) probeAndWorker) probeAndWorker rfl rfl
  have finite : FiniteCascade passesOn (probeAndWorkerLog, (testKit numbers).last (new numbers) probeAndWorker) := by
    refine ⟨2, ?_⟩
    intro k
    match k with
    | 0 => exact Nat.le_of_ble_eq_true rfl
    | 1 => exact Nat.le_of_ble_eq_true rfl
    | 2 => exact Nat.le_of_ble_eq_true rfl
    | k + 3 =>
        rw [rounds, rounds, rounds, rounds_still passesOn _ rfl k]
        exact Nat.le_of_ble_eq_true rfl
  obtain ⟨enough, ends⟩ := run_until_idle_quiesces passesOn _ _ reached rfl finite
  obtain ⟨later, final, ended, _, _, _, probes, _⟩ := ends (enough + 6) (Nat.le_add_right _ _)
  have heard := probes 1 [] rfl ⟨⟨1, 0, ()⟩, List.mem_cons_self, rfl⟩
  have passed : final.all 1 = some [7] := by
    have computed : runUntilIdle passesOn (enough + 6) (probeAndWorkerLog, (testKit numbers).last (new numbers) probeAndWorker) =
      some (_, _) := rfl
    rw [computed] at ended
    rw [← (Prod.mk.inj (Option.some.inj ended)).2]
    rfl
  refine ⟨enough + 6, later, final, ended, ?_, passed⟩
  rw [passed] at heard
  exact (Option.some.inj heard).symm

end TestKit

end Actinium
