import Actinium.Conservation

set_option autoImplicit false

namespace Actinium

variable {P : Program} {n : Nat}

-- What an event does to the reply channel of a blocking send.
def Event.settles : Event P → Option (Nat × SendState P)
  | .handled envelope reply =>
      if envelope.dispatch.resultTx then some (envelope.dispatch.serial, .replied reply) else none
  | .panicked envelope => if envelope.dispatch.resultTx then some (envelope.dispatch.serial, .hungUp) else none
  | .mismatched envelope => if envelope.dispatch.resultTx then some (envelope.dispatch.serial, .hungUp) else none
  | .dropped envelope => if envelope.dispatch.resultTx then some (envelope.dispatch.serial, .hungUp) else none
  | _ => none

namespace State

theorem set_send_at (s : State P n) (serial k : Nat) (state : SendState P) :
    (s.setSend serial state).sends k =
      if k = serial then (s.sends k).map fun call => { call with state := state } else s.sends k := by
  simp only [setSend, Function.update_apply]
  split
  · rename_i same
    rw [same]
  · rfl

theorem settle_spawn_sends (s : State P n) (id : ActorId) (yes : Bool) : (s.settleSpawn id yes).sends = s.sends := by
  unfold settleSpawn
  split <;> rfl

theorem deliver_sends (s : State P n) (event : Event P) (k : Nat) :
    (∀ state, event.settles ≠ some (k, state)) ∧ (s.deliver event).sends k = s.sends k ∨
      ∃ state, event.settles = some (k, state) ∧
        (s.deliver event).sends k = (s.sends k).map fun call => { call with state := state } := by
  have settle (envelope : Message P) (state : SendState P)
      (here : event.settles = if envelope.dispatch.resultTx then some (envelope.dispatch.serial, state) else none)
      (delivered : s.deliver event = s.settleSend envelope state) :
      (∀ state, event.settles ≠ some (k, state)) ∧ (s.deliver event).sends k = s.sends k ∨
        ∃ state, event.settles = some (k, state) ∧
          (s.deliver event).sends k = (s.sends k).map fun call => { call with state := state } := by
    rw [delivered, here, settleSend]
    by_cases blocking : envelope.dispatch.resultTx = true
    · rw [if_pos blocking, if_pos blocking]
      by_cases same : envelope.dispatch.serial = k
      · right
        exact ⟨state, by rw [same], by rw [set_send_at, if_pos same.symm]⟩
      · left
        refine ⟨fun other wrong => same (Prod.mk.inj (Option.some.inj wrong)).1, ?_⟩
        rw [set_send_at, if_neg (Ne.symm same)]
    · rw [if_neg blocking, if_neg blocking]
      exact Or.inl ⟨by simp, rfl⟩
  cases event with
  | handled envelope reply => exact settle envelope (.replied reply) rfl rfl
  | panicked envelope => exact settle envelope .hungUp rfl rfl
  | mismatched envelope => exact settle envelope .hungUp rfl rfl
  | dropped envelope => exact settle envelope .hungUp rfl rfl
  | confirmed id => exact Or.inl ⟨by simp [Event.settles], by simp [deliver, settle_spawn_sends]⟩
  | refused id => exact Or.inl ⟨by simp [Event.settles], by simp [deliver, settle_spawn_sends]⟩
  | _ => exact Or.inl ⟨by simp [Event.settles], rfl⟩

-- Of several answers in one step the last would count; there is never a second.
theorem deliver_all_sends (s : State P n) (events : Log P) (k : Nat) :
    (∀ event ∈ events, ∀ state, event.settles ≠ some (k, state)) ∧ (events.foldl deliver s).sends k = s.sends k ∨
      ∃ event ∈ events, ∃ state, event.settles = some (k, state) ∧
        (events.foldl deliver s).sends k = (s.sends k).map fun call => { call with state := state } := by
  induction events generalizing s with
  | nil => exact Or.inl ⟨by simp, rfl⟩
  | cons head tail ih =>
      rw [List.foldl_cons]
      rcases ih (s.deliver head) with ⟨silent, same⟩ | ⟨event, member, state, settles, after⟩
      · rw [same]
        rcases deliver_sends s head k with ⟨quiet, unchanged⟩ | ⟨state, settles, after⟩
        · refine Or.inl ⟨?_, unchanged⟩
          intro event member
          rcases List.mem_cons.mp member with rfl | later
          · exact quiet
          · exact silent event later
        · exact Or.inr ⟨head, List.mem_cons_self, state, settles, after⟩
      · refine Or.inr ⟨event, List.mem_cons_of_mem _ member, state, settles, ?_⟩
        rw [after]
        rcases deliver_sends s head k with ⟨_, unchanged⟩ | ⟨first, _, earlier⟩
        · rw [unchanged]
        · rw [earlier, Option.map_map]
          rfl

theorem on_worker_sends (s : State P n) (w : Fin n) (result : Worker.Outcome P n) (k : Nat) :
    (∀ event ∈ result.2, ∀ state, event.settles ≠ some (k, state)) ∧ (s.onWorker w result).1.sends k = s.sends k ∨
      ∃ event ∈ result.2, ∃ state, event.settles = some (k, state) ∧
        (s.onWorker w result).1.sends k = (s.sends k).map fun call => { call with state := state } :=
  deliver_all_sends _ result.2 k

end State

-- What the log of the target's worker says of a send, by what its caller has.
def SendState.Agrees (log : Log P) (envelope : Message P) : SendState P → Prop
  | .waiting => envelope ∉ log.finished ∧ envelope ∉ log.dropped
  | .replied reply => .handled envelope reply ∈ log
  | .hungUp => .panicked envelope ∈ log ∨ envelope ∈ log.dropped
  | .returned (.ok reply) => .handled envelope reply ∈ log
  | .returned (.error .actorNotRunning) => .panicked envelope ∈ log ∨ envelope ∈ log.dropped
  | .returned (.error .runtimeShutdown) => False

-- A send whose envelope was accepted waits for it, or has what became of it.
-- A send whose envelope was not accepted found the channel closed.
structure Answered (log : Trace P n) (s : State P n) : Prop where
  fresh : ∀ k call, s.sends k = some call → k < s.nextSerial
  target : ∀ k call, s.sends k = some call → (call.addr.actorId, call.addr.ty) ∈ (log.worker call.addr.tx).installed
  asked : ∀ w, ∀ envelope ∈ (log.worker w).accepted, envelope.dispatch.resultTx = true →
    ∃ call, s.sends envelope.dispatch.serial = some call ∧ call.addr.tx = w ∧ call.addr.actorId = envelope.actorId
  answers : ∀ k call, s.sends k = some call →
    (∃ envelope ∈ (log.worker call.addr.tx).accepted, envelope.dispatch.serial = k ∧ envelope.dispatch.resultTx = true ∧
      envelope.actorId = call.addr.actorId ∧ call.state.Agrees (log.worker call.addr.tx) envelope) ∨
    call.state = .returned (.error .runtimeShutdown) ∧ (s.workers call.addr.tx).phase.receiving = false ∧
      ∀ w, ∀ envelope ∈ (log.worker w).accepted, envelope.dispatch.serial ≠ k

theorem settles_source (log events : Log P) (event : Event P) (member : event ∈ events) (k : Nat) (state : SendState P)
    (settles : event.settles = some (k, state)) :
    ∃ envelope, envelope.dispatch.serial = k ∧ envelope.dispatch.resultTx = true ∧
      (envelope ∈ events.finished ∨ envelope ∈ events.dropped) ∧ state.Agrees (log ++ events) envelope := by
  have dropping (envelope : Message P) (inside : envelope ∈ events.dropped)
      (here : event.settles = if envelope.dispatch.resultTx then some (envelope.dispatch.serial, .hungUp) else none) :
      ∃ envelope, envelope.dispatch.serial = k ∧ envelope.dispatch.resultTx = true ∧
        (envelope ∈ events.finished ∨ envelope ∈ events.dropped) ∧ state.Agrees (log ++ events) envelope := by
    rw [here] at settles
    split at settles
    · rename_i blocking
      cases settles
      exact ⟨envelope, rfl, blocking, Or.inr inside, Or.inr (by simp [inside])⟩
    · cases settles
  cases event with
  | handled envelope reply =>
      simp only [Event.settles] at settles
      split at settles
      · rename_i blocking
        cases settles
        refine ⟨envelope, rfl, blocking, Or.inl ((Log.mem_finished _ _).mpr (Or.inl ⟨reply, member⟩)), ?_⟩
        exact List.mem_append_right _ member
      · cases settles
  | panicked envelope =>
      simp only [Event.settles] at settles
      split at settles
      · rename_i blocking
        cases settles
        refine ⟨envelope, rfl, blocking, Or.inl ((Log.mem_finished _ _).mpr (Or.inr member)), Or.inl ?_⟩
        exact List.mem_append_right _ member
      · cases settles
  | mismatched envelope => exact dropping envelope ((Log.mem_dropped _ _).mpr (Or.inr member)) rfl
  | dropped envelope => exact dropping envelope ((Log.mem_dropped _ _).mpr (Or.inl member)) rfl
  | _ => cases settles

theorem settles_over (events : Log P) (envelope : Message P) (blocking : envelope.dispatch.resultTx = true)
    (past : envelope ∈ events.finished ∨ envelope ∈ events.dropped) :
    ∃ event ∈ events, ∃ state, event.settles = some (envelope.dispatch.serial, state) := by
  rcases past with finished | dropped
  · rcases (Log.mem_finished _ _).mp finished with ⟨reply, member⟩ | member
    · exact ⟨_, member, .replied reply, by simp [Event.settles, blocking]⟩
    · exact ⟨_, member, .hungUp, by simp [Event.settles, blocking]⟩
  · rcases (Log.mem_dropped _ _).mp dropped with member | member
    · exact ⟨_, member, .hungUp, by simp [Event.settles, blocking]⟩
    · exact ⟨_, member, .hungUp, by simp [Event.settles, blocking]⟩

theorem agrees_later (log events : Log P) (envelope : Message P) (state : SendState P)
    (agrees : state.Agrees log envelope) (finished : envelope ∉ events.finished) (dropped : envelope ∉ events.dropped) :
    state.Agrees (log ++ events) envelope := by
  have hungUp (before : .panicked envelope ∈ log ∨ envelope ∈ log.dropped) :
      .panicked envelope ∈ log ++ events ∨ envelope ∈ (log ++ events).dropped := by
    rcases before with panicked | lost
    · exact Or.inl (List.mem_append_left _ panicked)
    · exact Or.inr (by simp [lost])
  cases state with
  | waiting => exact ⟨by simp [agrees.1, finished], by simp [agrees.2, dropped]⟩
  | replied reply => exact List.mem_append_left _ agrees
  | hungUp => exact hungUp agrees
  | returned result =>
      cases result with
      | ok reply => exact List.mem_append_left _ agrees
      | error error =>
          cases error with
          | actorNotRunning => exact hungUp agrees
          | runtimeShutdown => cases agrees

-- A step of a worker that takes in no mail.
theorem answered_worker (log : Trace P n) (s t : State P n) (routed : State.Routed log s) (answered : Answered log s)
    (sends : t.sends = s.sends) (serial : t.nextSerial = s.nextSerial) (workers : t.workers = s.workers) (v : Fin n)
    (act : Worker.Act P) (result : Worker.Outcome P n) (kept : Worker.promised (log.worker v) (s.workers v) act)
    (taken : (s.workers v).step act = some result) (noAccept : Log.accepted result.2 = []) :
    Answered (log ++ result.2.map (.at v)) (t.onWorker v result).1 := by
  have sound := Worker.sound_step _ _ _ _ _ (Worker.reach_sound v _ _ (routed.workers v)) kept taken
  have moves := Worker.step_moves _ _ _ _ taken
  have accepted (w : Fin n) : (Trace.worker w (log ++ result.2.map (.at v))).accepted = (log.worker w).accepted := by
    rw [Trace.worker_append, Log.accepted_append]
    by_cases same : w = v
    · rw [same, Trace.worker_same, noAccept, List.append_nil]
    · rw [Trace.worker_other w v same]
      exact List.append_nil _
  have settled := State.on_worker_sends t v result
  have origin (k : Nat) (call : SendCall P n) (found : (t.onWorker v result).1.sends k = some call) :
      ∃ before, s.sends k = some before ∧ call.addr = before.addr := by
    rcases settled k with ⟨_, same⟩ | ⟨_, _, state, _, after⟩
    · exact ⟨call, by rw [← sends, ← same, found], rfl⟩
    · rw [found, sends] at after
      obtain ⟨before, inside, equal⟩ := Option.map_eq_some_iff.mp after.symm
      exact ⟨before, inside, by rw [← equal]⟩
  refine ⟨?_, ?_, ?_, ?_⟩
  · intro k call found
    obtain ⟨before, inside, _⟩ := origin k call found
    rw [State.on_worker_next_serial, serial]
    exact answered.fresh k before inside
  · intro k call found
    obtain ⟨before, inside, same⟩ := origin k call found
    rw [same, Trace.worker_append, Log.installed_append]
    exact List.mem_append_left _ (answered.target k before inside)
  · intro w envelope member blocking
    rw [accepted w] at member
    obtain ⟨call, inside, tx, own⟩ := answered.asked w envelope member blocking
    rcases settled envelope.dispatch.serial with ⟨_, same⟩ | ⟨_, _, state, _, after⟩
    · exact ⟨call, by rw [same, sends, inside], tx, own⟩
    · exact ⟨{ call with state := state }, by rw [after, sends, inside]; rfl, tx, own⟩
  · intro k call found
    rcases settled k with ⟨silent, same⟩ | ⟨event, member, state, settles, after⟩
    · have inside : s.sends k = some call := by rw [← sends, ← same, found]
      rcases answered.answers k call inside with ⟨envelope, taken, serial, blocking, own, agrees⟩ | ⟨closed, phase, never⟩
      · left
        refine ⟨envelope, accepted _ ▸ taken, serial, blocking, own, ?_⟩
        rw [Trace.worker_append]
        by_cases here : call.addr.tx = v
        · have quiet (past : envelope ∈ Log.finished result.2 ∨ envelope ∈ Log.dropped result.2) : False := by
            obtain ⟨event, member, state, settles⟩ := settles_over result.2 envelope blocking past
            exact silent event member state (serial ▸ settles)
          rw [here, Trace.worker_same]
          rw [here] at agrees
          exact agrees_later _ _ envelope _ agrees (fun past => quiet (Or.inl past)) (fun past => quiet (Or.inr past))
        · rw [Trace.worker_other _ v here, List.append_nil]
          exact agrees
      · right
        refine ⟨closed, ?_, fun w envelope member => never w envelope (accepted w ▸ member)⟩
        rw [State.on_worker_workers, workers]
        by_cases here : call.addr.tx = v
        · rw [here, Function.update_self]
          exact Worker.receiving_step _ _ _ _ moves (here ▸ phase)
        · rw [Function.update_of_ne here]
          exact phase
    · rw [found, sends] at after
      obtain ⟨before, inside, equal⟩ := Option.map_eq_some_iff.mp after.symm
      obtain ⟨envelope, number, blocking, past, agrees⟩ := settles_source (log.worker v) result.2 event member k state settles
      have taken : envelope ∈ (log.worker v).accepted := by
        have later := Worker.accepted_of_over _ _ sound.mail envelope (by
          rw [Log.finished_append, Log.dropped_append]
          rcases past with finished | dropped
          · exact Or.inl (List.mem_append_right _ finished)
          · exact Or.inr (List.mem_append_right _ dropped))
        rwa [Log.accepted_append, noAccept, List.append_nil] at later
      obtain ⟨asked, there, tx, own⟩ := answered.asked v envelope taken blocking
      rw [number, inside] at there
      cases there
      left
      rw [← equal]
      refine ⟨envelope, by rw [tx, accepted v]; exact taken, number, blocking, own.symm, ?_⟩
      rw [tx, Trace.worker_append, Trace.worker_same]
      exact agrees

-- A step that no worker takes part in, and that gives a caller no answer but
-- the one in its channel.
theorem answered_quiet (log entries : Trace P n) (s next : State P n) (answered : Answered log s)
    (workers : next.workers = s.workers) (silent : ∀ w, entries.worker w = []) (serial : next.nextSerial = s.nextSerial)
    (kept : ∀ k call, s.sends k = some call → ∃ later, next.sends k = some later ∧ later.addr = call.addr)
    (source : ∀ k call, next.sends k = some call → ∃ before, s.sends k = some before ∧ call.addr = before.addr ∧
      (∀ log envelope, before.state.Agrees log envelope → call.state.Agrees log envelope) ∧
      (before.state = .returned (.error .runtimeShutdown) → call.state = before.state)) : Answered (log ++ entries) next := by
  have same (w : Fin n) : Trace.worker w (log ++ entries) = log.worker w := by
    rw [Trace.worker_append, silent, List.append_nil]
  refine ⟨?_, ?_, ?_, ?_⟩
  · intro k call found
    obtain ⟨before, inside, _⟩ := source k call found
    exact serial ▸ answered.fresh k before inside
  · intro k call found
    obtain ⟨before, inside, addr, _⟩ := source k call found
    rw [addr, same]
    exact answered.target k before inside
  · intro w envelope member blocking
    rw [same w] at member
    obtain ⟨call, inside, tx, own⟩ := answered.asked w envelope member blocking
    obtain ⟨later, found, addr⟩ := kept _ call inside
    exact ⟨later, found, by rw [addr, tx], by rw [addr, own]⟩
  · intro k call found
    obtain ⟨before, inside, addr, agree, final⟩ := source k call found
    rcases answered.answers k before inside with ⟨envelope, taken, number, blocking, own, agrees⟩ | ⟨closed, phase, never⟩
    · left
      refine ⟨envelope, ?_, number, blocking, addr ▸ own, ?_⟩
      · rw [addr, same]
        exact taken
      · rw [addr, same]
        exact agree _ envelope agrees
    · right
      refine ⟨(final closed).trans closed, ?_, ?_⟩
      · rw [workers, addr]
        exact phase
      · intro w envelope member
        exact never w envelope (same w ▸ member)

theorem answered_unchanged (log entries : Trace P n) (s next : State P n) (answered : Answered log s)
    (workers : next.workers = s.workers) (silent : ∀ w, entries.worker w = []) (serial : next.nextSerial = s.nextSerial)
    (sends : next.sends = s.sends) : Answered (log ++ entries) next := by
  refine answered_quiet log entries s next answered workers silent serial ?_ ?_
  · intro k call found
    exact ⟨call, by rw [sends, found], rfl⟩
  · intro k call found
    exact ⟨call, by rw [← sends, found], rfl, fun _ _ agrees => agrees, fun _ => rfl⟩

theorem answered_receive (log : Trace P n) (s : State P n) (answered : Answered log s) (serial : Nat) (addr : Addr P n)
    (state final : SendState P) (found : s.sends serial = some ⟨addr, state⟩)
    (agree : ∀ log envelope, state.Agrees log envelope → final.Agrees log envelope)
    (waited : state ≠ .returned (.error .runtimeShutdown)) : Answered (log ++ []) (s.setSend serial final) := by
  refine answered_quiet log [] s _ answered rfl (fun _ => rfl) rfl ?_ ?_
  · intro k call inside
    rw [State.set_send_at, inside]
    split
    · exact ⟨_, rfl, rfl⟩
    · exact ⟨call, rfl, rfl⟩
  · intro k call inside
    rw [State.set_send_at] at inside
    split at inside
    · rename_i same
      subst same
      rw [found] at inside
      cases inside
      exact ⟨_, found, rfl, agree, fun wrong => absurd wrong waited⟩
    · exact ⟨call, inside, rfl, fun _ _ agrees => agrees, fun _ => rfl⟩

theorem begin_send_source (s : State P n) (addr : Addr P n) (blocking : Bool) (state : SendState P) (k : Nat)
    (call : SendCall P n) (found : (s.beginSend addr blocking state).sends k = some call) :
    s.sends k = some call ∨ k = s.nextSerial ∧ blocking = true ∧ call = ⟨addr, state⟩ := by
  simp only [State.beginSend] at found
  split at found
  · rename_i asks
    rw [Function.update_apply] at found
    split at found
    · rename_i same
      exact Or.inr ⟨same, asks, (Option.some.inj found).symm⟩
    · exact Or.inl found
  · exact Or.inl found

theorem begin_send_kept (s : State P n) (addr : Addr P n) (blocking : Bool) (state : SendState P) (k : Nat)
    (call : SendCall P n) (bound : k < s.nextSerial) (found : s.sends k = some call) :
    (s.beginSend addr blocking state).sends k = some call := by
  simp only [State.beginSend]
  split
  · rw [Function.update_of_ne (Nat.ne_of_lt bound), found]
  · exact found

-- Sending to a channel whose receiver is gone.
theorem answered_failed (log : Trace P n) (s : State P n) (routed : State.Routed log s) (answered : Answered log s)
    (addr : Addr P n) (known : addr ∈ s.addrs) (msg : P.Msg) (blocking : Bool)
    (failed : (s.workers addr.tx).post (s.envelopeTo addr msg blocking) = none) :
    Answered (log ++ []) (s.beginSend addr blocking (.returned (.error .runtimeShutdown))) := by
  rw [List.append_nil]
  have closed : (s.workers addr.tx).phase.receiving = false := by
    rw [← (Worker.reach_sound _ _ _ (routed.workers addr.tx)).owned.msgs]
    simp only [Worker.post, Channel.send, Option.map_eq_none_iff, ite_eq_right_iff, reduceCtorEq, imp_false,
      Bool.not_eq_true] at failed
    exact failed
  refine ⟨?_, ?_, ?_, ?_⟩
  · intro k call found
    rcases begin_send_source s addr blocking _ k call found with old | ⟨rfl, _⟩
    · exact Nat.lt_succ_of_lt (answered.fresh k call old)
    · exact Nat.lt_succ_self _
  · intro k call found
    rcases begin_send_source s addr blocking _ k call found with old | ⟨_, _, rfl⟩
    · exact answered.target k call old
    · exact routed.addrs addr known
  · intro w envelope member asks
    obtain ⟨call, inside, tx, own⟩ := answered.asked w envelope member asks
    exact ⟨call, begin_send_kept s addr blocking _ _ call (answered.fresh _ call inside) inside, tx, own⟩
  · intro k call found
    rcases begin_send_source s addr blocking _ k call found with old | ⟨rfl, _, rfl⟩
    · exact answered.answers k call old
    · refine Or.inr ⟨rfl, closed, ?_⟩
      intro w envelope member
      exact Nat.ne_of_lt (routed.serials w envelope member)

theorem answered_posted (log : Trace P n) (s : State P n) (routed : State.Routed log s) (answered : Answered log s)
    (addr : Addr P n) (known : addr ∈ s.addrs) (blocking : Bool) (envelope : Message P) (worker : Worker P n)
    (actor : envelope.actorId = addr.actorId) (serial : envelope.dispatch.serial = s.nextSerial)
    (tx : envelope.dispatch.resultTx = blocking) (phase : worker.phase = (s.workers addr.tx).phase) :
    Answered (log ++ List.map (Entry.at addr.tx) [.accepted envelope])
      ((s.beginSend addr blocking .waiting).onWorker addr.tx (worker, [.accepted envelope])).1 := by
  have other (w : Fin n) (different : w ≠ addr.tx) :
      Trace.worker w (log ++ List.map (Entry.at addr.tx) [.accepted envelope]) = log.worker w := by
    rw [Trace.worker_append, Trace.worker_other w _ different, List.append_nil]
  have here : Trace.worker addr.tx (log ++ List.map (Entry.at addr.tx) [.accepted envelope]) =
      log.worker addr.tx ++ [Event.accepted envelope] := by
    rw [Trace.worker_append, Trace.worker_same]
  have accepted (w : Fin n) (mail : Message P)
      (member : mail ∈ (Trace.worker w (log ++ List.map (Entry.at addr.tx) [.accepted envelope])).accepted) :
      mail ∈ (log.worker w).accepted ∨ w = addr.tx ∧ mail = envelope := by
    by_cases same : w = addr.tx
    · subst same
      rw [here, Log.accepted_append] at member
      exact (List.mem_append.mp member).imp_right fun last => ⟨rfl, List.mem_singleton.mp last⟩
    · rw [other w same] at member
      exact Or.inl member
  have earlier (w : Fin n) (mail : Message P) (member : mail ∈ (log.worker w).accepted) :
      mail ∈ (Trace.worker w (log ++ List.map (Entry.at addr.tx) [.accepted envelope])).accepted := by
    rw [Trace.worker_append, Log.accepted_append]
    exact List.mem_append_left _ member
  refine ⟨?_, ?_, ?_, ?_⟩
  · intro k call found
    rw [State.on_worker_next_serial]
    rcases begin_send_source s addr blocking _ k call found with old | ⟨rfl, _⟩
    · exact Nat.lt_succ_of_lt (answered.fresh k call old)
    · exact Nat.lt_succ_self _
  · intro k call found
    rw [Trace.worker_append, Log.installed_append]
    rcases begin_send_source s addr blocking _ k call found with old | ⟨_, _, rfl⟩
    · exact List.mem_append_left _ (answered.target k call old)
    · exact List.mem_append_left _ (routed.addrs addr known)
  · intro w mail member asks
    rcases accepted w mail member with old | ⟨rfl, rfl⟩
    · obtain ⟨call, inside, leads, own⟩ := answered.asked w mail old asks
      exact ⟨call, begin_send_kept s addr blocking _ _ call (answered.fresh _ call inside) inside, leads, own⟩
    · refine ⟨⟨addr, .waiting⟩, ?_, rfl, actor.symm⟩
      change (s.beginSend addr blocking .waiting).sends mail.dispatch.serial = _
      rw [serial, ← tx, asks]
      exact Function.update_self _ _ _
  · intro k call found
    rcases begin_send_source s addr blocking _ k call found with old | ⟨rfl, asks, rfl⟩
    · rcases answered.answers k call old with ⟨mail, member, number, blocks, own, agrees⟩ | ⟨closed, shut, never⟩
      · left
        refine ⟨mail, earlier _ mail member, number, blocks, own, ?_⟩
        rw [Trace.worker_append]
        by_cases same : call.addr.tx = addr.tx
        · rw [same, Trace.worker_same]
          rw [same] at agrees
          exact agrees_later _ _ mail _ agrees List.not_mem_nil List.not_mem_nil
        · rw [Trace.worker_other _ _ same, List.append_nil]
          exact agrees
      · right
        refine ⟨closed, ?_, ?_⟩
        · rw [State.on_worker_workers]
          by_cases same : call.addr.tx = addr.tx
          · rw [same, Function.update_self, phase, ← same]
            exact shut
          · rw [Function.update_of_ne same]
            exact shut
        · intro w mail member
          rcases accepted w mail member with before | ⟨_, rfl⟩
          · exact never w mail before
          · rw [serial]
            exact Nat.ne_of_gt (answered.fresh k call old)
    · left
      have unknown : envelope ∉ (log.worker addr.tx).accepted := by
        intro member
        exact absurd (routed.serials addr.tx envelope member) (by rw [serial]; exact Nat.lt_irrefl _)
      have mail := (Worker.reach_sound _ _ _ (routed.workers addr.tx)).mail
      refine ⟨envelope, ?_, serial, by rw [tx, asks], actor, ?_, ?_⟩
      · rw [here, Log.accepted_append]
        exact List.mem_append_right _ (List.mem_singleton.mpr rfl)
      · rw [here, Log.finished_append]
        intro past
        rcases List.mem_append.mp past with old | new
        · exact unknown (Worker.accepted_of_over _ _ mail envelope (Or.inl old))
        · cases new
      · rw [here, Log.dropped_append]
        intro past
        rcases List.mem_append.mp past with old | new
        · exact unknown (Worker.accepted_of_over _ _ mail envelope (Or.inr old))
        · cases new

theorem no_accept (old : Worker P n) (act : Worker.Act P) (result : Worker.Outcome P n) (taken : old.step act = some result)
    (other : ∀ envelope, act ≠ .post envelope) : Log.accepted result.2 = [] := by
  apply List.eq_nil_iff_forall_not_mem.mpr
  intro envelope member
  exact other envelope (Worker.accepted_inv (Worker.step_moves _ _ _ _ taken) envelope ((Log.mem_accepted _ _).mp member))

theorem answered_step (log entries : Trace P n) (s next : State P n) (action : Action P n) (routed : State.Routed log s)
    (answered : Answered log s) (moves : State.Moves s action entries next) : Answered (log ++ entries) next := by
  have fresh (id : ActorId) (w : Fin n) (unclaimed : State.Unclaimed log id) :
      id ∉ (log.worker w).known ∧ id ∉ (log.worker w).spawnsSent :=
    ⟨fun known => unclaimed w (Or.inl known), fun sent => unclaimed w (Or.inr sent)⟩
  cases moves with
  | postFailed blocking i msg addr found failed =>
      exact answered_failed log s routed answered addr (List.mem_of_getElem? found) msg blocking failed
  | post blocking i msg addr result found taken =>
      obtain ⟨worker, events⟩ := result
      cases Worker.step_moves _ _ _ _ taken with
      | post _ alive =>
          exact answered_posted log s routed answered addr (List.mem_of_getElem? found) blocking _ _ rfl rfl rfl rfl
  | recvReply serial addr reply found =>
      exact answered_receive log s answered serial addr _ _ found (fun _ _ agrees => agrees) (by simp)
  | recvError serial addr found =>
      exact answered_receive log s answered serial addr _ _ found (fun _ _ agrees => agrees) (by simp)
  | ctxStopWorker w result free taken =>
      exact answered_worker log s s routed answered rfl rfl rfl w .stopCtx result trivial taken
        (no_accept _ _ _ taken (by simp))
  | remote id ty val w result found taken =>
      exact answered_worker log s (s.setCall id ⟨none, ty, .confirming w⟩) routed answered rfl rfl rfl w
        (.postControl (.spawnActor id ⟨ty, val⟩ ty)) result
        ⟨rfl, fresh id w (routed.calls id _ found)⟩ taken (no_accept _ _ _ taken (by simp))
  | direct id via ty val w result found taken =>
      exact answered_worker log s (s.returnAddr id w ty) routed answered rfl rfl rfl w
        (.spawnActorDirect id ⟨ty, val⟩ ty) result
        ⟨rfl, fresh id w (routed.calls id _ found)⟩ taken (no_accept _ _ _ taken (by simp))
  | shutdown w result taken =>
      exact answered_worker log s s routed answered rfl rfl rfl w (.postControl .shutdown) result trivial taken
        (no_accept _ _ _ taken (by simp))
  | ownerShutdown k expects bound result here taken =>
      exact answered_worker log s { s with owner := .shutting (k + 1) expects } routed answered rfl rfl rfl ⟨k, bound⟩
        (.postControl .shutdown) result trivial taken
        (no_accept _ _ _ taken (by simp))
  | worker w act result free taken =>
      exact answered_worker log s s routed answered rfl rfl rfl w (.own (s.msgSenders w) act) result trivial taken
        (no_accept _ _ _ taken (by simp))
  | _ => exact answered_unchanged log _ s _ answered rfl (fun _ => rfl) rfl rfl

theorem reach_answered (rely : Machine.Rely (State P n) (Action P n) (Entry P n)) (log : Trace P n) (s : State P n)
    (reached : (runtime P n).Reach rely log s) : Answered log s :=
  Machine.reach_invariant (runtime P n) rely Answered
    (fun s start => by
      rw [start]
      refine ⟨?_, ?_, ?_, ?_⟩ <;> simp [State.withThreads, Log.accepted])
    (fun log s action next entries before answered _ taken =>
      answered_step log entries s next action (reach_routed rely log s before) answered
        (State.step_moves s next action entries taken)) log s reached

end Actinium
