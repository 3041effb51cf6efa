import Actinium.RuntimeSends
import Actinium.ActorSystemServes
import Actinium.Lib.WaitFor

set_option autoImplicit false

namespace Actinium

variable {P : Program}

-- The reply channels after some events, each of which answers one send at most.
def Settled (events : Log P) (before after : Nat → Option (SendCall P 1)) : Prop :=
  ∀ k, (∀ event ∈ events, ∀ state, event.settles ≠ some (k, state)) ∧ after k = before k ∨
    ∃ event ∈ events, ∃ state, event.settles = some (k, state) ∧
      after k = (before k).map fun call => { call with state := state }

theorem settled_quiet (events : Log P) (sends : Nat → Option (SendCall P 1)) (quiet : ∀ event ∈ events, event.settles = none) :
    Settled events sends sends := by
  intro k
  left
  refine ⟨?_, rfl⟩
  intro event member state settles
  rw [quiet event member] at settles
  cases settles

theorem settled_append (first second : Log P) (before between after : Nat → Option (SendCall P 1))
    (left : Settled first before between) (right : Settled second between after) : Settled (first ++ second) before after := by
  intro k
  rcases right k with ⟨silent, same⟩ | ⟨event, member, state, settles, now⟩
  · rcases left k with ⟨quiet, still⟩ | ⟨event, member, state, settles, now⟩
    · refine Or.inl ⟨?_, same.trans still⟩
      intro event member
      rcases List.mem_append.mp member with old | new
      · exact quiet event old
      · exact silent event new
    · exact Or.inr ⟨event, List.mem_append_left _ member, state, settles, same.trans now⟩
  · refine Or.inr ⟨event, List.mem_append_right _ member, state, settles, ?_⟩
    rw [now]
    rcases left k with ⟨_, still⟩ | ⟨_, _, _, _, earlier⟩
    · rw [still]
    · rw [earlier, Option.map_map]
      rfl

namespace ActorSystem

theorem set_send_at (s : ActorSystem P) (serial k : Nat) (state : SendState P) :
    (s.setSend serial state).sends k =
      if k = serial then (s.sends k).map fun call => { call with state := state } else s.sends k := by
  simp only [setSend, Function.update_apply]
  split
  · rename_i same
    rw [same]
  · rfl

theorem settled_one (s : ActorSystem P) (event : Event P) (envelope : Message P) (state : SendState P)
    (here : event.settles = if envelope.dispatch.resultTx then some (envelope.dispatch.serial, state) else none) :
    Settled [event] s.sends (s.settleSend envelope state).sends := by
  intro k
  simp only [List.mem_singleton, forall_eq, exists_eq_left, here, settleSend]
  by_cases blocking : envelope.dispatch.resultTx = true
  · rw [if_pos blocking, if_pos blocking]
    by_cases same : envelope.dispatch.serial = k
    · right
      exact ⟨state, by rw [same], by rw [set_send_at, if_pos same.symm]⟩
    · left
      refine ⟨fun other wrong => same (Prod.mk.inj (Option.some.inj wrong)).1, ?_⟩
      rw [set_send_at, if_neg (Ne.symm same)]
  · rw [if_neg blocking, if_neg blocking]
    exact Or.inl ⟨by simp, rfl⟩

-- Dropping the channel hangs up on everybody whose message is in it.
theorem settled_drops (mail : List (Message P)) (s : ActorSystem P) :
    Settled (mail.map .dropped) s.sends (mail.foldl (fun s envelope => s.settleSend envelope .hungUp) s).sends := by
  induction mail generalizing s with
  | nil => exact settled_quiet [] _ (by simp)
  | cons head tail ih =>
      exact settled_append [.dropped head] _ _ _ _ (settled_one s _ head .hungUp rfl) (ih (s.settleSend head .hungUp))

theorem on_stop_quiet (id : ActorId) (cell : ActorCell P) : ∀ event ∈ SystemTrace.events (onStop id cell), event.settles = none := by
  unfold onStop
  split <;> simp [SystemTrace.events, SystemEntry.event, Event.settles]

theorem remove_actor_sends (s next : ActorSystem P) (id : ActorId) (resume : Resume) (entries : SystemTrace P)
    (removed : s.removeActor id resume = (next, entries)) : Settled entries.events s.sends next.sends := by
  unfold removeActor at removed
  split at removed
  · cases removed
    exact settled_quiet _ _ (by simp [SystemTrace.events])
  · cases removed
    exact settled_quiet _ _ (on_stop_quiet _ _)

theorem dispatch_sends (s next : ActorSystem P) (loop : Loop) (envelope : Message P) (entries : SystemTrace P)
    (dispatched : s.dispatch loop envelope = (next, entries)) : Settled entries.events s.sends next.sends := by
  simp only [dispatch] at dispatched
  split at dispatched
  · cases dispatched
    exact settled_one { s with phase := .within (.loop loop) } (.dropped envelope) envelope .hungUp rfl
  · split at dispatched
    · cases dispatched
      exact settled_quiet _ _ (by simp [SystemTrace.events, SystemEntry.event, Event.settles])
    · cases dispatched
      exact settled_one { s with phase := .outside } (.mismatched envelope) envelope .hungUp rfl

theorem recv_sends (s next : ActorSystem P) (entries : SystemTrace P) (taken : s.recv = some (next, entries)) :
    Settled entries.events s.sends next.sends := by
  simp only [recv] at taken
  split at taken
  · split at taken
    · split at taken
      · rename_i envelope rx received
        exact dispatch_sends { s with rx := rx } next _ envelope entries (Option.some.inj taken)
      · split at taken
        · cases taken
          exact settled_quiet _ _ (by simp [SystemTrace.events])
        · cases taken
    · cases taken
  · split at taken
    · rename_i envelope rx received
      exact dispatch_sends { s with rx := rx } next _ envelope entries (Option.some.inj taken)
    · cases taken
      exact settled_quiet _ _ (by simp [SystemTrace.events, SystemEntry.event])
  · cases taken

theorem handler_return_sends (s next : ActorSystem P) (val : P.Val) (reply : P.Reply) (entries : SystemTrace P)
    (taken : s.handlerReturn val reply = some (next, entries)) : Settled entries.events s.sends next.sends := by
  simp only [handlerReturn] at taken
  split at taken
  · rename_i loop envelope cell ctx here
    have answered := settled_one { s with actors := s.actors.insert envelope.actorId (cell.write val) }
      (.handled envelope reply) envelope (.replied reply) rfl
    generalize { s with actors := s.actors.insert envelope.actorId (cell.write val) }.settleSend envelope (.replied reply) =
      mid at taken answered
    split at taken
    · cases taken
      exact settled_append [.handled envelope reply] _ _ _ _ answered (remove_actor_sends mid _ _ _ _ rfl)
    · cases taken
      exact answered
  · cases taken

end ActorSystem

namespace SystemAction

-- The steps of the thread that owns the system. The others are those of the
-- holders of an Addr.
def thread : SystemAction P → Option Unit
  | .cloneAddr _ => none
  | .dropAddr _ => none
  | .send _ _ => none
  | .doSend _ _ => none
  | .recvResult _ => none
  | _ => some ()

end SystemAction

namespace ActorSystem

theorem step_sends (s next : ActorSystem P) (action : SystemAction P) (entries : SystemTrace P)
    (taken : s.step action = some (next, entries)) (own : action.thread = some ()) :
    Settled entries.events s.sends next.sends := by
  have quiet (same : next.sends = s.sends) (silent : ∀ event ∈ entries.events, event.settles = none) :
      Settled entries.events s.sends next.sends := by
    rw [same]
    exact settled_quiet _ _ silent
  cases action with
  | cloneAddr i => cases own
  | dropAddr i => cases own
  | send i msg => cases own
  | doSend i msg => cases own
  | recvResult serial => cases own
  | recv => exact recv_sends s next entries taken
  | handlerReturn val reply => exact handler_return_sends s next val reply entries taken
  | handlerPanic val =>
      simp only [step, handlerPanic] at taken
      split at taken
      · rename_i loop envelope cell ctx here
        cases taken
        exact settled_one { s with actors := s.actors.insert envelope.actorId (cell.write val), phase := .outside }
          (.panicked envelope) envelope .hungUp rfl
      · cases taken
  | stopNext =>
      simp only [step, stopNext] at taken
      split at taken
      · cases taken
        exact quiet rfl (by simp [SystemTrace.events])
      · exact remove_actor_sends s next _ _ entries (Option.some.inj taken)
      · cases taken
  | dropSystem =>
      simp only [step, dropSystem] at taken
      split at taken
      · cases taken
        rw [SystemTrace.events_drops]
        exact settled_drops s.rx.queue { s with actors := ∅, rx := s.rx.dropReceiver, tx := false, phase := .ended }
      · cases taken
  | _ =>
      simp only [step, spawn, startedReturn, startedPanic, run, runOnce, ctxStop, hookReturn, hookPanic, takeSnapshot,
        shutdown] at taken
      repeat' split at taken
      all_goals first
        | cases taken; exact quiet rfl (by simp [SystemTrace.events, SystemEntry.event, Event.settles])
        | cases taken

-- The channel is closed when the system has been dropped, and then empty.
structure Channelled (s : ActorSystem P) : Prop where
  ended : s.phase = .ended ↔ s.rx.receiver = false
  drained : s.rx.receiver = false → s.rx.queue = []

theorem channelled_step (entries : SystemTrace P) (s next : ActorSystem P) (action : SystemAction P)
    (channelled : Channelled s) (moves : Moves s next.sends action entries next) : Channelled next := by
  have inside (phase : s.phase ≠ .ended) : s.rx.receiver ≠ false := fun shut => phase (channelled.ended.mpr shut)
  generalize next.sends = sends at moves
  cases moves with
  | cloneAddr => exact ⟨channelled.ended, channelled.drained⟩
  | dropAddr => exact ⟨channelled.ended, channelled.drained⟩
  | postFailed => exact ⟨channelled.ended, channelled.drained⟩
  | recvResult => exact ⟨channelled.ended, channelled.drained⟩
  | post blocking i msg addr found alive =>
      refine ⟨channelled.ended, ?_⟩
      intro shut
      change s.rx.receiver = false at shut
      rw [alive] at shut
      cases shut
  | spawnPanic => exact ⟨channelled.ended, channelled.drained⟩
  | disconnected => exact ⟨channelled.ended, channelled.drained⟩
  | shutdown => exact ⟨channelled.ended, channelled.drained⟩
  | dropSystem => exact ⟨by simp, fun _ => rfl⟩
  | _ =>
      have alive := inside (by simp only [*]; exact fun wrong => by cases wrong)
      exact ⟨by simpa [withMail] using alive, fun shut => absurd shut alive⟩

-- A send whose envelope was accepted waits for it, or has what became of it.
-- A send whose envelope was not accepted found the channel closed.
structure Answered (log : SystemTrace P) (s : ActorSystem P) : Prop where
  fresh : ∀ k call, s.sends k = some call → k < s.nextSerial
  asked : ∀ envelope ∈ log.events.accepted, envelope.dispatch.resultTx = true →
    ∃ call, s.sends envelope.dispatch.serial = some call ∧ call.addr.actorId = envelope.actorId
  answers : ∀ k call, s.sends k = some call →
    (∃ envelope ∈ log.events.accepted, envelope.dispatch.serial = k ∧ envelope.dispatch.resultTx = true ∧
      envelope.actorId = call.addr.actorId ∧ call.state.Agrees log.events envelope) ∨
    call.state = .returned (.error .runtimeShutdown) ∧ s.rx.receiver = false ∧
      ∀ envelope ∈ log.events.accepted, envelope.dispatch.serial ≠ k

theorem over_accepted (log : SystemTrace P) (s : ActorSystem P) (flow : Flow log s) (envelope : Message P)
    (past : envelope ∈ log.events.finished ∨ envelope ∈ log.events.dropped) : envelope ∈ log.events.accepted := by
  apply consumed_accepted log s flow
  rcases past with finished | dropped
  · apply begun_consumed
    rw [flow.begun]
    exact List.mem_append_left _ finished
  · rcases (Log.mem_dropped _ _).mp dropped with member | member
    · exact List.mem_filterMap.mpr ⟨_, member, rfl⟩
    · exact List.mem_filterMap.mpr ⟨_, member, rfl⟩

-- A step of the owner answers those whose messages it is done with.
theorem answered_own (log entries : SystemTrace P) (s next : ActorSystem P) (answered : Answered log s)
    (flow : Flow (log ++ entries) next) (settled : Settled entries.events s.sends next.sends)
    (accepted : entries.events.accepted = []) (serial : next.nextSerial = s.nextSerial)
    (closed : s.rx.receiver = false → next.rx.receiver = false) : Answered (log ++ entries) next := by
  have same : (log ++ entries).events.accepted = log.events.accepted := by simp [accepted]
  refine ⟨?_, ?_, ?_⟩
  · intro k call found
    rw [serial]
    rcases settled k with ⟨_, kept⟩ | ⟨_, _, _, _, after⟩
    · exact answered.fresh k call (kept ▸ found)
    · rw [found] at after
      obtain ⟨before, inside, _⟩ := Option.map_eq_some_iff.mp after.symm
      exact answered.fresh k before inside
  · intro envelope member blocking
    rw [same] at member
    obtain ⟨call, inside, own⟩ := answered.asked envelope member blocking
    rcases settled envelope.dispatch.serial with ⟨_, kept⟩ | ⟨_, _, state, _, after⟩
    · exact ⟨call, kept.trans inside, own⟩
    · exact ⟨{ call with state := state }, by rw [after, inside]; rfl, own⟩
  · intro k call found
    rcases settled k with ⟨silent, kept⟩ | ⟨event, member, state, settles, after⟩
    · rcases answered.answers k call (kept ▸ found) with ⟨envelope, taken, number, blocking, own, agrees⟩ | ⟨shut, gone, never⟩
      · left
        have quiet (past : envelope ∈ entries.events.finished ∨ envelope ∈ entries.events.dropped) : False := by
          obtain ⟨event, member, state, settles⟩ := settles_over _ envelope blocking past
          exact silent event member state (number ▸ settles)
        refine ⟨envelope, same ▸ taken, number, blocking, own, ?_⟩
        rw [SystemTrace.events_append]
        exact agrees_later _ _ envelope _ agrees (fun past => quiet (Or.inl past)) (fun past => quiet (Or.inr past))
      · exact Or.inr ⟨shut, closed gone, fun envelope member => never envelope (same ▸ member)⟩
    · rw [found] at after
      obtain ⟨before, inside, equal⟩ := Option.map_eq_some_iff.mp after.symm
      obtain ⟨envelope, number, blocking, past, agrees⟩ := settles_source log.events entries.events event member k state settles
      have taken : envelope ∈ log.events.accepted := by
        rw [← same]
        apply over_accepted _ next flow
        rw [SystemTrace.events_append, Log.finished_append, Log.dropped_append]
        exact past.imp (List.mem_append_right _) (List.mem_append_right _)
      obtain ⟨asked, there, own⟩ := answered.asked envelope taken blocking
      rw [number, inside] at there
      cases there
      left
      rw [← equal, SystemTrace.events_append]
      exact ⟨envelope, by rw [← SystemTrace.events_append, same]; exact taken, number, blocking, own.symm, agrees⟩

-- A step that changes nothing, or in which a caller takes the answer it has.
theorem answered_still (log : SystemTrace P) (s next : ActorSystem P) (answered : Answered log s)
    (serial : next.nextSerial = s.nextSerial) (rx : next.rx = s.rx)
    (kept : ∀ k call, s.sends k = some call → ∃ later, next.sends k = some later ∧ later.addr = call.addr)
    (source : ∀ k call, next.sends k = some call → ∃ before, s.sends k = some before ∧ call.addr = before.addr ∧
      (∀ log envelope, before.state.Agrees log envelope → call.state.Agrees log envelope) ∧
      (before.state = .returned (.error .runtimeShutdown) → call.state = before.state)) : Answered (log ++ []) next := by
  rw [List.append_nil]
  refine ⟨?_, ?_, ?_⟩
  · intro k call found
    obtain ⟨before, inside, _⟩ := source k call found
    exact serial ▸ answered.fresh k before inside
  · intro envelope member blocking
    obtain ⟨call, inside, own⟩ := answered.asked envelope member blocking
    obtain ⟨later, found, addr⟩ := kept _ call inside
    exact ⟨later, found, by rw [addr, own]⟩
  · intro k call found
    obtain ⟨before, inside, addr, agree, final⟩ := source k call found
    rcases answered.answers k before inside with ⟨envelope, taken, number, blocking, own, agrees⟩ | ⟨shut, gone, never⟩
    · exact Or.inl ⟨envelope, taken, number, blocking, addr ▸ own, agree _ envelope agrees⟩
    · exact Or.inr ⟨(final shut).trans shut, rx ▸ gone, never⟩

theorem answered_receive (log : SystemTrace P) (s : ActorSystem P) (answered : Answered log s) (serial : Nat) (addr : Addr P 1)
    (state final : SendState P) (found : s.sends serial = some ⟨addr, state⟩)
    (agree : ∀ log envelope, state.Agrees log envelope → final.Agrees log envelope)
    (waited : state ≠ .returned (.error .runtimeShutdown)) : Answered (log ++ []) (s.setSend serial final) := by
  refine answered_still log s _ answered rfl rfl ?_ ?_
  · intro k call inside
    rw [set_send_at, inside]
    split
    · exact ⟨_, rfl, rfl⟩
    · exact ⟨call, rfl, rfl⟩
  · intro k call inside
    rw [set_send_at] at inside
    split at inside
    · rename_i same
      subst same
      rw [found] at inside
      cases inside
      exact ⟨_, found, rfl, agree, fun wrong => absurd wrong waited⟩
    · exact ⟨call, inside, rfl, fun _ _ agrees => agrees, fun _ => rfl⟩

theorem begin_send_source (s : ActorSystem P) (addr : Addr P 1) (blocking : Bool) (state : SendState P) (k : Nat)
    (call : SendCall P 1) (found : (s.beginSend addr blocking state).sends k = some call) :
    s.sends k = some call ∨ k = s.nextSerial ∧ blocking = true ∧ call = ⟨addr, state⟩ := by
  simp only [beginSend] at found
  split at found
  · rename_i asks
    rw [Function.update_apply] at found
    split at found
    · rename_i same
      exact Or.inr ⟨same, asks, (Option.some.inj found).symm⟩
    · exact Or.inl found
  · exact Or.inl found

theorem begin_send_kept (s : ActorSystem P) (addr : Addr P 1) (blocking : Bool) (state : SendState P) (k : Nat)
    (call : SendCall P 1) (bound : k < s.nextSerial) (found : s.sends k = some call) :
    (s.beginSend addr blocking state).sends k = some call := by
  simp only [beginSend]
  split
  · rw [Function.update_of_ne (Nat.ne_of_lt bound), found]
  · exact found

theorem answered_refused (log : SystemTrace P) (s : ActorSystem P) (flow : Flow log s) (answered : Answered log s)
    (addr : Addr P 1) (blocking : Bool) (closed : s.rx.receiver = false) :
    Answered (log ++ []) (s.beginSend addr blocking (.returned (.error .runtimeShutdown))) := by
  rw [List.append_nil]
  refine ⟨?_, ?_, ?_⟩
  · intro k call found
    rcases begin_send_source s addr blocking _ k call found with old | ⟨rfl, _⟩
    · exact Nat.lt_succ_of_lt (answered.fresh k call old)
    · exact Nat.lt_succ_self _
  · intro envelope member asks
    obtain ⟨call, inside, own⟩ := answered.asked envelope member asks
    exact ⟨call, begin_send_kept s addr blocking _ _ call (answered.fresh _ call inside) inside, own⟩
  · intro k call found
    rcases begin_send_source s addr blocking _ k call found with old | ⟨rfl, _, rfl⟩
    · exact answered.answers k call old
    · exact Or.inr ⟨rfl, closed, fun envelope member => Nat.ne_of_lt (flow.serials envelope member)⟩

theorem answered_posted (log : SystemTrace P) (s next : ActorSystem P) (flow : Flow log s) (answered : Answered log s)
    (addr : Addr P 1) (msg : P.Msg) (blocking : Bool) (sends : next.sends = (s.beginSend addr blocking .waiting).sends)
    (serial : next.nextSerial = s.nextSerial + 1) (receiver : next.rx.receiver = s.rx.receiver) :
    Answered (log ++ [SystemEntry.at (.accepted (s.envelopeTo addr msg blocking))]) next := by
  have accepted : (log ++ [SystemEntry.at (.accepted (s.envelopeTo addr msg blocking))]).events.accepted =
      log.events.accepted ++ [s.envelopeTo addr msg blocking] := by
    rw [SystemTrace.events_append, Log.accepted_append]
    rfl
  refine ⟨?_, ?_, ?_⟩
  · intro k call found
    rw [serial]
    rcases begin_send_source s addr blocking _ k call (sends ▸ found) with old | ⟨rfl, _⟩
    · exact Nat.lt_succ_of_lt (answered.fresh k call old)
    · exact Nat.lt_succ_self _
  · intro envelope member asks
    rw [accepted] at member
    rw [sends]
    rcases List.mem_append.mp member with old | new
    · obtain ⟨call, inside, own⟩ := answered.asked envelope old asks
      exact ⟨call, begin_send_kept s addr blocking _ _ call (answered.fresh _ call inside) inside, own⟩
    · obtain rfl := List.mem_singleton.mp new
      refine ⟨⟨addr, .waiting⟩, ?_, rfl⟩
      change blocking = true at asks
      subst asks
      exact Function.update_self _ _ _
  · intro k call found
    rw [accepted, SystemTrace.events_append]
    rcases begin_send_source s addr blocking _ k call (sends ▸ found) with old | ⟨rfl, asks, rfl⟩
    · rcases answered.answers k call old with ⟨mail, member, number, blocks, own, agrees⟩ | ⟨shut, gone, never⟩
      · left
        refine ⟨mail, List.mem_append_left _ member, number, blocks, own, ?_⟩
        exact agrees_later _ _ mail _ agrees List.not_mem_nil List.not_mem_nil
      · right
        refine ⟨shut, receiver.trans gone, ?_⟩
        intro envelope member
        rcases List.mem_append.mp member with before | new
        · exact never envelope before
        · rw [List.mem_singleton.mp new]
          exact Nat.ne_of_gt (answered.fresh k call old)
    · left
      have unknown : s.envelopeTo addr msg blocking ∉ log.events.accepted := by
        intro member
        exact Nat.lt_irrefl _ (flow.serials _ member)
      refine ⟨s.envelopeTo addr msg blocking, List.mem_append_right _ (List.mem_singleton.mpr rfl), rfl, asks, rfl, ?_, ?_⟩
      · rw [Log.finished_append]
        intro past
        rcases List.mem_append.mp past with old | new
        · exact unknown (over_accepted log s flow _ (Or.inl old))
        · cases new
      · rw [Log.dropped_append]
        intro past
        rcases List.mem_append.mp past with old | new
        · exact unknown (over_accepted log s flow _ (Or.inr old))
        · cases new

-- The owner puts nothing into the channel.
theorem own_accepts (s next : ActorSystem P) (action : SystemAction P) (entries : SystemTrace P)
    (moves : Moves s next.sends action entries next) (own : action.thread = some ()) :
    entries.events.accepted = [] ∧ next.nextSerial = s.nextSerial := by
  generalize next.sends = sends at moves
  cases moves with
  | post blocking => cases blocking <;> cases own
  | postFailed blocking => cases blocking <;> cases own
  | cloneAddr => cases own
  | dropAddr => cases own
  | recvResult => cases own
  | handledStop loop envelope cell ctx val reply here stops => exact ⟨by unfold onStop; split <;> rfl, rfl⟩
  | stopNext id ids cell here present => exact ⟨by unfold onStop; split <;> rfl, rfl⟩
  | dropSystem here => exact ⟨by simp, rfl⟩
  | _ => exact ⟨rfl, rfl⟩

theorem closed_step (s next : ActorSystem P) (action : SystemAction P) (entries : SystemTrace P)
    (moves : Moves s next.sends action entries next) (closed : s.rx.receiver = false) : next.rx.receiver = false := by
  generalize next.sends = sends at moves
  cases moves with
  | dropSystem => rfl
  | _ => exact closed

theorem answered_step (log entries : SystemTrace P) (s next : ActorSystem P) (action : SystemAction P) (flow : Flow log s)
    (flowNext : Flow (log ++ entries) next) (answered : Answered log s) (taken : s.step action = some (next, entries)) :
    Answered (log ++ entries) next := by
  have moves := step_moves s next action entries taken
  have still (serial : next.nextSerial = s.nextSerial) (rx : next.rx = s.rx) (sends : next.sends = s.sends) :
      Answered (log ++ []) next :=
    answered_still log s next answered serial rx (fun k call found => ⟨call, by rw [sends, found], rfl⟩)
      (fun k call found => ⟨call, by rw [← sends, found], rfl, fun _ _ agrees => agrees, fun _ => rfl⟩)
  have posted (i : Nat) (msg : P.Msg) (blocking : Bool) (taken : s.post i msg blocking = some (next, entries)) :
      Answered (log ++ entries) next := by
    simp only [post] at taken
    split at taken
    · cases taken
    · rename_i addr found
      split at taken
      · rename_i failed
        cases taken
        refine answered_refused log s flow answered addr blocking ?_
        cases alive : s.rx.receiver with
        | false => rfl
        | true => simp [Channel.send, alive] at failed
      · rename_i rx sent
        cases taken
        obtain ⟨alive, shape⟩ := Channel.send_inv _ _ _ sent
        exact answered_posted log s _ flow answered addr msg blocking rfl rfl (by rw [shape])
  cases own : action.thread with
  | some owner =>
      obtain ⟨accepted, serial⟩ := own_accepts s next action entries moves own
      exact answered_own log entries s next answered flowNext (step_sends s next action entries taken own) accepted serial
        (closed_step s next action entries moves)
  | none =>
      cases action with
      | cloneAddr i =>
          simp only [step, Option.map_eq_some_iff] at taken
          obtain ⟨addr, found, same⟩ := taken
          cases same
          exact still rfl rfl rfl
      | dropAddr i =>
          cases taken
          exact still rfl rfl rfl
      | send i msg => exact posted i msg true taken
      | doSend i msg => exact posted i msg false taken
      | recvResult serial =>
          simp only [step, recvResult] at taken
          split at taken
          · rename_i addr reply found
            cases taken
            exact answered_receive log s answered serial addr _ _ found (fun _ _ agrees => agrees) (by simp)
          · rename_i addr found
            cases taken
            exact answered_receive log s answered serial addr _ _ found (fun _ _ agrees => agrees) (by simp)
          · cases taken
      | _ => cases own

end ActorSystem

theorem reach_system_answered (rely : Machine.Rely (ActorSystem P) (SystemAction P) (SystemEntry P)) (log : SystemTrace P)
    (s : ActorSystem P) (reached : (actorSystem P).Reach rely log s) :
    ActorSystem.Answered log s ∧ ActorSystem.Channelled s := by
  refine Machine.reach_invariant (actorSystem P) rely
    (fun log s => ActorSystem.Answered log s ∧ ActorSystem.Channelled s) ?_ ?_ log s reached
  · intro s start
    rw [start]
    exact ⟨⟨by simp [ActorSystem.new], by simp [SystemTrace.events, Log.accepted], by simp [ActorSystem.new]⟩,
      ⟨by simp [ActorSystem.new, Channel.new], fun _ => rfl⟩⟩
  · intro log s action next entries before held allowed taken
    have flow := (reach_system_sound rely log s before).flow
    have flowNext := (reach_system_sound rely _ next (.step log s next action entries before allowed taken)).flow
    exact ⟨ActorSystem.answered_step log entries s next action flow flowNext held.1 taken,
      ActorSystem.channelled_step entries s next action held.2 (ActorSystem.step_moves s next action entries taken)⟩

def SystemTrace.runsOf (log : SystemTrace P) (serial : Nat) : List (Message P) :=
  Keyed.select (fun envelope => envelope.dispatch.serial) serial log.events.begun

theorem Event.begins_consumes (event : Event P) (envelope : Message P) (begins : event.begins = some envelope) :
    event.consumes = some envelope := by
  cases event <;> first | exact begins | cases begins

namespace ActorSystem

theorem begun_serials (log : SystemTrace P) (s : ActorSystem P) (flow : Flow log s) :
    (log.events.begun.map fun envelope => envelope.dispatch.serial).Nodup := by
  have taken : log.events.begun.Sublist log.events.accepted := by
    rw [flow.order]
    exact (Keyed.filter_map_sublist _ _ log.events Event.begins_consumes).trans (List.sublist_append_left _ _)
  exact flow.nodup.sublist (taken.map _)

theorem handled_begun (log : SystemTrace P) (s : ActorSystem P) (flow : Flow log s) (envelope : Message P) (reply : P.Reply)
    (handled : .at (.handled envelope reply) ∈ log) : envelope ∈ log.events.begun := by
  rw [flow.begun]
  apply List.mem_append_left
  exact (Log.mem_finished _ _).mpr (Or.inl ⟨reply, List.mem_filterMap.mpr ⟨_, handled, rfl⟩⟩)

-- A message that was handled was not lost as well, nor handled with another reply.
theorem system_handled_only (log : SystemTrace P) (s : ActorSystem P) (flow : Flow log s) (envelope : Message P)
    (reply : P.Reply) (handled : .handled envelope reply ∈ log.events) :
    (∀ other, .handled envelope other ∈ log.events → other = reply) ∧ .panicked envelope ∉ log.events ∧
      envelope ∉ log.events.dropped := by
  have accepted : log.events.accepted.Nodup := flow.nodup.of_map
  have consumed : log.events.consumed.Nodup := by
    rw [flow.order] at accepted
    exact (List.nodup_append.mp accepted).1
  have finished : log.events.finished.Nodup := by
    have begun := (begun_serials log s flow).of_map
    rw [flow.begun] at begun
    exact (List.nodup_append.mp begun).1
  refine ⟨?_, ?_, ?_⟩
  · intro other again
    have same := Keyed.nodup_filter_map _ log.events finished _ _ envelope handled again rfl rfl
    exact (Event.handled.inj same).2.symm
  · intro panicked
    have same := Keyed.nodup_filter_map _ log.events finished _ _ envelope handled panicked rfl rfl
    cases same
  · intro dropped
    have begun : envelope ∈ log.events.begun := by
      rw [flow.begun]
      exact List.mem_append_left _ ((Log.mem_finished _ _).mpr (Or.inl ⟨reply, handled⟩))
    have began := (Log.mem_begun _ _).mp begun
    rcases (Log.mem_dropped _ _).mp dropped with lost | lost
    · have same := Keyed.nodup_filter_map _ log.events consumed _ _ envelope began lost rfl rfl
      cases same
    · have same := Keyed.nodup_filter_map _ log.events consumed _ _ envelope began lost rfl rfl
      cases same

-- The envelope of a send, once its channel has taken it.
theorem system_send_envelope (log : SystemTrace P) (s : ActorSystem P) (flow : Flow log s) (answered : Answered log s)
    (k : Nat) (call : SendCall P 1) (found : s.sends k = some call) (envelope : Message P)
    (accepted : envelope ∈ log.events.accepted) (serial : envelope.dispatch.serial = k) :
    envelope.actorId = call.addr.actorId ∧ call.state.Agrees log.events envelope := by
  rcases answered.answers k call found with ⟨own, taken, number, _, actor, agrees⟩ | ⟨_, _, never⟩
  · have equal := same_serial log s flow envelope own accepted taken (serial.trans number.symm)
    exact ⟨equal ▸ actor, equal ▸ agrees⟩
  · exact absurd serial (never envelope accepted)

theorem system_handled_answers (log : SystemTrace P) (s : ActorSystem P) (flow : Flow log s) (answered : Answered log s)
    (k : Nat) (call : SendCall P 1) (found : s.sends k = some call) (envelope : Message P) (reply : P.Reply)
    (handled : .handled envelope reply ∈ log.events) (serial : envelope.dispatch.serial = k) :
    call.state = .replied reply ∨ call.state = .returned (.ok reply) := by
  have past := (Log.mem_finished log.events envelope).mpr (Or.inl ⟨reply, handled⟩)
  have accepted := over_accepted log s flow envelope (Or.inl past)
  obtain ⟨_, agrees⟩ := system_send_envelope log s flow answered k call found envelope accepted serial
  obtain ⟨only, calm, kept⟩ := system_handled_only log s flow envelope reply handled
  cases here : call.state with
  | waiting =>
      rw [here] at agrees
      exact absurd past agrees.1
  | replied other =>
      rw [here] at agrees
      exact Or.inl (by rw [only other agrees])
  | hungUp =>
      rw [here] at agrees
      exact absurd agrees (not_or.mpr ⟨calm, kept⟩)
  | returned result =>
      rw [here] at agrees
      cases result with
      | ok other => exact Or.inr (by rw [only other agrees])
      | error error =>
          cases error with
          | actorNotRunning => exact absurd agrees (not_or.mpr ⟨calm, kept⟩)
          | runtimeShutdown => cases agrees

-- A closed channel takes nothing any more.
theorem closed_accepts (log later : SystemTrace P) (s next : ActorSystem P) (reached : (actorSystem P).Reach Machine.free log s)
    (closed : s.rx.receiver = false) (run : (actorSystem P).Runs Machine.free log s later next) :
    later.events.accepted = log.events.accepted := by
  refine (Machine.runs_invariant (actorSystem P) Machine.free
    (fun later mid => mid.rx.receiver = false ∧ (SystemTrace.events later).accepted = log.events.accepted) log s reached ⟨closed, rfl⟩ ?_
    later next run).2
  intro later mid action next entries _ held _ taken
  have moves := step_moves mid next action entries taken
  refine ⟨closed_step mid next action entries moves held.1, ?_⟩
  have silent : (SystemTrace.events entries).accepted = [] := by
    cases own : action.thread with
    | some owner => exact (own_accepts mid next action entries moves own).1
    | none =>
        generalize next.sends = sends at moves
        cases moves with
        | post blocking i msg addr found alive =>
            rw [held.1] at alive
            cases alive
        | cloneAddr => rfl
        | dropAddr => rfl
        | postFailed => rfl
        | recvResult => rfl
        | _ => cases own
  simp [silent, held.2]

-- Once a send has failed, nothing handles its message.
theorem system_failed_unhandled (log later : SystemTrace P) (s next : ActorSystem P)
    (reached : (actorSystem P).Reach Machine.free log s) (run : (actorSystem P).Runs Machine.free log s later next) (k : Nat)
    (addr : Addr P 1) (error : SendError) (found : s.sends k = some ⟨addr, .returned (.error error)⟩) (envelope : Message P)
    (reply : P.Reply) (handled : .handled envelope reply ∈ later.events) : envelope.dispatch.serial ≠ k := by
  intro serial
  have ends := Machine.reach_runs _ _ log later s next reached run
  have flow := (reach_system_sound _ later next ends).flow
  obtain ⟨answered, _⟩ := reach_system_answered _ log s reached
  have finished := (Log.mem_finished later.events envelope).mpr (Or.inl ⟨reply, handled⟩)
  have accepted := over_accepted later next flow envelope (Or.inl finished)
  rcases answered.answers k _ found with ⟨own, taken, number, _, _, agrees⟩ | ⟨_, closed, never⟩
  · obtain ⟨rest, rfl⟩ := Machine.runs_log _ _ log later s next run
    have there : own ∈ (log ++ rest).events.accepted := by
      rw [SystemTrace.events_append, Log.accepted_append]
      exact List.mem_append_left _ taken
    obtain rfl := same_serial _ next flow envelope own accepted there (serial.trans number.symm)
    obtain ⟨_, calm, kept⟩ := system_handled_only _ next flow envelope reply handled
    cases error with
    | actorNotRunning =>
        rcases agrees with panicked | lost
        · exact calm (by simp [panicked])
        · exact kept (by simp [lost])
    | runtimeShutdown => cases agrees
  · rw [closed_accepts log later s next reached closed run] at accepted
    exact never envelope accepted serial

theorem system_waiting_pending (log : SystemTrace P) (s : ActorSystem P) (flow : Flow log s) (answered : Answered log s)
    (k : Nat) (addr : Addr P 1) (found : s.sends k = some ⟨addr, .waiting⟩) :
    ∃ envelope ∈ s.phase.current.toList ++ s.rx.queue, envelope.dispatch.serial = k ∧ envelope.actorId = addr.actorId := by
  rcases answered.answers k _ found with ⟨envelope, taken, number, _, own, unfinished, kept⟩ | ⟨wrong, _⟩
  · refine ⟨envelope, ?_, number, own⟩
    rw [flow.order] at taken
    rcases List.mem_append.mp taken with consumed | waits
    · apply List.mem_append_left
      obtain ⟨event, member, shows⟩ := List.mem_filterMap.mp consumed
      cases event with
      | handling other =>
          cases shows
          have begun := (Log.mem_begun _ _).mpr member
          rw [flow.begun] at begun
          exact (List.mem_append.mp begun).resolve_left unfinished
      | dropped other =>
          cases shows
          exact absurd ((Log.mem_dropped _ _).mpr (Or.inl member)) kept
      | mismatched other =>
          cases shows
          exact absurd ((Log.mem_dropped _ _).mpr (Or.inr member)) kept
      | _ => cases shows
    · exact List.mem_append_right _ waits
  · cases wrong

theorem system_waiting_alive (log : SystemTrace P) (s : ActorSystem P) (flow : Flow log s) (answered : Answered log s)
    (channelled : Channelled s) (k : Nat) (addr : Addr P 1) (found : s.sends k = some ⟨addr, .waiting⟩) :
    s.phase ≠ .ended := by
  intro ended
  obtain ⟨envelope, member, _⟩ := system_waiting_pending log s flow answered k addr found
  rw [ended, channelled.drained (channelled.ended.mp ended)] at member
  cases member

end ActorSystem

-- A blocking send to an actor of the system, at any moment of any run: it
-- returns Ok exactly for the reply of the one run of its handler, once it has
-- failed nothing handles it, and it is never left without an answer.
theorem ActorSystem.system_send_outcome (log : SystemTrace P) (s : ActorSystem P)
    (reached : (actorSystem P).Reach Machine.free log s) (k : Nat) (addr : Addr P 1) (state : SendState P)
    (found : s.sends k = some ⟨addr, state⟩) :
    (∀ result reply, state = .returned result → (result = .ok reply ↔
      ∃ envelope, log.runsOf k = [envelope] ∧ envelope.actorId = addr.actorId ∧ .at (.handled envelope reply) ∈ log)) ∧
    (∀ envelope reply, .at (.handled envelope reply) ∈ log → envelope.dispatch.serial = k →
      state = .replied reply ∨ state = .returned (.ok reply)) ∧
    (∀ error, state = .returned (.error error) → ∀ later next, (actorSystem P).Runs Machine.free log s later next →
      ∀ envelope reply, .at (.handled envelope reply) ∈ later → envelope.dispatch.serial ≠ k) ∧
    (state = .returned (.error .runtimeShutdown) → s.phase = .ended) ∧
    (state = .waiting → s.phase ≠ .ended ∧
      ∃ envelope ∈ s.phase.current.toList ++ s.rx.queue, envelope.dispatch.serial = k ∧ envelope.actorId = addr.actorId) := by
  have flow := (reach_system_sound _ log s reached).flow
  obtain ⟨answered, channelled⟩ := reach_system_answered _ log s reached
  have shows (log : SystemTrace P) (event : Event P) (member : .at event ∈ log) : event ∈ log.events :=
    List.mem_filterMap.mpr ⟨_, member, rfl⟩
  refine ⟨?_, ?_, ?_, ?_, ?_⟩
  · rintro result reply rfl
    constructor
    · rintro rfl
      rcases answered.answers k _ found with ⟨envelope, _, number, _, own, handled⟩ | ⟨wrong, _⟩
      · obtain ⟨entry, member, same⟩ := List.mem_filterMap.mp handled
        cases entry with
        | «at» event =>
            cases same
            refine ⟨envelope, ?_, own, member⟩
            rw [← number]
            exact Keyed.select_single _ _ envelope (begun_serials log s flow) (handled_begun log s flow envelope reply member)
        | _ => cases same
      · cases wrong
    · rintro ⟨envelope, runs, _, handled⟩
      have member : envelope ∈ log.runsOf k := by simp [runs]
      have serial := ((Keyed.mem_select _ _ _ _).mp member).2
      rcases system_handled_answers log s flow answered k _ found envelope reply (shows _ _ handled) serial with wrong | same
      · cases wrong
      · exact SendState.returned.inj same
  · intro envelope reply handled serial
    exact system_handled_answers log s flow answered k _ found envelope reply (shows _ _ handled) serial
  · rintro error rfl later next run envelope reply handled
    exact system_failed_unhandled log later s next reached run k addr error found envelope reply (shows _ _ handled)
  · rintro rfl
    rcases answered.answers k _ found with ⟨_, _, _, _, _, wrong⟩ | ⟨_, closed, _⟩
    · cases wrong
    · exact channelled.ended.mpr closed
  · rintro rfl
    exact ⟨system_waiting_alive log s flow answered channelled k addr found,
      system_waiting_pending log s flow answered k addr found⟩

-- One message is lost with the handler's panic, the next with the system.
def panicThenDrop : List (SystemAction numbers) :=
  [.spawn () 0, .startedReturn 0, .send 0 5, .runOnce, .recv, .handlerPanic 1, .recvResult 0, .send 0 6, .dropSystem]

def panicThenDropLog : SystemTrace numbers :=
  [.starting 1, .started 1, .at (.installed 1 ()), .at (.accepted ⟨1, (), 5, true, 0⟩), .at (.handling ⟨1, (), 5, true, 0⟩),
    .at (.panicked ⟨1, (), 5, true, 0⟩), .at (.accepted ⟨1, (), 6, true, 1⟩), .at (.dropped ⟨1, (), 6, true, 1⟩)]

theorem ActorSystem.system_send_outcome_panic : ∃ s : ActorSystem numbers,
    (actorSystem numbers).Reach Machine.free panicThenDropLog s ∧
      s.sends 0 = some ⟨⟨1, 0, ()⟩, .returned (.error .actorNotRunning)⟩ ∧
      ∀ later next, (actorSystem numbers).Runs Machine.free panicThenDropLog s later next →
        ∀ envelope reply, .at (.handled envelope reply) ∈ later → envelope.dispatch.serial ≠ 0 := by
  have reached := Machine.run_reach (actorSystem numbers) panicThenDropLog _ _ panicThenDrop rfl rfl
  refine ⟨_, reached, rfl, ?_⟩
  intro later next run
  exact (ActorSystem.system_send_outcome _ _ reached 0 ⟨1, 0, ()⟩ _ rfl).2.2.1 _ rfl later next run

namespace ActorSystem

-- A send that waits, waits for the thread that owns the system.
def asks (s : ActorSystem P) (serial : Nat) : Option Unit :=
  match s.sends serial with
  | some ⟨_, .waiting⟩ => some ()
  | _ => none

theorem asks_waiting (s : ActorSystem P) (serial : Nat) : s.asks serial = some () ↔ ∃ addr, s.sends serial = some ⟨addr, .waiting⟩ := by
  simp only [asks]
  constructor
  · intro asked
    split at asked
    · rename_i addr found
      exact ⟨addr, found⟩
    · cases asked
  · rintro ⟨addr, found⟩
    rw [found]

-- A step of a holder of an Addr leaves the owner, and those who wait, as they are.
structure Aside (s next : ActorSystem P) (entries : SystemTrace P) : Prop where
  phase : next.phase = s.phase
  receiver : next.rx.receiver = s.rx.receiver
  trace : ∀ entry ∈ entries, ∃ envelope, entry = .at (.accepted envelope)
  waiting : ∀ k addr, s.sends k = some ⟨addr, .waiting⟩ → next.sends k = some ⟨addr, .waiting⟩
  begun : ∀ k addr state, next.sends k = some ⟨addr, state⟩ → s.sends k ≠ none ∨ state = .waiting ∨ s.rx.receiver = false

theorem aside_still (s next : ActorSystem P) (phase : next.phase = s.phase) (rx : next.rx = s.rx)
    (sends : next.sends = s.sends) : Aside s next [] where
  phase := phase
  receiver := by rw [rx]
  trace := by simp
  waiting := by simp [sends]
  begun := by
    intro k addr state found
    rw [sends] at found
    simp [found]

theorem aside_post (s next : ActorSystem P) (entries : SystemTrace P) (bounded : ∀ k call, s.sends k = some call → k < s.nextSerial)
    (i : Nat) (msg : P.Msg) (blocking : Bool) (taken : s.post i msg blocking = some (next, entries)) : Aside s next entries := by
  have waiting (addr : Addr P 1) (state : SendState P) (k : Nat) (other : Addr P 1)
      (found : s.sends k = some ⟨other, .waiting⟩) :
      (s.beginSend addr blocking state).sends k = some ⟨other, .waiting⟩ :=
    begin_send_kept s addr blocking state k _ (bounded k _ found) found
  simp only [post] at taken
  split at taken
  · cases taken
  · rename_i addr known
    split at taken
    · rename_i failed
      cases taken
      refine ⟨rfl, rfl, by simp, waiting addr _, ?_⟩
      intro k other state found
      rcases begin_send_source s addr blocking _ k _ found with old | ⟨_, _, same⟩
      · simp [old]
      · cases alive : s.rx.receiver with
        | false => exact Or.inr (Or.inr rfl)
        | true => simp [Channel.send, alive] at failed
    · rename_i rx sent
      cases taken
      obtain ⟨_, shape⟩ := Channel.send_inv _ _ _ sent
      refine ⟨rfl, by rw [shape], by simp, waiting addr _, ?_⟩
      intro k other state found
      rcases begin_send_source s addr blocking _ k _ found with old | ⟨_, _, same⟩
      · simp [old]
      · cases same
        exact Or.inr (Or.inl rfl)

theorem aside_receive (s : ActorSystem P) (serial : Nat) (addr : Addr P 1) (state final : SendState P)
    (found : s.sends serial = some ⟨addr, state⟩) (answered : state ≠ .waiting) : Aside s (s.setSend serial final) [] where
  phase := rfl
  receiver := rfl
  trace := by simp
  waiting := by
    intro k other waits
    rw [set_send_at, if_neg, waits]
    rintro rfl
    rw [found] at waits
    cases waits
    exact answered rfl
  begun := by
    intro k other state inside
    left
    rw [set_send_at] at inside
    intro none
    simp [none] at inside

theorem holder_step (s next : ActorSystem P) (action : SystemAction P) (entries : SystemTrace P)
    (bounded : ∀ k call, s.sends k = some call → k < s.nextSerial) (taken : s.step action = some (next, entries))
    (other : action.thread = none) : Aside s next entries := by
  cases action with
  | cloneAddr i =>
      simp only [step, Option.map_eq_some_iff] at taken
      obtain ⟨addr, found, same⟩ := taken
      cases same
      exact aside_still s _ rfl rfl rfl
  | dropAddr i =>
      cases taken
      exact aside_still s _ rfl rfl rfl
  | send i msg => exact aside_post s next entries bounded i msg true taken
  | doSend i msg => exact aside_post s next entries bounded i msg false taken
  | recvResult serial =>
      simp only [step, recvResult] at taken
      split at taken
      · rename_i addr reply found
        cases taken
        exact aside_receive s serial addr _ _ found (by simp)
      · rename_i addr found
        cases taken
        exact aside_receive s serial addr _ _ found (by simp)
      · cases taken
  | _ => cases other

theorem system_asks_unanswered (log : SystemTrace P) (s next : ActorSystem P) (action : SystemAction P)
    (entries : SystemTrace P) (reached : (actorSystem P).Reach Machine.free log s)
    (taken : s.step action = some (next, entries)) (serial : Nat) (owner : Unit) (asked : s.asks serial = some owner)
    (idle : action.thread ≠ some owner) : next.asks serial = some owner := by
  have other : action.thread = none := by
    cases here : action.thread with
    | none => rfl
    | some same => exact absurd here idle
  obtain ⟨addr, waits⟩ := (asks_waiting s serial).mp asked
  have aside := holder_step s next action entries (reach_system_answered _ log s reached).1.fresh taken other
  exact (asks_waiting next serial).mpr ⟨addr, aside.waiting serial addr waits⟩

-- Since the run has come by s, only the holders of an Addr have acted.
structure Stuck (s : ActorSystem P) (log later : SystemTrace P) (mid : ActorSystem P) : Prop where
  phase : mid.phase = s.phase
  receiver : mid.rx.receiver = s.rx.receiver
  trace : ∃ rest, later = log ++ rest ∧ ∀ entry ∈ rest, ∃ envelope, entry = .at (.accepted envelope)
  waiting : ∀ k addr, s.sends k = some ⟨addr, .waiting⟩ → mid.sends k = some ⟨addr, .waiting⟩
  begun : ∀ k addr state, mid.sends k = some ⟨addr, state⟩ → s.sends k = none → state = .waiting

theorem stuck_start (s : ActorSystem P) (log : SystemTrace P) : Stuck s log log s where
  phase := rfl
  receiver := rfl
  trace := ⟨[], by simp, by simp⟩
  waiting := fun _ _ waits => waits
  begun := by
    intro k addr state found none
    rw [none] at found
    cases found

theorem stuck_step (s : ActorSystem P) (log later entries : SystemTrace P) (mid next : ActorSystem P)
    (isOpen : s.rx.receiver ≠ false) (stuck : Stuck s log later mid) (aside : Aside mid next entries) :
    Stuck s log (later ++ entries) next where
  phase := aside.phase.trans stuck.phase
  receiver := aside.receiver.trans stuck.receiver
  trace := by
    obtain ⟨rest, whole, sent⟩ := stuck.trace
    refine ⟨rest ++ entries, by rw [whole, List.append_assoc], ?_⟩
    intro entry member
    rcases List.mem_append.mp member with old | new
    · exact sent entry old
    · exact aside.trace entry new
  waiting := fun k addr waits => aside.waiting k addr (stuck.waiting k addr waits)
  begun := by
    intro k addr state found none
    rcases aside.begun k addr state found with old | new | closed
    · obtain ⟨⟨first, before⟩, there⟩ := Option.ne_none_iff_exists'.mp old
      obtain rfl := stuck.begun k first before there none
      rw [aside.waiting k first there] at found
      cases found
      rfl
    · exact new
    · exact absurd (stuck.receiver.symm.trans closed) isOpen

end ActorSystem

-- A blocking send made by the thread that owns the system, in a callback or
-- between two calls, waits for that thread: it never returns, nothing runs any
-- more, and whoever sends to an actor after it waits for ever too.
theorem ActorSystem.owner_send_hangs (log : SystemTrace P) (s : ActorSystem P)
    (reached : (actorSystem P).Reach Machine.free log s) (k : Nat) (addr : Addr P 1)
    (found : s.sends k = some ⟨addr, .waiting⟩) (later : SystemTrace P) (next : ActorSystem P)
    (run : (actorSystem P).Runs (fun _ s action => Machine.Patient SystemAction.thread asks (fun _ => some k) s action)
      log s later next) :
    next.phase = s.phase ∧
    (∃ rest, later = log ++ rest ∧ ∀ entry ∈ rest, ∃ envelope, entry = .at (.accepted envelope)) ∧
    (∀ k' addr', s.sends k' = some ⟨addr', .waiting⟩ → next.sends k' = some ⟨addr', .waiting⟩) ∧
    ∀ k' addr' state, next.sends k' = some ⟨addr', state⟩ → s.sends k' = none → state = .waiting := by
  have knotted : Machine.Knotted asks (fun _ : Unit => some k) s := by
    intro owner call waiting
    cases waiting
    exact ⟨(), k, (asks_waiting s k).mpr ⟨addr, found⟩, rfl⟩
  have tied := (Machine.runs_knotted (actorSystem P) _ SystemAction.thread asks (fun _ => some k) log s reached knotted
    (fun _ _ _ patient => patient)
    (fun log s action next entries call q before taken asked idle =>
      system_asks_unanswered log s next action entries before taken call q asked idle) later next run).1
  have isOpen : s.rx.receiver ≠ false := by
    obtain ⟨answered, channelled⟩ := reach_system_answered _ log s reached
    intro closed
    exact system_waiting_alive log s (reach_system_sound _ log s reached).flow answered channelled k addr found
      (channelled.ended.mpr closed)
  have held : Stuck s log later next := by
    refine Machine.runs_keep (actorSystem P) _ (Stuck s log) log s reached (stuck_start s log) ?_ later next tied
    intro later mid action next entries before stuck quiet taken
    have other : action.thread = none := by
      cases here : action.thread with
      | none => rfl
      | some owner => exact absurd rfl (quiet owner k here)
    exact stuck_step s log later entries mid next isOpen stuck
      (holder_step mid next action entries (reach_system_answered _ later mid before).1.fresh taken other)
  exact ⟨held.phase, held.trace, held.waiting, held.begun⟩

-- The handler sends to its own actor.
def sendsToItself : List (SystemAction numbers) :=
  [.spawn () 0, .startedReturn 0, .doSend 0 5, .runOnce, .recv, .send 0 6]

theorem ActorSystem.owner_send_hangs_itself : ∃ (log : SystemTrace numbers) (s : ActorSystem numbers),
    (actorSystem numbers).Reach Machine.free log s ∧ ∀ later next,
      (actorSystem numbers).Runs (fun _ s action => Machine.Patient SystemAction.thread asks (fun _ => some 1) s action)
        log s later next → next.sends 1 = some ⟨⟨1, 0, ()⟩, .waiting⟩ := by
  have reached := Machine.run_reach (actorSystem numbers) _ _ _ sendsToItself rfl rfl
  refine ⟨_, _, reached, ?_⟩
  intro later next run
  exact (ActorSystem.owner_send_hangs _ _ reached 1 ⟨1, 0, ()⟩ rfl later next run).2.2.1 1 ⟨1, 0, ()⟩ rfl

end Actinium
