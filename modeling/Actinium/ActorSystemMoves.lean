import Actinium.ActorSystem
import Actinium.WorkerPlaces

set_option autoImplicit false

namespace Actinium

variable {P : Program}

-- The loop after one more message.
def Loop.counted : Loop → Loop
  | .run => .run
  | .runOnce count => .runOnce (count + 1)

namespace ActorSystem

def withMail (s : ActorSystem P) (mail : List (Message P)) : ActorSystem P := { s with rx := { s.rx with queue := mail } }

def postAction (blocking : Bool) (i : Nat) (msg : P.Msg) : SystemAction P :=
  if blocking then .send i msg else .doSend i msg

-- What one step can do to the system, whatever becomes of the reply channels.
-- Every invariant of the system is proved by cases on this relation.
inductive Moves (s : ActorSystem P) (sends : Nat → Option (SendCall P 1)) :
    SystemAction P → List (SystemEntry P) → ActorSystem P → Prop where
  | cloneAddr (i : Nat) (addr : Addr P 1) (found : s.addrs[i]? = some addr) :
      Moves s sends (.cloneAddr i) [] { s with addrs := s.addrs ++ [addr], sends := sends }
  | dropAddr (i : Nat) : Moves s sends (.dropAddr i) [] { s with addrs := s.addrs.eraseIdx i, sends := sends }
  | postFailed (blocking : Bool) (i : Nat) (msg : P.Msg) (failed : s.rx.receiver = false) :
      Moves s sends (postAction blocking i msg) [] { s with nextSerial := s.nextSerial + 1, sends := sends }
  | post (blocking : Bool) (i : Nat) (msg : P.Msg) (addr : Addr P 1) (found : s.addrs[i]? = some addr)
      (alive : s.rx.receiver = true) :
      Moves s sends (postAction blocking i msg) [.at (.accepted (s.envelopeTo addr msg blocking))]
        { s.withMail (s.rx.queue ++ [s.envelopeTo addr msg blocking]) with nextSerial := s.nextSerial + 1, sends := sends }
  | recvResult (serial : Nat) : Moves s sends (.recvResult serial) [] { s with sends := sends }
  | spawn (ty : P.Ty) (val : P.Val) (here : s.phase = .outside) (sender : s.tx = true) :
      Moves s sends (.spawn ty val) [.starting s.nextId]
        { s with nextId := s.nextId + 1, phase := .starting s.nextId ty val (.new s.nextId), sends := sends }
  | spawnPanic (ty : P.Ty) (val : P.Val) (here : s.phase = .outside) (gone : s.tx = false) :
      Moves s sends (.spawn ty val) [] { s with nextId := s.nextId + 1, sends := sends }
  | startedReturn (id : ActorId) (ty : P.Ty) (old val : P.Val) (ctx : Context Empty)
      (here : s.phase = .starting id ty old ctx) :
      Moves s sends (.startedReturn val) [.started id, .at (.installed id ty)]
        { s with
          actors := s.actors.insert id ⟨⟨ty, val⟩, ty⟩
          addrs := s.addrs ++ [⟨id, 0, ty⟩]
          phase := .outside
          sends := sends }
  | startedPanic (id : ActorId) (ty : P.Ty) (val : P.Val) (ctx : Context Empty) (here : s.phase = .starting id ty val ctx) :
      Moves s sends .startedPanic [.startPanicked id] { s with phase := .outside, sends := sends }
  | run (here : s.phase = .outside) :
      Moves s sends .run [] { s with running := true, tx := false, phase := .within (.loop .run), sends := sends }
  | runOnce (here : s.phase = .outside) :
      Moves s sends .runOnce [] { s with phase := .within (.loop (.runOnce 0)), sends := sends }
  | ranOnce (count : Nat) (here : s.phase = .within (.loop (.runOnce count))) (empty : s.rx.queue = []) :
      Moves s sends .recv [.ranOnce count] { s with phase := .outside, sends := sends }
  | disconnected (here : s.phase = .within (.loop .run)) (empty : s.rx.queue = []) (none : s.senders = 0) :
      Moves s sends .recv [] { s with running := false, sends := sends }
  | skip (loop : Loop) (envelope : Message P) (rest : List (Message P)) (here : s.phase = .within (.loop loop))
      (queue : s.rx.queue = envelope :: rest) (absent : s.actors.lookup envelope.actorId = none) :
      Moves s sends .recv [.at (.dropped envelope)]
        { s.withMail rest with phase := .within (.loop loop.counted), sends := sends }
  | mismatch (loop : Loop) (envelope : Message P) (rest : List (Message P)) (cell : ActorCell P)
      (here : s.phase = .within (.loop loop)) (queue : s.rx.queue = envelope :: rest)
      (present : s.actors.lookup envelope.actorId = some cell) (untyped : cell.actor.ty ≠ envelope.dispatch.ty) :
      Moves s sends .recv [.at (.mismatched envelope)] { s.withMail rest with phase := .outside, sends := sends }
  | handle (loop : Loop) (envelope : Message P) (rest : List (Message P)) (cell : ActorCell P)
      (here : s.phase = .within (.loop loop)) (queue : s.rx.queue = envelope :: rest)
      (present : s.actors.lookup envelope.actorId = some cell) (typed : cell.actor.ty = envelope.dispatch.ty) :
      Moves s sends .recv [.at (.handling envelope)]
        { s.withMail rest with phase := .handling loop.counted envelope cell (.new envelope.actorId), sends := sends }
  | stopStarted (id : ActorId) (ty : P.Ty) (val : P.Val) (ctx : Context Empty) (here : s.phase = .starting id ty val ctx) :
      Moves s sends .ctxStop [] { s with phase := .starting id ty val ctx.stop, sends := sends }
  | stopHandler (loop : Loop) (envelope : Message P) (cell : ActorCell P) (ctx : Context Empty)
      (here : s.phase = .handling loop envelope cell ctx) :
      Moves s sends .ctxStop [.stopRequested envelope] { s with phase := .handling loop envelope cell ctx.stop, sends := sends }
  | stopHook (id : ActorId) (cell : ActorCell P) (ctx : Context Empty) (resume : Resume)
      (here : s.phase = .stopping id cell ctx resume) :
      Moves s sends .ctxStop [] { s with phase := .stopping id cell ctx.stop resume, sends := sends }
  | handled (loop : Loop) (envelope : Message P) (cell : ActorCell P) (ctx : Context Empty) (val : P.Val) (reply : P.Reply)
      (here : s.phase = .handling loop envelope cell ctx) (running : ctx.running = true) :
      Moves s sends (.handlerReturn val reply) [.at (.handled envelope reply)]
        { s with
          actors := s.actors.insert envelope.actorId (cell.write val)
          phase := .within (.loop loop)
          sends := sends }
  | handledStop (loop : Loop) (envelope : Message P) (cell : ActorCell P) (ctx : Context Empty) (val : P.Val)
      (reply : P.Reply) (here : s.phase = .handling loop envelope cell ctx) (stops : ctx.running = false) :
      Moves s sends (.handlerReturn val reply)
        (.at (.handled envelope reply) :: onStop envelope.actorId (cell.write val))
        { s with
          actors := s.actors.erase envelope.actorId
          phase := .stopping envelope.actorId (cell.write val) (.new envelope.actorId) (.loop loop)
          sends := sends }
  | handlerPanic (loop : Loop) (envelope : Message P) (cell : ActorCell P) (ctx : Context Empty) (val : P.Val)
      (here : s.phase = .handling loop envelope cell ctx) :
      Moves s sends (.handlerPanic val) [.at (.panicked envelope)]
        { s with actors := s.actors.insert envelope.actorId (cell.write val), phase := .outside, sends := sends }
  | hookReturn (id : ActorId) (cell : ActorCell P) (ctx : Context Empty) (resume : Resume)
      (here : s.phase = .stopping id cell ctx resume) (typed : cell.actor.ty = cell.onStop) :
      Moves s sends .hookReturn [.at (.stopped id)] { s with phase := .within resume, sends := sends }
  | hookSkip (id : ActorId) (cell : ActorCell P) (ctx : Context Empty) (resume : Resume)
      (here : s.phase = .stopping id cell ctx resume) (untyped : cell.actor.ty ≠ cell.onStop) :
      Moves s sends .hookReturn [] { s with phase := .within resume, sends := sends }
  | hookPanic (id : ActorId) (cell : ActorCell P) (ctx : Context Empty) (resume : Resume)
      (here : s.phase = .stopping id cell ctx resume) :
      Moves s sends .hookPanic [.at (.stopPanicked id)] { s with phase := .outside, sends := sends }
  | takeSnapshot (ids : List ActorId) (here : s.phase = .within (.loop .run)) (left : s.running = false)
      (keys : ids.Perm s.actors.keys) :
      Moves s sends (.takeSnapshot ids) [.at (.snapshot ids)] { s with phase := .within (.stopAll ids), sends := sends }
  | returns (here : s.phase = .within (.stopAll [])) :
      Moves s sends .stopNext [] { s with phase := .outside, sends := sends }
  | stopGone (id : ActorId) (ids : List ActorId) (here : s.phase = .within (.stopAll (id :: ids)))
      (absent : s.actors.lookup id = none) :
      Moves s sends .stopNext [] { s with phase := .within (.stopAll ids), sends := sends }
  | stopNext (id : ActorId) (ids : List ActorId) (cell : ActorCell P) (here : s.phase = .within (.stopAll (id :: ids)))
      (present : s.actors.lookup id = some cell) :
      Moves s sends .stopNext (onStop id cell)
        { s with actors := s.actors.erase id, phase := .stopping id cell (.new id) (.stopAll ids), sends := sends }
  | shutdown (here : s.phase = .outside) : Moves s sends .shutdown [] { s with running := false, sends := sends }
  | dropSystem (here : s.phase = .outside) :
      Moves s sends .dropSystem (s.rx.queue.map fun envelope => .at (.dropped envelope))
        { s with actors := ∅, rx := ⟨[], false⟩, tx := false, phase := .ended, sends := sends }

theorem settle_send_eq (s : ActorSystem P) (envelope : Message P) (state : SendState P) :
    s.settleSend envelope state = { s with sends := (s.settleSend envelope state).sends } := by
  unfold settleSend
  split <;> rfl

theorem hang_up_eq (mail : List (Message P)) (s : ActorSystem P) :
    mail.foldl (fun s envelope => s.settleSend envelope .hungUp) s =
      { s with sends := (mail.foldl (fun s envelope => s.settleSend envelope .hungUp) s).sends } := by
  induction mail generalizing s with
  | nil => rfl
  | cons head tail ih =>
      rw [List.foldl_cons, ih (s.settleSend head .hungUp)]
      unfold settleSend
      split <;> rfl

theorem erase_insert (actors : ActorMap P) (id : ActorId) (cell : ActorCell P) :
    (actors.insert id cell).erase id = actors.erase id := by
  apply AList.ext
  exact List.kerase_cons_eq rfl

theorem post_moves (s next : ActorSystem P) (blocking : Bool) (i : Nat) (msg : P.Msg) (entries : List (SystemEntry P))
    (taken : s.post i msg blocking = some (next, entries)) : Moves s next.sends (postAction blocking i msg) entries next := by
  simp only [post] at taken
  split at taken
  · cases taken
  · rename_i addr found
    cases alive : s.rx.receiver with
    | false =>
        simp only [Channel.send, alive, Bool.false_eq_true, if_false, Option.some.injEq, Prod.mk.injEq] at taken
        obtain ⟨rfl, rfl⟩ := taken
        exact .postFailed blocking i msg alive
    | true =>
        rw [Channel.send, if_pos alive] at taken
        cases taken
        exact .post blocking i msg addr found alive

theorem remove_actor_some (s : ActorSystem P) (id : ActorId) (resume : Resume) (cell : ActorCell P)
    (present : s.actors.lookup id = some cell) :
    s.removeActor id resume =
      ({ s with actors := s.actors.erase id, phase := .stopping id cell (.new id) resume }, onStop id cell) := by
  simp only [removeActor, present]

theorem dispatch_moves (s next : ActorSystem P) (loop : Loop) (envelope : Message P) (rest : List (Message P))
    (entries : List (SystemEntry P)) (here : s.phase = .within (.loop loop)) (queue : s.rx.queue = envelope :: rest)
    (dispatched : (s.withMail rest).dispatch loop.counted envelope = (next, entries)) : Moves s next.sends .recv entries next := by
  simp only [dispatch] at dispatched
  split at dispatched
  · rename_i absent
    cases dispatched
    rw [settle_send_eq]
    exact .skip loop envelope rest here queue absent
  · rename_i cell present
    split at dispatched
    · rename_i val found
      cases dispatched
      exact .handle loop envelope rest cell here queue present (Worker.downcast_some _ _ _ found)
    · rename_i missed
      cases dispatched
      rw [settle_send_eq]
      exact .mismatch loop envelope rest cell here queue present (Worker.downcast_none _ _ missed)

theorem received_mail (s : ActorSystem P) (envelope : Message P) (rx : Channel (Message P))
    (received : s.rx.tryRecv = some (envelope, rx)) :
    s.rx.queue = envelope :: rx.queue ∧ { s with rx := rx } = s.withMail rx.queue := by
  obtain ⟨queue, same⟩ := Channel.try_recv_inv _ _ _ received
  cases rx with
  | mk rest receiver =>
      subst same
      exact ⟨queue, rfl⟩

theorem recv_moves (s next : ActorSystem P) (entries : List (SystemEntry P)) (taken : s.recv = some (next, entries)) :
    Moves s next.sends .recv entries next := by
  simp only [recv] at taken
  split at taken
  · rename_i here
    split at taken
    · split at taken
      · rename_i envelope rx received
        obtain ⟨queue, same⟩ := received_mail s envelope rx received
        rw [same] at taken
        exact dispatch_moves s next .run envelope rx.queue entries here queue (Option.some.inj taken)
      · rename_i empty
        split at taken
        · rename_i none
          cases taken
          exact .disconnected here ((Channel.try_recv_none _).mp empty) none
        · cases taken
    · cases taken
  · rename_i count here
    split at taken
    · rename_i envelope rx received
      obtain ⟨queue, same⟩ := received_mail s envelope rx received
      rw [same] at taken
      exact dispatch_moves s next (.runOnce count) envelope rx.queue entries here queue (Option.some.inj taken)
    · rename_i empty
      cases taken
      exact .ranOnce count here ((Channel.try_recv_none _).mp empty)
  · cases taken

theorem handler_return_moves (s next : ActorSystem P) (val : P.Val) (reply : P.Reply) (entries : List (SystemEntry P))
    (taken : s.handlerReturn val reply = some (next, entries)) :
    Moves s next.sends (.handlerReturn val reply) entries next := by
  simp only [handlerReturn] at taken
  split at taken
  · rename_i loop envelope cell ctx here
    rw [settle_send_eq] at taken
    cases running : ctx.running with
    | true =>
        simp only [Context.isRunning, running, Bool.not_true, Bool.false_eq_true, if_false, Option.some.injEq,
          Prod.mk.injEq] at taken
        obtain ⟨rfl, rfl⟩ := taken
        exact .handled loop envelope cell ctx val reply here running
    | false =>
        rw [if_pos (by simp [Context.isRunning, running]), remove_actor_some _ _ _ (cell.write val) (AList.lookup_insert _)] at taken
        cases taken
        simp only [erase_insert]
        exact .handledStop loop envelope cell ctx val reply here running
  · cases taken

theorem step_moves (s next : ActorSystem P) (action : SystemAction P) (entries : List (SystemEntry P))
    (taken : s.step action = some (next, entries)) : Moves s next.sends action entries next := by
  cases action with
  | cloneAddr i =>
      simp only [step, Option.map_eq_some_iff] at taken
      obtain ⟨addr, found, same⟩ := taken
      cases same
      exact .cloneAddr i addr found
  | dropAddr i =>
      cases taken
      exact .dropAddr i
  | send i msg => exact post_moves s next true i msg entries taken
  | doSend i msg => exact post_moves s next false i msg entries taken
  | recvResult serial =>
      simp only [step, recvResult] at taken
      split at taken
      · cases taken
        exact .recvResult serial
      · cases taken
        exact .recvResult serial
      · cases taken
  | spawn ty val =>
      simp only [step, spawn] at taken
      split at taken
      · rename_i here
        split at taken
        · rename_i sender
          cases taken
          exact .spawn ty val here sender
        · rename_i gone
          cases taken
          exact .spawnPanic ty val here (by simpa using gone)
      · cases taken
  | startedReturn val =>
      simp only [step, startedReturn] at taken
      split at taken
      · rename_i id ty old ctx here
        cases taken
        exact .startedReturn id ty old val ctx here
      · cases taken
  | startedPanic =>
      simp only [step, startedPanic] at taken
      split at taken
      · rename_i id ty val ctx here
        cases taken
        exact .startedPanic id ty val ctx here
      · cases taken
  | run =>
      simp only [step, run] at taken
      split at taken
      · rename_i here
        cases taken
        exact .run here
      · cases taken
  | runOnce =>
      simp only [step, runOnce] at taken
      split at taken
      · rename_i here
        cases taken
        exact .runOnce here
      · cases taken
  | recv => exact recv_moves s next entries taken
  | ctxStop =>
      simp only [step, ctxStop] at taken
      split at taken
      · rename_i id ty val ctx here
        cases taken
        exact .stopStarted id ty val ctx here
      · rename_i loop envelope cell ctx here
        cases taken
        exact .stopHandler loop envelope cell ctx here
      · rename_i id cell ctx resume here
        split at taken
        · cases taken
          exact .stopHook id cell ctx resume here
        · cases taken
      · cases taken
  | handlerReturn val reply => exact handler_return_moves s next val reply entries taken
  | handlerPanic val =>
      simp only [step, handlerPanic] at taken
      split at taken
      · rename_i loop envelope cell ctx here
        cases taken
        rw [settle_send_eq]
        exact .handlerPanic loop envelope cell ctx val here
      · cases taken
  | hookReturn =>
      simp only [step, hookReturn] at taken
      split at taken
      · rename_i id cell ctx resume here
        cases found : cell.actor.downcast cell.onStop with
        | some val =>
            rw [found] at taken
            cases taken
            exact .hookReturn id cell ctx resume here (Worker.downcast_some _ _ _ found)
        | none =>
            rw [found] at taken
            cases taken
            exact .hookSkip id cell ctx resume here (Worker.downcast_none _ _ found)
      · cases taken
  | hookPanic =>
      simp only [step, hookPanic] at taken
      split at taken
      · rename_i id cell ctx resume here
        split at taken
        · cases taken
          exact .hookPanic id cell ctx resume here
        · cases taken
      · cases taken
  | takeSnapshot ids =>
      simp only [step, takeSnapshot] at taken
      split at taken
      · rename_i here
        split at taken
        · rename_i allowed
          cases taken
          simp only [Bool.and_eq_true, Bool.not_eq_true', decide_eq_true_eq] at allowed
          exact .takeSnapshot ids here allowed.1 allowed.2
        · cases taken
      · cases taken
  | stopNext =>
      simp only [step, stopNext] at taken
      split at taken
      · rename_i here
        cases taken
        exact .returns here
      · rename_i id ids here
        cases present : s.actors.lookup id with
        | none =>
            simp only [removeActor, present, Option.some.injEq, Prod.mk.injEq] at taken
            obtain ⟨rfl, rfl⟩ := taken
            exact .stopGone id ids here present
        | some cell =>
            rw [remove_actor_some s id _ cell present] at taken
            cases taken
            exact .stopNext id ids cell here present
      · cases taken
  | shutdown =>
      simp only [step, shutdown] at taken
      split at taken
      · rename_i here
        cases taken
        exact .shutdown here
      · cases taken
  | dropSystem =>
      simp only [step, dropSystem] at taken
      split at taken
      · rename_i here
        cases taken
        rw [hang_up_eq]
        exact .dropSystem here
      · cases taken

end ActorSystem

end Actinium
