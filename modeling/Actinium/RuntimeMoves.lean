import Actinium.Runtime

set_option autoImplicit false

namespace Actinium

variable {P : Program} {n : Nat}

namespace State

def postAction (blocking : Bool) (i : Nat) (msg : P.Msg) : Action P n :=
  if blocking then .send i msg else .doSend i msg

-- What one step can do to the runtime, the worker's part of it being left to
-- the worker. Invariants of the runtime are proved by cases on this relation.
inductive Moves (s : State P n) : Action P n → List (Entry P n) → State P n → Prop where
  | cloneAddr (i : Nat) (addr : Addr P n) (found : s.addrs[i]? = some addr) :
      Moves s (.cloneAddr i) [] { s with addrs := s.addrs ++ [addr] }
  | dropAddr (i : Nat) : Moves s (.dropAddr i) [] { s with addrs := s.addrs.eraseIdx i }
  | postFailed (blocking : Bool) (i : Nat) (msg : P.Msg) (addr : Addr P n) (found : s.addrs[i]? = some addr)
      (failed : (s.workers addr.tx).post (s.envelopeTo addr msg blocking) = none) :
      Moves s (postAction blocking i msg) [] (s.beginSend addr blocking (.returned (.error .runtimeShutdown)))
  | post (blocking : Bool) (i : Nat) (msg : P.Msg) (addr : Addr P n) (result : Worker.Outcome P n)
      (found : s.addrs[i]? = some addr)
      (taken : (s.workers addr.tx).step (.post (s.envelopeTo addr msg blocking)) = some result) :
      Moves s (postAction blocking i msg) (result.2.map (.at addr.tx))
        ((s.beginSend addr blocking .waiting).onWorker addr.tx result).1
  | recvReply (serial : Nat) (addr : Addr P n) (reply : P.Reply) (found : s.sends serial = some ⟨addr, .replied reply⟩) :
      Moves s (.recvResult serial) [] (s.setSend serial (.returned (.ok reply)))
  | recvError (serial : Nat) (addr : Addr P n) (found : s.sends serial = some ⟨addr, .hungUp⟩) :
      Moves s (.recvResult serial) [] (s.setSend serial (.returned (.error .actorNotRunning)))
  | spawn (ty : P.Ty) (val : P.Val) (owned : s.owner = .owned) :
      Moves s (.spawn ty val) [] ({ s with nextId := s.nextId + 1 }.setCall s.nextId ⟨none, ty, .allocated val⟩)
  | spawnPick (id : ActorId) (via : Option (Caller n)) (ty : P.Ty) (val : P.Val) (w : Fin n)
      (found : s.calls.lookup id = some ⟨via, ty, .allocated val⟩) :
      Moves s (.spawnPick id) [.starting id w none]
        ({ s with nextWorker := s.nextWorker + 1 }.setCall id ⟨via, ty, .starting val w (.withSpawner id w)⟩)
  | ctxSpawn (via : Caller n) (ty : P.Ty) (val : P.Val) (parent : ActorId) (running : Bool) (w : Fin n)
      (free : s.blocked via = false) (ctx : s.callbackCtx via = some ⟨parent, running, some w⟩) :
      Moves s (.ctxSpawn via ty val) [.starting s.nextId w (some parent)]
        ({ s with nextId := s.nextId + 1 }.setCall s.nextId
          ⟨some via, ty, .starting val w (.withSpawner s.nextId w)⟩)
  | ctxStopWorker (w : Fin n) (result : Worker.Outcome P n) (free : s.blocked (.worker w) = false)
      (taken : (s.workers w).step .stopCtx = some result) :
      Moves s (.ctxStop (.worker w)) (result.2.map (.at w)) (s.onWorker w result).1
  | ctxStopStarted (id : ActorId) (via : Option (Caller n)) (ty : P.Ty) (val : P.Val) (w : Fin n) (ctx : Context (Fin n))
      (free : s.blocked (.started id) = false) (found : s.calls.lookup id = some ⟨via, ty, .starting val w ctx⟩) :
      Moves s (.ctxStop (.started id)) [] (s.setCall id ⟨via, ty, .starting val w ctx.stop⟩)
  | startedReturn (id : ActorId) (via : Option (Caller n)) (ty : P.Ty) (old val : P.Val) (w : Fin n)
      (ctx : Context (Fin n)) (free : s.blocked (.started id) = false)
      (found : s.calls.lookup id = some ⟨via, ty, .starting old w ctx⟩) :
      Moves s (.startedReturn id val) [.started id] (s.setCall id ⟨via, ty, .started val w⟩)
  | startedPanic (id : ActorId) (via : Option (Caller n)) (ty : P.Ty) (val : P.Val) (w : Fin n) (ctx : Context (Fin n))
      (free : s.blocked (.started id) = false) (found : s.calls.lookup id = some ⟨via, ty, .starting val w ctx⟩) :
      Moves s (.startedPanic id) [.startPanicked id] (s.endCall id)
  | remoteFailed (id : ActorId) (ty : P.Ty) (val : P.Val) (w : Fin n)
      (found : s.calls.lookup id = some ⟨none, ty, .started val w⟩)
      (failed : (s.workers w).postControl (.spawnActor id ⟨ty, val⟩ ty) = none) :
      Moves s (.handOver id) [.unsent id w] (s.endCall id)
  | remote (id : ActorId) (ty : P.Ty) (val : P.Val) (w : Fin n) (result : Worker.Outcome P n)
      (found : s.calls.lookup id = some ⟨none, ty, .started val w⟩)
      (taken : (s.workers w).step (.postControl (.spawnActor id ⟨ty, val⟩ ty)) = some result) :
      Moves s (.handOver id) (result.2.map (.at w)) ((s.setCall id ⟨none, ty, .confirming w⟩).onWorker w result).1
  | direct (id : ActorId) (via : Caller n) (ty : P.Ty) (val : P.Val) (w : Fin n) (result : Worker.Outcome P n)
      (found : s.calls.lookup id = some ⟨some via, ty, .started val w⟩)
      (taken : (s.workers w).step (.spawnActorDirect id ⟨ty, val⟩ ty) = some result) :
      Moves s (.handOver id) (result.2.map (.at w)) ((s.returnAddr id w ty).onWorker w result).1
  | spawnReturn (id : ActorId) (via : Option (Caller n)) (ty : P.Ty) (w : Fin n)
      (found : s.calls.lookup id = some ⟨via, ty, .confirmed w⟩) :
      Moves s (.spawnReturn id) [] (s.returnAddr id w ty)
  | spawnRefused (id : ActorId) (via : Option (Caller n)) (ty : P.Ty)
      (found : s.calls.lookup id = some ⟨via, ty, .refused⟩) : Moves s (.spawnReturn id) [] (s.endCall id)
  | shutdownFailed (w : Fin n) (failed : (s.workers w).postControl .shutdown = none) : Moves s (.shutdown w) [] s
  | shutdown (w : Fin n) (result : Worker.Outcome P n) (taken : (s.workers w).step (.postControl .shutdown) = some result) :
      Moves s (.shutdown w) (result.2.map (.at w)) (s.onWorker w result).1
  | run (owned : s.owner = .owned) (idle : ∀ entry ∈ s.calls.entries, entry.2.via ≠ none) :
      Moves s .run [] { s with owner := .sleeping }
  | dropRuntime (owned : s.owner = .owned) (idle : ∀ entry ∈ s.calls.entries, entry.2.via ≠ none) :
      Moves s .dropRuntime [] { s with owner := .shutting 0 false }
  | wake (here : s.owner = .sleeping) : Moves s .owner [] { s with owner := .shutting 0 true }
  | ownerFailed (k : Nat) (expects : Bool) (bound : k < n) (here : s.owner = .shutting k expects)
      (failed : (s.workers ⟨k, bound⟩).postControl .shutdown = none) :
      Moves s .owner [] { s with owner := .shutting (k + 1) expects }
  | ownerShutdown (k : Nat) (expects : Bool) (bound : k < n) (result : Worker.Outcome P n)
      (here : s.owner = .shutting k expects)
      (taken : (s.workers ⟨k, bound⟩).step (.postControl .shutdown) = some result) :
      Moves s .owner (result.2.map (.at ⟨k, bound⟩))
        ({ s with owner := .shutting (k + 1) expects }.onWorker ⟨k, bound⟩ result).1
  | ownerJoins (k : Nat) (expects : Bool) (bound : ¬ k < n) (here : s.owner = .shutting k expects) :
      Moves s .owner [] { s with owner := .joining 0 expects }
  | joined (k : Nat) (expects panicked : Bool) (bound : k < n) (here : s.owner = .joining k expects)
      (ended : (s.workers ⟨k, bound⟩).phase = .ended panicked) :
      Moves s .owner [] { s with owner := if panicked && expects then .done true else .joining (k + 1) expects }
  | allJoined (k : Nat) (expects : Bool) (bound : ¬ k < n) (here : s.owner = .joining k expects) :
      Moves s .owner [] { s with owner := .done false }
  | worker (w : Fin n) (act : Worker.Own P) (result : Worker.Outcome P n)
      (free : endsCallback act = true → s.blocked (.worker w) = false)
      (taken : (s.workers w).step (.own (s.msgSenders w) act) = some result) :
      Moves s (.worker w act) (result.2.map (.at w)) (s.onWorker w result).1

theorem post_moves (s next : State P n) (blocking : Bool) (i : Nat) (msg : P.Msg) (entries : List (Entry P n))
    (taken : s.post i msg blocking = some (next, entries)) : Moves s (postAction blocking i msg) entries next := by
  simp only [post] at taken
  split at taken
  · cases taken
  · rename_i addr found
    split at taken
    · rename_i failed
      cases taken
      exact .postFailed blocking i msg addr found failed
    · rename_i result posted
      cases taken
      exact .post blocking i msg addr result found posted

theorem send_shutdown_cases (s : State P n) (w : Fin n) :
    ((s.workers w).postControl .shutdown = none ∧ s.sendShutdown w = (s, [])) ∨
      ∃ result, (s.workers w).step (.postControl .shutdown) = some result ∧ s.sendShutdown w = s.onWorker w result := by
  unfold sendShutdown
  split
  · rename_i failed
    exact Or.inl ⟨failed, rfl⟩
  · rename_i result posted
    exact Or.inr ⟨result, posted, rfl⟩

theorem no_owner_calls (s : State P n)
    (idle : ∀ (id : ActorId) (call : SpawnCall P n), ⟨id, call⟩ ∈ s.calls.entries → ¬ call.via = none) :
    ∀ entry ∈ s.calls.entries, entry.2.via ≠ none := by
  intro ⟨id, call⟩ member
  exact idle id call member

theorem step_moves (s next : State P n) (action : Action P n) (entries : List (Entry P n))
    (taken : s.step action = some (next, entries)) : Moves s action entries next := by
  cases action with
  | cloneAddr i =>
      simp only [step, Option.map_eq_some_iff] at taken
      obtain ⟨addr, found, same⟩ := taken
      cases same
      exact .cloneAddr i addr found
  | dropAddr i =>
      simp only [step, Option.some.injEq] at taken
      cases taken
      exact .dropAddr i
  | send i msg => exact post_moves s next true i msg entries taken
  | doSend i msg => exact post_moves s next false i msg entries taken
  | recvResult serial =>
      simp only [step, recvResult] at taken
      split at taken
      · rename_i addr reply found
        cases taken
        exact .recvReply serial addr reply found
      · rename_i addr found
        cases taken
        exact .recvError serial addr found
      · cases taken
  | spawn ty val =>
      simp only [step, spawn, allocateId] at taken
      split at taken
      · rename_i owned
        cases taken
        exact .spawn ty val owned
      · cases taken
  | spawnPick id =>
      simp only [step, spawnPick, pickWorker] at taken
      split at taken
      · rename_i via ty val found
        split at taken
        · cases taken
          exact .spawnPick id via ty val _ found
        · cases taken
      · cases taken
  | ctxSpawn via ty val =>
      simp only [step, ctxSpawn, allocateId] at taken
      split at taken
      · cases taken
      · rename_i free
        split at taken
        · rename_i parent running w ctx
          cases taken
          exact .ctxSpawn via ty val parent running w (by simpa using free) ctx
        · cases taken
  | ctxStop via =>
      simp only [step, ctxStop] at taken
      split at taken
      · cases taken
      · rename_i free
        split at taken
        · rename_i w
          simp only [Option.map_eq_some_iff] at taken
          obtain ⟨result, stopped, same⟩ := taken
          cases same
          exact .ctxStopWorker w result (by simpa using free) stopped
        · rename_i id
          split at taken
          · rename_i via ty val w ctx found
            cases taken
            exact .ctxStopStarted id via ty val w ctx (by simpa using free) found
          · cases taken
  | startedReturn id val =>
      simp only [step, startedReturn] at taken
      split at taken
      · cases taken
      · rename_i free
        split at taken
        · rename_i via ty old w ctx found
          cases taken
          exact .startedReturn id via ty old val w ctx (by simpa using free) found
        · cases taken
  | startedPanic id =>
      simp only [step, startedPanic] at taken
      split at taken
      · cases taken
      · rename_i free
        split at taken
        · rename_i via ty val w ctx found
          cases taken
          exact .startedPanic id via ty val w ctx (by simpa using free) found
        · cases taken
  | handOver id =>
      simp only [step, handOver] at taken
      split at taken
      · rename_i ty val w found
        split at taken
        · rename_i failed
          cases taken
          exact .remoteFailed id ty val w found failed
        · rename_i result posted
          cases taken
          exact .remote id ty val w result found posted
      · rename_i via ty val w found
        cases taken
        exact .direct id via ty val w _ found rfl
      · cases taken
  | spawnReturn id =>
      simp only [step, spawnReturn] at taken
      split at taken
      · rename_i via ty w found
        cases taken
        exact .spawnReturn id via ty w found
      · rename_i via ty found
        cases taken
        exact .spawnRefused id via ty found
      · cases taken
  | shutdown w =>
      simp only [step, Option.some.injEq] at taken
      rcases send_shutdown_cases s w with ⟨failed, same⟩ | ⟨result, posted, same⟩
      · rw [same] at taken
        cases taken
        exact .shutdownFailed w failed
      · rw [same] at taken
        cases taken
        exact .shutdown w result posted
  | run =>
      simp only [step, run] at taken
      split at taken
      · rename_i owned
        split at taken
        · cases taken
        · rename_i idle
          cases taken
          exact .run owned (no_owner_calls s (by simpa using idle))
      · cases taken
  | dropRuntime =>
      simp only [step, dropRuntime] at taken
      split at taken
      · rename_i owned
        split at taken
        · cases taken
        · rename_i idle
          cases taken
          exact .dropRuntime owned (no_owner_calls s (by simpa using idle))
      · cases taken
  | owner =>
      simp only [step, ownerStep] at taken
      split at taken
      · rename_i here
        cases taken
        exact .wake here
      · rename_i k expects here
        split at taken
        · rename_i bound
          rcases send_shutdown_cases { s with owner := .shutting (k + 1) expects } ⟨k, bound⟩ with
            ⟨failed, same⟩ | ⟨result, posted, same⟩
          · rw [same] at taken
            cases taken
            exact .ownerFailed k expects bound here failed
          · rw [same] at taken
            cases taken
            exact .ownerShutdown k expects bound result here posted
        · rename_i bound
          cases taken
          exact .ownerJoins k expects bound here
      · rename_i k expects here
        split at taken
        · rename_i bound
          split at taken
          · rename_i panicked ended
            cases taken
            exact .joined k expects panicked bound here ended
          · cases taken
        · rename_i bound
          cases taken
          exact .allJoined k expects bound here
      · cases taken
  | worker w act =>
      simp only [step, workerStep] at taken
      split at taken
      · cases taken
      · rename_i free
        simp only [Option.map_eq_some_iff] at taken
        obtain ⟨result, stepped, same⟩ := taken
        cases same
        refine .worker w act result ?_ stepped
        intro ends
        simpa [ends] using free

end State

end Actinium
