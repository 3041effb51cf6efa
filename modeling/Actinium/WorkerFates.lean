import Actinium.Fates
import Actinium.PanicIsolation

set_option autoImplicit false

namespace Actinium

variable {P : Program} {n : Nat}

-- The actor in the hands of the worker, and whether it has asked to stop.
def Phase.inHand : Phase P n → Option (ActorId × AnyBox P × Bool)
  | .handling _ envelope cell _ => some (envelope.actorId, cell.actor, false)
  | .handled _ id cell running => some (id, cell.actor, !running)
  | _ => none

namespace Worker

-- What the worker is told is what the handlers and the started hooks compute,
-- and nobody tells it to shut down.
def obeys (serve : Behaviour P) (initial : ActorId → P.Val) (w : Worker P n) : Act P → Prop
  | .postControl (.spawnActor id actor _) => actor.val = initial id
  | .postControl .shutdown => False
  | .spawnActorDirect id actor _ => actor.val = initial id
  | .own senders .recvTimeout => senders ≠ 0
  | .own _ (.handlerReturn val reply) => ∀ turn envelope cell ctx, w.phase = .handling turn envelope cell ctx →
      serve cell.actor.ty cell.actor.val envelope.dispatch.msg = (val, reply, !ctx.running)
  | .own _ (.handlerPanic _) => False
  | .own _ .hookPanic => False
  | _ => True

structure Obedient (initial : ActorId → P.Val) (log : Log P) (w : Worker P n) : Prop where
  looping : w.phase.looping = true
  control : .shutdown ∉ w.controlRx.queue
  queued : ∀ id actor onStop, .spawnActor id actor onStop ∈ w.controlRx.queue → actor.val = initial id
  calm : ∀ envelope, .panicked envelope ∉ log

theorem obedient_frame (initial : ActorId → P.Val) (log events : Log P) (w next : Worker P n) (obedient : Obedient initial log w)
    (looping : next.phase.looping = true) (fewer : ∀ msg ∈ next.controlRx.queue, msg ∈ w.controlRx.queue)
    (calm : ∀ envelope, .panicked envelope ∉ events) : Obedient initial (log ++ events) next := by
  refine ⟨looping, fun member => obedient.control (fewer _ member), ?_, ?_⟩
  · intro id actor onStop member
    exact obedient.queued id actor onStop (fewer _ member)
  · intro envelope member
    exact (List.mem_append.mp member).elim (obedient.calm envelope) (calm envelope)

theorem obedient_step (serve : Behaviour P) (initial : ActorId → P.Val) (log events : Log P) (w next : Worker P n) (act : Act P)
    (obedient : Obedient initial log w) (obeying : obeys serve initial w act) (moves : Moves w act events next) :
    Obedient initial (log ++ events) next := by
  have looping := obedient.looping
  have same : ∀ msg ∈ w.controlRx.queue, msg ∈ w.controlRx.queue := fun _ member => member
  cases moves with
  | post envelope alive => exact obedient_frame initial log _ w _ obedient looping same (by simp)
  | postControl msg alive =>
      cases msg with
      | shutdown => cases obeying
      | spawnActor id actor onStop =>
          refine ⟨looping, ?_, ?_, ?_⟩
          · intro member
            simpa using (List.mem_append.mp member).resolve_left obedient.control
          · intro other box stop member
            rcases List.mem_append.mp member with old | new
            · exact obedient.queued other box stop old
            · cases List.mem_singleton.mp new
              exact obeying
          · intro envelope member
            exact (List.mem_append.mp member).elim (obedient.calm envelope) (by simp [controlEvent])
  | direct id actor onStop => exact obedient_frame initial log _ w _ obedient looping same (by simp)
  | pollSpawn senders id actor onStop rest here queue =>
      refine obedient_frame initial log _ w _ obedient rfl ?_ (by simp)
      intro msg member
      rw [queue]
      exact List.mem_cons_of_mem _ member
  | pollShutdown senders rest here queue => exact absurd (queue ▸ List.mem_cons_self) obedient.control
  | drain => exact obedient_frame initial log _ w _ obedient looping same (by simp)
  | disconnected senders here queue none => exact absurd none obeying
  | stopHook id cell ctx after here =>
      rw [here] at looping
      refine obedient_frame initial log _ w _ obedient ?_ same (by simp)
      cases after <;> exact looping
  | hookReturn senders id cell ctx after here typed =>
      rw [here] at looping
      cases after with
      | turn turn => exact obedient_frame initial log _ w _ obedient rfl same (by simp)
      | stopAll ids => cases looping
  | hookSkip senders id cell ctx after here untyped =>
      rw [here] at looping
      cases after with
      | turn turn => exact obedient_frame initial log _ w _ obedient rfl same (by simp)
      | stopAll ids => cases looping
  | handlerPanic => cases obeying
  | hookPanic => cases obeying
  | snapshot senders ids here => rw [here] at looping; cases looping
  | stopDone senders here => rw [here] at looping; cases looping
  | stopGone senders id ids here => rw [here] at looping; cases looping
  | stopNext senders id ids cell here => rw [here] at looping; cases looping
  | dropControl senders panicked here => rw [here] at looping; cases looping
  | dropMsgs senders panicked here => rw [here] at looping; cases looping
  | dropScheduler senders panicked here => rw [here] at looping; cases looping
  | _ => exact obedient_frame initial log _ w _ obedient rfl same (by simp [mem_begin_stop])

-- Nothing has been handled for an actor the worker does not know.
theorem unknown_replies (log : Log P) (w : Worker P n) (mail : Mail log w) (id : ActorId) (unknown : id ∉ log.known) :
    log.replies id = [] := by
  apply Log.replies_unsent
  rintro envelope finished rfl
  have inside : envelope ∈ about envelope.actorId log.accepted := by
    rw [(mail.every envelope.actorId).mem_iff]
    exact List.mem_append_left _ (List.mem_append_left _ ((Keyed.mem_select _ _ _ _).mpr ⟨finished, rfl⟩))
  exact unknown (known_of_installed _ _ _ (mail.typed envelope ((Keyed.mem_select _ _ _ _).mp inside).1))

-- The cell taken out of the map is in the hands of the worker.
theorem kept_take (serve : Behaviour P) (initial : ActorId → P.Val) (log events : Log P) (map : ActorMap P) (id : ActorId)
    (cell : ActorCell P) (kept : Faithful serve initial log map none) (found : map.lookup id = some cell)
    (installed : events.installed = []) (quiet : ∀ id, events.replies id = []) (silent : ∀ id actor, .stopping id actor ∉ events) :
    Faithful serve initial (log ++ events) (map.erase id) (some (id, cell.actor, false)) := by
  refine faithful_moved serve initial log events map _ none _ kept installed quiet ?_ ?_
  · intro other actor stops held
    cases held with
    | mapped known here =>
        by_cases same : other = id
        · rw [same, AList.lookup_erase] at here
          cases here
        · exact .mapped known ((AList.lookup_erase_ne same).symm.trans here)
    | inHand _ _ here =>
        cases here
        exact .mapped cell found
    | stopping _ logged => exact .stopping actor ((List.mem_append.mp logged).resolve_right (silent other actor))
  · intro other actor stops held
    cases held with
    | mapped known here =>
        by_cases same : other = id
        · exact ⟨_, _, .inHand cell.actor false (by rw [same])⟩
        · exact ⟨_, _, .mapped known ((AList.lookup_erase_ne same).trans here)⟩
    | inHand _ _ here => cases here
    | stopping _ logged => exact ⟨_, _, .stopping actor (List.mem_append_left _ logged)⟩

theorem kept_put_back (serve : Behaviour P) (initial : ActorId → P.Val) (log : Log P) (map : ActorMap P) (id : ActorId)
    (cell : ActorCell P) (kept : Faithful serve initial log map (some (id, cell.actor, false))) :
    Faithful serve initial (log ++ []) (map.insert id cell) none := by
  refine faithful_moved serve initial log [] map _ _ none kept rfl (fun _ => rfl) ?_ ?_
  · intro other actor stops held
    cases held with
    | mapped known here =>
        by_cases same : other = id
        · subst same
          rw [AList.lookup_insert] at here
          cases here
          exact .inHand cell.actor false rfl
        · exact .mapped known ((AList.lookup_insert_ne same).symm.trans here)
    | inHand _ _ here => cases here
    | stopping _ logged => exact .stopping actor (by simpa using logged)
  · intro other actor stops held
    by_cases same : other = id
    · exact ⟨_, _, .mapped cell (by rw [same, AList.lookup_insert])⟩
    · cases held with
      | mapped known here => exact ⟨_, _, .mapped known ((AList.lookup_insert_ne same).trans here)⟩
      | inHand _ _ here =>
          cases here
          exact absurd rfl same
      | stopping _ logged => exact ⟨_, _, .stopping actor (by simpa using logged)⟩

theorem kept_stop (serve : Behaviour P) (initial : ActorId → P.Val) (log : Log P) (map : ActorMap P) (id : ActorId)
    (actor : AnyBox P) (kept : Faithful serve initial log map (some (id, actor, true))) :
    Faithful serve initial (log ++ [Event.stopping id actor]) map none := by
  refine faithful_moved serve initial log _ map map _ none kept rfl (fun _ => rfl) ?_ ?_
  · intro other box stops held
    cases held with
    | mapped known here => exact .mapped known here
    | inHand _ _ here => cases here
    | stopping _ logged =>
        rcases List.mem_append.mp logged with old | new
        · exact .stopping box old
        · cases List.mem_singleton.mp new
          exact .inHand actor true rfl
  · intro other box stops held
    cases held with
    | mapped known here => exact ⟨_, _, .mapped known here⟩
    | inHand _ _ here =>
        cases here
        exact ⟨_, _, .stopping actor (by simp)⟩
    | stopping _ logged => exact ⟨_, _, .stopping box (List.mem_append_left _ logged)⟩

theorem fates_step (serve : Behaviour P) (initial : ActorId → P.Val) (log events : Log P) (w next : Worker P n) (act : Act P)
    (sound : Sound log w) (obedient : Obedient initial log w) (kept : Faithful serve initial log w.actorMap w.phase.inHand)
    (kindly : promised log w act) (obeying : obeys serve initial w act) (moves : Moves w act events next) :
    Faithful serve initial (log ++ events) next.actorMap next.phase.inHand := by
  have looping := obedient.looping
  have install (id : ActorId) (actor : AnyBox P) (onStop : P.Ty) (fresh : id ∉ log.known) (value : actor.val = initial id) :=
    faithful_install serve initial log w.actorMap w.phase.inHand kept id ⟨actor, onStop⟩ fresh
      (unknown_replies log w sound.mail id fresh) value
  have still (map : next.actorMap = w.actorMap) (hand : next.phase.inHand = w.phase.inHand) (installed : events.installed = [])
      (quiet : ∀ id, events.replies id = []) (silent : events.gone = []) :=
    faithful_still serve initial log events w.actorMap next.actorMap w.phase.inHand next.phase.inHand kept installed quiet silent
      map hand
  cases moves with
  | post envelope alive => exact still rfl rfl rfl (fun _ => rfl) rfl
  | postControl msg alive => cases msg <;> exact still rfl rfl rfl (fun _ => rfl) rfl
  | direct id actor onStop => exact install id actor onStop kindly.2.1 obeying
  | stopHandler turn envelope cell ctx here => exact still rfl (by rw [here]; rfl) rfl (fun _ => rfl) rfl
  | pollSpawn senders id actor onStop rest here queue =>
      have queued : .spawnActor id actor onStop ∈ w.controlRx.queue := queue ▸ List.mem_cons_self
      have installed := install id actor onStop (sound.waiting.queued id actor onStop queued).2.2
        (obedient.queued id actor onStop queued)
      rw [here] at installed
      exact installed
  | handle senders turn popped scheduler envelope cell here next dequeued present typed =>
      rw [here] at kept
      exact kept_take serve initial log _ w.actorMap envelope.actorId cell kept present rfl (fun _ => rfl) (by simp)
  | mismatch senders turn popped scheduler envelope cell here next dequeued present untyped =>
      have waits : envelope ∈ w.scheduler.mailbox turn := by
        rw [(dequeue_head _ _ _ turn envelope next dequeued).1]
        exact List.mem_cons_self
      exact absurd (dispatched_typed log w sound.placed sound.mail turn envelope cell waits present) untyped
  | handlerReturn senders turn envelope cell ctx val reply here =>
      obtain ⟨_, _, alive, absent⟩ := sound.placed.taken envelope.actorId cell (by rw [here]; rfl)
      refine faithful_handled serve initial log _ w.actorMap _ _ _ kept envelope.actorId cell.actor envelope.dispatch.msg val reply
        (!ctx.running) (.inHand _ _ (by rw [here]; rfl)) (obeying turn envelope cell ctx here) rfl
        (Log.replies_handled envelope reply [] rfl) (fun other different => Log.replies_apart envelope reply [] other different rfl) ?_ ?_
      · intro other actor asked held
        cases held with
        | mapped known found =>
            refine Or.inl ⟨?_, .mapped known found⟩
            rintro rfl
            rw [absent] at found
            cases found
        | inHand _ _ shown =>
            cases shown
            exact Or.inr ⟨rfl, rfl, rfl⟩
        | stopping _ logged =>
            have old : .stopping other actor ∈ log := by simpa using logged
            refine Or.inl ⟨?_, .stopping actor old⟩
            rintro rfl
            exact alive ((Log.mem_gone log _).mpr ⟨actor, old⟩)
      · intro other actor asked held
        cases held with
        | mapped known found => exact ⟨_, _, .mapped known found⟩
        | inHand _ _ shown =>
            rw [here] at shown
            cases shown
            exact ⟨_, _, .inHand _ _ rfl⟩
        | stopping _ logged => exact ⟨_, _, .stopping actor (List.mem_append_left _ logged)⟩
  | handlerPanic => cases obeying
  | hookPanic => cases obeying
  | putBack senders turn id cell here =>
      rw [here] at kept
      exact kept_put_back serve initial log w.actorMap id cell kept
  | stop senders turn id cell here =>
      have typed := (sound.placed.taken id cell (by rw [here]; rfl)).2.1
      rw [begin_stop_events w id cell _ typed]
      rw [here] at kept
      exact kept_stop serve initial log w.actorMap id cell.actor kept
  | hookReturn senders id cell ctx after here typed =>
      refine still (finish_stop_map w id after) ?_ (Log.installed_dropped _) (Log.replies_dropped _) (Log.gone_dropped _)
      rw [here]
      cases after <;> rfl
  | hookSkip senders id cell ctx after here untyped =>
      refine still (finish_stop_map w id after) ?_ (Log.installed_dropped _) (Log.replies_dropped _) (Log.gone_dropped _)
      rw [here]
      cases after <;> rfl
  | stopHook id cell ctx after here => exact still rfl (by rw [here]; rfl) rfl (fun _ => rfl) rfl
  | snapshot senders ids here => rw [here] at looping; cases looping
  | stopDone senders here => rw [here] at looping; cases looping
  | stopGone senders id ids here => rw [here] at looping; cases looping
  | stopNext senders id ids cell here => rw [here] at looping; cases looping
  | dropControl senders panicked here => rw [here] at looping; cases looping
  | dropMsgs senders panicked here => rw [here] at looping; cases looping
  | dropScheduler senders panicked here => rw [here] at looping; cases looping
  | drain senders envelope rest here queue => exact still rfl rfl rfl (fun _ => rfl) rfl
  | _ => exact still rfl (by simp only [*]; rfl) rfl (fun _ => rfl) rfl

-- A worker that has nothing left to do for an actor shows the replay of the
-- actor's mail, whatever the order its actors were served in.
theorem shows_replay (serve : Behaviour P) (initial : ActorId → P.Val) (log : Log P) (w : Worker P n) (sound : Sound log w)
    (obedient : Obedient initial log w) (kept : Faithful serve initial log w.actorMap w.phase.inHand) (quiet : w.phase.calm = true)
    (id : ActorId) (ty : P.Ty) (installed : (id, ty) ∈ log.installed) (nothing : w.pending id = []) :
    Shows log w.actorMap id ty (Replay.replay (serve ty) (initial id) (payloads id log.accepted)) := by
  have isOpen := Phase.looping_open w.phase obedient.looping
  have empty : w.phase.inHand = none := by
    cases here : w.phase <;> first | rfl | (rw [here] at quiet; cases quiet)
  rw [empty] at kept
  have order := sound.mail.order isOpen id
  rw [nothing, List.append_nil] at order
  refine faithful_shows serve initial log w.actorMap kept obedient.calm
    (fun id a b left right => installed_unique log w sound.placed id a b left right) ?_ id ty installed order ?_
  · intro other gone
    cases found : w.actorMap.lookup other with
    | none => rfl
    | some cell => exact absurd gone (sound.placed.mapped other cell found).2.2
  · exact dropped_alive log w sound.mail id isOpen

end Worker

end Actinium
