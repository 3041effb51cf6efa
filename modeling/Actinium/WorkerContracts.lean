import Actinium.Contracts
import Actinium.Processes
import Actinium.WorkerFates

set_option autoImplicit false

namespace Actinium

variable {P : Program} {n : Nat}

namespace Worker

-- The handler that ends in this step keeps the contract, alone.
def honours (contract : Contract P) (w : Worker P n) : Own P → Prop
  | .handlerReturn val reply => ∀ turn envelope cell ctx, w.phase = .handling turn envelope cell ctx →
      contract.keeps envelope.actorId (envelope.dispatch.msg, some reply) cell.actor (cell.write val).actor
  | .handlerPanic val => ∀ turn envelope cell ctx, w.phase = .handling turn envelope cell ctx →
      contract.keeps envelope.actorId (envelope.dispatch.msg, none) cell.actor (cell.write val).actor
  | _ => True

-- So do the actors that the worker is given.
def delivers (contract : Contract P) (w : Worker P n) : Act P → Prop
  | .postControl (.spawnActor id actor _) => contract id [] actor
  | .spawnActorDirect id actor _ => contract id [] actor
  | .own _ act => honours contract w act
  | _ => True

def Queued (contract : Contract P) (w : Worker P n) : Prop :=
  ∀ id actor onStop, .spawnActor id actor onStop ∈ w.controlRx.queue → contract id [] actor

theorem queued_step (contract : Contract P) (w next : Worker P n) (act : Act P) (events : Log P) (queued : Queued contract w)
    (delivered : delivers contract w act) (moves : Moves w act events next) : Queued contract next := by
  have fewer (less : ∀ msg ∈ next.controlRx.queue, msg ∈ w.controlRx.queue) : Queued contract next :=
    fun id actor onStop member => queued id actor onStop (less _ member)
  have same (equal : next.controlRx.queue = w.controlRx.queue) : Queued contract next :=
    fewer fun msg member => equal ▸ member
  cases moves with
  | postControl msg alive =>
      intro id actor onStop member
      rcases List.mem_append.mp member with old | new
      · exact queued id actor onStop old
      · cases List.mem_singleton.mp new
        exact delivered
  | pollSpawn senders id actor onStop rest here queue =>
      exact fewer fun msg member => queue ▸ List.mem_cons_of_mem _ member
  | pollShutdown senders rest here queue => exact fewer fun msg member => queue ▸ List.mem_cons_of_mem _ member
  | hookReturn senders id cell ctx after here typed => cases after <;> exact same rfl
  | hookSkip senders id cell ctx after here untyped => cases after <;> exact same rfl
  | stopGone senders id ids here absent => exact same rfl
  | dropControl senders panicked here => exact fewer fun msg member => (List.not_mem_nil member).elim
  | _ => exact same rfl

theorem unknown_turns (log : Log P) (w : Worker P n) (mail : Mail log w) (id : ActorId) (unknown : id ∉ log.known) :
    log.turns id = [] := by
  apply Log.turns_unsent
  rintro envelope finished rfl
  have inside : envelope ∈ about envelope.actorId log.accepted := by
    rw [(mail.every envelope.actorId).mem_iff]
    exact List.mem_append_left _ (List.mem_append_left _ ((Keyed.mem_select _ _ _ _).mpr ⟨finished, rfl⟩))
  exact unknown (known_of_installed _ _ _ (mail.typed envelope ((Keyed.mem_select _ _ _ _).mp inside).1))

theorem begin_stop_turns (w : Worker P n) (id other : ActorId) (cell : ActorCell P) (after : After) :
    Log.turns (w.beginStop id cell after).2 other = [] := by
  apply List.filterMap_eq_nil_iff.mpr
  intro event member
  rcases (mem_begin_stop w id cell after event).mp member with ⟨_, rfl⟩ | ⟨_, rfl⟩ <;> rfl

theorem upheld_step (contract : Contract P) (log events : Log P) (w next : Worker P n) (act : Act P) (sound : Sound log w)
    (upheld : Upheld contract log w.actorMap w.phase.inHand) (queued : Queued contract w) (kindly : promised log w act)
    (delivered : delivers contract w act) (moves : Moves w act events next) :
    Upheld contract (log ++ events) next.actorMap next.phase.inHand := by
  have install (id : ActorId) (actor : AnyBox P) (onStop : P.Ty) (fresh : id ∉ log.known) (made : contract id [] actor) :=
    upheld_install contract log w.actorMap w.phase.inHand upheld id ⟨actor, onStop⟩
      (unknown_turns log w sound.mail id fresh) made
  have still (map : next.actorMap = w.actorMap) (hand : next.phase.inHand = w.phase.inHand)
      (quiet : ∀ id, events.turns id = []) (silent : events.gone = []) :=
    upheld_still contract log events w.actorMap next.actorMap w.phase.inHand next.phase.inHand upheld quiet silent map hand
  have begins (id : ActorId) (cell : ActorCell P) (after : After) (other : ActorId) (box : AnyBox P)
      (member : .stopping other box ∈ (w.beginStop id cell after).2) : other = id ∧ box = cell.actor := by
    rcases (mem_begin_stop w id cell after _).mp member with ⟨_, same⟩ | ⟨_, same⟩
    · cases same
      exact ⟨rfl, rfl⟩
    · cases same
  cases moves with
  | post envelope alive => exact still rfl rfl (fun _ => rfl) rfl
  | postControl msg alive => cases msg <;> exact still rfl rfl (fun _ => rfl) rfl
  | direct id actor onStop => exact install id actor onStop kindly.2.1 delivered
  | stopHandler turn envelope cell ctx here => exact still rfl (by rw [here]; rfl) (fun _ => rfl) rfl
  | stopHook id cell ctx after here => exact still rfl (by rw [here]; rfl) (fun _ => rfl) rfl
  | pollSpawn senders id actor onStop rest here queue =>
      have member : .spawnActor id actor onStop ∈ w.controlRx.queue := queue ▸ List.mem_cons_self
      have installed := install id actor onStop (sound.waiting.queued id actor onStop member).2.2 (queued id actor onStop member)
      rw [here] at installed
      exact installed
  | handle senders turn popped scheduler envelope cell here next dequeued present typed =>
      refine upheld_moved contract log _ w.actorMap _ w.phase.inHand _ upheld (fun _ => rfl) ?_
      intro other actor stops held
      cases held with
      | mapped known found => exact ⟨_, .mapped known (lookup_erased _ _ _ _ found).2⟩
      | inHand _ _ shown =>
          cases shown
          exact ⟨_, .mapped cell present⟩
      | stopping _ logged => exact ⟨_, .stopping actor (by simpa using logged)⟩
  | mismatch senders turn popped scheduler envelope cell here next dequeued present untyped =>
      have quiet (other : ActorId) :
          Log.turns (.mismatched envelope :: (w.beginStop envelope.actorId cell (.turn turn)).2) other = [] :=
        begin_stop_turns w envelope.actorId other cell _
      refine upheld_stop contract log _ w.actorMap _ w.phase.inHand upheld envelope.actorId cell.actor false
        (.mapped cell present) (fun other known found => (lookup_erased _ _ _ _ found).2) quiet ?_
      intro other box member
      exact begins _ cell _ other box (by simpa using member)
  | handlerReturn senders turn envelope cell ctx val reply here =>
      obtain ⟨_, _, alive, absent⟩ := sound.placed.taken envelope.actorId cell (by rw [here]; rfl)
      obtain ⟨answers, apart⟩ := turns_one (.handled envelope reply) [] envelope.actorId (envelope.dispatch.msg, some reply)
        (fun _ => rfl) (fun _ => rfl)
      refine upheld_turn contract log _ w.actorMap _ w.phase.inHand _ upheld envelope.actorId cell.actor (cell.write val).actor
        false _ (.inHand _ _ (by rw [here]; rfl)) (delivered turn envelope cell ctx here) answers apart ?_
      intro other actor asked held
      cases held with
      | mapped known found =>
          refine Or.inl ⟨?_, .mapped known found⟩
          rintro rfl
          rw [absent] at found
          cases found
      | inHand _ _ shown =>
          cases shown
          exact Or.inr ⟨rfl, rfl⟩
      | stopping _ logged =>
          have old : .stopping other actor ∈ log := by simpa using logged
          refine Or.inl ⟨?_, .stopping actor old⟩
          rintro rfl
          exact alive ((Log.mem_gone log _).mpr ⟨actor, old⟩)
  | handlerPanic senders turn envelope cell ctx val here =>
      obtain ⟨_, _, alive, absent⟩ := sound.placed.taken envelope.actorId cell (by rw [here]; rfl)
      obtain ⟨answers, apart⟩ := turns_one (.panicked envelope)
        (w.beginStop envelope.actorId (cell.write val) (.turn turn)).2 envelope.actorId (envelope.dispatch.msg, none)
        (fun _ => rfl) (fun other => begin_stop_turns w envelope.actorId other _ _)
      refine upheld_turn contract log _ w.actorMap _ w.phase.inHand _ upheld envelope.actorId cell.actor (cell.write val).actor
        false _ (.inHand _ _ (by rw [here]; rfl)) (delivered turn envelope cell ctx here) answers apart ?_
      intro other actor asked held
      cases held with
      | mapped known found =>
          refine Or.inl ⟨?_, .mapped known found⟩
          rintro rfl
          exact absurd (absent.symm.trans found) (by simp)
      | inHand _ _ shown => cases shown
      | stopping _ logged =>
          rcases List.mem_append.mp logged with old | new
          · refine Or.inl ⟨?_, .stopping actor old⟩
            rintro rfl
            exact alive ((Log.mem_gone log _).mpr ⟨actor, old⟩)
          · exact Or.inr (begins _ _ _ other actor (by simpa using new))
  | putBack senders turn id cell here =>
      refine upheld_moved contract log _ w.actorMap _ w.phase.inHand _ upheld (fun _ => rfl) ?_
      intro other actor stops held
      cases held with
      | mapped known found =>
          change (w.actorMap.insert id cell).lookup other = some known at found
          by_cases same : other = id
          · subst same
            rw [AList.lookup_insert] at found
            cases found
            exact ⟨_, .inHand _ _ (by rw [here]; rfl)⟩
          · exact ⟨_, .mapped known ((AList.lookup_insert_ne same).symm.trans found)⟩
      | inHand _ _ shown => cases shown
      | stopping _ logged => exact ⟨_, .stopping actor (by simpa using logged)⟩
  | stop senders turn id cell here =>
      exact upheld_stop contract log _ w.actorMap _ w.phase.inHand upheld id cell.actor true
        (.inHand _ _ (by rw [here]; rfl)) (fun other known found => found) (fun other => begin_stop_turns w id other cell _)
        (begins id cell _)
  | stopNext senders id ids cell here present =>
      exact upheld_stop contract log _ w.actorMap _ w.phase.inHand upheld id cell.actor false (.mapped cell present)
        (fun other known found => (lookup_erased _ _ _ _ found).2) (fun other => begin_stop_turns w id other cell _)
        (begins id cell _)
  | hookReturn senders id cell ctx after here typed =>
      refine still (finish_stop_map w id after) ?_ (Log.turns_dropped _) (Log.gone_dropped _)
      rw [here]
      cases after <;> rfl
  | hookSkip senders id cell ctx after here untyped =>
      refine still (finish_stop_map w id after) ?_ (Log.turns_dropped _) (Log.gone_dropped _)
      rw [here]
      cases after <;> rfl
  | stopGone senders id ids here absent =>
      exact still (finish_stop_map w id _) (by rw [here]; rfl) (Log.turns_dropped _) (Log.gone_dropped _)
  | drain senders envelope rest here queue => exact still rfl rfl (fun _ => rfl) rfl
  | dropControl senders panicked here =>
      refine still rfl (by rw [here]; rfl) (fun id => ?_) ?_
      · exact Log.filter_map_refusals _ (fun _ => rfl) _
      · exact Log.filter_map_refusals _ (fun _ => rfl) _
  | dropMsgs senders panicked here => exact still rfl (by rw [here]; rfl) (Log.turns_dropped _) (Log.gone_dropped _)
  | dropScheduler senders panicked here => exact still rfl (by rw [here]; rfl) (Log.turns_dropped _) (Log.gone_dropped _)
  | _ => exact still rfl (by simp only [*]; rfl) (fun _ => rfl) rfl

end Worker

end Actinium
