import Actinium.ActorSystemMoves
import Actinium.WorkerLifecycle
import Actinium.WorkerMail

set_option autoImplicit false

namespace Actinium

variable {P : Program}

namespace Event

-- The envelope was taken out of the channel, and given to its actor or not.
def consumes : Event P → Option (Message P)
  | .handling envelope => some envelope
  | .dropped envelope => some envelope
  | .mismatched envelope => some envelope
  | _ => none

def handles : Event P → Option (Message P)
  | .handled envelope _ => some envelope
  | _ => none

def completes : Event P → Option ActorId
  | .stopped id => some id
  | _ => none

end Event

namespace Log

def consumed (log : Log P) : List (Message P) := log.filterMap Event.consumes
def handled (log : Log P) : List (Message P) := log.filterMap Event.handles
def stopped (log : Log P) : List ActorId := log.filterMap Event.completes

@[simp] theorem consumed_append (a b : Log P) : consumed (a ++ b) = a.consumed ++ consumed b := List.filterMap_append
@[simp] theorem stopped_append (a b : Log P) : stopped (a ++ b) = a.stopped ++ stopped b := List.filterMap_append

@[simp] theorem consumed_dropped (mail : List (Message P)) : consumed (mail.map Event.dropped) = mail := by
  induction mail with
  | nil => rfl
  | cons head tail ih => exact congrArg (head :: ·) ih

end Log

namespace SystemEntry

def event : SystemEntry P → Option (Event P)
  | .at event => some event
  | _ => none

def mark (id : ActorId) : SystemEntry P → Option Mark
  | .at event => event.mark id
  | .starting other => if other = id then some .starting else none
  | .started other => if other = id then some .started else none
  | .startPanicked other => if other = id then some .startPanicked else none
  | _ => none

def requests : SystemEntry P → Option (Message P)
  | .stopRequested envelope => some envelope
  | _ => none

end SystemEntry

abbrev SystemTrace (P : Program) := List (SystemEntry P)

namespace SystemTrace

def events (log : SystemTrace P) : Log P := log.filterMap SystemEntry.event
def marks (log : SystemTrace P) (id : ActorId) : List Mark := log.filterMap (SystemEntry.mark id)
def requested (log : SystemTrace P) : List (Message P) := log.filterMap SystemEntry.requests

-- The handler of this message has called ctx.stop().
def asked (log : SystemTrace P) (envelope : Message P) : Bool :=
  log.requested.any fun other => decide (other.dispatch.serial = envelope.dispatch.serial)

@[simp] theorem events_append (a b : SystemTrace P) : events (a ++ b) = a.events ++ events b := List.filterMap_append
@[simp] theorem marks_append (a b : SystemTrace P) (id : ActorId) : marks (a ++ b) id = a.marks id ++ marks b id :=
  List.filterMap_append
@[simp] theorem requested_append (a b : SystemTrace P) : requested (a ++ b) = a.requested ++ requested b :=
  List.filterMap_append

@[simp] theorem events_at (event : Event P) (rest : SystemTrace P) : events (.at event :: rest) = event :: events rest := rfl

@[simp] theorem events_drops (mail : List (Message P)) :
    events (mail.map fun envelope => SystemEntry.at (.dropped envelope)) = mail.map Event.dropped := by
  simp [events, List.filterMap_map, Function.comp_def, SystemEntry.event]

end SystemTrace

namespace ActorSystem

-- A cell holds an actor of the type it was installed with.
def Holds (log : SystemTrace P) (id : ActorId) (cell : ActorCell P) : Prop :=
  (id, cell.actor.ty) ∈ log.events.installed ∧ cell.actor.ty = cell.onStop

-- The actor whose handler runs is still in the map, one whose stopped hook
-- runs is not.
def PhaseTyped (log : SystemTrace P) (s : ActorSystem P) : Prop :=
  match s.phase with
  | .starting id _ _ _ => id < s.nextId ∧ id ∉ log.events.known
  | .handling _ envelope cell _ =>
      Holds log envelope.actorId cell ∧ cell.actor.ty = envelope.dispatch.ty ∧ s.actors.lookup envelope.actorId = some cell
  | .stopping id cell _ _ => Holds log id cell ∧ s.actors.lookup id = none
  | _ => True

structure Typed (log : SystemTrace P) (s : ActorSystem P) : Prop where
  ids : ∀ id ∈ log.events.known, id < s.nextId
  nodup : log.events.known.Nodup
  addrs : ∀ addr ∈ s.addrs, (addr.actorId, addr.ty) ∈ log.events.installed
  mail : ∀ envelope ∈ s.rx.queue, (envelope.actorId, envelope.dispatch.ty) ∈ log.events.installed
  cells : ∀ id cell, s.actors.lookup id = some cell → Holds log id cell
  phase : PhaseTyped log s

theorem known_of_installed (log : SystemTrace P) (id : ActorId) (ty : P.Ty) (installed : (id, ty) ∈ log.events.installed) :
    id ∈ log.events.known :=
  List.mem_map.mpr ⟨(id, ty), installed, rfl⟩

theorem typed_unique (log : SystemTrace P) (s : ActorSystem P) (typed : Typed log s) (id : ActorId) (a b : P.Ty)
    (left : (id, a) ∈ log.events.installed) (right : (id, b) ∈ log.events.installed) : a = b := by
  have same := List.inj_on_of_nodup_map typed.nodup left right rfl
  exact congrArg Prod.snd same

theorem typed_frame (log entries : SystemTrace P) (s next : ActorSystem P) (typed : Typed log s)
    (silent : entries.events.installed = []) (ids : s.nextId ≤ next.nextId) (addrs : ∀ addr ∈ next.addrs, addr ∈ s.addrs)
    (mail : ∀ envelope ∈ next.rx.queue, (envelope.actorId, envelope.dispatch.ty) ∈ log.events.installed)
    (cells : ∀ id cell, next.actors.lookup id = some cell → Holds log id cell) (phase : PhaseTyped log next) :
    Typed (log ++ entries) next := by
  have same : (log ++ entries).events.installed = log.events.installed := by simp [silent]
  have known : (log ++ entries).events.known = log.events.known := congrArg (List.map Prod.fst) same
  refine ⟨?_, known ▸ typed.nodup, ?_, same ▸ mail, ?_, ?_⟩
  · intro id member
    rw [known] at member
    exact Nat.lt_of_lt_of_le (typed.ids id member) ids
  · intro addr member
    rw [same]
    exact typed.addrs addr (addrs addr member)
  · intro id cell found
    rw [Holds, same]
    exact cells id cell found
  · unfold PhaseTyped Holds at phase ⊢
    rw [same, known]
    exact phase

theorem holds_insert (log : SystemTrace P) (s : ActorSystem P) (typed : Typed log s) (id : ActorId) (cell : ActorCell P)
    (holds : Holds log id cell) (other : ActorId) (found : ActorCell P) (present : (s.actors.insert id cell).lookup other = some found) :
    Holds log other found := by
  by_cases same : other = id
  · rw [same, AList.lookup_insert] at present
    cases present
    rw [same]
    exact holds
  · rw [AList.lookup_insert_ne same] at present
    exact typed.cells other found present

theorem holds_erase (log : SystemTrace P) (s : ActorSystem P) (typed : Typed log s) (id : ActorId) (other : ActorId)
    (found : ActorCell P) (present : (s.actors.erase id).lookup other = some found) : Holds log other found := by
  by_cases same : other = id
  · rw [same, AList.lookup_erase] at present
    cases present
  · rw [AList.lookup_erase_ne same] at present
    exact typed.cells other found present

theorem on_stop_typed (id : ActorId) (cell : ActorCell P) (typed : cell.actor.ty = cell.onStop) :
    onStop id cell = [.at (.stopping id cell.actor)] := by
  simp [onStop, AnyBox.downcast, typed]

theorem mem_mail_of_cons (s : ActorSystem P) (head : Message P) (rest : List (Message P)) (queue : s.rx.queue = head :: rest)
    (envelope : Message P) (member : envelope ∈ rest) : envelope ∈ s.rx.queue := by
  rw [queue]
  exact List.mem_cons_of_mem _ member

theorem typed_install (log : SystemTrace P) (s : ActorSystem P) (typed : Typed log s) (id : ActorId) (ty : P.Ty) (val : P.Val)
    (bounded : id < s.nextId) (fresh : id ∉ log.events.known) (sends : Nat → Option (SendCall P 1)) :
    Typed (log ++ [SystemEntry.started id, .at (.installed id ty)])
      { s with
        actors := s.actors.insert id ⟨⟨ty, val⟩, ty⟩
        addrs := s.addrs ++ [⟨id, 0, ty⟩]
        phase := .outside
        sends := sends } := by
  have grows : (log ++ [SystemEntry.started id, .at (.installed id ty)]).events.installed =
      log.events.installed ++ [(id, ty)] := by
    rw [SystemTrace.events_append, Log.installed_append]
    rfl
  have known : (log ++ [SystemEntry.started id, .at (.installed id ty)]).events.known = log.events.known ++ [id] := by
    rw [Log.known, grows, List.map_append]
    rfl
  have keeps (other : ActorId) (a : P.Ty) (member : (other, a) ∈ log.events.installed) :
      (other, a) ∈ log.events.installed ++ [(id, ty)] := List.mem_append_left _ member
  refine ⟨?_, ?_, ?_, ?_, ?_, trivial⟩
  · intro other member
    rw [known] at member
    rcases List.mem_append.mp member with before | new
    · exact typed.ids other before
    · rw [List.mem_singleton.mp new]
      exact bounded
  · rw [known]
    exact Keyed.nodup_push _ _ typed.nodup fresh
  · intro addr member
    rw [grows]
    rcases List.mem_append.mp member with before | new
    · exact keeps _ _ (typed.addrs addr before)
    · rw [List.mem_singleton.mp new]
      simp
  · intro envelope member
    rw [grows]
    exact keeps _ _ (typed.mail envelope member)
  · intro other cell found
    rw [Holds, grows]
    by_cases same : other = id
    · rw [same, AList.lookup_insert] at found
      cases found
      rw [same]
      exact ⟨by simp, rfl⟩
    · rw [AList.lookup_insert_ne same] at found
      obtain ⟨installed, stops⟩ := typed.cells other cell found
      exact ⟨keeps _ _ installed, stops⟩

theorem typed_step (log entries : SystemTrace P) (s next : ActorSystem P) (action : SystemAction P) (typed : Typed log s)
    (moves : Moves s next.sends action entries next) : Typed (log ++ entries) next := by
  have phase := typed.phase
  generalize next.sends = sends at moves
  cases moves with
  | cloneAddr i addr found =>
      refine typed_frame log _ s _ typed rfl (Nat.le_refl _) ?_ typed.mail typed.cells phase
      intro other member
      rcases List.mem_append.mp member with old | new
      · exact old
      · rw [List.mem_singleton.mp new]
        exact List.mem_of_getElem? found
  | dropAddr i =>
      exact typed_frame log _ s _ typed rfl (Nat.le_refl _) (fun addr member => List.mem_of_mem_eraseIdx member) typed.mail
        typed.cells phase
  | post blocking i msg addr found alive =>
      refine typed_frame log _ s _ typed rfl (Nat.le_refl _) (fun _ member => member) ?_ typed.cells phase
      intro envelope member
      rcases List.mem_append.mp member with old | new
      · exact typed.mail envelope old
      · rw [List.mem_singleton.mp new]
        exact typed.addrs addr (List.mem_of_getElem? found)
  | spawn ty val here sender =>
      refine typed_frame log _ s _ typed rfl (Nat.le_succ _) (fun _ member => member) typed.mail typed.cells ?_
      exact ⟨Nat.lt_succ_self _, fun known => Nat.lt_irrefl _ (typed.ids _ known)⟩
  | spawnPanic ty val here gone =>
      refine typed_frame log _ s _ typed rfl (Nat.le_succ _) (fun _ member => member) typed.mail typed.cells ?_
      simp only [PhaseTyped, here]
  | startedReturn id ty old val ctx here =>
      simp only [PhaseTyped, here] at phase
      exact typed_install log s typed id ty val phase.1 phase.2 sends
  | skip loop envelope rest here queue absent =>
      exact typed_frame log _ s _ typed rfl (Nat.le_refl _) (fun _ member => member)
        (fun other member => typed.mail other (mem_mail_of_cons s _ _ queue other member)) typed.cells trivial
  | mismatch loop envelope rest cell here queue present untyped =>
      exact typed_frame log _ s _ typed rfl (Nat.le_refl _) (fun _ member => member)
        (fun other member => typed.mail other (mem_mail_of_cons s _ _ queue other member)) typed.cells trivial
  | handle loop envelope rest cell here queue present right =>
      exact typed_frame log _ s _ typed rfl (Nat.le_refl _) (fun _ member => member)
        (fun other member => typed.mail other (mem_mail_of_cons s _ _ queue other member)) typed.cells
        ⟨typed.cells _ cell present, right, present⟩
  | stopStarted id ty val ctx here =>
      refine typed_frame log _ s _ typed rfl (Nat.le_refl _) (fun _ member => member) typed.mail typed.cells ?_
      simp only [PhaseTyped, here] at phase ⊢
      exact phase
  | stopHandler loop envelope cell ctx here =>
      refine typed_frame log _ s _ typed rfl (Nat.le_refl _) (fun _ member => member) typed.mail typed.cells ?_
      simp only [PhaseTyped, here] at phase ⊢
      exact phase
  | stopHook id cell ctx resume here =>
      refine typed_frame log _ s _ typed rfl (Nat.le_refl _) (fun _ member => member) typed.mail typed.cells ?_
      simp only [PhaseTyped, here] at phase ⊢
      exact phase
  | handled loop envelope cell ctx val reply here running =>
      simp only [PhaseTyped, here] at phase
      exact typed_frame log _ s _ typed rfl (Nat.le_refl _) (fun _ member => member) typed.mail
        (holds_insert log s typed envelope.actorId (cell.write val) phase.1) trivial
  | handledStop loop envelope cell ctx val reply here stops =>
      simp only [PhaseTyped, here] at phase
      refine typed_frame log _ s _ typed ?_ (Nat.le_refl _) (fun _ member => member) typed.mail
        (holds_erase log s typed envelope.actorId) ⟨phase.1, AList.lookup_erase _ _⟩
      rw [on_stop_typed _ (cell.write val) phase.1.2]
      rfl
  | handlerPanic loop envelope cell ctx val here =>
      simp only [PhaseTyped, here] at phase
      exact typed_frame log _ s _ typed rfl (Nat.le_refl _) (fun _ member => member) typed.mail
        (holds_insert log s typed envelope.actorId (cell.write val) phase.1) trivial
  | stopNext id ids cell here present =>
      have holds := typed.cells id cell present
      refine typed_frame log _ s _ typed ?_ (Nat.le_refl _) (fun _ member => member) typed.mail (holds_erase log s typed id)
        ⟨holds, AList.lookup_erase _ _⟩
      rw [on_stop_typed _ cell holds.2]
      rfl
  | dropSystem here =>
      refine typed_frame log _ s _ typed (by simp) (Nat.le_refl _) (fun _ member => member) (by simp) ?_ trivial
      intro id cell found
      rw [AList.lookup_empty] at found
      cases found
  | postFailed => exact typed_frame log _ s _ typed rfl (Nat.le_refl _) (fun _ member => member) typed.mail typed.cells phase
  | recvResult => exact typed_frame log _ s _ typed rfl (Nat.le_refl _) (fun _ member => member) typed.mail typed.cells phase
  | disconnected => exact typed_frame log _ s _ typed rfl (Nat.le_refl _) (fun _ member => member) typed.mail typed.cells phase
  | shutdown => exact typed_frame log _ s _ typed rfl (Nat.le_refl _) (fun _ member => member) typed.mail typed.cells phase
  | _ => exact typed_frame log _ s _ typed rfl (Nat.le_refl _) (fun _ member => member) typed.mail typed.cells trivial

end ActorSystem

def SystemPhase.current : SystemPhase P → Option (Message P)
  | .handling _ envelope _ _ => some envelope
  | _ => none

namespace ActorSystem

-- What was accepted has been taken out of the channel, in this order, or waits
-- there. A handler has ended when the next message is taken.
structure Flow (log : SystemTrace P) (s : ActorSystem P) : Prop where
  order : log.events.accepted = log.events.consumed ++ s.rx.queue
  serials : ∀ envelope ∈ log.events.accepted, envelope.dispatch.serial < s.nextSerial
  nodup : (log.events.accepted.map fun envelope => envelope.dispatch.serial).Nodup
  begun : log.events.begun = log.events.finished ++ s.phase.current.toList
  requested : ∀ envelope ∈ log.requested, envelope ∈ log.events.begun

theorem flow_frame (log entries : SystemTrace P) (s next : ActorSystem P) (flow : Flow log s)
    (accepted : entries.events.accepted = []) (serial : s.nextSerial ≤ next.nextSerial)
    (order : s.rx.queue = entries.events.consumed ++ next.rx.queue)
    (begun : s.phase.current.toList ++ entries.events.begun = entries.events.finished ++ next.phase.current.toList)
    (requested : entries.requested = [] ∨ entries.requested = s.phase.current.toList) : Flow (log ++ entries) next := by
  have same : (log ++ entries).events.accepted = log.events.accepted := by simp [accepted]
  refine ⟨?_, ?_, same ▸ flow.nodup, ?_, ?_⟩
  · rw [same, SystemTrace.events_append, Log.consumed_append, List.append_assoc, ← order]
    exact flow.order
  · intro envelope member
    rw [same] at member
    exact Nat.lt_of_lt_of_le (flow.serials envelope member) serial
  · rw [SystemTrace.events_append, Log.begun_append, Log.finished_append, flow.begun, List.append_assoc, begun, List.append_assoc]
  · intro envelope member
    rw [SystemTrace.events_append, Log.begun_append]
    apply List.mem_append_left
    rw [SystemTrace.requested_append] at member
    rcases List.mem_append.mp member with old | new
    · exact flow.requested envelope old
    · rw [flow.begun]
      rcases requested with none | current
      · rw [none] at new
        cases new
      · rw [← current]
        exact List.mem_append_right _ new

theorem flow_post (log : SystemTrace P) (s next : ActorSystem P) (flow : Flow log s) (envelope : Message P)
    (serial : envelope.dispatch.serial = s.nextSerial) (later : next.nextSerial = s.nextSerial + 1)
    (queue : next.rx.queue = s.rx.queue ++ [envelope]) (phase : next.phase = s.phase) :
    Flow (log ++ [SystemEntry.at (.accepted envelope)]) next := by
  have accepted : (log ++ [SystemEntry.at (.accepted envelope)]).events.accepted = log.events.accepted ++ [envelope] := by
    rw [SystemTrace.events_append, Log.accepted_append]
    rfl
  have begun : (log ++ [SystemEntry.at (.accepted envelope)]).events.begun = log.events.begun := by
    rw [SystemTrace.events_append, Log.begun_append]
    exact List.append_nil _
  refine ⟨?_, ?_, ?_, ?_, ?_⟩
  · rw [accepted, flow.order, queue, List.append_assoc, SystemTrace.events_append, Log.consumed_append]
    exact congrArg (· ++ _) (List.append_nil _).symm
  · intro other member
    rw [accepted] at member
    rw [later]
    rcases List.mem_append.mp member with old | new
    · exact Nat.lt_succ_of_lt (flow.serials other old)
    · rw [List.mem_singleton.mp new, serial]
      exact Nat.lt_succ_self _
  · rw [accepted, List.map_append]
    apply Keyed.nodup_push _ _ flow.nodup
    intro member
    obtain ⟨other, inside, same⟩ := List.mem_map.mp member
    have bound := flow.serials other inside
    rw [show other.dispatch.serial = s.nextSerial from same.trans serial] at bound
    exact Nat.lt_irrefl _ bound
  · rw [begun, phase, flow.begun, SystemTrace.events_append, Log.finished_append]
    exact congrArg (· ++ _) (List.append_nil _).symm
  · intro other member
    rw [SystemTrace.requested_append] at member
    rw [begun]
    rcases List.mem_append.mp member with old | new
    · exact flow.requested other old
    · cases new

-- A step that leaves the mail alone.
theorem flow_quiet (log entries : SystemTrace P) (s next : ActorSystem P) (flow : Flow log s)
    (accepted : entries.events.accepted = []) (consumed : entries.events.consumed = []) (begun : entries.events.begun = [])
    (finished : entries.events.finished = []) (requested : entries.requested = [] ∨ entries.requested = s.phase.current.toList)
    (serial : s.nextSerial ≤ next.nextSerial) (queue : next.rx.queue = s.rx.queue)
    (phase : next.phase.current = s.phase.current) : Flow (log ++ entries) next := by
  refine flow_frame log entries s next flow accepted serial ?_ ?_ requested
  · rw [consumed, queue]
    rfl
  · rw [begun, finished, phase, List.append_nil]
    rfl

theorem flow_step (log entries : SystemTrace P) (s next : ActorSystem P) (action : SystemAction P) (typed : Typed log s)
    (flow : Flow log s) (moves : Moves s next.sends action entries next) : Flow (log ++ entries) next := by
  have phase := typed.phase
  generalize next.sends = sends at moves
  cases moves with
  | cloneAddr => exact flow_quiet log _ s _ flow rfl rfl rfl rfl (Or.inl rfl) (Nat.le_refl _) rfl rfl
  | dropAddr => exact flow_quiet log _ s _ flow rfl rfl rfl rfl (Or.inl rfl) (Nat.le_refl _) rfl rfl
  | postFailed => exact flow_quiet log _ s _ flow rfl rfl rfl rfl (Or.inl rfl) (Nat.le_succ _) rfl rfl
  | post blocking i msg addr found alive => exact flow_post log s _ flow _ rfl rfl rfl rfl
  | recvResult => exact flow_quiet log _ s _ flow rfl rfl rfl rfl (Or.inl rfl) (Nat.le_refl _) rfl rfl
  | spawnPanic => exact flow_quiet log _ s _ flow rfl rfl rfl rfl (Or.inl rfl) (Nat.le_refl _) rfl rfl
  | disconnected => exact flow_quiet log _ s _ flow rfl rfl rfl rfl (Or.inl rfl) (Nat.le_refl _) rfl rfl
  | shutdown => exact flow_quiet log _ s _ flow rfl rfl rfl rfl (Or.inl rfl) (Nat.le_refl _) rfl rfl
  | skip loop envelope rest here queue absent =>
      exact flow_frame log _ s _ flow rfl (Nat.le_refl _) queue (by rw [here]; rfl) (Or.inl rfl)
  | mismatch loop envelope rest cell here queue present untyped =>
      exact flow_frame log _ s _ flow rfl (Nat.le_refl _) queue (by rw [here]; rfl) (Or.inl rfl)
  | handle loop envelope rest cell here queue present right =>
      exact flow_frame log _ s _ flow rfl (Nat.le_refl _) queue (by rw [here]; rfl) (Or.inl rfl)
  | stopHandler loop envelope cell ctx here =>
      exact flow_quiet log _ s _ flow rfl rfl rfl rfl (Or.inr (by rw [here]; rfl)) (Nat.le_refl _) rfl (by rw [here]; rfl)
  | handled loop envelope cell ctx val reply here running =>
      exact flow_frame log _ s _ flow rfl (Nat.le_refl _) rfl (by rw [here]; rfl) (Or.inl rfl)
  | handledStop loop envelope cell ctx val reply here stops =>
      simp only [PhaseTyped, here] at phase
      rw [on_stop_typed _ (cell.write val) phase.1.2]
      exact flow_frame log _ s _ flow rfl (Nat.le_refl _) rfl (by rw [here]; rfl) (Or.inl rfl)
  | handlerPanic loop envelope cell ctx val here =>
      exact flow_frame log _ s _ flow rfl (Nat.le_refl _) rfl (by rw [here]; rfl) (Or.inl rfl)
  | stopNext id ids cell here present =>
      rw [on_stop_typed _ cell (typed.cells id cell present).2]
      exact flow_quiet log _ s _ flow rfl rfl rfl rfl (Or.inl rfl) (Nat.le_refl _) rfl
        (by rw [here]; rfl)
  | dropSystem here =>
      refine flow_frame log _ s _ flow (by simp) (Nat.le_refl _) ?_ ?_ ?_
      · rw [SystemTrace.events_drops, Log.consumed_dropped, List.append_nil]
      · rw [here]
        simp [SystemPhase.current]
      · left
        simp [SystemTrace.requested, List.filterMap_map, Function.comp_def, SystemEntry.requests]
  | _ =>
      exact flow_quiet log _ s _ flow rfl rfl rfl rfl (Or.inl rfl) (Nat.le_refl _) rfl
        (by simp only [*]; rfl)

structure Sound (log : SystemTrace P) (s : ActorSystem P) : Prop where
  typed : Typed log s
  flow : Flow log s

theorem sound_start : Sound [] (new P) where
  typed := ⟨by simp [Log.known, Log.installed, SystemTrace.events], List.nodup_nil, by simp [new], by simp [new, Channel.new],
    by simp [new], trivial⟩
  flow := ⟨rfl, by simp [Log.accepted, SystemTrace.events], List.nodup_nil, rfl, by simp [SystemTrace.requested]⟩

end ActorSystem

theorem reach_system_sound (rely : Machine.Rely (ActorSystem P) (SystemAction P) (SystemEntry P)) (log : SystemTrace P)
    (s : ActorSystem P) (reached : (actorSystem P).Reach rely log s) : ActorSystem.Sound log s := by
  refine Machine.reach_invariant (actorSystem P) rely ActorSystem.Sound ?_ ?_ log s reached
  · intro s start
    rw [start]
    exact ActorSystem.sound_start
  · intro log s action next entries _ sound _ taken
    have moves := ActorSystem.step_moves s next action entries taken
    exact ⟨ActorSystem.typed_step log entries s next action sound.typed moves,
      ActorSystem.flow_step log entries s next action sound.typed sound.flow moves⟩

end Actinium
