import Actinium.Lib.Replay
import Actinium.WorkerEvents
import Actinium.WorkerMail

set_option autoImplicit false

namespace Actinium

variable {P : Program}

-- Handlers that are functions of the actor and the message. They send nothing,
-- spawn nothing and do not panic, but may ask to stop.
abbrev Behaviour (P : Program) := P.Ty → Replay.Server P.Val P.Msg P.Reply

abbrev ActorFate (P : Program) := Replay.Fate P.Val P.Msg P.Reply

def Event.replies (id : ActorId) : Event P → Option (P.Msg × P.Reply)
  | .handled envelope reply => if envelope.actorId = id then some (envelope.dispatch.msg, reply) else none
  | _ => none

namespace Log

-- The messages one actor has handled, each with its reply.
def replies (log : Log P) (id : ActorId) : List (P.Msg × P.Reply) := log.filterMap (Event.replies id)

theorem replies_append (a b : Log P) (id : ActorId) : replies (a ++ b) id = a.replies id ++ replies b id :=
  List.filterMap_append

theorem replies_dropped (mail : List (Message P)) (id : ActorId) : replies (mail.map Event.dropped) id = [] :=
  filter_map_dropped _ (fun _ => rfl) mail

theorem replies_handled (envelope : Message P) (reply : P.Reply) (rest : Log P) (quiet : replies rest envelope.actorId = []) :
    replies (.handled envelope reply :: rest) envelope.actorId = [(envelope.dispatch.msg, reply)] := by
  rw [← List.singleton_append, replies_append, quiet]
  simp [replies, Event.replies]

theorem replies_apart (envelope : Message P) (reply : P.Reply) (rest : Log P) (id : ActorId) (different : id ≠ envelope.actorId)
    (quiet : replies rest id = []) : replies (.handled envelope reply :: rest) id = [] := by
  rw [← List.singleton_append, replies_append, quiet]
  simp [replies, Event.replies, Ne.symm different]

-- Without panics a handler that has finished has replied.
theorem replies_finished (log : Log P) (calm : ∀ envelope, .panicked envelope ∉ log) (id : ActorId) :
    (log.replies id).map Prod.fst = payloads id log.finished := by
  induction log with
  | nil => rfl
  | cons event rest ih =>
      have later := ih fun envelope member => calm envelope (List.mem_cons_of_mem _ member)
      rw [← List.singleton_append, replies_append, finished_append, List.map_append, payloads_append, later]
      congr 1
      cases event with
      | handled envelope reply =>
          by_cases same : envelope.actorId = id <;>
            simp [replies, Event.replies, finished, Event.finishes, payloads, Keyed.select_cons, same]
      | panicked envelope => exact absurd List.mem_cons_self (calm envelope)
      | _ => rfl

-- Nothing is answered for an actor that handles nothing.
theorem replies_unsent (log : Log P) (id : ActorId) (unsent : ∀ envelope ∈ log.finished, envelope.actorId ≠ id) :
    log.replies id = [] := by
  apply List.filterMap_eq_nil_iff.mpr
  intro event member
  cases event with
  | handled envelope reply =>
      have different := unsent envelope ((mem_finished _ _).mpr (Or.inl ⟨reply, member⟩))
      simp [Event.replies, different]
  | _ => rfl

end Log

-- What a log and a map show of one actor is this fate.
structure Shows (log : Log P) (map : ActorMap P) (id : ActorId) (ty : P.Ty) (fate : ActorFate P) : Prop where
  handled : log.replies id = fate.handled
  dropped : payloads id log.dropped = fate.dropped
  living : fate.stopped = false → id ∉ log.gone ∧ ∃ onStop, map.lookup id = some ⟨⟨ty, fate.final⟩, onStop⟩
  stopped : fate.stopped = true → .stopping id ⟨ty, fate.final⟩ ∈ log ∧ map.lookup id = none

-- Where the last value of an actor is found: in the map, in the hands of the
-- dispatcher, with whether it has asked to stop, or where its stopped hook began.
inductive Holding (log : Log P) (map : ActorMap P) (hand : Option (ActorId × AnyBox P × Bool)) (id : ActorId) :
    AnyBox P → Bool → Prop where
  | mapped (cell : ActorCell P) (found : map.lookup id = some cell) : Holding log map hand id cell.actor false
  | inHand (actor : AnyBox P) (stops : Bool) (here : hand = some (id, actor, stops)) : Holding log map hand id actor stops
  | stopping (actor : AnyBox P) (logged : .stopping id actor ∈ log) : Holding log map hand id actor true

-- No actor is lost, and wherever one is it has come as far as its replies say.
structure Faithful (serve : Behaviour P) (initial : ActorId → P.Val) (log : Log P) (map : ActorMap P)
    (hand : Option (ActorId × AnyBox P × Bool)) : Prop where
  total : ∀ id ∈ log.known, ∃ actor stops, Holding log map hand id actor stops
  progress : ∀ id actor stops, Holding log map hand id actor stops →
    (id, actor.ty) ∈ log.installed ∧ Replay.Progress (serve actor.ty) (initial id) (log.replies id) actor.val stops

section

variable (serve : Behaviour P) (initial : ActorId → P.Val) (log events : Log P) (map next : ActorMap P)
  (hand after : Option (ActorId × AnyBox P × Bool))

-- An actor may change places.
theorem faithful_moved (kept : Faithful serve initial log map hand) (installed : events.installed = [])
    (quiet : ∀ id, events.replies id = [])
    (only : ∀ id actor stops, Holding (log ++ events) next after id actor stops → Holding log map hand id actor stops)
    (still : ∀ id actor stops, Holding log map hand id actor stops → ∃ now stops, Holding (log ++ events) next after id now stops) :
    Faithful serve initial (log ++ events) next after := by
  have known : (log ++ events).known = log.known := by simp [Log.known, installed]
  refine ⟨?_, ?_⟩
  · intro id member
    obtain ⟨actor, stops, held⟩ := kept.total id (known ▸ member)
    exact still id actor stops held
  · intro id actor stops held
    rw [Log.installed_append, installed, List.append_nil, Log.replies_append, quiet, List.append_nil]
    exact kept.progress id actor stops (only id actor stops held)

theorem faithful_still (kept : Faithful serve initial log map hand) (installed : events.installed = [])
    (quiet : ∀ id, events.replies id = []) (silent : events.gone = []) (sameMap : next = map) (sameHand : after = hand) :
    Faithful serve initial (log ++ events) next after := by
  subst sameMap sameHand
  refine faithful_moved serve initial log events next next after after kept installed quiet ?_ ?_
  · intro id actor stops held
    cases held with
    | mapped cell found => exact .mapped cell found
    | inHand actor stops here => exact .inHand actor stops here
    | stopping actor logged =>
        rcases List.mem_append.mp logged with old | new
        · exact .stopping actor old
        · have gone := (Log.mem_gone events id).mpr ⟨actor, new⟩
          rw [silent] at gone
          cases gone
  · intro id actor stops held
    cases held with
    | mapped cell found => exact ⟨_, _, .mapped cell found⟩
    | inHand actor stops here => exact ⟨_, _, .inHand actor stops here⟩
    | stopping actor logged => exact ⟨_, _, .stopping actor (List.mem_append_left _ logged)⟩

theorem faithful_install (kept : Faithful serve initial log map hand) (id : ActorId) (cell : ActorCell P) (fresh : id ∉ log.known)
    (unsent : log.replies id = []) (value : cell.actor.val = initial id) :
    Faithful serve initial (log ++ [Event.installed id cell.actor.ty]) (map.insert id cell) hand := by
  have old (other : ActorId) (actor : AnyBox P) (stops : Bool) (held : Holding log map hand other actor stops) : other ≠ id := by
    rintro rfl
    exact fresh (List.mem_map.mpr ⟨_, (kept.progress other actor stops held).1, rfl⟩)
  have installed : (log ++ [Event.installed id cell.actor.ty]).installed = log.installed ++ [(id, cell.actor.ty)] :=
    Log.installed_append _ _
  have quiet (other : ActorId) : (log ++ [Event.installed id cell.actor.ty]).replies other = log.replies other := by
    rw [Log.replies_append]
    exact List.append_nil _
  refine ⟨?_, ?_⟩
  · intro other member
    by_cases same : other = id
    · exact ⟨_, _, .mapped cell (by rw [same, AList.lookup_insert])⟩
    · have before : other ∈ log.known := by
        simpa [Log.known, installed, same] using member
      obtain ⟨actor, stops, held⟩ := kept.total other before
      cases held with
      | mapped found here => exact ⟨_, _, .mapped found ((AList.lookup_insert_ne same).trans here)⟩
      | inHand _ _ here => exact ⟨_, _, .inHand actor stops here⟩
      | stopping _ logged => exact ⟨_, _, .stopping actor (List.mem_append_left _ logged)⟩
  · intro other actor stops held
    have goesOn (held : Holding log map hand other actor stops) :
        (other, actor.ty) ∈ (log ++ [Event.installed id cell.actor.ty]).installed ∧
          Replay.Progress (serve actor.ty) (initial other) ((log ++ [Event.installed id cell.actor.ty]).replies other) actor.val stops := by
      obtain ⟨known, progress⟩ := kept.progress other actor stops held
      rw [installed, quiet]
      exact ⟨List.mem_append_left _ known, progress⟩
    cases held with
    | mapped found here =>
        by_cases same : other = id
        · subst same
          rw [AList.lookup_insert] at here
          cases here
          rw [installed, quiet, unsent, value]
          exact ⟨by simp, .start⟩
        · rw [AList.lookup_insert_ne same] at here
          exact goesOn (.mapped found here)
    | inHand _ _ here => exact goesOn (.inHand actor stops here)
    | stopping _ logged =>
        rcases List.mem_append.mp logged with before | new
        · exact goesOn (.stopping actor before)
        · simp at new

-- One actor handles one message, wherever it is put then.
theorem faithful_handled (kept : Faithful serve initial log map hand) (id : ActorId) (old : AnyBox P) (msg : P.Msg) (val : P.Val)
    (reply : P.Reply) (stops : Bool) (held : Holding log map hand id old false)
    (served : serve old.ty old.val msg = (val, reply, stops)) (installed : events.installed = [])
    (answers : events.replies id = [(msg, reply)]) (apart : ∀ other, other ≠ id → events.replies other = [])
    (only : ∀ other actor asked, Holding (log ++ events) next after other actor asked →
      other ≠ id ∧ Holding log map hand other actor asked ∨ other = id ∧ actor = ⟨old.ty, val⟩ ∧ asked = stops)
    (still : ∀ other actor asked, Holding log map hand other actor asked →
      ∃ now asked, Holding (log ++ events) next after other now asked) :
    Faithful serve initial (log ++ events) next after := by
  have known : (log ++ events).known = log.known := by simp [Log.known, installed]
  refine ⟨?_, ?_⟩
  · intro other member
    obtain ⟨actor, asked, before⟩ := kept.total other (known ▸ member)
    exact still other actor asked before
  · intro other actor asked now
    rw [Log.installed_append, installed, List.append_nil, Log.replies_append]
    rcases only other actor asked now with ⟨different, before⟩ | ⟨rfl, rfl, rfl⟩
    · rw [apart other different, List.append_nil]
      exact kept.progress other actor asked before
    · obtain ⟨type, progress⟩ := kept.progress other old false held
      rw [answers]
      exact ⟨type, .handle _ old.val val msg reply asked progress served⟩

-- Once nothing is left to handle, what is shown of an actor is the replay of
-- its mail.
theorem faithful_shows (kept : Faithful serve initial log map none) (calm : ∀ envelope, .panicked envelope ∉ log)
    (unique : ∀ id a b, (id, a) ∈ log.installed → (id, b) ∈ log.installed → a = b)
    (away : ∀ id ∈ log.gone, map.lookup id = none) (id : ActorId) (ty : P.Ty) (installed : (id, ty) ∈ log.installed)
    (order : about id log.accepted = about id log.finished ++ about id log.dropped)
    (spared : id ∉ log.gone → about id log.dropped = []) :
    Shows log map id ty (Replay.replay (serve ty) (initial id) (payloads id log.accepted)) := by
  have mail : payloads id log.accepted = (log.replies id).map Prod.fst ++ payloads id log.dropped := by
    rw [Log.replies_finished log calm id, payloads, order, List.map_append]
    rfl
  have replayed (actor : AnyBox P) (stops : Bool) (held : Holding log map none id actor stops)
      (spent : stops = false → payloads id log.dropped = []) :
      actor.ty = ty ∧ Replay.replay (serve ty) (initial id) (payloads id log.accepted) =
        ⟨log.replies id, actor.val, stops, payloads id log.dropped⟩ := by
    obtain ⟨type, progress⟩ := kept.progress id actor stops held
    obtain rfl := unique id _ _ type installed
    rw [mail]
    exact ⟨rfl, Replay.replay_progress _ _ _ _ _ progress _ spent⟩
  obtain ⟨actor, stops, held⟩ := kept.total id (List.mem_map.mpr ⟨_, installed, rfl⟩)
  cases held with
  | mapped cell found =>
      have alive : id ∉ log.gone := by
        intro gone
        rw [away id gone] at found
        cases found
      obtain ⟨type, same⟩ := replayed cell.actor false (.mapped cell found)
        (fun _ => by rw [payloads, spared alive]; rfl)
      rw [same]
      refine ⟨rfl, rfl, fun _ => ⟨alive, cell.onStop, ?_⟩, by simp⟩
      rw [found, ← type]
  | inHand _ _ here => cases here
  | stopping _ logged =>
      obtain ⟨type, same⟩ := replayed actor true (.stopping actor logged) (by simp)
      rw [same]
      refine ⟨rfl, rfl, by simp, fun _ => ⟨?_, away id ((Log.mem_gone log id).mpr ⟨actor, logged⟩)⟩⟩
      rw [← type]
      exact logged

end

end Actinium
