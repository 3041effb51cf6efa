import Actinium.Fates

set_option autoImplicit false

namespace Actinium

variable {P : Program}

-- The handlers of one actor that have run, each with its reply, or with none
-- if it panicked.
abbrev Turns (P : Program) := List (P.Msg × Option P.Reply)

def Event.turn (id : ActorId) : Event P → Option (P.Msg × Option P.Reply)
  | .handled envelope reply => if envelope.actorId = id then some (envelope.dispatch.msg, some reply) else none
  | .panicked envelope => if envelope.actorId = id then some (envelope.dispatch.msg, none) else none
  | _ => none

namespace Log

def turns (log : Log P) (id : ActorId) : Turns P := log.filterMap (Event.turn id)

theorem turns_append (a b : Log P) (id : ActorId) : turns (a ++ b) id = a.turns id ++ turns b id := List.filterMap_append

theorem turns_dropped (mail : List (Message P)) (id : ActorId) : turns (mail.map Event.dropped) id = [] :=
  filter_map_dropped _ (fun _ => rfl) mail

-- Nothing has run for an actor that has finished nothing.
theorem turns_unsent (log : Log P) (id : ActorId) (unsent : ∀ envelope ∈ log.finished, envelope.actorId ≠ id) :
    log.turns id = [] := by
  apply List.filterMap_eq_nil_iff.mpr
  intro event member
  cases event with
  | handled envelope reply =>
      have different := unsent envelope ((mem_finished _ _).mpr (Or.inl ⟨reply, member⟩))
      simp [Event.turn, different]
  | panicked envelope =>
      have different := unsent envelope ((mem_finished _ _).mpr (Or.inr member))
      simp [Event.turn, different]
  | _ => rfl

end Log

-- What an actor promises of its value after the handlers that have run.
abbrev Contract (P : Program) := ActorId → Turns P → AnyBox P → Prop

-- A handler that alone takes the one value to the other keeps the contract,
-- whatever has run before.
def Contract.keeps (contract : Contract P) (id : ActorId) (turn : P.Msg × Option P.Reply) (before after : AnyBox P) : Prop :=
  ∀ turns, contract id turns before → contract id (turns ++ [turn]) after

theorem lookup_erased (map : ActorMap P) (id other : ActorId) (cell : ActorCell P)
    (found : (map.erase id).lookup other = some cell) : other ≠ id ∧ map.lookup other = some cell := by
  by_cases same : other = id
  · rw [same, AList.lookup_erase] at found
    cases found
  · rw [AList.lookup_erase_ne same] at found
    exact ⟨same, found⟩

-- Wherever the value of an actor is, it is as promised.
def Upheld (contract : Contract P) (log : Log P) (map : ActorMap P) (hand : Option (ActorId × AnyBox P × Bool)) : Prop :=
  ∀ id actor stops, Holding log map hand id actor stops → contract id (log.turns id) actor

section

variable (contract : Contract P) (log events : Log P) (map next : ActorMap P) (hand after : Option (ActorId × AnyBox P × Bool))

theorem upheld_moved (upheld : Upheld contract log map hand) (quiet : ∀ id, events.turns id = [])
    (only : ∀ id actor stops, Holding (log ++ events) next after id actor stops → ∃ asked, Holding log map hand id actor asked) :
    Upheld contract (log ++ events) next after := by
  intro id actor stops held
  obtain ⟨asked, before⟩ := only id actor stops held
  rw [Log.turns_append, quiet, List.append_nil]
  exact upheld id actor asked before

theorem upheld_still (upheld : Upheld contract log map hand) (quiet : ∀ id, events.turns id = []) (silent : events.gone = [])
    (sameMap : next = map) (sameHand : after = hand) : Upheld contract (log ++ events) next after := by
  subst sameMap sameHand
  refine upheld_moved contract log events next next after after upheld quiet ?_
  intro id actor stops held
  cases held with
  | mapped cell found => exact ⟨_, .mapped cell found⟩
  | inHand actor stops here => exact ⟨_, .inHand actor stops here⟩
  | stopping actor logged =>
      rcases List.mem_append.mp logged with old | new
      · exact ⟨_, .stopping actor old⟩
      · have gone := (Log.mem_gone events id).mpr ⟨actor, new⟩
        rw [silent] at gone
        cases gone

theorem upheld_install (upheld : Upheld contract log map hand) (id : ActorId) (cell : ActorCell P) (unsent : log.turns id = [])
    (made : contract id [] cell.actor) :
    Upheld contract (log ++ [Event.installed id cell.actor.ty]) (map.insert id cell) hand := by
  have quiet (other : ActorId) : (log ++ [Event.installed id cell.actor.ty]).turns other = log.turns other := by
    rw [Log.turns_append]
    exact List.append_nil _
  intro other actor stops held
  rw [quiet]
  cases held with
  | mapped found here =>
      by_cases same : other = id
      · subst same
        rw [AList.lookup_insert] at here
        cases here
        rw [unsent]
        exact made
      · rw [AList.lookup_insert_ne same] at here
        exact upheld other _ false (.mapped found here)
  | inHand _ _ here => exact upheld other actor stops (.inHand actor stops here)
  | stopping _ logged =>
      rcases List.mem_append.mp logged with before | new
      · exact upheld other actor true (.stopping actor before)
      · simp at new

-- The actor in the hands of its worker, or in the map, begins to stop.
theorem upheld_stop (upheld : Upheld contract log map hand) (id : ActorId) (actor : AnyBox P) (stops : Bool)
    (held : Holding log map hand id actor stops) (less : ∀ other cell, next.lookup other = some cell → map.lookup other = some cell)
    (quiet : ∀ other, events.turns other = []) (only : ∀ other box, .stopping other box ∈ events → other = id ∧ box = actor) :
    Upheld contract (log ++ events) next none := by
  refine upheld_moved contract log events map next hand none upheld quiet ?_
  intro other box asked now
  cases now with
  | mapped cell found => exact ⟨_, .mapped cell (less other cell found)⟩
  | inHand _ _ here => cases here
  | stopping _ logged =>
      rcases List.mem_append.mp logged with old | new
      · exact ⟨_, .stopping box old⟩
      · obtain ⟨rfl, rfl⟩ := only other box new
        exact ⟨stops, held⟩

-- One actor takes one turn, wherever it is put then.
theorem upheld_turn (upheld : Upheld contract log map hand) (id : ActorId) (old new : AnyBox P) (stops : Bool)
    (turn : P.Msg × Option P.Reply) (held : Holding log map hand id old stops) (keeps : contract.keeps id turn old new)
    (answers : events.turns id = [turn]) (apart : ∀ other, other ≠ id → events.turns other = [])
    (only : ∀ other actor asked, Holding (log ++ events) next after other actor asked →
      other ≠ id ∧ Holding log map hand other actor asked ∨ other = id ∧ actor = new) :
    Upheld contract (log ++ events) next after := by
  intro other actor asked now
  rw [Log.turns_append]
  rcases only other actor asked now with ⟨different, before⟩ | ⟨rfl, rfl⟩
  · rw [apart other different, List.append_nil]
    exact upheld other actor asked before
  · rw [answers]
    exact keeps _ (upheld other old stops held)

end

-- The turn that one event tells of.
theorem turns_one (event : Event P) (rest : Log P) (id : ActorId) (turn : P.Msg × Option P.Reply)
    (told : ∀ other, event.turn other = if id = other then some turn else none) (quiet : ∀ other, rest.turns other = []) :
    Log.turns (event :: rest) id = [turn] ∧ ∀ other, other ≠ id → Log.turns (event :: rest) other = [] := by
  have split (other : ActorId) : Log.turns (event :: rest) other = (event.turn other).toList := by
    rw [← List.singleton_append, Log.turns_append, quiet, List.append_nil]
    cases shown : event.turn other <;> simp [Log.turns, shown]
  refine ⟨by simp [split, told], ?_⟩
  intro other different
  simp [split, told, Ne.symm different]

end Actinium
