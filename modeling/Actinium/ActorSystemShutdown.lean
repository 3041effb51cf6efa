import Actinium.ActorSystemServes

set_option autoImplicit false

namespace Actinium

variable {P : Program}

namespace ActorSystem

-- The steps of all threads from the call of run to its return.
def during : Machine.Rely (ActorSystem P) (SystemAction P) (SystemEntry P) := fun _ s action =>
  action.quiet = true ∧ s.phase ≠ .outside

-- How far stop_all_actors has come with the actors there were.
structure Sweep (actors : ActorMap P) (log later : SystemTrace P) (s : ActorSystem P) (ids : List ActorId)
    (now : Option ActorId) : Prop where
  nodup : (now.toList ++ ids).Nodup
  waiting : ∀ id ∈ ids, id ∈ s.actors ∧ later.marks id = log.marks id
  current : ∀ id ∈ now.toList, later.marks id = log.marks id ++ [Mark.stopping]
  swept : ∀ id ∈ actors, id ∉ now.toList ++ ids → later.marks id = log.marks id ++ [Mark.stopping, .stopped]

def Place (actors : ActorMap P) (log later : SystemTrace P) (s : ActorSystem P) : Prop :=
  match s.phase with
  | .outside => Sweep actors log later s [] none
  | .within (.loop .run) => s.actors = actors ∧ ∀ id, later.marks id = log.marks id
  | .within (.stopAll ids) => Sweep actors log later s ids none
  | .stopping id _ _ (.stopAll ids) => Sweep actors log later s ids (some id)
  | _ => False

structure Ending (actors : ActorMap P) (log later : SystemTrace P) (s : ActorSystem P) : Prop where
  silent : Silent s
  consumed : later.events.consumed = log.events.consumed
  place : Place actors log later s

theorem sweep_same (actors : ActorMap P) (log later entries : SystemTrace P) (s next : ActorSystem P) (ids : List ActorId)
    (now : Option ActorId) (sweep : Sweep actors log later s ids now) (map : next.actors = s.actors)
    (marks : ∀ id, entries.marks id = []) : Sweep actors log (later ++ entries) next ids now := by
  have same (id : ActorId) : (later ++ entries).marks id = later.marks id := by
    rw [SystemTrace.marks_append, marks, List.append_nil]
  refine ⟨sweep.nodup, ?_, ?_, ?_⟩
  · intro id member
    rw [map, same]
    exact sweep.waiting id member
  · intro id member
    rw [same]
    exact sweep.current id member
  · intro id inside other
    rw [same]
    exact sweep.swept id inside other

-- The stopped hook of the next actor begins.
theorem sweep_begin (actors : ActorMap P) (log later : SystemTrace P) (s next : ActorSystem P) (id : ActorId)
    (ids : List ActorId) (actor : AnyBox P) (sweep : Sweep actors log later s (id :: ids) none)
    (map : next.actors = s.actors.erase id) :
    Sweep actors log (later ++ [SystemEntry.at (.stopping id actor)]) next ids (some id) := by
  have nodup : (id :: ids).Nodup := sweep.nodup
  have own : SystemTrace.marks [SystemEntry.at (.stopping id actor)] id = [.stopping] := by
    simp [SystemTrace.marks, SystemEntry.mark, Event.mark]
  have others (other : ActorId) (different : other ≠ id) :
      SystemTrace.marks [SystemEntry.at (.stopping id actor)] other = [] := by
    simp [SystemTrace.marks, SystemEntry.mark, Event.mark, Ne.symm different]
  refine ⟨nodup, ?_, ?_, ?_⟩
  · intro other member
    obtain ⟨inside, unmarked⟩ := sweep.waiting other (List.mem_cons_of_mem _ member)
    have different : other ≠ id := fun same => (List.nodup_cons.mp nodup).1 (same ▸ member)
    rw [SystemTrace.marks_append, others other different, List.append_nil, map]
    exact ⟨AList.mem_erase.mpr ⟨different, inside⟩, unmarked⟩
  · intro other member
    rw [List.mem_singleton.mp member, SystemTrace.marks_append, own, (sweep.waiting id List.mem_cons_self).2]
  · intro other inside outside
    have different : other ≠ id := fun same => outside (by simp [same])
    rw [SystemTrace.marks_append, others other different, List.append_nil]
    exact sweep.swept other inside outside

theorem sweep_end (actors : ActorMap P) (log later : SystemTrace P) (s next : ActorSystem P) (id : ActorId)
    (ids : List ActorId) (sweep : Sweep actors log later s ids (some id)) (map : next.actors = s.actors) :
    Sweep actors log (later ++ [SystemEntry.at (.stopped id)]) next ids none := by
  have nodup : (id :: ids).Nodup := sweep.nodup
  have own : SystemTrace.marks [SystemEntry.at (Event.stopped (P := P) id)] id = [.stopped] := by
    simp [SystemTrace.marks, SystemEntry.mark, Event.mark]
  have others (other : ActorId) (different : other ≠ id) :
      SystemTrace.marks [SystemEntry.at (Event.stopped (P := P) id)] other = [] := by
    simp [SystemTrace.marks, SystemEntry.mark, Event.mark, Ne.symm different]
  refine ⟨(List.nodup_cons.mp nodup).2, ?_, by simp, ?_⟩
  · intro other member
    obtain ⟨inside, unmarked⟩ := sweep.waiting other member
    have different : other ≠ id := fun same => (List.nodup_cons.mp nodup).1 (same ▸ member)
    rw [SystemTrace.marks_append, others other different, List.append_nil, map]
    exact ⟨inside, unmarked⟩
  · intro other inside outside
    rw [SystemTrace.marks_append]
    by_cases same : other = id
    · rw [same, own, sweep.current id (by simp), List.append_assoc]
      rfl
    · rw [others other same, List.append_nil]
      exact sweep.swept other inside (by simpa [same] using outside)

theorem ending_frame (actors : ActorMap P) (log later entries : SystemTrace P) (s next : ActorSystem P)
    (ending : Ending actors log later s) (addrs : next.addrs = []) (queue : next.rx.queue = s.rx.queue)
    (tx : next.tx = s.tx) (consumed : entries.events.consumed = []) (place : Place actors log (later ++ entries) next) :
    Ending actors log (later ++ entries) next := by
  refine ⟨⟨addrs, queue.trans ending.silent.2.1, tx.trans ending.silent.2.2⟩, ?_, place⟩
  rw [SystemTrace.events_append, Log.consumed_append, consumed, List.append_nil]
  exact ending.consumed

theorem place_same (actors : ActorMap P) (log later entries : SystemTrace P) (s next : ActorSystem P)
    (place : Place actors log later s) (phase : next.phase = s.phase) (map : next.actors = s.actors)
    (marks : ∀ id, entries.marks id = []) : Place actors log (later ++ entries) next := by
  unfold Place at place ⊢
  rw [phase]
  split
  · rename_i here
    rw [here] at place
    exact sweep_same _ _ _ _ s _ _ _ place map marks
  · rename_i here
    rw [here] at place
    refine ⟨map.trans place.1, ?_⟩
    intro id
    rw [SystemTrace.marks_append, marks, List.append_nil]
    exact place.2 id
  · rename_i ids here
    rw [here] at place
    exact sweep_same _ _ _ _ s _ _ _ place map marks
  · rename_i id cell ctx ids here
    rw [here] at place
    exact sweep_same _ _ _ _ s _ _ _ place map marks
  · rename_i outside loop sweeps hooks
    split at place
    · exact absurd ‹_› outside
    · exact absurd ‹_› loop
    · exact absurd ‹_› (sweeps _)
    · exact absurd ‹_› (hooks _ _ _ _)
    · exact place

theorem ending_step (actors : ActorMap P) (log later entries : SystemTrace P) (s next : ActorSystem P)
    (action : SystemAction P) (typed : Typed later s) (ending : Ending actors log later s) (quiet : action.quiet = true)
    (inside : s.phase ≠ .outside) (moves : Moves s next.sends action entries next) :
    Ending actors log (later ++ entries) next := by
  obtain ⟨noAddrs, empty, _⟩ := ending.silent
  have place := ending.place
  have phase := typed.phase
  generalize next.sends = sends at moves
  cases moves with
  | cloneAddr i addr found => simp [noAddrs] at found
  | post blocking i msg addr found alive => simp [noAddrs] at found
  | skip loop envelope rest here queue absent => simp [empty] at queue
  | mismatch loop envelope rest cell here queue present untyped => simp [empty] at queue
  | handle loop envelope rest cell here queue present right => simp [empty] at queue
  | spawn ty val here sender => exact absurd here inside
  | spawnPanic ty val here gone => exact absurd here inside
  | run here => exact absurd here inside
  | runOnce here => exact absurd here inside
  | shutdown here => exact absurd here inside
  | dropSystem here => exact absurd here inside
  | startedReturn id ty old val ctx here => exact absurd place (by simp [Place, here])
  | stopStarted id ty val ctx here => exact absurd place (by simp [Place, here])
  | ranOnce count here => exact absurd place (by simp [Place, here])
  | stopHandler loop envelope cell ctx here => exact absurd place (by simp [Place, here])
  | handled loop envelope cell ctx val reply here => exact absurd place (by simp [Place, here])
  | handledStop loop envelope cell ctx val reply here => exact absurd place (by simp [Place, here])
  | startedPanic => cases quiet
  | handlerPanic => cases quiet
  | hookPanic => cases quiet
  | dropAddr i =>
      exact ending_frame actors log later [] s _ ending (by simp [noAddrs]) rfl rfl rfl
        (place_same actors log later [] s _ place rfl rfl fun _ => rfl)
  | postFailed =>
      exact ending_frame actors log later [] s _ ending noAddrs rfl rfl rfl
        (place_same actors log later [] s _ place rfl rfl fun _ => rfl)
  | recvResult =>
      exact ending_frame actors log later [] s _ ending noAddrs rfl rfl rfl
        (place_same actors log later [] s _ place rfl rfl fun _ => rfl)
  | disconnected here none nobody =>
      exact ending_frame actors log later [] s _ ending noAddrs rfl rfl rfl
        (place_same actors log later [] s _ place rfl rfl fun _ => rfl)
  | stopHook id cell ctx resume here =>
      refine ending_frame actors log later [] s _ ending noAddrs rfl rfl rfl ?_
      rw [Place, here] at place
      cases resume with
      | loop around => exact place.elim
      | stopAll ids => exact sweep_same actors log later [] s _ ids (some id) place rfl fun _ => rfl
  | hookReturn id cell ctx resume here right =>
      refine ending_frame actors log later _ s _ ending noAddrs rfl rfl rfl ?_
      rw [Place, here] at place
      cases resume with
      | loop around => exact place.elim
      | stopAll ids => exact sweep_end actors log later s _ id ids place rfl
  | hookSkip id cell ctx resume here untyped =>
      rw [PhaseTyped, here] at phase
      exact absurd phase.1.2 untyped
  | takeSnapshot ids here left keys =>
      refine ending_frame actors log later _ s _ ending noAddrs rfl rfl rfl ?_
      rw [Place, here] at place
      obtain ⟨map, unmarked⟩ := place
      have same (id : ActorId) : (later ++ [SystemEntry.at (.snapshot ids)]).marks id = log.marks id := by
        rw [SystemTrace.marks_append, unmarked]
        exact List.append_nil _
      refine ⟨keys.nodup_iff.mpr s.actors.nodupKeys, ?_, by simp, ?_⟩
      · intro id member
        exact ⟨AList.mem_keys.mpr (keys.mem_iff.mp member), same id⟩
      · intro id member missing
        rw [← map] at member
        exact absurd (keys.mem_iff.mpr (AList.mem_keys.mp member)) missing
  | returns here =>
      refine ending_frame actors log later _ s _ ending noAddrs rfl rfl rfl ?_
      rw [Place, here] at place
      exact sweep_same actors log later [] s _ [] none place rfl fun _ => rfl
  | stopGone id ids here absent =>
      rw [Place, here] at place
      exact absurd (place.waiting id List.mem_cons_self).1 (AList.lookup_eq_none.mp absent)
  | stopNext id ids cell here present =>
      rw [on_stop_typed id cell (typed.cells id cell present).2]
      refine ending_frame actors log later _ s _ ending noAddrs rfl rfl rfl ?_
      rw [Place, here] at place
      exact sweep_begin actors log later s _ id ids cell.actor place rfl

theorem recv_running (s next : ActorSystem P) (entries : SystemTrace P) (here : s.phase = .within (.loop .run))
    (taken : s.step .recv = some (next, entries)) : s.running = true := by
  simp only [step, recv, here] at taken
  split at taken
  · assumption
  · cases taken

end ActorSystem

end Actinium
