import Actinium.ActorSystemServes
import Actinium.Fates

set_option autoImplicit false

namespace Actinium

variable {P : Program}

-- Once the stopped hook of an actor has begun there is nothing else to run.
theorem Stage.stopping_over (start stage : Stage) (marks : List Mark) (legal : start.after marks = some stage)
    (member : .stopping ∈ marks) : stage = .stopping ∨ stage = .ended := by
  obtain ⟨before, rest, rfl⟩ := List.append_of_mem member
  obtain ⟨mid, _, later⟩ := Automaton.run_split Stage.next start stage before (.stopping :: rest) legal
  have ends (from' : Stage) (legal : from'.after (.stopping :: rest) = some stage) (stops : from'.next .stopping = some .stopping) :
      stage = .stopping ∨ stage = .ended := by
    rw [Stage.after, Automaton.run, stops] at legal
    rcases Stage.after_stopping stage rest legal with rfl | rfl | rfl
    · exact Or.inl (Option.some.inj legal).symm
    · exact Or.inr (Option.some.inj legal).symm
    · exact Or.inr (Option.some.inj legal).symm
  cases mid with
  | idle => exact ends _ later rfl
  | failed => exact ends _ later rfl
  | _ => cases later

namespace ActorSystem

-- The handlers and the started hooks compute what they should, without panics,
-- and the system is neither dropped nor brought to stop its actors.
def serving (serve : Behaviour P) (initial : ActorId → P.Val) :
    Machine.Rely (ActorSystem P) (SystemAction P) (SystemEntry P) := fun _ s action =>
  match action with
  | .startedReturn val => ∀ id ty old ctx, s.phase = .starting id ty old ctx → val = initial id
  | .startedPanic => False
  | .handlerReturn val reply => ∀ loop envelope cell ctx, s.phase = .handling loop envelope cell ctx →
      serve cell.actor.ty cell.actor.val envelope.dispatch.msg = (val, reply, !ctx.running)
  | .handlerPanic _ => False
  | .hookPanic => False
  | .takeSnapshot _ => False
  | .stopNext => False
  | .dropSystem => False
  | _ => True

theorem serving_quiet (serve : Behaviour P) (initial : ActorId → P.Val) (log : SystemTrace P) (s : ActorSystem P)
    (action : SystemAction P) (allowed : serving serve initial log s action) : quiet log s action := by
  cases action <;> first | rfl | cases allowed

-- An actor whose stopped hook has begun is out of the map for good.
theorem gone_absent (log : SystemTrace P) (s : ActorSystem P) (typed : Typed log s) (lived : Lived log s) (id : ActorId)
    (gone : id ∈ log.events.gone) : s.actors.lookup id = none := by
  cases found : s.actors.lookup id with
  | none => rfl
  | some cell =>
      have inside : id ∈ s.actors := AList.lookup_isSome.mp (by rw [found]; rfl)
      obtain ⟨actor, logged⟩ := (Log.mem_gone _ _).mp gone
      obtain ⟨entry, member, shows⟩ := List.mem_filterMap.mp logged
      have marked : Mark.stopping ∈ log.marks id := by
        refine List.mem_filterMap.mpr ⟨entry, member, ?_⟩
        cases entry with
        | «at» event =>
            cases shows
            simp [SystemEntry.mark, Event.mark]
        | _ => cases shows
      have last (stage : Stage) (stands : s.At id stage) : stage = .stopping ∨ stage = .ended :=
        Stage.stopping_over _ _ _ (lived.here id stage stands) marked
      have phase := typed.phase
      cases here : s.phase.stageOf id with
      | none => exact absurd (last .idle (Or.inr ⟨here, rfl, inside⟩)) (by simp)
      | some stage =>
          have stops := last stage (Or.inl here)
          cases runs : s.phase with
          | starting other ty val ctx =>
              simp only [SystemPhase.stageOf, runs, Option.ite_none_right_eq_some, Option.some.injEq] at here
              simp [← here.2] at stops
          | handling loop envelope held ctx =>
              simp only [SystemPhase.stageOf, runs, Option.ite_none_right_eq_some, Option.some.injEq] at here
              simp [← here.2] at stops
          | stopping other held ctx resume =>
              simp only [SystemPhase.stageOf, runs, Option.ite_none_right_eq_some, Option.some.injEq] at here
              rw [PhaseTyped, runs] at phase
              rw [← here.1, phase.2] at found
              cases found
          | _ => simp [SystemPhase.stageOf, runs] at here

theorem unknown_replies (log : SystemTrace P) (s : ActorSystem P) (flow : Flow log s) (served : Served log s) (id : ActorId)
    (unknown : id ∉ log.events.known) : log.events.replies id = [] := by
  apply Log.replies_unsent
  rintro envelope finished rfl
  have begun : envelope ∈ log.events.begun := by
    rw [flow.begun]
    exact List.mem_append_left _ finished
  exact unknown (served.sent envelope (begun_consumed _ _ begun))

theorem faithful_step (serve : Behaviour P) (initial : ActorId → P.Val) (log entries : SystemTrace P) (s next : ActorSystem P)
    (action : SystemAction P) (sound : Sound log s) (lived : Lived log s) (served : Served log s)
    (kept : Faithful serve initial log.events s.actors none) (allowed : serving serve initial log s action)
    (moves : Moves s next.sends action entries next) : Faithful serve initial (log ++ entries).events next.actors none := by
  have phase := sound.typed.phase
  have away (id : ActorId) (gone : id ∈ log.events.gone) := gone_absent log s sound.typed lived id gone
  rw [SystemTrace.events_append]
  have still (map : next.actors = s.actors) (installed : entries.events.installed = [])
      (quiet : ∀ id, entries.events.replies id = []) (silent : entries.events.gone = []) :=
    faithful_still serve initial log.events entries.events s.actors next.actors none none kept installed quiet silent map rfl
  generalize next.sends = sends at moves
  cases moves with
  | startedReturn id ty old val ctx here =>
      rw [PhaseTyped, here] at phase
      exact faithful_install serve initial log.events s.actors none kept id ⟨⟨ty, val⟩, ty⟩ phase.2
        (unknown_replies log s sound.flow served id phase.2) (allowed id ty old ctx here)
  | mismatch loop envelope rest cell here queue present untyped =>
      exact absurd (no_mismatch log s sound.typed envelope rest queue cell present) untyped
  | handled loop envelope cell ctx val reply here running =>
      rw [PhaseTyped, here] at phase
      obtain ⟨_, _, present⟩ := phase
      have answer := allowed loop envelope cell ctx here
      rw [running] at answer
      refine faithful_handled serve initial log.events _ s.actors _ none none kept envelope.actorId cell.actor envelope.dispatch.msg
        val reply false (.mapped cell present) answer rfl (Log.replies_handled envelope reply [] rfl)
        (fun other different => Log.replies_apart envelope reply [] other different rfl) ?_ ?_
      · intro other actor asked held
        cases held with
        | mapped known found =>
            by_cases same : other = envelope.actorId
            · rw [same, AList.lookup_insert] at found
              cases found
              exact Or.inr ⟨same, rfl, rfl⟩
            · rw [AList.lookup_insert_ne same] at found
              exact Or.inl ⟨same, .mapped known found⟩
        | inHand _ _ shown => cases shown
        | stopping _ logged =>
            rcases List.mem_append.mp logged with old | new
            · refine Or.inl ⟨?_, .stopping actor old⟩
              rintro rfl
              rw [away _ ((Log.mem_gone _ _).mpr ⟨actor, old⟩)] at present
              cases present
            · cases List.mem_singleton.mp new
      · intro other actor asked held
        cases held with
        | mapped known found =>
            by_cases same : other = envelope.actorId
            · exact ⟨_, _, .mapped (cell.write val) (by rw [same, AList.lookup_insert])⟩
            · exact ⟨_, _, .mapped known ((AList.lookup_insert_ne same).trans found)⟩
        | inHand _ _ shown => cases shown
        | stopping _ logged => exact ⟨_, _, .stopping actor (List.mem_append_left _ logged)⟩
  | handledStop loop envelope cell ctx val reply here stops =>
      rw [PhaseTyped, here] at phase
      obtain ⟨held, _, present⟩ := phase
      have answer := allowed loop envelope cell ctx here
      rw [stops] at answer
      rw [on_stop_typed _ (cell.write val) held.2]
      refine faithful_handled serve initial log.events _ s.actors _ none none kept envelope.actorId cell.actor envelope.dispatch.msg
        val reply true (.mapped cell present) answer rfl (Log.replies_handled envelope reply _ rfl)
        (fun other different => Log.replies_apart envelope reply _ other different rfl) ?_ ?_
      · intro other actor asked held
        cases held with
        | mapped known found =>
            by_cases same : other = envelope.actorId
            · rw [same, AList.lookup_erase] at found
              cases found
            · rw [AList.lookup_erase_ne same] at found
              exact Or.inl ⟨same, .mapped known found⟩
        | inHand _ _ shown => cases shown
        | stopping _ logged =>
            rcases List.mem_append.mp logged with old | new
            · refine Or.inl ⟨?_, .stopping actor old⟩
              rintro rfl
              rw [away _ ((Log.mem_gone _ _).mpr ⟨actor, old⟩)] at present
              cases present
            · simp only [SystemTrace.events_at, List.mem_cons, reduceCtorEq, Event.stopping.injEq, false_or] at new
              rcases new with ⟨rfl, rfl⟩ | wrong
              · exact Or.inr ⟨rfl, rfl, rfl⟩
              · cases wrong
      · intro other actor asked held
        by_cases same : other = envelope.actorId
        · exact ⟨(cell.write val).actor, _, .stopping _ (by simp [same])⟩
        · cases held with
          | mapped known found => exact ⟨_, _, .mapped known ((AList.lookup_erase_ne same).trans found)⟩
          | inHand _ _ shown => cases shown
          | stopping _ logged => exact ⟨_, _, .stopping actor (List.mem_append_left _ logged)⟩
  | startedPanic => cases allowed
  | handlerPanic => cases allowed
  | hookPanic => cases allowed
  | takeSnapshot => cases allowed
  | returns => cases allowed
  | stopGone => cases allowed
  | stopNext => cases allowed
  | dropSystem => cases allowed
  | _ => exact still rfl rfl (fun _ => rfl) rfl

theorem serving_alive (serve : Behaviour P) (initial : ActorId → P.Val) (log entries : SystemTrace P) (s next : ActorSystem P)
    (action : SystemAction P) (allowed : serving serve initial log s action) (alive : s.phase ≠ .ended)
    (moves : Moves s next.sends action entries next) : next.phase ≠ .ended := by
  generalize next.sends = sends at moves
  cases moves with
  | dropSystem => cases allowed
  | cloneAddr => exact alive
  | dropAddr => exact alive
  | postFailed => exact alive
  | post => exact alive
  | recvResult => exact alive
  | spawnPanic => exact alive
  | disconnected => exact alive
  | shutdown => exact alive
  | _ => exact nofun

theorem reach_faithful (serve : Behaviour P) (initial : ActorId → P.Val) (log : SystemTrace P) (s : ActorSystem P)
    (reached : (actorSystem P).Reach (serving serve initial) log s) :
    Faithful serve initial log.events s.actors none ∧ s.phase ≠ .ended := by
  refine Machine.reach_invariant (actorSystem P) (serving serve initial)
    (fun log s => Faithful serve initial (SystemTrace.events log) s.actors none ∧ s.phase ≠ .ended) ?_ ?_ log s reached
  · rintro s rfl
    refine ⟨⟨?_, ?_⟩, by simp [new]⟩
    · intro id member
      cases member
    · intro id actor stops held
      cases held with
      | mapped cell found => simp [new] at found
      | inHand _ _ shown => cases shown
      | stopping _ logged => cases logged
  · rintro log s action next entries before ⟨kept, alive⟩ allowed taken
    have sound := reach_system_sound _ log s before
    have calm := reach_calm log s (Machine.reach_weaken _ _ quiet (serving_quiet serve initial) log s before)
    have moves := step_moves s next action entries taken
    exact ⟨faithful_step serve initial log entries s next action sound calm.lived calm.served kept allowed moves,
      serving_alive serve initial log entries s next action allowed alive moves⟩

-- A system with an empty channel shows the replay of every actor's mail.
theorem shows_replay (serve : Behaviour P) (initial : ActorId → P.Val) (log : SystemTrace P) (s : ActorSystem P)
    (reached : (actorSystem P).Reach (serving serve initial) log s) (empty : s.rx.queue = []) (rests : s.phase.current = none)
    (id : ActorId) (ty : P.Ty) (installed : (id, ty) ∈ log.events.installed) :
    Shows log.events s.actors id ty (Replay.replay (serve ty) (initial id) (payloads id log.events.accepted)) := by
  obtain ⟨kept, alive⟩ := reach_faithful serve initial log s reached
  have sound := reach_system_sound _ log s reached
  have calm := reach_calm log s (Machine.reach_weaken _ _ quiet (serving_quiet serve initial) log s reached)
  obtain ⟨begun, dropped⟩ := calm.served.split alive id
  have accepted : log.events.accepted = log.events.consumed := by
    rw [sound.flow.order, empty, List.append_nil]
  have finished : log.events.begun = log.events.finished := by
    rw [sound.flow.begun, rests]
    exact List.append_nil _
  refine faithful_shows serve initial log.events s.actors kept ?_ (typed_unique log s sound.typed)
    (gone_absent log s sound.typed calm.lived) id ty installed ?_ ?_
  · intro envelope member
    obtain ⟨entry, inside, shows⟩ := List.mem_filterMap.mp member
    have silent := calm.calm entry inside
    cases entry with
    | «at» event =>
        cases shows
        cases silent
    | _ => cases shows
  · rw [accepted, ← finished, begun, dropped, History.through_beyond]
  · intro living
    obtain ⟨actor, stops, held⟩ := kept.total id (known_of_installed log id ty installed)
    cases held with
    | mapped cell found =>
        have inside : id ∈ s.actors := AList.lookup_isSome.mp (by rw [found]; rfl)
        have idle : s.phase.stageOf id ≠ some .handling := by
          intro busy
          cases here : s.phase <;> simp [SystemPhase.stageOf, SystemPhase.current, here] at busy rests
        have unasked := calm.served.idle id inside idle
        have none := (History.through_unseen log.asked _ [] unasked).2
        rw [List.append_nil] at none
        rw [dropped, none]
        rfl
    | inHand _ _ shown => cases shown
    | stopping _ logged => exact absurd ((Log.mem_gone _ _).mpr ⟨actor, logged⟩) living

end ActorSystem

end Actinium
