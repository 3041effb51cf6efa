import Actinium.Lib.History
import Actinium.ActorSystemRuns

set_option autoImplicit false

namespace Actinium

variable {P : Program}

namespace ActorSystem

-- Nobody can send any more, and nothing is left to receive.
def Silent (s : ActorSystem P) : Prop := s.addrs = [] ∧ s.rx.queue = [] ∧ s.tx = false

-- Of the messages taken out of the channel for an actor, it was given those up
-- to the first whose handler asked to stop, and the others were dropped.
def Share (log : SystemTrace P) (id : ActorId) : Prop :=
  about id log.events.begun = History.through log.asked (about id log.events.consumed) ∧
    about id log.events.dropped = History.beyond log.asked (about id log.events.consumed)

structure Served (log : SystemTrace P) (s : ActorSystem P) : Prop where
  sent : ∀ envelope ∈ log.events.consumed, envelope.actorId ∈ log.events.known
  split : s.phase ≠ .ended → ∀ id, Share log id
  idle : ∀ id ∈ s.actors, s.phase.stageOf id ≠ some .handling →
    ∀ envelope ∈ about id log.events.consumed, log.asked envelope = false
  busy : ∀ loop envelope cell ctx, s.phase = .handling loop envelope cell ctx → log.asked envelope = !ctx.running ∧
    ∃ earlier, about envelope.actorId log.events.consumed = earlier ++ [envelope] ∧ ∀ other ∈ earlier, log.asked other = false
  gone : s.phase ≠ .ended → ∀ id ∈ log.events.known, id ∉ s.actors →
    Silent s ∨ ∃ envelope ∈ about id log.events.consumed, log.asked envelope = true

theorem asked_append (a b : SystemTrace P) (envelope : Message P) :
    (a ++ b).asked envelope = (a.asked envelope || b.asked envelope) := by
  simp [SystemTrace.asked, List.any_append]

theorem asked_quiet (log entries : SystemTrace P) (requested : entries.requested = []) (envelope : Message P) :
    (log ++ entries).asked envelope = log.asked envelope := by
  rw [asked_append]
  simp [SystemTrace.asked, requested]

theorem consumed_accepted (log : SystemTrace P) (s : ActorSystem P) (flow : Flow log s) (envelope : Message P)
    (member : envelope ∈ log.events.consumed) : envelope ∈ log.events.accepted := by
  rw [flow.order]
  exact List.mem_append_left _ member

theorem begun_consumed (log : Log P) (envelope : Message P) (member : envelope ∈ log.begun) : envelope ∈ log.consumed := by
  have event := (Log.mem_begun log envelope).mp member
  exact List.mem_filterMap.mpr ⟨_, event, rfl⟩

-- Serial numbers tell messages apart.
theorem same_serial (log : SystemTrace P) (s : ActorSystem P) (flow : Flow log s) (a b : Message P)
    (left : a ∈ log.events.accepted) (right : b ∈ log.events.accepted) (same : a.dispatch.serial = b.dispatch.serial) : a = b :=
  List.inj_on_of_nodup_map flow.nodup left right same

-- A message still in the channel has not asked for anything.
theorem unasked_mail (log : SystemTrace P) (s : ActorSystem P) (flow : Flow log s) (envelope : Message P)
    (waits : envelope ∈ s.rx.queue) : log.asked envelope = false := by
  rw [SystemTrace.asked, List.any_eq_false]
  intro other member
  have taken := begun_consumed _ _ (flow.requested other member)
  have accepted : envelope ∈ log.events.accepted := by
    rw [flow.order]
    exact List.mem_append_right _ waits
  intro same
  have equal := same_serial log s flow other envelope (consumed_accepted log s flow other taken) accepted (by simpa using same)
  have apart := flow.nodup.of_map
  rw [flow.order] at apart
  exact (List.nodup_append.mp apart).2.2 other taken envelope waits equal

theorem about_append (id : ActorId) (a b : List (Message P)) : about id (a ++ b) = about id a ++ about id b :=
  Keyed.select_append ..

theorem share_other (log entries : SystemTrace P) (id : ActorId) (share : Share log id)
    (consumed : about id entries.events.consumed = []) (begun : about id entries.events.begun = [])
    (dropped : about id entries.events.dropped = [])
    (asks : ∀ envelope ∈ about id log.events.consumed, (log ++ entries).asked envelope = log.asked envelope) :
    Share (log ++ entries) id := by
  obtain ⟨front, back⟩ := History.through_congr (log ++ entries).asked log.asked _ asks
  simp only [Share, SystemTrace.events_append, Log.consumed_append, Log.begun_append, Log.dropped_append, about_append,
    consumed, begun, dropped, List.append_nil, front, back]
  exact share

theorem served_frame (log entries : SystemTrace P) (s next : ActorSystem P) (served : Served log s)
    (consumed : entries.events.consumed = []) (begun : entries.events.begun = []) (dropped : entries.events.dropped = [])
    (requested : entries.requested = []) (installed : entries.events.installed = [])
    (living : next.phase ≠ .ended → s.phase ≠ .ended)
    (idle : ∀ id ∈ next.actors, next.phase.stageOf id ≠ some .handling → (id ∈ s.actors ∧ s.phase.stageOf id ≠ some .handling) ∨
      ∀ envelope ∈ about id log.events.consumed, log.asked envelope = false)
    (busy : ∀ loop envelope cell ctx, next.phase = .handling loop envelope cell ctx → s.phase = .handling loop envelope cell ctx)
    (gone : ∀ id, id ∉ next.actors → id ∈ s.actors → Silent s ∨ ∃ envelope ∈ about id log.events.consumed, log.asked envelope = true)
    (silent : Silent s → Silent next) : Served (log ++ entries) next := by
  have eaten : (log ++ entries).events.consumed = log.events.consumed := by simp [consumed]
  have known : (log ++ entries).events.known = log.events.known := by simp [Log.known, installed]
  have asks : (log ++ entries).asked = log.asked := funext (asked_quiet log entries requested)
  refine ⟨?_, ?_, ?_, ?_, ?_⟩
  · rw [eaten, known]
    exact served.sent
  · intro here id
    exact share_other log entries id (served.split (living here) id) (by rw [consumed]; rfl) (by rw [begun]; rfl)
      (by rw [dropped]; rfl) (fun envelope _ => asked_quiet log entries requested envelope)
  · intro id inside other
    rw [eaten, asks]
    rcases idle id inside other with ⟨before, stage⟩ | unasked
    · exact served.idle id before stage
    · exact unasked
  · intro loop envelope cell ctx here
    rw [eaten, asks]
    exact served.busy loop envelope cell ctx (busy loop envelope cell ctx here)
  · intro here id member absent
    rw [known] at member
    rw [eaten, asks]
    by_cases before : id ∈ s.actors
    · exact (gone id absent before).imp_left silent
    · exact (served.gone (living here) id member before).imp_left silent

-- A step that concerns the messages of one actor.
theorem served_one (log entries : SystemTrace P) (s next : ActorSystem P) (served : Served log s) (id : ActorId)
    (consumed : ∀ other, other ≠ id → about other entries.events.consumed = [])
    (begun : ∀ other, other ≠ id → about other entries.events.begun = [])
    (dropped : ∀ other, other ≠ id → about other entries.events.dropped = [])
    (asks : ∀ other, other ≠ id → ∀ envelope ∈ about other log.events.consumed,
      (log ++ entries).asked envelope = log.asked envelope)
    (installed : entries.events.installed = []) (living : s.phase ≠ .ended) (known : id ∈ log.events.known)
    (places : ∀ other, other ≠ id → (other ∈ next.actors ↔ other ∈ s.actors) ∧
      (next.phase.stageOf other ≠ some .handling → s.phase.stageOf other ≠ some .handling))
    (silent : Silent s → Silent next) (share : Share (log ++ entries) id)
    (idle : id ∈ next.actors → next.phase.stageOf id ≠ some .handling →
      ∀ envelope ∈ about id (log ++ entries).events.consumed, (log ++ entries).asked envelope = false)
    (busy : ∀ loop envelope cell ctx, next.phase = .handling loop envelope cell ctx →
      (log ++ entries).asked envelope = !ctx.running ∧ ∃ earlier,
        about envelope.actorId (log ++ entries).events.consumed = earlier ++ [envelope] ∧
          ∀ other ∈ earlier, (log ++ entries).asked other = false)
    (gone : id ∉ next.actors → Silent next ∨ ∃ envelope ∈ about id (log ++ entries).events.consumed,
      (log ++ entries).asked envelope = true) : Served (log ++ entries) next := by
  have stays : (log ++ entries).events.known = log.events.known := by simp [Log.known, installed]
  have eaten (other : ActorId) (different : other ≠ id) :
      about other (log ++ entries).events.consumed = about other log.events.consumed := by
    rw [SystemTrace.events_append, Log.consumed_append, about_append, consumed other different, List.append_nil]
  refine ⟨?_, ?_, ?_, busy, ?_⟩
  · intro envelope member
    rw [stays]
    by_cases same : envelope.actorId = id
    · rw [same]
      exact known
    · have own : envelope ∈ about envelope.actorId (log ++ entries).events.consumed := (Keyed.mem_select _ _ _ _).mpr ⟨member, rfl⟩
      rw [eaten _ same] at own
      exact served.sent envelope ((Keyed.mem_select _ _ _ _).mp own).1
  · intro _ other
    by_cases same : other = id
    · rw [same]
      exact share
    · exact share_other log entries other (served.split living other) (consumed other same) (begun other same) (dropped other same)
        (asks other same)
  · intro other inside stage envelope member
    by_cases same : other = id
    · subst same
      exact idle inside stage envelope member
    · rw [eaten other same] at member
      rw [asks other same envelope member]
      exact served.idle other ((places other same).1.mp inside) ((places other same).2 stage) envelope member
  · intro _ other member absent
    by_cases same : other = id
    · subst same
      exact gone absent
    · rw [stays] at member
      rw [eaten other same]
      rcases served.gone living other member (fun inside => absent ((places other same).1.mpr inside)) with before | ⟨envelope, inside, asked⟩
      · exact Or.inl (silent before)
      · exact Or.inr ⟨envelope, inside, (asks other same envelope inside).trans asked⟩

theorem about_apart (id : ActorId) (envelope : Message P) (different : id ≠ envelope.actorId) : about id [envelope] = [] :=
  Keyed.select_none _ _ _ (by simpa using Ne.symm different)

theorem about_own (envelope : Message P) : about envelope.actorId [envelope] = [envelope] :=
  Keyed.select_all _ _ _ (by simp)

-- No actor is there for the message, since it has asked to stop.
theorem served_skip (log : SystemTrace P) (s next : ActorSystem P) (served : Served log s) (typed : Typed log s)
    (envelope : Message P) (rest : List (Message P)) (queue : s.rx.queue = envelope :: rest) (loop : Loop)
    (here : s.phase = .within (.loop loop)) (absent : envelope.actorId ∉ s.actors) (actors : next.actors = s.actors)
    (after : Loop) (left : next.phase = .within (.loop after)) : Served (log ++ [SystemEntry.at (.dropped envelope)]) next := by
  have known : envelope.actorId ∈ log.events.known :=
    known_of_installed log _ envelope.dispatch.ty (typed.mail envelope (by rw [queue]; exact List.mem_cons_self))
  have asks := asked_quiet log [SystemEntry.at (.dropped envelope)] rfl
  have waits : ¬ Silent s := by
    intro silent
    rw [silent.2.1] at queue
    cases queue
  obtain ⟨stopper, inside, stopped⟩ := (served.gone (by simp [here]) _ known absent).resolve_left waits
  refine served_one log _ s next served envelope.actorId (fun other different => about_apart other envelope different)
    (fun _ _ => rfl) (fun other different => about_apart other envelope different) (fun _ _ other _ => asks other) rfl (by simp [here])
    known ?_ (fun silent => absurd silent waits) ?_ ?_ ?_ ?_
  · intro other _
    rw [actors, here]
    exact ⟨Iff.rfl, fun _ => by simp [SystemPhase.stageOf]⟩
  · obtain ⟨front, back⟩ := History.through_seen log.asked _ [envelope] stopper inside stopped
    have share := served.split (by simp [here]) envelope.actorId
    rw [Share, funext asks, SystemTrace.events_append, Log.consumed_append, Log.begun_append, Log.dropped_append, about_append,
      about_append, about_append, share.1, share.2, show Log.consumed (SystemTrace.events [.at (.dropped envelope)]) = [envelope] from rfl,
      show Log.dropped (SystemTrace.events [.at (.dropped envelope)]) = [envelope] from rfl,
      show Log.begun (SystemTrace.events [.at (.dropped envelope)]) = [] from rfl, about_own, front, back]
    exact ⟨List.append_nil _, rfl⟩
  · intro wrong
    rw [actors] at wrong
    exact absurd wrong absent
  · intro around other cell ctx now
    rw [left] at now
    cases now
  · intro _
    refine Or.inr ⟨stopper, ?_, (asks stopper).trans stopped⟩
    rw [SystemTrace.events_append, Log.consumed_append, about_append]
    exact List.mem_append_left _ inside

theorem served_handle (log : SystemTrace P) (s next : ActorSystem P) (served : Served log s) (typed : Typed log s) (flow : Flow log s)
    (envelope : Message P) (rest : List (Message P)) (queue : s.rx.queue = envelope :: rest) (loop : Loop)
    (here : s.phase = .within (.loop loop)) (inside : envelope.actorId ∈ s.actors) (actors : next.actors = s.actors)
    (after : Loop) (cell : ActorCell P) (taken : next.phase = .handling after envelope cell (.new envelope.actorId)) :
    Served (log ++ [SystemEntry.at (.handling envelope)]) next := by
  have first : envelope ∈ s.rx.queue := by
    rw [queue]
    exact List.mem_cons_self
  have known : envelope.actorId ∈ log.events.known := known_of_installed log _ envelope.dispatch.ty (typed.mail envelope first)
  have asks := asked_quiet log [SystemEntry.at (.handling envelope)] rfl
  have waits : ¬ Silent s := by
    intro silent
    rw [silent.2.1] at queue
    cases queue
  have unasked := served.idle envelope.actorId inside (by simp [here, SystemPhase.stageOf])
  have fresh := unasked_mail log s flow envelope first
  refine served_one log _ s next served envelope.actorId (fun other different => about_apart other envelope different)
    (fun other different => about_apart other envelope different) (fun _ _ => rfl) (fun _ _ other _ => asks other) rfl (by simp [here])
    known ?_ (fun silent => absurd silent waits) ?_ ?_ ?_ ?_
  · intro other different
    rw [actors, here]
    exact ⟨Iff.rfl, fun _ => by simp [SystemPhase.stageOf]⟩
  · obtain ⟨front, back⟩ := History.through_unseen log.asked _ [envelope] unasked
    obtain ⟨frontAll, backAll⟩ := History.through_unseen log.asked _ [] unasked
    have share := served.split (by simp [here]) envelope.actorId
    rw [List.append_nil] at frontAll backAll
    rw [Share, funext asks, SystemTrace.events_append, Log.consumed_append, Log.begun_append, Log.dropped_append, about_append,
      about_append, about_append, share.1, share.2, show Log.consumed (SystemTrace.events [.at (.handling envelope)]) = [envelope] from rfl,
      show Log.dropped (SystemTrace.events [.at (.handling envelope)]) = [] from rfl,
      show Log.begun (SystemTrace.events [.at (.handling envelope)]) = [envelope] from rfl, about_own, front, back, frontAll, backAll]
    simp [History.through, History.beyond, fresh]
  · intro _ stage
    rw [taken] at stage
    simp [SystemPhase.stageOf] at stage
  · intro around other cell ctx now
    rw [taken] at now
    cases now
    refine ⟨(asks envelope).trans fresh, about envelope.actorId log.events.consumed, ?_, ?_⟩
    · rw [SystemTrace.events_append, Log.consumed_append, about_append]
      exact congrArg _ (about_own envelope)
    · intro before member
      exact (asks before).trans (unasked before member)
  · intro wrong
    rw [actors] at wrong
    exact absurd inside wrong

-- ctx.stop() in a handler: of the messages taken so far only this one asks.
theorem served_ask (log : SystemTrace P) (s next : ActorSystem P) (served : Served log s) (typed : Typed log s) (flow : Flow log s)
    (loop : Loop) (envelope : Message P) (cell : ActorCell P) (ctx : Context Empty) (here : s.phase = .handling loop envelope cell ctx)
    (actors : next.actors = s.actors) (taken : next.phase = .handling loop envelope cell ctx.stop) (silent : Silent s → Silent next) :
    Served (log ++ [SystemEntry.stopRequested envelope]) next := by
  have phase := typed.phase
  simp only [PhaseTyped, here] at phase
  obtain ⟨asking, earlier, last, before⟩ := served.busy _ _ _ _ here
  have eaten : (log ++ [SystemEntry.stopRequested envelope]).events = log.events := by
    rw [SystemTrace.events_append]
    exact List.append_nil _
  have current : envelope ∈ log.events.consumed := by
    have member : envelope ∈ about envelope.actorId log.events.consumed := by
      rw [last]
      simp
    exact ((Keyed.mem_select _ _ _ _).mp member).1
  have asks (other : Message P) : (log ++ [SystemEntry.stopRequested envelope]).asked other =
      (log.asked other || decide (envelope.dispatch.serial = other.dispatch.serial)) := by
    rw [asked_append]
    simp [SystemTrace.asked, SystemTrace.requested, SystemEntry.requests]
  have apart (other : Message P) (member : other ∈ log.events.consumed) (different : other ≠ envelope) :
      (log ++ [SystemEntry.stopRequested envelope]).asked other = log.asked other := by
    rw [asks, decide_eq_false, Bool.or_false]
    intro same
    exact different (same_serial log s flow other envelope (consumed_accepted log s flow other member)
      (consumed_accepted log s flow envelope current) same.symm)
  have others (other : Message P) (member : other ∈ earlier) :
      (log ++ [SystemEntry.stopRequested envelope]).asked other = false := by
    have inside : other ∈ about envelope.actorId log.events.consumed := by
      rw [last]
      exact List.mem_append_left _ member
    have nodup : (about envelope.actorId log.events.consumed).Nodup := by
      have whole := flow.nodup.of_map
      rw [flow.order] at whole
      exact (List.nodup_append.mp whole).1.sublist (Keyed.select_sublist _ _ _)
    have different : other ≠ envelope := by
      rw [last] at nodup
      exact (List.nodup_append.mp nodup).2.2 other member envelope (by simp)
    rw [apart other ((Keyed.mem_select _ _ _ _).mp inside).1 different]
    exact before other member
  refine served_one log _ s next served envelope.actorId (fun _ _ => rfl) (fun _ _ => rfl) (fun _ _ => rfl) ?_ rfl (by simp [here])
    (known_of_installed _ _ _ phase.1.1) ?_ silent ?_ ?_ ?_ ?_
  · intro id different other member
    obtain ⟨inside, keyed⟩ := (Keyed.mem_select _ _ _ _).mp member
    refine apart other inside ?_
    intro same
    rw [same] at keyed
    exact different keyed.symm
  · intro other _
    rw [actors, here, taken]
    exact ⟨Iff.rfl, id⟩
  · have share := served.split (by simp [here]) envelope.actorId
    obtain ⟨front, back⟩ := History.through_last (log ++ [SystemEntry.stopRequested envelope]).asked log.asked earlier envelope others before
    rw [Share, eaten, last, front, back, ← last]
    exact share
  · intro _ stage
    rw [taken] at stage
    simp [SystemPhase.stageOf] at stage
  · intro around other cell ctx now
    rw [taken] at now
    cases now
    refine ⟨by simp [asks, Context.stop], earlier, ?_, others⟩
    rw [eaten]
    exact last
  · intro wrong
    rw [actors] at wrong
    exact absurd (AList.lookup_isSome.mp (by simp [phase.2.2])) wrong

theorem served_install (log : SystemTrace P) (s next : ActorSystem P) (served : Served log s) (shut : Shut s) (id : ActorId)
    (ty : P.Ty) (val : P.Val) (ctx : Context Empty) (here : s.phase = .starting id ty val ctx) (fresh : id ∉ log.events.known)
    (cell : ActorCell P) (actors : next.actors = s.actors.insert id cell) (after : next.phase = .outside) :
    Served (log ++ [SystemEntry.started id, .at (.installed id ty)]) next := by
  have asks := asked_quiet log [SystemEntry.started id, .at (.installed id ty)] rfl
  have eaten : (log ++ [SystemEntry.started id, .at (.installed id ty)]).events.consumed = log.events.consumed := by
    rw [SystemTrace.events_append, Log.consumed_append]
    exact List.append_nil _
  have grows : (log ++ [SystemEntry.started id, .at (.installed id ty)]).events.known = log.events.known ++ [id] := by
    rw [SystemTrace.events_append, Log.known_append]
    rfl
  have speaks : ¬ Silent s := by
    intro silent
    have dropped := silent.2.2
    rw [shut.sender _ _ _ _ here] at dropped
    cases dropped
  refine ⟨?_, ?_, ?_, ?_, ?_⟩
  · intro envelope member
    rw [eaten] at member
    rw [grows]
    exact List.mem_append_left _ (served.sent envelope member)
  · intro _ other
    exact share_other log _ other (served.split (by simp [here]) other) rfl rfl rfl (fun envelope _ => asks envelope)
  · intro other inside _ envelope member
    rw [eaten] at member
    rw [asks]
    by_cases same : other = id
    · obtain ⟨taken, keyed⟩ := (Keyed.mem_select _ _ _ _).mp member
      have known := served.sent envelope taken
      rw [keyed, same] at known
      exact absurd known fresh
    · rw [actors, AList.mem_insert] at inside
      refine served.idle other (inside.resolve_left same) ?_ envelope member
      rw [here]
      simp only [SystemPhase.stageOf]
      split <;> simp
  · intro loop envelope cell ctx now
    rw [after] at now
    cases now
  · intro _ other member absent
    rw [actors, AList.mem_insert, not_or] at absent
    rw [grows] at member
    have before : other ∈ log.events.known := by
      rcases List.mem_append.mp member with old | new
      · exact old
      · exact absurd (List.mem_singleton.mp new) absent.1
    obtain ⟨envelope, inside, asked⟩ := (served.gone (by simp [here]) other before absent.2).resolve_left speaks
    exact Or.inr ⟨envelope, by rw [eaten]; exact inside, (asks envelope).trans asked⟩

theorem silent_same (s next : ActorSystem P) (addrs : next.addrs = s.addrs) (queue : next.rx.queue = s.rx.queue)
    (tx : s.tx = false → next.tx = false) (silent : Silent s) : Silent next := by
  obtain ⟨noAddrs, empty, dropped⟩ := silent
  exact ⟨addrs.trans noAddrs, queue.trans empty, tx dropped⟩

-- A step that neither takes a message nor ends a handler, nor removes an actor.
theorem served_same (log entries : SystemTrace P) (s next : ActorSystem P) (served : Served log s)
    (consumed : entries.events.consumed = []) (begun : entries.events.begun = []) (dropped : entries.events.dropped = [])
    (requested : entries.requested = []) (installed : entries.events.installed = [])
    (living : next.phase ≠ .ended → s.phase ≠ .ended) (actors : next.actors = s.actors)
    (stage : ∀ id, s.phase.stageOf id = some .handling → next.phase.stageOf id = some .handling)
    (busy : ∀ loop envelope cell ctx, next.phase = .handling loop envelope cell ctx → s.phase = .handling loop envelope cell ctx)
    (silent : Silent s → Silent next) : Served (log ++ entries) next := by
  refine served_frame log entries s next served consumed begun dropped requested installed living ?_ busy ?_ silent
  · intro id inside other
    rw [actors] at inside
    exact Or.inl ⟨inside, fun before => other (stage id before)⟩
  · intro id absent inside
    rw [actors] at absent
    exact absurd inside absent

theorem served_step (log entries : SystemTrace P) (s next : ActorSystem P) (action : SystemAction P) (sound : Sound log s)
    (shut : Shut s) (served : Served log s) (quiet : action.quiet = true) (moves : Moves s next.sends action entries next) :
    Served (log ++ entries) next := by
  have typed := sound.typed
  have phase := typed.phase
  have speaks (addr : Addr P 1) (i : Nat) (found : s.addrs[i]? = some addr) : ¬ Silent s := by
    intro silent
    rw [silent.1] at found
    cases found
  generalize next.sends = sends at moves
  cases moves with
  | startedPanic => cases quiet
  | handlerPanic => cases quiet
  | hookPanic => cases quiet
  | mismatch loop envelope rest cell here queue present untyped =>
      exact absurd (no_mismatch log s typed envelope rest queue cell present) untyped
  | cloneAddr i addr found =>
      exact served_same log _ s _ served rfl rfl rfl rfl rfl id rfl (fun _ => id) (fun _ _ _ _ => id)
        (fun silent => absurd silent (speaks addr i found))
  | dropAddr i =>
      refine served_same log _ s _ served rfl rfl rfl rfl rfl id rfl (fun _ => id) (fun _ _ _ _ => id) ?_
      rintro ⟨noAddrs, others⟩
      exact ⟨by simp [noAddrs], others⟩
  | post blocking i msg addr found alive =>
      exact served_same log _ s _ served rfl rfl rfl rfl rfl id rfl (fun _ => id) (fun _ _ _ _ => id)
        (fun silent => absurd silent (speaks addr i found))
  | startedReturn id ty old val ctx here =>
      simp only [PhaseTyped, here] at phase
      exact served_install log s _ served shut id ty old ctx here phase.2 ⟨⟨ty, val⟩, ty⟩ rfl rfl
  | skip loop envelope rest here queue absent =>
      exact served_skip log s _ served typed envelope rest queue loop here (AList.lookup_eq_none.mp absent) rfl loop.counted rfl
  | handle loop envelope rest cell here queue present right =>
      exact served_handle log s _ served typed sound.flow envelope rest queue loop here (AList.lookup_isSome.mp (by simp [present]))
        rfl loop.counted cell rfl
  | stopHandler loop envelope cell ctx here =>
      exact served_ask log s _ served typed sound.flow loop envelope cell ctx here rfl rfl id
  | handled loop envelope cell ctx val reply here running =>
      simp only [PhaseTyped, here] at phase
      obtain ⟨asking, earlier, last, before⟩ := served.busy _ _ _ _ here
      refine served_frame log _ s _ served rfl rfl rfl rfl rfl (fun _ => by simp [here]) ?_ (by simp) ?_ id
      · intro id inside _
        by_cases same : id = envelope.actorId
        · right
          rw [same, last]
          intro other member
          rcases List.mem_append.mp member with old | new
          · exact before other old
          · rw [List.mem_singleton.mp new, asking, running]
            rfl
        · left
          refine ⟨((AList.mem_insert _).mp inside).resolve_left same, ?_⟩
          simp [here, SystemPhase.stageOf, Ne.symm same]
      · intro id absent inside
        exact absurd ((AList.mem_insert _).mpr (Or.inr inside)) absent
  | handledStop loop envelope cell ctx val reply here stops =>
      simp only [PhaseTyped, here] at phase
      obtain ⟨asking, earlier, last, before⟩ := served.busy _ _ _ _ here
      rw [on_stop_typed _ (cell.write val) phase.1.2]
      refine served_frame log _ s _ served rfl rfl rfl rfl rfl (fun _ => by simp [here]) ?_ (by simp) ?_ id
      · intro id inside _
        obtain ⟨different, old⟩ := AList.mem_erase.mp inside
        exact Or.inl ⟨old, by simp [here, SystemPhase.stageOf, Ne.symm different]⟩
      · intro id absent inside
        right
        have same : id = envelope.actorId := by
          by_contra different
          exact absent (AList.mem_erase.mpr ⟨different, inside⟩)
        refine ⟨envelope, by rw [same, last]; simp, ?_⟩
        rw [asking, stops]
        rfl
  | stopNext id ids cell here present =>
      rw [on_stop_typed _ cell (typed.cells id cell present).2]
      refine served_frame log _ s _ served rfl rfl rfl rfl rfl (fun _ => by simp [here]) ?_ (by simp) ?_ (fun silent => silent)
      · intro other inside _
        exact Or.inl ⟨(AList.mem_erase.mp inside).2, by simp [here, SystemPhase.stageOf]⟩
      · intro other absent inside
        exact Or.inl (shut.silent (by simp [Closed, here, Resume.left]))
  | dropSystem here =>
      refine ⟨?_, fun living => absurd rfl living, ?_, by simp, fun living => absurd rfl living⟩
      · intro envelope member
        rw [SystemTrace.events_append, SystemTrace.events_drops, Log.consumed_append, Log.consumed_dropped] at member
        rw [SystemTrace.events_append, SystemTrace.events_drops, Log.known_append]
        apply List.mem_append_left
        rcases List.mem_append.mp member with old | new
        · exact served.sent envelope old
        · exact known_of_installed log _ _ (typed.mail envelope new)
      · intro id inside
        exact absurd inside (AList.notMem_empty id)
  | postFailed => exact served_same log _ s _ served rfl rfl rfl rfl rfl id rfl (fun _ => id) (fun _ _ _ _ => id) id
  | recvResult => exact served_same log _ s _ served rfl rfl rfl rfl rfl id rfl (fun _ => id) (fun _ _ _ _ => id) id
  | spawnPanic => exact served_same log _ s _ served rfl rfl rfl rfl rfl id rfl (fun _ => id) (fun _ _ _ _ => id) id
  | disconnected => exact served_same log _ s _ served rfl rfl rfl rfl rfl id rfl (fun _ => id) (fun _ _ _ _ => id) id
  | shutdown => exact served_same log _ s _ served rfl rfl rfl rfl rfl id rfl (fun _ => id) (fun _ _ _ _ => id) id
  | run here =>
      exact served_same log _ s _ served rfl rfl rfl rfl rfl (fun _ => by simp [here]) rfl (by simp [here, SystemPhase.stageOf]) (by simp)
        (silent_same s _ rfl rfl fun _ => rfl)
  | _ =>
      exact served_same log _ s _ served rfl rfl rfl rfl rfl (fun _ => by simp [*]) rfl (by simp [*, SystemPhase.stageOf]) (by simp)
        id

end ActorSystem

def SystemEntry.panics : SystemEntry P → Bool
  | .at (.panicked _) => true
  | .at (.stopPanicked _) => true
  | .startPanicked _ => true
  | _ => false

namespace ActorSystem

theorem calm_step (log entries : SystemTrace P) (s next : ActorSystem P) (action : SystemAction P) (typed : Typed log s)
    (calm : ∀ entry ∈ log, entry.panics = false) (quiet : action.quiet = true) (moves : Moves s next.sends action entries next) :
    ∀ entry ∈ log ++ entries, entry.panics = false := by
  have phase := typed.phase
  have appended (silent : ∀ entry ∈ entries, entry.panics = false) : ∀ entry ∈ log ++ entries, entry.panics = false := by
    intro entry member
    rcases List.mem_append.mp member with old | new
    · exact calm entry old
    · exact silent entry new
  generalize next.sends = sends at moves
  apply appended
  cases moves with
  | startedPanic => cases quiet
  | handlerPanic => cases quiet
  | hookPanic => cases quiet
  | handledStop loop envelope cell ctx val reply here stops =>
      simp only [PhaseTyped, here] at phase
      rw [on_stop_typed _ (cell.write val) phase.1.2]
      simp [SystemEntry.panics]
  | stopNext id ids cell here present =>
      rw [on_stop_typed _ cell (typed.cells id cell present).2]
      simp [SystemEntry.panics]
  | _ => simp [SystemEntry.panics]

theorem mark_panics (entry : SystemEntry P) (id : ActorId) (mark : Mark) (shows : entry.mark id = some mark) :
    Stage.panics mark = entry.panics := by
  cases entry with
  | «at» event =>
      cases event <;> simp [SystemEntry.mark, Event.mark] at shows <;> obtain ⟨_, rfl⟩ := shows <;> rfl
  | _ =>
      simp [SystemEntry.mark] at shows <;> obtain ⟨_, rfl⟩ := shows <;> rfl

theorem calm_marks (log : SystemTrace P) (calm : ∀ entry ∈ log, entry.panics = false) (id : ActorId) :
    ∀ mark ∈ log.marks id, Stage.panics mark = false := by
  intro mark member
  obtain ⟨entry, inside, shows⟩ := List.mem_filterMap.mp member
  rw [mark_panics entry id mark shows]
  exact calm entry inside

theorem calm_handled (log : SystemTrace P) (calm : ∀ entry ∈ log, entry.panics = false) :
    log.events.handled = log.events.finished := by
  apply List.filterMap_congr
  intro event member
  obtain ⟨entry, inside, shows⟩ := List.mem_filterMap.mp member
  have quiet := calm entry inside
  cases entry with
  | «at» other =>
      cases shows
      cases event <;> first | rfl | cases quiet
  | _ => cases shows

-- What is known of a run without panics.
structure Calm (log : SystemTrace P) (s : ActorSystem P) : Prop where
  lived : Lived log s
  shut : Shut s
  counted : Counted log s
  served : Served log s
  covered : Covered s
  calm : ∀ entry ∈ log, entry.panics = false

theorem calm_start : Calm [] (new P) where
  lived := ⟨by simp [At, SystemPhase.stageOf, new], fun _ _ _ => Or.inl rfl, fun _ _ => rfl, fun _ => ⟨.unborn, rfl⟩⟩
  shut := ⟨by simp [new], by simp [Closed, new]⟩
  counted := ⟨fun _ => rfl, rfl⟩
  served := ⟨by simp [Log.consumed, SystemTrace.events], fun _ _ => ⟨rfl, rfl⟩, by simp [new], by simp [new],
    by simp [Log.known, Log.installed, SystemTrace.events]⟩
  covered := by simp [Covered, new]
  calm := by simp

end ActorSystem

theorem reach_calm (log : SystemTrace P) (s : ActorSystem P) (reached : (actorSystem P).Reach ActorSystem.quiet log s) :
    ActorSystem.Calm log s := by
  refine Machine.reach_invariant (actorSystem P) _ ActorSystem.Calm ?_ ?_ log s reached
  · intro s start
    rw [start]
    exact ActorSystem.calm_start
  · intro log s action next entries before calm quiet taken
    have sound := reach_system_sound _ log s before
    have moves := ActorSystem.step_moves s next action entries taken
    exact {
      lived := ActorSystem.lived_step log entries s next action sound.typed calm.lived quiet moves
      shut := ActorSystem.shut_step log entries s next action sound.typed calm.shut quiet moves
      counted := ActorSystem.counted_step log entries s next action sound.typed calm.counted quiet moves
      served := ActorSystem.served_step log entries s next action sound calm.shut calm.served quiet moves
      covered := ActorSystem.covered_step log entries s next action sound.typed calm.shut calm.covered quiet moves
      calm := ActorSystem.calm_step log entries s next action sound.typed calm.calm quiet moves }

namespace ActorSystem

theorem tx_step (s next : ActorSystem P) (action : SystemAction P) (entries : SystemTrace P)
    (moves : Moves s next.sends action entries next) (gone : s.tx = false) : next.tx = false := by
  generalize next.sends = sends at moves
  cases moves with
  | run => rfl
  | dropSystem => rfl
  | _ => exact gone

theorem run_drops_sender (log later : SystemTrace P) (s next final : ActorSystem P) (entries : SystemTrace P)
    (reached : (actorSystem P).Reach quiet log s) (called : s.step .run = some (next, entries))
    (run : (actorSystem P).Runs quiet (log ++ entries) next later final) :
    (actorSystem P).Reach quiet later final ∧ final.tx = false := by
  have begun : (actorSystem P).Reach quiet (log ++ entries) next := .step log s next (SystemAction.run : SystemAction P) entries reached rfl called
  refine ⟨Machine.reach_runs _ _ _ later next final begun run, ?_⟩
  refine Machine.runs_invariant (actorSystem P) quiet (fun _ s => s.tx = false) _ next begun ?_ ?_ later final run
  · simp only [step, ActorSystem.run] at called
    split at called
    · cases called
      rfl
    · cases called
  · intro later mid action after entries _ gone _ taken
    exact tx_step mid after action entries (step_moves mid after action entries taken) gone

-- When run returns nobody can send, everything accepted has been taken in
-- order, and every actor was served and stopped.
theorem returned_complete (log : SystemTrace P) (s : ActorSystem P) (reached : (actorSystem P).Reach quiet log s)
    (outside : s.phase = .outside) (gone : s.tx = false) :
    s.addrs = [] ∧ log.events.consumed = log.events.accepted ∧
      (log.events.accepted.map fun envelope => envelope.dispatch.serial).Nodup ∧
      (∀ id, about id log.events.handled = History.through log.asked (about id log.events.accepted) ∧
        about id log.events.dropped = History.beyond log.asked (about id log.events.accepted)) ∧
      (∀ id, .started id ∈ log → ∃ middle, log.marks id = [Mark.starting, .started] ++ middle ++ [Mark.stopping, .stopped] ∧
        ∀ mark ∈ middle, mark = .handling ∨ mark = .handled) ∧
      s.actorCount = 0 := by
  have calm := reach_calm log s reached
  have sound := reach_system_sound _ log s reached
  have living : s.phase ≠ .ended := by simp [outside]
  obtain ⟨noAddrs, empty, _⟩ := calm.shut.silent (by simp [Closed, outside, gone])
  have nobody : ∀ id, id ∉ s.actors := by
    have covered := calm.covered
    unfold Covered at covered
    rw [outside] at covered
    exact covered gone
  have taken : log.events.consumed = log.events.accepted := by
    rw [sound.flow.order, empty, List.append_nil]
  have finished : log.events.begun = log.events.handled := by
    rw [calm_handled log calm.calm, sound.flow.begun, outside]
    exact List.append_nil _
  refine ⟨noAddrs, taken, sound.flow.nodup, ?_, ?_, ?_⟩
  · intro id
    rw [← finished, ← taken]
    exact calm.served.split living id
  · intro id started
    have shown : .started ∈ log.marks id := List.mem_filterMap.mpr ⟨_, started, by simp [SystemEntry.mark]⟩
    have nowhere : ∀ stage, ¬ s.At id stage := by
      rintro stage (running | ⟨_, _, inside⟩)
      · simp [outside, SystemPhase.stageOf] at running
      · exact nobody id inside
    rcases calm.lived.gone living id nowhere with none | ended
    · rw [none] at shown
      cases shown
    · exact Stage.complete_life _ ended (calm_marks log calm.calm id)
  · unfold actorCount
    rw [List.length_eq_zero_iff, List.eq_nil_iff_forall_not_mem]
    intro id member
    exact nobody id (AList.mem_keys.mpr member)

-- ActorSystem from end to end: the actors counted at any time, and what has
-- been done when run returns. An actor in its stopped hook is out of the map.
theorem run_complete :
    (∀ (log : SystemTrace P) (s : ActorSystem P), (actorSystem P).Reach quiet log s → s.phase ≠ .ended →
      log.events.installed.length = s.actorCount + log.events.stopped.length + s.phase.hooks) ∧
    (∀ (log later : SystemTrace P) (s next final : ActorSystem P) (entries : SystemTrace P),
      (actorSystem P).Reach quiet log s → s.step .run = some (next, entries) →
        (actorSystem P).Runs quiet (log ++ entries) next later final → final.phase = .outside →
          final.addrs = [] ∧ later.events.consumed = later.events.accepted ∧
            (later.events.accepted.map fun envelope => envelope.dispatch.serial).Nodup ∧
            (∀ id, about id later.events.handled = History.through later.asked (about id later.events.accepted) ∧
              about id later.events.dropped = History.beyond later.asked (about id later.events.accepted)) ∧
            (∀ id, .started id ∈ later →
              ∃ middle, later.marks id = [Mark.starting, .started] ++ middle ++ [Mark.stopping, .stopped] ∧
              ∀ mark ∈ middle, mark = .handling ∨ mark = .handled) ∧
            final.actorCount = 0) := by
  constructor
  · intro log s reached living
    have counted := (reach_calm log s reached).counted
    rw [← counted.actors living, counted.hooks, Nat.add_assoc]
  · intro log later s next final entries reached called run returned
    obtain ⟨ends, gone⟩ := run_drops_sender log later s next final entries reached called run
    exact returned_complete later final ends returned gone

-- Two actors: the first stops at its first message and never sees its second,
-- the other one is stopped when both addresses are gone.
def stopsOne : List (SystemAction numbers) :=
  [.spawn () 0, .startedReturn 0, .spawn () 0, .startedReturn 0, .doSend 0 5, .doSend 0 6, .doSend 1 7]

def stopsOneLog : SystemTrace numbers :=
  [.starting 1, .started 1, .at (.installed 1 ()), .starting 2, .started 2, .at (.installed 2 ()),
    .at (.accepted ⟨1, (), 5, false, 0⟩), .at (.accepted ⟨1, (), 6, false, 1⟩), .at (.accepted ⟨2, (), 7, false, 2⟩)]

def runsDry : List (SystemAction numbers) :=
  [.recv, .ctxStop, .handlerReturn 5 50, .hookReturn, .recv, .recv, .dropAddr 0, .handlerReturn 7 70, .dropAddr 0, .recv,
    .takeSnapshot [2], .stopNext, .hookReturn, .stopNext]

def runsDryLog : SystemTrace numbers :=
  [.at (.handling ⟨1, (), 5, false, 0⟩), .stopRequested ⟨1, (), 5, false, 0⟩, .at (.handled ⟨1, (), 5, false, 0⟩ 50),
    .at (.stopping 1 ⟨(), 5⟩), .at (.stopped 1), .at (.dropped ⟨1, (), 6, false, 1⟩), .at (.handling ⟨2, (), 7, false, 2⟩),
    .at (.handled ⟨2, (), 7, false, 2⟩ 70), .at (.snapshot [2]), .at (.stopping 2 ⟨(), 7⟩), .at (.stopped 2)]

theorem run_complete_two :
    (stopsOneLog.events.installed.length = 2 ∧ stopsOneLog.events.stopped.length = 0) ∧
      about 1 (stopsOneLog ++ [] ++ runsDryLog).events.handled =
        History.through (stopsOneLog ++ [] ++ runsDryLog).asked (about 1 (stopsOneLog ++ [] ++ runsDryLog).events.accepted) := by
  have before := (actorSystem numbers).run_reach_rely quiet [] stopsOneLog (new numbers)
    ((actorSystem numbers).last (new numbers) stopsOne) stopsOne (.init _ rfl) rfl
    (Machine.allowed_actions _ _ _ _ _ (by simp [stopsOne, quiet, SystemAction.quiet]))
  have run := (actorSystem numbers).run_runs_rely quiet (stopsOneLog ++ []) (stopsOneLog ++ [] ++ runsDryLog)
    ((actorSystem numbers).last (new numbers) (stopsOne ++ [SystemAction.run]))
    ((actorSystem numbers).last (new numbers) (stopsOne ++ SystemAction.run :: runsDry)) runsDry rfl
    (Machine.allowed_actions _ _ _ _ _ (by simp [runsDry, quiet, SystemAction.quiet]))
  have count := run_complete.1 stopsOneLog _ before nofun
  exact ⟨⟨count, rfl⟩, ((run_complete.2 stopsOneLog _ _ _ _ [] before rfl run rfl).2.2.2.1 1).1⟩

end ActorSystem

end Actinium
