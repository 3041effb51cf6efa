import Actinium.Conservation
import Actinium.SchedulerFairness

set_option autoImplicit false

namespace Actinium

variable {P : Program} {n : Nat}

namespace Scheduler

variable (s after : Scheduler (Delivery P)) (a b : ActorId) (limit slack spent : Nat) (envelope : Message P)
  (begun : List (Message P))

-- An actor a has a message that waits. While it is another's turn, or nobody's,
-- a is in the ready queue, and another actor b ahead of it has been given less.
structure Overtakes (turn : Option ActorId) : Prop where
  most : spent ≤ limit + 1
  queued : turn ≠ some a → ∃ ahead, Waits a ahead s ∧ (b ∈ ahead → spent ≤ limit)
  inTurn : turn = some a → spent ≤ limit

-- What a has begun and what is before its message are within the limit. For
-- every other actor there is some slack, and one more turn.
def Bypassed (turn : Option ActorId) : Prop :=
  ∃ before behind, s.mailbox a = before ++ envelope :: behind ∧ (about a begun).length + before.length ≤ limit ∧
    ∀ b, b ≠ a → s.Overtakes a b (limit + slack) ((about b begun).length + before.length) turn

variable {s after a b limit slack spent envelope begun}

theorem bypassed_start (turn : Option ActorId) (before behind : List (Message P))
    (box : s.mailbox a = before ++ envelope :: behind) (own : (about a begun).length + before.length ≤ limit)
    (few : ∀ b, b ≠ a → (about b begun).length + before.length ≤ limit + slack)
    (ready : turn ≠ some a → a ∈ s.readyQueue) : s.Bypassed a limit slack envelope begun turn := by
  refine ⟨before, behind, box, own, ?_⟩
  intro b other
  refine ⟨Nat.le_succ_of_le (few b other), ?_, fun _ => few b other⟩
  intro elsewhere
  obtain ⟨ahead, waits⟩ := waits_of_mem a s (ready elsewhere)
  exact ⟨ahead, waits, fun _ => few b other⟩

theorem bypassed_enqueue (arrived : Message P) (turn : Option ActorId) (bypassed : s.Bypassed a limit slack envelope begun turn) :
    (s.enqueue arrived).Bypassed a limit slack envelope begun turn := by
  obtain ⟨before, behind, box, own, others⟩ := bypassed
  have grown : ∃ tail, (s.enqueue arrived).mailbox a = s.mailbox a ++ tail := by
    rw [mailbox_enqueue]
    split
    · exact ⟨[arrived], rfl⟩
    · exact ⟨[], (List.append_nil _).symm⟩
  obtain ⟨tail, more⟩ := grown
  refine ⟨before, behind ++ tail, by rw [more, box, List.append_assoc, List.cons_append], own, ?_⟩
  intro b other
  have overtakes := others b other
  refine ⟨overtakes.most, ?_, overtakes.inTurn⟩
  intro elsewhere
  obtain ⟨ahead, waits, early⟩ := overtakes.queued elsewhere
  exact ⟨ahead, waits_enqueue s arrived a ahead waits, early⟩

-- A turn of another actor takes the first of those ahead.
theorem waits_popped (popped : Scheduler (Delivery P)) (wf : Wf s) (turn : ActorId) (next : s.nextReady = (some turn, popped))
    (dequeued : popped.dequeue turn = (some envelope, after)) (other : turn ≠ a) (ahead : List ActorId)
    (waits : Waits a ahead s) : ∃ left, ahead = turn :: left ∧ turn ∉ left ∧ Waits a left after := by
  obtain ⟨behind, queue⟩ := waits.queued
  have head := (next_ready_some s popped wf turn next).1
  have rest := (dequeue_some popped after turn envelope dequeued).2.1
  have nodup := wf.nodup
  rw [head, List.nodup_cons] at nodup
  rw [queue] at head
  cases ahead with
  | nil => exact absurd (List.cons.inj head).1.symm other
  | cons first left =>
      rw [List.cons_append] at head
      obtain ⟨rfl, tail⟩ := List.cons.inj head
      refine ⟨left, rfl, ?_, ⟨behind, rest.trans tail.symm⟩, fun member => waits.first (List.mem_cons_of_mem _ member)⟩
      intro member
      exact nodup.1 (tail ▸ List.mem_append_left _ member)

-- The turn of another actor: it was ahead, and is so no more.
theorem overtakes_popped (popped : Scheduler (Delivery P)) (wf : Wf s) (turn : ActorId)
    (next : s.nextReady = (some turn, popped)) (dequeued : popped.dequeue turn = (some envelope, after)) (other : turn ≠ a)
    (cost : Nat) (cheap : cost ≤ if turn = b then 1 else 0) (overtakes : s.Overtakes a b limit spent none) :
    after.Overtakes a b limit (spent + cost) (some turn) := by
  obtain ⟨ahead, waits, early⟩ := overtakes.queued (by simp)
  obtain ⟨left, shape, first, still⟩ := waits_popped popped wf turn next dequeued other ahead waits
  have most := overtakes.most
  by_cases same : turn = b
  · subst same
    have room := early (by rw [shape]; exact List.mem_cons_self)
    rw [if_pos rfl] at cheap
    exact ⟨by omega, fun _ => ⟨left, still, fun member => absurd member first⟩, fun own => absurd (Option.some.inj own) other⟩
  · rw [if_neg same, Nat.le_zero] at cheap
    rw [cheap, Nat.add_zero]
    refine ⟨most, fun _ => ⟨left, still, ?_⟩, fun own => absurd (Option.some.inj own) other⟩
    intro member
    exact early (by rw [shape]; exact List.mem_cons_of_mem _ member)

-- A turn takes a message of its actor, which a worker then begins or drops.
theorem bypassed_popped (popped : Scheduler (Delivery P)) (wf : Wf s) (turn : ActorId) (taken : Message P)
    (next : s.nextReady = (some turn, popped)) (dequeued : popped.dequeue turn = (some taken, after))
    (more : List (Message P)) (begins : more = [] ∨ more = [taken]) (bypassed : s.Bypassed a limit slack envelope begun none) :
    envelope = taken ∨ after.Bypassed a limit slack envelope (begun ++ more) (some turn) := by
  obtain ⟨before, behind, box, own, others⟩ := bypassed
  obtain ⟨head, rest⟩ := Worker.dequeue_head s popped after turn taken next dequeued
  have keyed := (Worker.dequeue_keyed s popped after turn taken wf next dequeued).2
  have cost (id : ActorId) : (about id more).length ≤ if turn = id then 1 else 0 := by
    rcases begins with rfl | rfl
    · simp
    · rw [about, Keyed.select_cons, keyed]
      split <;> simp
  have grown (id : ActorId) : (about id (begun ++ more)).length = (about id begun).length + (about id more).length := by
    rw [about, Keyed.select_append, List.length_append]
  by_cases same : turn = a
  · subst same
    rw [head] at box
    cases before with
    | nil => exact Or.inl (List.cons.inj box).1.symm
    | cons first left =>
        refine Or.inr ⟨left, behind, (List.cons.inj box).2, ?_, ?_⟩
        · have one := cost turn
          rw [if_pos rfl] at one
          rw [List.length_cons] at own
          rw [grown]
          omega
        · intro b other
          have unspent := cost b
          rw [if_neg (Ne.symm other)] at unspent
          have most := (others b other).most
          rw [List.length_cons] at most
          rw [grown]
          exact ⟨by omega, fun elsewhere => absurd rfl elsewhere, fun _ => by omega⟩
  · refine Or.inr ⟨before, behind, by rw [rest a (Ne.symm same), box], ?_, ?_⟩
    · have unspent := cost a
      rw [if_neg same, Nat.le_zero] at unspent
      rw [grown, unspent, Nat.add_zero]
      exact own
    · intro b other
      rw [grown, Nat.add_right_comm]
      exact overtakes_popped popped wf turn next dequeued same _ (cost b) (others b other)

-- The end of a turn: whoever had it goes behind all others.
theorem bypassed_requeue (turn : ActorId) (wf : s.WfTurn turn) (bypassed : s.Bypassed a limit slack envelope begun (some turn)) :
    (s.requeueIfReady turn).Bypassed a limit slack envelope begun none := by
  obtain ⟨before, behind, box, own, others⟩ := bypassed
  refine ⟨before, behind, by rw [mailbox_requeue, box], own, ?_⟩
  intro b other
  have overtakes := others b other
  refine ⟨overtakes.most, fun _ => ?_, fun wrong => by cases wrong⟩
  by_cases same : turn = a
  · subst same
    have pending : s.hasPending turn = true := (has_pending_iff s turn).mpr (by simp [box])
    refine ⟨s.readyQueue, ⟨⟨[], ?_⟩, wf.served⟩, fun _ => overtakes.inTurn rfl⟩
    rw [requeue_queue, if_pos pending]
  · obtain ⟨ahead, waits, early⟩ := overtakes.queued (by simpa using same)
    exact ⟨ahead, waits_requeue s turn a ahead waits, early⟩

theorem bypassed_remove (removed : ActorId) (turn : Option ActorId) (other : a ≠ removed) (elsewhere : turn ≠ some a)
    (bypassed : s.Bypassed a limit slack envelope begun turn) :
    (s.removeActor removed).Bypassed a limit slack envelope begun turn := by
  obtain ⟨before, behind, box, own, others⟩ := bypassed
  refine ⟨before, behind, by rw [mailbox_remove, if_neg other, box], own, ?_⟩
  intro b different
  have overtakes := others b different
  obtain ⟨ahead, waits, early⟩ := overtakes.queued elsewhere
  obtain ⟨left, still, fewer⟩ := waits_remove s removed a ahead other waits
  exact ⟨overtakes.most, fun _ => ⟨left, still, fun member => early (fewer.subset member)⟩, overtakes.inTurn⟩

end Scheduler

namespace Worker

variable {a : ActorId} {limit slack : Nat} {envelope : Message P} {begun : List (Message P)}

-- The same of a worker. One that is torn down gives no more turns.
def Bypassed (a : ActorId) (limit slack : Nat) (envelope : Message P) (begun : List (Message P)) (w : Worker P n) : Prop :=
  ∃ turn, (w.phase.closing = false → w.phase.serving = turn) ∧ w.scheduler.Bypassed a limit slack envelope begun turn

theorem bypassed_open (w : Worker P n) (isOpen : w.phase.closing = false) (bypassed : Bypassed a limit slack envelope begun w) :
    w.scheduler.Bypassed a limit slack envelope begun w.phase.serving := by
  obtain ⟨turn, serving, holds⟩ := bypassed
  rw [serving isOpen]
  exact holds

theorem bypassed_same (w next : Worker P n) (events : Log P) (bypassed : Bypassed a limit slack envelope begun w)
    (silent : events.begun = []) (scheduler : next.scheduler = w.scheduler)
    (serving : next.phase.closing = false → w.phase.closing = false ∧ next.phase.serving = w.phase.serving) :
    Bypassed a limit slack envelope (begun ++ events.begun) next := by
  obtain ⟨turn, here, holds⟩ := bypassed
  rw [silent, List.append_nil]
  refine ⟨turn, ?_, by rw [scheduler]; exact holds⟩
  intro isOpen
  obtain ⟨before, same⟩ := serving isOpen
  exact same.trans (here before)

theorem turn_wf (w : Worker P n) (served : Served w) (here : w.phase = .turn) : w.scheduler.Wf :=
  served.resting (by rw [here]; rfl) (by rw [here]; rfl)

-- A turn of a sound worker finds a message, of the type of its actor, and a
-- sweep finds the actor it is to stop.
theorem turn_finds (w : Worker P n) (served : Served w) (here : w.phase = .turn) (turn : ActorId)
    (popped scheduler : Scheduler (Delivery P)) (next : w.scheduler.nextReady = (some turn, popped)) :
    popped.dequeue turn ≠ (none, scheduler) := by
  intro dequeued
  have pending := (Scheduler.next_ready_turn _ _ (turn_wf w served here) turn next).2
  exact pending (Scheduler.dequeue_none _ _ turn dequeued).2

theorem turn_takes (w : Worker P n) (served : Served w) (here : w.phase = .turn) (turn : ActorId) (taken : Message P)
    (popped scheduler : Scheduler (Delivery P)) (next : w.scheduler.nextReady = (some turn, popped))
    (dequeued : popped.dequeue turn = (some taken, scheduler)) (id : ActorId) :
    w.scheduler.mailbox id = about id [taken] ++ scheduler.mailbox id := by
  obtain ⟨head, rest⟩ := dequeue_head _ popped scheduler turn taken next dequeued
  have keyed := (dequeue_keyed _ popped scheduler turn taken (turn_wf w served here) next dequeued).2
  exact mailbox_split w.scheduler scheduler turn id taken keyed head rest

theorem turn_typed (log : Log P) (w : Worker P n) (sound : Sound log w) (turn : ActorId) (taken : Message P)
    (popped scheduler : Scheduler (Delivery P)) (cell : ActorCell P) (next : w.scheduler.nextReady = (some turn, popped))
    (dequeued : popped.dequeue turn = (some taken, scheduler)) (present : w.actorMap.lookup taken.actorId = some cell) :
    cell.actor.ty = taken.dispatch.ty := by
  have head := (dequeue_head _ popped scheduler turn taken next dequeued).1
  have member : taken ∈ w.scheduler.mailbox turn := by rw [head]; exact List.mem_cons_self
  exact dispatched_typed log w sound.placed sound.mail turn taken cell member present

theorem sweep_finds (w : Worker P n) (sweeping : Sweeping w) (id : ActorId) (ids : List ActorId)
    (here : w.phase = .stopAll (id :: ids)) : w.actorMap.lookup id ≠ none := by
  obtain ⟨cell, found⟩ := sweeping.present id (by rw [here]; simp [Phase.toStop])
  rw [found]
  exact Option.some_ne_none cell

theorem begun_begin (w : Worker P n) (id : ActorId) (cell : ActorCell P) (stopped : After) :
    Log.begun (w.beginStop id cell stopped).2 = [] := by
  simp only [beginStop]
  split <;> rfl

-- A stopped actor is removed, and its turn, if it had it, ends.
theorem bypassed_finish (w : Worker P n) (served : Served w) (id : ActorId) (cell : ActorCell P) (ctx : Context (Fin n))
    (stopped : After) (here : w.phase = .stopping id cell ctx stopped) (bypassed : Bypassed a limit slack envelope begun w) :
    envelope ∈ w.scheduler.mailbox id ∨ Bypassed a limit slack envelope begun (w.finishStop id stopped).1 := by
  have holds := bypassed_open w (by rw [here]; rfl) bypassed
  by_cases same : a = id
  · obtain ⟨before, behind, box, _⟩ := holds
    exact Or.inl (by rw [← same, box]; simp)
  · right
    cases stopped with
    | turn turn =>
        have serving : w.phase.serving = some turn := by rw [here]; rfl
        have own := (served.stopping id cell ctx _ here).2.2 turn rfl
        have removed := Scheduler.bypassed_remove id _ same (by rw [serving, ← own]; simpa using Ne.symm same) holds
        rw [serving] at removed
        refine ⟨none, fun _ => rfl, ?_⟩
        exact Scheduler.bypassed_requeue turn (Scheduler.wf_turn_remove turn _ (served.serving turn serving) id) removed
    | stopAll ids =>
        have serving : w.phase.serving = none := by rw [here]; rfl
        rw [serving] at holds
        exact ⟨none, fun _ => rfl, Scheduler.bypassed_remove id none same (by simp) holds⟩

theorem bypassed_step (log events : Log P) (w next : Worker P n) (act : Act P) (sound : Sound log w)
    (bypassed : Bypassed a limit slack envelope begun w) (moves : Moves w act events next) :
    envelope ∈ events.begun ∨ envelope ∈ events.dropped ∨ Bypassed a limit slack envelope (begun ++ events.begun) next := by
  have served := sound.served
  cases moves with
  | post => exact Or.inr (Or.inr (bypassed_same w _ _ bypassed rfl rfl fun isOpen => ⟨isOpen, rfl⟩))
  | postControl msg alive =>
      have silent : Log.begun [controlEvent msg] = [] := by cases msg <;> rfl
      exact Or.inr (Or.inr (bypassed_same w _ _ bypassed silent rfl fun isOpen => ⟨isOpen, rfl⟩))
  | direct => exact Or.inr (Or.inr (bypassed_same w _ _ bypassed rfl rfl fun isOpen => ⟨isOpen, rfl⟩))
  | stopHook id cell ctx stopped here =>
      refine Or.inr (Or.inr (bypassed_same w _ _ bypassed rfl rfl fun _ => ⟨by rw [here]; rfl, ?_⟩))
      rw [here]
      cases stopped <;> rfl
  | drain senders arrived rest here queue =>
      have holds := bypassed_open w (by rw [here]; rfl) bypassed
      have more := Scheduler.bypassed_enqueue arrived _ holds
      rw [← List.append_nil begun] at more
      exact Or.inr (Or.inr ⟨_, fun _ => rfl, more⟩)
  | receive senders arrived rest here queue =>
      have holds := bypassed_open w (by rw [here]; rfl) bypassed
      have more := Scheduler.bypassed_enqueue arrived _ holds
      rw [← List.append_nil begun] at more
      exact Or.inr (Or.inr ⟨_, fun _ => by rw [here]; rfl, more⟩)
  | idle senders scheduler here next =>
      have wf := turn_wf w served here
      obtain ⟨rfl, _⟩ := Scheduler.next_ready_none _ _ wf next
      exact Or.inr (Or.inr (bypassed_same w _ _ bypassed rfl rfl fun _ => by rw [here]; exact ⟨rfl, rfl⟩))
  | nothing senders turn popped scheduler here next dequeued =>
      exact absurd dequeued (turn_finds w served here turn popped scheduler next)
  | missing senders turn popped scheduler taken here next dequeued absent =>
      have wf := turn_wf w served here
      have holds := bypassed_open w (by rw [here]; rfl) bypassed
      have resting : w.phase.serving = none := by rw [here]; rfl
      rw [resting] at holds
      rcases Scheduler.bypassed_popped popped wf turn taken next dequeued [] (Or.inl rfl) holds with same | later
      · exact Or.inr (Or.inl (by rw [same]; exact List.mem_singleton_self taken))
      · have inTurn := (dequeue_keyed _ popped scheduler turn taken wf next dequeued).1
        exact Or.inr (Or.inr ⟨none, fun _ => rfl, Scheduler.bypassed_requeue turn inTurn later⟩)
  | handle senders turn popped scheduler taken cell here next dequeued present typed =>
      have wf := turn_wf w served here
      have holds := bypassed_open w (by rw [here]; rfl) bypassed
      have resting : w.phase.serving = none := by rw [here]; rfl
      rw [resting] at holds
      rcases Scheduler.bypassed_popped popped wf turn taken next dequeued [taken] (Or.inr rfl) holds with same | later
      · exact Or.inl (by rw [same]; exact List.mem_singleton_self taken)
      · exact Or.inr (Or.inr ⟨some turn, fun _ => rfl, later⟩)
  | mismatch senders turn popped scheduler taken cell here next dequeued present untyped =>
      exact absurd (turn_typed log w sound turn taken popped scheduler cell next dequeued present) untyped
  | handlerPanic senders turn current cell ctx val here =>
      have silent := begun_begin w current.actorId (cell.write val) (.turn turn)
      exact Or.inr (Or.inr (bypassed_same w _ _ bypassed silent rfl fun _ => by rw [here]; exact ⟨rfl, rfl⟩))
  | putBack senders turn id cell here =>
      have holds := bypassed_open w (by rw [here]; rfl) bypassed
      have serving : w.phase.serving = some turn := by rw [here]; rfl
      rw [serving] at holds
      have more := Scheduler.bypassed_requeue turn (served.serving turn serving) holds
      rw [← List.append_nil begun] at more
      exact Or.inr (Or.inr ⟨none, fun _ => rfl, more⟩)
  | stop senders turn id cell here =>
      have silent := begun_begin w id cell (.turn turn)
      exact Or.inr (Or.inr (bypassed_same w _ _ bypassed silent rfl fun _ => by rw [here]; exact ⟨rfl, rfl⟩))
  | hookReturn senders id cell ctx stopped here typed =>
      rcases bypassed_finish w served id cell ctx stopped here bypassed with removed | later
      · refine Or.inr (Or.inl ?_)
        simpa [Log.dropped, Event.drops] using removed
      · have silent : Log.begun (Event.stopped id :: (w.finishStop id stopped).2) = [] := Log.begun_dropped _
        exact Or.inr (Or.inr (by rw [silent, List.append_nil]; exact later))
  | hookSkip senders id cell ctx stopped here untyped =>
      exact absurd (sound.placed.stopping id cell ctx stopped here).2.symm untyped
  | stopGone senders id ids here absent => exact absurd absent (sweep_finds w sound.sweeping id ids here)
  | stopNext senders id ids cell here present =>
      have silent := begun_begin w id cell (.stopAll ids)
      exact Or.inr (Or.inr (bypassed_same w _ _ bypassed silent rfl fun _ => by rw [here]; exact ⟨rfl, rfl⟩))
  | dropControl => exact Or.inr (Or.inr (bypassed_same w _ _ bypassed (by simp) rfl fun wrong => by cases wrong))
  | dropMsgs => exact Or.inr (Or.inr (bypassed_same w _ _ bypassed (by simp) rfl fun wrong => by cases wrong))
  | dropScheduler senders panicked here =>
      obtain ⟨turn, _, before, behind, box, _⟩ := bypassed
      refine Or.inr (Or.inl ?_)
      have inside : envelope ∈ about a (queued w.scheduler) := by
        rw [about_queued w.scheduler served.keyed a, box]
        simp
      simpa using ((Keyed.mem_select _ _ _ _).mp inside).1
  | hookPanic => exact Or.inr (Or.inr (bypassed_same w _ _ bypassed rfl rfl fun wrong => by cases wrong))
  | stopDone => exact Or.inr (Or.inr (bypassed_same w _ _ bypassed rfl rfl fun wrong => by cases wrong))
  | _ => exact Or.inr (Or.inr (bypassed_same w _ _ bypassed rfl rfl fun _ => by simp only [*]; exact ⟨rfl, rfl⟩))

-- Before that the message is in the channel of the worker, where it is overtaken
-- by one turn at most: the channel is emptied between two turns.
structure Arriving (a : ActorId) (limit : Nat) (envelope : Message P) (begun : List (Message P)) (w : Worker P n) : Prop where
  addressed : envelope.actorId = a
  queued : ∃ early late, w.msgRx.queue = early ++ envelope :: late ∧
    (about a begun).length + ((w.scheduler.mailbox a).length + (about a early).length) ≤ limit
  once : begun.length ≤ 1
  fresh : w.phase = .turn → begun = []

theorem arriving_same (w next : Worker P n) (events : Log P) (arriving : Arriving a limit envelope begun w)
    (silent : events.begun = []) (channel : ∃ more, next.msgRx.queue = w.msgRx.queue ++ more)
    (fewer : (next.scheduler.mailbox a).length ≤ (w.scheduler.mailbox a).length) (turn : next.phase = .turn → w.phase = .turn) :
    Arriving a limit envelope (begun ++ events.begun) next := by
  obtain ⟨early, late, queue, own⟩ := arriving.queued
  obtain ⟨more, grown⟩ := channel
  rw [silent, List.append_nil]
  refine ⟨arriving.addressed, ⟨early, late ++ more, ?_, by omega⟩, arriving.once, fun here => arriving.fresh (turn here)⟩
  rw [grown, queue, List.append_assoc, List.cons_append]

-- The first message of the channel moves to its mailbox.
theorem arriving_taken (w next : Worker P n) (served : Served w) (arrived : Message P) (rest : List (Message P))
    (arriving : Arriving a limit envelope begun w) (queue : w.msgRx.queue = arrived :: rest)
    (resting : w.phase.serving = none) (isOpen : w.phase.closing = false) (moved : next.msgRx.queue = rest)
    (scheduler : next.scheduler = w.scheduler.enqueue arrived) (serving : next.phase.serving = none)
    (turn : next.phase ≠ .turn) : Bypassed a limit 1 envelope begun next ∨ Arriving a limit envelope begun next := by
  obtain ⟨early, late, shape, own⟩ := arriving.queued
  have wf : next.scheduler.Wf := by
    rw [scheduler]
    exact Scheduler.wf_enqueue _ _ (served.resting resting isOpen)
  have addressed := arriving.addressed
  rw [shape] at queue
  cases early with
  | nil =>
      obtain ⟨rfl, _⟩ := List.cons.inj queue
      have box : next.scheduler.mailbox a = w.scheduler.mailbox a ++ [envelope] := by
        rw [scheduler, Scheduler.mailbox_enqueue, if_pos addressed.symm]
      have ready : a ∈ next.scheduler.readyQueue := (wf.ready a).mpr (by simp [box])
      simp only [Keyed.select_nil, List.length_nil, Nat.add_zero] at own
      refine Or.inl ⟨none, fun _ => serving, Scheduler.bypassed_start none _ [] box own ?_ fun _ => ready⟩
      intro b _
      have few : (about b begun).length ≤ begun.length := List.length_filter_le ..
      have once := arriving.once
      omega
  | cons first early =>
      obtain ⟨rfl, tail⟩ := List.cons.inj queue
      refine Or.inr ⟨addressed, ⟨early, late, moved.trans tail.symm, ?_⟩, arriving.once, fun wrong => absurd wrong turn⟩
      have counted : (about a (first :: early)).length = (if first.actorId = a then 1 else 0) + (about a early).length := by
        rw [about, Keyed.select_cons]
        split <;> simp [Nat.add_comm]
      rw [counted] at own
      rw [scheduler, Scheduler.mailbox_enqueue]
      by_cases same : first.actorId = a
      · rw [if_pos same] at own
        rw [if_pos same.symm, List.length_append, List.length_singleton]
        omega
      · rw [if_neg same, Nat.zero_add] at own
        rw [if_neg (Ne.symm same)]
        exact own

theorem finish_mailbox (w : Worker P n) (id : ActorId) (stopped : After) :
    ((w.finishStop id stopped).1.scheduler.mailbox a).length ≤ (w.scheduler.mailbox a).length := by
  have removed : ((w.scheduler.removeActor id).mailbox a).length ≤ (w.scheduler.mailbox a).length := by
    rw [Scheduler.mailbox_remove]
    split <;> simp
  cases stopped with
  | turn turn =>
      rw [finishStop, endTurn]
      simpa using removed
  | stopAll ids => exact removed

theorem arriving_step (log events : Log P) (w next : Worker P n) (act : Act P) (sound : Sound log w)
    (arriving : Arriving a limit envelope begun w) (moves : Moves w act events next) :
    envelope ∈ events.dropped ∨ Bypassed a limit 1 envelope (begun ++ events.begun) next ∨
      Arriving a limit envelope (begun ++ events.begun) next := by
  have served := sound.served
  obtain ⟨early, late, queue, own⟩ := arriving.queued
  have waits : w.msgRx.queue ≠ [] := by simp [queue]
  have same : ∃ more, w.msgRx.queue = w.msgRx.queue ++ more := ⟨[], (List.append_nil _).symm⟩
  cases moves with
  | post arrived => exact Or.inr (Or.inr (arriving_same w _ _ arriving rfl ⟨[arrived], rfl⟩ le_rfl id))
  | postControl msg alive =>
      have silent : Log.begun [controlEvent msg] = [] := by cases msg <;> rfl
      exact Or.inr (Or.inr (arriving_same w _ _ arriving silent same le_rfl id))
  | direct => exact Or.inr (Or.inr (arriving_same w _ _ arriving rfl same le_rfl id))
  | drain senders arrived rest here head =>
      have resting : w.phase.serving = none := by rw [here]; rfl
      have taken := arriving_taken w { w.withMail rest with scheduler := w.scheduler.enqueue arrived } served arrived rest
        arriving head resting (by rw [here]; rfl) rfl rfl resting (fun wrong => by cases here.symm.trans wrong)
      rw [← List.append_nil begun] at taken
      exact Or.inr taken
  | receive senders arrived rest here head =>
      have taken := arriving_taken w { w.withMail rest with scheduler := w.scheduler.enqueue arrived, phase := .control } served
        arrived rest arriving head (by rw [here]; rfl) (by rw [here]; rfl) rfl rfl rfl (fun wrong => by cases wrong)
      rw [← List.append_nil begun] at taken
      exact Or.inr taken
  | drained senders here empty => exact absurd empty waits
  | idle senders scheduler here next =>
      have wf := turn_wf w served here
      obtain ⟨rfl, _⟩ := Scheduler.next_ready_none _ _ wf next
      exact Or.inr (Or.inr (arriving_same w _ _ arriving rfl same le_rfl (fun wrong => by cases wrong)))
  | nothing senders turn popped scheduler here next dequeued =>
      exact absurd dequeued (turn_finds w served here turn popped scheduler next)
  | missing senders turn popped scheduler taken here next dequeued absent =>
      have takes := turn_takes w served here turn taken popped scheduler next dequeued a
      refine Or.inr (Or.inr (arriving_same w _ _ arriving rfl same ?_ (fun wrong => by cases wrong)))
      rw [takes, List.length_append]
      simp [endTurn]
  | handle senders turn popped scheduler taken cell here next dequeued present typed =>
      have takes := turn_takes w served here turn taken popped scheduler next dequeued a
      have begins : Log.begun [Event.handling taken] = [taken] := rfl
      rw [arriving.fresh here, begins, List.nil_append]
      refine Or.inr (Or.inr ⟨arriving.addressed, ⟨early, late, queue, ?_⟩, le_rfl, fun wrong => by cases wrong⟩)
      rw [arriving.fresh here, takes, List.length_append] at own
      simp only [Keyed.select_nil, List.length_nil] at own
      dsimp only
      omega
  | mismatch senders turn popped scheduler taken cell here next dequeued present untyped =>
      exact absurd (turn_typed log w sound turn taken popped scheduler cell next dequeued present) untyped
  | handlerPanic senders turn current cell ctx val here =>
      have silent := begun_begin w current.actorId (cell.write val) (.turn turn)
      exact Or.inr (Or.inr (arriving_same w _ _ arriving silent same le_rfl (fun wrong => by cases wrong)))
  | putBack senders turn id cell here =>
      refine Or.inr (Or.inr (arriving_same w _ _ arriving rfl same ?_ (fun wrong => by cases wrong)))
      simp [endTurn]
  | stop senders turn id cell here =>
      have silent := begun_begin w id cell (.turn turn)
      exact Or.inr (Or.inr (arriving_same w _ _ arriving silent same le_rfl (fun wrong => by cases wrong)))
  | hookReturn senders id cell ctx stopped here typed =>
      have silent : Log.begun (Event.stopped id :: (w.finishStop id stopped).2) = [] := Log.begun_dropped _
      have channel : (w.finishStop id stopped).1.msgRx = w.msgRx := by cases stopped <;> rfl
      refine Or.inr (Or.inr (arriving_same w _ _ arriving silent (by rw [channel]; exact same) (finish_mailbox w id stopped) ?_))
      intro wrong
      cases stopped <;> cases wrong
  | hookSkip senders id cell ctx stopped here untyped =>
      exact absurd (sound.placed.stopping id cell ctx stopped here).2.symm untyped
  | stopGone senders id ids here absent => exact absurd absent (sweep_finds w sound.sweeping id ids here)
  | stopNext senders id ids cell here present =>
      have silent := begun_begin w id cell (.stopAll ids)
      exact Or.inr (Or.inr (arriving_same w _ _ arriving silent same le_rfl (fun wrong => by cases wrong)))
  | dropControl =>
      exact Or.inr (Or.inr (arriving_same w _ _ arriving (by simp) same le_rfl (fun wrong => by cases wrong)))
  | dropMsgs senders panicked here =>
      refine Or.inl ?_
      rw [Log.dropped_dropped, queue]
      simp
  | dropScheduler senders panicked here => exact absurd (sound.owned.noMsgs (by rw [here]; rfl)) waits
  | _ => exact Or.inr (Or.inr (arriving_same w _ _ arriving rfl same le_rfl (fun wrong => by cases wrong)))

-- The message waits in the channel or in its mailbox.
def Passing (a : ActorId) (limit slack : Nat) (envelope : Message P) (begun : List (Message P)) (w : Worker P n) : Prop :=
  Bypassed a limit slack envelope begun w ∨ slack = 1 ∧ Arriving a limit envelope begun w

theorem passing_step (log events : Log P) (w next : Worker P n) (act : Act P) (sound : Sound log w)
    (passing : Passing a limit slack envelope begun w) (moves : Moves w act events next) :
    envelope ∈ events.begun ∨ envelope ∈ events.dropped ∨ Passing a limit slack envelope (begun ++ events.begun) next := by
  rcases passing with bypassed | ⟨rfl, arriving⟩
  · rcases bypassed_step log events w next act sound bypassed moves with begins | drops | still
    · exact Or.inl begins
    · exact Or.inr (Or.inl drops)
    · exact Or.inr (Or.inr (Or.inl still))
  · rcases arriving_step log events w next act sound arriving moves with drops | queued | still
    · exact Or.inr (Or.inl drops)
    · exact Or.inr (Or.inr (Or.inl queued))
    · exact Or.inr (Or.inr (Or.inr ⟨rfl, still⟩))

theorem passing_run (workerIdx : Fin n) (log later : Log P) (w next : Worker P n) (reached : Reach workerIdx log w)
    (passing : Passing a limit slack envelope [] w) (run : (machine P workerIdx).Runs promised log w later next) :
    ∃ since : Log P, later = log ++ since ∧
      (envelope ∈ since.begun ∨ envelope ∈ since.dropped ∨ Passing a limit slack envelope since.begun next) := by
  refine Machine.runs_invariant (machine P workerIdx) promised
    (fun later next => ∃ since : Log P, later = log ++ since ∧
      (envelope ∈ since.begun ∨ envelope ∈ since.dropped ∨ Passing a limit slack envelope since.begun next))
    log w reached ⟨[], (List.append_nil log).symm, Or.inr (Or.inr passing)⟩ ?_ later next run
  intro earlier mid act after events before ⟨since, shape, holds⟩ _ taken
  refine ⟨since ++ events, by rw [shape, List.append_assoc], ?_⟩
  rw [Log.begun_append, Log.dropped_append, List.mem_append, List.mem_append]
  rcases holds with begins | drops | waits
  · exact Or.inl (Or.inl begins)
  · exact Or.inr (Or.inl (Or.inl drops))
  · have sound := reach_sound workerIdx earlier mid before
    rcases passing_step earlier events mid after act sound waits (step_moves mid after act events taken) with
      begins | drops | still
    · exact Or.inl (Or.inr begins)
    · exact Or.inr (Or.inl (Or.inr drops))
    · exact Or.inr (Or.inr still)

theorem bypassed_now (w : Worker P n) (served : Served w) (ahead behind : List (Message P))
    (box : w.scheduler.mailbox a = ahead ++ envelope :: behind) : Bypassed a ahead.length slack envelope [] w := by
  have pending : w.scheduler.mailbox a ≠ [] := by simp [box]
  have start (turn : Option ActorId) (ready : turn ≠ some a → a ∈ w.scheduler.readyQueue) :
      w.scheduler.Bypassed a ahead.length slack envelope [] turn :=
    Scheduler.bypassed_start turn ahead behind box (by simp) (fun _ _ => by simp) ready
  by_cases closing : w.phase.closing = true
  · exact ⟨some a, fun isOpen => absurd closing (by simp [isOpen]), start _ fun wrong => absurd rfl wrong⟩
  · refine ⟨w.phase.serving, fun _ => rfl, start _ ?_⟩
    intro elsewhere
    cases serving : w.phase.serving with
    | none => exact ((served.resting serving (by simpa using closing)).ready a).mpr pending
    | some turn =>
        have other : a ≠ turn := fun same => elsewhere (by rw [serving, same])
        exact ((served.serving turn serving).ready a other).mpr pending

theorem about_split (mail front behind : List (Message P)) (shape : about a mail = front ++ envelope :: behind) :
    envelope.actorId = a ∧ ∃ early late, mail = early ++ envelope :: late ∧ about a early = front := by
  obtain ⟨first, second, rfl, before, rest⟩ := List.filter_eq_append_iff.mp shape
  obtain ⟨skipped, late, rfl, others, addressed, _⟩ := List.filter_eq_cons_iff.mp rest
  refine ⟨of_decide_eq_true addressed, first ++ skipped, late, (List.append_assoc ..).symm, ?_⟩
  have nothing : Keyed.select Envelope.actorId a skipped = [] := List.filter_eq_nil_iff.mpr others
  rw [about, Keyed.select_append, nothing, List.append_nil]
  exact before

theorem passing_now (w : Worker P n) (served : Served w) (ahead behind : List (Message P))
    (waits : w.scheduler.mailbox a ++ about a w.msgRx.queue = ahead ++ envelope :: behind) :
    Passing a ahead.length (if ahead.length < (w.scheduler.mailbox a).length then 0 else 1) envelope [] w := by
  by_cases inside : ahead.length < (w.scheduler.mailbox a).length
  · have front := congrArg (List.take (w.scheduler.mailbox a).length) waits
    obtain ⟨more, size⟩ := Nat.exists_eq_add_of_lt inside
    rw [List.take_left, size, List.take_append, List.take_of_length_le (by omega),
      show ahead.length + more + 1 - ahead.length = more + 1 by omega, List.take_succ_cons] at front
    exact Or.inl (bypassed_now w served ahead _ front)
  · have back := congrArg (List.drop (w.scheduler.mailbox a).length) waits
    rw [List.drop_left, List.drop_append_of_le_length (Nat.le_of_not_lt inside)] at back
    obtain ⟨addressed, early, late, queue, counted⟩ := about_split _ _ _ back
    refine Or.inr ⟨if_neg inside, addressed, ⟨early, late, queue, ?_⟩, by simp, fun _ => rfl⟩
    rw [counted, List.length_drop]
    simp only [Keyed.select_nil, List.length_nil]
    omega

theorem passing_place (w : Worker P n) (passing : Passing a limit slack envelope begun w) :
    ∃ before behind, w.scheduler.mailbox a ++ about a w.msgRx.queue = before ++ envelope :: behind ∧
      (about a begun).length + before.length ≤ limit ∧
      ∀ b, b ≠ a → (about b begun).length + before.length ≤ limit + (slack + 1) := by
  rcases passing with ⟨_, _, before, behind, box, own, others⟩ | ⟨rfl, addressed, ⟨early, late, queue, own⟩, once, _⟩
  · refine ⟨before, behind ++ about a w.msgRx.queue, ?_, own, fun b other => (others b other).most⟩
    rw [box, List.append_assoc, List.cons_append]
  · refine ⟨w.scheduler.mailbox a ++ about a early, about a late, ?_, by rw [List.length_append]; exact own, ?_⟩
    · rw [queue, about, Keyed.select_append, Keyed.select_cons, if_pos addressed, List.append_assoc]
    · intro b _
      have few : (about b begun).length ≤ begun.length := List.length_filter_le ..
      rw [List.length_append]
      omega

end Worker

-- Bounded bypass, in every run of the runtime: until a message is begun, or is
-- dropped, no other actor of its worker is given more messages than were before
-- it, and one; and one more if it was still in the channel.
theorem bypass_bounded (rely : Machine.Rely (State P n) (Action P n) (Entry P n)) (log since : Trace P n) (s next : State P n)
    (reached : (runtime P n).Reach rely log s) (run : (runtime P n).Runs Machine.free log s (log ++ since) next) (w : Fin n)
    (a : ActorId) (ahead behind : List (Message P)) (envelope : Message P)
    (waits : (s.workers w).scheduler.mailbox a ++ about a (s.workers w).msgRx.queue = ahead ++ envelope :: behind) :
    envelope ∈ (since.worker w).begun ∨ envelope ∈ (since.worker w).dropped ∨
      ∃ before after, (next.workers w).scheduler.mailbox a ++ about a (next.workers w).msgRx.queue =
          before ++ envelope :: after ∧
        (about a (since.worker w).begun).length + before.length ≤ ahead.length ∧
        ∀ b, b ≠ a → (about b (since.worker w).begun).length + before.length ≤
          ahead.length + if ahead.length < ((s.workers w).scheduler.mailbox a).length then 1 else 2 := by
  have routed := reach_routed rely log s reached
  have sound := reach_worker rely log s reached w
  have passing := Worker.passing_now (s.workers w) sound.served ahead behind waits
  have steps := (runs_worker log (log ++ since) s next routed run w).1
  obtain ⟨between, shape, holds⟩ := Worker.passing_run w _ _ _ _ (routed.workers w) passing steps
  rw [Trace.worker_append] at shape
  obtain rfl := List.append_cancel_left shape
  rcases holds with begins | drops | still
  · exact Or.inl begins
  · exact Or.inr (Or.inl drops)
  · obtain ⟨before, after, place, own, others⟩ := Worker.passing_place _ still
    refine Or.inr (Or.inr ⟨before, after, place, own, ?_⟩)
    intro b other
    refine (others b other).trans (Nat.le_of_eq ?_)
    split <;> rfl

-- Two actors on one worker, the first with a message in its mailbox and one
-- still in the channel.
def twoBehind : List (Action numbers 1) :=
  spawnOne ++ ([.spawn () 0, .spawnPick 2, .startedReturn 2 0, .handOver 2, .worker 0 .pollControl, .worker 0 .confirm,
    .spawnReturn 2, .doSend 1 7, .doSend 0 5, .worker 0 .pollControl, .worker 0 .drain, .worker 0 .drain, .worker 0 .drain,
    .doSend 0 6] : List (Action numbers 1))

-- The second has a turn, and the first begins one.
def turnEach : List (Action numbers 1) :=
  [.worker 0 .runTurn, .worker 0 (.handlerReturn 5 50), .worker 0 .settle, .worker 0 .pollControl, .worker 0 .drain,
    .worker 0 .drain, .worker 0 .runTurn]

def turnEachLog : Trace numbers 1 :=
  [.at 0 (.handling ⟨2, (), 7, false, 0⟩), .at 0 (.handled ⟨2, (), 7, false, 0⟩ 50), .at 0 (.handling ⟨1, (), 5, false, 1⟩)]

theorem bypass_bounded_two : ∃ (next : State numbers 1) (before after : List (Message numbers)),
    (next.workers 0).scheduler.mailbox 1 ++ about 1 (next.workers 0).msgRx.queue = before ++ ⟨1, (), 6, false, 2⟩ :: after ∧
      about 2 (turnEachLog.worker 0).begun = [⟨2, (), 7, false, 0⟩] ∧
      (about 2 (turnEachLog.worker 0).begun).length + before.length ≤ 3 := by
  have reached := Machine.run_reach (runtime numbers 1) _ _ _ twoBehind rfl rfl
  rcases bypass_bounded _ _ turnEachLog _ _ reached (Machine.run_runs _ _ _ _ _ turnEach rfl) 0 1
    [⟨1, (), 5, false, 1⟩] [] ⟨1, (), 6, false, 2⟩ rfl with begins | drops | ⟨before, after, place, _, others⟩
  · simp [turnEachLog, Trace.worker, Entry.view, Log.begun, Event.begins] at begins
  · simp [turnEachLog, Trace.worker, Entry.view, Log.dropped, Event.drops] at drops
  · exact ⟨_, before, after, place, rfl, others 2 (by decide)⟩

end Actinium
