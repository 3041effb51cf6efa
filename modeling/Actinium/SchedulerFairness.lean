import Actinium.Scheduler
import Mathlib.Data.List.Chain

set_option autoImplicit false

namespace Actinium.Scheduler

variable {δ : Type}

-- The actor given a turn by a step, if any.
def served (s : Scheduler δ) : Op δ → List ActorId
  | .turn _ => s.nextReady.1.toList
  | _ => []

-- The turns given in a run, in order.
def turns (s : Scheduler δ) : List (Op δ) → List ActorId
  | [] => []
  | op :: rest => s.served op ++ (s.apply op).turns rest

-- An actor waits behind those ahead of it.
structure Waits (a : ActorId) (ahead : List ActorId) (s : Scheduler δ) : Prop where
  queued : ∃ behind, s.readyQueue = ahead ++ a :: behind
  first : a ∉ ahead

theorem waits_idx (a : ActorId) (ahead : List ActorId) (s : Scheduler δ) (waits : Waits a ahead s) :
    a ∈ s.readyQueue ∧ s.readyQueue.idxOf a = ahead.length := by
  obtain ⟨behind, queue⟩ := waits.queued
  rw [queue]
  exact ⟨by simp, by simp [List.idxOf_append_of_notMem waits.first]⟩

theorem waits_of_mem (a : ActorId) (s : Scheduler δ) (member : a ∈ s.readyQueue) : ∃ ahead, Waits a ahead s := by
  obtain ⟨ahead, behind, first, queue, _⟩ := List.exists_erase_eq member
  exact ⟨ahead, ⟨behind, queue⟩, first⟩

theorem enqueue_queue (s : Scheduler δ) (envelope : Envelope δ) :
    ∃ arrived, (s.enqueue envelope).readyQueue = s.readyQueue ++ arrived := by
  dsimp only [enqueue]
  split
  · exact ⟨[], (List.append_nil _).symm⟩
  · exact ⟨[envelope.actorId], rfl⟩

theorem waits_enqueue (s : Scheduler δ) (envelope : Envelope δ) (a : ActorId) (ahead : List ActorId)
    (waits : Waits a ahead s) : Waits a ahead (s.enqueue envelope) := by
  obtain ⟨behind, queue⟩ := waits.queued
  obtain ⟨arrived, grown⟩ := enqueue_queue s envelope
  refine ⟨⟨behind ++ arrived, ?_⟩, waits.first⟩
  rw [grown, queue, List.append_assoc, List.cons_append]

theorem waits_remove (s : Scheduler δ) (removed a : ActorId) (ahead : List ActorId) (other : a ≠ removed)
    (waits : Waits a ahead s) : ∃ left, Waits a left (s.removeActor removed) ∧ left.Sublist ahead := by
  obtain ⟨behind, queue⟩ := waits.queued
  refine ⟨ahead.filter (fun id => decide (id ≠ removed)), ⟨⟨behind.filter (fun id => decide (id ≠ removed)), ?_⟩, ?_⟩,
    List.filter_sublist⟩
  · simp [removeActor, queue, other]
  · intro member
    exact waits.first (List.mem_of_mem_filter member)

theorem cleanup_queue (s : Scheduler δ) (id : ActorId) : (s.cleanupEmpty id).readyQueue = s.readyQueue := by
  unfold cleanupEmpty
  split <;> rfl

theorem requeue_queue (s : Scheduler δ) (turn : ActorId) :
    (s.requeueIfReady turn).readyQueue = if s.hasPending turn then s.readyQueue ++ [turn] else s.readyQueue := by
  unfold requeueIfReady
  split
  · rfl
  · exact cleanup_queue s turn

theorem waits_requeue (s : Scheduler δ) (turn a : ActorId) (ahead : List ActorId) (waits : Waits a ahead s) :
    Waits a ahead (s.requeueIfReady turn) := by
  obtain ⟨behind, queue⟩ := waits.queued
  refine ⟨?_, waits.first⟩
  rw [requeue_queue, queue]
  split
  · exact ⟨behind ++ [turn], by simp⟩
  · exact ⟨behind, rfl⟩

-- What a turn does: the served actor leaves the head of the queue with one of
-- its envelopes, may be removed, and is requeued behind everyone.
theorem turn_cases (s : Scheduler δ) (removed : Bool) (wf : Wf s) :
    (s.readyQueue = [] ∧ s.served (.turn removed) = [] ∧ s.turn removed = s) ∨
      ∃ id rest envelope after, s.readyQueue = id :: rest ∧ s.served (.turn removed) = [id] ∧
        ({ s with readyQueue := rest } : Scheduler δ).dequeue id = (some envelope, after) ∧
        s.turn removed = (if removed then after.removeActor id else after).requeueIfReady id := by
  cases queue : s.readyQueue with
  | nil =>
      have idle := next_ready_nil s queue
      exact Or.inl ⟨rfl, by simp [served, idle], by simp [turn, idle]⟩
  | cons id rest =>
      have next := next_ready_cons s wf id rest queue
      obtain ⟨envelope, after, dequeued, _⟩ := wf_serves s _ wf id next
      exact Or.inr ⟨id, rest, envelope, after, rfl, by simp [served, next], dequeued, by simp [turn, next, dequeued]⟩

-- One step that neither serves nor removes an actor takes from the front of
-- those ahead of it, and puts nobody there.
theorem waits_step (s : Scheduler δ) (op : Op δ) (a : ActorId) (ahead : List ActorId) (wf : Wf s) (waits : Waits a ahead s)
    (unserved : a ∉ s.served op) (kept : op ≠ .removeActor a) :
    ∃ left, Waits a left (s.apply op) ∧ (s.served op ++ left).Sublist ahead := by
  cases op with
  | enqueue envelope => exact ⟨ahead, waits_enqueue s envelope a ahead waits, List.Sublist.refl ahead⟩
  | removeActor id =>
      have other : a ≠ id := by
        intro same
        exact kept (by rw [same])
      exact waits_remove s id a ahead other waits
  | turn removed =>
      obtain ⟨behind, queue⟩ := waits.queued
      obtain ⟨empty, _, _⟩ | ⟨id, rest, envelope, after, head, turn, dequeued, next⟩ := turn_cases s removed wf
      · rw [queue] at empty
        simp at empty
      · rw [turn] at unserved ⊢
        have different : a ≠ id := by simpa using unserved
        cases ahead with
        | nil =>
            rw [queue] at head
            exact absurd (List.cons.inj head).1 different
        | cons front others =>
            rw [queue, List.cons_append] at head
            obtain ⟨rfl, tail⟩ := List.cons.inj head
            have popped : Waits a others after := by
              refine ⟨⟨behind, ?_⟩, fun member => waits.first (List.mem_cons_of_mem _ member)⟩
              rw [(dequeue_some _ after front envelope dequeued).2.1]
              exact tail.symm
            rw [apply, next]
            cases removed with
            | false => exact ⟨others, waits_requeue after front a others popped, List.Sublist.refl _⟩
            | true =>
                obtain ⟨left, still, fewer⟩ := waits_remove after front a others different popped
                exact ⟨left, waits_requeue _ front a left still, fewer.cons_cons front⟩

-- The same for a run: whoever is served meanwhile was ahead, and is so no more.
theorem waits_run (ops : List (Op δ)) (s : Scheduler δ) (a : ActorId) (ahead : List ActorId) (wf : Wf s)
    (waits : Waits a ahead s) (unserved : a ∉ s.turns ops) (kept : .removeActor a ∉ ops) :
    ∃ left, Waits a left (ops.foldl apply s) ∧ (s.turns ops ++ left).Sublist ahead := by
  induction ops generalizing s ahead with
  | nil => exact ⟨ahead, waits, List.Sublist.refl ahead⟩
  | cons op rest ih =>
      simp only [turns, List.mem_append, not_or, List.mem_cons] at unserved kept
      obtain ⟨between, still, fewer⟩ := waits_step s op a ahead wf waits unserved.1 (Ne.symm kept.1)
      obtain ⟨left, final, rest_fewer⟩ := ih (s.apply op) between (wf_apply s op wf) still unserved.2 kept.2
      refine ⟨left, final, ?_⟩
      rw [turns, List.append_assoc]
      exact ((List.Sublist.refl _).append rest_fewer).trans fewer

-- Whoever is not ahead of an actor when it waits gets no turn before it does.
theorem not_overtaken (ops : List (Op δ)) (s : Scheduler δ) (a b : ActorId) (ahead : List ActorId) (wf : Wf s)
    (waits : Waits a ahead s) (behind : b ∉ ahead) (unserved : a ∉ s.turns ops) (kept : .removeActor a ∉ ops) :
    b ∉ s.turns ops := by
  obtain ⟨left, _, fewer⟩ := waits_run ops s a ahead wf waits unserved kept
  intro member
  exact behind (fewer.subset (List.mem_append_left left member))

-- After its own turn an actor is behind everyone who waited.
theorem served_behind (s : Scheduler δ) (removed : Bool) (a b : ActorId) (wf : Wf s) (turn : s.nextReady.1 = some b)
    (other : a ≠ b) (pending : s.mailbox a ≠ []) : ∃ ahead, Waits a ahead (s.turn removed) ∧ b ∉ ahead := by
  obtain ⟨ahead, waits⟩ := waits_of_mem a s ((wf.ready a).mpr pending)
  have given : s.served (.turn removed) = [b] := by simp [served, turn]
  have unserved : a ∉ s.served (.turn removed) := by simp [given, other]
  obtain ⟨left, still, fewer⟩ := waits_step s (.turn removed) a ahead wf waits unserved (by simp)
  refine ⟨left, still, ?_⟩
  intro member
  obtain ⟨behind, queue⟩ := waits.queued
  have nodup := wf.nodup
  rw [queue] at nodup
  have once := fewer.nodup (List.Nodup.of_append_left nodup)
  rw [given] at once
  exact (List.nodup_cons.mp once).1 member

-- An actor has mail at every moment of a run.
def StaysPending (a : ActorId) (s : Scheduler δ) : List (Op δ) → Prop
  | [] => s.mailbox a ≠ []
  | op :: rest => s.mailbox a ≠ [] ∧ StaysPending a (s.apply op) rest

theorem stays_now (a : ActorId) (s : Scheduler δ) (ops : List (Op δ)) (stays : StaysPending a s ops) :
    s.mailbox a ≠ [] := by
  cases ops with
  | nil => exact stays
  | cons op rest => exact stays.1

theorem stays_kept (a : ActorId) (s : Scheduler δ) (op : Op δ) (rest : List (Op δ))
    (stays : StaysPending a s (op :: rest)) : op ≠ .removeActor a := by
  intro removed
  apply stays_now a _ rest stays.2
  rw [removed, apply, mailbox_remove, if_pos rfl]

def among (a b : ActorId) (ids : List ActorId) : List ActorId := ids.filter fun id => decide (id = a ∨ id = b)

theorem among_swap (a b : ActorId) (ids : List ActorId) : among a b ids = among b a ids := by
  simp only [among, or_comm]

-- While the first waits with the second not ahead of it, the first is the
-- next of the two to be served.
theorem alternate_from (ops : List (Op δ)) (s : Scheduler δ) (a b : ActorId) (ahead : List ActorId) (wf : Wf s)
    (other : a ≠ b) (waits : Waits a ahead s) (behind : b ∉ ahead) (first : StaysPending a s ops)
    (second : StaysPending b s ops) :
    (among a b (s.turns ops)).IsChain (· ≠ ·) ∧ ∀ next ∈ (among a b (s.turns ops)).head?, next = a := by
  induction ops generalizing s a b ahead with
  | nil => simp [turns, among]
  | cons op rest ih =>
      have firstLater := first.2
      have secondLater := second.2
      have later := wf_apply s op wf
      by_cases own : a ∈ s.served op
      · cases op with
        | enqueue envelope => cases own
        | removeActor id => cases own
        | turn removed =>
            have given : s.nextReady.1 = some a := by simpa [served] using own
            obtain ⟨ahead', waits', behind'⟩ := served_behind s removed b a wf given (Ne.symm other) (stays_now b s _ second)
            obtain ⟨chain, head⟩ := ih (s.turn removed) b a ahead' later (Ne.symm other) waits' behind' secondLater firstLater
            have split : among a b (s.turns (.turn removed :: rest)) = a :: among b a ((s.turn removed).turns rest) := by
              rw [among_swap b a]
              simp [turns, served, given, among, apply]
            rw [split]
            refine ⟨List.isChain_cons.mpr ⟨?_, chain⟩, by simp⟩
            intro next member
            rw [head next member]
            exact other
      · obtain ⟨left, still, fewer⟩ := waits_step s op a ahead wf waits own (stays_kept a s op rest first)
        have missed : among a b (s.served op) = [] := by
          apply List.filter_eq_nil_iff.mpr
          intro id member
          have inside : id ∈ ahead := fewer.subset (List.mem_append_left left member)
          have notFirst : id ≠ a := fun same => own (same ▸ member)
          have notSecond : id ≠ b := fun same => behind (same ▸ inside)
          simp [notFirst, notSecond]
        have later_behind : b ∉ left := fun member => behind (fewer.subset (List.mem_append_right _ member))
        have split : among a b (s.turns (op :: rest)) = among a b ((s.apply op).turns rest) := by
          rw [turns, among, List.filter_append]
          exact congrArg (· ++ _) missed
        rw [split]
        exact ih (s.apply op) a b left later other still later_behind firstLater secondLater

theorem alternate (ops : List (Op δ)) (s : Scheduler δ) (a b : ActorId) (wf : Wf s) (other : a ≠ b)
    (first : StaysPending a s ops) (second : StaysPending b s ops) : (among a b (s.turns ops)).IsChain (· ≠ ·) := by
  obtain ⟨aheadA, waitsA⟩ := waits_of_mem a s ((wf.ready a).mpr (stays_now a s ops first))
  by_cases before : b ∈ aheadA
  · obtain ⟨aheadB, waitsB⟩ := waits_of_mem b s ((wf.ready b).mpr (stays_now b s ops second))
    have after : a ∉ aheadB := by
      intro member
      obtain ⟨behindA, queueA⟩ := waitsA.queued
      obtain ⟨behindB, queueB⟩ := waitsB.queued
      have one := List.idxOf_lt_length_of_mem before
      have two := List.idxOf_lt_length_of_mem member
      have placeA := (waits_idx a aheadA s waitsA).2
      have placeB := (waits_idx b aheadB s waitsB).2
      rw [queueB, List.idxOf_append_of_mem member] at placeA
      rw [queueA, List.idxOf_append_of_mem before] at placeB
      omega
    rw [among_swap]
    exact (alternate_from ops s b a aheadB wf (Ne.symm other) waitsB after second first).1
  · exact (alternate_from ops s a b aheadA wf other waitsA before first second).1

-- Round-robin fairness: no second turn before everyone who waited had one,
-- positions in the ready queue only fall, and two busy actors alternate.
theorem turns_fair (ops : List (Op δ)) :
    let s := ops.foldl apply (new : Scheduler δ)
    (∀ a b removed later, s.nextReady.1 = some b → a ≠ b → s.mailbox a ≠ [] → a ∉ (s.turn removed).turns later →
      .removeActor a ∉ later → b ∉ (s.turn removed).turns later) ∧
      (∀ a later, a ∈ s.readyQueue → a ∉ s.turns later → .removeActor a ∉ later →
        a ∈ (later.foldl apply s).readyQueue ∧
          (later.foldl apply s).readyQueue.idxOf a + (s.turns later).length ≤ s.readyQueue.idxOf a) ∧
      (∀ a b later, a ≠ b → StaysPending a s later → StaysPending b s later →
        (among a b (s.turns later)).IsChain (· ≠ ·)) := by
  intro s
  have wf : Wf s := wf_run ops new wf_new
  refine ⟨?_, ?_, ?_⟩
  · intro a b removed later turn other pending unserved kept
    obtain ⟨ahead, waits, behind⟩ := served_behind s removed a b wf turn other pending
    exact not_overtaken later _ a b ahead (wf_turn s removed wf) waits behind unserved kept
  · intro a later member unserved kept
    obtain ⟨ahead, waits⟩ := waits_of_mem a s member
    obtain ⟨left, still, fewer⟩ := waits_run later s a ahead wf waits unserved kept
    have before := (waits_idx a ahead s waits).2
    obtain ⟨inside, after⟩ := waits_idx a left _ still
    have length := fewer.length_le
    rw [List.length_append] at length
    exact ⟨inside, by omega⟩
  · intro a b later other first second
    exact alternate later s a b wf other first second

def mailTo (ids : List ActorId) : List (Op Unit) := ids.map fun id => .enqueue ⟨id, ()⟩

theorem turns_fair_two :
    let s := (mailTo [1, 1, 2, 1, 2]).foldl apply new
    1 ∉ (s.turn false).turns (mailTo [1, 3]) ∧ 2 ∈ ((mailTo [1, 3]).foldl apply s).readyQueue ∧
      (among 1 2 (s.turns [.turn false, .enqueue ⟨3, ()⟩, .turn false])).IsChain (· ≠ ·) := by
  have fair := turns_fair (mailTo [1, 1, 2, 1, 2])
  refine ⟨fair.1 2 1 false (mailTo [1, 3]) rfl (by decide) (by decide) (by decide) (by simp [mailTo]), ?_, ?_⟩
  · exact (fair.2.1 2 (mailTo [1, 3]) (by decide) (by decide) (by simp [mailTo])).1
  · refine fair.2.2 1 2 _ (by decide) ?_ ?_
    · exact ⟨by decide, by decide, by decide, List.cons_ne_nil _ _⟩
    · exact ⟨by decide, by decide, by decide, List.cons_ne_nil _ _⟩

end Actinium.Scheduler
