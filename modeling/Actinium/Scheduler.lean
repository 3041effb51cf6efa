import Actinium.Actor
import Actinium.Lib.Keyed

set_option autoImplicit false

namespace Actinium

structure Scheduler (δ : Type) where
  mailboxes : AList (fun _ : ActorId => List (Envelope δ))
  readyQueue : List ActorId

namespace Scheduler

variable {δ : Type}

def new : Scheduler δ := ⟨∅, []⟩

def enqueue (s : Scheduler δ) (envelope : Envelope δ) : Scheduler δ :=
  let actorId := envelope.actorId
  { mailboxes := s.mailboxes.insert actorId ((s.mailboxes.lookup actorId).getD [] ++ [envelope])
    readyQueue := if actorId ∈ s.readyQueue then s.readyQueue else s.readyQueue ++ [actorId] }

def hasPending (s : Scheduler δ) (actorId : ActorId) : Bool :=
  ((s.mailboxes.lookup actorId).map (fun q => !q.isEmpty)).getD false

def nextReadyLoop : Nat → Scheduler δ → Option ActorId × Scheduler δ
  | 0, s => (none, s)
  | len + 1, s =>
      match s.readyQueue with
      | [] => (none, s)
      | id :: rest =>
          let popped := { s with readyQueue := rest }
          if popped.hasPending id then (some id, popped) else nextReadyLoop len popped

-- At most as many pops as the queue is long.
def nextReady (s : Scheduler δ) : Option ActorId × Scheduler δ := nextReadyLoop s.readyQueue.length s

def dequeue (s : Scheduler δ) (actorId : ActorId) : Option (Envelope δ) × Scheduler δ :=
  match s.mailboxes.lookup actorId with
  | none => (none, s)
  | some [] => (none, s)
  | some (envelope :: rest) => (some envelope, { s with mailboxes := s.mailboxes.insert actorId rest })

def cleanupEmpty (s : Scheduler δ) (actorId : ActorId) : Scheduler δ :=
  if ((s.mailboxes.lookup actorId).map (fun q => q.isEmpty)).getD false then
    { s with mailboxes := s.mailboxes.erase actorId }
  else s

def requeueIfReady (s : Scheduler δ) (actorId : ActorId) : Scheduler δ :=
  if s.hasPending actorId then { s with readyQueue := s.readyQueue ++ [actorId] } else s.cleanupEmpty actorId

def removeActor (s : Scheduler δ) (actorId : ActorId) : Scheduler δ :=
  { mailboxes := s.mailboxes.erase actorId
    readyQueue := s.readyQueue.filter (fun id => decide (id ≠ actorId)) }

-- What waits for an actor, a missing mailbox being an empty one.
def mailbox (s : Scheduler δ) (actorId : ActorId) : List (Envelope δ) := (s.mailboxes.lookup actorId).getD []

@[simp] theorem mailbox_new (id : ActorId) : (new : Scheduler δ).mailbox id = [] := by
  simp [mailbox, new]

theorem mailbox_enqueue (s : Scheduler δ) (envelope : Envelope δ) (id : ActorId) :
    (s.enqueue envelope).mailbox id =
      if id = envelope.actorId then s.mailbox id ++ [envelope] else s.mailbox id := by
  by_cases same : id = envelope.actorId
  · subst same
    simp [mailbox, enqueue]
  · simp [mailbox, enqueue, same, AList.lookup_insert_ne same]

theorem mailbox_remove (s : Scheduler δ) (removed id : ActorId) :
    (s.removeActor removed).mailbox id = if id = removed then [] else s.mailbox id := by
  by_cases same : id = removed
  · subst same
    simp [mailbox, removeActor]
  · simp [mailbox, removeActor, same, AList.lookup_erase_ne same]

theorem mailbox_popped (s : Scheduler δ) (ready : List ActorId) (id : ActorId) :
    ({ s with readyQueue := ready } : Scheduler δ).mailbox id = s.mailbox id := rfl

theorem mailbox_cleanup (s : Scheduler δ) (cleaned id : ActorId) :
    (s.cleanupEmpty cleaned).mailbox id = s.mailbox id := by
  unfold cleanupEmpty
  split
  · rename_i empty
    by_cases same : id = cleaned
    · subst same
      cases found : s.mailboxes.lookup id with
      | none => simp [mailbox, found]
      | some q =>
          have nothing : q = [] := by simpa [found] using empty
          simp [mailbox, found, nothing]
    · simp [mailbox, AList.lookup_erase_ne same]
  · rfl

@[simp] theorem mailbox_requeue (s : Scheduler δ) (turn id : ActorId) :
    (s.requeueIfReady turn).mailbox id = s.mailbox id := by
  unfold requeueIfReady
  split
  · rfl
  · exact mailbox_cleanup s turn id

theorem has_pending_iff (s : Scheduler δ) (id : ActorId) : s.hasPending id = true ↔ s.mailbox id ≠ [] := by
  unfold hasPending mailbox
  cases s.mailboxes.lookup id with
  | none => simp
  | some q => simp

theorem next_ready_loop_mailbox (len : Nat) (s : Scheduler δ) (id : ActorId) :
    (nextReadyLoop len s).2.mailbox id = s.mailbox id := by
  induction len generalizing s with
  | zero => rfl
  | succ len ih =>
      unfold nextReadyLoop
      split
      · rfl
      · dsimp only
        split
        · rfl
        · rw [ih]
          rfl

theorem mailbox_next_ready (s : Scheduler δ) (id : ActorId) : s.nextReady.2.mailbox id = s.mailbox id :=
  next_ready_loop_mailbox _ s id

theorem dequeue_some (s next : Scheduler δ) (id : ActorId) (envelope : Envelope δ)
    (dequeued : s.dequeue id = (some envelope, next)) :
    s.mailbox id = envelope :: next.mailbox id ∧ next.readyQueue = s.readyQueue ∧
      ∀ other, other ≠ id → next.mailboxes.lookup other = s.mailboxes.lookup other := by
  unfold dequeue at dequeued
  split at dequeued
  · cases dequeued
  · cases dequeued
  · rename_i head rest found
    cases dequeued
    refine ⟨by simp [mailbox, found], rfl, ?_⟩
    intro other different
    exact AList.lookup_insert_ne different

theorem dequeue_none (s next : Scheduler δ) (id : ActorId) (dequeued : s.dequeue id = (none, next)) :
    next = s ∧ s.mailbox id = [] := by
  unfold dequeue at dequeued
  split at dequeued
  · rename_i found
    cases dequeued
    exact ⟨rfl, by simp [mailbox, found]⟩
  · rename_i found
    cases dequeued
    exact ⟨rfl, by simp [mailbox, found]⟩
  · cases dequeued

theorem dequeue_pending (s : Scheduler δ) (id : ActorId) (pending : s.mailbox id ≠ []) :
    ∃ envelope next, s.dequeue id = (some envelope, next) := by
  cases result : s.dequeue id with
  | mk first next =>
      cases first with
      | none => exact absurd (dequeue_none s next id result).2 pending
      | some envelope => exact ⟨envelope, next, rfl⟩

-- The representation invariant between the steps of a worker.
structure Wf (s : Scheduler δ) : Prop where
  nodup : s.readyQueue.Nodup
  ready : ∀ id, id ∈ s.readyQueue ↔ s.mailbox id ≠ []
  kept : ∀ id q, s.mailboxes.lookup id = some q → q ≠ []
  keyed : ∀ id, ∀ envelope ∈ s.mailbox id, envelope.actorId = id

-- Inside a turn the actor served has left the ready queue, and nothing is
-- known of its mailbox.
structure WfTurn (turn : ActorId) (s : Scheduler δ) : Prop where
  nodup : s.readyQueue.Nodup
  served : turn ∉ s.readyQueue
  ready : ∀ id, id ≠ turn → (id ∈ s.readyQueue ↔ s.mailbox id ≠ [])
  kept : ∀ id q, id ≠ turn → s.mailboxes.lookup id = some q → q ≠ []
  keyed : ∀ id, ∀ envelope ∈ s.mailbox id, envelope.actorId = id

theorem wf_new : Wf (new : Scheduler δ) :=
  ⟨List.nodup_nil, by simp [new, mailbox], by simp [new], by simp⟩

theorem wf_enqueue (s : Scheduler δ) (envelope : Envelope δ) (wf : Wf s) : Wf (s.enqueue envelope) := by
  refine ⟨?_, ?_, ?_, ?_⟩
  · dsimp only [enqueue]
    split
    · exact wf.nodup
    · rename_i absent
      exact Keyed.nodup_push _ _ wf.nodup absent
  · intro id
    rw [mailbox_enqueue]
    have before := wf.ready id
    by_cases same : id = envelope.actorId
    · subst same
      dsimp only [enqueue]
      split <;> simp_all
    · dsimp only [enqueue]
      split <;> simp [same, before]
  · intro id q found
    by_cases same : id = envelope.actorId
    · subst same
      simp only [enqueue, AList.lookup_insert, Option.some.injEq] at found
      simp [← found]
    · simp only [enqueue, AList.lookup_insert_ne same] at found
      exact wf.kept id q found
  · intro id waiting member
    rw [mailbox_enqueue] at member
    split at member
    · rename_i same
      rcases List.mem_append.mp member with earlier | last
      · exact wf.keyed id waiting earlier
      · rw [List.mem_singleton.mp last, same]
    · exact wf.keyed id waiting member

theorem wf_remove (s : Scheduler δ) (removed : ActorId) (wf : Wf s) : Wf (s.removeActor removed) := by
  refine ⟨wf.nodup.filter _, ?_, ?_, ?_⟩
  · intro id
    rw [mailbox_remove]
    have before := wf.ready id
    by_cases same : id = removed <;> simp [removeActor, same, before]
  · intro id q found
    by_cases same : id = removed
    · subst same
      simp [removeActor] at found
    · rw [removeActor, AList.lookup_erase_ne same] at found
      exact wf.kept id q found
  · intro id waiting member
    rw [mailbox_remove] at member
    split at member
    · cases member
    · exact wf.keyed id waiting member

theorem wf_turn_remove (turn : ActorId) (s : Scheduler δ) (wf : WfTurn turn s) (removed : ActorId) :
    WfTurn turn (s.removeActor removed) := by
  refine ⟨wf.nodup.filter _, ?_, ?_, ?_, ?_⟩
  · simp [removeActor, wf.served]
  · intro id other
    rw [mailbox_remove]
    have before := wf.ready id other
    by_cases same : id = removed <;> simp [removeActor, same, before]
  · intro id q other found
    by_cases same : id = removed
    · subst same
      simp [removeActor] at found
    · rw [removeActor, AList.lookup_erase_ne same] at found
      exact wf.kept id q other found
  · intro id waiting member
    rw [mailbox_remove] at member
    split at member
    · cases member
    · exact wf.keyed id waiting member

-- The first id of a well-formed ready queue has mail, so nothing is skipped.
theorem next_ready_cons (s : Scheduler δ) (wf : Wf s) (id : ActorId) (rest : List ActorId)
    (queue : s.readyQueue = id :: rest) : s.nextReady = (some id, { s with readyQueue := rest }) := by
  have pending : s.mailbox id ≠ [] := (wf.ready id).mp (by simp [queue])
  have ready : ({ s with readyQueue := rest } : Scheduler δ).hasPending id = true := (has_pending_iff s id).mpr pending
  simp [nextReady, nextReadyLoop, queue, ready]

theorem next_ready_nil (s : Scheduler δ) (queue : s.readyQueue = []) : s.nextReady = (none, s) := by
  simp [nextReady, nextReadyLoop, queue]

theorem next_ready_none (s next : Scheduler δ) (wf : Wf s) (idle : s.nextReady = (none, next)) :
    next = s ∧ s.readyQueue = [] := by
  cases queue : s.readyQueue with
  | nil =>
      rw [next_ready_nil s queue] at idle
      exact ⟨(Prod.mk.inj idle).2.symm, rfl⟩
  | cons id rest =>
      rw [next_ready_cons s wf id rest queue] at idle
      cases idle

theorem next_ready_some (s next : Scheduler δ) (wf : Wf s) (id : ActorId) (served : s.nextReady = (some id, next)) :
    s.readyQueue = id :: next.readyQueue ∧ next.mailboxes = s.mailboxes := by
  cases queue : s.readyQueue with
  | nil =>
      rw [next_ready_nil s queue] at served
      cases served
  | cons head rest =>
      rw [next_ready_cons s wf head rest queue] at served
      cases served
      exact ⟨rfl, rfl⟩

theorem next_ready_turn (s next : Scheduler δ) (wf : Wf s) (id : ActorId) (served : s.nextReady = (some id, next)) :
    WfTurn id next ∧ next.mailbox id ≠ [] := by
  obtain ⟨queue, boxes⟩ := next_ready_some s next wf id served
  have same (other : ActorId) : next.mailbox other = s.mailbox other := by
    unfold mailbox
    rw [boxes]
  have nodup := wf.nodup
  rw [queue, List.nodup_cons] at nodup
  refine ⟨⟨nodup.2, nodup.1, ?_, ?_, ?_⟩, ?_⟩
  · intro other different
    rw [same, ← wf.ready other, queue]
    simp [different]
  · intro other q _ found
    exact wf.kept other q (boxes ▸ found)
  · intro other waiting member
    exact wf.keyed other waiting (same other ▸ member)
  · rw [same]
    exact (wf.ready id).mp (by simp [queue])

theorem dequeue_turn (s next : Scheduler δ) (turn : ActorId) (envelope : Envelope δ) (wf : WfTurn turn s)
    (dequeued : s.dequeue turn = (some envelope, next)) : WfTurn turn next ∧ envelope.actorId = turn := by
  obtain ⟨mail, queue, others⟩ := dequeue_some s next turn envelope dequeued
  have same (other : ActorId) (different : other ≠ turn) : next.mailbox other = s.mailbox other := by
    unfold mailbox
    rw [others other different]
  refine ⟨⟨queue ▸ wf.nodup, queue ▸ wf.served, ?_, ?_, ?_⟩, wf.keyed turn envelope (by simp [mail])⟩
  · intro other different
    rw [same other different, queue]
    exact wf.ready other different
  · intro other q different found
    exact wf.kept other q different (others other different ▸ found)
  · intro other waiting member
    by_cases different : other = turn
    · subst different
      exact wf.keyed other waiting (by simp [mail, member])
    · exact wf.keyed other waiting (same other different ▸ member)

theorem requeue_wf (s : Scheduler δ) (turn : ActorId) (wf : WfTurn turn s) : Wf (s.requeueIfReady turn) := by
  cases pending : s.hasPending turn with
  | true =>
      have mail := (has_pending_iff s turn).mp pending
      have shape : s.requeueIfReady turn = { s with readyQueue := s.readyQueue ++ [turn] } := by
        simp [requeueIfReady, pending]
      rw [shape]
      refine ⟨?_, ?_, ?_, wf.keyed⟩
      · exact Keyed.nodup_push _ turn wf.nodup wf.served
      · intro id
        rw [mailbox_popped]
        by_cases same : id = turn
        · simp [same, mail]
        · simp [same, wf.ready id same]
      · intro id q found
        by_cases same : id = turn
        · subst same
          change s.mailboxes.lookup id = some q at found
          simpa [mailbox, found] using mail
        · exact wf.kept id q same found
  | false =>
      have noMail : s.mailbox turn = [] := by
        by_contra mail
        rw [(has_pending_iff s turn).mpr mail] at pending
        cases pending
      have shape : s.requeueIfReady turn = s.cleanupEmpty turn := by simp [requeueIfReady, pending]
      have queue : (s.cleanupEmpty turn).readyQueue = s.readyQueue := by
        unfold cleanupEmpty
        split <;> rfl
      rw [shape]
      refine ⟨queue ▸ wf.nodup, ?_, ?_, ?_⟩
      · intro id
        rw [mailbox_cleanup, queue]
        by_cases same : id = turn
        · simp [same, noMail, wf.served]
        · exact wf.ready id same
      · intro id q found
        by_cases same : id = turn
        · subst same
          intro empty
          unfold cleanupEmpty at found
          split at found
          · simp at found
          · rename_i full
            simp [found, empty] at full
        · refine wf.kept id q same ?_
          unfold cleanupEmpty at found
          split at found
          · rwa [AList.lookup_erase_ne same] at found
          · exact found
      · intro id waiting member
        rw [mailbox_cleanup] at member
        exact wf.keyed id waiting member

-- The steps a worker performs on its scheduler. A turn may remove the actor
-- it serves before it is requeued: its handler asked to stop, or panicked.
inductive Op (δ : Type) where
  | enqueue (envelope : Envelope δ)
  | turn (removed : Bool)
  | removeActor (id : ActorId)

def turn (s : Scheduler δ) (removed : Bool) : Scheduler δ :=
  match s.nextReady with
  | (none, s) => s
  | (some id, s) =>
      match s.dequeue id with
      | (none, s) => s
      | (some _, s) => (if removed then s.removeActor id else s).requeueIfReady id

def apply (s : Scheduler δ) : Op δ → Scheduler δ
  | .enqueue envelope => s.enqueue envelope
  | .turn removed => s.turn removed
  | .removeActor id => s.removeActor id

theorem wf_turn (s : Scheduler δ) (removed : Bool) (wf : Wf s) : Wf (s.turn removed) := by
  unfold turn
  split
  · rename_i next idle
    rw [(next_ready_none s next wf idle).1]
    exact wf
  · rename_i id next served
    obtain ⟨inTurn, mail⟩ := next_ready_turn s next wf id served
    split
    · rename_i after nothing
      exact absurd (dequeue_none next after id nothing).2 mail
    · rename_i envelope after dequeued
      have inside := (dequeue_turn next after id envelope inTurn dequeued).1
      cases removed with
      | true => exact requeue_wf _ id (wf_turn_remove id after inside id)
      | false => exact requeue_wf after id inside

theorem wf_apply (s : Scheduler δ) (op : Op δ) (wf : Wf s) : Wf (s.apply op) := by
  cases op with
  | enqueue envelope => exact wf_enqueue s envelope wf
  | turn removed => exact wf_turn s removed wf
  | removeActor id => exact wf_remove s id wf

theorem wf_run (ops : List (Op δ)) (s : Scheduler δ) (wf : Wf s) : Wf (ops.foldl apply s) := by
  induction ops generalizing s with
  | nil => exact wf
  | cons op rest ih => exact ih (s.apply op) (wf_apply s op wf)

theorem wf_idle_iff (s : Scheduler δ) (wf : Wf s) : s.nextReady.1 = none ↔ ∀ id, s.mailbox id = [] := by
  constructor
  · intro idle id
    have queue := (next_ready_none s s.nextReady.2 wf (Prod.ext idle rfl)).2
    by_contra mail
    have member := (wf.ready id).mpr mail
    simp [queue] at member
  · intro empty
    cases queue : s.readyQueue with
    | nil => rw [next_ready_nil s queue]
    | cons id rest => exact absurd (empty id) ((wf.ready id).mp (by simp [queue]))

theorem wf_serves (s next : Scheduler δ) (wf : Wf s) (id : ActorId) (served : s.nextReady = (some id, next)) :
    ∃ envelope after, next.dequeue id = (some envelope, after) ∧ envelope.actorId = id := by
  obtain ⟨inTurn, mail⟩ := next_ready_turn s next wf id served
  obtain ⟨envelope, after, dequeued⟩ := dequeue_pending next id mail
  exact ⟨envelope, after, dequeued, (dequeue_turn next after id envelope inTurn dequeued).2⟩

-- No lost wake-up: between the steps of any run the ready queue lists exactly
-- the actors with mail, each once, and the worker idles only on an empty scheduler.
theorem run_representation (ops : List (Op δ)) :
    let s := ops.foldl apply (new : Scheduler δ)
    s.readyQueue.Nodup ∧
      (∀ id, id ∈ s.readyQueue ↔ ∃ q, s.mailboxes.lookup id = some q ∧ q ≠ []) ∧
      (∀ id q, s.mailboxes.lookup id = some q → q ≠ []) ∧
      (s.nextReady.1 = none ↔ ∀ id q, s.mailboxes.lookup id = some q → q = []) ∧
      (∀ id next, s.nextReady = (some id, next) →
        ∃ envelope after, next.dequeue id = (some envelope, after) ∧ envelope.actorId = id) := by
  intro s
  have wf : Wf s := wf_run ops new wf_new
  refine ⟨wf.nodup, ?_, wf.kept, ?_, fun id next served => wf_serves s next wf id served⟩
  · intro id
    rw [wf.ready id, mailbox]
    cases s.mailboxes.lookup id <;> simp
  · rw [wf_idle_iff s wf]
    constructor
    · intro empty id q found
      simpa [mailbox, found] using empty id
    · intro empty id
      cases found : s.mailboxes.lookup id with
      | none => simp [mailbox, found]
      | some q => simp [mailbox, found, empty id q found]

end Scheduler

end Actinium
