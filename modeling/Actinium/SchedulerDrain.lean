import Actinium.Lib.Rounds
import Actinium.SchedulerFairness

set_option autoImplicit false

namespace Actinium.Scheduler

variable {δ : Type}

-- while let Some(id) = next_ready() { dequeue(id); requeue_if_ready(id) }, for
-- as many rounds of the loop as there is fuel.
def drainLoop : Nat → Scheduler δ → Option (List (Envelope δ) × Scheduler δ)
  | 0, s =>
      match s.nextReady with
      | (none, s) => some ([], s)
      | (some _, _) => none
  | fuel + 1, s =>
      match s.nextReady with
      | (none, s) => some ([], s)
      | (some id, s) =>
          let (envelope, s) := s.dequeue id
          (drainLoop fuel (s.requeueIfReady id)).map fun (rest, s) => (envelope.toList ++ rest, s)

def pending (s : Scheduler δ) : Nat := (s.mailboxes.entries.map fun entry => entry.2.length).sum

def rows (s : Scheduler δ) : List (List (Envelope δ)) := s.readyQueue.map s.mailbox

theorem rows_full (s : Scheduler δ) (wf : Wf s) : ∀ row ∈ s.rows, row ≠ [] := by
  intro row member
  obtain ⟨id, queued, rfl⟩ := List.mem_map.mp member
  exact (wf.ready id).mp queued

theorem entry_mailbox (s : Scheduler δ) (entry : Sigma fun _ : ActorId => List (Envelope δ))
    (member : entry ∈ s.mailboxes.entries) : s.mailbox entry.1 = entry.2 := by
  have found : s.mailboxes.lookup entry.1 = some entry.2 := AList.mem_lookup_iff.mpr member
  simp [mailbox, found]

-- The keys of the table are the ready queue in another order.
theorem keys_perm (s : Scheduler δ) (wf : Wf s) : s.mailboxes.keys.Perm s.readyQueue := by
  refine (List.perm_ext_iff_of_nodup (AList.keys_nodup _) wf.nodup).mpr ?_
  intro id
  rw [wf.ready id]
  constructor
  · intro member
    obtain ⟨q, found⟩ := Option.isSome_iff_exists.mp (AList.lookup_isSome.mpr (AList.mem_keys.mpr member))
    simpa [mailbox, found] using wf.kept id q found
  · intro mail
    apply AList.mem_keys.mp
    apply AList.lookup_isSome.mp
    by_contra absent
    exact mail (by simp [mailbox, Option.not_isSome_iff_eq_none.mp absent])

theorem pending_total (s : Scheduler δ) (wf : Wf s) : s.pending = Rounds.total s.rows := by
  have boxes : s.mailboxes.entries.map (fun entry => entry.2.length) = s.mailboxes.keys.map fun id => (s.mailbox id).length := by
    rw [AList.keys, List.keys, List.map_map]
    apply List.map_congr_left
    intro entry member
    simp [entry_mailbox s entry member]
  rw [pending, boxes, ((keys_perm s wf).map _).sum_eq, Rounds.total, rows, List.map_map]
  rfl

theorem wf_empty (s : Scheduler δ) (wf : Wf s) (queue : s.readyQueue = []) : s = new := by
  have keys := keys_perm s wf
  rw [queue, List.perm_nil] at keys
  have entries : s.mailboxes.entries = [] := List.map_eq_nil_iff.mp keys
  have table : s.mailboxes = ∅ := AList.ext entries
  cases s
  simp_all [new]

-- A turn takes the head of the first row and puts what is left of it last.
theorem turn_rows (s : Scheduler δ) (wf : Wf s) (id : ActorId) (rest : List ActorId) (queue : s.readyQueue = id :: rest) :
    ∃ envelope tail after, s.mailbox id = envelope :: tail ∧ s.nextReady = (some id, { s with readyQueue := rest }) ∧
      ({ s with readyQueue := rest } : Scheduler δ).dequeue id = (some envelope, after) ∧
      (after.requeueIfReady id).rows = rest.map s.mailbox ++ Rounds.left tail ∧ Wf (after.requeueIfReady id) := by
  have next := next_ready_cons s wf id rest queue
  obtain ⟨inTurn, _⟩ := next_ready_turn s _ wf id next
  obtain ⟨envelope, after, dequeued, _⟩ := wf_serves s _ wf id next
  obtain ⟨mail, remains, others⟩ := dequeue_some _ after id envelope dequeued
  refine ⟨envelope, after.mailbox id, after, mail, next, dequeued, ?_, ?_⟩
  · have same (other : ActorId) (member : other ∈ rest) : after.mailbox other = s.mailbox other := by
      have different : other ≠ id := by
        intro equal
        exact inTurn.served (equal ▸ member)
      unfold mailbox
      rw [others other different]
    have waiting : after.readyQueue.map after.mailbox = rest.map s.mailbox := by
      rw [remains]
      exact List.map_congr_left same
    have boxes : (after.requeueIfReady id).mailbox = after.mailbox := funext fun other => mailbox_requeue after id other
    rw [rows, boxes, requeue_queue]
    by_cases mail : after.mailbox id = []
    · rw [if_neg (by simp [has_pending_iff, mail]), waiting, Rounds.left, if_pos mail, List.append_nil]
    · rw [if_pos ((has_pending_iff after id).mpr mail), List.map_append, waiting, Rounds.left, if_neg mail]
      rfl
  · exact requeue_wf after id (dequeue_turn _ after id envelope inTurn dequeued).1

theorem drain_loop_idle (fuel : Nat) (s : Scheduler δ) (wf : Wf s) (queue : s.readyQueue = []) :
    s.drainLoop fuel = some ([], new) := by
  have idle := next_ready_nil s queue
  rw [wf_empty s wf queue] at idle ⊢
  cases fuel <;> simp only [drainLoop, idle]

-- The loop ends after as many turns as there are envelopes, and not before.
theorem drain_loop_rotates (fuel : Nat) (s : Scheduler δ) (wf : Wf s) :
    s.drainLoop fuel = if Rounds.total s.rows ≤ fuel then some (Rounds.rotate fuel s.rows, new) else none := by
  induction fuel generalizing s with
  | zero =>
      cases queue : s.readyQueue with
      | nil =>
          have rows : s.rows = [] := by rw [rows, queue, List.map_nil]
          rw [drain_loop_idle 0 s wf queue, rows]
          rfl
      | cons id rest =>
          obtain ⟨envelope, tail, after, mail, next, _, _, _⟩ := turn_rows s wf id rest queue
          have rows : s.rows = (envelope :: tail) :: rest.map s.mailbox := by rw [rows, queue, List.map_cons, mail]
          have more : ¬ Rounds.total s.rows ≤ 0 := by
            rw [rows, Rounds.total_cons, List.length_cons]
            omega
          simp only [drainLoop, next, if_neg more]
  | succ fuel ih =>
      cases queue : s.readyQueue with
      | nil =>
          have rows : s.rows = [] := by rw [rows, queue, List.map_nil]
          rw [drain_loop_idle _ s wf queue, rows]
          exact (if_pos (Nat.zero_le _)).symm
      | cons id rest =>
          obtain ⟨envelope, tail, after, mail, next, dequeued, turned, kept⟩ := turn_rows s wf id rest queue
          have rows : s.rows = (envelope :: tail) :: rest.map s.mailbox := by rw [rows, queue, List.map_cons, mail]
          have size : Rounds.total s.rows = Rounds.total (after.requeueIfReady id).rows + 1 := by
            rw [rows, turned, Rounds.total_cons, Rounds.total_append, Rounds.total_left, List.length_cons]
            omega
          simp only [drainLoop, next, dequeued, ih _ kept, size]
          by_cases enough : Rounds.total (after.requeueIfReady id).rows ≤ fuel
          · rw [if_pos enough, if_pos (Nat.succ_le_succ enough), rows, turned]
            rfl
          · have short : ¬ Rounds.total (after.requeueIfReady id).rows + 1 ≤ fuel + 1 := by omega
            rw [if_neg enough, if_neg short]
            rfl

theorem drain_loop_rounds (fuel : Nat) (s : Scheduler δ) (wf : Wf s) :
    s.drainLoop fuel = if s.pending ≤ fuel then some (Rounds.rounds s.rows, new) else none := by
  rw [drain_loop_rotates fuel s wf, pending_total s wf]
  by_cases enough : Rounds.total s.rows ≤ fuel
  · rw [if_pos enough, if_pos enough, Rounds.rotate_rounds fuel s.rows (rows_full s wf) enough]
  · rw [if_neg enough, if_neg enough]

-- After enqueues alone the ready queue lists the actors as they first came,
-- and a mailbox what came for its actor.
theorem enqueued_mailbox (envelopes : List (Envelope δ)) (id : ActorId) :
    (envelopes.foldl enqueue new).mailbox id = Keyed.select Envelope.actorId id envelopes := by
  induction envelopes using List.reverseRecOn with
  | nil => simp
  | append_singleton earlier last ih =>
      rw [List.foldl_concat, mailbox_enqueue, ih, Keyed.select_append, Keyed.select_cons]
      by_cases same : id = last.actorId
      · simp [same]
      · simp [same, Ne.symm same]

theorem enqueued_queue (envelopes : List (Envelope δ)) :
    (envelopes.foldl enqueue new).readyQueue = (envelopes.map Envelope.actorId).eraseDups := by
  induction envelopes using List.reverseRecOn with
  | nil => rfl
  | append_singleton earlier last ih =>
      rw [List.foldl_concat, List.map_append, List.eraseDups_append]
      dsimp only [enqueue]
      rw [ih]
      by_cases present : last.actorId ∈ earlier.map Envelope.actorId
      · rw [if_pos (List.mem_eraseDups.mpr present)]
        have old : [last.actorId].removeAll (earlier.map Envelope.actorId) = [] := by
          simpa [List.removeAll, List.filter_cons] using present
        rw [List.map_cons, List.map_nil, old, List.eraseDups_nil, List.append_nil]
      · rw [if_neg fun member => present (List.mem_eraseDups.mp member)]
        have fresh : [last.actorId].removeAll (earlier.map Envelope.actorId) = [last.actorId] := by
          simpa [List.removeAll, List.filter_cons] using present
        rw [List.map_cons, List.map_nil, fresh]
        rfl

theorem wf_enqueued (envelopes : List (Envelope δ)) : Wf (envelopes.foldl enqueue (new : Scheduler δ)) := by
  induction envelopes using List.reverseRecOn with
  | nil => exact wf_new
  | append_singleton earlier last ih =>
      rw [List.foldl_concat]
      exact wf_enqueue _ last ih

-- The rows an arrival order makes: by actor, in the order of first arrival.
def arrivals (envelopes : List (Envelope δ)) : List (List (Envelope δ)) :=
  (envelopes.map Envelope.actorId).eraseDups.map fun id => Keyed.select Envelope.actorId id envelopes

theorem enqueued_rows (envelopes : List (Envelope δ)) : (envelopes.foldl enqueue new).rows = arrivals envelopes := by
  rw [rows, enqueued_queue]
  exact List.map_congr_left fun id _ => enqueued_mailbox envelopes id

theorem enqueued_pending (envelopes : List (Envelope δ)) : (envelopes.foldl enqueue new).pending = envelopes.length := by
  have wf := wf_enqueued envelopes
  rw [pending_total _ wf, enqueued_rows, Rounds.total, arrivals, List.map_map]
  refine Keyed.select_lengths Envelope.actorId _ envelopes (enqueued_queue envelopes ▸ wf.nodup) ?_
  intro envelope member
  exact List.mem_eraseDups.mpr (List.mem_map_of_mem member)

-- The drain loop takes one turn for each pending envelope, empties the
-- scheduler, and outputs the mailboxes round by round.
theorem drain_order (ops : List (Op δ)) (envelopes : List (Envelope δ)) (fuel : Nat) :
    let s := ops.foldl apply (new : Scheduler δ)
    s.drainLoop fuel =
        (if s.pending ≤ fuel then some (Rounds.rounds (s.readyQueue.map s.mailbox), new) else none) ∧
      (envelopes.foldl enqueue new).drainLoop fuel =
        if envelopes.length ≤ fuel then some (Rounds.rounds (arrivals envelopes), new) else none := by
  intro s
  constructor
  · exact drain_loop_rounds fuel s (wf_run ops new wf_new)
  · rw [drain_loop_rounds fuel _ (wf_enqueued envelopes), enqueued_pending, enqueued_rows]

example : ((([2, 1, 2, 3, 2, 1].map fun id => (⟨id, ()⟩ : Envelope Unit)).foldl enqueue new).drainLoop 6).map (fun out => out.1.map Envelope.actorId) =
    some [2, 1, 3, 2, 1, 2] := by decide

end Actinium.Scheduler
