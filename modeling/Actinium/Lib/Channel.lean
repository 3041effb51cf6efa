set_option autoImplicit false

-- An unbounded multi-producer channel: first in first out, and lossless while
-- the receiver is alive. Dropping the receiver drops what is queued.
structure Channel (α : Type) where
  queue : List α
  receiver : Bool

namespace Channel

variable {α : Type}

def new : Channel α := ⟨[], true⟩

def send (c : Channel α) (value : α) : Option (Channel α) :=
  if c.receiver then some { c with queue := c.queue ++ [value] } else none

-- Both errors of a non-blocking receive, empty and disconnected, are none.
def tryRecv (c : Channel α) : Option (α × Channel α) :=
  match c.queue with
  | [] => none
  | value :: rest => some (value, { c with queue := rest })

def dropReceiver (_ : Channel α) : Channel α := ⟨[], false⟩

theorem send_inv (c next : Channel α) (value : α) (sent : c.send value = some next) :
    c.receiver = true ∧ next = { c with queue := c.queue ++ [value] } := by
  unfold send at sent
  split at sent
  · rename_i alive
    exact ⟨alive, (Option.some.inj sent).symm⟩
  · cases sent

theorem try_recv_inv (c rest : Channel α) (value : α) (received : c.tryRecv = some (value, rest)) :
    c.queue = value :: rest.queue ∧ rest.receiver = c.receiver := by
  unfold tryRecv at received
  split at received
  · cases received
  · rename_i head tail queued
    cases received
    exact ⟨queued, rfl⟩

theorem try_recv_none (c : Channel α) : c.tryRecv = none ↔ c.queue = [] := by
  unfold tryRecv
  split
  · rename_i empty
    simp [empty]
  · rename_i head tail queued
    simp [queued]

end Channel
