import Mathlib.Data.List.AList

set_option autoImplicit false

namespace Actinium

-- ActorId(u64). Ids are handed out by a counter; a run that allocates fewer
-- than 2^64 of them never wraps, and the model is of such runs.
abbrev ActorId := Nat

-- What the user of the library supplies: actor types, the values of actors,
-- messages and replies. The library sees values through Box<dyn Any> only.
structure Program where
  Ty : Type
  Val : Type
  Msg : Type
  Reply : Type
  [decTy : DecidableEq Ty]

attribute [instance] Program.decTy

-- Box<dyn Any + Send>: a value and its concrete type.
structure AnyBox (P : Program) where
  ty : P.Ty
  val : P.Val

-- downcast_mut::<A>()
def AnyBox.downcast {P : Program} (box : AnyBox P) (ty : P.Ty) : Option P.Val :=
  if box.ty = ty then some box.val else none

-- The on_stop closure is known by the type A it downcasts to.
structure ActorCell (P : Program) where
  actor : AnyBox P
  onStop : P.Ty

-- What a callback leaves behind in cell.actor.as_mut().
def ActorCell.write {P : Program} (cell : ActorCell P) (val : P.Val) : ActorCell P :=
  { cell with actor := { cell.actor with val := val } }

structure Envelope (δ : Type) where
  actorId : ActorId
  dispatch : δ

-- What the closure built by Addr::send and Addr::do_send captures: the type
-- it downcasts to, the message, and in send the sender of the reply channel.
-- The serial number tells apart the calls that built the closures.
structure Delivery (P : Program) where
  ty : P.Ty
  msg : P.Msg
  resultTx : Bool
  serial : Nat

abbrev Message (P : Program) := Envelope (Delivery P)

-- spawn_shared and worker_idx are one field: none outside a Runtime.
structure Context (ι : Type) where
  actorId : ActorId
  running : Bool
  spawner : Option ι

namespace Context

variable {ι : Type}

def new (actorId : ActorId) : Context ι := ⟨actorId, true, none⟩

def withSpawner (actorId : ActorId) (workerIdx : ι) : Context ι := ⟨actorId, true, some workerIdx⟩

def stop (ctx : Context ι) : Context ι := { ctx with running := false }

def isRunning (ctx : Context ι) : Bool := ctx.running

end Context

-- A program for examples: its actors, messages and replies are numbers.
abbrev numbers : Program := ⟨Unit, Nat, Nat, Nat⟩

-- A system with one channel has number 0.
instance oneChannel : @NeZero Nat Zero.ofOfNat0 1 := Nat.instNeZeroSucc

end Actinium
