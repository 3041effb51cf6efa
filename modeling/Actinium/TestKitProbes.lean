import Actinium.ActorSystemShutdown
import Actinium.TestKit

set_option autoImplicit false

namespace Actinium

variable {P : Program}

namespace ActorSystem

-- Nobody can send, nor come to be able to.
def Unheld (s : ActorSystem P) : Prop := s.addrs = [] ∧ s.tx = false

-- stop_all_actors is reached only when the senders are gone.
def Manned (s : ActorSystem P) : Prop :=
  match s.phase with
  | .starting _ _ _ _ => s.tx = true
  | .within (.loop .run) => s.running = true ∨ Unheld s
  | .handling .run _ _ _ => s.running = true
  | .stopping _ _ _ (.loop .run) => s.running = true
  | .within (.stopAll _) => Unheld s
  | .stopping _ _ _ (.stopAll _) => Unheld s
  | _ => True

theorem unheld_step (s next : ActorSystem P) (action : SystemAction P) (entries : SystemTrace P) (manned : Manned s)
    (unheld : Unheld s) (moves : Moves s next.sends action entries next) : Unheld next := by
  obtain ⟨noAddrs, gone⟩ := unheld
  generalize next.sends = sends at moves
  cases moves with
  | cloneAddr i addr found => simp [noAddrs] at found
  | dropAddr i => exact ⟨by simp [noAddrs], gone⟩
  | startedReturn id ty old val ctx here =>
      rw [Manned, here] at manned
      rw [gone] at manned
      cases manned
  | run here => exact ⟨noAddrs, rfl⟩
  | dropSystem here => exact ⟨noAddrs, rfl⟩
  | _ => exact ⟨noAddrs, gone⟩

-- The phase, and what Manned looks at besides, are as before.
theorem manned_same (s next : ActorSystem P) (manned : Manned s) (phase : next.phase = s.phase)
    (running : next.running = s.running) (tx : next.tx = s.tx) (addrs : s.addrs = [] → next.addrs = []) : Manned next := by
  have unheld (before : Unheld s) : Unheld next := ⟨addrs before.1, tx.trans before.2⟩
  unfold Manned at manned ⊢
  rw [phase, running, tx]
  cases here : s.phase with
  | within resume =>
      rw [here] at manned
      cases resume with
      | loop around =>
          cases around with
          | run => exact manned.imp id unheld
          | runOnce count => trivial
      | stopAll ids => exact unheld manned
  | stopping id cell ctx resume =>
      rw [here] at manned
      cases resume with
      | loop around => cases around <;> exact manned
      | stopAll ids => exact unheld manned
  | handling around envelope cell ctx =>
      rw [here] at manned
      cases around <;> exact manned
  | _ =>
      rw [here] at manned
      exact manned

-- The stopped hook has ended.
theorem hook_manned (s next : ActorSystem P) (id : ActorId) (cell : ActorCell P) (ctx : Context Empty) (resume : Resume)
    (manned : Manned s) (here : s.phase = .stopping id cell ctx resume) (phase : next.phase = .within resume)
    (same : next.running = s.running ∧ next.addrs = s.addrs ∧ next.tx = s.tx) : Manned next := by
  obtain ⟨running, addrs, tx⟩ := same
  rw [Manned, here] at manned
  rw [Manned, phase]
  cases resume with
  | loop around =>
      cases around with
      | run => exact Or.inl (running.trans manned)
      | runOnce count => trivial
  | stopAll ids => exact ⟨addrs.trans manned.1, tx.trans manned.2⟩

theorem manned_step (s next : ActorSystem P) (action : SystemAction P) (entries : SystemTrace P) (manned : Manned s)
    (taken : s.step action = some (next, entries)) : Manned next := by
  have moves := step_moves s next action entries taken
  have unaddressed (i : Nat) (addr : Addr P 1) (found : s.addrs[i]? = some addr) : s.addrs ≠ [] := by
    intro none
    simp [none] at found
  generalize next.sends = sends at moves
  cases moves with
  | cloneAddr i addr found => exact manned_same s _ manned rfl rfl rfl fun none => absurd none (unaddressed i addr found)
  | dropAddr i => exact manned_same s _ manned rfl rfl rfl fun none => by simp [none]
  | postFailed => exact manned_same s _ manned rfl rfl rfl id
  | post => exact manned_same s _ manned rfl rfl rfl id
  | recvResult => exact manned_same s _ manned rfl rfl rfl id
  | spawnPanic => exact manned_same s _ manned rfl rfl rfl id
  | spawn ty val here sender => exact sender
  | startedReturn => trivial
  | startedPanic => trivial
  | run => exact Or.inl rfl
  | runOnce => trivial
  | ranOnce => trivial
  | mismatch => trivial
  | handlerPanic => trivial
  | hookPanic => trivial
  | returns => trivial
  | dropSystem => trivial
  | shutdown here => simp [Manned, here]
  | disconnected here empty none =>
      rw [Manned, here]
      refine Or.inr ?_
      unfold senders at none
      cases sender : s.tx with
      | true => simp [sender] at none
      | false => exact ⟨List.length_eq_zero_iff.mp (Nat.eq_zero_of_add_eq_zero_right none), rfl⟩
  | skip loop envelope rest here queue absent =>
      cases loop with
      | run => exact Or.inl (recv_running s _ _ here taken)
      | runOnce count => trivial
  | handle loop envelope rest cell here queue present right =>
      cases loop with
      | run => exact recv_running s _ _ here taken
      | runOnce count => trivial
  | stopStarted id ty val ctx here =>
      rw [Manned, here] at manned
      exact manned
  | stopHandler loop envelope cell ctx here =>
      rw [Manned, here] at manned
      cases loop <;> exact manned
  | handled loop envelope cell ctx val reply here running =>
      rw [Manned, here] at manned
      cases loop with
      | run => exact Or.inl manned
      | runOnce count => trivial
  | handledStop loop envelope cell ctx val reply here stops =>
      rw [Manned, here] at manned
      cases loop <;> exact manned
  | stopHook id cell ctx resume here =>
      rw [Manned, here] at manned
      cases resume with
      | loop around => cases around <;> exact manned
      | stopAll ids => exact manned
  | hookReturn id cell ctx resume here right =>
      exact hook_manned s _ id cell ctx resume manned here rfl ⟨rfl, rfl, rfl⟩
  | hookSkip id cell ctx resume here untyped =>
      exact hook_manned s _ id cell ctx resume manned here rfl ⟨rfl, rfl, rfl⟩
  | takeSnapshot ids here left keys =>
      rw [Manned, here, left] at manned
      exact manned.resolve_left Bool.false_ne_true
  | stopGone id ids here absent =>
      rw [Manned, here] at manned
      exact manned
  | stopNext id ids cell here present =>
      rw [Manned, here] at manned
      exact manned

-- An actor leaves the map by its own wish, or when nobody can reach it.
theorem mapped_step (s next : ActorSystem P) (action : SystemAction P) (entries : SystemTrace P) (manned : Manned s)
    (id : ActorId) (inside : id ∈ s.actors)
    (staying : ∀ loop envelope cell ctx, s.phase = .handling loop envelope cell ctx → envelope.actorId = id → ctx.running = true)
    (moves : Moves s next.sends action entries next) : id ∈ next.actors ∨ Unheld next ∨ next.phase = .ended := by
  have inserted (other : ActorId) (cell : ActorCell P) : id ∈ s.actors.insert other cell :=
    (AList.mem_insert _).mpr (Or.inr inside)
  generalize next.sends = sends at moves
  cases moves with
  | startedReturn => exact Or.inl (inserted _ _)
  | handled => exact Or.inl (inserted _ _)
  | handlerPanic => exact Or.inl (inserted _ _)
  | handledStop loop envelope cell ctx val reply here stops =>
      refine Or.inl (AList.mem_erase.mpr ⟨?_, inside⟩)
      intro same
      rw [staying loop envelope cell ctx here same.symm] at stops
      cases stops
  | stopNext other ids cell here present =>
      rw [Manned, here] at manned
      exact Or.inr (Or.inl manned)
  | dropSystem => exact Or.inr (Or.inr rfl)
  | _ => exact Or.inl inside

end ActorSystem

namespace TestKit

-- A step of the kit is a step of the system, or two in the case of a spawn.
inductive Moves (kit : TestKit P) : SystemTrace P → TestKit P → Prop where
  | system (action : SystemAction P) (s : ActorSystem P) (entries : SystemTrace P)
      (free : kit.probing = true → action.ofHandler = false) (taken : kit.system.step action = some (s, entries)) :
      Moves kit entries { kit with system := s }
  | spawned (ty : P.Ty) (val : P.Val) (s t : ActorSystem P) (entries later : SystemTrace P)
      (first : kit.system.step (.spawn ty val) = some (s, entries)) (second : s.step (.startedReturn val) = some (t, later)) :
      Moves kit (entries ++ later) ⟨t, kit.probes.insert kit.system.nextId []⟩
  | probeHandle (reply : P.Reply) (loop : Loop) (envelope : Message P) (cell : ActorCell P) (ctx : Context Empty)
      (messages : List P.Msg) (s : ActorSystem P) (entries : SystemTrace P)
      (here : kit.system.phase = .handling loop envelope cell ctx)
      (found : kit.probes.lookup envelope.actorId = some messages)
      (taken : kit.system.step (.handlerReturn cell.actor.val reply) = some (s, entries)) :
      Moves kit entries ⟨s, kit.probes.insert envelope.actorId (messages ++ [envelope.dispatch.msg])⟩
  | reset (id : ActorId) (messages : List P.Msg) (found : kit.probes.lookup id = some messages) :
      Moves kit [] { kit with probes := kit.probes.insert id [] }
  | still : Moves kit [] kit

theorem step_moves (kit next : TestKit P) (action : KitAction P) (entries : SystemTrace P)
    (taken : kit.step action = some (next, entries)) : Moves kit entries next := by
  cases action with
  | system action =>
      simp only [step, stepSystem] at taken
      split at taken
      · cases taken
      · rename_i allowed
        simp only [Option.map_eq_some_iff] at taken
        obtain ⟨⟨s, later⟩, stepped, same⟩ := taken
        cases same
        refine .system action s later ?_ stepped
        intro probing
        simpa [probing] using allowed
  | spawnProbe ty val =>
      simp only [step, spawnProbe] at taken
      split at taken
      · cases taken
      · rename_i s first spawned
        split at taken
        · cases taken
          exact .system (.spawn ty val) s first (fun _ => rfl) spawned
        · rename_i t second started
          cases taken
          exact .spawned ty val s t first second spawned started
  | probeHandle reply =>
      simp only [step, probeHandle] at taken
      split at taken
      · rename_i loop envelope cell ctx here
        split at taken
        · cases taken
        · rename_i messages found
          simp only [Option.map_eq_some_iff] at taken
          obtain ⟨⟨s, later⟩, stepped, same⟩ := taken
          cases same
          exact .probeHandle reply loop envelope cell ctx messages s later here found stepped
      · cases taken
  | reset id =>
      simp only [step, reset, Option.some.injEq] at taken
      split at taken
      · cases taken
        exact .still
      · rename_i messages found
        cases taken
        exact .reset id messages found

end TestKit

-- The system of a kit has a run of its own.
theorem reach_kit_system (log : SystemTrace P) (kit : TestKit P) (reached : (testKit P).Reach Machine.free log kit) :
    (actorSystem P).Reach Machine.free log kit.system := by
  refine Machine.reach_invariant (testKit P) Machine.free
    (fun log kit => (actorSystem P).Reach Machine.free log kit.system) ?_ ?_ log kit reached
  · intro kit start
    rw [start]
    exact .init _ rfl
  · intro log kit action next entries _ before _ taken
    cases TestKit.step_moves kit next action entries taken with
    | system action s _ free stepped => exact .step log kit.system s action entries before trivial stepped
    | spawned ty val s t first second spawned started =>
        rw [← List.append_assoc]
        have mid : (actorSystem P).Reach Machine.free (log ++ first) s :=
          .step log kit.system s (SystemAction.spawn ty val) first before trivial spawned
        exact .step _ s t (SystemAction.startedReturn val) second mid trivial started
    | probeHandle reply loop envelope cell ctx messages s _ here found stepped =>
        exact .step log kit.system s (SystemAction.handlerReturn cell.actor.val reply) entries before trivial stepped
    | reset id messages found =>
        rw [List.append_nil]
        exact before
    | still =>
        rw [List.append_nil]
        exact before

namespace TestKit

-- While anybody can send to a probe its actor is there.
structure Tended (kit : TestKit P) : Prop where
  ids : ∀ id ∈ kit.probes, id < kit.system.nextId
  staying : ∀ loop envelope cell ctx, kit.system.phase = .handling loop envelope cell ctx → envelope.actorId ∈ kit.probes →
    ctx.running = true
  manned : kit.system.Manned
  alive : kit.system.phase ≠ .ended → ∀ id ∈ kit.probes, id ∈ kit.system.actors ∨ kit.system.Unheld

theorem probing_of_mem (kit : TestKit P) (loop : Loop) (envelope : Message P) (cell : ActorCell P) (ctx : Context Empty)
    (here : kit.system.phase = .handling loop envelope cell ctx) (member : envelope.actorId ∈ kit.probes) :
    kit.probing = true := by
  simp only [probing, here]
  exact AList.lookup_isSome.mpr member

theorem ids_step (s next : ActorSystem P) (action : SystemAction P) (entries : SystemTrace P)
    (moves : ActorSystem.Moves s next.sends action entries next) : s.nextId ≤ next.nextId := by
  generalize next.sends = sends at moves
  cases moves with
  | spawn => exact Nat.le_succ _
  | spawnPanic => exact Nat.le_succ _
  | _ => exact Nat.le_refl _

theorem ended_step (s next : ActorSystem P) (action : SystemAction P) (entries : SystemTrace P)
    (moves : ActorSystem.Moves s next.sends action entries next) (ended : s.phase = .ended) : next.phase = .ended := by
  generalize next.sends = sends at moves
  cases moves with
  | dropSystem => rfl
  | _ => first | exact ended | simp_all only [reduceCtorEq]

-- The handler of a probe that runs after the step has just begun, or did
-- nothing in it.
theorem staying_step (s next : ActorSystem P) (action : SystemAction P) (entries : SystemTrace P)
    (moves : ActorSystem.Moves s next.sends action entries next) (loop : Loop) (envelope : Message P) (cell : ActorCell P)
    (ctx : Context Empty) (after : next.phase = .handling loop envelope cell ctx) :
    ctx.running = true ∨ action = .ctxStop ∧ (∃ before, s.phase = .handling loop envelope cell before) ∨
      s.phase = .handling loop envelope cell ctx := by
  generalize next.sends = sends at moves
  cases moves with
  | handle around other rest found here queue present right =>
      cases after
      exact Or.inl rfl
  | stopHandler around other found before here =>
      cases after
      exact Or.inr (Or.inl ⟨rfl, before, here⟩)
  | cloneAddr => exact Or.inr (Or.inr after)
  | dropAddr => exact Or.inr (Or.inr after)
  | postFailed => exact Or.inr (Or.inr after)
  | post => exact Or.inr (Or.inr after)
  | recvResult => exact Or.inr (Or.inr after)
  | spawnPanic => exact Or.inr (Or.inr after)
  | disconnected => exact Or.inr (Or.inr after)
  | shutdown => exact Or.inr (Or.inr after)
  | _ => cases after

theorem tended_system (kit : TestKit P) (tended : Tended kit) (s : ActorSystem P) (action : SystemAction P)
    (entries : SystemTrace P)
    (free : kit.probing = true → action ≠ .ctxStop) (taken : kit.system.step action = some (s, entries)) :
    Tended { kit with system := s } := by
  have moves := ActorSystem.step_moves kit.system s action entries taken
  refine ⟨?_, ?_, ActorSystem.manned_step kit.system s action entries tended.manned taken, ?_⟩
  · intro id member
    exact Nat.lt_of_lt_of_le (tended.ids id member) (ids_step kit.system s action entries moves)
  · intro loop envelope cell ctx after member
    rcases staying_step kit.system s action entries moves loop envelope cell ctx after with running | ⟨stops, before, here⟩ | here
    · exact running
    · exact absurd stops (free (probing_of_mem kit loop envelope cell before here member))
    · exact tended.staying loop envelope cell ctx here member
  · intro living id member
    have before : kit.system.phase ≠ .ended := fun ended => living (ended_step kit.system s action entries moves ended)
    rcases tended.alive before id member with inside | unheld
    · rcases ActorSystem.mapped_step kit.system s action entries tended.manned id inside
        (fun loop envelope cell ctx here same => tended.staying loop envelope cell ctx here (same ▸ member)) moves with
        kept | unheld | ended
      · exact Or.inl kept
      · exact Or.inr unheld
      · exact absurd ended living
    · exact Or.inr (ActorSystem.unheld_step kit.system s action entries tended.manned unheld moves)

theorem spawned_shape (s mid next : ActorSystem P) (ty : P.Ty) (val : P.Val) (first second : SystemTrace P)
    (spawned : s.step (.spawn ty val) = some (mid, first)) (started : mid.step (.startedReturn val) = some (next, second)) :
    next.nextId = s.nextId + 1 ∧ next.phase = .outside ∧ s.nextId ∈ next.actors := by
  simp only [ActorSystem.step, ActorSystem.spawn] at spawned
  split at spawned
  · split at spawned
    · cases spawned
      cases started
      exact ⟨rfl, rfl, (AList.mem_insert _).mpr (Or.inl rfl)⟩
    · rename_i outside _
      cases spawned
      simp [ActorSystem.step, ActorSystem.startedReturn, outside] at started
  · cases spawned

theorem tended_insert (kit : TestKit P) (tended : Tended kit) (id : ActorId) (messages : List P.Msg)
    (bounded : id < kit.system.nextId)
    (staying : ∀ loop envelope cell ctx, kit.system.phase = .handling loop envelope cell ctx → envelope.actorId = id → ctx.running = true)
    (alive : kit.system.phase ≠ .ended → id ∈ kit.system.actors ∨ kit.system.Unheld) :
    Tended { kit with probes := kit.probes.insert id messages } := by
  have cases_of (other : ActorId) (member : other ∈ kit.probes.insert id messages) : other = id ∨ other ∈ kit.probes :=
    (AList.mem_insert _).mp member
  refine ⟨?_, ?_, tended.manned, ?_⟩
  · intro other member
    rcases cases_of other member with same | old
    · rw [same]
      exact bounded
    · exact tended.ids other old
  · intro loop envelope cell ctx here member
    rcases cases_of _ member with same | old
    · exact staying loop envelope cell ctx here same
    · exact tended.staying loop envelope cell ctx here old
  · intro living other member
    rcases cases_of other member with same | old
    · rw [same]
      exact alive living
    · exact tended.alive living other old

end TestKit

theorem reach_tended (log : SystemTrace P) (kit : TestKit P) (reached : (testKit P).Reach Machine.free log kit) :
    TestKit.Tended kit := by
  refine Machine.reach_invariant (testKit P) Machine.free (fun _ kit => TestKit.Tended kit) ?_ ?_ log kit reached
  · intro kit start
    rw [start]
    exact ⟨by simp [TestKit.new], by simp [TestKit.new], trivial, by simp [TestKit.new]⟩
  · intro log kit action next entries _ tended _ taken
    cases TestKit.step_moves kit next action entries taken with
    | system action s _ free stepped =>
        refine TestKit.tended_system kit tended s action entries ?_ stepped
        intro probing stops
        have wrong := free probing
        rw [stops] at wrong
        cases wrong
    | spawned ty val s t first second spawned started =>
        obtain ⟨counter, outside, inside⟩ := TestKit.spawned_shape _ _ _ ty val _ _ spawned started
        have mid := TestKit.tended_system kit tended s (.spawn ty val) first (fun _ => nofun) spawned
        have last := TestKit.tended_system _ mid t (.startedReturn val) second (fun _ => nofun) started
        refine TestKit.tended_insert _ last kit.system.nextId [] ?_ ?_ fun _ => Or.inl inside
        · change kit.system.nextId < t.nextId
          omega
        · intro loop envelope cell ctx here
          change t.phase = _ at here
          rw [outside] at here
          cases here
    | probeHandle reply loop envelope cell ctx messages s _ here found stepped =>
        have member : envelope.actorId ∈ kit.probes := AList.lookup_isSome.mp (by rw [found]; rfl)
        have next := TestKit.tended_system kit tended s (.handlerReturn cell.actor.val reply) entries (fun _ => nofun) stepped
        exact TestKit.tended_insert _ next envelope.actorId _ (next.ids _ member)
          (fun loop other cell ctx here same => next.staying loop other cell ctx here (same ▸ member))
          (fun living => next.alive living _ member)
    | reset id messages found =>
        have member : id ∈ kit.probes := AList.lookup_isSome.mp (by rw [found]; rfl)
        exact TestKit.tended_insert kit tended id [] (tended.ids id member)
          (fun loop other cell ctx here same => tended.staying loop other cell ctx here (same ▸ member))
          (fun living => tended.alive living id member)
    | still => exact tended

end Actinium
