import Mathlib.Data.List.Basic

set_option autoImplicit false

-- A server takes its messages one at a time. It answers each, goes on to a new
-- state, and may stop there, which leaves it deaf to the rest.
namespace Replay

variable {σ μ ρ : Type}

abbrev Server (σ μ ρ : Type) := σ → μ → σ × ρ × Bool

-- What becomes of the server and of a list of messages.
structure Fate (σ μ ρ : Type) where
  handled : List (μ × ρ)
  final : σ
  stopped : Bool
  dropped : List μ

def replay (serve : Server σ μ ρ) (s : σ) : List μ → Fate σ μ ρ
  | [] => ⟨[], s, false, []⟩
  | msg :: rest =>
      let (next, reply, stops) := serve s msg
      if stops then ⟨[(msg, reply)], next, true, rest⟩
      else
        let later := replay serve next rest
        { later with handled := (msg, reply) :: later.handled }

-- How far a server has come, whoever drives it.
inductive Progress (serve : Server σ μ ρ) (s : σ) : List (μ × ρ) → σ → Bool → Prop where
  | start : Progress serve s [] s false
  | handle (handled : List (μ × ρ)) (mid next : σ) (msg : μ) (reply : ρ) (stops : Bool)
      (before : Progress serve s handled mid false) (served : serve mid msg = (next, reply, stops)) :
      Progress serve s (handled ++ [(msg, reply)]) next stops

variable (serve : Server σ μ ρ)

theorem replay_one (s next : σ) (msg : μ) (reply : ρ) (stops : Bool) (rest : List μ)
    (served : serve s msg = (next, reply, stops)) (spent : stops = false → rest = []) :
    replay serve s (msg :: rest) = ⟨[(msg, reply)], next, stops, rest⟩ := by
  cases stops with
  | true => simp [replay, served]
  | false => simp [replay, served, spent rfl]

-- A server that has not stopped goes on from where it is.
theorem replay_later (s mid : σ) (handled : List (μ × ρ)) (stopped : Bool) (progress : Progress serve s handled mid stopped)
    (going : stopped = false) (rest : List μ) :
    replay serve s (handled.map Prod.fst ++ rest) =
      { replay serve mid rest with handled := handled ++ (replay serve mid rest).handled } := by
  induction progress generalizing rest with
  | start => rfl
  | handle handled mid next msg reply stops before served ih =>
      rw [List.map_append, List.append_assoc, ih rfl]
      simp [replay, served, going]

-- Progress is the beginning of the replay, and all of it once the server has
-- stopped or nothing is left.
theorem replay_progress (s final : σ) (handled : List (μ × ρ)) (stopped : Bool)
    (progress : Progress serve s handled final stopped) (rest : List μ) (spent : stopped = false → rest = []) :
    replay serve s (handled.map Prod.fst ++ rest) = ⟨handled, final, stopped, rest⟩ := by
  cases progress with
  | start => rw [spent rfl]; rfl
  | handle handled mid next msg reply stops before served =>
      rw [List.map_append, List.append_assoc, replay_later serve s mid handled false before rfl]
      simp [replay_one serve mid final msg reply stopped rest served spent]

end Replay
