import Actinium.Lib.Machine
import Mathlib.Data.List.Perm.Basic

set_option autoImplicit false

namespace Process

inductive Status (μ : Type) where
  | absent
  | idle
  | busy (m : μ)
  | failed
  | leaving
  | dead

-- What is seen of a process from outside.
inductive Sign (μ ρ : Type) where
  | installed
  | accepted (m : μ)
  | handling (m : μ)
  | handled (m : μ) (r : ρ)
  | panicked (m : μ)
  | leaving
  | left (clean : Bool)
  | lost (m : μ)

inductive Act (μ ρ : Type) where
  | install
  | arrive (m : μ)
  | take
  | finish (r : ρ)
  | panic
  | leave
  | exit (clean : Bool)
  | abandon
  | lose (k : Nat)

end Process

-- A sequential process with a mailbox.
structure Process (μ : Type) where
  status : Process.Status μ
  mail : List μ

namespace Process

variable {μ ρ : Type}

def new : Process μ := ⟨.absent, []⟩

-- It takes its mail in order and one message at a time. It may leave between
-- two messages, and loses mail only when it is dead. A panic lets it go on or
-- makes it leave, as the flag says.
def step (keeps : Bool) (p : Process μ) : Act μ ρ → Option (Process μ × List (Sign μ ρ))
  | .install =>
      match p.status with
      | .absent => some (⟨.idle, p.mail⟩, [.installed])
      | _ => none
  | .arrive m =>
      match p.status with
      | .absent => none
      | _ => some (⟨p.status, p.mail ++ [m]⟩, [.accepted m])
  | .take =>
      match p.status, p.mail with
      | .idle, m :: rest => some (⟨.busy m, rest⟩, [.handling m])
      | _, _ => none
  | .finish r =>
      match p.status with
      | .busy m => some (⟨.idle, p.mail⟩, [.handled m r])
      | _ => none
  | .panic =>
      match p.status with
      | .busy m => some (⟨if keeps then .idle else .failed, p.mail⟩, [.panicked m])
      | _ => none
  | .leave =>
      match p.status with
      | .idle => some (⟨.leaving, p.mail⟩, [.leaving])
      | .failed => some (⟨.leaving, p.mail⟩, [.leaving])
      | _ => none
  | .exit clean =>
      match p.status with
      | .leaving => some (⟨.dead, p.mail⟩, [.left clean])
      | _ => none
  | .abandon =>
      match p.status with
      | .idle => some (⟨.dead, p.mail⟩, [])
      | _ => none
  | .lose k =>
      match p.status, p.mail[k]? with
      | .dead, some m => some (⟨.dead, p.mail.eraseIdx k⟩, [.lost m])
      | _, _ => none

def machine (μ ρ : Type) (keeps : Bool) : Machine (Process μ) (Act μ ρ) (Sign μ ρ) where
  init := fun p => p = new
  step := step keeps

inductive Moves (keeps : Bool) (p : Process μ) : Act μ ρ → List (Sign μ ρ) → Process μ → Prop where
  | install (here : p.status = .absent) : Moves keeps p .install [.installed] ⟨.idle, p.mail⟩
  | arrive (m : μ) (born : p.status ≠ .absent) : Moves keeps p (.arrive m) [.accepted m] ⟨p.status, p.mail ++ [m]⟩
  | take (m : μ) (rest : List μ) (here : p.status = .idle) (mail : p.mail = m :: rest) :
      Moves keeps p .take [.handling m] ⟨.busy m, rest⟩
  | finish (m : μ) (r : ρ) (here : p.status = .busy m) : Moves keeps p (.finish r) [.handled m r] ⟨.idle, p.mail⟩
  | panic (m : μ) (here : p.status = .busy m) :
      Moves keeps p .panic [.panicked m] ⟨if keeps then .idle else .failed, p.mail⟩
  | leave (here : p.status = .idle ∨ p.status = .failed) : Moves keeps p .leave [.leaving] ⟨.leaving, p.mail⟩
  | exit (clean : Bool) (here : p.status = .leaving) : Moves keeps p (.exit clean) [.left clean] ⟨.dead, p.mail⟩
  | abandon (here : p.status = .idle) : Moves keeps p .abandon [] ⟨.dead, p.mail⟩
  | lose (k : Nat) (m : μ) (here : p.status = .dead) (found : p.mail[k]? = some m) :
      Moves keeps p (.lose k) [.lost m] ⟨.dead, p.mail.eraseIdx k⟩

theorem step_moves (keeps : Bool) (p next : Process μ) (act : Act μ ρ) (signs : List (Sign μ ρ))
    (taken : step keeps p act = some (next, signs)) : Moves keeps p act signs next := by
  cases act with
  | install =>
      simp only [step] at taken
      split at taken
      · rename_i here
        cases taken
        exact .install here
      · cases taken
  | arrive m =>
      simp only [step] at taken
      split at taken
      · cases taken
      · rename_i born
        cases taken
        exact .arrive m born
  | take =>
      simp only [step] at taken
      split at taken
      · rename_i m rest here mail
        cases taken
        exact .take m rest here mail
      · cases taken
  | finish r =>
      simp only [step] at taken
      split at taken
      · rename_i m here
        cases taken
        exact .finish m r here
      · cases taken
  | panic =>
      simp only [step] at taken
      split at taken
      · rename_i m here
        cases taken
        exact .panic m here
      · cases taken
  | leave =>
      simp only [step] at taken
      split at taken
      · rename_i here
        cases taken
        exact .leave (Or.inl here)
      · rename_i here
        cases taken
        exact .leave (Or.inr here)
      · cases taken
  | exit clean =>
      simp only [step] at taken
      split at taken
      · rename_i here
        cases taken
        exact .exit clean here
      · cases taken
  | abandon =>
      simp only [step] at taken
      split at taken
      · rename_i here
        cases taken
        exact .abandon here
      · cases taken
  | lose k =>
      simp only [step] at taken
      split at taken
      · rename_i m here found
        cases taken
        exact .lose k m here found
      · cases taken

theorem step_arrive (keeps : Bool) (p : Process μ) (m : μ) (born : p.status ≠ .absent) :
    step keeps p (.arrive m : Act μ ρ) = some (⟨p.status, p.mail ++ [m]⟩, [.accepted m]) := by
  simp only [step]

namespace Sign

def accepts : Sign μ ρ → Option μ
  | .accepted m => some m
  | _ => none

def begins : Sign μ ρ → Option μ
  | .handling m => some m
  | _ => none

def finishes : Sign μ ρ → Option μ
  | .handled m _ => some m
  | .panicked m => some m
  | _ => none

def loses : Sign μ ρ → Option μ
  | .lost m => some m
  | _ => none

def leaves : Sign μ ρ → Bool
  | .leaving => true
  | _ => false

end Sign

abbrev Signs (μ ρ : Type) := List (Sign μ ρ)

namespace Signs

def accepted (log : Signs μ ρ) : List μ := log.filterMap Sign.accepts
def begun (log : Signs μ ρ) : List μ := log.filterMap Sign.begins
def finished (log : Signs μ ρ) : List μ := log.filterMap Sign.finishes
def lost (log : Signs μ ρ) : List μ := log.filterMap Sign.loses

@[simp] theorem accepted_append (a b : Signs μ ρ) : accepted (a ++ b) = a.accepted ++ accepted b := List.filterMap_append
@[simp] theorem begun_append (a b : Signs μ ρ) : begun (a ++ b) = a.begun ++ begun b := List.filterMap_append
@[simp] theorem finished_append (a b : Signs μ ρ) : finished (a ++ b) = a.finished ++ finished b := List.filterMap_append
@[simp] theorem lost_append (a b : Signs μ ρ) : lost (a ++ b) = a.lost ++ lost b := List.filterMap_append

end Signs

@[simp] def Status.current : Status μ → List μ
  | .busy m => [m]
  | _ => []

-- Where the mail of a process is. The process has lost none while it lives,
-- and what it took up is what came first.
structure Accounted (log : Signs μ ρ) (p : Process μ) : Prop where
  order : p.status ≠ .dead → log.accepted = log.finished ++ p.status.current ++ p.mail
  every : log.accepted.Perm (log.finished ++ log.lost ++ p.status.current ++ p.mail)
  begun : log.begun = log.finished ++ p.status.current
  front : log.begun <+: log.accepted
  kept : p.status ≠ .dead → log.lost = []

theorem accounted_new : Accounted ([] : Signs μ ρ) new where
  order := fun _ => rfl
  every := List.Perm.nil
  begun := rfl
  front := List.prefix_refl _
  kept := fun _ => rfl

-- A living process moves its mail on and loses none of it.
theorem accounted_alive (log signs : Signs μ ρ) (p next : Process μ) (acc : Accounted log p) (alive : p.status ≠ .dead)
    (arr beg fin : List μ) (arrives : signs.accepted = arr) (begins : signs.begun = beg) (finishes : signs.finished = fin)
    (kept : signs.lost = []) (mail : p.status.current ++ p.mail ++ arr = fin ++ next.status.current ++ next.mail)
    (begun : p.status.current ++ beg = fin ++ next.status.current) : Accounted (log ++ signs) next := by
  subst arrives begins finishes
  have order : (log ++ signs).accepted = (log ++ signs).finished ++ next.status.current ++ next.mail := by
    rw [Signs.accepted_append, Signs.finished_append, acc.order alive]
    simp only [List.append_assoc] at mail ⊢
    rw [mail]
  have nothing : (log ++ signs).lost = [] := by rw [Signs.lost_append, acc.kept alive, kept, List.append_nil]
  have taken : (log ++ signs).begun = (log ++ signs).finished ++ next.status.current := by
    rw [Signs.begun_append, Signs.finished_append, acc.begun]
    simp only [List.append_assoc] at begun ⊢
    rw [begun]
  refine ⟨fun _ => order, ?_, taken, ?_, fun _ => nothing⟩
  · rw [order, nothing, List.append_nil]
  · rw [order, taken]
    exact List.prefix_append _ _

-- A dead one receives and loses mail.
theorem accounted_dead (log signs : Signs μ ρ) (p next : Process μ) (acc : Accounted log p) (dead : p.status = .dead)
    (still : next.status = .dead) (arr gone : List μ) (arrives : signs.accepted = arr) (loses : signs.lost = gone)
    (begun : signs.begun = []) (finished : signs.finished = []) (mail : (p.mail ++ arr).Perm (gone ++ next.mail)) :
    Accounted (log ++ signs) next := by
  subst arrives loses
  have every := acc.every
  have taken := acc.begun
  rw [dead] at every taken
  simp only [Status.current, List.append_nil] at every taken
  refine ⟨fun alive => absurd still alive, ?_, ?_, ?_, fun alive => absurd still alive⟩
  · rw [Signs.accepted_append, Signs.finished_append, Signs.lost_append, finished, still]
    simp only [Status.current, List.append_nil]
    have old := every.append_right signs.accepted
    have new := mail.append_left (log.finished ++ log.lost)
    simp only [List.append_assoc] at old new ⊢
    exact old.trans new
  · rw [Signs.begun_append, Signs.finished_append, begun, finished, still, taken]
    simp
  · rw [Signs.begun_append, Signs.accepted_append, begun, List.append_nil]
    exact acc.front.trans (List.prefix_append _ _)

theorem accounted_step (keeps : Bool) (log signs : Signs μ ρ) (p next : Process μ) (act : Act μ ρ) (acc : Accounted log p)
    (moves : Moves keeps p act signs next) : Accounted (log ++ signs) next := by
  cases moves with
  | install here =>
      exact accounted_alive log _ p _ acc (by simp [here]) [] [] [] rfl rfl rfl rfl (by simp [here])
        (by simp [here])
  | arrive m born =>
      by_cases dead : p.status = .dead
      · exact accounted_dead log _ p _ acc dead dead [m] [] rfl rfl rfl rfl (List.Perm.refl _)
      · exact accounted_alive log _ p _ acc dead [m] [] [] rfl rfl rfl rfl (by simp) (by simp)
  | take m rest here mail =>
      exact accounted_alive log _ p _ acc (by simp [here]) [] [m] [] rfl rfl rfl rfl (by simp [here, mail])
        (by simp [here])
  | finish m r here =>
      exact accounted_alive log _ p _ acc (by simp [here]) [] [] [m] rfl rfl rfl rfl (by simp [here])
        (by simp [here])
  | panic m here =>
      refine accounted_alive log _ p _ acc (by simp [here]) [] [] [m] rfl rfl rfl rfl ?_ ?_
      · cases keeps <;> simp [here]
      · cases keeps <;> simp [here]
  | leave here =>
      rcases here with idle | failed
      · exact accounted_alive log _ p _ acc (by simp [idle]) [] [] [] rfl rfl rfl rfl (by simp [idle]) (by simp [idle])
      · exact accounted_alive log _ p _ acc (by simp [failed]) [] [] [] rfl rfl rfl rfl (by simp [failed]) (by simp [failed])
  | exit clean here =>
      exact accounted_alive log _ p _ acc (by simp [here]) [] [] [] rfl rfl rfl rfl (by simp [here])
        (by simp [here])
  | abandon here =>
      exact accounted_alive log _ p _ acc (by simp [here]) [] [] [] rfl rfl rfl rfl (by simp [here])
        (by simp [here])
  | lose k m here found =>
      obtain ⟨bound, value⟩ := List.getElem?_eq_some_iff.mp found
      have taken := List.getElem_cons_eraseIdx_perm bound
      rw [value] at taken
      exact accounted_dead log _ p _ acc here rfl [] [m] rfl rfl rfl rfl (by simpa using taken.symm)

theorem reach_accounted (keeps : Bool) (log : Signs μ ρ) (p : Process μ)
    (reached : (machine μ ρ keeps).Reach Machine.free log p) : Accounted log p :=
  Machine.reach_invariant (machine μ ρ keeps) Machine.free Accounted
    (fun s start => by rw [start]; exact accounted_new)
    (fun log s act next signs _ acc _ taken =>
      accounted_step keeps log signs s next act acc (step_moves keeps s next act signs taken)) log p reached

-- A dead process can lose any stretch of its mail.
theorem runs_lose (keeps : Bool) (log : Signs μ ρ) (front gone rest : List μ) :
    (machine μ ρ keeps).Runs Machine.free log ⟨.dead, front ++ gone ++ rest⟩ (log ++ gone.map .lost)
      ⟨.dead, front ++ rest⟩ := by
  induction gone generalizing log with
  | nil => simpa using Machine.Runs.refl
  | cons m gone ih =>
      have taken : (machine μ ρ keeps).step ⟨.dead, front ++ (m :: gone) ++ rest⟩ (.lose front.length) =
          some (⟨.dead, front ++ gone ++ rest⟩, [.lost m]) := by
        simp [machine, step, List.eraseIdx_append_of_length_le]
      have first := Machine.runs_one (machine μ ρ keeps) Machine.free log [.lost m] _ _ _ trivial taken
      have others := ih (log ++ [.lost m])
      rw [List.append_assoc log, List.singleton_append] at others
      exact Machine.runs_trans _ _ _ _ _ _ _ _ first others

-- A process that has begun to leave is past all its messages.
theorem reach_left (keeps : Bool) (log : Signs μ ρ) (p : Process μ)
    (reached : (machine μ ρ keeps).Reach Machine.free log p) (left : .leaving ∈ log) :
    p.status = .leaving ∨ p.status = .dead := by
  refine Machine.reach_invariant (machine μ ρ keeps) Machine.free
    (fun log p => .leaving ∈ log → p.status = .leaving ∨ p.status = .dead) (by simp) ?_ log p reached left
  intro log p act next signs _ past _ taken member
  have before (quiet : .leaving ∉ signs) : p.status = .leaving ∨ p.status = .dead := by
    rcases List.mem_append.mp member with old | new
    · exact past old
    · exact absurd new quiet
  cases step_moves keeps p next act signs taken with
  | install here => simpa [here] using before (by simp)
  | arrive m born => exact before (by simp)
  | take m rest here mail => simpa [here] using before (by simp)
  | finish m r here => simpa [here] using before (by simp)
  | panic m here => simpa [here] using before (by simp)
  | leave here => exact Or.inl rfl
  | exit clean here => exact Or.inr rfl
  | abandon here => exact Or.inr rfl
  | lose k m here found => exact Or.inr rfl

theorem leaving_last (keeps : Bool) (log : Signs μ ρ) (p : Process μ) (before after : Signs μ ρ)
    (reached : (machine μ ρ keeps).Reach Machine.free log p) (split : log = before ++ .leaving :: after) :
    after.begun = [] ∧ .leaving ∉ after := by
  induction reached generalizing after with
  | init p start => simp at split
  | step log p next act signs reached allowed taken ih =>
      rcases List.eq_nil_or_concat after with rfl | ⟨early, last, rfl⟩
      · simp [Signs.begun]
      · have peel (x : Sign μ ρ) (one : signs = [x]) :
            (Signs.begun early = [] ∧ .leaving ∉ early) ∧ last = x ∧ (p.status = .leaving ∨ p.status = .dead) := by
          rw [one, List.concat_eq_append, ← List.cons_append, ← List.append_assoc] at split
          obtain ⟨same, lasts⟩ := List.append_inj' split rfl
          exact ⟨ih early same, (List.singleton_inj.mp lasts).symm,
            reach_left keeps log p reached (by rw [same]; simp)⟩
        rw [List.concat_eq_append, Signs.begun_append, List.mem_append]
        cases step_moves keeps p next act signs taken with
        | abandon here =>
            rw [List.append_nil] at split
            have whole := ih (early.concat last) split
            rwa [List.concat_eq_append, Signs.begun_append, List.mem_append] at whole
        | take m rest here mail => simpa [here] using (peel _ rfl).2.2
        | leave here =>
            have past := (peel _ rfl).2.2
            rcases here with here | here <;> simp [here] at past
        | _ =>
            obtain ⟨⟨begun, leaving⟩, rfl, _⟩ := peel _ rfl
            rw [begun]
            exact ⟨rfl, by simpa using leaving⟩

-- Nothing is seen of a process before it is installed.
theorem absent_silent (keeps : Bool) (log : Signs μ ρ) (p : Process μ)
    (reached : (machine μ ρ keeps).Reach Machine.free log p) (absent : p.status = .absent) : log = [] ∧ p.mail = [] := by
  refine Machine.reach_invariant (machine μ ρ keeps) Machine.free
    (fun log p => p.status = .absent → log = [] ∧ p.mail = []) ?_ ?_ log p reached absent
  · intro p start _
    rw [start]
    exact ⟨rfl, rfl⟩
  · intro log p act next signs _ _ _ taken still
    cases step_moves keeps p next act signs taken with
    | arrive m born => exact absurd still born
    | panic m here => cases keeps <;> cases still
    | _ => cases still

end Process
