import KeyCollective.Lib.Transition
import Mathlib.Algebra.BigOperators.Group.List.Basic

/-!
# Interleaved processes

Processes that share a state and advance one atomic statement at a time, in the order a
schedule gives. A schedule names processes by their position; one that does not exist, or
has finished, changes nothing.
-/

namespace Interleaving

variable {S P M : Type}

structure System (S P : Type) where
  shared : S
  processes : List P

/-- The named process advances by one statement. -/
def step (advance : S → P → S × P) (sys : System S P) (i : Nat) : System S P :=
  match sys.processes[i]? with
  | some p => ⟨(advance sys.shared p).1, sys.processes.set i (advance sys.shared p).2⟩
  | none => sys

variable {advance : S → P → S × P} {sys : System S P} {i : Nat} {p q : P}

theorem step_none (absent : sys.processes[i]? = none) : step advance sys i = sys := by
  rw [step, absent]

theorem step_some (present : sys.processes[i]? = some p) :
    step advance sys i =
      ⟨(advance sys.shared p).1, sys.processes.set i (advance sys.shared p).2⟩ := by
  rw [step, present]

/-- A property that a process keeps for itself is kept by all. -/
theorem forall_step {Q : P → Prop} (all : ∀ p ∈ sys.processes, Q p)
    (keep : ∀ p, sys.processes[i]? = some p → Q p → Q (advance sys.shared p).2) :
    ∀ p ∈ (step advance sys i).processes, Q p := by
  cases present : sys.processes[i]? with
  | none => rwa [step_none present]
  | some p =>
    rw [step_some present]
    intro q mem
    rcases List.mem_or_eq_of_mem_set mem with mem | rfl
    · exact all q mem
    · exact keep p present (all p (List.mem_of_getElem? present))

/-- A symmetric relation of all processes that the advancing one keeps to the others. -/
theorem pairwise_step {R : P → P → Prop} (symmetric : ∀ p q, R p q → R q p)
    (all : sys.processes.Pairwise R)
    (keep : ∀ p, sys.processes[i]? = some p → ∀ j q, j ≠ i → sys.processes[j]? = some q →
      R p q → R (advance sys.shared p).2 q) :
    (step advance sys i).processes.Pairwise R := by
  cases present : sys.processes[i]? with
  | none => rwa [step_none present]
  | some p =>
    rw [step_some present]
    rw [List.pairwise_iff_getElem] at all ⊢
    have here : ∃ bound : i < sys.processes.length, sys.processes[i] = p :=
      List.getElem?_eq_some_iff.mp present
    intro j k jBound kBound less
    rw [List.length_set] at jBound kBound
    have related := all j k jBound kBound less
    rw [List.getElem_set, List.getElem_set]
    by_cases first : i = j
    · subst first
      rw [if_pos rfl, if_neg (by omega)]
      rw [here.2] at related
      exact keep p present k _ (by omega) (List.getElem?_eq_getElem kBound) related
    · rw [if_neg first]
      by_cases second : i = k
      · subst second
        rw [if_pos rfl]
        rw [here.2] at related
        exact symmetric _ _ (keep p present j _ (by omega) (List.getElem?_eq_getElem jBound)
          (symmetric _ _ related))
      · rw [if_neg second]
        exact related

/-- Replacing a process changes a sum by what the new one has over the old one. -/
theorem sum_set [AddCommMonoid M] (f : P → M) {processes : List P}
    (present : processes[i]? = some p) :
    ((processes.set i q).map f).sum + f p = (processes.map f).sum + f q := by
  induction processes generalizing i with
  | nil => cases present
  | cons first rest ih =>
    cases i with
    | zero =>
      cases present
      simp only [List.set_cons_zero, List.map_cons, List.sum_cons]
      rw [add_right_comm, add_comm (f q), add_assoc, add_comm (f q), ← add_assoc]
    | succ i => simp only [List.set_cons_succ, List.map_cons, List.sum_cons, add_assoc, ih present]

/-- What a process never changes stays the same for the list. -/
theorem map_step {A : Type} (f : P → A) (same : ∀ s p, f (advance s p).2 = f p) :
    (step advance sys i).processes.map f = sys.processes.map f := by
  cases present : sys.processes[i]? with
  | none => rw [step_none present]
  | some p =>
    rw [step_some present, List.map_set, same]
    apply List.ext_getElem?
    intro j
    rw [List.getElem?_set]
    split
    case isTrue here =>
      subst here
      rw [List.getElem?_map, present]
      have bound := (List.getElem?_eq_some_iff.mp present).1
      rw [if_pos (by simpa using bound)]
      rfl
    case isFalse => rfl

/-- The processes of two systems, in pairs. -/
theorem getElem?_forall₂ {Q : Type} {R : P → Q → Prop} {ps : List P} {qs : List Q}
    (pairs : List.Forall₂ R ps qs) (i : Nat) :
    (ps[i]? = none ∧ qs[i]? = none) ∨ ∃ p q, ps[i]? = some p ∧ qs[i]? = some q ∧ R p q := by
  induction pairs generalizing i with
  | nil => exact Or.inl ⟨rfl, rfl⟩
  | @cons p q _ _ related _ ih =>
    cases i with
    | zero => exact Or.inr ⟨p, q, rfl, rfl, related⟩
    | succ i => exact ih i

theorem forall₂_set {Q : Type} {R : P → Q → Prop} {ps : List P} {qs : List Q} {q : Q}
    (pairs : List.Forall₂ R ps qs) (i : Nat) (related : R p q) :
    List.Forall₂ R (ps.set i p) (qs.set i q) := by
  induction pairs generalizing i with
  | nil => exact .nil
  | cons first rest ih =>
    cases i with
    | zero => exact .cons related rest
    | succ i => exact .cons first (ih i)

def run (advance : S → P → S × P) (sys : System S P) (schedule : List Nat) : System S P :=
  schedule.foldl (step advance) sys

/-- What the state and every process keep when one process advances is kept by every run. -/
theorem run_keeps {Shared : S → Prop} {Own : P → Prop} (shared : Shared sys.shared)
    (own : ∀ p ∈ sys.processes, Own p)
    (keep : ∀ s p, Shared s → Own p → Shared (advance s p).1 ∧ Own (advance s p).2)
    (schedule : List Nat) :
    Shared (run advance sys schedule).shared ∧ ∀ p ∈ (run advance sys schedule).processes, Own p := by
  induction schedule generalizing sys with
  | nil => exact ⟨shared, own⟩
  | cons i rest ih =>
    apply ih
    · cases present : sys.processes[i]? with
      | none => rwa [step_none present]
      | some p =>
        rw [step_some present]
        exact (keep _ p shared (own p (List.mem_of_getElem? present))).1
    · exact forall_step own fun p _ kept => (keep _ p shared kept).2

/-! ## Runs in time -/

/-- Time passes, or a process advances. -/
inductive Event where
  | tick (ms : Nat)
  | resume (process : Nat)
deriving DecidableEq

/-- An event, where `later` is what the passing of time makes of the state. -/
def stepEvent (advance : S → P → S × P) (later : Nat → S → S) (sys : System S P) :
    Event → System S P
  | .tick ms => { sys with shared := later ms sys.shared }
  | .resume i => step advance sys i

def runEvents (advance : S → P → S × P) (later : Nat → S → S) (sys : System S P)
    (schedule : List Event) : System S P :=
  schedule.foldl (stepEvent advance later) sys

/-- What the state and every process keep over a statement, and the state as time passes, is kept
by every run. -/
theorem runEvents_keeps (later : Nat → S → S) (Shared : S → Prop) (Own : P → Prop)
    (shared : Shared sys.shared) (own : ∀ p ∈ sys.processes, Own p)
    (tick : ∀ ms s, Shared s → Shared (later ms s))
    (keep : ∀ s p, Shared s → Own p → Shared (advance s p).1 ∧ Own (advance s p).2)
    (schedule : List Event) :
    Shared (runEvents advance later sys schedule).shared ∧
      ∀ p ∈ (runEvents advance later sys schedule).processes, Own p := by
  induction schedule generalizing sys with
  | nil => exact ⟨shared, own⟩
  | cons event rest ih =>
    cases event with
    | tick ms => exact ih (tick ms _ shared) own
    | resume i =>
      obtain ⟨kept, owned⟩ := run_keeps shared own keep [i]
      exact ih kept owned

end Interleaving
