import Mathlib.Algebra.BigOperators.Fin
import Mathlib.Data.Fintype.Prod

/-!
# Rejection sampling

A draw has a label or is rejected. Where every label is borne by equally many draws, every
sequence of labels of one length is begun by equally many sequences of draws, whatever is asked
of which of them are rejected.
-/

namespace Rejection

variable {β ι : Type} (label : β → Option ι)

/-- The labels of the draws that are not rejected. -/
def labels (draws : List β) : List ι := draws.filterMap label

/-- Which of the draws are kept. -/
def pattern (draws : List β) : List Bool := draws.map fun draw => (label draw).isSome

@[simp] theorem labels_nil : labels label [] = [] := rfl

theorem labels_rejected {draw : β} (rejected : label draw = none) (draws : List β) :
    labels label (draw :: draws) = labels label draws := by
  rw [labels, List.filterMap_cons, rejected]
  rfl

theorem labels_kept {draw : β} {i : ι} (kept : label draw = some i) (draws : List β) :
    labels label (draw :: draws) = i :: labels label draws := by
  rw [labels, List.filterMap_cons, kept]
  rfl

theorem length_labels (draws : List β) :
    (labels label draws).length = (pattern label draws).count true := by
  induction draws with
  | nil => rfl
  | cons draw rest ih =>
    cases kept : label draw with
    | none => simp [labels_rejected label kept, pattern, kept, ih]
    | some i => simp [labels_kept label kept, pattern, kept, ih]

section Counting

variable [Fintype β]

/-- How many sequences of so many draws are as asked. -/
def sequences (count : ℕ) (p : List β → Prop) [DecidablePred p] : ℕ :=
  (Finset.univ.filter fun draws : Fin count → β => p (List.ofFn draws)).card

theorem sequences_succ (count : ℕ) (p : List β → Prop) [DecidablePred p] :
    sequences (count + 1) p = ∑ draw : β, sequences count fun draws => p (draw :: draws) := by
  simp only [sequences, Finset.card_filter]
  rw [← Fintype.sum_equiv (Fin.consEquiv fun _ : Fin (count + 1) => β)
    (fun draws => if p (draws.1 :: List.ofFn draws.2) then 1 else 0) _ ?_, Fintype.sum_prod_type]
  rintro ⟨draw, draws⟩
  simp [Fin.consEquiv, List.ofFn_succ]

variable [DecidableEq ι]

/-- Every label is borne by equally many draws. -/
def Fair : Prop :=
  ∀ i j, (Finset.univ.filter fun draw => label draw = some i).card =
    (Finset.univ.filter fun draw => label draw = some j).card

/-- The sequences whose labels begin as given, among those whose pattern is as asked. -/
def beginning (count : ℕ) (q : List Bool → Prop) [DecidablePred q] (labelled : List ι) : ℕ :=
  sequences count fun draws => q (pattern label draws) ∧ labelled <+: labels label draws

variable {label}

/-- The first draw is rejected, or bears the first label. -/
theorem beginning_succ (count : ℕ) (q : List Bool → Prop) [DecidablePred q] (i : ι)
    (later : List ι) :
    beginning label (count + 1) q (i :: later) =
      (Finset.univ.filter fun draw => label draw = none).card *
          beginning label count (fun pattern => q (false :: pattern)) (i :: later) +
        (Finset.univ.filter fun draw => label draw = some i).card *
          beginning label count (fun pattern => q (true :: pattern)) later := by
  rw [beginning, sequences_succ, Finset.card_filter, Finset.card_filter, Finset.sum_mul,
    Finset.sum_mul, ← Finset.sum_add_distrib]
  refine Finset.sum_congr rfl fun draw _ => ?_
  cases kept : label draw with
  | none => simp [beginning, sequences, labels_rejected label kept, pattern, kept]
  | some j =>
    by_cases same : j = i
    · subst same
      simp [beginning, sequences, labels_kept label kept, pattern, kept]
    · have other : ¬i = j := fun eq => same eq.symm
      simp [sequences, labels_kept label kept, List.cons_prefix_cons, same, other]

/-- No sequence of labels is likelier than another. -/
theorem beginning_eq (fair : Fair label) (count : ℕ) (q : List Bool → Prop) [DecidablePred q]
    {first second : List ι} (same : first.length = second.length) :
    beginning label count q first = beginning label count q second := by
  induction count generalizing q first second with
  | zero =>
    cases first <;> cases second
    case nil.nil => rfl
    case cons.cons => simp [beginning, sequences]
    all_goals cases same
  | succ count ih =>
    cases first with
    | nil => rw [List.length_eq_zero_iff.mp same.symm]
    | cons i later =>
      cases second with
      | nil => cases same
      | cons j others =>
        rw [beginning_succ, beginning_succ, fair i j,
          ih (fun pattern => q (false :: pattern)) same,
          ih (fun pattern => q (true :: pattern)) (Nat.succ.inj same)]

end Counting

end Rejection
