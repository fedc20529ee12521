/-!
# Runs of a state machine

A deterministic machine is a step function. `reached` lists the states of a
run, the start included. A run is `Guarded` when every step meets a condition on
the state before it. An invariant the guarded steps keep holds in every state a
guarded run reaches. A relation that some steps do not affect holds between a run
and the same run without them.
-/

namespace Transition

variable {S A : Type}

/-- The states of the run of `ops` from `s`, in order. -/
def reached (step : S → A → S) (s : S) : List A → List S
  | [] => [s]
  | a :: rest => s :: reached step (step s a) rest

/-- Every step of the run meets `ok` in the state it starts from. -/
def Guarded (step : S → A → S) (ok : S → A → Prop) (s : S) : List A → Prop
  | [] => True
  | a :: rest => ok s a ∧ Guarded step ok (step s a) rest

instance Guarded.decidable (step : S → A → S) (ok : S → A → Prop) [∀ s a, Decidable (ok s a)]
    (s : S) : ∀ ops : List A, Decidable (Guarded step ok s ops)
  | [] => isTrue trivial
  | a :: rest =>
    have := Guarded.decidable step ok (step s a) rest
    inferInstanceAs (Decidable (_ ∧ _))

theorem invariant_of_guarded {step : S → A → S} {ok : S → A → Prop} {I : S → Prop}
    (keep : ∀ s a, I s → ok s a → I (step s a)) {s : S} (start : I s) {ops : List A}
    (run : Guarded step ok s ops) : ∀ t ∈ reached step s ops, I t := by
  induction ops generalizing s with
  | nil =>
    intro t ht
    rw [List.mem_singleton.mp ht]
    exact start
  | cons a rest ih =>
    intro t ht
    rcases List.mem_cons.mp ht with rfl | ht
    · exact start
    · exact ih (keep s a start run.1) run.2 t ht

theorem foldl_mem_reached (step : S → A → S) (s : S) (ops : List A) :
    ops.foldl step s ∈ reached step s ops := by
  induction ops generalizing s with
  | nil => exact List.mem_singleton.mpr rfl
  | cons a rest ih => exact List.mem_cons_of_mem _ (ih (step s a))

/-- The state a guarded run ends in satisfies the invariant. -/
theorem invariant_foldl {step : S → A → S} {ok : S → A → Prop} {I : S → Prop}
    (keep : ∀ s a, I s → ok s a → I (step s a)) {s : S} (start : I s) {ops : List A}
    (run : Guarded step ok s ops) : I (ops.foldl step s) :=
  invariant_of_guarded keep start run _ (foldl_mem_reached step s ops)

theorem Guarded.imp {step : S → A → S} {ok ok' : S → A → Prop}
    (weaken : ∀ s a, ok s a → ok' s a) {s : S} {ops : List A} (run : Guarded step ok s ops) :
    Guarded step ok' s ops := by
  induction ops generalizing s with
  | nil => trivial
  | cons a rest ih => exact ⟨weaken s a run.1, ih run.2⟩

/-- A condition every step meets guards every run. -/
theorem guarded_of_all {step : S → A → S} {ok : S → A → Prop} (h : ∀ s a, ok s a) (s : S)
    (ops : List A) : Guarded step ok s ops := by
  induction ops generalizing s with
  | nil => trivial
  | cons a rest ih => exact ⟨h s a, ih (step s a)⟩

/-- Two conditions that agree where an invariant of every step holds guard the same runs. -/
theorem guarded_congr {step : S → A → S} {ok ok' : S → A → Prop} {I : S → Prop}
    (keep : ∀ s a, I s → I (step s a)) (same : ∀ s a, I s → (ok s a ↔ ok' s a)) {s : S}
    (start : I s) (ops : List A) : Guarded step ok s ops ↔ Guarded step ok' s ops := by
  induction ops generalizing s with
  | nil => rfl
  | cons a rest ih => exact and_congr (same s a start) (ih (keep s a start))

/-- Where a step leads to a good state just when it meets the condition, a run stays in good
states just when it is guarded. -/
theorem guarded_iff_invariant {step : S → A → S} {ok : S → A → Prop} {I P : S → Prop}
    (keep : ∀ s a, I s → I (step s a)) (exact : ∀ s a, I s → P s → (ok s a ↔ P (step s a)))
    {s : S} (start : I s) (good : P s) (ops : List A) :
    Guarded step ok s ops ↔ ∀ t ∈ reached step s ops, P t := by
  induction ops generalizing s with
  | nil =>
    simp only [Guarded, reached, List.mem_singleton, forall_eq, true_iff]
    exact good
  | cons a rest ih =>
    simp only [Guarded, reached, List.mem_cons, forall_eq_or_imp, good, true_and]
    constructor
    · rintro ⟨met, run⟩
      exact (ih (keep s a start) ((exact s a start good).mp met)).mp run
    · intro all
      have next : P (step s a) := by
        cases rest with
        | nil => exact all _ (List.mem_singleton.mpr rfl)
        | cons b rest => exact all _ List.mem_cons_self
      exact ⟨(exact s a start good).mpr next, (ih (keep s a start) next).mpr all⟩

theorem guarded_append {step : S → A → S} {ok : S → A → Prop} {s : S} (earlier later : List A) :
    Guarded step ok s (earlier ++ later) ↔
      Guarded step ok s earlier ∧ Guarded step ok (earlier.foldl step s) later := by
  induction earlier generalizing s with
  | nil => exact ⟨fun run => ⟨trivial, run⟩, And.right⟩
  | cons a rest ih =>
    simp only [List.cons_append, Guarded, List.foldl_cons, ih, and_assoc]

/-- Steps a relation does not notice can be left out of a run. -/
theorem foldl_filter_related {step : S → A → S} {ok : S → A → Prop} {R : S → S → Prop}
    (silent : A → Bool)
    (alone : ∀ s t a, silent a = true → R s t → ok s a → R (step s a) t)
    (both : ∀ s t a, silent a = false → R s t → ok s a → R (step s a) (step t a))
    {s t : S} (start : R s t) {ops : List A} (run : Guarded step ok s ops) :
    R (ops.foldl step s) ((ops.filter fun a => !silent a).foldl step t) := by
  induction ops generalizing s t with
  | nil => exact start
  | cons a rest ih =>
    cases unnoticed : silent a with
    | true =>
      rw [List.filter_cons_of_neg (by simp [unnoticed])]
      exact ih (alone s t a unnoticed start run.1) run.2
    | false =>
      rw [List.filter_cons_of_pos (by simp [unnoticed])]
      exact ih (both s t a unnoticed start run.1) run.2

/-- Where each step of a system is a step of another between related states, or none, each run is
related to a run. -/
theorem foldl_simulated {T B : Type} {step : S → A → S} {step' : T → B → T} {R : S → T → Prop}
    (simulated : ∀ s t a, R s t → R (step s a) t ∨ ∃ b, R (step s a) (step' t b))
    {s : S} {t : T} (start : R s t) (ops : List A) :
    ∃ ops' : List B, R (ops.foldl step s) (ops'.foldl step' t) := by
  induction ops generalizing s t with
  | nil => exact ⟨[], start⟩
  | cons a rest ih =>
    rcases simulated s t a start with silent | ⟨b, matched⟩
    · exact ih silent
    · obtain ⟨ops', related⟩ := ih matched
      exact ⟨b :: ops', related⟩

end Transition
