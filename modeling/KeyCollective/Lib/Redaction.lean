import Mathlib.Data.List.Basic
import Mathlib.Tactic.Common

/-!
# Replacing every match

A text is scanned from its start; a match is replaced by a mark and the scan goes on behind
it. Elements that no match contains are foreign. A mark that starts and ends with one brings no
new match about, and a text can be cut at one.
-/

namespace Redaction

variable {α : Type}

/-- How long the match at a place is: behind which element, and before which text. None is 0. -/
structure Pattern (α : Type) where
  span : Option α → List α → Nat
  span_le : ∀ before text, span before text ≤ text.length

/-- The element before what follows the elements taken. -/
def behind (before : Option α) (taken : List α) : Option α := taken.foldl (fun _ c => some c) before

theorem behind_snoc (before : Option α) (taken : List α) (c : α) :
    behind before (taken ++ [c]) = some c := by
  simp [behind]

theorem behind_append (before : Option α) (taken more : List α) :
    behind before (taken ++ more) = behind (behind before taken) more :=
  List.foldl_append

variable (p q : Pattern α) (mark : List α)

/-- The text with its matches replaced. So many elements are left of the match before. -/
def replaceFrom : Nat → Option α → List α → List α
  | _, _, [] => []
  | skipped + 1, _, c :: rest => replaceFrom skipped (some c) rest
  | 0, before, c :: rest =>
    match p.span before (c :: rest) with
    | 0 => c :: replaceFrom 0 (some c) rest
    | more + 1 => mark ++ replaceFrom more (some c) rest

def replaceAll (text : List α) : List α := replaceFrom p mark 0 none text

/-- No place of the text has a match. -/
def Absent : Option α → List α → Prop
  | _, [] => True
  | before, c :: rest => p.span before (c :: rest) = 0 ∧ Absent (some c) rest

instance : (before : Option α) → (text : List α) → Decidable (Absent p before text)
  | _, [] => isTrue trivial
  | before, c :: rest =>
    have := instDecidableAbsent (some c) rest
    inferInstanceAs (Decidable (p.span before (c :: rest) = 0 ∧ Absent p (some c) rest))

theorem span_nil (before : Option α) : p.span before [] = 0 :=
  Nat.le_zero.mp (p.span_le before [])

theorem replaceFrom_skip (skipped : Nat) (before : Option α) (text : List α) :
    replaceFrom p mark skipped before text =
      replaceFrom p mark 0 (behind before (text.take skipped)) (text.drop skipped) := by
  induction skipped generalizing before text with
  | zero => rfl
  | succ skipped ih =>
    cases text with
    | nil => rfl
    | cons c rest => exact ih (some c) rest

section

variable {p q}

theorem replaceFrom_bare {before : Option α} {c : α} {rest : List α}
    (bare : p.span before (c :: rest) = 0) :
    replaceFrom p mark 0 before (c :: rest) = c :: replaceFrom p mark 0 (some c) rest := by
  rw [replaceFrom, bare]

theorem replaceFrom_match {before : Option α} {c : α} {rest : List α} {more : Nat}
    (found : p.span before (c :: rest) = more + 1) :
    replaceFrom p mark 0 before (c :: rest) =
      mark ++ replaceFrom p mark 0 (behind (some c) (rest.take more)) (rest.drop more) := by
  rw [replaceFrom, found, ← replaceFrom_skip]

theorem Absent.append {before : Option α} {taken left : List α}
    (absent : Absent p before (taken ++ left)) : Absent p (behind before taken) left := by
  induction taken generalizing before with
  | nil => exact absent
  | cons c rest ih => exact ih absent.2

theorem Absent.span {before : Option α} {taken left : List α}
    (absent : Absent p before (taken ++ left)) : p.span (behind before taken) left = 0 := by
  cases left with
  | nil => exact span_nil p _
  | cons c rest => exact absent.append.1

end

/-- Where there is no match nothing is replaced. -/
theorem Absent.replaceFrom {before : Option α} {text : List α} (absent : Absent p before text) :
    replaceFrom p mark 0 before text = text := by
  induction text generalizing before with
  | nil => rfl
  | cons c rest ih => rw [replaceFrom_bare mark absent.1, ih absent.2]

/-! ## What replacing one pattern does to another -/

/-- Matches of `p` and the places where `q` is replaced. Neither an element no match contains
nor a match of `q` hides a match of `p` that stood before it. -/
structure Kept (foreign : α → Prop) : Prop where
  closed : ∀ before u {c} v, foreign c → p.span before (u ++ c :: v) = p.span before u
  opened : ∀ {c text}, foreign c → p.span (some c) text = p.span none text
  joined : ∀ {before u v}, p.span before u ≠ 0 → q.span (behind before u) v ≠ 0 →
    p.span before (u ++ v) ≠ 0
  after : ∀ {before m text}, q.span before (m ++ text) = m.length → m ≠ [] →
    p.span none text ≠ 0 → p.span (behind before m) text ≠ 0

/-- A mark that has no match in it and shows none beside it. -/
structure IsMark (foreign : α → Prop) (first : α) (middle : List α) (last : α) : Prop where
  opens : foreign first
  closes : foreign last
  absent : Absent p (some first) middle

section

variable {p q} {foreign : α → Prop} {first last : α} {middle : List α}

theorem Kept.absent_closed (kept : Kept p q foreign) {before : Option α} {u v : List α} {c : α}
    (other : foreign c) (absent : Absent p before u) (later : Absent p (some c) v) :
    Absent p before (u ++ c :: v) := by
  induction u generalizing before with
  | nil =>
    have bare := kept.closed before [] v other
    exact ⟨bare.trans (span_nil p before), later⟩
  | cons d rest ih =>
    have same := kept.closed before (d :: rest) v other
    exact ⟨same.trans absent.1, ih absent.2⟩

theorem Kept.absent_mark (kept : Kept p q foreign) (marks : IsMark p foreign first middle last)
    {before : Option α} {left : List α} (later : Absent p (some last) left) :
    Absent p before ((first :: middle ++ [last]) ++ left) := by
  have inner := kept.absent_closed marks.closes marks.absent later
  have whole : Absent p before ([] ++ first :: (middle ++ last :: left)) :=
    kept.absent_closed marks.opens trivial inner
  simpa using whole

/-- What matches in the text that results has matched in the text it results from. -/
theorem Kept.grown (kept : Kept p q foreign) (marks : IsMark p foreign first middle last)
    (start : Option α) (u text : List α)
    (found : p.span start
      (u ++ replaceFrom q (first :: middle ++ [last]) 0 (behind start u) text) ≠ 0) :
    p.span start (u ++ text) ≠ 0 := by
  induction text generalizing u with
  | nil => exact found
  | cons c rest ih =>
    cases spans : q.span (behind start u) (c :: rest) with
    | zero =>
      rw [replaceFrom_bare _ spans, ← List.singleton_append, ← List.append_assoc] at found
      rw [← List.singleton_append, ← List.append_assoc]
      apply ih
      rwa [behind_snoc]
    | succ more =>
      rw [replaceFrom_match _ spans, List.append_assoc, List.cons_append,
        kept.closed start u _ marks.opens] at found
      exact kept.joined found (by rw [spans]; exact Nat.succ_ne_zero more)

/-- A pattern is absent from the text that results when it has no match where the text is
left as it was. -/
theorem Kept.absent (kept : Kept p q foreign) (marks : IsMark p foreign first middle last)
    {before start : Option α} {text : List α}
    (starts : p.span start text ≠ 0 → p.span before text ≠ 0)
    (bare : ∀ taken left, text = taken ++ left → q.span (behind before taken) left = 0 →
      p.span (behind before taken) left = 0) :
    Absent p start (replaceFrom q (first :: middle ++ [last]) 0 before text) := by
  induction length : text.length using Nat.strongRecOn generalizing text before start with
  | _ n ih =>
    cases text with
    | nil => trivial
    | cons c rest =>
      cases spans : q.span before (c :: rest) with
      | zero =>
        rw [replaceFrom_bare _ spans]
        refine ⟨?_, ?_⟩
        · by_contra found
          have earlier := kept.grown marks start [c] rest found
          exact starts earlier (bare [] _ rfl spans)
        · refine ih rest.length (by simp [← length]) id ?_ rfl
          intro taken left cut unmatched
          exact bare (c :: taken) left (by rw [cut]; rfl) unmatched
      | succ more =>
        rw [replaceFrom_match _ spans]
        have whole : more + 1 ≤ rest.length + 1 := spans ▸ q.span_le before (c :: rest)
        have split : c :: rest = (c :: rest.take more) ++ rest.drop more := by
          rw [List.cons_append, List.take_append_drop]
        have matched : q.span before ((c :: rest.take more) ++ rest.drop more) =
            (c :: rest.take more).length := by
          rw [← split, spans, List.length_cons, List.length_take_of_le (by omega)]
        apply kept.absent_mark marks
        have shorter : (rest.drop more).length < n := by
          simp only [List.length_drop, ← length, List.length_cons]
          omega
        refine ih (rest.drop more).length shorter ?_ ?_ rfl
        · intro found
          rw [kept.opened marks.closes] at found
          have later := kept.after matched (List.cons_ne_nil _ _) found
          exact later
        · intro taken left cut unmatched
          have place := bare ((c :: rest.take more) ++ taken) left
            (by rw [List.append_assoc, ← cut, ← split])
          rw [behind_append] at place
          exact place unmatched

/-- A pattern is absent after its matches were replaced. -/
theorem Kept.absent_replaceAll (kept : Kept p p foreign)
    (marks : IsMark p foreign first middle last) (text : List α) :
    Absent p none (replaceAll p (first :: middle ++ [last]) text) :=
  kept.absent marks id fun _ _ _ unmatched => unmatched

/-- A pattern that is absent stays so when another is replaced. -/
theorem Kept.absent_later (kept : Kept p q foreign)
    (marks : IsMark p foreign first middle last) {text : List α} (absent : Absent p none text) :
    Absent p none (replaceAll q (first :: middle ++ [last]) text) := by
  refine kept.absent marks id ?_
  intro taken left cut _
  rw [cut] at absent
  exact absent.span

/-! ## Cuts -/

theorem Kept.replaceFrom_opened (kept : Kept p p foreign) {c : α} (other : foreign c)
    (text : List α) : replaceFrom p mark 0 (some c) text = replaceFrom p mark 0 none text := by
  cases text with
  | nil => rfl
  | cons d rest => rw [replaceFrom, replaceFrom, kept.opened other]

/-- The two sides of an element no match contains are replaced each by itself. -/
theorem Kept.replaceFrom_cut (kept : Kept p p foreign) {c : α} (other : foreign c)
    {skipped : Nat} {before : Option α} {u : List α} (inside : skipped ≤ u.length) (v : List α) :
    replaceFrom p mark skipped before (u ++ c :: v) =
      replaceFrom p mark skipped before u ++ c :: replaceAll p mark v := by
  induction u generalizing skipped before with
  | nil =>
    obtain rfl : skipped = 0 := Nat.le_zero.mp inside
    have bare := kept.closed before [] v other
    rw [List.nil_append, replaceFrom_bare mark (bare.trans (span_nil p before)),
      kept.replaceFrom_opened mark other]
    rfl
  | cons d rest ih =>
    cases skipped with
    | succ skipped => exact ih (Nat.le_of_succ_le_succ inside)
    | zero =>
      have same := kept.closed before (d :: rest) v other
      have fits := p.span_le before (d :: rest)
      rw [List.cons_append] at same
      rw [List.cons_append, replaceFrom, replaceFrom, same]
      cases spans : p.span before (d :: rest) with
      | zero =>
        change _ = d :: replaceFrom p mark 0 (some d) rest ++ _
        rw [List.cons_append, ← ih (Nat.zero_le _)]
      | succ more =>
        rw [spans, List.length_cons] at fits
        change _ = mark ++ replaceFrom p mark more (some d) rest ++ _
        rw [List.append_assoc, ← ih (Nat.le_of_succ_le_succ fits)]

theorem Kept.replaceAll_cut (kept : Kept p p foreign) {c : α} (other : foreign c)
    (u v : List α) :
    replaceAll p mark (u ++ c :: v) = replaceAll p mark u ++ c :: replaceAll p mark v :=
  kept.replaceFrom_cut mark other (Nat.zero_le _) v

end

end Redaction
