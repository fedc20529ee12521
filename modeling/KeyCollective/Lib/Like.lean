import Mathlib.Data.List.Infix

/-!
# Patterns with wildcards

`%` stands for any text and `_` for one character; a character behind the escape stands for
itself. Which characters count as the same is a parameter.
-/

namespace Like

inductive Token where
  | any
  | one
  | char (c : Char)
deriving DecidableEq

/-- The tokens of a pattern. An escape that ends it escapes nothing. -/
def read (escape : Char) : List Char → Option (List Token)
  | [] => some []
  | c :: rest =>
    if c = escape then
      match rest with
      | [] => none
      | d :: rest => (read escape rest).map (Token.char d :: ·)
    else if c = '%' then (read escape rest).map (Token.any :: ·)
    else if c = '_' then (read escape rest).map (Token.one :: ·)
    else (read escape rest).map (Token.char c :: ·)

/-- The text with an escape before every character that would not stand for itself. -/
def quote (escape : Char) (text : List Char) : List Char :=
  text.flatMap fun c => if c = '%' ∨ c = '_' ∨ c = escape then [escape, c] else [c]

section Accepts

variable (same : Char → Char → Bool)

def accepts : List Token → List Char → Bool
  | [], text => text.isEmpty
  | .any :: tokens, text => text.tails.any (accepts tokens)
  | .one :: _, [] => false
  | .one :: tokens, _ :: text => accepts tokens text
  | .char _ :: _, [] => false
  | .char c :: tokens, d :: text => same c d && accepts tokens text

/-- The texts are the same, character by character. -/
def alike (literal part : List Char) : Prop := List.Forall₂ (same · · = true) literal part

variable {same}

theorem accepts_any (text : List Char) : accepts same [.any] text = true := by
  rw [accepts, List.any_eq_true]
  exact ⟨[], (List.mem_tails _ _).mpr List.nil_suffix, rfl⟩

theorem accepts_literal (literal : List Char) (tokens : List Token) (text : List Char) :
    accepts same (literal.map Token.char ++ tokens) text = true ↔
      ∃ part after, text = part ++ after ∧ alike same literal part ∧
        accepts same tokens after = true := by
  induction literal generalizing text with
  | nil =>
    constructor
    · intro accepted
      exact ⟨[], text, rfl, .nil, accepted⟩
    · rintro ⟨part, after, rfl, parts, accepted⟩
      cases parts
      exact accepted
  | cons c literal ih =>
    cases text with
    | nil =>
      simp only [List.map_cons, List.cons_append, accepts, Bool.false_eq_true, false_iff]
      rintro ⟨part, after, empty, parts, -⟩
      cases parts
      cases empty
    | cons d text =>
      rw [List.map_cons, List.cons_append, accepts, Bool.and_eq_true, ih]
      constructor
      · rintro ⟨first, part, after, rfl, parts, accepted⟩
        exact ⟨d :: part, after, rfl, .cons first parts, accepted⟩
      · rintro ⟨part, after, split, parts, accepted⟩
        cases parts with
        | cons first parts =>
          obtain ⟨rfl, rfl⟩ := List.cons.inj split
          exact ⟨first, _, after, rfl, parts, accepted⟩

/-- **A literal between two wildcards** is accepted wherever it occurs. -/
theorem accepts_infix (literal text : List Char) :
    accepts same (.any :: (literal.map Token.char ++ [.any])) text = true ↔
      ∃ before part after, text = before ++ (part ++ after) ∧ alike same literal part := by
  rw [accepts, List.any_eq_true]
  constructor
  · rintro ⟨tail, mem, accepted⟩
    obtain ⟨before, rfl⟩ := (List.mem_tails _ _).mp mem
    obtain ⟨part, after, rfl, parts, -⟩ := (accepts_literal literal [.any] tail).mp accepted
    exact ⟨before, part, after, rfl, parts⟩
  · rintro ⟨before, part, after, rfl, parts⟩
    refine ⟨part ++ after, (List.mem_tails _ _).mpr (List.suffix_append before _), ?_⟩
    exact (accepts_literal literal [.any] _).mpr ⟨part, after, rfl, parts, accepts_any after⟩

end Accepts

theorem read_plain {escape c : Char} (rest : List Char) (other : c ≠ escape)
    (percent : c ≠ '%') (underscore : c ≠ '_') :
    read escape (c :: rest) = (read escape rest).map (Token.char c :: ·) := by
  rw [read.eq_def]
  simp [other, percent, underscore]

/-- A quoted text is read as itself. -/
theorem read_quote (escape : Char) (text rest : List Char) :
    read escape (quote escape text ++ rest) =
      (read escape rest).map (text.map Token.char ++ ·) := by
  induction text with
  | nil => simp [quote]
  | cons c text ih =>
    have unfolded : quote escape (c :: text) =
        (if c = '%' ∨ c = '_' ∨ c = escape then [escape, c] else [c]) ++ quote escape text := rfl
    rw [unfolded]
    by_cases special : c = '%' ∨ c = '_' ∨ c = escape
    · simp [special, read, ih, Function.comp_def]
    · obtain ⟨percent, underscore, other⟩ := (not_or.mp special).imp_right not_or.mp
      rw [if_neg special, List.cons_append, List.nil_append, List.cons_append,
        read_plain _ other percent underscore, ih]
      simp [Function.comp_def]

variable (same : Char → Char → Bool)

def like (escape : Char) (pattern text : List Char) : Bool :=
  (read escape pattern).any fun tokens => accepts same tokens text

/-- A quoted text between two wildcards is found wherever it occurs. -/
theorem like_quote {escape : Char} (other : escape ≠ '%') (literal text : List Char) :
    like same escape ('%' :: (quote escape literal ++ ['%'])) text = true ↔
      ∃ before part after, text = before ++ (part ++ after) ∧ alike same literal part := by
  have tokens : read escape ('%' :: (quote escape literal ++ ['%'])) =
      some (.any :: (literal.map Token.char ++ [.any])) := by
    rw [read.eq_def]
    simp [other.symm, read_quote, read]
  rw [like, tokens, Option.any_some, accepts_infix]

end Like
