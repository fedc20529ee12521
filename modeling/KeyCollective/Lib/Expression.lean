import KeyCollective.Lib.Redaction
import Mathlib.Data.List.TakeWhile
import Mathlib.Order.Lattice

/-!
# Expressions made of runs

An expression is a row of pieces, each a run of elements of one class with its least and most
length. A piece takes as much as it can. That finds all there is when a piece has one length
only, or takes nothing the next one could start with.
-/

namespace Redaction

variable {α : Type}

/-- A run of elements of a class. -/
structure Piece (α : Type) where
  ok : α → Bool
  least : Nat
  most : Option Nat

/-- Exactly so many elements of a class. -/
def exactly (n : Nat) (ok : α → Bool) : Piece α := ⟨ok, n, some n⟩

/-- At least so many. -/
def atLeast (n : Nat) (ok : α → Bool) : Piece α := ⟨ok, n, none⟩

def between (n m : Nat) (ok : α → Bool) : Piece α := ⟨ok, n, some m⟩

namespace Piece

variable (piece : Piece α)

def taken (text : List α) : Nat :=
  match piece.most with
  | none => (text.takeWhile piece.ok).length
  | some most => min (text.takeWhile piece.ok).length most

theorem taken_le (text : List α) : piece.taken text ≤ text.length := by
  have run := (List.takeWhile_prefix piece.ok (l := text)).length_le
  unfold taken
  split <;> omega

variable {piece}

theorem takeWhile_closed {c : α} (other : piece.ok c = false) (u v : List α) :
    (u ++ c :: v).takeWhile piece.ok = u.takeWhile piece.ok := by
  induction u with
  | nil => simp [other]
  | cons d rest ih => cases good : piece.ok d <;> simp [good, ih]

theorem taken_closed {c : α} (other : piece.ok c = false) (u v : List α) :
    piece.taken (u ++ c :: v) = piece.taken u := by
  rw [taken, taken, takeWhile_closed other]

theorem takeWhile_append_le (piece : Piece α) (u v : List α) :
    (u.takeWhile piece.ok).length ≤ ((u ++ v).takeWhile piece.ok).length := by
  induction u with
  | nil => simp
  | cons d rest ih => cases good : piece.ok d <;> simp [good, ih]

theorem takeWhile_append_of_lt {u : List α} (short : (u.takeWhile piece.ok).length < u.length)
    (v : List α) : (u ++ v).takeWhile piece.ok = u.takeWhile piece.ok := by
  induction u with
  | nil => exact absurd short (Nat.lt_irrefl 0)
  | cons d rest ih =>
    cases good : piece.ok d with
    | false => simp [good]
    | true =>
      simp only [List.takeWhile_cons, good, if_true, List.length_cons, List.cons_append] at short ⊢
      rw [ih (Nat.lt_of_succ_lt_succ short)]

theorem taken_append_le (piece : Piece α) (u v : List α) : piece.taken u ≤ piece.taken (u ++ v) := by
  have run := piece.takeWhile_append_le u v
  unfold taken
  cases piece.most with
  | none => exact run
  | some most =>
    change min _ most ≤ min _ most
    omega

theorem taken_append_of_lt {u : List α} (short : piece.taken u < u.length) (v : List α) :
    piece.taken (u ++ v) = piece.taken u := by
  have run := (List.takeWhile_prefix piece.ok (l := u)).length_le
  by_cases ends : (u.takeWhile piece.ok).length < u.length
  · rw [taken, taken, takeWhile_append_of_lt ends]
  · have longer := piece.takeWhile_append_le u v
    unfold taken at short ⊢
    cases bound : piece.most with
    | none =>
      rw [bound] at short
      exact absurd short ends
    | some most =>
      simp only [bound] at short ⊢
      omega

/-- A run takes all of a part of its class, and no more when it cannot go on. -/
theorem length_le_taken {part : List α} (good : ∀ c ∈ part, piece.ok c = true)
    (most : ∀ m ∈ piece.most, part.length ≤ m) (post : List α) :
    part.length ≤ piece.taken (part ++ post) := by
  have whole : part.takeWhile piece.ok = part := List.takeWhile_eq_self_iff.mpr good
  have run := piece.takeWhile_append_le part post
  rw [whole] at run
  unfold taken
  split
  case h_1 => exact run
  case h_2 m bound => exact le_min run (most m bound)

theorem taken_eq_length {part : List α} (good : ∀ c ∈ part, piece.ok c = true)
    (most : ∀ m ∈ piece.most, part.length ≤ m) {post : List α}
    (stops : ∀ c, post.head? = some c → piece.ok c = false) :
    piece.taken (part ++ post) = part.length := by
  apply Nat.le_antisymm _ (length_le_taken good most post)
  have whole : part.takeWhile piece.ok = part := List.takeWhile_eq_self_iff.mpr good
  have run : ((part ++ post).takeWhile piece.ok).length = part.length := by
    cases post with
    | nil => rw [List.append_nil, whole]
    | cons c rest => rw [takeWhile_closed (stops c rfl), whole]
  unfold taken
  split <;> omega

theorem taken_exact {part : List α} (exact : piece.most = some piece.least)
    (good : ∀ c ∈ part, piece.ok c = true) (least : piece.least ≤ part.length)
    (most : ∀ m ∈ piece.most, part.length ≤ m) (post : List α) :
    piece.taken (part ++ post) = part.length := by
  have all := length_le_taken good most post
  have bound := most _ exact
  rw [taken, exact] at all ⊢
  simp only at all ⊢
  omega

end Piece

/-- How long the pieces are that a text starts with. -/
def spell : List (Piece α) → List α → Option Nat
  | [], _ => some 0
  | piece :: later, text =>
    if piece.taken text < piece.least then none
    else (spell later (text.drop (piece.taken text))).map (piece.taken text + ·)

/-- Every piece takes something. -/
def Solid (pieces : List (Piece α)) : Prop := ∀ piece ∈ pieces, 1 ≤ piece.least

instance (pieces : List (Piece α)) : Decidable (Solid pieces) :=
  inferInstanceAs (Decidable (∀ piece ∈ pieces, 1 ≤ piece.least))

theorem spell_some {piece : Piece α} {later : List (Piece α)} {text : List α} {n : Nat}
    (spelt : spell (piece :: later) text = some n) :
    piece.least ≤ piece.taken text ∧
      ∃ more, spell later (text.drop (piece.taken text)) = some more ∧
        piece.taken text + more = n := by
  rw [spell] at spelt
  split at spelt
  case isTrue => cases spelt
  case isFalse enough => exact ⟨not_lt.mp enough, Option.map_eq_some_iff.mp spelt⟩

theorem spell_le {pieces : List (Piece α)} {text : List α} {n : Nat}
    (spelt : spell pieces text = some n) : n ≤ text.length := by
  induction pieces generalizing text n with
  | nil =>
    cases spelt
    exact Nat.zero_le _
  | cons piece later ih =>
    obtain ⟨-, more, rest, rfl⟩ := spell_some spelt
    have fits := ih rest
    have first := piece.taken_le text
    rw [List.length_drop] at fits
    omega

theorem spell_pos {pieces : List (Piece α)} (solid : Solid pieces) (some_piece : pieces ≠ [])
    {text : List α} {n : Nat} (spelt : spell pieces text = some n) : 0 < n := by
  cases pieces with
  | nil => contradiction
  | cons piece later =>
    obtain ⟨enough, more, -, rfl⟩ := spell_some spelt
    have least := solid piece List.mem_cons_self
    omega

theorem spell_closed {pieces : List (Piece α)} {c : α}
    (avoided : ∀ piece ∈ pieces, piece.ok c = false) (u v : List α) :
    spell pieces (u ++ c :: v) = spell pieces u := by
  induction pieces generalizing u with
  | nil => rfl
  | cons piece later ih =>
    have fits := piece.taken_le u
    rw [spell, spell, Piece.taken_closed (avoided piece List.mem_cons_self),
      List.drop_append_of_le_length fits, ih fun p mem => avoided p (List.mem_cons_of_mem _ mem)]

/-- A text that goes on is spelt at least as far, and as far when the spelling had ended. -/
theorem spell_append {pieces : List (Piece α)} (solid : Solid pieces) {u : List α} {n : Nat}
    (spelt : spell pieces u = some n) (v : List α) :
    ∃ m, spell pieces (u ++ v) = some m ∧ n ≤ m ∧ (n < u.length → m = n) := by
  induction pieces generalizing u n with
  | nil => exact ⟨0, rfl, by cases spelt; exact le_rfl, fun _ => by cases spelt; rfl⟩
  | cons piece later ih =>
    obtain ⟨enough, more, rest, rfl⟩ := spell_some spelt
    have fits := piece.taken_le u
    have further := piece.taken_append_le u v
    by_cases ended : piece.taken u < u.length
    · have same := Piece.taken_append_of_lt ended v
      obtain ⟨m, spelt', le, eq⟩ := ih (fun p mem => solid p (List.mem_cons_of_mem _ mem)) rest
      refine ⟨piece.taken u + m, ?_, Nat.add_le_add_left le _, ?_⟩
      · rw [spell, same, if_neg (not_lt.mpr enough), List.drop_append_of_le_length fits, spelt']
        rfl
      · intro inside
        rw [eq (by rw [List.length_drop]; omega)]
    · obtain rfl : later = [] := by
        by_contra some_later
        have pos := spell_pos (fun p mem => solid p (List.mem_cons_of_mem _ mem)) some_later rest
        have left := spell_le rest
        rw [List.length_drop] at left
        omega
      cases rest
      refine ⟨piece.taken (u ++ v), ?_, further, fun inside => absurd inside ended⟩
      rw [spell, if_neg (by omega)]
      rfl

/-! ## What the pieces stand for -/

/-- Each piece is a part of the word, one after the other. -/
inductive Spells : List (Piece α) → List α → Prop where
  | nil : Spells [] []
  | cons {piece later part rest} (good : ∀ c ∈ part, piece.ok c = true)
      (least : piece.least ≤ part.length) (most : ∀ m ∈ piece.most, part.length ≤ m)
      (tail : Spells later rest) : Spells (piece :: later) (part ++ rest)

/-- No piece can take what belongs to the next. -/
def Apart : List (Piece α) → Prop
  | piece :: next :: later =>
    (piece.most = some piece.least ∨ ∀ c, next.ok c = true → piece.ok c = false) ∧
      Apart (next :: later)
  | _ => True

theorem Apart.after_exact {pieces last : List (Piece α)}
    (exact : ∀ piece ∈ pieces, piece.most = some piece.least) (apart : Apart last) :
    Apart (pieces ++ last) := by
  induction pieces with
  | nil => exact apart
  | cons piece rest ih =>
    have later := ih fun p mem => exact p (List.mem_cons_of_mem _ mem)
    rw [List.cons_append]
    cases left : rest ++ last with
    | nil => trivial
    | cons => exact ⟨.inl (exact piece List.mem_cons_self), left ▸ later⟩

theorem Spells.head {piece : Piece α} {later : List (Piece α)} {w : List α}
    (spells : Spells (piece :: later) w) (some_least : 1 ≤ piece.least) :
    ∃ c, w.head? = some c ∧ piece.ok c = true := by
  cases spells with
  | @cons _ _ part rest good least =>
    cases part with
    | nil => exact absurd (some_least.trans least) (Nat.not_succ_le_zero 0)
    | cons c more => exact ⟨c, rfl, good c List.mem_cons_self⟩

theorem Spells.last {pieces : List (Piece α)} {piece : Piece α} {w : List α}
    (spells : Spells pieces w) (solid : Solid pieces) (ends : pieces.getLast? = some piece) :
    ∃ c, w.getLast? = some c ∧ piece.ok c = true := by
  induction spells with
  | nil => cases ends
  | @cons first later part rest good least most tail ih =>
    cases later with
    | nil =>
      cases tail
      obtain rfl := Option.some.inj ends
      have some_part : part ≠ [] := by
        rintro rfl
        exact absurd ((solid first List.mem_cons_self).trans least) (Nat.not_succ_le_zero 0)
      rw [List.append_nil]
      exact ⟨_, List.getLast?_eq_getLast_of_ne_nil some_part, good _ (List.getLast_mem some_part)⟩
    | cons next more =>
      obtain ⟨c, last, okay⟩ := ih (fun p mem => solid p (List.mem_cons_of_mem _ mem)) (by
        rwa [List.getLast?_cons_cons] at ends)
      exact ⟨c, by rw [List.getLast?_append, last]; rfl, okay⟩

/-- Taking as much as there is finds every word, and no more where the text cannot go on. -/
theorem spell_of_spells {pieces : List (Piece α)} {w : List α} (spells : Spells pieces w)
    (solid : Solid pieces) (apart : Apart pieces) (post : List α) :
    ∃ n, spell pieces (w ++ post) = some n ∧
      ((∀ piece, pieces.getLast? = some piece → ∀ c, post.head? = some c → piece.ok c = false) →
        n = w.length) := by
  induction spells with
  | nil => exact ⟨0, rfl, fun _ => rfl⟩
  | @cons piece later part rest good least most tail ih =>
    cases later with
    | nil =>
      cases tail
      have enough := Piece.length_le_taken good most post
      refine ⟨piece.taken (part ++ post), ?_, ?_⟩
      · rw [List.append_nil, spell, if_neg (by omega)]
        rfl
      · intro stops
        rw [List.append_nil]
        exact Piece.taken_eq_length good most (stops piece rfl)
    | cons next more =>
      have all : piece.taken (part ++ (rest ++ post)) = part.length := by
        obtain exact | differ := apart.1
        · exact Piece.taken_exact exact good least most _
        · apply Piece.taken_eq_length good most
          intro c head
          obtain ⟨d, first, okay⟩ := tail.head
            (solid next (List.mem_cons_of_mem _ List.mem_cons_self))
          rw [List.head?_append, first] at head
          cases head
          exact differ c okay
      obtain ⟨n, spelt, eq⟩ := ih (fun p mem => solid p (List.mem_cons_of_mem _ mem)) apart.2
      refine ⟨part.length + n, ?_, ?_⟩
      · rw [List.append_assoc, spell, all, if_neg (not_lt.mpr least), List.drop_left, spelt]
        rfl
      · intro stops
        rw [eq fun p last => stops p (by rwa [List.getLast?_cons_cons]), List.length_append]

/-! ## Expressions as patterns -/

/-- A match wherever the pieces are. -/
def free (pieces : List (Piece α)) : Pattern α where
  span _ text := (spell pieces text).getD 0
  span_le _ text := by
    cases spelt : spell pieces text with
    | none => exact Nat.zero_le _
    | some n => exact spell_le spelt

/-- Whether there is an element of a word. -/
def inside (word : α → Bool) (c : Option α) : Bool := c.any word

/-- A word starts or ends between the two. -/
def edge (word : α → Bool) (c d : Option α) : Bool := (inside word c).xor (inside word d)

/-- A match where the pieces are, from one edge of a word to another. -/
def bounded (word : α → Bool) (pieces : List (Piece α)) : Pattern α where
  span before text :=
    match spell pieces text with
    | none => 0
    | some n =>
      if edge word before text.head? ∧
          edge word (behind before (text.take n)) (text.drop n).head? then n else 0
  span_le before text := by
    cases spelt : spell pieces text with
    | none => exact Nat.zero_le _
    | some n =>
      change (if _ then n else 0) ≤ _
      split
      · exact spell_le spelt
      · exact Nat.zero_le _

/-- The first of two patterns that has a match. -/
def Pattern.or (p q : Pattern α) : Pattern α where
  span before text := if p.span before text ≠ 0 then p.span before text else q.span before text
  span_le before text := by
    split
    · exact p.span_le before text
    · exact q.span_le before text

/-- What stands before does not matter, and a text that goes on still matches. -/
structure Free (p : Pattern α) (foreign : α → Prop) : Prop where
  closed : ∀ before u {c} v, foreign c → p.span before (u ++ c :: v) = p.span before u
  blind : ∀ before text, p.span before text = p.span none text
  grows : ∀ before u v, p.span before u ≠ 0 → p.span before (u ++ v) ≠ 0

section

variable {p q : Pattern α} {foreign : α → Prop} {word : α → Bool} {pieces : List (Piece α)}

theorem Free.kept (free : Free p foreign) : Kept p q foreign where
  closed := free.closed
  opened _ := free.blind _ _
  joined found _ := free.grows _ _ _ found
  after _ _ found := by rwa [free.blind]

theorem Free.or (first : Free p foreign) (second : Free q foreign) : Free (p.or q) foreign where
  closed before u c v other := by
    simp only [Pattern.or, first.closed before u v other, second.closed before u v other]
  blind before text := by
    simp only [Pattern.or, first.blind before, second.blind before]
  grows before u v found := by
    have one : p.span before (u ++ v) ≠ 0 ∨ q.span before (u ++ v) ≠ 0 := by
      by_cases here : p.span before u = 0
      · right
        apply second.grows
        simpa only [Pattern.or, here, ne_eq, not_true, if_false] using found
      · exact Or.inl (first.grows before u v here)
    simp only [Pattern.or]
    split
    case isTrue here => exact here
    case isFalse there => exact one.resolve_left there

theorem free_free (solid : Solid pieces)
    (avoided : ∀ c, foreign c → ∀ piece ∈ pieces, piece.ok c = false) :
    Free (free pieces) foreign where
  closed _ u c v other := congrArg (Option.getD · 0) (spell_closed (avoided c other) u v)
  blind _ _ := rfl
  grows _ u v found := by
    simp only [free] at found ⊢
    cases spelt : spell pieces u with
    | none => exact absurd (by rw [spelt]; rfl) found
    | some n =>
      obtain ⟨m, more, le, -⟩ := spell_append solid spelt v
      simp only [spelt, more, Option.getD_some] at found ⊢
      omega

theorem bounded_eq {before : Option α} {text : List α} {n : Nat} (spelt : spell pieces text = some n)
    (edges : edge word before text.head? ∧
      edge word (behind before (text.take n)) (text.drop n).head?) :
    (bounded word pieces).span before text = n := by
  simp only [bounded, spelt, edges, and_self, if_true]

theorem bounded_ne_zero {before : Option α} {text : List α} (solid : Solid pieces)
    (some_piece : pieces ≠ []) :
    (bounded word pieces).span before text ≠ 0 ↔
      ∃ n, spell pieces text = some n ∧ edge word before text.head? ∧
        edge word (behind before (text.take n)) (text.drop n).head? := by
  simp only [bounded]
  constructor
  · intro found
    split at found
    case h_1 => contradiction
    case h_2 n spelt =>
      split at found
      case isTrue edges => exact ⟨n, spelt, edges⟩
      case isFalse => contradiction
  · rintro ⟨n, spelt, edges⟩
    change (bounded word pieces).span before text ≠ 0
    rw [bounded_eq spelt edges]
    exact (spell_pos solid some_piece spelt).ne'

/-- Only an element of a word can start a match. -/
def StartsInWord (word : α → Bool) (pieces : List (Piece α)) : Prop :=
  ∀ piece, pieces.head? = some piece → ∀ c, piece.ok c = true → word c = true

theorem head_in_word (solid : Solid pieces) (some_piece : pieces ≠ [])
    (starts : StartsInWord word pieces) {text : List α} {n : Nat}
    (spelt : spell pieces text = some n) : inside word text.head? = true := by
  cases pieces with
  | nil => contradiction
  | cons piece later =>
    obtain ⟨enough, -, -, -⟩ := spell_some spelt
    have least := solid piece List.mem_cons_self
    cases text with
    | nil =>
      have none_taken := piece.taken_le []
      rw [List.length_nil] at none_taken
      omega
    | cons c rest =>
      apply starts piece rfl
      by_contra other
      have none_taken : piece.taken ([] ++ c :: rest) = piece.taken [] :=
        Piece.taken_closed (Bool.eq_false_iff.mpr other) [] rest
      have empty := piece.taken_le []
      rw [List.nil_append] at none_taken
      rw [List.length_nil] at empty
      omega

theorem bounded_kept (solid : Solid pieces) (some_piece : pieces ≠ [])
    (starts : StartsInWord word pieces)
    (avoided : ∀ c, foreign c → ∀ piece ∈ pieces, piece.ok c = false)
    (no_word : ∀ c, foreign c → word c = false) :
    Kept (bounded word pieces) (bounded word pieces) foreign where
  closed before u c v other := by
    have blank : inside word (some c) = inside word none := no_word c other
    simp only [bounded, spell_closed (avoided c other) u v]
    cases spelt : spell pieces u with
    | none => rfl
    | some n =>
      have fits := spell_le spelt
      have pos := spell_pos solid some_piece spelt
      simp only [List.take_append_of_le_length fits, List.drop_append_of_le_length fits]
      cases u with
      | nil => exact absurd (Nat.le_zero.mp fits) pos.ne'
      | cons d rest =>
        cases left : (d :: rest).drop n with
        | nil =>
          simp only [edge, List.cons_append, List.nil_append, List.head?_cons, blank]
          rfl
        | cons e more => rfl
  opened {c text} other := by
    have blank : inside word (some c) = inside word none := no_word c other
    simp only [bounded]
    cases spelt : spell pieces text with
    | none => rfl
    | some n =>
      have pos := spell_pos solid some_piece spelt
      cases text with
      | nil => exact absurd (Nat.le_zero.mp (spell_le spelt)) pos.ne'
      | cons d rest =>
        obtain ⟨more, rfl⟩ := Nat.exists_eq_succ_of_ne_zero pos.ne'
        simp only [edge, blank]
        rfl
  joined {before u v} found next := by
    obtain ⟨n, spelt, start, ends⟩ := (bounded_ne_zero solid some_piece).mp found
    obtain ⟨m, spelt', start', -⟩ := (bounded_ne_zero solid some_piece).mp next
    have fits := spell_le spelt
    have pos := spell_pos solid some_piece spelt
    have into := head_in_word solid some_piece starts spelt'
    obtain ⟨k, spelt_all, -, eq⟩ := spell_append solid spelt v
    have ended : n < u.length := by
      by_contra whole
      have all : n = u.length := by omega
      rw [all, List.take_length, List.drop_length] at ends
      simp only [edge, into, List.head?_nil] at ends start'
      cases last : inside word (behind before u) with
      | false =>
        rw [last] at ends
        cases ends
      | true =>
        rw [last] at start'
        cases start'
    obtain rfl := eq ended
    apply (bounded_ne_zero solid some_piece).mpr
    refine ⟨k, spelt_all, ?_, ?_⟩
    · cases u with
      | nil => exact absurd ended (Nat.not_lt_zero k)
      | cons d rest => exact start
    · rw [List.take_append_of_le_length fits, List.drop_append_of_le_length fits]
      cases left : u.drop k with
      | nil =>
        have size := congrArg List.length left
        rw [List.length_drop, List.length_nil] at size
        omega
      | cons e more =>
        rw [left] at ends
        exact ends
  after {before m text} matched some_element found := by
    obtain ⟨n, spelt, start, ends⟩ := (bounded_ne_zero solid some_piece).mp found
    have nonzero : (bounded word pieces).span before (m ++ text) ≠ 0 := by
      rw [matched]
      exact mt List.length_eq_zero_iff.mp some_element
    obtain ⟨k, spelt', start', ends'⟩ := (bounded_ne_zero solid some_piece).mp nonzero
    obtain rfl : k = m.length := (bounded_eq spelt' ⟨start', ends'⟩).symm.trans matched
    rw [List.take_left, List.drop_left] at ends'
    apply (bounded_ne_zero solid some_piece).mpr
    refine ⟨n, spelt, ends', ?_⟩
    obtain ⟨more, rfl⟩ := Nat.exists_eq_succ_of_ne_zero (spell_pos solid some_piece spelt).ne'
    cases text with
    | nil => exact absurd (spell_le spelt) (Nat.not_succ_le_zero more)
    | cons d rest => exact ends

/-! ## What is absent -/

theorem behind_none (taken : List α) : behind none taken = taken.getLast? := by
  obtain rfl | ⟨start, c, rfl⟩ := List.eq_nil_or_concat taken
  · rfl
  · rw [List.concat_eq_append, behind_snoc, List.getLast?_concat]

theorem Absent.or {before : Option α} {text : List α} (absent : Absent (p.or q) before text) :
    Absent p before text ∧ Absent q before text := by
  induction text generalizing before with
  | nil => exact ⟨trivial, trivial⟩
  | cons c rest ih =>
    obtain ⟨first, second⟩ := ih absent.2
    have bare := absent.1
    simp only [Pattern.or] at bare
    split at bare
    case isTrue found => exact absurd bare found
    case isFalse unmatched => exact ⟨⟨not_not.mp unmatched, first⟩, bare, second⟩

theorem Absent.not_spells {text : List α} (absent : Absent (free pieces) none text)
    (solid : Solid pieces) (some_piece : pieces ≠ []) (apart : Apart pieces)
    {start w post : List α} (cut : text = start ++ (w ++ post)) : ¬Spells pieces w := by
  intro spells
  obtain ⟨n, spelt, -⟩ := spell_of_spells spells solid apart post
  have pos := spell_pos solid some_piece spelt
  rw [cut] at absent
  have none_here := absent.span
  simp only [free, spelt, Option.getD_some] at none_here
  omega

/-- A word between two edges is absent too. -/
theorem Absent.not_word {text : List α} (absent : Absent (bounded word pieces) none text)
    (solid : Solid pieces) (some_piece : pieces ≠ []) (apart : Apart pieces)
    (starts : StartsInWord word pieces)
    (ends : ∀ piece, pieces.getLast? = some piece → ∀ c, piece.ok c = true → word c = true)
    {start w post : List α} (cut : text = start ++ (w ++ post))
    (left : inside word start.getLast? = false) (right : inside word post.head? = false) :
    ¬Spells pieces w := by
  intro spells
  obtain ⟨n, spelt, eq⟩ := spell_of_spells spells solid apart post
  obtain rfl : n = w.length := by
    apply eq
    intro piece last c head
    by_contra okay
    rw [head] at right
    have in_word := ends piece last c (Bool.not_eq_false _ ▸ okay)
    exact absurd right (by rw [inside, Option.any_some, in_word]; decide)
  rw [cut] at absent
  refine absurd absent.span ((bounded_ne_zero solid some_piece).mpr ⟨_, spelt, ?_, ?_⟩)
  · rw [behind_none, edge, left, head_in_word solid some_piece starts spelt]
    rfl
  · rw [List.take_left, List.drop_left, edge, right]
    obtain ⟨piece, last⟩ := Option.ne_none_iff_exists'.mp
      (mt List.getLast?_eq_none_iff.mp some_piece)
    obtain ⟨c, end_of_w, okay⟩ := spells.last solid last
    obtain ⟨init, rfl⟩ := List.getLast?_eq_some_iff.mp end_of_w
    rw [behind_snoc, inside, Option.any_some, ends piece last c okay]
    rfl

end

end Redaction
