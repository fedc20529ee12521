import KeyCollective.Lib.Utf8
import Mathlib.Data.List.TakeWhile

/-!
# UTF-8 in pieces

A decoder that is fed byte after byte keeps the beginning of a character until the rest of it
is there, or until a byte comes that cannot follow. It puts out what decoding all the bytes at
once does, wherever they were cut.
-/

namespace Utf8

/-- The bytes begin a character that is not complete. -/
def begun : List UInt8 → Bool
  | [] => true
  | lead :: rest =>
    rest.length < owed lead && present (owed lead) (bounds lead) rest == rest.length

/-- A byte between two characters: what it puts out and what is kept. -/
def start (byte : UInt8) : List (Option Char) × List UInt8 :=
  match first [byte] with
  | some c => ([some c], [])
  | none => if begun [byte] then ([], [byte]) else ([none], [])

/-- A byte behind the beginning of a character. One that cannot follow is read again. -/
def push (pending : List UInt8) (byte : UInt8) : List (Option Char) × List UInt8 :=
  match pending with
  | [] => start byte
  | lead :: rest =>
    match first (lead :: rest ++ [byte]) with
    | some c => ([some c], [])
    | none =>
      if begun (lead :: rest ++ [byte]) then ([], lead :: rest ++ [byte])
      else (none :: (start byte).1, (start byte).2)

/-- What the bytes put out behind the beginning of a character, and what is kept of them. -/
def feed : List UInt8 → List UInt8 → List (Option Char) × List UInt8
  | pending, [] => ([], pending)
  | pending, byte :: rest =>
    ((push pending byte).1 ++ (feed (push pending byte).2 rest).1,
      (feed (push pending byte).2 rest).2)

/-- What is put out when no byte follows. -/
def finish (pending : List UInt8) : List (Option Char) := if pending.isEmpty then [] else [none]

theorem feed_append (pending u v : List UInt8) :
    feed pending (u ++ v) =
      ((feed pending u).1 ++ (feed (feed pending u).2 v).1, (feed (feed pending u).2 v).2) := by
  induction u generalizing pending with
  | nil => rfl
  | cons byte rest ih => simp only [List.cons_append, feed, ih, List.append_assoc]

/-! ## The bytes of a character -/

theorem first_eq_some_iff {bytes : List UInt8} {c : Char} :
    first bytes = some c ↔ ∃ more, bytes = String.utf8EncodeChar c ++ more := by
  constructor
  · intro decoded
    obtain ⟨more, eq⟩ := ByteArray.exists_of_utf8DecodeChar?_eq_some decoded
    refine ⟨more.data.toList, ?_⟩
    have data := congrArg (fun b : ByteArray => b.data.toList) eq
    simpa using data
  · rintro ⟨more, rfl⟩
    exact first_encode c more

/-- A beginning that broke off, or is complete, does not see what follows. -/
theorem present_append_of_stopped {n : Nat} {range : UInt8 × UInt8} {u : List UInt8}
    (stopped : present n range u < u.length ∨ present n range u = n) (v : List UInt8) :
    present n range (u ++ v) = present n range u := by
  induction n generalizing range u with
  | zero => rfl
  | succ n ih =>
    cases u with
    | nil => simp [present] at stopped
    | cons byte rest =>
      simp only [List.cons_append, present, List.length_cons] at stopped ⊢
      split
      case isTrue inside =>
        simp only [if_pos inside] at stopped
        rw [ih (by omega)]
      case isFalse => rfl

theorem present_snoc {n : Nat} {range : UInt8 × UInt8} {u : List UInt8}
    (all : present n range u = u.length) (short : u.length < n) (byte : UInt8) :
    present n range (u ++ [byte]) = u.length + 1 ∨
      ∀ v, present n range (u ++ byte :: v) = u.length := by
  induction n generalizing range u with
  | zero => exact absurd short (Nat.not_lt_zero _)
  | succ n ih =>
    cases u with
    | nil =>
      by_cases inside : range.1 ≤ byte ∧ byte ≤ range.2
      · left
        have empty : present n (0x80, 0xBF) [] = 0 := by cases n <;> rfl
        simp [present, inside, empty]
      · right
        intro v
        simp [present, inside]
    | cons first_byte rest =>
      have inside : range.1 ≤ first_byte ∧ first_byte ≤ range.2 := by
        by_contra outside
        simp [present, outside] at all
      simp only [List.cons_append, present, inside, and_self, if_true, List.length_cons] at all ⊢
      obtain more | stopped := @ih (0x80, 0xBF) rest (by omega)
        (by rw [List.length_cons] at short; omega)
      · left
        omega
      · right
        intro v
        rw [stopped v]
        omega

theorem present_le_length (n : Nat) (range : UInt8 × UInt8) (bytes : List UInt8) :
    present n range bytes ≤ bytes.length := by
  induction n generalizing range bytes with
  | zero => exact Nat.zero_le _
  | succ n ih =>
    cases bytes with
    | nil => exact Nat.le_refl 0
    | cons byte rest =>
      have more := ih (0x80, 0xBF) rest
      simp only [present, List.length_cons]
      split <;> omega

theorem present_succ {n : Nat} {range : UInt8 × UInt8} {bytes : List UInt8} :
    present (n + 1) range bytes = n + 1 ↔
      ∃ byte rest, bytes = byte :: rest ∧ range.1 ≤ byte ∧ byte ≤ range.2 ∧
        present n (0x80, 0xBF) rest = n := by
  cases bytes with
  | nil => simp [present]
  | cons byte rest =>
    simp only [present]
    split
    case isTrue inside =>
      constructor
      · intro all
        exact ⟨byte, rest, rfl, inside.1, inside.2, by omega⟩
      · rintro ⟨_, _, eq, -, -, all⟩
        cases eq
        omega
    case isFalse outside =>
      constructor
      · intro all
        cases all
      · rintro ⟨_, _, eq, low, high, -⟩
        cases eq
        exact absurd ⟨low, high⟩ outside

theorem toNat_byte {n : Nat} (small : n < 256) : (UInt8.ofNat n).toNat = n := by
  rw [UInt8.toNat_ofNat', Nat.mod_eq_of_lt small]

theorem owed_eq (lead : UInt8) :
    owed lead =
      if 0xC2 ≤ lead.toNat ∧ lead.toNat ≤ 0xDF then 1
      else if 0xE0 ≤ lead.toNat ∧ lead.toNat ≤ 0xEF then 2
      else if 0xF0 ≤ lead.toNat ∧ lead.toNat ≤ 0xF4 then 3
      else 0 := by
  simp only [owed, UInt8.le_iff_toNat_le]
  rfl

theorem bounds_eq (lead : UInt8) :
    bounds lead =
      if lead.toNat = 0xE0 then (0xA0, 0xBF)
      else if lead.toNat = 0xED then (0x80, 0x9F)
      else if lead.toNat = 0xF0 then (0x90, 0xBF)
      else if lead.toNat = 0xF4 then (0x80, 0x8F)
      else (0x80, 0xBF) := by
  simp only [bounds, ← UInt8.toNat_inj]
  rfl

/-- A byte is in the bounds after a first byte. -/
theorem in_bounds (lead byte : UInt8) :
    (bounds lead).1 ≤ byte ∧ byte ≤ (bounds lead).2 ↔
      (if lead.toNat = 0xE0 then 0xA0 else if lead.toNat = 0xF0 then 0x90 else 0x80) ≤ byte.toNat ∧
      byte.toNat ≤
        (if lead.toNat = 0xED then 0x9F else if lead.toNat = 0xF4 then 0x8F else 0xBF) := by
  rw [bounds_eq]
  simp only [UInt8.le_iff_toNat_le]
  split_ifs <;> simp <;> omega

theorem in_tail (byte : UInt8) :
    (0x80 ≤ byte ∧ byte ≤ 0xBF) ↔ 0x80 ≤ byte.toNat ∧ byte.toNat ≤ 0xBF := by
  simp only [UInt8.le_iff_toNat_le]
  rfl

theorem owed_encode (c : Char) :
    ∃ lead rest, String.utf8EncodeChar c = lead :: rest ∧ rest.length = owed lead ∧
      present (owed lead) (bounds lead) rest = owed lead := by
  have scalar : c.val.toNat < 0xD800 ∨ 0xDFFF < c.val.toNat ∧ c.val.toNat < 0x110000 := c.valid
  have tail : ∀ n, 0x80 ≤ UInt8.ofNat (n % 0x40 + 0x80) ∧ UInt8.ofNat (n % 0x40 + 0x80) ≤ 0xBF := by
    intro n
    rw [in_tail, toNat_byte (by omega)]
    omega
  rw [String.utf8EncodeChar]
  generalize c.val.toNat = v at scalar
  split
  case isTrue one =>
    refine ⟨_, _, rfl, ?_⟩
    rw [owed_eq, toNat_byte (by omega)]
    split_ifs <;> first | omega | exact ⟨rfl, rfl⟩
  case isFalse =>
    split
    case isTrue two =>
      refine ⟨_, _, rfl, ?_⟩
      rw [owed_eq, toNat_byte (by omega), if_pos (by omega)]
      refine ⟨rfl, present_succ.mpr ⟨_, _, rfl, ?_⟩⟩
      rw [← and_assoc, in_bounds, toNat_byte (by omega), toNat_byte (by omega)]
      refine ⟨?_, rfl⟩
      split_ifs <;> omega
    case isFalse =>
      split
      case isTrue three =>
        refine ⟨_, _, rfl, ?_⟩
        rw [owed_eq, toNat_byte (by omega), if_neg (by omega), if_pos (by omega)]
        refine ⟨rfl, present_succ.mpr ⟨_, _, rfl, ?_⟩⟩
        rw [← and_assoc, in_bounds, toNat_byte (by omega), toNat_byte (by omega)]
        refine ⟨by split_ifs <;> omega, present_succ.mpr ⟨_, _, rfl, ?_⟩⟩
        exact ⟨(tail _).1, (tail _).2, rfl⟩
      case isFalse four =>
        refine ⟨_, _, rfl, ?_⟩
        rw [owed_eq, toNat_byte (by omega), if_neg (by omega), if_neg (by omega),
          if_pos (by omega)]
        refine ⟨rfl, present_succ.mpr ⟨_, _, rfl, ?_⟩⟩
        rw [← and_assoc, in_bounds, toNat_byte (by omega), toNat_byte (by omega)]
        refine ⟨by split_ifs <;> omega, present_succ.mpr ⟨_, _, rfl, (tail _).1, (tail _).2, ?_⟩⟩
        exact present_succ.mpr ⟨_, _, rfl, (tail _).1, (tail _).2, rfl⟩

/-- The character whose number it is. -/
theorem encodeChar_ofNat {n : Nat} (scalar : n.isValidChar) :
    (Char.ofNat n).val.toNat = n := by
  rw [Char.ofNat, dif_pos scalar]
  rfl

theorem byte_eq {n : Nat} (byte : UInt8) (eq : byte.toNat = n) : UInt8.ofNat n = byte :=
  eq ▸ UInt8.ofNat_toNat

theorem exists_encode_two {lead b : UInt8} (two : 0xC2 ≤ lead.toNat ∧ lead.toNat ≤ 0xDF)
    (second : 0x80 ≤ b.toNat ∧ b.toNat ≤ 0xBF) : ∃ c, String.utf8EncodeChar c = [lead, b] := by
  obtain ⟨v, number⟩ : ∃ v, v = (lead.toNat - 0xC0) * 64 + (b.toNat - 0x80) := ⟨_, rfl⟩
  have scalar : v.isValidChar := by left; omega
  refine ⟨Char.ofNat v, ?_⟩
  rw [String.utf8EncodeChar, encodeChar_ofNat scalar, if_neg (by omega), if_pos (by omega),
    byte_eq lead (by omega), byte_eq b (by omega)]

theorem exists_encode_three {lead b d : UInt8} (three : 0xE0 ≤ lead.toNat ∧ lead.toNat ≤ 0xEF)
    (second : 0x80 ≤ b.toNat ∧ b.toNat ≤ 0xBF) (third : 0x80 ≤ d.toNat ∧ d.toNat ≤ 0xBF)
    (large : 0xE0 < lead.toNat ∨ 0xA0 ≤ b.toNat) (unpaired : lead.toNat ≠ 0xED ∨ b.toNat ≤ 0x9F) :
    ∃ c, String.utf8EncodeChar c = [lead, b, d] := by
  obtain ⟨v, number⟩ : ∃ v,
    v = (lead.toNat - 0xE0) * 4096 + (b.toNat - 0x80) * 64 + (d.toNat - 0x80) := ⟨_, rfl⟩
  have scalar : v.isValidChar := by
    unfold Nat.isValidChar
    omega
  refine ⟨Char.ofNat v, ?_⟩
  rw [String.utf8EncodeChar, encodeChar_ofNat scalar, if_neg (by omega), if_neg (by omega),
    if_pos (by omega), byte_eq lead (by omega), byte_eq b (by omega),
    byte_eq d (by omega)]

theorem exists_encode_four {lead b d e : UInt8} (four : 0xF0 ≤ lead.toNat ∧ lead.toNat ≤ 0xF4)
    (second : 0x80 ≤ b.toNat ∧ b.toNat ≤ 0xBF) (third : 0x80 ≤ d.toNat ∧ d.toNat ≤ 0xBF)
    (fourth : 0x80 ≤ e.toNat ∧ e.toNat ≤ 0xBF) (large : 0xF0 < lead.toNat ∨ 0x90 ≤ b.toNat)
    (small : lead.toNat < 0xF4 ∨ b.toNat ≤ 0x8F) :
    ∃ c, String.utf8EncodeChar c = [lead, b, d, e] := by
  obtain ⟨v, number⟩ : ∃ v, v = (lead.toNat - 0xF0) * 262144 + (b.toNat - 0x80) * 4096 +
    (d.toNat - 0x80) * 64 + (e.toNat - 0x80) := ⟨_, rfl⟩
  have scalar : v.isValidChar := by
    unfold Nat.isValidChar
    omega
  refine ⟨Char.ofNat v, ?_⟩
  rw [String.utf8EncodeChar, encodeChar_ofNat scalar, if_neg (by omega), if_neg (by omega),
    if_neg (by omega), byte_eq lead (by omega), byte_eq b (by omega),
    byte_eq d (by omega), byte_eq e (by omega)]

/-- All bytes that are owed are there: they are those of a character. -/
theorem exists_encode {lead : UInt8} {rest : List UInt8}
    (all : present (owed lead) (bounds lead) rest = owed lead)
    (starts : lead.toNat < 0x80 ∨ 0 < owed lead) :
    ∃ c more, lead :: rest = String.utf8EncodeChar c ++ more := by
  rw [owed_eq] at all starts
  split at all
  case isTrue two =>
    obtain ⟨b, more, rfl, low, high, -⟩ := present_succ.mp all
    have second := (in_bounds lead b).mp ⟨low, high⟩
    rw [if_neg (by omega), if_neg (by omega), if_neg (by omega), if_neg (by omega)] at second
    obtain ⟨c, encoded⟩ := exists_encode_two two second
    exact ⟨c, more, by rw [encoded]; rfl⟩
  case isFalse =>
    split at all
    case isTrue three =>
      obtain ⟨b, _, rfl, low, high, all⟩ := present_succ.mp all
      obtain ⟨d, more, rfl, low', high', -⟩ := present_succ.mp all
      have second := (in_bounds lead b).mp ⟨low, high⟩
      obtain ⟨c, encoded⟩ := @exists_encode_three lead b d three
        (by split_ifs at second <;> omega) ((in_tail d).mp ⟨low', high'⟩)
        (by split_ifs at second <;> omega) (by split_ifs at second <;> omega)
      exact ⟨c, more, by rw [encoded]; rfl⟩
    case isFalse =>
      split at all
      case isTrue four =>
        obtain ⟨b, _, rfl, low, high, all⟩ := present_succ.mp all
        obtain ⟨d, _, rfl, low', high', all⟩ := present_succ.mp all
        obtain ⟨e, more, rfl, low'', high'', -⟩ := present_succ.mp all
        have second := (in_bounds lead b).mp ⟨low, high⟩
        obtain ⟨c, encoded⟩ := @exists_encode_four lead b d e four
          (by split_ifs at second <;> omega) ((in_tail d).mp ⟨low', high'⟩)
          ((in_tail e).mp ⟨low'', high''⟩) (by split_ifs at second <;> omega)
          (by split_ifs at second <;> omega)
        exact ⟨c, more, by rw [encoded]; rfl⟩
      case isFalse none_owed =>
        have ascii : lead.toNat < 0x80 := by
          split_ifs at starts
          omega
        refine ⟨Char.ofNat lead.toNat, rest, ?_⟩
        rw [String.utf8EncodeChar, encodeChar_ofNat (by left; omega), if_pos (by omega),
          byte_eq lead rfl]
        rfl

/-! ## Decoding at once -/

theorem first_cons {lead : UInt8} {rest : List UInt8} {c : Char}
    (found : first (lead :: rest) = some c) :
    present (owed lead) (bounds lead) rest = owed lead ∧ c.utf8Size = owed lead + 1 ∧
      ∀ others, rest.take (owed lead) <+: others → first (lead :: others) = some c := by
  obtain ⟨more, eq⟩ := first_eq_some_iff.mp found
  obtain ⟨_, tail, encoded, size, all⟩ := owed_encode c
  rw [encoded, List.cons_append] at eq
  obtain ⟨rfl, rfl⟩ := List.cons.inj eq
  have length := String.length_utf8EncodeChar c
  rw [encoded, List.length_cons, size] at length
  refine ⟨?_, length.symm, ?_⟩
  · rw [present_append_of_stopped (.inr all), all]
  · rintro _ ⟨behind, rfl⟩
    apply first_eq_some_iff.mpr
    refine ⟨behind, ?_⟩
    rw [encoded, ← size, List.take_left]
    rfl

theorem decodeFrom_enough {bytes : List UInt8} {n m : Nat} (le : bytes.length ≤ n)
    (le' : bytes.length ≤ m) : decodeFrom n bytes = decodeFrom m bytes := by
  induction n generalizing bytes m with
  | zero =>
    obtain rfl := List.eq_nil_of_length_eq_zero (Nat.le_zero.mp le)
    cases m <;> rfl
  | succ n ih =>
    cases bytes with
    | nil => cases m <;> rfl
    | cons lead rest =>
      cases m with
      | zero => cases le'
      | succ m =>
        have shorter : ∀ k, (rest.drop k).length ≤ n ∧ (rest.drop k).length ≤ m := by
          intro k
          simp only [List.length_cons] at le le'
          rw [List.length_drop]
          omega
        simp only [decodeFrom]
        cases found : first (lead :: rest) with
        | some c =>
          have size := (first_cons found).2.1
          simp only [size, List.drop_succ_cons]
          rw [ih (shorter _).1 (shorter _).2]
        | none =>
          simp only
          rw [ih (shorter _).1 (shorter _).2]

theorem decode_some {lead : UInt8} {rest : List UInt8} {c : Char}
    (found : first (lead :: rest) = some c) :
    decode (lead :: rest) = some c :: decode (rest.drop (owed lead)) := by
  rw [decode, List.length_cons, decodeFrom, found]
  simp only [(first_cons found).2.1, List.drop_succ_cons]
  rw [decode, decodeFrom_enough (by rw [List.length_drop]; omega) (Nat.le_refl _)]

theorem decode_none {lead : UInt8} {rest : List UInt8} (missing : first (lead :: rest) = none) :
    decode (lead :: rest) =
      none :: decode (rest.drop (present (owed lead) (bounds lead) rest)) := by
  rw [decode, List.length_cons, decodeFrom, missing]
  simp only
  rw [decode, decodeFrom_enough (by rw [List.length_drop]; omega) (Nat.le_refl _)]

/-! ## Byte after byte -/

theorem start_cases (byte : UInt8) :
    (∃ c, first [byte] = some c ∧ start byte = ([some c], []) ∧ owed byte = 0) ∨
    (first [byte] = none ∧ start byte = ([], [byte]) ∧ begun [byte] = true) ∨
    (first [byte] = none ∧ start byte = ([none], []) ∧ owed byte = 0) := by
  cases found : first [byte] with
  | some c =>
    have all := (first_cons found).1
    have empty : present (owed byte) (bounds byte) [] = 0 := by cases owed byte <;> rfl
    exact .inl ⟨c, rfl, by rw [start, found], by omega⟩
  | none =>
    right
    cases short : begun [byte] with
    | true => exact .inl ⟨rfl, by rw [start, found]; simp [short], rfl⟩
    | false =>
      right
      refine ⟨rfl, by rw [start, found]; simp [short], ?_⟩
      have empty : present (owed byte) (bounds byte) [] = 0 := by cases owed byte <;> rfl
      simpa [begun, empty] using short

theorem decode_start (byte : UInt8) (more : List UInt8) :
    decode (byte :: more) = (start byte).1 ++ decode ((start byte).2 ++ more) ∧
      begun (start byte).2 = true := by
  obtain ⟨c, found, eq, alone⟩ | ⟨missing, eq, short⟩ | ⟨missing, eq, alone⟩ := start_cases byte
  · rw [eq, decode_some ((first_cons found).2.2 more (by rw [alone]; exact List.nil_prefix)), alone]
    exact ⟨rfl, rfl⟩
  · rw [eq]
    exact ⟨rfl, short⟩
  · have none_there : first (byte :: more) = none := by
      by_contra found
      obtain ⟨c, found⟩ := Option.ne_none_iff_exists'.mp found
      have here := (first_cons found).2.2 [] (by rw [alone]; exact List.nil_prefix)
      rw [missing] at here
      cases here
    rw [eq, decode_none none_there, alone]
    exact ⟨rfl, rfl⟩

/-- One byte changes nothing about what is put out in the end. -/
theorem decode_push {pending : List UInt8} (short : begun pending = true) (byte : UInt8)
    (more : List UInt8) :
    decode (pending ++ byte :: more) =
        (push pending byte).1 ++ decode ((push pending byte).2 ++ more) ∧
      begun (push pending byte).2 = true := by
  cases pending with
  | nil => exact decode_start byte more
  | cons lead rest =>
    simp only [begun, Bool.and_eq_true, decide_eq_true_eq, beq_iff_eq] at short
    obtain ⟨short, all⟩ := short
    have joined : rest ++ byte :: more = (rest ++ [byte]) ++ more := by simp
    simp only [push, List.cons_append]
    cases found : first (lead :: (rest ++ [byte])) with
    | some c =>
      have owes := (first_cons found).1
      have fits := present_le_length (owed lead) (bounds lead) (rest ++ [byte])
      rw [List.length_append, List.length_singleton] at fits
      have length : (rest ++ [byte]).length = owed lead := by
        rw [List.length_append, List.length_singleton]
        omega
      have whole : first (lead :: (rest ++ byte :: more)) = some c := by
        apply (first_cons found).2.2
        rw [joined, ← length, List.take_length]
        exact List.prefix_append _ _
      rw [decode_some whole, joined, ← length, List.drop_left]
      exact ⟨rfl, rfl⟩
    | none =>
      obtain follows | stopped := present_snoc all short byte
      · have still : begun (lead :: (rest ++ [byte])) = true := by
          have unfinished : rest.length + 1 ≠ owed lead := by
            intro complete
            obtain ⟨c, behind, eq⟩ := @exists_encode lead (rest ++ [byte])
              (follows.trans complete) (.inr (by omega))
            rw [first_eq_some_iff.mpr ⟨behind, eq⟩] at found
            cases found
          simp only [begun, follows, List.length_append, List.length_singleton, beq_self_eq_true,
            Bool.and_true, decide_eq_true_eq]
          omega
        rw [if_pos still, joined]
        exact ⟨rfl, still⟩
      · have ended : begun (lead :: (rest ++ [byte])) = false := by
          simp [begun, stopped []]
        have missing : first (lead :: (rest ++ byte :: more)) = none := by
          by_contra there
          obtain ⟨c, there⟩ := Option.ne_none_iff_exists'.mp there
          have owes := (first_cons there).1
          rw [stopped more] at owes
          omega
        rw [ended, decode_none missing, stopped more, List.drop_left, (decode_start byte more).1]
        exact ⟨rfl, (decode_start byte more).2⟩

theorem decode_finish {pending : List UInt8} (short : begun pending = true) :
    decode pending = finish pending := by
  cases pending with
  | nil => rfl
  | cons lead rest =>
    simp only [begun, Bool.and_eq_true, decide_eq_true_eq, beq_iff_eq] at short
    obtain ⟨short, all⟩ := short
    have missing : first (lead :: rest) = none := by
      by_contra there
      obtain ⟨c, there⟩ := Option.ne_none_iff_exists'.mp there
      have owes := (first_cons there).1
      omega
    rw [decode_none missing, all, List.drop_length]
    rfl

theorem decode_feed {pending : List UInt8} (short : begun pending = true) (bytes : List UInt8) :
    decode (pending ++ bytes) = (feed pending bytes).1 ++ finish (feed pending bytes).2 := by
  induction bytes generalizing pending with
  | nil => rw [List.append_nil, decode_finish short]; rfl
  | cons byte rest ih =>
    obtain ⟨eq, still⟩ := decode_push short byte rest
    rw [eq, ih still, ← List.append_assoc]
    rfl

end Utf8
