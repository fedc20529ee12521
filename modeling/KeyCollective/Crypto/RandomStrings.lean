import KeyCollective.Lib.Rejection
import Mathlib.Data.FinEnum

/-!
# Random strings

A byte picks a letter of the alphabet when it is below the largest multiple of the alphabet's
length, and another byte is drawn otherwise. An alphabet is the code units of a string.
-/

namespace KeyCollective.RandomStrings

open Rejection

inductive RandomError where
  | emptyAlphabet
  /-- `getRandomValues` fills at most 65536 bytes at once. -/
  | quotaExceeded
deriving DecidableEq, Repr

def quota : Nat := 65536

/-- `256 - (256 % alphabetLen)`. -/
def maxValidByte (alphabetLen : Nat) : Nat := 256 - 256 % alphabetLen

def batchSize (needed : Nat) : Nat := max (needed * 2) 16

section

variable {α : Type} (length : Nat) (alphabet : List α)

/-- The loop over the bytes of a batch. -/
def readBatch : List UInt8 → List α → List α
  | [], result => result
  | byte :: bytes, result =>
    if result.length < length then
      readBatch bytes <|
        if byte.toNat < maxValidByte alphabet.length then
          result ++ alphabet[byte.toNat % alphabet.length]?.toList
        else result
    else result

/-- The loop over batches, of which so many may be drawn from these bytes. It is none while the
string is too short. -/
def sampleLoop : Nat → List UInt8 → List α → Except RandomError (Option (List α))
  | 0, _, _ => .ok none
  | rounds + 1, source, result =>
    if result.length < length then
      let size := batchSize (length - result.length)
      if quota < size then .error .quotaExceeded
      else if source.length < size then .ok none
      else sampleLoop rounds (source.drop size) (readBatch length alphabet (source.take size) result)
    else .ok (some result)

def secureRandomString (rounds : Nat) (source : List UInt8) :
    Except RandomError (Option (List α)) :=
  if length = 0 then .ok (some [])
  else if alphabet.length = 0 then .error .emptyAlphabet
  else sampleLoop length alphabet rounds source []

/-- No bytes make it throw. -/
def Accepted : Prop :=
  ∀ rounds source error, secureRandomString length alphabet rounds source ≠ .error error

end

/-! ## The rule -/

/-- The index a byte stands for, when it is not rejected. -/
def position {n : Nat} (some_letter : 0 < n) (byte : UInt8) : Option (Fin n) :=
  if byte.toNat < maxValidByte n then some ⟨byte.toNat % n, Nat.mod_lt _ some_letter⟩ else none

variable {n : Nat}

theorem maxValidByte_eq (n : Nat) : maxValidByte n = n * (256 / n) := by
  have whole := Nat.div_add_mod 256 n
  unfold maxValidByte
  omega

theorem maxValidByte_of_large (large : 256 < n) : maxValidByte n = 0 := by
  rw [maxValidByte_eq, Nat.div_eq_of_lt large, mul_zero]

theorem position_eq_some_iff (some_letter : 0 < n) (byte : UInt8) (i : Fin n) :
    position some_letter byte = some i ↔ byte.toNat < n * (256 / n) ∧ byte.toNat % n = i := by
  rw [position, ← maxValidByte_eq]
  split
  · rename_i valid
    simp [valid, Fin.ext_iff]
  · rename_i rejected
    simp [rejected]

/-- Each index has as many bytes as the alphabet fits into 256. -/
theorem card_position (some_letter : 0 < n) (i : Fin n) :
    (Finset.univ.filter fun byte => position some_letter byte = some i).card = 256 / n := by
  have fits : n * (256 / n) ≤ 256 := Nat.mul_div_le 256 n
  have byte {q : Nat} (below : q < 256 / n) :
      (UInt8.ofNat (n * q + i)).toNat = n * q + i ∧ n * q + i < n * (256 / n) := by
    have next : n * (q + 1) ≤ n * (256 / n) := Nat.mul_le_mul_left n below
    have index := i.isLt
    rw [mul_add, mul_one] at next
    have small : n * q + i < 256 := by omega
    exact ⟨by rw [UInt8.toNat_ofNat']; exact Nat.mod_eq_of_lt small, by omega⟩
  rw [← Finset.card_range (256 / n)]
  refine Finset.card_nbij' (fun byte => byte.toNat / n) (fun q => UInt8.ofNat (n * q + i))
    ?_ ?_ ?_ ?_
  · intro b mem
    have picked := (position_eq_some_iff some_letter b i).mp (Finset.mem_filter.mp mem).2
    exact Finset.mem_coe.mpr (Finset.mem_range.mpr (Nat.div_lt_of_lt_mul picked.1))
  · intro q mem
    obtain ⟨value, below⟩ := byte (Finset.mem_range.mp (Finset.mem_coe.mp mem))
    refine Finset.mem_coe.mpr (Finset.mem_filter.mpr ⟨Finset.mem_univ _, ?_⟩)
    refine (position_eq_some_iff some_letter _ i).mpr ?_
    rw [value, Nat.mul_add_mod, Nat.mod_eq_of_lt i.isLt]
    exact ⟨below, rfl⟩
  · intro b mem
    have picked := (position_eq_some_iff some_letter b i).mp (Finset.mem_filter.mp mem).2
    change UInt8.ofNat (n * (b.toNat / n) + i) = b
    rw [← picked.2, Nat.div_add_mod, UInt8.ofNat_toNat]
  · intro q mem
    obtain ⟨value, -⟩ := byte (Finset.mem_range.mp (Finset.mem_coe.mp mem))
    change (UInt8.ofNat (n * q + i)).toNat / n = q
    rw [value, Nat.mul_add_div some_letter, Nat.div_eq_of_lt i.isLt, add_zero]

theorem position_fair (some_letter : 0 < n) : Fair (position some_letter) := by
  intro i j
  rw [card_position, card_position]

/-- A short enough alphabet takes the byte zero. -/
theorem position_zero (some_letter : 0 < n) (small : n ≤ 256) :
    (position some_letter 0).isSome := by
  have valid : (0 : UInt8).toNat < maxValidByte n := by
    rw [maxValidByte_eq]
    exact Nat.mul_pos some_letter (Nat.div_pos small some_letter)
  rw [position, if_pos valid]
  rfl

/-! ## The loop -/

section

variable {α : Type} {length : Nat} {alphabet : List α}

/-- The letters of the bytes that are not rejected. -/
def letters (some_letter : 0 < alphabet.length) (source : List UInt8) : List α :=
  (labels (position some_letter) source).map alphabet.get

theorem letters_split (some_letter : 0 < alphabet.length) (source : List UInt8) (size : Nat) :
    letters some_letter source =
      letters some_letter (source.take size) ++ letters some_letter (source.drop size) := by
  rw [letters, letters, letters, ← List.map_append, labels, labels, labels,
    ← List.filterMap_append, List.take_append_drop]

/-- Cutting a list twice is cutting it once. -/
theorem take_take_append (xs ys : List α) (k : Nat) :
    (xs.take k ++ ys).take k = (xs ++ ys).take k := by
  by_cases long : k ≤ xs.length
  · have cut : k ≤ (xs.take k).length := by
      rw [List.length_take]
      omega
    rw [List.take_append_of_le_length cut, List.take_append_of_le_length long, List.take_take,
      Nat.min_self]
  · rw [List.take_of_length_le (not_le.mp long).le]

theorem readBatch_eq (some_letter : 0 < alphabet.length) (bytes : List UInt8) {result : List α}
    (short : result.length ≤ length) :
    readBatch length alphabet bytes result =
      (result ++ letters some_letter bytes).take length := by
  induction bytes generalizing result with
  | nil => simp [readBatch, letters, short]
  | cons byte rest ih =>
    rw [readBatch]
    split
    · rename_i room
      by_cases valid : byte.toNat < maxValidByte alphabet.length
      · have kept : position some_letter byte =
            some ⟨byte.toNat % alphabet.length, Nat.mod_lt _ some_letter⟩ := if_pos valid
        have letter : alphabet[byte.toNat % alphabet.length]?.toList =
            [alphabet.get ⟨byte.toNat % alphabet.length, Nat.mod_lt _ some_letter⟩] := by
          rw [List.getElem?_eq_getElem (Nat.mod_lt _ some_letter)]
          rfl
        rw [if_pos valid, ih (by simp [letter]; omega), letter, letters, letters,
          labels_kept _ kept]
        simp
      · have rejected : position some_letter byte = none := if_neg valid
        rw [if_neg valid, ih short, letters, letters, labels_rejected _ rejected]
    · rename_i full
      rw [List.take_append_of_le_length (by omega), List.take_of_length_le short]

/-- Whether the loop ends depends on which of the bytes are rejected only. -/
def finishes (length : Nat) : Nat → List Bool → Nat → Bool
  | 0, _, _ => false
  | rounds + 1, pattern, found =>
    if found < length then
      let size := batchSize (length - found)
      if pattern.length < size then false
      else finishes length rounds (pattern.drop size)
        (min length (found + (pattern.take size).count true))
    else true

theorem batchSize_mono {first second : Nat} (le : first ≤ second) :
    batchSize first ≤ batchSize second := by
  unfold batchSize
  omega

/-- What the loop gives is what the bytes have letters for, when there are enough. -/
theorem sampleLoop_eq (some_letter : 0 < alphabet.length) (served : batchSize length ≤ quota)
    (rounds : Nat) (source : List UInt8) {result : List α} (short : result.length ≤ length) :
    sampleLoop length alphabet rounds source result =
      .ok (if finishes length rounds (pattern (position some_letter) source) result.length then
        some ((result ++ letters some_letter source).take length) else none) := by
  induction rounds generalizing source result with
  | zero => rfl
  | succ rounds ih =>
    rw [sampleLoop, finishes]
    by_cases room : result.length < length
    · have within : ¬quota < batchSize (length - result.length) :=
        not_lt.mpr ((batchSize_mono (Nat.sub_le _ _)).trans served)
      have count : (pattern (position some_letter) source).length = source.length :=
        List.length_map _
      simp only [room, if_true, within, if_false, count]
      by_cases few : source.length < batchSize (length - result.length)
      · simp [few]
      · have batch := readBatch_eq some_letter
          (source.take (batchSize (length - result.length))) short
        have longer : (readBatch length alphabet
            (source.take (batchSize (length - result.length))) result).length =
              min length (result.length + ((pattern (position some_letter) source).take
                (batchSize (length - result.length))).count true) := by
          rw [batch, List.length_take, List.length_append, letters, List.length_map,
            length_labels, pattern, pattern, List.map_take]
        have later : (pattern (position some_letter) source).drop
            (batchSize (length - result.length)) =
              pattern (position some_letter)
                (source.drop (batchSize (length - result.length))) := by
          rw [pattern, pattern, List.map_drop]
        simp only [few, if_false]
        rw [ih _ (by rw [longer]; exact Nat.min_le_left _ _), longer, later, batch,
          take_take_append, List.append_assoc, ← letters_split]
    · have full : result.length = length := by omega
      simp only [room, if_false, if_true]
      rw [List.take_append_of_le_length full.ge, List.take_of_length_le full.le]

theorem finishes_full {rounds found : Nat} (drawn : List Bool) (full : length ≤ found)
    (some_round : 0 < rounds) : finishes length rounds drawn found = true := by
  cases rounds with
  | zero => cases some_round
  | succ rounds => exact if_neg (not_lt.mpr full)

/-- A run ends when the first bytes have letters enough and a batch more is there. -/
theorem finishes_of_enough {rounds : Nat} {drawn : List Bool} {found : Nat} (enough : Nat)
    (covered : length ≤ found + (drawn.take enough).count true)
    (more : enough + batchSize length ≤ drawn.length) (often : enough < rounds) :
    finishes length rounds drawn found = true := by
  induction rounds generalizing drawn found enough with
  | zero => omega
  | succ rounds ih =>
    rw [finishes]
    split
    · rename_i room
      have size_le : batchSize (length - found) ≤ batchSize length :=
        batchSize_mono (Nat.sub_le _ _)
      have positive : 0 < batchSize (length - found) := by
        unfold batchSize
        omega
      have some_byte : 0 < enough := by
        rcases Nat.eq_zero_or_pos enough with rfl | positive
        · simp at covered
          omega
        · exact positive
      generalize batchSize (length - found) = size at *
      simp only [show ¬drawn.length < size by omega, if_false]
      by_cases reached : length ≤ found + (drawn.take size).count true
      · rw [Nat.min_eq_left reached]
        exact finishes_full _ le_rfl (by omega)
      · have beyond : size < enough := by
          by_contra within
          have counted : (drawn.take enough).count true ≤ (drawn.take size).count true :=
            (List.take_sublist_take_left (not_lt.mp within)).count_le true
          omega
        have split : (drawn.take enough).count true =
            (drawn.take size).count true + ((drawn.drop size).take (enough - size)).count true := by
          rw [← List.count_append, ← List.take_add]
          congr 2
          omega
        rw [Nat.min_eq_right (by omega)]
        refine ih (enough - size) (by omega) ?_ (by omega)
        rw [List.length_drop]
        omega
    · rfl

/-- The string is finished by the letters of the bytes alone. -/
theorem length_of_finishes {rounds : Nat} {drawn : List Bool} {found : Nat}
    (finished : finishes length rounds drawn found = true) :
    length ≤ found + drawn.count true := by
  induction rounds generalizing drawn found with
  | zero => cases finished
  | succ rounds ih =>
    rw [finishes] at finished
    split at finished
    · simp only at finished
      split at finished
      · cases finished
      · have later := ih finished
        have split := List.take_append_drop (batchSize (length - found)) drawn
        have count := congrArg (List.count true) split
        rw [List.count_append] at count
        omega
    · omega

/-- The strings are the first letters of the bytes that suffice for them. -/
theorem sampleLoop_eq_some_iff (some_letter : 0 < alphabet.length)
    (served : batchSize length ≤ quota) (rounds : Nat) (source : List UInt8) {text : List α} :
    sampleLoop length alphabet rounds source [] = .ok (some text) ↔
      finishes length rounds (pattern (position some_letter) source) 0 = true ∧
        text = (letters some_letter source).take length := by
  rw [sampleLoop_eq some_letter served rounds source (Nat.zero_le _)]
  simp only [List.length_nil, List.nil_append]
  split
  · rename_i finished
    simp [finished, eq_comm]
  · rename_i unfinished
    simp [unfinished]

theorem length_text (some_letter : 0 < alphabet.length) (served : batchSize length ≤ quota)
    {rounds : Nat} {source : List UInt8} {text : List α}
    (drawn : sampleLoop length alphabet rounds source [] = .ok (some text)) :
    text.length = length := by
  obtain ⟨finished, rfl⟩ := (sampleLoop_eq_some_iff some_letter served rounds source).mp drawn
  have enough := length_of_finishes finished
  rw [List.length_take, letters, List.length_map, length_labels]
  omega

end

/-! ## Strings without bias -/

/-- The first bytes of a stream. -/
def drawn (stream : Nat → UInt8) (count : Nat) : List UInt8 := (List.range count).map stream

/-- What sampling from an alphabet promises. -/
structure Unbiased {α : Type} (length : Nat) (alphabet : List α) : Prop where
  accepts : ∃ byte : UInt8, byte.toNat < maxValidByte alphabet.length
  even : ∀ i < alphabet.length, ∀ j < alphabet.length,
    (Finset.univ.filter fun byte : UInt8 =>
        byte.toNat < maxValidByte alphabet.length ∧ byte.toNat % alphabet.length = i).card =
      (Finset.univ.filter fun byte : UInt8 =>
        byte.toNat < maxValidByte alphabet.length ∧ byte.toNat % alphabet.length = j).card
  /-- Wherever the loop stands, a batch may finish it. -/
  progress : ∀ result : List α, result.length < length →
    ∃ batch, batch.length = batchSize (length - result.length) ∧
      (readBatch length alphabet batch result).length = length
  /-- It ends on every stream in which accepted bytes do not stop to come. -/
  ends : ∀ stream : Nat → UInt8,
    (∀ k, ∃ m, k ≤ m ∧ (stream m).toNat < maxValidByte alphabet.length) →
      ∃ rounds count text, text.length = length ∧
        secureRandomString length alphabet rounds (drawn stream count) = .ok (some text)
  /-- Letters are drawn by their positions. -/
  positions : ∀ rounds source, secureRandomString length alphabet rounds source =
    (secureRandomString length (List.finRange alphabet.length) rounds source).map
      (Option.map (List.map alphabet.get))
  /-- Of the sequences of bytes, as many give one string of positions as another. -/
  uniform : ∀ rounds count (first second : List (Fin alphabet.length)),
    first.length = length → second.length = length →
      (Finset.univ.filter fun bytes : Fin count → UInt8 =>
          secureRandomString length (List.finRange alphabet.length) rounds (List.ofFn bytes) =
            .ok (some first)).card =
        (Finset.univ.filter fun bytes : Fin count → UInt8 =>
          secureRandomString length (List.finRange alphabet.length) rounds (List.ofFn bytes) =
            .ok (some second)).card

section

variable {α : Type} {length : Nat} {alphabet : List α}

/-- A string that is accepted draws no more than the quota at once. -/
theorem Accepted.served (accepted : Accepted length alphabet) (some_letter : 0 < alphabet.length) :
    batchSize length ≤ quota := by
  by_contra exceeds
  have some_length : 0 < length := by
    rcases Nat.eq_zero_or_pos length with rfl | positive
    · exact absurd (by decide) exceeds
    · exact positive
  refine accepted 1 [] .quotaExceeded ?_
  rw [secureRandomString, if_neg some_length.ne', if_neg some_letter.ne', sampleLoop,
    List.length_nil, if_pos some_length]
  exact if_pos (not_le.mp exceeds)

theorem secureRandomString_eq (some_length : 0 < length) (some_letter : 0 < alphabet.length)
    (rounds : Nat) (source : List UInt8) :
    secureRandomString length alphabet rounds source =
      sampleLoop length alphabet rounds source [] := by
  rw [secureRandomString, if_neg some_length.ne', if_neg some_letter.ne']

/-- Letters that are their own positions. -/
theorem letters_finRange (some_letter : 0 < n) (some_position : 0 < (List.finRange n).length)
    (source : List UInt8) :
    letters some_position source = labels (position some_letter) source := by
  rw [letters, labels, labels, List.map_filterMap]
  refine List.filterMap_congr fun byte _ => ?_
  have same : (List.finRange n).length = n := List.length_finRange
  by_cases valid : byte.toNat < maxValidByte n
  · simp [position, same, valid]
  · simp [position, same, valid]

theorem pattern_finRange (some_letter : 0 < n) (some_position : 0 < (List.finRange n).length)
    (source : List UInt8) :
    pattern (position some_position) source = pattern (position some_letter) source := by
  refine List.map_congr_left fun byte _ => ?_
  have same : (List.finRange n).length = n := List.length_finRange
  by_cases valid : byte.toNat < maxValidByte n
  · simp [position, same, valid]
  · simp [position, same, valid]

theorem letters_map (some_letter : 0 < alphabet.length)
    (some_position : 0 < (List.finRange alphabet.length).length) (source : List UInt8) :
    letters some_letter source = (letters some_position source).map alphabet.get := by
  rw [letters_finRange some_letter, letters]

/-- Letters are drawn by their positions. -/
theorem secureRandomString_positions (some_letter : 0 < alphabet.length)
    (served : batchSize length ≤ quota) (rounds : Nat) (source : List UInt8) :
    secureRandomString length alphabet rounds source =
      (secureRandomString length (List.finRange alphabet.length) rounds source).map
        (Option.map (List.map alphabet.get)) := by
  have some_position : 0 < (List.finRange alphabet.length).length := by
    rwa [List.length_finRange]
  rcases Nat.eq_zero_or_pos length with rfl | some_length
  · rfl
  · rw [secureRandomString_eq some_length some_letter,
      secureRandomString_eq some_length some_position,
      sampleLoop_eq some_letter served rounds source (Nat.zero_le _),
      sampleLoop_eq some_position served rounds source (Nat.zero_le _)]
    rw [pattern_finRange some_letter, letters_map some_letter some_position]
    by_cases finished :
        finishes length rounds (pattern (position some_letter) source) ([] : List α).length
    · have other : finishes length rounds (pattern (position some_letter) source)
          ([] : List (Fin alphabet.length)).length := finished
      rw [if_pos finished, if_pos other]
      simp [Except.map, List.map_take]
    · have other : ¬finishes length rounds (pattern (position some_letter) source)
          ([] : List (Fin alphabet.length)).length := finished
      rw [if_neg finished, if_neg other]
      rfl

/-- The strings of positions begin the labels of the bytes. -/
theorem secureRandomString_finRange (some_length : 0 < length) (some_letter : 0 < n)
    (served : batchSize length ≤ quota) (rounds : Nat) (source : List UInt8)
    {text : List (Fin n)} (complete : text.length = length) :
    secureRandomString length (List.finRange n) rounds source = .ok (some text) ↔
      finishes length rounds (pattern (position some_letter) source) 0 = true ∧
        text <+: labels (position some_letter) source := by
  have some_position : 0 < (List.finRange n).length := by
    rwa [List.length_finRange]
  rw [secureRandomString_eq some_length some_position,
    sampleLoop_eq_some_iff some_position served, pattern_finRange some_letter,
    letters_finRange some_letter, List.prefix_iff_eq_take, complete]

theorem uniform_finRange (some_letter : 0 < n) (served : batchSize length ≤ quota)
    (rounds count : Nat) {first second : List (Fin n)} (complete : first.length = length)
    (also : second.length = length) :
    (Finset.univ.filter fun bytes : Fin count → UInt8 =>
        secureRandomString length (List.finRange n) rounds (List.ofFn bytes) =
          .ok (some first)).card =
      (Finset.univ.filter fun bytes : Fin count → UInt8 =>
        secureRandomString length (List.finRange n) rounds (List.ofFn bytes) =
          .ok (some second)).card := by
  rcases Nat.eq_zero_or_pos length with rfl | some_length
  · rw [List.length_eq_zero_iff.mp complete, List.length_eq_zero_iff.mp also]
  · have counted {text : List (Fin n)} (complete : text.length = length) :
        (Finset.univ.filter fun bytes : Fin count → UInt8 =>
            secureRandomString length (List.finRange n) rounds (List.ofFn bytes) =
              .ok (some text)).card =
          beginning (position some_letter) count
            (fun drawn => finishes length rounds drawn 0 = true) text :=
      congrArg Finset.card <| Finset.filter_congr fun bytes _ =>
        secureRandomString_finRange some_length some_letter served rounds (List.ofFn bytes) complete
    rw [counted complete, counted also]
    exact beginning_eq (position_fair some_letter) count _ (complete.trans also.symm)

/-- Bytes that are all zero finish any batch. -/
theorem readBatch_zeros (some_letter : 0 < alphabet.length) (small : alphabet.length ≤ 256)
    {result : List α} (room : result.length < length) :
    (readBatch length alphabet (List.replicate (batchSize (length - result.length)) 0)
      result).length = length := by
  rw [readBatch_eq some_letter _ room.le, List.length_take, List.length_append, letters,
    List.length_map, length_labels, pattern, List.map_replicate, position_zero some_letter small,
    List.count_replicate_self]
  unfold batchSize
  omega

theorem drawn_succ (stream : Nat → UInt8) (count : Nat) :
    drawn stream (count + 1) = drawn stream count ++ [stream count] := by
  rw [drawn, List.range_succ, List.map_append]
  rfl

theorem length_drawn (stream : Nat → UInt8) (count : Nat) :
    (drawn stream count).length = count := by
  rw [drawn, List.length_map, List.length_range]

theorem take_drawn (stream : Nat → UInt8) {first count : Nat} (le : first ≤ count) :
    (drawn stream count).take first = drawn stream first := by
  rw [drawn, ← List.map_take, List.take_range, Nat.min_eq_left le]
  rfl

/-- Accepted bytes that do not stop to come are as many as needed. -/
theorem enough_drawn (some_letter : 0 < n) {stream : Nat → UInt8}
    (often : ∀ k, ∃ m, k ≤ m ∧ (stream m).toNat < maxValidByte n) (wanted : Nat) :
    ∃ count, wanted ≤ (pattern (position some_letter) (drawn stream count)).count true := by
  induction wanted with
  | zero => exact ⟨0, Nat.zero_le _⟩
  | succ wanted ih =>
    obtain ⟨count, enough⟩ := ih
    obtain ⟨m, later, valid⟩ := often count
    refine ⟨m + 1, ?_⟩
    have kept : (position some_letter (stream m)).isSome = true := by
      rw [position, if_pos valid]
      rfl
    have before : (pattern (position some_letter) (drawn stream count)).count true ≤
        (pattern (position some_letter) (drawn stream m)).count true := by
      rw [← take_drawn stream later]
      exact ((List.take_sublist _ _).map _).count_le true
    rw [drawn_succ, pattern, List.map_append, List.count_append, List.map_singleton, kept]
    simpa [pattern] using enough.trans before

theorem sampleLoop_ends (some_letter : 0 < alphabet.length) (served : batchSize length ≤ quota)
    {stream : Nat → UInt8}
    (often : ∀ k, ∃ m, k ≤ m ∧ (stream m).toNat < maxValidByte alphabet.length) :
    ∃ rounds count text,
      sampleLoop length alphabet rounds (drawn stream count) [] = .ok (some text) := by
  obtain ⟨enough, covered⟩ := enough_drawn some_letter often length
  refine ⟨enough + 1, enough + batchSize length, _,
    (sampleLoop_eq_some_iff some_letter served _ _).mpr ⟨?_, rfl⟩⟩
  refine finishes_of_enough enough ?_ ?_ (Nat.lt_succ_self enough)
  · rw [pattern, ← List.map_take, take_drawn stream (Nat.le_add_right _ _), zero_add]
    exact covered
  · rw [pattern, List.length_map, length_drawn]

theorem Unbiased.of_small (some_letter : 0 < alphabet.length) (served : batchSize length ≤ quota)
    (small : alphabet.length ≤ 256) : Unbiased length alphabet where
  accepts := by
    refine ⟨0, ?_⟩
    rw [maxValidByte_eq]
    exact Nat.mul_pos some_letter (Nat.div_pos small some_letter)
  even i below j within := by
    have share {i : Nat} (below : i < alphabet.length) :
        (Finset.univ.filter fun byte : UInt8 => byte.toNat < maxValidByte alphabet.length ∧
          byte.toNat % alphabet.length = i).card = 256 / alphabet.length := by
      rw [← card_position some_letter ⟨i, below⟩]
      refine congrArg Finset.card (Finset.filter_congr fun byte _ => ?_)
      rw [position_eq_some_iff, maxValidByte_eq]
    rw [share below, share within]
  progress result room :=
    ⟨_, List.length_replicate, readBatch_zeros some_letter small room⟩
  ends stream often := by
    rcases Nat.eq_zero_or_pos length with rfl | some_length
    · exact ⟨0, 0, [], rfl, rfl⟩
    · obtain ⟨rounds, count, text, done⟩ := sampleLoop_ends some_letter served often
      refine ⟨rounds, count, text, length_text some_letter served done, ?_⟩
      rw [secureRandomString_eq some_length some_letter, done]
  positions rounds source := secureRandomString_positions some_letter served rounds source
  uniform rounds count _ _ complete also :=
    uniform_finRange some_letter served rounds count complete also

theorem accepted_of_served (some_letter : 0 < alphabet.length)
    (served : batchSize length ≤ quota) : Accepted length alphabet := by
  intro rounds source error
  rcases Nat.eq_zero_or_pos length with rfl | some_length
  · simp [secureRandomString]
  · rw [secureRandomString_eq some_length some_letter,
      sampleLoop_eq some_letter served rounds source (Nat.zero_le _)]
    simp

/-- No byte is below the threshold of an alphabet that is too long. -/
theorem rejected_of_large (large : 256 < alphabet.length) (byte : UInt8) :
    ¬byte.toNat < maxValidByte alphabet.length := by
  rw [maxValidByte_of_large large]
  exact Nat.not_lt_zero _

/-- The loop draws batch after batch then. -/
theorem stuck_of_large (large : 256 < alphabet.length) (some_length : 0 < length)
    (served : batchSize length ≤ quota) (rounds : Nat) (source : List UInt8) :
    secureRandomString length alphabet rounds source = .ok none := by
  have some_letter : 0 < alphabet.length := by omega
  have none_kept : (pattern (position some_letter) source).count true = 0 := by
    refine List.count_eq_zero.mpr fun mem => ?_
    obtain ⟨byte, -, kept⟩ := List.mem_map.mp mem
    rw [position, if_neg (rejected_of_large large byte)] at kept
    cases kept
  have unfinished : ¬finishes length rounds (pattern (position some_letter) source) 0 = true := by
    intro finished
    have enough := length_of_finishes finished
    omega
  rw [secureRandomString_eq some_length some_letter,
    sampleLoop_eq some_letter served rounds source (Nat.zero_le _)]
  exact congrArg Except.ok (if_neg unfinished)

end

def defaultAlphabet : List UInt16 :=
  "ABCDEFGHIJKLMNOPQRSTUVWXYZabcdefghijklmnopqrstuvwxyz0123456789".toList.map fun c =>
    UInt16.ofNat c.toNat

theorem unbiased_iff (length : Nat) (alphabet : List UInt16) (nonempty : alphabet ≠ [])
    (accepted : Accepted length alphabet) :
    Unbiased length alphabet ↔ alphabet.length ≤ 256 := by
  have some_letter : 0 < alphabet.length := List.length_pos_of_ne_nil nonempty
  constructor
  · intro unbiased
    by_contra large
    obtain ⟨byte, valid⟩ := unbiased.accepts
    exact rejected_of_large (not_le.mp large) byte valid
  · exact Unbiased.of_small some_letter (accepted.served some_letter)

theorem unbiased_default : Unbiased 16 defaultAlphabet :=
  (unbiased_iff 16 defaultAlphabet (by decide)
    (accepted_of_served (by decide) (by decide))).mpr (by decide)

/-- A letter more than there are bytes. -/
def wideAlphabet : List UInt16 := (List.range 257).map UInt16.ofNat

/-- With a letter too many, no bytes give a string of one letter. -/
theorem large_alphabet_stuck :
    Accepted 1 wideAlphabet ∧
      (∀ rounds source, secureRandomString 1 wideAlphabet rounds source = .ok none) ∧
      ¬Unbiased 1 wideAlphabet := by
  have large : 256 < wideAlphabet.length := by
    rw [wideAlphabet, List.length_map, List.length_range]
    decide
  refine ⟨accepted_of_served (by omega) (by decide),
    stuck_of_large large (by decide) (by decide), fun unbiased => ?_⟩
  obtain ⟨byte, valid⟩ := unbiased.accepts
  exact rejected_of_large large byte valid

end KeyCollective.RandomStrings
