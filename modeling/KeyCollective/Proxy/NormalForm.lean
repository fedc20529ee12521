import KeyCollective.Decimal
import KeyCollective.Proxy.Blocks

/-!
# The text of events mode

Events mode writes each event it reads as lines of its own. Reading these lines again gives the
event back, with the retry time as far as `parseInt` reads the text of a number: not from 10^21
on, where that text is exponential.
-/

namespace KeyCollective.Sse

/-! ## The text of a number -/

def unit (c : Char) : UInt16 := c.toNat.toUInt16

/-- A visible ASCII character. -/
def Visible (c : Char) : Prop := 33 ≤ c.toNat ∧ c.toNat ≤ 126

instance : DecidablePred Visible := fun _ => inferInstanceAs (Decidable (_ ∧ _))

theorem Visible.toNat_unit {c : Char} (visible : Visible c) : (unit c).toNat = c.toNat := by
  obtain ⟨_, high⟩ := visible
  exact Nat.mod_eq_of_lt (by omega)

theorem Visible.isSpaceUnit {c : Char} (visible : Visible c) : isSpaceUnit (unit c) = false := by
  have read := visible.toNat_unit
  obtain ⟨low, high⟩ := visible
  rw [Sse.isSpaceUnit, read, Char.ofNat_toNat, isWhiteSpace, decide_eq_false_iff_not]
  simp only [List.mem_cons, List.not_mem_nil, or_false]
  omega

theorem visible_of_isDigit {c : Char} (digit : c.isDigit = true) : Visible c := by
  obtain ⟨low, high⟩ := Char.isDigit_iff_toNat.mp digit
  change 48 ≤ c.toNat at low
  change c.toNat ≤ 57 at high
  unfold Visible
  omega

theorem units_ofList {cs : List Char} (visible : ∀ c ∈ cs, Visible c) :
    units (String.ofList cs) = cs.map unit := by
  rw [units, String.toList_ofList]
  induction cs with
  | nil => rfl
  | cons c cs ih =>
    obtain ⟨_, high⟩ := visible c List.mem_cons_self
    rw [List.flatMap_cons, List.map_cons, ih fun c mem => visible c (List.mem_cons_of_mem _ mem),
      utf16, if_pos (by omega)]
    rfl

/-- One space and the spaces around a text are trimmed. -/
theorem trimText_visible {cs : List Char} (visible : ∀ c ∈ cs, Visible c) :
    trimText (32 :: cs.map unit) = cs.map unit := by
  have ends : ∀ {cs : List Char}, (∀ c ∈ cs, Visible c) →
      (cs.map unit).dropWhile isSpaceUnit = cs.map unit := by
    intro cs visible
    cases cs with
    | nil => rfl
    | cons c cs =>
      rw [List.map_cons, List.dropWhile_cons, (visible c List.mem_cons_self).isSpaceUnit]
      rfl
  have back : ∀ c ∈ cs.reverse, Visible c := fun c mem => visible c (List.mem_reverse.mp mem)
  rw [trimText, List.dropWhile_cons, if_pos (by decide), ends visible, ← List.map_reverse,
    ends back, List.map_reverse, List.reverse_reverse]

/-- The text starts with no digit. -/
def Stops (tail : Text) : Prop := ∀ unit, tail.head? = some unit → ¬(48 ≤ unit ∧ unit ≤ 57)

theorem takeWhile_digits {cs : List Char} (digits : ∀ c ∈ cs, c.isDigit = true) {tail : Text}
    (stops : Stops tail) :
    (cs.map unit ++ tail).takeWhile (fun unit => 48 ≤ unit ∧ unit ≤ 57) = cs.map unit := by
  induction cs with
  | nil =>
    cases tail with
    | nil => rfl
    | cons first rest =>
      rw [List.map_nil, List.nil_append, List.takeWhile_cons, if_neg]
      simpa using stops first rfl
  | cons c cs ih =>
    have read := (visible_of_isDigit (digits c List.mem_cons_self)).toNat_unit
    obtain ⟨low, high⟩ := Char.isDigit_iff_toNat.mp (digits c List.mem_cons_self)
    change 48 ≤ c.toNat at low
    change c.toNat ≤ 57 at high
    rw [List.map_cons, List.cons_append, List.takeWhile_cons, if_pos,
      ih fun c mem => digits c (List.mem_cons_of_mem _ mem)]
    rw [decide_eq_true_iff, UInt16.le_iff_toNat_le, UInt16.le_iff_toNat_le, read]
    exact ⟨low, high⟩

theorem foldl_digits {cs : List Char} (digits : ∀ c ∈ cs, c.isDigit = true) (value : Nat) :
    (cs.map unit).foldl (fun value unit => 10 * value + (unit.toNat - 48)) value =
      Nat.ofDigitChars 10 cs value := by
  induction cs generalizing value with
  | nil => rfl
  | cons c cs ih =>
    have read := (visible_of_isDigit (digits c List.mem_cons_self)).toNat_unit
    rw [List.map_cons, List.foldl_cons, read, ih fun c mem => digits c (List.mem_cons_of_mem _ mem)]
    rfl

/-- Digits are read up to the first other unit. -/
theorem parseInt_digits {first : Char} {cs : List Char}
    (digits : ∀ c ∈ first :: cs, c.isDigit = true) {tail : Text} (stops : Stops tail) :
    parseInt ((first :: cs).map unit ++ tail) =
        .ofInt (Nat.ofDigitChars 10 (first :: cs) 0) ∧
      parseInt (45 :: ((first :: cs).map unit ++ tail)) =
        .ofInt (-(Nat.ofDigitChars 10 (first :: cs) 0 : Int)) := by
  have taken := takeWhile_digits digits stops
  have value := foldl_digits digits 0
  have read := (visible_of_isDigit (digits first List.mem_cons_self)).toNat_unit
  obtain ⟨low, high⟩ := Char.isDigit_iff_toNat.mp (digits first List.mem_cons_self)
  change 48 ≤ first.toNat at low
  have sign : unit first ≠ 45 ∧ unit first ≠ 43 := by
    constructor <;> intro same <;> rw [same] at read <;> simp at read <;> omega
  rw [List.map_cons] at taken value ⊢
  constructor
  · unfold parseInt
    split
    rename_i read
    split at read
    · rename_i minus
      exact absurd (List.cons.inj minus).1 sign.1
    · rename_i plus
      exact absurd (List.cons.inj plus).1 sign.2
    · cases read
      simp only [taken, value]
      rfl
  · unfold parseInt
    split
    rename_i read
    cases read
    simp only [taken, value]
    rfl

/-! ## The text of a retry time -/

/-- The number is written without an exponent. -/
def Plain : Number → Prop
  | .finite value => |value| < 10 ^ 21
  | _ => False

/-- What `parseInt` reads of the text of an integer: a decimal for it, or its first digit. -/
structure IntegerText (x : Nat) (first : Char) (cs tail : List Char) : Prop where
  text : naturalText x = first :: cs ++ tail
  digits : ∀ c ∈ first :: cs, c.isDigit = true
  visible : ∀ c ∈ tail, Visible c
  stops : Stops (tail.map unit)
  plain : x < 10 ^ 21 → Number.ofInt (Nat.ofDigitChars 10 (first :: cs) 0) = .finite x
  exponential : 10 ^ 21 ≤ x → Nat.ofDigitChars 10 (first :: cs) 0 < 10

theorem isDigit_toDigits_cons {n : Nat} {first : Char} {rest : List Char}
    (split : Nat.toDigits 10 n = first :: rest) : ∀ c ∈ first :: rest, c.isDigit = true :=
  fun c mem => Nat.isDigit_of_mem_toDigits (by decide) (by decide) (split ▸ mem)

theorem visible_fractionDigits {cs : List Char} (visible : ∀ c ∈ cs, Visible c) :
    ∀ c ∈ fractionDigits cs, Visible c := fun c mem =>
  visible c (List.mem_reverse.mp ((List.dropWhile_suffix _).subset (List.mem_reverse.mp mem)))

/-- What follows the first digit of a number that is written with an exponent. -/
theorem visible_exponentTail {rest : List Char} (shown : ∀ c ∈ rest, Visible c) :
    ∀ c ∈ (if fractionDigits rest = [] then [] else '.' :: fractionDigits rest) ++
      'e' :: '+' :: Nat.toDigits 10 rest.length, Visible c := by
  intro c mem
  rcases List.mem_append.mp mem with point | exponent
  · split at point
    case isTrue => cases point
    case isFalse =>
      rcases List.mem_cons.mp point with rfl | digit
      · decide
      · exact visible_fractionDigits shown c digit
  · simp only [List.mem_cons] at exponent
    rcases exponent with rfl | rfl | digit
    · decide
    · decide
    · exact visible_of_isDigit (Nat.isDigit_of_mem_toDigits (by decide) (by decide) digit)

theorem integerText_exists {x : Nat} (number : Number.ofInt x = .finite x) :
    ∃ first cs tail, IntegerText x first cs tail := by
  cases split : Nat.toDigits 10 (shortestDecimal x) with
  | nil => exact absurd split Nat.toDigits_ne_nil
  | cons first rest =>
    have digits := isDigit_toDigits_cons split
    by_cases small : x < 10 ^ 21
    · refine ⟨first, rest, [], ?_, digits, by simp, by simp [Stops], fun _ => ?_, ?_⟩
      · rw [naturalText, if_pos small, split, List.append_nil]
      · rw [← split, Nat.ofDigitChars_ten_toDigits]
        exact ofInt_shortestDecimal number
      · intro large
        omega
    · have shown : ∀ c ∈ rest, Visible c := fun c mem =>
        visible_of_isDigit (digits c (List.mem_cons_of_mem _ mem))
      refine ⟨first, [], (if fractionDigits rest = [] then [] else '.' :: fractionDigits rest) ++
        'e' :: '+' :: Nat.toDigits 10 rest.length, ?_, ?_, ?_, ?_, ?_, ?_⟩
      · rw [naturalText, if_neg small, exponentialText, split]
        rfl
      · intro c mem
        rw [List.mem_singleton.mp mem]
        exact digits first List.mem_cons_self
      · exact visible_exponentTail shown
      · intro first same
        split at same <;> cases same <;> decide
      · intro less
        omega
      · intro _
        obtain ⟨low, high⟩ := Char.isDigit_iff_toNat.mp (digits first List.mem_cons_self)
        change first.toNat ≤ 57 at high
        change 10 * 0 + (first.toNat - 48) < 10
        omega

theorem natAbs_isNumber {m : Int} (number : Number.ofInt m = .finite m) :
    Number.ofInt m.natAbs = .finite (m.natAbs : Int) := by
  rcases Int.natAbs_eq m with natural | negative
  · rw [← natural]
    exact number
  · have flipped := Number.ofInt_neg number
    have abs : -m = (m.natAbs : Int) := by omega
    rw [abs] at flipped
    exact flipped

theorem plain_finite_iff {m : Int} : Plain (.finite m) ↔ m.natAbs < 10 ^ 21 := by
  have cast : |(m : ℚ)| = ((m.natAbs : Nat) : ℚ) := by
    rw [Nat.cast_natAbs, Int.cast_abs]
  rw [Plain, cast]
  exact_mod_cast Iff.rfl

theorem parseInt_signedDigits {m : Int} {first : Char} {cs tail : List Char}
    (digits : ∀ c ∈ first :: cs, c.isDigit = true) (stops : Stops (tail.map unit)) :
    parseInt ((if m < 0 then '-' :: (first :: cs ++ tail) else first :: cs ++ tail).map unit) =
      .ofInt (if m < 0 then -(Nat.ofDigitChars 10 (first :: cs) 0 : Int)
        else Nat.ofDigitChars 10 (first :: cs) 0) := by
  obtain ⟨positive, negative⟩ := parseInt_digits digits stops
  split
  · rw [List.map_cons, List.map_append]
    exact negative
  · rw [List.map_append]
    exact positive

section

attribute [local instance] shortestText

theorem units_text {m : Int} {first : Char} {cs tail : List Char}
    (text : IntegerText m.natAbs first cs tail) :
    ∃ written : List Char, units (Number.finite m).text = written.map unit ∧
      (∀ c ∈ written, Visible c) ∧
      written = if m < 0 then '-' :: (first :: cs ++ tail) else first :: cs ++ tail := by
  have visible : ∀ c ∈ first :: cs ++ tail, Visible c := by
    intro c mem
    rcases List.mem_append.mp mem with digit | rest
    · exact visible_of_isDigit (text.digits c digit)
    · exact text.visible c rest
  have shown : ∀ c ∈ (if m < 0 then '-' :: (first :: cs ++ tail) else first :: cs ++ tail),
      Visible c := by
    intro c mem
    split at mem
    case isTrue =>
      rcases List.mem_cons.mp mem with rfl | rest
      · decide
      · exact visible c rest
    case isFalse => exact visible c mem
  refine ⟨_, ?_, shown, rfl⟩
  rw [← units_ofList shown, ← text.text]
  rfl

/-- The text of a number is read back as the number just when it is written without exponent. -/
theorem parseInt_text {retry : Number} (read : ∃ n, Number.ofInt n = retry) :
    parseInt (trimText (32 :: units retry.text)) = retry ↔ Plain retry := by
  obtain ⟨n, rfl⟩ := read
  rcases Number.ofInt_cases n with ⟨m, value⟩ | infinite | infinite
  · have number := Number.ofInt_of_ofInt value
    rw [value]
    obtain ⟨first, cs, tail, text⟩ := integerText_exists (natAbs_isNumber number)
    obtain ⟨written, units_eq, visible, rfl⟩ := units_text text
    rw [units_eq, trimText_visible visible]
    rw [parseInt_signedDigits text.digits text.stops, plain_finite_iff]
    constructor
    · intro same
      by_contra large
      have digit := text.exponential (not_lt.mp large)
      split at same
      case isTrue =>
        rw [Number.ofInt_of_natAbs_lt (by omega)] at same
        have value : -(Nat.ofDigitChars 10 (first :: cs) 0 : Int) = m := by
          exact_mod_cast Number.finite.inj same
        omega
      case isFalse =>
        rw [Number.ofInt_of_natAbs_lt (by omega)] at same
        have value : (Nat.ofDigitChars 10 (first :: cs) 0 : Int) = m := by
          exact_mod_cast Number.finite.inj same
        omega
    · intro small
      have plain := text.plain small
      split
      case isTrue negative =>
        have flipped := Number.ofInt_neg (m := m.natAbs) plain
        have value : -(m.natAbs : Int) = m := by omega
        rw [flipped, value]
      case isFalse natural =>
        have value : (m.natAbs : Int) = m := by omega
        rw [plain, ← value]
        rfl
  · rw [infinite]
    exact iff_of_false (by decide) id
  · rw [infinite]
    exact iff_of_false (by decide) id

end

/-! ## Lines without a line break -/

/-- The text has no line break. -/
def Unbroken (text : Text) : Prop := 10 ∉ text ∧ 13 ∉ text

theorem Unbroken.append {text more : Text} (unbroken : Unbroken text) (rest : Unbroken more) :
    Unbroken (text ++ more) := by
  unfold Unbroken at *
  simp only [List.mem_append, not_or]
  exact ⟨⟨unbroken.1, rest.1⟩, unbroken.2, rest.2⟩

theorem Unbroken.sublist {text part : Text} (unbroken : Unbroken text) (sub : part.Sublist text) :
    Unbroken part :=
  ⟨fun mem => unbroken.1 (sub.subset mem), fun mem => unbroken.2 (sub.subset mem)⟩

theorem splitLines_unbroken (text : Text) {current : Text} (unbroken : Unbroken current)
    (afterCR : Bool) : ∀ line ∈ splitLines afterCR current text, Unbroken line := by
  have empty : Unbroken [] := ⟨List.not_mem_nil, List.not_mem_nil⟩
  induction text generalizing current afterCR with
  | nil =>
    intro line mem
    rw [splitLines] at mem
    split at mem
    case isTrue => cases mem
    case isFalse =>
      rw [List.mem_singleton.mp mem]
      exact unbroken
  | cons unit rest ih =>
    intro line mem
    rw [splitLines] at mem
    split_ifs at mem with lf _ cr
    · exact ih empty false line mem
    · rcases List.mem_cons.mp mem with rfl | later
      · exact unbroken
      · exact ih empty false line later
    · rcases List.mem_cons.mp mem with rfl | later
      · exact unbroken
      · exact ih empty true line later
    · refine ih (unbroken.append ?_) false line mem
      exact ⟨by simpa using Ne.symm lf, by simpa using Ne.symm cr⟩

theorem lines_unbroken (text : Text) : ∀ line ∈ lines text, Unbroken line :=
  splitLines_unbroken text ⟨List.not_mem_nil, List.not_mem_nil⟩ false

theorem splitLines_line {line : Text} (unbroken : Unbroken line) (current rest : Text) :
    splitLines false current (line ++ 10 :: rest) = (current ++ line) :: lines rest := by
  induction line generalizing current with
  | nil =>
    rw [List.append_nil, List.nil_append, splitLines, if_pos rfl]
    rfl
  | cons unit line ih =>
    have tail : Unbroken line := unbroken.sublist (List.sublist_cons_self unit line)
    have lf : unit ≠ 10 := fun same => unbroken.1 (same ▸ List.mem_cons_self)
    have cr : unit ≠ 13 := fun same => unbroken.2 (same ▸ List.mem_cons_self)
    rw [List.cons_append, splitLines, if_neg lf, if_neg cr, ih tail, List.append_assoc]
    rfl

/-- Lines that are written each with an LF are read as these lines. -/
theorem lines_written {ls : List Text} (unbroken : ∀ line ∈ ls, Unbroken line) (rest : Text) :
    lines ((ls.flatMap fun line => line ++ [10]) ++ rest) = ls ++ lines rest := by
  induction ls with
  | nil => rfl
  | cons line ls ih =>
    have later := ih fun line mem => unbroken line (List.mem_cons_of_mem _ mem)
    have first := splitLines_line (unbroken line List.mem_cons_self) []
      ((ls.flatMap fun line => line ++ [10]) ++ rest)
    rw [List.flatMap_cons, List.append_assoc, List.append_assoc, List.singleton_append, lines,
      first, later]
    rfl

/-! ## Events that were read -/

/-- What a block takes from lines: no line break, and a retry time that is an integer. -/
structure Block.Clean (block : Block) : Prop where
  data : ∀ line ∈ block.dataLines, Unbroken line
  type : ∀ text, block.type = some text → Unbroken text
  id : ∀ text, block.id = some text → Unbroken text
  retry : ∀ retry, block.retry = some retry → ∃ n, Number.ofInt n = retry

structure SSEEvent.Clean (event : SSEEvent) : Prop where
  data : ∀ line ∈ event.data.splitOn 10, Unbroken line
  type : ∀ text, event.event = some text → Unbroken text
  id : ∀ text, event.id = some text → Unbroken text
  retry : ∀ retry, event.retry = some retry → ∃ n, Number.ofInt n = retry

theorem Unbroken.fieldValue {line : Text} (unbroken : Unbroken line) (name : String) :
    Unbroken (Block.fieldValue line name) := by
  have rest := unbroken.sublist (List.drop_sublist name.length line)
  unfold Block.fieldValue
  split
  case h_1 value same =>
    rw [same] at rest
    exact rest.sublist (List.sublist_cons_self 32 value)
  case h_2 => exact rest

theorem parseInt_cases (text : Text) :
    parseInt text = .nan ∨ ∃ n, Number.ofInt n = parseInt text := by
  unfold parseInt
  split
  split
  · exact Or.inl rfl
  · exact Or.inr ⟨_, rfl⟩

namespace Block

variable {block : Block} {line : Text}

theorem clean_empty : Clean {} where
  data _ mem := absurd mem List.not_mem_nil
  type _ same := by cases same
  id _ same := by cases same
  retry _ same := by cases same

theorem Clean.readField (clean : block.Clean) (unbroken : Unbroken line) :
    (block.readField line).Clean := by
  have value : ∀ name text, some (fieldValue line name) = some text → Unbroken text := by
    intro name text same
    cases same
    exact unbroken.fieldValue name
  have more : ∀ last, Unbroken last → ∀ line ∈ block.dataLines ++ [last], Unbroken line := by
    intro last unbroken line mem
    rcases List.mem_append.mp mem with earlier | later
    · exact clean.data line earlier
    · rw [List.mem_singleton.mp later]
      exact unbroken
  unfold Block.readField
  split_ifs
  · exact ⟨more _ (unbroken.fieldValue _), clean.type, clean.id, clean.retry⟩
  · exact ⟨more _ ⟨List.not_mem_nil, List.not_mem_nil⟩, clean.type, clean.id, clean.retry⟩
  · exact ⟨clean.data, value _, clean.id, clean.retry⟩
  · exact ⟨clean.data, clean.type, value _, clean.retry⟩
  · split
    case h_1 => exact clean
    case h_2 number =>
      refine ⟨clean.data, clean.type, clean.id, ?_⟩
      intro retry same
      cases same
      exact (parseInt_cases _).resolve_left number
  · exact clean

theorem Clean.addLine (clean : block.Clean) (unbroken : Unbroken line) :
    (block.addLine line).Clean := by
  have kept : { block with rawLines := block.rawLines ++ [line] }.Clean :=
    ⟨clean.data, clean.type, clean.id, clean.retry⟩
  unfold Block.addLine
  split
  · exact kept
  · exact kept.readField unbroken

theorem Clean.event (clean : block.Clean) : block.event.Clean where
  data := by
    by_cases none_read : block.dataLines = []
    · have empty : block.event.data = [] := by
        rw [Block.event, none_read]
        rfl
      rw [empty, List.splitOn_nil]
      intro line mem
      rw [List.mem_singleton.mp mem]
      exact ⟨List.not_mem_nil, List.not_mem_nil⟩
    · have split : block.event.data.splitOn 10 = block.dataLines :=
        List.splitOn_intercalate 10 (fun line mem => (clean.data line mem).1) none_read
      rw [split]
      exact clean.data
  type := clean.type
  id := clean.id
  retry := clean.retry

end Block

theorem eventsOf_clean {ls : List Text} (unbroken : ∀ line ∈ ls, Unbroken line) {block : Block}
    (clean : block.Clean) : ∀ event ∈ eventsOf block ls, event.Clean := by
  induction ls generalizing block with
  | nil =>
    intro event mem
    rw [eventsOf] at mem
    split at mem
    case isTrue =>
      rw [List.mem_singleton.mp mem]
      exact clean.event
    case isFalse => cases mem
  | cons line rest ih =>
    have later := fun line mem => unbroken line (List.mem_cons_of_mem _ mem)
    intro event mem
    rw [eventsOf] at mem
    split_ifs at mem
    · rcases List.mem_cons.mp mem with rfl | mem
      · exact clean.event
      · exact ih later Block.clean_empty event mem
    · exact ih later clean event mem
    · exact ih later (clean.addLine (unbroken line List.mem_cons_self)) event mem

/-! ## Retry times of lines -/

def readRetry (text : Text) : Option Number :=
  match parseInt (trimText text) with
  | .nan => none
  | retry => some retry

/-- The retry time a line sets. -/
def retryValue (line : Text) : Option Number :=
  if (units "retry:").isPrefixOf line then readRetry (line.drop 6) else none

/-- The retry times that are in effect where events end. -/
def retryTimes (announced : Bool) (retry : Option Number) : List Text → List Number
  | [] => if announced then retry.toList else []
  | line :: rest =>
    if line = [] then
      if announced then retry.toList ++ retryTimes false none rest
      else retryTimes announced retry rest
    else retryTimes (announced || announces line) ((retryValue line).or retry) rest

namespace Block

variable (block : Block) (value : Text)

theorem addLine_retry :
    block.addLine (units "retry:" ++ value) =
      { block with
        rawLines := block.rawLines ++ [units "retry:" ++ value]
        retry := (readRetry value).or block.retry } := by
  have read : block.addLine (units "retry:" ++ value) =
      match parseInt (trimText value) with
      | .nan => { block with rawLines := block.rawLines ++ [units "retry:" ++ value] }
      | retry =>
        { block with
          rawLines := block.rawLines ++ [units "retry:" ++ value]
          retry := some retry } := rfl
  rw [read, readRetry]
  cases parseInt (trimText value) <;> rfl

theorem addLine_data :
    block.addLine (units "data: " ++ value) =
      { block with
        rawLines := block.rawLines ++ [units "data: " ++ value]
        dataLines := block.dataLines ++ [value] } := rfl

theorem addLine_event :
    block.addLine (units "event: " ++ value) =
      { block with
        rawLines := block.rawLines ++ [units "event: " ++ value]
        type := some value } := rfl

theorem addLine_id :
    block.addLine (units "id: " ++ value) =
      { block with
        rawLines := block.rawLines ++ [units "id: " ++ value]
        id := some value } := rfl

end Block

theorem retry_addLine (block : Block) (line : Text) :
    (block.addLine line).retry = (retryValue line).or block.retry := by
  by_cases sets : (units "retry:").isPrefixOf line = true
  · obtain ⟨value, rfl⟩ := List.isPrefixOf_iff_prefix.mp sets
    rw [retryValue, if_pos sets, Block.addLine_retry]
    rfl
  · rw [retryValue, if_neg sets]
    unfold Block.addLine Block.readField
    split_ifs <;> rfl

/-- The retry times of lines are those of their events. -/
theorem retryTimes_eq (ls : List Text) (block : Block) :
    retryTimes block.pending block.retry ls = (eventsOf block ls).filterMap (·.retry) := by
  induction ls generalizing block with
  | nil =>
    rw [retryTimes, eventsOf]
    split
    · cases time : block.retry <;> simp [Block.event, time]
    · rfl
  | cons line rest ih =>
    rw [retryTimes, eventsOf]
    split_ifs
    · have fresh := ih {}
      rw [List.filterMap_cons, ← fresh]
      cases time : block.retry <;> simp [Block.event, time] <;> rfl
    · exact ih block
    · rw [← ih, Block.pending_addLine, retry_addLine]

/-! ## Events that are read again -/

theorem eventsOf_lines {ls : List Text} (some_text : ∀ line ∈ ls, line ≠ []) (block : Block)
    (rest : List Text) :
    eventsOf block (ls ++ rest) = eventsOf (ls.foldl Block.addLine block) rest := by
  induction ls generalizing block with
  | nil => rfl
  | cons line ls ih =>
    rw [List.cons_append, eventsOf, if_neg (some_text line List.mem_cons_self), List.foldl_cons]
    exact ih (fun line mem => some_text line (List.mem_cons_of_mem _ mem)) _

theorem Block.foldl_data (ls : List Text) (block : Block) :
    (ls.map (units "data: " ++ ·)).foldl addLine block =
      { block with
        dataLines := block.dataLines ++ ls
        rawLines := block.rawLines ++ ls.map (units "data: " ++ ·) } := by
  induction ls generalizing block with
  | nil => simp
  | cons line ls ih =>
    rw [List.map_cons, List.foldl_cons, addLine_data, ih]
    simp

namespace SSEEvent

variable [NumberText] (event : SSEEvent)

def optionLine (name : String) (value : Option Text) : List Text :=
  (value.map (units name ++ ·)).toList

/-- The lines of an event as it is enqueued. -/
def written : List Text :=
  optionLine "event: " event.event ++ optionLine "id: " event.id ++
    optionLine "retry: " (event.retry.map fun retry => units retry.text) ++
    (event.data.splitOn 10).map (units "data: " ++ ·)

/-- The event as its lines are read. -/
def reread : SSEEvent :=
  { event with
    retry := event.retry.bind fun retry => readRetry (32 :: units retry.text)
    raw := [10].intercalate event.written }

theorem formatted_eq :
    event.formatted = (event.written.flatMap fun line => line ++ [10]) ++ [10] := by
  have option_line : ∀ name value, fieldLine name value =
      (optionLine name value).flatMap fun line => line ++ [10] := by
    intro name value
    cases value <;> simp [fieldLine, optionLine]
  have data : ((event.data.splitOn 10).flatMap fun line => fieldLine "data: " (some line)) =
      ((event.data.splitOn 10).map (units "data: " ++ ·)).flatMap fun line => line ++ [10] := by
    rw [List.flatMap_map]
    rfl
  rw [formatted, option_line, option_line, option_line, data, written, List.flatMap_append,
    List.flatMap_append, List.flatMap_append]

theorem foldl_written :
    event.written.foldl Block.addLine {} =
      { dataLines := event.data.splitOn 10
        rawLines := event.written
        type := event.event
        id := event.id
        retry := event.reread.retry } := by
  have retry_line : ∀ text, units "retry: " ++ text = units "retry:" ++ 32 :: text := fun _ => rfl
  rw [written, List.foldl_append, Block.foldl_data]
  cases type : event.event <;> cases id : event.id <;> cases time : event.retry <;>
    simp [optionLine, Block.addLine_event, Block.addLine_id, retry_line, Block.addLine_retry,
      reread, time]

theorem written_ne_nil : ∀ line ∈ event.written, line ≠ [] := by
  intro line mem
  simp only [written, optionLine, List.mem_append, Option.mem_toList, Option.map_eq_some_iff,
    List.mem_map] at mem
  rcases mem with ((⟨_, _, rfl⟩ | ⟨_, _, rfl⟩) | ⟨_, _, rfl⟩) | ⟨_, _, rfl⟩ <;>
    exact List.append_ne_nil_of_left_ne_nil (by decide) _

theorem eventsOf_written (rest : List Text) :
    eventsOf {} (event.written ++ [] :: rest) = event.reread :: eventsOf {} rest := by
  have pending : ((event.written.foldl Block.addLine {}).pending) = true := by
    rw [foldl_written]
    simp [Block.pending, List.splitOn_ne_nil]
  rw [eventsOf_lines event.written_ne_nil, eventsOf, if_pos rfl, if_pos pending, foldl_written]
  simp [Block.event, reread, List.intercalate_splitOn]

end SSEEvent

/-! ## The output of events mode -/

section

variable [NumberText] [JsonParser] (options : SSEStreamTransformerOptions)

theorem dispatchEvent_output (enqueued : options.enqueueEvents = true) (parser : Parser) :
    (dispatchEvent options parser).output = parser.output ++ parser.current.event.formatted := by
  simp only [dispatchEvent, inspectEventPayload, if_pos enqueued]
  cases eventPayload parser.current.event <;> rfl

theorem output_readLines (enqueued : options.enqueueEvents = true) (ls : List Text)
    (parser : Parser) :
    (finish options (readLines options parser ls)).output =
      parser.output ++ (eventsOf parser.current ls).flatMap SSEEvent.formatted := by
  induction ls generalizing parser with
  | nil =>
    change (finish options parser).output = _
    unfold finish eventsOf
    split
    case isTrue =>
      rw [dispatchEvent_output options enqueued, List.flatMap_singleton]
    case isFalse => exact (List.append_nil _).symm
  | cons line rest ih =>
    change (finish options (readLines options (processLine options parser line) rest)).output = _
    rw [ih, eventsOf]
    unfold processLine
    split_ifs
    · rw [dispatchEvent_output options enqueued, (dispatchEvent_onEvent options parser).2,
        List.flatMap_cons, List.append_assoc]
    · rfl
    · rfl

/-- What events mode makes of a stream. -/
theorem runChunks_events (mode : options.mode = some .events) (chunks : List Text) :
    (runChunks options chunks).parser.onEvent = eventsOf {} (lines chunks.flatten) ∧
      (runChunks options chunks).parser.output =
        (eventsOf {} (lines chunks.flatten)).flatMap SSEEvent.formatted := by
  have enqueued : options.enqueueEvents = true := by
    rw [SSEStreamTransformerOptions.enqueueEvents, mode]
    rfl
  have quiet : options.isPassthrough = false := by
    rw [SSEStreamTransformerOptions.isPassthrough, mode]
    rfl
  rw [runChunks_lines, onEvent_readLines, output_readLines options enqueued, quiet]
  exact ⟨rfl, rfl⟩

end

/-- What of an event is written. -/
def SSEEvent.fields (event : SSEEvent) : Option Text × Option Text × Text × Option Number :=
  (event.event, event.id, event.data, event.retry)

theorem SSEEvent.formatted_congr [NumberText] {event other : SSEEvent}
    (same : event.fields = other.fields) : event.formatted = other.formatted := by
  simp only [fields, Prod.mk.injEq] at same
  obtain ⟨type, id, data, retry⟩ := same
  rw [formatted, type, id, data, retry]
  rfl

section

attribute [local instance] shortestText

theorem unbroken_units {cs : List Char} (visible : ∀ c ∈ cs, Visible c) :
    Unbroken (cs.map unit) := by
  have other : ∀ broken : UInt16, broken.toNat < 33 → broken ∉ cs.map unit := by
    intro broken low mem
    obtain ⟨c, inside, rfl⟩ := List.mem_map.mp mem
    rw [(visible c inside).toNat_unit] at low
    exact absurd (visible c inside).1 (not_le.mpr low)
  exact ⟨other 10 (by decide), other 13 (by decide)⟩

theorem unbroken_text {retry : Number} (read : ∃ n, Number.ofInt n = retry) :
    Unbroken (units retry.text) := by
  obtain ⟨n, rfl⟩ := read
  rcases Number.ofInt_cases n with ⟨m, value⟩ | infinite | infinite
  · have number := Number.ofInt_of_ofInt value
    obtain ⟨first, cs, tail, text⟩ := integerText_exists (natAbs_isNumber number)
    obtain ⟨written, units_eq, visible, -⟩ := units_text text
    rw [value, units_eq]
    exact unbroken_units visible
  · rw [infinite]
    exact ⟨by decide, by decide⟩
  · rw [infinite]
    exact ⟨by decide, by decide⟩

namespace SSEEvent.Clean

variable {event : SSEEvent}

theorem written (clean : event.Clean) : ∀ line ∈ event.written, Unbroken line := by
  intro line mem
  simp only [SSEEvent.written, optionLine, List.mem_append, Option.mem_toList,
    Option.map_eq_some_iff, List.mem_map] at mem
  rcases mem with ((⟨text, same, rfl⟩ | ⟨text, same, rfl⟩) | ⟨text, same, rfl⟩) | ⟨text, same, rfl⟩
  · exact Unbroken.append ⟨by decide, by decide⟩ (clean.type text same)
  · exact Unbroken.append ⟨by decide, by decide⟩ (clean.id text same)
  · obtain ⟨retry, time, rfl⟩ := same
    exact Unbroken.append ⟨by decide, by decide⟩ (unbroken_text (clean.retry retry time))
  · exact Unbroken.append ⟨by decide, by decide⟩ (clean.data text same)

/-- An event is read again as it was just when its retry time is plain. -/
theorem fields_reread (clean : event.Clean) :
    event.reread.fields = event.fields ↔ ∀ retry, event.retry = some retry → Plain retry := by
  have time : event.reread.fields = event.fields ↔ event.reread.retry = event.retry := by
    simp [fields, reread]
  rw [time, reread]
  cases set : event.retry with
  | none => simp
  | some retry =>
    have read := clean.retry retry set
    have number : retry ≠ .nan := by
      obtain ⟨n, rfl⟩ := read
      rcases Number.ofInt_cases n with ⟨m, value⟩ | value | value <;> rw [value] <;> exact nofun
    simp only [Option.bind_some, Option.some.injEq, forall_eq', ← parseInt_text read, readRetry]
    split
    case h_1 none_read =>
      rw [none_read]
      exact iff_of_false nofun number.symm
    case h_2 => exact Option.some_inj

end SSEEvent.Clean

/-- The events of the text that events mode makes of events. -/
theorem eventsOf_formatted {events : List SSEEvent} (clean : ∀ event ∈ events, event.Clean) :
    eventsOf {} (lines (events.flatMap SSEEvent.formatted)) = events.map SSEEvent.reread := by
  induction events with
  | nil => rfl
  | cons event events ih =>
    have later := ih fun event mem => clean event (List.mem_cons_of_mem _ mem)
    have first := lines_written (clean event List.mem_cons_self).written
      (10 :: events.flatMap SSEEvent.formatted)
    have ended : lines (10 :: events.flatMap SSEEvent.formatted) =
        [] :: lines (events.flatMap SSEEvent.formatted) := rfl
    rw [List.flatMap_cons, SSEEvent.formatted_eq, List.append_assoc, List.singleton_append, first,
      ended, SSEEvent.eventsOf_written, later, List.map_cons]

variable [JsonParser]

/-- The text of events mode, cut anywhere, is read as the events it was made of, and made into
itself, just when no event of the stream has a retry time from 10^21 on. -/
theorem events_normal_form_iff (options : SSEStreamTransformerOptions)
    (mode : options.mode = some .events) (chunks again : List Text)
    (emitted : again.flatten = (runChunks options chunks).parser.output) :
    ((runChunks options again).parser.onEvent.map SSEEvent.fields =
          (runChunks options chunks).parser.onEvent.map SSEEvent.fields ∧
        (runChunks options again).parser.output = (runChunks options chunks).parser.output) ↔
      ∀ retry ∈ retryTimes false none (lines chunks.flatten), Plain retry := by
  obtain ⟨read, output⟩ := runChunks_events options mode chunks
  obtain ⟨read_again, output_again⟩ := runChunks_events options mode again
  have clean := eventsOf_clean (lines_unbroken chunks.flatten) Block.clean_empty
  have times := retryTimes_eq (lines chunks.flatten) {}
  change retryTimes false none _ = _ at times
  rw [read_again, output_again, read, output, emitted, output, times]
  generalize eventsOf {} (lines chunks.flatten) = events at *
  rw [eventsOf_formatted clean]
  have kept : (events.map SSEEvent.reread).map SSEEvent.fields = events.map SSEEvent.fields ↔
      ∀ event ∈ events, event.reread.fields = event.fields := by
    rw [List.map_map, List.map_inj_left]
    rfl
  have plain : (∀ event ∈ events, event.reread.fields = event.fields) ↔
      ∀ retry ∈ events.filterMap (·.retry), Plain retry := by
    simp only [List.mem_filterMap]
    constructor
    · rintro same retry ⟨event, mem, time⟩
      exact ((clean event mem).fields_reread.mp (same event mem)) retry time
    · intro plain event mem
      exact (clean event mem).fields_reread.mpr fun retry time => plain retry ⟨event, mem, time⟩
  rw [kept, ← plain, and_iff_left_of_imp]
  intro same
  rw [List.flatMap_map]
  exact List.flatMap_congr fun event mem => SSEEvent.formatted_congr (same event mem)

end

section

attribute [local instance] shortestText noJson

/-- A stream whose event has a retry time of some seconds. -/
theorem events_normal_form_retry :
    let options : SSEStreamTransformerOptions := { mode := some .events }
    let output := (runChunks options [units "retry: 3000\ndata: x\n\n"]).parser.output
    (runChunks options [output]).parser.onEvent.map SSEEvent.fields =
        (runChunks options [units "retry: 3000\ndata: x\n\n"]).parser.onEvent.map SSEEvent.fields ∧
      (runChunks options [output]).parser.output = output :=
  (events_normal_form_iff { mode := some .events } rfl [units "retry: 3000\ndata: x\n\n"]
    [(runChunks { mode := some .events } [units "retry: 3000\ndata: x\n\n"]).parser.output]
    (List.append_nil _)).mpr (by
      have times : retryTimes false none (lines [units "retry: 3000\ndata: x\n\n"].flatten) =
          [.finite 3000] := by decide +kernel
      intro retry mem
      rw [times] at mem
      rw [List.mem_singleton.mp mem]
      norm_num [Plain])

/-- A retry time of 10^21 is written with an exponent, and read again as 1. -/
theorem events_retry_exponent :
    let options : SSEStreamTransformerOptions := { mode := some .events }
    let stream := units "retry: 1000000000000000000000\ndata: x\n\n"
    let output := (runChunks options [stream]).parser.output
    output = units "retry: 1e+21\ndata: x\n\n" ∧
      (runChunks options [stream]).parser.onEvent.map SSEEvent.fields =
        [(none, none, units "x", some (.finite (10 ^ 21)))] ∧
      (runChunks options [output]).parser.onEvent.map SSEEvent.fields =
        [(none, none, units "x", some (.finite 1))] := by
  decide +kernel

end

end KeyCollective.Sse
