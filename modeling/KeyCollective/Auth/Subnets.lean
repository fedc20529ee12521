import KeyCollective.Auth.Sybil
import KeyCollective.Decimal

/-!
# Subnets of addresses

The subnet of an IPv4 address is made of its octets' numbers. The prefix of an IPv6 address is
made of the first three groups that are written, as they are written, so two spellings of one
address can have two prefixes, and two networks the same one.
-/

namespace KeyCollective.Sybil

/-! ## Addresses -/

/-- A number of an IPv4 address, with leading zeros perhaps. -/
structure Octet where
  digits : List Char
  some_digit : digits ≠ []
  decimal : ∀ c ∈ digits, c.isDigit = true
  small : Nat.ofDigitChars 10 digits 0 ≤ 255

def Octet.value (octet : Octet) : Nat := Nat.ofDigitChars 10 octet.digits 0

structure IPv4 where
  o0 : Octet
  o1 : Octet
  o2 : Octet
  o3 : Octet

namespace IPv4

variable (address : IPv4)

def chars : List Char :=
  ['.'].intercalate
    [address.o0.digits, address.o1.digits, address.o2.digits, address.o3.digits]

/-- The /24 subnet. -/
def network : List Nat := [address.o0.value, address.o1.value, address.o2.value]

/-- The two groups an IPv4 address stands for in an IPv6 address. -/
def groups : List Nat :=
  [256 * address.o0.value + address.o1.value, 256 * address.o2.value + address.o3.value]

end IPv4

def hexValue (c : Char) : Nat := (digitValue c).getD 0

/-- A group of an IPv6 address: up to four hexadecimal digits in any case. -/
structure Group where
  digits : List Char
  some_digit : digits ≠ []
  short : digits.length ≤ 4
  hexadecimal : ∀ c ∈ digits, (digitValue c).isSome = true

def Group.value (group : Group) : Nat :=
  group.digits.foldl (fun value c => 16 * value + hexValue c) 0

/-- An IPv6 address: eight groups, or fewer around a `::`, the last two as an IPv4 address
perhaps. -/
structure IPv6 where
  before : List Group
  compressed : Bool
  after : List Group
  embedded : Option IPv4
  length : before.length + after.length + (if embedded.isSome then 2 else 0) ≤
    if compressed then 7 else 8
  full : compressed = false →
    after = [] ∧ before.length + (if embedded.isSome then 2 else 0) = 8

namespace IPv6

variable (address : IPv6)

/-- The parts behind the `::`. -/
def tail : List (List Char) :=
  address.after.map Group.digits ++ (address.embedded.map IPv4.chars).toList

/-- The parts as they are written. -/
def written : List (List Char) := address.before.map Group.digits ++ address.tail

def chars : List Char :=
  if address.compressed then
    [':'].intercalate (address.before.map Group.digits) ++ ':' :: ':' ::
      [':'].intercalate address.tail
  else [':'].intercalate address.written

/-- The eight groups. -/
def groups : List Nat :=
  let before := address.before.map Group.value
  let after := address.after.map Group.value ++ (address.embedded.map IPv4.groups).getD []
  before ++ List.replicate (8 - before.length - after.length) 0 ++ after

/-- The /48 prefix. -/
def network : List Nat := address.groups.take 3

end IPv6

inductive Address where
  | ipv4 (address : IPv4)
  | ipv6 (address : IPv6)

namespace Address

def text : Address → String
  | ipv4 address => String.ofList address.chars
  | ipv6 address => String.ofList address.chars

/-- The same /24 subnet, or the same /48 prefix. -/
def SameNetwork : Address → Address → Prop
  | ipv4 x, ipv4 y => x.network = y.network
  | ipv6 x, ipv6 y => x.network = y.network
  | _, _ => False

end Address

/-- The first three written parts are spelled alike; with fewer parts, the whole text. -/
def IPv6.SpelledAlike (x y : IPv6) : Prop :=
  if 3 ≤ x.written.length ∧ 3 ≤ y.written.length then x.written.take 3 = y.written.take 3
  else x.chars = y.chars

/-! ## Characters -/

theorem digitValue_space {c : Char} (space : isWhiteSpace c = true) : digitValue c = none := by
  rw [isWhiteSpace, decide_eq_true_iff] at space
  rw [← Char.ofNat_toNat c]
  rcases space with one | ⟨low, high⟩
  · simp only [List.mem_cons, List.not_mem_nil, or_false] at one
    rcases one with same | same | same | same | same | same | same | same | same | same | same |
      same | same | same <;> rw [same] <;> decide
  · generalize c.toNat = n at *
    interval_cases n <;> decide

/-- Hexadecimal digits are no separators and no white space. -/
theorem solid_of_hexadecimal {c : Char} (hex : (digitValue c).isSome = true) :
    isWhiteSpace c = false ∧ c ≠ ':' ∧ c ≠ '.' := by
  refine ⟨?_, ?_, ?_⟩
  · by_contra space
    rw [digitValue_space (Bool.eq_true_of_not_eq_false space)] at hex
    cases hex
  · rintro rfl
    revert hex
    decide
  · rintro rfl
    revert hex
    decide

theorem hexadecimal_of_isDigit {c : Char} (digit : c.isDigit = true) :
    (digitValue c).isSome = true := by
  rw [digitValue, if_pos digit]
  rfl

theorem trim_ofList {cs : List Char} (solid : ∀ c ∈ cs, isWhiteSpace c = false) :
    trim (String.ofList cs) = String.ofList cs := by
  have front : ∀ {cs : List Char}, (∀ c ∈ cs, isWhiteSpace c = false) →
      cs.dropWhile isWhiteSpace = cs := by
    intro cs solid
    cases cs with
    | nil => rfl
    | cons c cs => rw [List.dropWhile_cons, solid c List.mem_cons_self]; rfl
  have back : ∀ c ∈ cs.reverse, isWhiteSpace c = false := fun c mem =>
    solid c (List.mem_reverse.mp mem)
  rw [trim, trimChars, String.toList_ofList, front solid, front back, List.reverse_reverse]

/-- No character of a part of an address is a separator of parts. -/
theorem Octet.solid (octet : Octet) :
    ∀ c ∈ octet.digits, isWhiteSpace c = false ∧ c ≠ ':' ∧ c ≠ '.' := fun c mem =>
  solid_of_hexadecimal (hexadecimal_of_isDigit (octet.decimal c mem))

theorem Group.solid (group : Group) :
    ∀ c ∈ group.digits, isWhiteSpace c = false ∧ c ≠ ':' ∧ c ≠ '.' := fun c mem =>
  solid_of_hexadecimal (group.hexadecimal c mem)

theorem mem_intercalate {separator c : Char} {parts : List (List Char)}
    (mem : c ∈ [separator].intercalate parts) : c = separator ∨ ∃ part ∈ parts, c ∈ part := by
  induction parts with
  | nil => cases mem
  | cons part rest ih =>
    by_cases last : rest = []
    · subst last
      exact Or.inr ⟨part, List.mem_cons_self, by simpa using mem⟩
    · rw [List.intercalate_cons_of_ne_nil last, List.mem_append, List.mem_append,
        List.mem_singleton] at mem
      rcases mem with (here | separator) | later
      · exact Or.inr ⟨part, List.mem_cons_self, here⟩
      · exact Or.inl separator
      · rcases ih later with same | ⟨other, mem, inside⟩
        · exact Or.inl same
        · exact Or.inr ⟨other, List.mem_cons_of_mem _ mem, inside⟩

theorem includes_colon {cs : List Char} (colon : ':' ∈ cs) : includesChars [':'] cs = true := by
  induction cs with
  | nil => cases colon
  | cons c rest ih =>
    rw [includesChars, Bool.or_eq_true]
    rcases List.mem_cons.mp colon with rfl | later
    · exact Or.inl rfl
    · exact Or.inr (ih later)

/-- The parts can be read back from the text they are joined to. -/
theorem intercalate_injective {separator : Char} {xs ys : List (List Char)} (some_x : xs ≠ [])
    (some_y : ys ≠ []) (solid_x : ∀ part ∈ xs, separator ∉ part)
    (solid_y : ∀ part ∈ ys, separator ∉ part)
    (same : [separator].intercalate xs = [separator].intercalate ys) : xs = ys := by
  rw [← List.splitOn_intercalate separator solid_x some_x, same,
    List.splitOn_intercalate separator solid_y some_y]

theorem toDigits_injective {m n : Nat} (same : Nat.toDigits 10 m = Nat.toDigits 10 n) : m = n := by
  rw [← @Nat.ofDigitChars_ten_toDigits m, same, Nat.ofDigitChars_ten_toDigits]

/-- The parts that were joined, once the empty ones are dropped. -/
theorem filter_splitOn (parts : List (List Char))
    (solid : ∀ part ∈ parts, part ≠ [] ∧ ':' ∉ part) :
    (([':'].intercalate parts).splitOn ':').filter (· ≠ []) = parts := by
  cases parts with
  | nil => rfl
  | cons part rest =>
    rw [List.splitOn_intercalate ':' (fun part mem => (solid part mem).2) (List.cons_ne_nil _ _)]
    exact List.filter_eq_self.mpr fun part mem => decide_eq_true (solid part mem).1

namespace IPv4

variable (address : IPv4)

theorem solid : ∀ c ∈ address.chars, isWhiteSpace c = false ∧ c ≠ ':' := by
  intro c mem
  rcases mem_intercalate mem with rfl | ⟨part, mem, inside⟩
  · decide
  · simp only [List.mem_cons, List.not_mem_nil, or_false] at mem
    rcases mem with rfl | rfl | rfl | rfl <;>
      exact ⟨(Octet.solid _ c inside).1, (Octet.solid _ c inside).2.1⟩

theorem splitOn_chars :
    address.chars.splitOn '.' =
      [address.o0.digits, address.o1.digits, address.o2.digits, address.o3.digits] := by
  refine List.splitOn_intercalate '.' ?_ (List.cons_ne_nil _ _)
  intro part mem inside
  simp only [List.mem_cons, List.not_mem_nil, or_false] at mem
  rcases mem with rfl | rfl | rfl | rfl <;> exact (Octet.solid _ '.' inside).2.2 rfl

end IPv4

namespace IPv6

variable (address : IPv6)

/-- A written part is not empty, and has no colon and no white space. -/
theorem written_solid : ∀ part ∈ address.written,
    part ≠ [] ∧ ∀ c ∈ part, isWhiteSpace c = false ∧ c ≠ ':' := by
  intro part mem
  simp only [written, tail, List.mem_append, List.mem_map, Option.mem_toList,
    Option.map_eq_some_iff] at mem
  rcases mem with ⟨group, -, rfl⟩ | ⟨group, -, rfl⟩ | ⟨ipv4, -, rfl⟩
  · exact ⟨group.some_digit, fun c inside => ⟨(group.solid c inside).1, (group.solid c inside).2.1⟩⟩
  · exact ⟨group.some_digit, fun c inside => ⟨(group.solid c inside).1, (group.solid c inside).2.1⟩⟩
  · refine ⟨?_, ipv4.solid⟩
    intro empty
    have parts := congrArg List.length ipv4.splitOn_chars
    rw [empty] at parts
    cases parts

theorem solid : ∀ c ∈ address.chars, isWhiteSpace c = false := by
  have joined : ∀ parts : List (List Char), (∀ part ∈ parts, part ∈ address.written) →
      ∀ c ∈ [':'].intercalate parts, isWhiteSpace c = false := by
    intro parts sub c mem
    rcases mem_intercalate mem with rfl | ⟨part, mem, inside⟩
    · decide
    · exact ((address.written_solid part (sub part mem)).2 c inside).1
  intro c mem
  unfold chars at mem
  split at mem
  case isTrue =>
    simp only [List.mem_append, List.mem_cons] at mem
    rcases mem with front | rfl | rfl | back
    · exact joined _ (fun part mem => List.mem_append_left _ mem) c front
    · decide
    · decide
    · exact joined _ (fun part mem => List.mem_append_right _ mem) c back
  case isFalse => exact joined _ (fun part mem => mem) c mem

/-- The parts between the colons that are not empty are the written ones. -/
theorem parts_chars :
    (address.chars.splitOn ':').filter (· ≠ []) = address.written := by
  have solid : ∀ part ∈ address.written, part ≠ [] ∧ ':' ∉ part := fun part mem =>
    ⟨(address.written_solid part mem).1,
      fun inside => ((address.written_solid part mem).2 ':' inside).2 rfl⟩
  unfold chars
  split
  case isTrue =>
    have front := filter_splitOn (address.before.map Group.digits)
      fun part mem => solid part (List.mem_append_left _ mem)
    have back := filter_splitOn address.tail
      fun part mem => solid part (List.mem_append_right _ mem)
    have empty : (':' :: [':'].intercalate address.tail).splitOn ':' =
        [] :: ([':'].intercalate address.tail).splitOn ':' :=
      List.splitOn_append_cons_self [] _
    rw [List.splitOn_append_cons_self, empty, List.filter_append, front, written]
    congr 1
  case isFalse => exact filter_splitOn _ solid

/-- With `::` there is an empty part. -/
theorem nil_mem_parts (compressed : address.compressed = true) :
    [] ∈ address.chars.splitOn ':' := by
  have empty : (':' :: [':'].intercalate address.tail).splitOn ':' =
      [] :: ([':'].intercalate address.tail).splitOn ':' :=
    List.splitOn_append_cons_self [] _
  rw [chars, if_pos compressed, List.splitOn_append_cons_self, empty]
  simp

/-- All parts of an address without `::` are written. -/
theorem length_written (full : address.compressed = false) : 3 ≤ address.written.length := by
  obtain ⟨-, length⟩ := address.full full
  rw [written, List.length_append, List.length_map]
  split at length <;> omega

theorem colon_mem : ':' ∈ address.chars := by
  by_contra absent
  have parts := address.parts_chars
  rw [List.splitOn_eq_singleton absent] at parts
  cases compressed : address.compressed with
  | true =>
    have empty := address.nil_mem_parts compressed
    rw [List.splitOn_eq_singleton absent, List.mem_singleton] at empty
    rw [chars, if_pos compressed] at empty
    simp at empty
  | false =>
    have length := address.length_written compressed
    have few := List.length_filter_le (fun part => decide (part ≠ [])) [address.chars]
    rw [parts, List.length_singleton] at few
    omega

end IPv6

/-! ## Subnets -/

/-- How octets are read and written: `Number` of an octet and of a text with a colon, and
`String` of an octet's number. -/
structure OctetText [NumberReader] [NumberText] : Prop where
  decimal : ∀ octet : Octet,
    NumberReader.toNumber (String.ofList octet.digits) = .finite octet.value
  colon : ∀ s : String, ':' ∈ s.toList → NumberReader.toNumber s = .nan
  octet : ∀ n : Nat, n ≤ 255 → NumberText.ofFinite n = toString n

section

variable [NumberReader] [NumberText] (texts : OctetText)

include texts

theorem toNumber_octet (octet : Octet) :
    NumberReader.toNumber (String.ofList octet.digits) = .finite octet.value ∧
      inOctet (.finite octet.value) = true ∧
      (Number.finite octet.value).text = toString octet.value := by
  have small : octet.value ≤ 255 := octet.small
  refine ⟨texts.decimal octet, ?_, texts.octet octet.value small⟩
  have high : ¬(255 : ℚ) < octet.value := by
    rw [not_lt]
    exact_mod_cast small
  simp [inOctet, Number.atLeast, Number.above, high]

/-- The subnet of an IPv4 address. -/
theorem extractSubnet_ipv4 (address : IPv4) :
    extractSubnet (String.ofList address.chars) =
      toString address.o0.value ++ "." ++ toString address.o1.value ++ "." ++
        toString address.o2.value ++ ".0/24" := by
  obtain ⟨r0, i0, t0⟩ := toNumber_octet texts address.o0
  obtain ⟨r1, i1, t1⟩ := toNumber_octet texts address.o1
  obtain ⟨r2, i2, t2⟩ := toNumber_octet texts address.o2
  obtain ⟨r3, i3, -⟩ := toNumber_octet texts address.o3
  have trimmed := trim_ofList fun c mem => (address.solid c mem).1
  have some_text : String.ofList address.chars ≠ "" := by
    intro empty
    have lengths := congrArg List.length address.splitOn_chars
    rw [String.ofList_eq_empty_iff.mp empty] at lengths
    cases lengths
  have parts : (splitOn '.' (String.ofList address.chars)).map NumberReader.toNumber =
      [.finite address.o0.value, .finite address.o1.value, .finite address.o2.value,
        .finite address.o3.value] := by
    rw [splitOn, String.toList_ofList, address.splitOn_chars]
    simp only [List.map_cons, List.map_nil, r0, r1, r2, r3]
  rw [extractSubnet, trimmed, parts, if_neg some_text]
  simp only [i0, i1, i2, i3, and_self, if_true, t0, t1, t2]

/-- A text with a colon is no IPv4 address. -/
theorem not_octets {s : String} (colon : ':' ∈ s.toList) {p0 p1 p2 p3 : Number}
    (parts : (splitOn '.' s).map NumberReader.toNumber = [p0, p1, p2, p3]) :
    ¬(inOctet p0 ∧ inOctet p1 ∧ inOctet p2 ∧ inOctet p3) := by
  obtain ⟨piece, mem, inside⟩ : ∃ piece ∈ s.toList.splitOn '.', ':' ∈ piece := by
    rw [← @List.intercalate_splitOn _ s.toList _ _ '.'] at colon
    rcases mem_intercalate colon with same | found
    · exact absurd same (by decide)
    · exact found
  have read := texts.colon (String.ofList piece) (by rwa [String.toList_ofList])
  have found : Number.nan ∈ [p0, p1, p2, p3] := by
    rw [← parts, ← read]
    exact List.mem_map_of_mem (List.mem_map_of_mem mem)
  have refused : inOctet .nan = false := by decide
  rintro ⟨i0, i1, i2, i3⟩
  simp only [List.mem_cons, List.not_mem_nil, or_false] at found
  rcases found with rfl | rfl | rfl | rfl <;> simp_all

section

variable {s : String} (trimmed : trim s = s) (colon : ':' ∈ s.toList)

include trimmed colon

/-- A text with a colon has the prefix of its first three segments. -/
theorem extractSubnet_of_three {s0 s1 s2 : String} {rest : List String}
    (segments : (splitOn ':' s).filter (· ≠ "") = s0 :: s1 :: s2 :: rest) :
    extractSubnet s = s0 ++ ":" ++ s1 ++ ":" ++ s2 ++ "::/48" := by
  have some_text : s ≠ "" := by
    rintro rfl
    cases colon
  have includes : includes s ":" = true := includes_colon colon
  rw [extractSubnet, trimmed, if_neg some_text, segments, includes, if_pos rfl]
  split
  case h_1 octets => exact if_neg (not_octets texts colon octets)
  case h_2 => rfl

/-- With fewer segments the whole text is the prefix. -/
theorem extractSubnet_of_few (few : ((splitOn ':' s).filter (· ≠ "")).length < 3) :
    extractSubnet s = s ++ "::/48" := by
  have some_text : s ≠ "" := by
    rintro rfl
    cases colon
  have includes : includes s ":" = true := includes_colon colon
  rw [extractSubnet, trimmed, if_neg some_text, includes, if_pos rfl]
  generalize (splitOn ':' s).filter (· ≠ "") = segments at few
  rcases segments with _ | ⟨s0, _ | ⟨s1, _ | ⟨s2, rest⟩⟩⟩
  case cons.cons.cons =>
    simp only [List.length_cons] at few
    omega
  all_goals
    split
    case h_1 octets => exact if_neg (not_octets texts colon octets)
    case h_2 => rfl

end

/-- What the prefix of an IPv6 address is made of. -/
def IPv6.key (address : IPv6) : List Char :=
  if 3 ≤ address.written.length then [':'].intercalate (address.written.take 3)
  else address.chars

theorem extractSubnet_ipv6 (address : IPv6) :
    extractSubnet (String.ofList address.chars) =
      String.ofList (address.key ++ "::/48".toList) := by
  have trimmed := trim_ofList address.solid
  have colon : ':' ∈ (String.ofList address.chars).toList := by
    rw [String.toList_ofList]
    exact address.colon_mem
  have parts : (splitOn ':' (String.ofList address.chars)).filter (· ≠ "") =
      address.written.map String.ofList := by
    rw [splitOn, String.toList_ofList, ← address.parts_chars, List.filter_map]
    congr 1
    refine List.filter_congr fun part _ => ?_
    simp [String.ofList_eq_empty_iff]
  rw [String.ofList_append, String.ofList_toList, IPv6.key]
  by_cases long : 3 ≤ address.written.length
  · obtain ⟨w0, w1, w2, rest, written⟩ : ∃ w0 w1 w2 rest,
        address.written = w0 :: w1 :: w2 :: rest := by
      rcases written : address.written with _ | ⟨w0, _ | ⟨w1, _ | ⟨w2, rest⟩⟩⟩
      case cons.cons.cons => exact ⟨w0, w1, w2, rest, rfl⟩
      all_goals
        rw [written] at long
        simp only [List.length_cons, List.length_nil] at long
        omega
    rw [written, List.map_cons, List.map_cons, List.map_cons] at parts
    rw [extractSubnet_of_three texts trimmed colon parts, if_pos long, written]
    refine congrArg (· ++ "::/48") (String.toList_inj.mp ?_)
    simp [String.toList_append, String.toList_ofList, List.intercalate]
  · have few : ((splitOn ':' (String.ofList address.chars)).filter (· ≠ "")).length < 3 := by
      rw [parts, List.length_map]
      exact Nat.lt_of_not_le long
    rw [extractSubnet_of_few texts trimmed colon few, if_neg long]

/-- Two IPv4 addresses have the same subnet text exactly in the same /24 subnet. -/
theorem subnet_ipv4_iff (x y : IPv4) :
    extractSubnet (String.ofList x.chars) = extractSubnet (String.ofList y.chars) ↔
      x.network = y.network := by
  have text : ∀ address : IPv4, extractSubnet (String.ofList address.chars) =
      String.ofList (['.'].intercalate (address.network.map (Nat.toDigits 10)) ++
        ".0/24".toList) := by
    intro address
    rw [extractSubnet_ipv4 texts address, ← String.toList_inj]
    simp [String.toList_append, String.toList_ofList, List.intercalate, IPv4.network,
      Nat.toString_eq_repr, Nat.toList_repr]
  have solid : ∀ address : IPv4, ∀ part ∈ address.network.map (Nat.toDigits 10), '.' ∉ part := by
    intro address part mem inside
    obtain ⟨n, -, rfl⟩ := List.mem_map.mp mem
    have digit := Nat.isDigit_of_mem_toDigits (by decide) (by decide) inside
    revert digit
    decide
  constructor
  · intro same
    rw [text, text, String.ofList_inj] at same
    have parts := intercalate_injective (by simp [IPv4.network]) (by simp [IPv4.network])
      (solid x) (solid y) (List.append_cancel_right same)
    exact List.map_injective_iff.mpr (fun _ _ => toDigits_injective) parts
  · intro same
    rw [text, text, same]

/-- An IPv4 subnet is no IPv6 prefix. -/
theorem subnet_families (x : IPv4) (y : IPv6) :
    extractSubnet (String.ofList x.chars) ≠ extractSubnet (String.ofList y.chars) := by
  rw [extractSubnet_ipv4 texts, extractSubnet_ipv6 texts]
  intro same
  have chars := congrArg String.toList same
  rw [String.toList_append, @String.toList_ofList (y.key ++ _)] at chars
  have endings := List.append_inj_right' chars rfl
  revert endings
  decide

omit [NumberReader] [NumberText] texts in
theorem key_iff (x y : IPv6) : x.key = y.key ↔ x.SpelledAlike y := by
  have solid : ∀ address : IPv6, ∀ part ∈ address.written.take 3, ':' ∉ part :=
    fun address part mem inside =>
      ((address.written_solid part (List.mem_of_mem_take mem)).2 ':' inside).2 rfl
  have some_part : ∀ {address : IPv6}, 3 ≤ address.written.length →
      address.written.take 3 ≠ [] := by
    intro address long empty
    have length := congrArg List.length empty
    rw [List.length_take, List.length_nil] at length
    omega
  -- an address of few parts has an empty one, which a joined prefix has not
  have apart : ∀ {x y : IPv6}, 3 ≤ x.written.length → ¬3 ≤ y.written.length →
      [':'].intercalate (x.written.take 3) ≠ y.chars := by
    intro x y long short same
    have empty : [] ∈ y.chars.splitOn ':' := by
      apply y.nil_mem_parts
      by_contra full
      exact short (y.length_written (Bool.eq_false_of_not_eq_true full))
    rw [← same, List.splitOn_intercalate ':' (solid x) (some_part long)] at empty
    exact (x.written_solid [] (List.mem_of_mem_take empty)).1 rfl
  have lengths : x.chars = y.chars → x.written.length = y.written.length := by
    intro same
    rw [← x.parts_chars, ← y.parts_chars, same]
  unfold IPv6.key IPv6.SpelledAlike
  by_cases long_x : 3 ≤ x.written.length <;> by_cases long_y : 3 ≤ y.written.length
  · rw [if_pos long_x, if_pos long_y, if_pos ⟨long_x, long_y⟩]
    exact ⟨intercalate_injective (some_part long_x) (some_part long_y) (solid x) (solid y),
      fun same => by rw [same]⟩
  · rw [if_pos long_x, if_neg long_y, if_neg fun both => long_y both.2]
    exact ⟨fun same => absurd same (apart long_x long_y),
      fun same => absurd (lengths same ▸ long_x) long_y⟩
  · rw [if_neg long_x, if_pos long_y, if_neg fun both => long_x both.1]
    exact ⟨fun same => absurd same.symm (apart long_y long_x),
      fun same => absurd (lengths same ▸ long_y) long_x⟩
  · rw [if_neg long_x, if_neg long_y, if_neg fun both => long_x both.1]

/-- Two IPv6 addresses have the same prefix text exactly when they are spelled alike. -/
theorem subnet_ipv6_iff (x y : IPv6) :
    extractSubnet (String.ofList x.chars) = extractSubnet (String.ofList y.chars) ↔
      x.SpelledAlike y := by
  rw [extractSubnet_ipv6 texts, extractSubnet_ipv6 texts, String.ofList_inj,
    List.append_left_inj, key_iff]

/-- Subnets are canonical exactly when two IPv6 addresses are spelled alike in the same /48
prefix, and only there. -/
theorem subnet_canonical_iff (x y : Address) :
    (extractSubnet x.text = extractSubnet y.text ↔ x.SameNetwork y) ↔
      ∀ p q, x = .ipv6 p → y = .ipv6 q → (p.SpelledAlike q ↔ p.network = q.network) := by
  cases x with
  | ipv4 x =>
    cases y with
    | ipv4 y =>
      exact iff_of_true (subnet_ipv4_iff texts x y) fun p q family => by cases family
    | ipv6 y =>
      exact iff_of_true (iff_of_false (subnet_families texts x y) id)
        fun p q family => by cases family
  | ipv6 x =>
    cases y with
    | ipv4 y =>
      exact iff_of_true (iff_of_false (subnet_families texts y x).symm id)
        fun p q _ family => by cases family
    | ipv6 y =>
      rw [Address.text, Address.text, subnet_ipv6_iff texts, Address.SameNetwork]
      constructor
      · rintro canonical p q ⟨⟩ ⟨⟩
        exact canonical
      · intro canonical
        exact canonical x y rfl rfl

end

/-! ## Two spellings of one address -/

section Example

attribute [local instance] decimalReader integerText

/-- The reader's integer of decimal digits. -/
theorem foldl_digits {cs : List Char} (digits : ∀ c ∈ cs, c.isDigit = true) (value : Nat) :
    cs.foldl (fun value c => 10 * value + ((c.toNat : Int) - 48)) value =
      (Nat.ofDigitChars 10 cs value : Nat) := by
  induction cs generalizing value with
  | nil => rfl
  | cons c rest ih =>
    have digit : 48 ≤ c.toNat := (Char.isDigit_iff_toNat.mp (digits c List.mem_cons_self)).1
    have next : 10 * (value : Int) + ((c.toNat : Int) - 48) =
        ((10 * value + (c.toNat - '0'.toNat) : Nat) : Int) := by
      change _ = ((10 * value + (c.toNat - 48) : Nat) : Int)
      omega
    rw [List.foldl_cons, Nat.ofDigitChars_cons, next]
    exact ih (fun other mem => digits other (List.mem_cons_of_mem _ mem)) _

theorem octetText : OctetText where
  decimal octet := by
    have digits : (String.ofList octet.digits).toList.all Char.isDigit = true := by
      rw [String.toList_ofList, List.all_eq_true]
      exact octet.decimal
    have small : octet.value ≤ 255 := octet.small
    have read : NumberReader.toNumber (String.ofList octet.digits) = .ofInt octet.value := by
      change (if _ then _ else _) = _
      rw [if_pos digits, String.toList_ofList]
      exact congrArg Number.ofInt (foldl_digits octet.decimal 0)
    rw [read, Number.ofInt_of_natAbs_lt (by change octet.value < 2 ^ 53; omega)]
    exact congrArg Number.finite (by norm_cast)
  colon s colon := by
    change (if _ then _ else _) = _
    rw [if_neg]
    intro digits
    exact absurd (List.all_eq_true.mp digits ':' colon) (by decide)
  octet n _ := rfl

def group (digits : List Char) (some_digit : digits ≠ []) (short : digits.length ≤ 4)
    (hex : (digits.all fun c => (digitValue c).isSome) = true) : Group :=
  ⟨digits, some_digit, short, List.all_eq_true.mp hex⟩

def one : Group := group ['1'] (by decide) (by decide) (by decide)

def two : Group := group ['2'] (by decide) (by decide) (by decide)

def db8 : Group := group ['d', 'b', '8'] (by decide) (by decide) (by decide)

def upperDb8 : Group := group ['D', 'B', '8'] (by decide) (by decide) (by decide)

/-- `2001:db8:1::1`, with the second group and the last one given. -/
def documentation (second last : Group) : IPv6 where
  before := [group ['2', '0', '0', '1'] (by decide) (by decide) (by decide), second, one]
  compressed := true
  after := [last]
  embedded := none
  length := Nat.le_of_ble_eq_true rfl
  full := fun full => by cases full

/-- Two hosts of a prefix, both written in lower case. -/
theorem subnet_canonical_hosts :
    extractSubnet (Address.ipv6 (documentation db8 one)).text =
        extractSubnet (Address.ipv6 (documentation db8 two)).text ↔
      (Address.ipv6 (documentation db8 one)).SameNetwork (.ipv6 (documentation db8 two)) := by
  refine (subnet_canonical_iff octetText _ _).mpr ?_
  rintro p q ⟨⟩ ⟨⟩
  refine iff_of_true ?_ rfl
  rw [IPv6.SpelledAlike, if_pos (by decide)]
  rfl

def three : Group := group ['3'] (by decide) (by decide) (by decide)

/-- `1::2:3` -/
def gapBehind : IPv6 where
  before := [one]
  compressed := true
  after := [two, three]
  embedded := none
  length := Nat.le_of_ble_eq_true rfl
  full := fun full => by cases full

/-- `1:2:3::` -/
def gapLast : IPv6 where
  before := [one, two, three]
  compressed := true
  after := []
  embedded := none
  length := Nat.le_of_ble_eq_true rfl
  full := fun full => by cases full

/-- `2001:DB8:1::1` and `2001:db8:1::1` are one address with two prefixes; `1::2:3` and `1:2:3::`
are of two networks with one. -/
theorem subnet_spelling :
    ((Address.ipv6 (documentation upperDb8 one)).SameNetwork (.ipv6 (documentation db8 one)) ∧
      extractSubnet (Address.ipv6 (documentation upperDb8 one)).text ≠
        extractSubnet (Address.ipv6 (documentation db8 one)).text) ∧
    ¬(Address.ipv6 gapBehind).SameNetwork (.ipv6 gapLast) ∧
      extractSubnet (Address.ipv6 gapBehind).text = extractSubnet (Address.ipv6 gapLast).text := by
  refine ⟨⟨?_, by decide⟩, ?_, by decide⟩
  · change (documentation upperDb8 one).network = (documentation db8 one).network
    decide
  · change ¬gapBehind.network = gapLast.network
    decide

end Example

end KeyCollective.Sybil
