import Mathlib.Data.List.GetD
import Mathlib.Tactic.Common

/-!
# Texts in URLs

`encodeURIComponent` and the path of a URL as the standards define them. A text with an
unpaired surrogate, on which `encodeURIComponent` throws, is not among the texts here.
-/

namespace KeyCollective

def hexDigits : List Char :=
  ['0', '1', '2', '3', '4', '5', '6', '7', '8', '9', 'a', 'b', 'c', 'd', 'e', 'f']

def hexDigit (n : Nat) : Char := hexDigits.getD n '0'

/-- The characters `encodeURIComponent` leaves alone. -/
def unreserved (c : Char) : Bool :=
  c.isAlphanum || c.toNat ∈ [0x21, 0x27, 0x28, 0x29, 0x2A, 0x2D, 0x2E, 0x5F, 0x7E]

def encodeURIComponent (s : String) : String :=
  String.ofList (s.toList.flatMap fun c =>
    if unreserved c then [c]
    else (String.utf8EncodeChar c).flatMap fun byte =>
      ['%', (hexDigit (byte.toNat / 16)).toUpper, (hexDigit (byte.toNat % 16)).toUpper])

/-- Dot segments are resolved, and one at the end leaves an empty segment behind. What
`encodeURIComponent` encodes is never a dot, so that `%2e` is not met. `done` is reversed. -/
def resolveDots (done : List String) : List String → List String
  | [] => done.reverse
  | segment :: rest =>
    let close (done : List String) := if rest = [] then "" :: done else done
    if segment = "." then resolveDots (close done) rest
    else if segment = ".." then resolveDots (close done.tail) rest
    else resolveDots (segment :: done) rest

/-- The segments of an absolute path. The serialized path has a slash before each. -/
def urlPath (path : String) : List String :=
  resolveDots [] (((path.toList.splitOn '/').map String.ofList).tail)

theorem utf8EncodeChar_ne_nil (c : Char) : String.utf8EncodeChar c ≠ [] := by
  unfold String.utf8EncodeChar
  simp only
  split_ifs <;> simp

/-- What becomes of one character. -/
def encodeChar (c : Char) : List Char :=
  if unreserved c then [c]
  else (String.utf8EncodeChar c).flatMap fun byte =>
    ['%', (hexDigit (byte.toNat / 16)).toUpper, (hexDigit (byte.toNat % 16)).toUpper]

theorem toList_encodeURIComponent (s : String) :
    (encodeURIComponent s).toList = s.toList.flatMap encodeChar :=
  String.toList_ofList

/-- A text of unreserved characters is not changed. -/
theorem encodeURIComponent_eq_self {s : String} (plain : ∀ c ∈ s.toList, unreserved c = true) :
    encodeURIComponent s = s := by
  have same : ∀ cs : List Char, (∀ c ∈ cs, unreserved c = true) → cs.flatMap encodeChar = cs := by
    intro cs plain
    induction cs with
    | nil => rfl
    | cons c rest ih =>
      rw [List.flatMap_cons, ih fun c mem => plain c (List.mem_cons_of_mem _ mem), encodeChar,
        if_pos (plain c List.mem_cons_self)]
      rfl
  apply String.toList_injective
  rw [toList_encodeURIComponent, same _ plain]

theorem encodeChar_length (c : Char) :
    1 ≤ (encodeChar c).length ∧ ((encodeChar c).length = 1 → unreserved c = true) := by
  unfold encodeChar
  split
  case isTrue plain => exact ⟨Nat.le_refl _, fun _ => plain⟩
  case isFalse =>
    obtain ⟨byte, rest, bytes⟩ := List.exists_cons_of_ne_nil (utf8EncodeChar_ne_nil c)
    rw [bytes, List.flatMap_cons, List.length_append]
    simp only [List.length_cons, List.length_nil]
    constructor <;> omega

/-- Every other text grows. -/
theorem plain_of_encodeURIComponent {s : String} (same : encodeURIComponent s = s) :
    ∀ c ∈ s.toList, unreserved c = true := by
  have grows : ∀ cs : List Char, cs.length ≤ (cs.flatMap encodeChar).length ∧
      ((cs.flatMap encodeChar).length = cs.length → ∀ c ∈ cs, unreserved c = true) := by
    intro cs
    induction cs with
    | nil => exact ⟨Nat.le_refl _, fun _ _ mem => absurd mem List.not_mem_nil⟩
    | cons c rest ih =>
      have first := encodeChar_length c
      simp only [List.flatMap_cons, List.length_append, List.length_cons, List.mem_cons,
        forall_eq_or_imp]
      exact ⟨by omega, fun short => ⟨first.2 (by omega), ih.2 (by omega)⟩⟩
  have chars := congrArg String.toList same
  rw [toList_encodeURIComponent] at chars
  exact (grows s.toList).2 (congrArg List.length chars)

theorem hexDigit_ne_slash (n : Nat) : (hexDigit n).toUpper ≠ '/' := by
  by_cases small : n < 16
  · have digits : ∀ n < 16, (hexDigit n).toUpper ≠ '/' := by decide
    exact digits n small
  · rw [hexDigit, List.getD_eq_default _ _ (Nat.le_of_not_lt small)]
    decide

theorem slash_not_mem_encodeURIComponent (s : String) :
    '/' ∉ (encodeURIComponent s).toList := by
  rw [toList_encodeURIComponent, List.mem_flatMap]
  rintro ⟨c, -, mem⟩
  unfold encodeChar at mem
  split at mem
  case isTrue plain =>
    rw [List.mem_singleton] at mem
    rw [← mem] at plain
    exact absurd plain (by decide)
  case isFalse =>
    obtain ⟨byte, -, mem⟩ := List.mem_flatMap.mp mem
    simp only [List.mem_cons, List.not_mem_nil, or_false] at mem
    rcases mem with slash | slash | slash
    · exact absurd slash (by decide)
    · exact hexDigit_ne_slash _ slash.symm
    · exact hexDigit_ne_slash _ slash.symm

/-- The path of a fixed start and one segment that holds no slash. -/
theorem urlPath_append {segment : String} (whole : '/' ∉ segment.toList) :
    urlPath ("/coordinator/brake-status/" ++ segment) =
      resolveDots [] ["coordinator", "brake-status", segment] := by
  have split : ("/coordinator/brake-status/" ++ segment).toList.splitOn '/' =
      [[], "coordinator".toList, "brake-status".toList, segment.toList] := by
    have parts : ("/coordinator/brake-status/" ++ segment).toList =
        [] ++ '/' :: ("coordinator".toList ++ '/' :: ("brake-status".toList ++
          '/' :: segment.toList)) := by
      rw [String.toList_append]
      rfl
    rw [parts, List.splitOn_append_cons_self, List.splitOn_append_cons_self,
      List.splitOn_append_cons_self, List.splitOn_eq_singleton whole]
    rfl
  rw [urlPath, split]
  simp

end KeyCollective
