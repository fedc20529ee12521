import KeyCollective.Crypto.Encoding
import KeyCollective.Lib.FormUrlencoded

/-!
# URLSearchParams

The parameters of a query or of a form, in order. What is written reads back, whatever
characters the names and the values have.
-/

namespace KeyCollective

abbrev SearchParams := List (String × String)

namespace SearchParams

/-- The first of the name takes the value, and the others go. -/
def set (name value : String) : SearchParams → SearchParams
  | [] => [(name, value)]
  | param :: rest =>
    if param.1 = name then (name, value) :: rest.filter fun other => other.1 ≠ name
    else param :: set name value rest

def get (params : SearchParams) (name : String) : Option String :=
  (params.find? fun param => param.1 = name).map Prod.snd

/-- The parameters that a condition adds. -/
def setSome (name : String) (value : Option String) (params : SearchParams) : SearchParams :=
  match value with
  | some value => params.set name value
  | none => params

/-- `params.toString()`. -/
def toText (params : SearchParams) : String :=
  String.ofList ((FormUrlencoded.serialize (params.map fun param =>
    (stringToBytes param.1, stringToBytes param.2))).map fun byte => Char.ofNat byte.toNat)

/-- The decoder that leaves a byte order mark in its place. -/
def decodeName (bytes : Bytes) : String :=
  String.ofList ((Utf8.decode bytes).map fun c => c.getD '\uFFFD')

/-- The parameters of the query of a URL. -/
def ofQuery (query : List Char) : SearchParams :=
  (FormUrlencoded.parse (Utf8.encode query)).map fun pair => (decodeName pair.1, decodeName pair.2)

/-- One question mark at the start is dropped. -/
def unasked : List Char → List Char
  | '?' :: rest => rest
  | chars => chars

/-- `new URLSearchParams(text)`. -/
def ofText (text : String) : SearchParams := ofQuery (unasked text.toList)

@[simp] theorem get_nil (name : String) : get [] name = none := rfl

@[simp] theorem get_set (params : SearchParams) (name value other : String) :
    (params.set name value).get other = if name = other then some value else params.get other := by
  induction params with
  | nil =>
    by_cases asked : name = other <;> simp [set, get, asked]
  | cons param rest ih =>
    by_cases same : param.1 = name
    · by_cases asked : name = other
      · simp [set, get, same, asked]
      · have behind : (rest.filter fun param => param.1 ≠ name).find? (fun param => param.1 = other) =
            rest.find? fun param => param.1 = other := by
          rw [List.find?_filter]
          congr 1
          funext param
          by_cases here : param.1 = other
          · simp [here, Ne.symm asked]
          · simp [here]
        simp only [set, same, ↓reduceIte, get, asked]
        rw [List.find?_cons_of_neg (by simpa using asked), behind,
          List.find?_cons_of_neg (by simpa [same] using asked)]
    · by_cases here : param.1 = other
      · subst here
        simp [set, get, same, Ne.symm same]
      · simpa [set, get, same, here] using ih

@[simp] theorem get_setSome (params : SearchParams) (name : String) (value : Option String)
    (other : String) : (params.setSome name value).get other =
      if name = other then value.or (params.get other) else params.get other := by
  cases value with
  | none => simp [setSome]
  | some value => simp [setSome]

/-! ## What is written is read -/

theorem encode_ascii {bytes : Bytes} (ascii : ∀ byte ∈ bytes, byte < 128) :
    Utf8.encode (bytes.map fun byte => Char.ofNat byte.toNat) = bytes := by
  have all : ∀ n : Fin 128, String.utf8EncodeChar (Char.ofNat n) = [UInt8.ofNat n] := by
    decide
  induction bytes with
  | nil => rfl
  | cons byte rest ih =>
    have small : byte.toNat < 128 := ascii byte List.mem_cons_self
    have one : String.utf8EncodeChar (Char.ofNat byte.toNat) = [byte] := by
      simpa using all ⟨byte.toNat, small⟩
    have behind := ih fun byte mem => ascii byte (List.mem_cons_of_mem _ mem)
    rw [Utf8.encode] at behind ⊢
    rw [List.map_cons, List.flatMap_cons, one, behind, List.singleton_append]

theorem hexDigit_safe {n : UInt8} (small : n < 16) :
    FormUrlencoded.hexDigit n < 128 ∧ FormUrlencoded.hexDigit n ≠ 0x3F := by
  have all : ∀ n : Fin 16, FormUrlencoded.hexDigit (UInt8.ofNat n) < 128 ∧
      FormUrlencoded.hexDigit (UInt8.ofNat n) ≠ 0x3F := by
    decide
  have one := all ⟨n.toNat, small⟩
  rwa [UInt8.ofNat_toNat] at one

theorem plain_safe {byte : UInt8} (plain : FormUrlencoded.plain byte = true) :
    byte < 128 ∧ byte ≠ 0x3F := by
  simp only [FormUrlencoded.plain, decide_eq_true_eq, List.mem_cons, List.not_mem_nil,
    or_false, UInt8.le_iff_toNat_le, ← UInt8.toNat_inj, UInt8.lt_iff_toNat_lt, ne_eq,
    UInt8.reduceToNat] at plain ⊢
  omega

theorem encodeByte_safe {byte written : UInt8} (mem : written ∈ FormUrlencoded.encodeByte byte) :
    written < 128 ∧ written ≠ 0x3F := by
  unfold FormUrlencoded.encodeByte at mem
  split_ifs at mem with plain space
  · obtain rfl := List.mem_singleton.mp mem
    exact plain_safe plain
  · obtain rfl := List.mem_singleton.mp mem
    decide
  · simp only [List.mem_cons, List.not_mem_nil, or_false] at mem
    have high : byte / 16 < 16 := by
      rw [UInt8.lt_iff_toNat_lt, UInt8.toNat_div]
      exact Nat.div_lt_of_lt_mul byte.toNat_lt
    have low : byte % 16 < 16 := by
      rw [UInt8.lt_iff_toNat_lt, UInt8.toNat_mod]
      exact Nat.mod_lt _ (by decide)
    rcases mem with rfl | rfl | rfl
    · decide
    · exact hexDigit_safe high
    · exact hexDigit_safe low

/-- What is written is plain, an escape or a sign that divides, and no question mark. -/
theorem mem_serialize {pairs : List (Bytes × Bytes)} {byte : UInt8}
    (mem : byte ∈ FormUrlencoded.serialize pairs) : byte < 128 ∧ byte ≠ 0x3F := by
  have encoded {bytes : Bytes} {byte : UInt8} (mem : byte ∈ FormUrlencoded.encode bytes) :
      byte < 128 ∧ byte ≠ 0x3F := by
    obtain ⟨source, -, written⟩ := List.mem_flatMap.mp mem
    exact encodeByte_safe written
  unfold FormUrlencoded.serialize at mem
  generalize sequences : (pairs.map fun pair => FormUrlencoded.encode pair.1 ++
    FormUrlencoded.equals :: FormUrlencoded.encode pair.2) = parts at mem
  have whole : ∀ part ∈ parts, ∀ byte ∈ part, byte < 128 ∧ byte ≠ 0x3F := by
    intro part within byte mem
    rw [← sequences] at within
    obtain ⟨pair, -, rfl⟩ := List.mem_map.mp within
    rcases List.mem_append.mp mem with inName | inValue
    · exact encoded inName
    · rcases List.mem_cons.mp inValue with rfl | inValue
      · decide
      · exact encoded inValue
  clear sequences
  induction parts with
  | nil => simp at mem
  | cons part rest ih =>
    cases rest with
    | nil =>
      rw [List.intercalate_singleton] at mem
      exact whole part List.mem_cons_self byte mem
    | cons next rest =>
      rw [List.intercalate_cons_cons, List.mem_append, List.mem_append, List.mem_singleton] at mem
      rcases mem with (here | rfl) | later
      · exact whole part List.mem_cons_self byte here
      · decide
      · exact ih later fun part within => whole part (List.mem_cons_of_mem _ within)

theorem decodeName_stringToBytes (text : String) : decodeName (stringToBytes text) = text := by
  rw [decodeName, stringToBytes, Utf8.decode_encode, List.map_map]
  exact (congrArg String.ofList (List.map_id _)).trans String.ofList_toList

theorem ofQuery_toText (params : SearchParams) : ofQuery params.toText.toList = params := by
  have ascii := encode_ascii fun byte mem => (@mem_serialize (params.map fun param =>
    (stringToBytes param.1, stringToBytes param.2)) byte mem).1
  rw [ofQuery, toText, String.toList_ofList, ascii, FormUrlencoded.parse_serialize, List.map_map]
  conv_rhs => rw [← List.map_id params]
  apply List.map_congr_left
  intro param _
  exact Prod.ext (decodeName_stringToBytes param.1) (decodeName_stringToBytes param.2)

theorem ofText_toText (params : SearchParams) : ofText params.toText = params := by
  have unmarked : unasked params.toText.toList = params.toText.toList := by
    unfold unasked
    split
    · rename_i rest starts
      have mem : '?' ∈ params.toText.toList := starts ▸ List.mem_cons_self
      rw [toText, String.toList_ofList] at mem
      obtain ⟨byte, written, same⟩ := List.mem_map.mp mem
      have all : ∀ n : Fin 256, Char.ofNat n = '?' → UInt8.ofFin n = 0x3F := by decide +kernel
      exact absurd (all byte.toFin same) (mem_serialize written).2
    · rfl
  rw [ofText, unmarked, ofQuery_toText]

end SearchParams

end KeyCollective
