import KeyCollective.Json
import KeyCollective.Lib.Like
import KeyCollective.Router.AliasMap

/-!
# Models in the database

`model_registry` resolves a name by the exact id, and else by a pattern over the text of the
aliases with a check of the parsed list behind it. The statement of the pattern ends in a
semicolon before its filter and its order, so what becomes of these is up to the engine.
-/

namespace KeyCollective

/-- A row. `logical_aliases` is the JSON text of the aliases here. -/
structure ModelRegistryRow where
  id : String
  provider : String
  logicalAliases : List String
  inputCostPerMTokMicro : Int
  outputCostPerMTokMicro : Int
  cacheReadCostPerMTokMicro : Int
  contextWindow : Int := 0
  maxOutputTokens : Int := 0
  supportsTools : Int := 0
  supportsVision : Int := 0
  supportsJsonSchema : Int := 0
  isActive : Int
deriving DecidableEq, Repr

/-- What an engine does with the text behind the statement it was asked to prepare. -/
inductive Trailing where
  /-- It does not parse, which is an error. -/
  | refused
  /-- It is left unread. -/
  | ignored
deriving DecidableEq, Repr

/-- The engine's error. -/
inductive SqlError where
  | syntaxError
deriving DecidableEq, Repr

/-! ## The text of the aliases -/

/-- `JSON.stringify` of a list of strings. -/
def stringify (items : List String) : List Char :=
  '[' :: ([','].intercalate (items.map jsonString) ++ [']'])

namespace ModelRegistryRepository

/-- `parseAliases`, which parses the text first. -/
def parseAliases (aliases : List String) : List String := (aliases.map trim).filter (· ≠ "")

/-- An integer a parameter can be bound to; none is the `RangeError`. -/
def toDbCost (cost : Int) : Option Int := if isSafeInteger cost then some cost else none

/-- `buildParamValues`, of the fields kept here. -/
def toRow (model : ModelDef) : Option ModelRegistryRow := do
  let inputCostPerMTokMicro ← toDbCost model.inputCostPerMTokMicro
  let outputCostPerMTokMicro ← toDbCost model.outputCostPerMTokMicro
  let cacheReadCostPerMTokMicro ← toDbCost model.cacheReadCostPerMTokMicro
  return {
    id := model.id
    provider := model.provider
    logicalAliases := model.logicalAliases
    inputCostPerMTokMicro, outputCostPerMTokMicro, cacheReadCostPerMTokMicro
    contextWindow := model.contextWindow
    maxOutputTokens := model.maxOutputTokens
    supportsTools := if model.supportsTools then 1 else 0
    supportsVision := if model.supportsVision then 1 else 0
    supportsJsonSchema := if model.supportsJsonSchema then 1 else 0
    isActive := if model.isActive then 1 else 0 }

def rowToModelDef (row : ModelRegistryRow) : ModelDef where
  id := row.id
  provider := row.provider
  logicalAliases := parseAliases row.logicalAliases
  inputCostPerMTokMicro := row.inputCostPerMTokMicro
  outputCostPerMTokMicro := row.outputCostPerMTokMicro
  cacheReadCostPerMTokMicro := row.cacheReadCostPerMTokMicro
  contextWindow := row.contextWindow
  maxOutputTokens := row.maxOutputTokens
  supportsTools := row.supportsTools = 1
  supportsVision := row.supportsVision = 1
  supportsJsonSchema := row.supportsJsonSchema = 1
  isActive := row.isActive = 1

/-! ## The statements -/

/-- The parts of the statement `findAllByAlias` puts together. -/
inductive Clause where
  | aliasLike (pattern : List Char)
  | semicolon
  | isActive
  | orderByInputCost
deriving DecidableEq

/-- ASCII letters are alike in either case. -/
def sameLetter (c d : Char) : Bool := c.toLower = d.toLower

def Clause.apply (rows : List ModelRegistryRow) : Clause → List ModelRegistryRow
  | .aliasLike pattern =>
    rows.filter fun row => Like.like sameLetter '\\' pattern (stringify row.logicalAliases)
  | .semicolon => rows
  | .isActive => rows.filter fun row => row.isActive = 1
  | .orderByInputCost =>
    rows.insertionSort (ModelRegistryRow.inputCostPerMTokMicro · ≤
      ModelRegistryRow.inputCostPerMTokMicro ·)

/-- The first statement of a text is run; what follows its semicolon is the engine's affair. -/
def execute (trailing : Trailing) (sql : List Clause) (rows : List ModelRegistryRow) :
    Except SqlError (List ModelRegistryRow) :=
  let statement := sql.takeWhile (· ≠ .semicolon)
  let tail := (sql.dropWhile (· ≠ .semicolon)).drop 1
  if trailing = .refused ∧ tail ≠ [] then .error .syntaxError else .ok (statement.foldl Clause.apply rows)

/-- `%"…"%` around the alias with `%`, `_` and the backslash escaped. -/
def likePattern (cleanAlias : String) : List Char :=
  '%' :: '"' :: (Like.quote '\\' cleanAlias.toList ++ ['"', '%'])

variable (trailing : Trailing) (rows : List ModelRegistryRow)

def findById (id : String) : Option ModelDef :=
  (rows.find? fun row => row.id = id).map rowToModelDef

def findAllByAlias (name : String) (onlyActive : Bool := true) :
    Except SqlError (List ModelDef) :=
  let cleanAlias := trim name
  if cleanAlias = "" then .ok []
  else
    let sql := [.aliasLike (likePattern cleanAlias), .semicolon] ++
      (if onlyActive then [.isActive] else []) ++ [.orderByInputCost]
    (execute trailing sql rows).map fun results =>
      (results.map rowToModelDef).filter fun model => cleanAlias ∈ model.logicalAliases

def findByAlias (name : String) (onlyActive : Bool := true) : Except SqlError (Option ModelDef) :=
  (findAllByAlias trailing rows name onlyActive).map List.head?

def resolveModel (idOrAlias : String) (onlyActive : Bool := true) :
    Except SqlError (Option ModelDef) :=
  let clean := trim idOrAlias
  if clean = "" then .ok none
  else match findById rows clean with
  | some model => if ¬onlyActive ∨ model.isActive then .ok (some model) else .ok none
  | none => findByAlias trailing rows clean onlyActive

/-! ## What is found -/

/-- The row's text matches and its parsed list has the name. -/
def lists (clean : String) (row : ModelRegistryRow) : Bool :=
  Like.like sameLetter '\\' (likePattern clean) (stringify row.logicalAliases) &&
    decide (clean ∈ parseAliases row.logicalAliases)

/-- An engine that leaves the rest unread gives the first row that lists the name, active or
not and whatever it costs. -/
theorem findByAlias_eq {clean : String} (trimmed : trim clean = clean) (named : clean ≠ "")
    (onlyActive : Bool) :
    findByAlias trailing rows clean onlyActive =
      match trailing with
      | .refused => .error .syntaxError
      | .ignored => .ok ((rows.find? (lists clean)).map rowToModelDef) := by
  have first : ((rows.filter fun row => Like.like sameLetter '\\' (likePattern clean)
        (stringify row.logicalAliases)).map rowToModelDef).filter (fun model =>
          decide (clean ∈ model.logicalAliases)) =
      (rows.filter (lists clean)).map rowToModelDef := by
    rw [List.filter_map, List.filter_filter]
    congr 1
    refine List.filter_congr fun row _ => ?_
    rw [lists, Bool.and_comm]
    rfl
  unfold findByAlias findAllByAlias
  rw [trimmed]
  simp only [if_neg named]
  cases trailing with
  | refused => cases onlyActive <;> rfl
  | ignored =>
    have run : execute .ignored ([.aliasLike (likePattern clean), .semicolon] ++
        (if onlyActive then [Clause.isActive] else []) ++ [.orderByInputCost]) rows =
        .ok (rows.filter fun row => Like.like sameLetter '\\' (likePattern clean)
          (stringify row.logicalAliases)) := by
      cases onlyActive <;> rfl
    rw [run]
    simp only [Except.map, first, List.head?_map, List.head?_filter]

theorem toRow_some {model : ModelDef} {row : ModelRegistryRow} (written : toRow model = some row) :
    row.id = model.id ∧ rowToModelDef row = normalizeModelDef model ∧
      row.logicalAliases = model.logicalAliases := by
  have exact_cost {cost kept : Int} (safe : toDbCost cost = some kept) : kept = cost := by
    unfold toDbCost at safe
    split_ifs at safe
    exact (Option.some.inj safe).symm
  unfold toRow at written
  cases input : toDbCost model.inputCostPerMTokMicro with
  | none => simp [input] at written
  | some inputCost =>
    cases output : toDbCost model.outputCostPerMTokMicro with
    | none => simp [input, output] at written
    | some outputCost =>
      cases cached : toDbCost model.cacheReadCostPerMTokMicro with
      | none => simp [input, output, cached] at written
      | some cacheCost =>
        simp only [input, output, cached, Option.bind_eq_bind, Option.bind_some, Option.pure_def,
          Option.some.injEq] at written
        subst written
        obtain rfl := exact_cost input
        obtain rfl := exact_cost output
        obtain rfl := exact_cost cached
        refine ⟨rfl, ?_, rfl⟩
        have flag (b : Bool) : decide ((if b then (1 : Int) else 0) = 1) = b := by cases b <;> rfl
        simp only [rowToModelDef, normalizeModelDef, parseAliases, flag]

/-! ## The same models in memory -/

section

variable [Host]

/-- Trimming a name before its case is changed trims no more than after. -/
class LawfulTrim : Prop where
  cleanName_trim : ∀ s : String, cleanName (trim s) = cleanName s

/-- The models are registered in memory, in this order, and stored in the database, whose
engine visits their rows in any order. No two of them have one key, and no id is blank. -/
structure Shared (rows : List ModelRegistryRow) (models : List ModelDef) : Prop where
  named : ∀ model ∈ models, isBlank model.id = false
  distinct : (models.map modelKey).Nodup
  stored : (models.map toRow).Perm (rows.map some)

def registryOf (models : List ModelDef) : ModelRegistry :=
  ModelRegistry.run (models.map ModelRegistry.Op.registerModel)

theorem registryOf_models {models : List ModelDef}
    (named : ∀ model ∈ models, isBlank model.id = false) (distinct : (models.map modelKey).Nodup) :
    (registryOf models).models.values = models.map normalizeModelDef ∧
      (registryOf models).aliasOverrides = .empty := by
  have fold : ∀ registry : ModelRegistry,
      (models.map ModelRegistry.Op.registerModel).foldl ModelRegistry.step registry =
        { registry with models := registry.models.setAll (models.map normalizeModelDef) } := by
    clear distinct
    induction models with
    | nil => exact fun registry => rfl
    | cons model rest ih =>
      intro registry
      have registered : registry.step (.registerModel model) =
          { registry with models := registry.models.set (normalizeModelDef model) } := by
        simp only [ModelRegistry.step, ModelRegistry.registerModel, normalizeModelDef,
          named model List.mem_cons_self, Bool.false_eq_true, if_false, Option.getD_some]
      rw [List.map_cons, List.foldl_cons, registered,
        ih fun other mem => named other (List.mem_cons_of_mem model mem)]
      rfl
  have keys : (models.map normalizeModelDef).map modelKey = models.map modelKey := by
    rw [List.map_map]
    rfl
  rw [registryOf, ModelRegistry.run, fold]
  refine ⟨?_, rfl⟩
  rw [IndexedMap.values_setAll_new (by rw [keys]; exact distinct) (fun v _ taken => by cases taken)]
  rfl

/-- Of the active models that list the name up to case, the first of the cheapest. -/
def cheapest (clean : String) (models : List ModelDef) : Option ModelDef :=
  Cheapest.scan ModelDef.inputCostPerMTokMicro
    (fun model => model.isActive = true ∧
      ModelRegistry.carries clean (normalizeModelDef model) = true) models

/-- Resolution in memory, from the models as they were registered. -/
theorem registryOf_resolveModel [LawfulHost] {models : List ModelDef}
    (named : ∀ model ∈ models, isBlank model.id = false) (distinct : (models.map modelKey).Nodup)
    (name : String) (onlyActive : Bool) :
    (registryOf models).resolveModel name onlyActive =
      match models.find? (fun model => modelKey model = cleanName name) with
      | some direct =>
        if onlyActive ∧ ¬direct.isActive then none else some (normalizeModelDef direct)
      | none => (cheapest (cleanName name) models).map normalizeModelDef := by
  obtain ⟨values, overrides⟩ := registryOf_models named distinct
  have lookup (clean : String) : (registryOf models).models.get? clean =
      (models.find? fun model => modelKey model = clean).map normalizeModelDef := by
    rw [IndexedMap.get?, values, List.find?_map]
    rfl
  have matched : (registryOf models).cheapestMatch (cleanName name) =
      (cheapest (cleanName name) models).map normalizeModelDef := by
    rw [ModelRegistry.cheapestMatch_eq, values, Cheapest.scan_map]
    rfl
  have free (clean : String) : (registryOf models).aliasOverrides.get? clean = none := by
    rw [overrides]
    rfl
  simp only [ModelRegistry.resolveModel, lookup]
  cases models.find? fun model => modelKey model = cleanName name with
  | some direct => rfl
  | none =>
    simp only [Option.map_none, ModelRegistry.resolveAlias, LawfulHost.clean_clean, free,
      Option.filter_none, matched]
    cases best : cheapest (cleanName name) models with
    | none => rfl
    | some model =>
      obtain ⟨mem, active, -⟩ := Cheapest.scan_mem _ _ best
      have present : model.id ≠ "" := by
        intro empty
        have blank := named model mem
        rw [empty] at blank
        cases blank
      have found := IndexedMap.get?_of_mem
        (values ▸ List.mem_map_of_mem mem :
          normalizeModelDef model ∈ (registryOf models).models.values)
      rw [lookup] at found
      have kept : (normalizeModelDef model).id = model.id := rfl
      simp only [Option.map_some, kept, Option.filter_some, present, ne_eq, not_false_eq_true,
        decide_true, if_true]
      have resolved : (models.find? fun other => modelKey other = cleanName model.id).map
          normalizeModelDef = some (normalizeModelDef model) := found
      rw [resolved]
      simp [normalizeModelDef, active]

/-! ## Agreement -/

variable {rows : List ModelRegistryRow} {models : List ModelDef}

theorem Shared.model_of (shared : Shared rows models) {row : ModelRegistryRow} (mem : row ∈ rows) :
    ∃ model ∈ models, toRow model = some row :=
  List.mem_map.mp (shared.stored.mem_iff.mpr (List.mem_map_of_mem mem))

theorem Shared.row_of (shared : Shared rows models) {model : ModelDef} (mem : model ∈ models) :
    ∃ row ∈ rows, toRow model = some row := by
  obtain ⟨row, present, written⟩ :=
    List.mem_map.mp (shared.stored.mem_iff.mp (List.mem_map_of_mem mem))
  exact ⟨row, present, written.symm⟩

theorem Shared.unique (shared : Shared rows models) {model other : ModelDef} (mem : model ∈ models)
    (mem' : other ∈ models) (same : modelKey model = modelKey other) : model = other :=
  List.inj_on_of_nodup_map shared.distinct mem mem' same

theorem Shared.find?_key (shared : Shared rows models) {model : ModelDef} (mem : model ∈ models) :
    models.find? (fun other => modelKey other = modelKey model) = some model := by
  cases found : models.find? fun other => modelKey other = modelKey model with
  | none =>
    have differs := List.find?_eq_none.mp found model mem
    exact absurd (decide_eq_true rfl) differs
  | some other =>
    have same := List.find?_some found
    rw [decide_eq_true_eq] at same
    rw [shared.unique (List.mem_of_find?_eq_some found) mem same]

/-- A row with a model's id is the model's. -/
theorem Shared.rowToModelDef_of_id (shared : Shared rows models) {row : ModelRegistryRow}
    {model : ModelDef} (mem : row ∈ rows) (mem' : model ∈ models) (same : row.id = model.id) :
    rowToModelDef row = normalizeModelDef model := by
  obtain ⟨owner, present, written⟩ := shared.model_of mem
  obtain ⟨id, kept, -⟩ := toRow_some written
  have key : modelKey owner = modelKey model := congrArg cleanName (id.symm.trans same)
  rw [kept, shared.unique present mem' key]

/-- The first row that lists the name is the model's. -/
def FirstListed (rows : List ModelRegistryRow) (clean : String) (model : ModelDef) : Prop :=
  ∃ row, rows.find? (lists clean) = some row ∧ row.id = model.id

def Unlisted (rows : List ModelRegistryRow) (clean : String) : Prop :=
  ∀ row ∈ rows, lists clean row = false

/-- Where the database and the memory agree on a name: it is blank or the exact id of a model;
or the engine leaves the rest of the statement unread, and the first row that lists the name,
if any, is of the model that memory takes. -/
def Agreeing (trailing : Trailing) (rows : List ModelRegistryRow) (models : List ModelDef)
    (name : String) (onlyActive : Bool) : Prop :=
  trim name = "" ∨ (∃ model ∈ models, model.id = trim name) ∨
    trailing = .ignored ∧
      match models.find? fun model => modelKey model = cleanName name with
      -- The name is another spelling of an id.
      | some direct =>
        if onlyActive ∧ ¬direct.isActive then Unlisted rows (trim name)
        else FirstListed rows (trim name) direct
      | none =>
        match cheapest (cleanName name) models with
        | some model => FirstListed rows (trim name) model
        | none => Unlisted rows (trim name)

theorem firstListed_iff (shared : Shared rows models) {model : ModelDef} (mem : model ∈ models)
    (clean : String) :
    (rows.find? (lists clean)).map rowToModelDef = some (normalizeModelDef model) ↔
      FirstListed rows clean model := by
  rw [Option.map_eq_some_iff]
  constructor
  · rintro ⟨row, found, same⟩
    exact ⟨row, found, congrArg ModelDef.id same⟩
  · rintro ⟨row, found, same⟩
    exact ⟨row, found, shared.rowToModelDef_of_id (List.mem_of_find?_eq_some found) mem same⟩

omit [Host] in
theorem unlisted_iff (clean : String) :
    (rows.find? (lists clean)).map rowToModelDef = none ↔ Unlisted rows clean := by
  rw [Option.map_eq_none_iff, List.find?_eq_none]
  simp [Unlisted]

/-- The row of a model whose id is the name. -/
theorem findById_id (shared : Shared rows models) {model : ModelDef} (mem : model ∈ models) :
    findById rows model.id = some (normalizeModelDef model) := by
  obtain ⟨row, present, written⟩ := shared.row_of mem
  obtain ⟨id, -, -⟩ := toRow_some written
  unfold findById
  cases found : rows.find? fun row => row.id = model.id with
  | none =>
    have differs := List.find?_eq_none.mp found row present
    exact absurd (decide_eq_true id) differs
  | some other =>
    have same := List.find?_some found
    rw [decide_eq_true_eq] at same
    exact congrArg some
      (shared.rowToModelDef_of_id (List.mem_of_find?_eq_some found) mem same)

theorem findById_none (shared : Shared rows models) {id : String}
    (absent : ¬∃ model ∈ models, model.id = id) : findById rows id = none := by
  unfold findById
  rw [Option.map_eq_none_iff, List.find?_eq_none]
  intro row mem same
  obtain ⟨model, present, written⟩ := shared.model_of mem
  exact absent ⟨model, present, (toRow_some written).1.symm.trans (of_decide_eq_true same)⟩

section

variable [LawfulHost]

theorem cleanName_ne_empty {s : String} (text : isBlank s = false) : cleanName s ≠ "" := by
  rw [← LawfulHost.isBlank_lower] at text
  exact trim_ne_empty text

/-- No model has or lists the empty name. -/
theorem cheapest_empty (models : List ModelDef) : cheapest "" models = none := by
  rw [cheapest, Cheapest.scan_eq_none_iff]
  rintro model - ⟨-, listed⟩
  obtain ⟨name, mem, empty⟩ := List.any_eq_true.mp listed
  obtain ⟨kept, text⟩ := List.mem_filter.mp mem
  obtain ⟨raw, -, rfl⟩ := List.mem_map.mp kept
  have named : trim (trim raw) ≠ "" := by
    rw [trim_trim]
    exact of_decide_eq_true text
  exact cleanName_ne_empty (isBlank_eq_false named) (of_decide_eq_true empty)

theorem find?_empty {models : List ModelDef} (named : ∀ model ∈ models, isBlank model.id = false) :
    models.find? (fun model => modelKey model = "") = none := by
  rw [List.find?_eq_none]
  intro model mem empty
  exact cleanName_ne_empty (named model mem) (of_decide_eq_true empty)

end

variable [LawfulHost] [LawfulTrim]

/-- **The database and the memory** resolve a name alike where the rows and the models say one
thing of it, and only there. -/
theorem resolveModel_agrees_iff (shared : Shared rows models) (trailing : Trailing) (name : String)
    (onlyActive : Bool) :
    resolveModel trailing rows name onlyActive =
        .ok ((registryOf models).resolveModel name onlyActive) ↔
      Agreeing trailing rows models name onlyActive := by
  rw [registryOf_resolveModel shared.named shared.distinct, Agreeing]
  by_cases blank : trim name = ""
  · have empty : cleanName name = "" := by
      rw [← LawfulTrim.cleanName_trim, blank, ModelRegistry.cleanName_empty]
    have database : resolveModel trailing rows name onlyActive = .ok none := by
      simp only [resolveModel, if_pos blank]
    rw [database, empty, find?_empty shared.named, cheapest_empty]
    exact ⟨fun _ => Or.inl blank, fun _ => rfl⟩
  · by_cases exactId : ∃ model ∈ models, model.id = trim name
    · obtain ⟨model, mem, id⟩ := exactId
      have key : modelKey model = cleanName name := by
        rw [modelKey, id, LawfulTrim.cleanName_trim]
      have memory := shared.find?_key mem
      rw [key] at memory
      have database : resolveModel trailing rows name onlyActive =
          .ok (if onlyActive ∧ ¬model.isActive then none else some (normalizeModelDef model)) := by
        have named : model.id ≠ "" := id ▸ blank
        simp only [resolveModel, ← id, if_neg named, findById_id shared mem]
        cases onlyActive <;> cases active : model.isActive <;> simp [normalizeModelDef, active]
      rw [database, memory]
      exact ⟨fun _ => Or.inr (Or.inl ⟨model, mem, id⟩), fun _ => rfl⟩
    · have missed : findById rows (trim name) = none := findById_none shared exactId
      have trimmed : trim (trim name) = trim name := trim_trim name
      simp only [resolveModel, missed, blank, exactId, if_false, false_or,
        findByAlias_eq trailing rows trimmed blank]
      cases trailing with
      | refused => simp
      | ignored =>
        simp only [true_and, Except.ok.injEq]
        cases spelled : models.find? fun model => modelKey model = cleanName name with
        | some direct =>
          have mem := List.mem_of_find?_eq_some spelled
          simp only
          split_ifs with hidden
          · exact unlisted_iff (trim name)
          · exact firstListed_iff shared mem (trim name)
        | none =>
          cases best : cheapest (cleanName name) models with
          | none => exact unlisted_iff (trim name)
          | some model =>
            exact firstListed_iff shared (Cheapest.scan_mem _ _ best).1 (trim name)

end

/-! ## Aliases that are found -/

theorem mem_intersperse {item separator : List Char} {items : List (List Char)}
    (mem : item ∈ items) : item ∈ items.intersperse separator := by
  obtain ⟨i, present⟩ := List.mem_iff_getElem?.mp mem
  refine List.mem_iff_getElem?.mpr ⟨2 * i, ?_⟩
  rw [List.getElem?_intersperse_two_mul, present]

theorem jsonString_infix {name : String} {aliases : List String} (mem : name ∈ aliases) :
    jsonString name <:+: stringify aliases := by
  have inner : jsonString name <:+: [','].intercalate (aliases.map jsonString) :=
    List.infix_of_mem_flatten (mem_intersperse (List.mem_map_of_mem mem))
  exact (inner.trans (List.prefix_append _ _).isInfix).trans (List.suffix_cons _ _).isInfix

/-- A name that JSON writes as it is, is found in a row that has it as it is. -/
theorem lists_of_plain {clean : String} {row : ModelRegistryRow} (trimmed : trim clean = clean)
    (named : clean ≠ "") (plain : ∀ c ∈ clean.toList, jsonChar c = [c])
    (mem : clean ∈ row.logicalAliases) : lists clean row = true := by
  have parsed : clean ∈ parseAliases row.logicalAliases :=
    List.mem_filter.mpr ⟨List.mem_map.mpr ⟨clean, mem, trimmed⟩, decide_eq_true named⟩
  have text : jsonString clean = '"' :: (clean.toList ++ ['"']) := by
    have written : clean.toList.flatMap jsonChar = clean.toList.flatMap fun c => [c] :=
      List.flatMap_congr plain
    rw [jsonString, written, List.flatMap_singleton']
  have pattern : likePattern clean =
      '%' :: (Like.quote '\\' ('"' :: (clean.toList ++ ['"'])) ++ ['%']) := by
    simp [likePattern, Like.quote]
  have found : Like.like sameLetter '\\' (likePattern clean) (stringify row.logicalAliases) =
      true := by
    rw [pattern, Like.like_quote sameLetter (by decide)]
    obtain ⟨before, after, split⟩ := jsonString_infix mem
    refine ⟨before, jsonString clean, after, by rw [← split, List.append_assoc], ?_⟩
    rw [text]
    exact List.forall₂_same.mpr fun c _ => decide_eq_true rfl
  rw [lists, found, decide_eq_true parsed]
  rfl

section

attribute [local instance] asciiHost

theorem lawfulTrim_ascii : LawfulTrim where
  cleanName_trim s := by
    rw [cleanName_ascii, cleanName_ascii, trim, String.toList_ofList, trimChars_idempotent]

attribute [local instance] lawful_ascii lawfulTrim_ascii

/-- A retired model and a dearer one that is not, which list one alias. -/
def catalog : List ModelDef :=
  [ModelRegistry.groqModel "llama" ["fast"] 1 false,
    ModelRegistry.groqModel "gemma" ["fast"] 2 true]

def catalogRows : List ModelRegistryRow := catalog.filterMap toRow

theorem shared_catalog : Shared catalogRows catalog where
  named := by decide
  distinct := by decide
  stored := .of_eq (by decide)

/-- Either engine loses the alias: one refuses the statement, the other gives the retired
model. -/
theorem alias_lost :
    (registryOf catalog).resolveModel "fast" = some (ModelRegistry.groqModel "gemma" ["fast"] 2 true) ∧
      resolveModel .refused catalogRows "fast" = .error .syntaxError ∧
      resolveModel .ignored catalogRows "fast" =
        .ok (some (ModelRegistry.groqModel "llama" ["fast"] 1 false)) := by
  decide

theorem shared_reverse : Shared catalogRows.reverse catalog :=
  { shared_catalog with
    stored := shared_catalog.stored.trans ((List.reverse_perm catalogRows).map some).symm }

/-- With the dearer model's row first, an engine that ignores the rest resolves the alias. -/
theorem resolveModel_agrees_iff_gemma :
    resolveModel .ignored catalogRows.reverse " fast " true =
      .ok ((registryOf catalog).resolveModel " fast " true) := by
  rw [resolveModel_agrees_iff shared_reverse .ignored " fast " true]
  have unspelled : catalog.find? (fun model => modelKey model = cleanName " fast ") = none := by
    decide
  have active : cheapest (cleanName " fast ") catalog =
      some (ModelRegistry.groqModel "gemma" ["fast"] 2 true) := by
    decide
  have fast : trim " fast " = "fast" := by
    decide
  have aliased : ∀ row ∈ catalogRows.reverse, "fast" ∈ row.logicalAliases := by
    decide
  have listed : ∀ row ∈ catalogRows.reverse, lists "fast" row = true := fun row mem =>
    lists_of_plain (by decide) (by decide) (by simp [jsonChar]) (aliased row mem)
  have ids : catalogRows.reverse.map (·.id) = ["gemma", "llama"] := by
    decide
  refine Or.inr (Or.inr ⟨rfl, ?_⟩)
  rw [unspelled, active, fast]
  cases rows : catalogRows.reverse with
  | nil =>
    rw [rows] at ids
    cases ids
  | cons row rest =>
    rw [rows] at listed ids
    exact ⟨row, List.find?_cons_of_pos (listed row List.mem_cons_self), (List.cons.inj ids).1⟩

end

end ModelRegistryRepository

end KeyCollective
