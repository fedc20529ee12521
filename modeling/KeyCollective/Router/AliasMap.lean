import KeyCollective.Lib.Cheapest
import KeyCollective.Router.Registry

/-!
# The alias map

`getAliasMap` lists every alias with the model it stands for. It is built from the models,
cheapest first, and then from the overrides; a name is resolved one at a time.
-/

namespace KeyCollective

section

variable [Host]

/-- What changing case leaves alone. -/
class LawfulHost : Prop where
  /-- A cleaned name is clean. -/
  clean_clean : ∀ s : String, cleanName (cleanName s) = cleanName s
  isBlank_lower : ∀ s : String, isBlank (Host.toLowerCase s) = isBlank s

/-- `normalizeModelDef`, of the fields kept here. -/
def normalizeModelDef (model : ModelDef) : ModelDef :=
  { model with logicalAliases := (model.logicalAliases.map trim).filter (· ≠ "") }

namespace ModelRegistry

/-- An alias and the id of its model. -/
abbrev Aliases := IndexedMap (Prod.fst : String × String → String)

def unregisterModel (registry : ModelRegistry) (modelId : String) : Bool × ModelRegistry :=
  (registry.models.has (cleanName modelId),
    { models := registry.models.delete (cleanName modelId)
      aliasOverrides := registry.aliasOverrides.filter fun entry =>
        cleanName entry.2 ≠ cleanName modelId })

inductive Op where
  | registerModel (model : ModelDef)
  | unregisterModel (modelId : String)
  | registerAlias (name canonicalModelId : String)

/-- A call that throws changes nothing. -/
def step (registry : ModelRegistry) : Op → ModelRegistry
  | .registerModel model => (registry.registerModel (normalizeModelDef model)).getD registry
  | .unregisterModel modelId => (registry.unregisterModel modelId).2
  | .registerAlias name canonicalModelId =>
    (registry.registerAlias name canonicalModelId).getD registry

def run (ops : List Op) : ModelRegistry := ops.foldl step empty

variable (registry : ModelRegistry)

def getAllModels (onlyActive : Bool := false) : List ModelDef :=
  if onlyActive then registry.models.values.filter ModelDef.isActive else registry.models.values

/-- The first model to claim an alias keeps it. -/
def addAlias (model : ModelDef) (aliases : Aliases) (name : String) : Aliases :=
  if aliases.has (cleanName name) then aliases else aliases.set (cleanName name, model.id)

def addModel (aliases : Aliases) (model : ModelDef) : Aliases :=
  model.logicalAliases.foldl (addAlias model) aliases

/-- The active model an override leads to. -/
def liveTarget (targetId : String) : Option ModelDef :=
  (registry.models.get? (cleanName targetId)).filter ModelDef.isActive

def addOverride (onlyActive : Bool) (aliases : Aliases) (entry : String × String) : Aliases :=
  if ¬onlyActive ∨ (registry.liveTarget entry.2).isSome then aliases.set entry else aliases

def getAliasMap (onlyActive : Bool := true) : Aliases :=
  let activeModels := (registry.getAllModels onlyActive).insertionSort
    (ModelDef.inputCostPerMTokMicro · ≤ ModelDef.inputCostPerMTokMicro ·)
  registry.aliasOverrides.values.foldl (registry.addOverride onlyActive)
    (activeModels.foldl addModel .empty)

/-! ## What the map says -/

/-- The model lists the alias. -/
def carries (clean : String) (model : ModelDef) : Bool :=
  model.logicalAliases.any fun name => cleanName name = clean

theorem get?_addAliases (model : ModelDef) (names : List String) (aliases : Aliases)
    (clean : String) :
    (names.foldl (addAlias model) aliases).get? clean =
      (aliases.get? clean).or
        (if names.any fun name => cleanName name = clean then some (clean, model.id) else none) := by
  induction names generalizing aliases with
  | nil => simp
  | cons name rest ih =>
    rw [List.foldl_cons, ih, addAlias]
    by_cases same : cleanName name = clean
    · subst same
      by_cases taken : aliases.has (cleanName name) = true
      · rw [if_pos taken]
        obtain ⟨entry, found⟩ := Option.isSome_iff_exists.mp taken
        simp [found]
      · rw [if_neg taken]
        have free : aliases.get? (cleanName name) = none := by
          simpa [IndexedMap.has] using taken
        simp [free]
    · have kept : (if aliases.has (cleanName name) then aliases
          else aliases.set (cleanName name, model.id)).get? clean = aliases.get? clean := by
        split
        · rfl
        · rw [IndexedMap.get?_set, if_neg same]
      rw [kept]
      simp [same]

theorem get?_addModels (models : List ModelDef) (aliases : Aliases) (clean : String) :
    (models.foldl addModel aliases).get? clean =
      (aliases.get? clean).or
        ((models.find? (carries clean)).map fun model => (clean, model.id)) := by
  induction models generalizing aliases with
  | nil => simp
  | cons model rest ih =>
    rw [List.foldl_cons, ih, addModel, get?_addAliases, Option.or_assoc]
    by_cases listed : carries clean model = true
    · rw [List.find?_cons_of_pos listed]
      unfold carries at listed
      simp [listed]
    · rw [List.find?_cons_of_neg listed]
      unfold carries at listed
      simp [listed]

/-- An override whose target is active is taken, and any other is passed over. -/
theorem get?_addOverrides (entries : List (String × String)) (aliases : Aliases) (clean : String)
    (distinct : (entries.map Prod.fst).Nodup) :
    (entries.foldl (registry.addOverride true) aliases).get? clean =
      ((entries.find? fun entry => entry.1 = clean).filter fun entry =>
        (registry.liveTarget entry.2).isSome).or (aliases.get? clean) := by
  induction entries generalizing aliases with
  | nil => simp
  | cons entry rest ih =>
    rw [List.map_cons, List.nodup_cons] at distinct
    rw [List.foldl_cons, ih _ distinct.2]
    by_cases same : entry.1 = clean
    · have later : rest.find? (fun other => other.1 = clean) = none := by
        rw [List.find?_eq_none]
        intro other mem equal
        exact distinct.1 (same ▸ of_decide_eq_true equal ▸ List.mem_map_of_mem mem)
      rw [later, List.find?_cons_of_pos (by simpa using same)]
      by_cases live : (registry.liveTarget entry.2).isSome = true
      · simp [addOverride, Option.filter_some, live, same]
      · simp [addOverride, Option.filter_some, live]
    · rw [List.find?_cons_of_neg (by simpa using same)]
      have kept : (registry.addOverride true aliases entry).get? clean = aliases.get? clean := by
        unfold addOverride
        split
        · rw [IndexedMap.get?_set, if_neg same]
        · rfl
      rw [kept]

theorem cheapestMatch_eq (clean : String) :
    registry.cheapestMatch clean =
      Cheapest.scan ModelDef.inputCostPerMTokMicro
        (fun model => model.isActive = true ∧ carries clean model = true)
        registry.models.values := by
  unfold cheapestMatch Cheapest.scan
  congr 1
  funext best model
  unfold Cheapest.keep carries
  cases best with
  | none => rfl
  | some cheapest =>
    by_cases qualifies : model.isActive = true ∧
        (model.logicalAliases.any fun name => cleanName name = clean) = true
    · simp only [qualifies, and_self, if_true]
    · simp only [qualifies, if_false]

/-- An override to an active model, or the cheapest of the active models that list the alias. -/
theorem get?_getAliasMap (clean : String) :
    (registry.getAliasMap true).get? clean =
      ((registry.aliasOverrides.get? clean).filter fun entry =>
        (registry.liveTarget entry.2).isSome).or
        ((registry.cheapestMatch clean).map fun model => (clean, model.id)) := by
  have listed : ((registry.getAllModels true).insertionSort
      (ModelDef.inputCostPerMTokMicro · ≤ ModelDef.inputCostPerMTokMicro ·)).find? (carries clean) =
        registry.cheapestMatch clean := by
    have first := Cheapest.find?_insertionSort ModelDef.inputCostPerMTokMicro
      (fun model => carries clean model = true) (registry.getAllModels true)
    have active := Cheapest.scan_filter ModelDef.inputCostPerMTokMicro
      (fun model => carries clean model = true) (fun model => model.isActive = true)
      registry.models.values
    simp only [Bool.decide_eq_true] at first active
    rw [cheapestMatch_eq, ← active]
    exact first
  rw [getAliasMap, get?_addOverrides _ _ _ _ registry.aliasOverrides.distinct, get?_addModels,
    listed]
  rfl

theorem mem_of_cheapestMatch {clean : String} {model : ModelDef}
    (found : registry.cheapestMatch clean = some model) :
    model ∈ registry.models.values ∧ model.isActive = true := by
  rw [cheapestMatch_eq] at found
  obtain ⟨mem, active, -⟩ := Cheapest.scan_mem _ _ found
  exact ⟨mem, active⟩

theorem cheapestMatch_eq_none_iff (clean : String) :
    registry.cheapestMatch clean = none ↔
      ∀ model ∈ registry.models.values, model.isActive = true → carries clean model = false := by
  rw [cheapestMatch_eq, Cheapest.scan_eq_none_iff]
  simp

/-! ## Reachable registries -/

/-- Every registered model has an id. -/
def Identified : Prop := ∀ model ∈ registry.models.values, isBlank model.id = false

theorem step_identified {registry : ModelRegistry} (identified : registry.Identified) (op : Op) :
    (registry.step op).Identified := by
  cases op with
  | registerModel model =>
    simp only [step, registerModel]
    split
    · exact identified
    · rename_i named
      intro other mem
      rcases IndexedMap.mem_set mem with rfl | mem
      · exact Bool.eq_false_iff.mpr named
      · exact identified other mem
  | unregisterModel modelId =>
    intro other mem
    exact identified other (List.mem_of_mem_filter mem)
  | registerAlias name canonicalModelId =>
    simp only [step, registerAlias]
    split
    · exact identified
    · exact identified

theorem run_identified (ops : List Op) : (run ops).Identified := by
  have fold : ∀ registry : ModelRegistry, registry.Identified →
      (ops.foldl step registry).Identified := by
    induction ops with
    | nil => exact fun _ identified => identified
    | cons op rest ih => exact fun registry identified => ih _ (step_identified identified op)
  exact fold empty fun model mem => by cases mem

variable {registry} [LawfulHost]

theorem key_ne_empty (identified : registry.Identified) {model : ModelDef}
    (mem : model ∈ registry.models.values) : modelKey model ≠ "" := by
  have named := identified model mem
  rw [← LawfulHost.isBlank_lower] at named
  exact trim_ne_empty named

theorem cleanName_empty : cleanName "" = "" :=
  trim_eq_empty ((LawfulHost.isBlank_lower "").trans rfl)

/-- No model has the empty name. -/
theorem liveTarget_empty (identified : registry.Identified) : registry.liveTarget "" = none := by
  have absent : registry.models.get? (cleanName "") = none := by
    cases found : registry.models.get? (cleanName "") with
    | none => rfl
    | some model =>
      obtain ⟨mem, key⟩ := IndexedMap.get?_some found
      rw [cleanName_empty] at key
      exact absurd key (key_ne_empty identified mem)
  rw [liveTarget, absent]
  rfl

omit [LawfulHost] in
theorem get?_cheapestMatch {clean : String} {model : ModelDef}
    (found : registry.cheapestMatch clean = some model) :
    registry.models.get? (cleanName model.id) = some model :=
  IndexedMap.get?_of_mem (registry.mem_of_cheapestMatch found).1

/-! ## Agreement -/

variable (registry)

/-- The id an override gives the alias. An empty one is none. -/
def overrideOf (clean : String) : Option String :=
  ((registry.aliasOverrides.get? clean).map Prod.snd).filter (· ≠ "")

omit [LawfulHost] in
/-- What the map has under an alias, from the registry's parts. -/
def mapped (clean : String) : Option String :=
  (((registry.aliasOverrides.get? clean).map Prod.snd).filter fun targetId =>
    (registry.liveTarget targetId).isSome).or ((registry.cheapestMatch clean).map ModelDef.id)

omit [LawfulHost] in
theorem getAliasMap_mapped (clean : String) :
    ((registry.getAliasMap true).get? clean).map Prod.snd = registry.mapped clean := by
  rw [get?_getAliasMap, mapped]
  cases registry.aliasOverrides.get? clean with
  | none => simp [Function.comp_def]
  | some entry =>
    by_cases live : (registry.liveTarget entry.2).isSome = true
    · simp [Option.filter_some, live]
    · simp [Option.filter_some, live, Function.comp_def]

/-- No active model lists the alias. -/
def Unlisted (clean : String) : Prop :=
  ∀ model ∈ registry.models.values, model.isActive = true → carries clean model = false

/-- The parts of the registry say one thing of the alias. -/
def Consistent (clean : String) : Prop :=
  match registry.models.get? clean with
  -- The name is a model's own id, which resolution takes first.
  | some direct =>
    match (registry.overrideOf clean).filter fun id => (registry.liveTarget id).isSome with
    | some targetId => direct.isActive = true ∧ targetId = direct.id
    | none =>
      if direct.isActive then registry.cheapestMatch clean = some direct
      else registry.Unlisted clean
  | none =>
    match registry.overrideOf clean with
    | some targetId =>
      match registry.liveTarget targetId with
      -- The map has the target as the override spells it.
      | some model => targetId = model.id
      -- The map passes over the override; resolution stops at it.
      | none => registry.Unlisted clean
    | none => True

variable {registry}

theorem mapped_overrideOf (identified : registry.Identified) (clean : String) :
    registry.mapped clean =
      ((registry.overrideOf clean).filter fun id => (registry.liveTarget id).isSome).or
        ((registry.cheapestMatch clean).map ModelDef.id) := by
  rw [mapped, overrideOf]
  cases registry.aliasOverrides.get? clean with
  | none => rfl
  | some entry =>
    by_cases empty : entry.2 = ""
    · simp [Option.filter_some, empty, liveTarget_empty identified]
    · simp [Option.filter_some, empty]

/-- Resolution of a name that is no model's id. -/
theorem resolveModel_of_alias (identified : registry.Identified) {name : String}
    (absent : registry.models.get? (cleanName name) = none) :
    registry.resolveModel name =
      match registry.overrideOf (cleanName name) with
      | some targetId => registry.liveTarget targetId
      | none => registry.cheapestMatch (cleanName name) := by
  have aliased : registry.resolveAlias (cleanName name) =
      match registry.overrideOf (cleanName name) with
      | some targetId => some targetId
      | none => (registry.cheapestMatch (cleanName name)).map ModelDef.id := by
    rw [resolveAlias, LawfulHost.clean_clean, overrideOf]
    cases registry.aliasOverrides.get? (cleanName name) with
    | none => rfl
    | some entry => by_cases empty : entry.2 = "" <;> simp [Option.filter_some, empty]
  have lookup (id : String) (named : id ≠ "")
      (target : registry.resolveAlias (cleanName name) = some id) :
      registry.resolveModel name = registry.liveTarget id := by
    have kept : (some id).filter (· ≠ "") = some id := by
      rw [Option.filter_some, if_pos (by simpa using named)]
    simp only [resolveModel, absent, target, kept, liveTarget]
    cases registry.models.get? (cleanName id) with
    | none => rfl
    | some model => cases active : model.isActive <;> simp [Option.filter_some, active]
  cases override : registry.overrideOf (cleanName name) with
  | some targetId =>
    have named : targetId ≠ "" := by
      rw [overrideOf, Option.filter_eq_some_iff] at override
      simpa using override.2
    rw [override] at aliased
    exact lookup targetId named aliased
  | none =>
    rw [override] at aliased
    cases cheapest : registry.cheapestMatch (cleanName name) with
    | none =>
      rw [cheapest] at aliased
      simp only [resolveModel, absent, aliased]
      rfl
    | some model =>
      obtain ⟨mem, active⟩ := registry.mem_of_cheapestMatch cheapest
      have named : model.id ≠ "" := by
        intro empty
        have blank := identified model mem
        rw [empty] at blank
        cases blank
      rw [cheapest] at aliased
      refine (lookup model.id named aliased).trans ?_
      rw [liveTarget, get?_cheapestMatch cheapest, Option.filter_some, if_pos active]

omit [LawfulHost] in
theorem resolveModel_of_id {name : String} {direct : ModelDef}
    (found : registry.models.get? (cleanName name) = some direct) :
    registry.resolveModel name = if direct.isActive then some direct else none := by
  simp only [resolveModel, found]
  cases active : direct.isActive <;> simp

omit [LawfulHost] in
theorem liveTarget_isActive {targetId : String} {model : ModelDef}
    (live : registry.liveTarget targetId = some model) : model.isActive = true :=
  (Option.filter_eq_some_iff.mp live).2

/-- Only active models are resolved. -/
theorem resolveModel_isActive (identified : registry.Identified) {name : String} {model : ModelDef}
    (resolved : registry.resolveModel name = some model) : model.isActive = true := by
  cases found : registry.models.get? (cleanName name) with
  | some direct =>
    rw [resolveModel_of_id found] at resolved
    split at resolved
    · rename_i active
      obtain rfl := Option.some.inj resolved
      exact active
    · cases resolved
  | none =>
    rw [resolveModel_of_alias identified found] at resolved
    split at resolved
    · exact liveTarget_isActive resolved
    · exact (registry.mem_of_cheapestMatch resolved).2

/-- The map and resolution agree on a name where the registry is consistent. -/
theorem mapped_eq_iff (identified : registry.Identified) (name : String) :
    registry.mapped (cleanName name) = (registry.resolveModel name).map ModelDef.id ↔
      registry.Consistent (cleanName name) := by
  rw [mapped_overrideOf identified, Consistent]
  cases found : registry.models.get? (cleanName name) with
  | some direct =>
    rw [resolveModel_of_id found]
    simp only
    cases live : (registry.overrideOf (cleanName name)).filter fun id =>
        (registry.liveTarget id).isSome with
    | some targetId => cases active : direct.isActive <;> simp
    | none =>
      simp only [Option.none_or]
      cases active : direct.isActive with
      | false =>
        simp only [Bool.false_eq_true, if_false, Option.map_none, Option.map_eq_none_iff]
        exact registry.cheapestMatch_eq_none_iff (cleanName name)
      | true =>
        simp only [if_true, Option.map_some]
        constructor
        · intro same
          obtain ⟨model, cheapest, id⟩ := Option.map_eq_some_iff.mp same
          have keyed := get?_cheapestMatch cheapest
          obtain ⟨mem, key⟩ := IndexedMap.get?_some found
          have direct_keyed : registry.models.get? (cleanName direct.id) = some direct :=
            IndexedMap.get?_of_mem mem
          rw [id, direct_keyed] at keyed
          rw [cheapest, Option.some.inj keyed]
        · intro cheapest
          rw [cheapest]
          rfl
  | none =>
    rw [resolveModel_of_alias identified found]
    simp only
    cases override : registry.overrideOf (cleanName name) with
    | none => simp
    | some targetId =>
      simp only [Option.filter_some]
      cases live : registry.liveTarget targetId with
      | some model => simp
      | none =>
        simp only [Option.isSome_none, Bool.false_eq_true, if_false, Option.none_or,
          Option.map_none, Option.map_eq_none_iff]
        exact registry.cheapestMatch_eq_none_iff (cleanName name)

/-- **The alias map agrees with resolution** on the names of which the parts of the registry
say one thing, and only there, after any calls. -/
theorem aliasMap_agrees_iff (ops : List Op) (name : String) :
    (∀ id, (((run ops).getAliasMap true).get? (cleanName name)).map Prod.snd = some id ↔
      ∃ model, (run ops).resolveModel name = some model ∧ model.isActive = true ∧ model.id = id) ↔
    (run ops).Consistent (cleanName name) := by
  have identified := run_identified ops
  rw [← mapped_eq_iff identified, getAliasMap_mapped]
  have resolved (id : String) :
      (∃ model, (run ops).resolveModel name = some model ∧ model.isActive = true ∧ model.id = id) ↔
        ((run ops).resolveModel name).map ModelDef.id = some id := by
    rw [Option.map_eq_some_iff]
    constructor
    · rintro ⟨model, found, -, same⟩
      exact ⟨model, found, same⟩
    · rintro ⟨model, found, same⟩
      exact ⟨model, found, resolveModel_isActive identified found, same⟩
  simp only [resolved]
  exact Option.ext_iff.symm

end ModelRegistry

end

/-! ## ASCII -/

theorem isWhiteSpace_toLower (c : Char) : isWhiteSpace c.toLower = isWhiteSpace c := by
  by_cases upper : c.isUpper = true
  · have low : 65 ≤ c.toNat ∧ c.toNat ≤ 90 := by
      simp only [Char.isUpper, decide_eq_true_eq, ge_iff_le, UInt32.le_iff_toNat_le] at upper
      exact upper
    have lowered : c.toLower.toNat = c.toNat + 32 := by
      have valid : (c.toNat + 32).isValidChar := Or.inl (by omega)
      rw [Char.toLower_eq_of_isUpper upper, Char.toNat_ofNat, if_pos valid]
    simp only [isWhiteSpace, lowered, List.mem_cons, List.not_mem_nil, or_false, decide_eq_decide]
    omega
  · rw [Char.toLower_eq_of_not_isUpper upper]

theorem toLower_toLower (c : Char) : c.toLower.toLower = c.toLower :=
  Char.toLower_eq_of_not_isUpper (by simp)

theorem trimChars_toLower (cs : List Char) :
    trimChars (cs.map Char.toLower) = (trimChars cs).map Char.toLower := by
  have same : isWhiteSpace ∘ Char.toLower = isWhiteSpace := funext isWhiteSpace_toLower
  rw [trimChars, List.dropWhile_map, same, ← List.map_reverse, List.dropWhile_map, same,
    ← List.map_reverse]
  rfl

section

attribute [local instance] asciiHost

theorem cleanName_ascii (s : String) :
    cleanName s = String.ofList ((trimChars s.toList).map Char.toLower) := by
  change trim (String.ofList (s.toList.map Char.toLower)) = _
  rw [trim, String.toList_ofList, trimChars_toLower]

theorem lawful_ascii : LawfulHost where
  clean_clean s := by
    have twice : Char.toLower ∘ Char.toLower = Char.toLower := funext toLower_toLower
    rw [cleanName_ascii (cleanName s), cleanName_ascii s, String.toList_ofList, trimChars_toLower,
      trimChars_idempotent, List.map_map, twice]
  isBlank_lower s := by
    have same : isWhiteSpace ∘ Char.toLower = isWhiteSpace := funext isWhiteSpace_toLower
    change isBlank (String.ofList (s.toList.map Char.toLower)) = _
    rw [isBlank, isBlank, String.toList_ofList, List.all_map, same]

attribute [local instance] lawful_ascii

namespace ModelRegistry

def groqModel (id : String) (logicalAliases : List String) (cost : Int) (isActive : Bool) :
    ModelDef :=
  { id, provider := "groq", logicalAliases, inputCostPerMTokMicro := cost,
    outputCostPerMTokMicro := cost, isActive }

/-- A model that is `fast`, one that is retired, and an override of `fast` to the latter. -/
def retiredOverride : List Op :=
  [.registerModel (groqModel "gemma" ["fast"] 1 true),
    .registerModel (groqModel "llama" [] 2 false), .registerAlias "Fast" "llama"]

/-- The map falls back to the model that lists the alias, and resolution finds none. -/
theorem retired_override_mapped :
    (((run retiredOverride).getAliasMap true).get? (cleanName "fast")).map Prod.snd = some "gemma" ∧
      (run retiredOverride).resolveModel "fast" = none := by
  decide +kernel

theorem aliasMap_agrees_iff_gemma :
    (((run [.registerModel (groqModel "gemma" [" Fast "] 1 true)]).getAliasMap true).get?
        (cleanName "FAST")).map Prod.snd = some "gemma" ↔
      ∃ model, (run [.registerModel (groqModel "gemma" [" Fast "] 1 true)]).resolveModel
        "FAST" = some model ∧ model.isActive = true ∧ model.id = "gemma" :=
  (aliasMap_agrees_iff [.registerModel (groqModel "gemma" [" Fast "] 1 true)] "FAST").mpr trivial
    "gemma"

end ModelRegistry

end

end KeyCollective
