import KeyCollective.Dashboard.Projects

/-!
# What the projects keep

Requests of other tenants, the administrator's apart, leave the projects of a tenant alone that
asks nothing itself meanwhile. An update names no tenant, but the id it has selected is not one of
the tenant's then, nor later.
-/

namespace KeyCollective.Projects

open Interleaving (Event)

abbrev World := Interleaving.System Store Process

def Store.later (ms : Nat) (store : Store) : Store := { store with now := store.now + ms }

/-- A store, and requests that have not begun. -/
def begin (store : Store) (requests : List Request) : World where
  shared := store
  processes := requests.map fun request => { request }

section Runs

variable [Edge]

def run (world : World) (schedule : List Event) : World :=
  Interleaving.runEvents advance Store.later world schedule

/-! ## One statement -/

/-- What a statement of a request makes of the store. -/
inductive Change (store : Store) (process : Process) : Store → Prop where
  | nothing : Change store process store
  | created {body : Json} {generated name : String} : process.phase = .starting →
    process.request.route = .postProjects (some body) generated →
    nonBlank (body.getString "name") = some name →
    store.projects.has (newProject process.request body name generated store.now).id = false →
      Change store process
        { store with
          projects := store.projects.set
            (newProject process.request body name generated store.now) }
  | deleted {projectId : String} {row : ProjectRecord} :
    process.phase = .writing (.delete projectId) →
    selectProject store.projects projectId process.request.scope = some row →
      Change store process { store with projects := store.projects.delete projectId }
  | updated {fields : ProjectUpdate} {row : ProjectRecord} :
    process.phase = .writing (.update fields) → store.projects.get? fields.id = some row →
      Change store process
        { store with
          projects := store.projects.set
            { row with
              name := fields.name
              description := fields.description
              updatedAt := fields.updatedAt } }

variable {store : Store} {process : Process}

theorem advance_change (store : Store) (process : Process) :
    Change store process (advance store process).1 := by
  cases now : process.phase with
  | starting =>
    simp only [advance, now, start]
    split
    · exact .nothing
    · split
      case h_2 body generated asks =>
        unfold handlePostProjects
        split
        · exact .nothing
        · split
          · exact .nothing
          case h_2 body name named =>
            dsimp only
            split
            · exact .nothing
            case isFalse free => exact .created now asks named (Bool.eq_false_iff.mpr free)
      all_goals exact .nothing
  | writing write =>
    simp only [advance, now]
    cases write with
    | delete projectId =>
      simp only [Write.run]
      split
      · exact .nothing
      case h_2 row selected => exact .deleted now selected
    | update fields =>
      simp only [Write.run]
      split
      · exact .nothing
      case h_2 row found => exact .updated now found
  | replied reply =>
    simp only [advance, now]
    exact .nothing

theorem advance_request (store : Store) (process : Process) :
    (advance store process).2.request = process.request := by
  unfold advance
  split <;> rfl

/-- The write of a request that has selected the project. -/
inductive Selects (request : Request) (existing : ProjectRecord) : Write → Prop where
  | delete : Selects request existing (.delete existing.id)
  | update {pathname : String} {body : Json} {fields : ProjectUpdate}
      (asks : request.route = .updateProject pathname (some body)) (id : fields.id = existing.id)
      (name : fields.name = (nonBlank (body.getString "name")).getD existing.name)
      (description : fields.description = newDescription existing body) :
      Selects request existing (.update fields)

omit [Edge] in
theorem selectProject_some {projects : ProjectTable} {projectId : String} {scope : Option String}
    {row : ProjectRecord} (selected : selectProject projects projectId scope = some row) :
    row ∈ projects.values ∧ row.id = projectId ∧ ∀ tenantId, scope = some tenantId →
      row.tenantId = tenantId := by
  obtain ⟨found, ours⟩ := Option.filter_eq_some_iff.mp selected
  obtain ⟨mem, same⟩ := IndexedMap.get?_some found
  refine ⟨mem, same, ?_⟩
  rintro tenantId rfl
  simpa using ours

omit [Edge] in
theorem updatePhase_selects {request : Request} {existing : ProjectRecord} {pathname : String}
    {body : Json} {now : Int} {write : Write}
    (asks : request.route = .updateProject pathname (some body))
    (writes : updatePhase existing existing.id now body = .writing write) :
    Selects request existing write := by
  cases body <;> cases writes
  all_goals exact .update asks rfl rfl rfl

theorem advance_selects {write : Write} (writes : (advance store process).2.phase = .writing write) :
    ∃ existing, selectProject store.projects existing.id process.request.scope = some existing ∧
      Selects process.request existing write := by
  cases now : process.phase with
  | writing | replied =>
    simp only [advance, now] at writes
    cases writes
  | starting =>
    simp only [advance, now, start] at writes
    split at writes
    · cases writes
    · cases asks : process.request.route with
      | getProjects | postProjects =>
        simp only [asks] at writes
        cases writes
      | deleteProject pathname =>
        simp only [asks, selectToDelete] at writes
        split at writes
        · cases writes
        · split at writes
          · cases writes
          case h_2 projectId decoded existing selected =>
            obtain ⟨-, rfl, -⟩ := selectProject_some selected
            cases writes
            exact ⟨existing, selected, .delete⟩
      | updateProject pathname body =>
        simp only [asks, selectToUpdate] at writes
        split at writes
        · cases writes
        · split at writes
          · cases writes
          · split at writes
            · cases writes
            case h_2 projectId decoded body existing selected =>
              obtain ⟨-, rfl, -⟩ := selectProject_some selected
              exact ⟨existing, selected, updatePhase_selects asks writes⟩

/-! ## Other tenants -/

/-- The process of a request of another tenant. It is about to update none of the projects. -/
structure Outside (tenantId : String) (rows : List ProjectRecord) (process : Process) : Prop where
  other : process.request.tenantId ≠ tenantId
  ordinary : process.request.tenantId ≠ "admin"
  apart : ∀ fields, process.phase = .writing (.update fields) → ∀ row ∈ rows, row.id ≠ fields.id

variable {tenantId : String} {rows : List ProjectRecord}

omit [Edge] in
theorem Outside.scope (outside : Outside tenantId rows process) :
    process.request.scope = some process.request.tenantId := by
  simp [Request.scope, Request.isAdmin, outside.ordinary]

omit [Edge] in
theorem Outside.change {changed : Store} (outside : Outside tenantId rows process)
    (same : store.projects.ownedBy ProjectRecord.tenantId tenantId = rows)
    (change : Change store process changed) :
    changed.projects.ownedBy ProjectRecord.tenantId tenantId = rows := by
  subst same
  cases change with
  | nothing => rfl
  | @created body generated name starts asks named free =>
    apply IndexedMap.ownedBy_set_other
    · simpa [newProject, Request.targetTenantId, Request.isAdmin, outside.ordinary]
        using outside.other
    · intro old present
      rw [IndexedMap.has, show ProjectRecord.id _ = _ from rfl, present] at free
      cases free
  | @deleted projectId row writes selected =>
    obtain ⟨mem, rfl, ours⟩ := selectProject_some selected
    apply IndexedMap.ownedBy_delete_other
    intro old present
    rw [IndexedMap.get?_of_mem mem] at present
    obtain rfl := Option.some.inj present
    rw [ours _ outside.scope]
    exact outside.other
  | @updated fields row writes found =>
    obtain ⟨mem, same⟩ := IndexedMap.get?_some found
    have theirs : row.tenantId ≠ tenantId := by
      intro ours
      exact outside.apart fields writes row (IndexedMap.mem_ownedBy.mpr ⟨mem, ours⟩) same
    apply IndexedMap.ownedBy_set_other
    · exact theirs
    · intro old present
      rw [show ProjectRecord.id _ = row.id from rfl, IndexedMap.get?_of_mem mem] at present
      obtain rfl := Option.some.inj present
      exact theirs

theorem Outside.advance (outside : Outside tenantId rows process)
    (same : store.projects.ownedBy ProjectRecord.tenantId tenantId = rows) :
    Outside tenantId rows (advance store process).2 := by
  have request := advance_request store process
  refine ⟨request ▸ outside.other, request ▸ outside.ordinary, ?_⟩
  intro fields writes row mem aimed
  subst same
  obtain ⟨existing, selected, selects⟩ := advance_selects writes
  obtain ⟨present, -, ours⟩ := selectProject_some selected
  obtain ⟨stored, owned⟩ := IndexedMap.mem_ownedBy.mp mem
  cases selects with
  | update asks id name description =>
    have both : some row = some existing := by
      rw [← IndexedMap.get?_of_mem stored, ← IndexedMap.get?_of_mem present]
      exact congrArg _ (aimed.trans id)
    obtain rfl := Option.some.inj both
    exact outside.other ((ours _ outside.scope).symm.trans owned)

/-- Requests of other tenants, in whatever order their statements come, leave every project of a
tenant as it is that sends none itself, though an update names no tenant. -/
theorem projects_frame (store : Store) (requests : List Request) (tenantId : String)
    (others : ∀ request ∈ requests, request.tenantId ≠ tenantId ∧ request.tenantId ≠ "admin")
    (schedule : List Event) :
    (run (begin store requests) schedule).shared.projects.ownedBy ProjectRecord.tenantId tenantId =
      store.projects.ownedBy ProjectRecord.tenantId tenantId := by
  have outside : ∀ process ∈ (begin store requests).processes,
      Outside tenantId (store.projects.ownedBy ProjectRecord.tenantId tenantId) process := by
    intro process mem
    obtain ⟨request, asked, rfl⟩ := List.mem_map.mp mem
    exact ⟨(others request asked).1, (others request asked).2, nofun⟩
  have keeps := Interleaving.runEvents_keeps Store.later
    (fun changed => changed.projects.ownedBy ProjectRecord.tenantId tenantId =
      store.projects.ownedBy ProjectRecord.tenantId tenantId)
    (Outside tenantId _) rfl outside (fun _ _ same => same)
    fun changed process same outside =>
      ⟨outside.change same (advance_change changed process), outside.advance same⟩
  exact (keeps schedule).1

end Runs

section Examples

attribute [local instance] plainEdge

def acmeStore : Store where
  projects := IndexedMap.empty.set
    { id := "site", name := "Site", tenantId := "acme", description := none, createdAt := 0,
      updatedAt := 0 }
  now := 5000

/-- Another tenant takes an id of its own, then renames and deletes what it can. -/
def rivalRequests : List Request :=
  [{ tenantId := "rival"
     route := .postProjects (some (.object [("id", .string "shop"), ("name", .string "Shop")])) "" },
   { tenantId := "rival"
     route := .updateProject "/api/projects/shop" (some (.object [("name", .string "Store")])) },
   { tenantId := "rival", route := .deleteProject "/api/projects/site" }]

theorem projects_frame_rival :
    (run (begin acmeStore rivalRequests)
        [.resume 0, .resume 2, .resume 1, .tick 10, .resume 1]).shared.projects.ownedBy
          ProjectRecord.tenantId "acme" =
      acmeStore.projects.ownedBy ProjectRecord.tenantId "acme" := by
  apply projects_frame
  intro request mem
  fin_cases mem <;> exact ⟨by decide, by decide⟩

end Examples

end KeyCollective.Projects
