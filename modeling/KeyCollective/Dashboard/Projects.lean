import KeyCollective.Dashboard.Handler
import KeyCollective.Json
import KeyCollective.Lib.Interleaving
import KeyCollective.Lib.OwnedRecords

/-!
# Projects

The projects of all tenants are in one table, under ids that a caller may choose. A deletion and
an update first select the project under its tenant. The deletion names the tenant again, the
update only the id, and other requests run between the two statements.
-/

namespace KeyCollective.Projects

structure ProjectRecord where
  id : String
  name : String
  tenantId : String
  description : Option String
  createdAt : Int
  updatedAt : Int
deriving DecidableEq

abbrev ProjectTable := IndexedMap ProjectRecord.id

structure Store where
  projects : ProjectTable
  now : Int

structure ErrorResponse where
  message : String
  code : String
  statusCode : Nat
deriving DecidableEq

/-- What an update sets, and what of the body it answers. -/
structure ProjectUpdate where
  id : String
  name : String
  description : Option String
  isArchived : Option Json
  rpmSubCap : Option Json
  updatedAt : Int

inductive Reply where
  | listed (projects : List ProjectRecord)
  | created (project : ProjectRecord)
  | deleted (id : String)
  | updated (fields : ProjectUpdate)
  | failed (error : ErrorResponse)
  /-- The id does not decode, which is not caught. -/
  | threw

/-- A body is none where it is no JSON. -/
inductive Route where
  | getProjects (queryTenant : Option String)
  /-- With the id that is made up where the body has none. -/
  | postProjects (body : Option Json) (generated : String)
  | deleteProject (pathname : String)
  | updateProject (pathname : String) (body : Option Json)

structure Request where
  tenantId : String
  tenantHeader : Option String := none
  route : Route

namespace ErrorResponse

def unauthorized : ErrorResponse := ⟨"Authentication required", "UNAUTHORIZED", 401⟩

def badRequest (message : String) : ErrorResponse := ⟨message, "BAD_REQUEST", 400⟩

def database (message : String) : ErrorResponse := ⟨message, "DATABASE_ERROR", 500⟩

def conflict (projectId : String) : ErrorResponse :=
  ⟨s!"Project with ID '{projectId}' already exists", "CONFLICT", 409⟩

def notFound (projectId : String) : ErrorResponse :=
  ⟨s!"Project '{projectId}' not found", "NOT_FOUND", 404⟩

end ErrorResponse

/-- `/^\/api\/projects\/([^/?#]+)/`, of which the group. -/
def projectSegment (pathname : String) : String :=
  if startsWith pathname "/api/projects/" then
    String.ofList ((pathname.toList.drop 14).takeWhile fun c => c ∉ ['/', '?', '#'])
  else ""

namespace Request

variable (request : Request)

def anonymous : Bool := ["", "anonymous", "guest"].contains request.tenantId

def isAdmin : Bool := request.tenantId = "admin"

/-- The tenant that a selection names. -/
def scope : Option String := if request.isAdmin then none else some request.tenantId

/-- The tenant a project is created for. -/
def targetTenantId (body : Json) : String :=
  if request.isAdmin then
    (nonBlank request.tenantHeader <|> nonBlank (body.getString "tenant_id")).getD request.tenantId
  else request.tenantId

/-- The tenant whose projects are listed. None is all tenants. -/
def listedTenant (queryTenant : Option String) : Option String :=
  if request.isAdmin then request.tenantHeader.filter (· ≠ "") <|> queryTenant.filter (· ≠ "")
  else some request.tenantId

end Request

/-- `… WHERE id = ? AND tenant_id = ?`, or by the id alone. -/
def selectProject (projects : ProjectTable) (projectId : String) (scope : Option String) :
    Option ProjectRecord :=
  (projects.get? projectId).filter fun row => scope.all fun tenantId => row.tenantId = tenantId

def handleGetProjects (store : Store) (request : Request) (queryTenant : Option String) : Reply :=
  let rows := match request.listedTenant queryTenant with
    | none => store.projects.values
    | some tenantId => store.projects.ownedBy ProjectRecord.tenantId tenantId
  .listed (rows.mergeSort fun row other => other.createdAt ≤ row.createdAt)

/-- The project that a body asks for. -/
def newProject (request : Request) (body : Json) (name generated : String) (now : Int) :
    ProjectRecord where
  id := (nonBlank (body.getString "id")).getD generated
  name
  tenantId := request.targetTenantId body
  description := nonBlank (body.getString "description")
  createdAt := now / 1000
  updatedAt := now / 1000

/-- The insertion is the one statement of the request. -/
def handlePostProjects (store : Store) (request : Request) (body : Option Json)
    (generated : String) : Reply × Store :=
  match body with
  | none => (.failed (.badRequest "Invalid JSON body"), store)
  | some body =>
    match nonBlank (body.getString "name") with
    | none => (.failed (.badRequest "Project name is required"), store)
    | some name =>
      let row := newProject request body name generated store.now
      if store.projects.has row.id then (.failed (.conflict row.id), store)
      else (.created row, { store with projects := store.projects.set row })

/-- The last statement of a deletion or an update. -/
inductive Write where
  | delete (projectId : String)
  | update (fields : ProjectUpdate)

inductive Phase where
  | starting
  | writing (write : Write)
  | replied (reply : Reply)

/-- The description after an update. What is no text is null. -/
def newDescription (existing : ProjectRecord) (body : Json) : Option String :=
  match body.get "description" with
  | none => existing.description
  | some (.string description) => some (trim description)
  | some _ => none

/-- What an update writes over the project it has selected. -/
def updatePhase : ProjectRecord → String → Int → Json → Phase
  | _, _, _, .null =>
    .replied (.failed (.database "Cannot read properties of null (reading 'name')"))
  | existing, projectId, now, body =>
    .writing (.update
      { id := projectId
        name := (nonBlank (body.getString "name")).getD existing.name
        description := newDescription existing body
        isArchived := body.get "is_archived"
        rpmSubCap := body.get "rpm_sub_cap"
        updatedAt := now / 1000 })

/-- `UPDATE projects SET … WHERE id = ?`, or the deletion. -/
def Write.run (projects : ProjectTable) (scope : Option String) : Write → ProjectTable
  | delete projectId =>
    match selectProject projects projectId scope with
    | none => projects
    | some _ => projects.delete projectId
  | update fields =>
    match projects.get? fields.id with
    | none => projects
    | some row =>
      projects.set
        { row with
          name := fields.name
          description := fields.description
          updatedAt := fields.updatedAt }

def Write.reply : Write → Reply
  | delete projectId => .deleted projectId
  | update fields => .updated fields

structure Process where
  request : Request
  phase : Phase := .starting

variable [Edge]

/-- The id of the path, decoded. -/
def projectIdOf (pathname : String) : Except Reply String :=
  match Edge.decodeURIComponent (trim (projectSegment pathname)) with
  | none => .error .threw
  | some projectId =>
    if projectId = "" then .error (.failed (.badRequest "Project ID is required"))
    else .ok projectId

def selectToDelete (store : Store) (request : Request) (pathname : String) : Phase :=
  match projectIdOf pathname with
  | .error reply => .replied reply
  | .ok projectId =>
    match selectProject store.projects projectId request.scope with
    | none => .replied (.failed (.notFound projectId))
    | some _ => .writing (.delete projectId)

def selectToUpdate (store : Store) (request : Request) (pathname : String) (body : Option Json) :
    Phase :=
  match projectIdOf pathname with
  | .error reply => .replied reply
  | .ok projectId =>
    match body with
    | none => .replied (.failed (.badRequest "Invalid JSON body"))
    | some body =>
      match selectProject store.projects projectId request.scope with
      | none => .replied (.failed (.notFound projectId))
      | some existing => updatePhase existing projectId store.now body

/-- The first statement of a request. -/
def start (store : Store) (request : Request) : Phase × Store :=
  if request.anonymous then (.replied (.failed .unauthorized), store)
  else
    match request.route with
    | .getProjects queryTenant => (.replied (handleGetProjects store request queryTenant), store)
    | .postProjects body generated =>
      let (reply, store) := handlePostProjects store request body generated
      (.replied reply, store)
    | .deleteProject pathname => (selectToDelete store request pathname, store)
    | .updateProject pathname body => (selectToUpdate store request pathname body, store)

/-- The next statement of a request. -/
def advance (store : Store) (process : Process) : Store × Process :=
  match process.phase with
  | .starting =>
    let (phase, store) := start store process.request
    (store, { process with phase })
  | .writing write =>
    ({ store with projects := write.run store.projects process.request.scope },
      { process with phase := .replied write.reply })
  | .replied _ => (store, process)

end KeyCollective.Projects
