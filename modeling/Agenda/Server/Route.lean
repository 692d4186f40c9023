import Agenda.Server.Request
/-!
# Routes

Which endpoint a request reaches.

* `Endpoint` — the endpoints; `Endpoint.methods`, `Endpoint.path` — how each is reached.
* `Routing.of` — the endpoint of a method and a path, or why there is none.

Besides the endpoints that work on the agenda there are pages that describe the interface.
-/

namespace Agenda

/-- The pages that describe the interface. -/
inductive DescriptionPage
  | document
  | console
  /-- The page to which signing in on the console leads back. -/
  | consoleReturn
  | reference
deriving DecidableEq

inductive Endpoint
  | health
  | signIn
  | previewDate
  | listTasks
  | readTask
  | addTask
  | replaceTask
  | deleteTask
  | completeTask
  | description (page : DescriptionPage)
deriving DecidableEq

namespace Endpoint

def all : List Endpoint :=
  [description .document, description .console, description .consoleReturn, description .reference,
    health, signIn, previewDate, listTasks, readTask, addTask, replaceTask, deleteTask, completeTask]

def methods : Endpoint → List String
  | health | previewDate | listTasks | readTask => ["GET"]
  | signIn | addTask | completeTask => ["POST"]
  | replaceTask => ["PUT"]
  | deleteTask => ["DELETE"]
  | description _ => ["GET", "HEAD"]

def path : Endpoint → String
  | health => "/health"
  | signIn => "/api/signin"
  | previewDate => "/api/nextdate"
  | listTasks => "/api/tasks"
  | readTask | addTask | replaceTask | deleteTask => "/api/task"
  | completeTask => "/api/task/done"
  | description .document => "/openapi.json"
  | description .console => "/docs"
  | description .consoleReturn => "/docs/oauth2-redirect"
  | description .reference => "/redoc"

def guarded : Endpoint → Bool
  | health | signIn | previewDate | description _ => false
  | _ => true

/-- Whether a path leads to an endpoint: it is the path of the endpoint, or that with a line feed at its
end. -/
def isAt (path : String) (e : Endpoint) : Bool :=
  path == e.path || path == e.path ++ "\n"

def readsBody : Endpoint → Bool
  | signIn | addTask | replaceTask => true
  | _ => false

end Endpoint

/-- Where a request leads. -/
inductive Routing
  | found (endpoint : Endpoint)
  /-- There are endpoints at the path, but not for the method. -/
  | wrongMethod
  /-- There are endpoints at the path without its final slashes, or with one. -/
  | otherSlash
  | missing
deriving DecidableEq

namespace Routing

def isPath (path : String) : Bool :=
  Endpoint.all.any (Endpoint.isAt path)

/-- A path that differs in its final slashes: without them if it has any, else with one. -/
def slashVariant (path : String) : String :=
  let cs := path.toList
  if cs.getLast? = some '/' then String.ofList (Text.dropEndWhile (· == '/') cs)
  else String.ofList (cs ++ ['/'])

def of (method path : String) : Routing :=
  match Endpoint.all.find? fun e => e.isAt path && e.methods.contains method with
  | some e => found e
  | none =>
      if isPath path then wrongMethod
      else if path ≠ "/" ∧ isPath (slashVariant path) then otherSlash
      else missing

end Routing
end Agenda
