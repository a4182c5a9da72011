import FlowLint.Json.Reader
import FlowLint.Program
import FlowLint.Program.Files
import FlowLint.Program.Request
import FlowLint.Service.Page

/-!
# The service

Requests are answered one after the other, each by the handler of its address. Here are the
addresses, and what the program makes of the content of a request.

* `Service.answer` is the answer to one request.
-/

namespace FlowLint

/-- A request: how, where to, and with which content. -/
structure Request where
  method : String
  path : String
  /-- The values after a question mark, by their names. -/
  query : List (String × String) := []
  content : String := ""

/-- The answer to a request of the wrong shape. -/
def Response.invalid (problems : List Invalid) : Response :=
  ⟨422, .array (problems.map Invalid.toJson)⟩

/-- Where the service runs. -/
structure Site where
  settings : Settings
  files : FileSpace
  delivery : Delivery
  /-- The time of all requests. -/
  time : String

/-- Why a file cannot be read is not told. -/
def untold : String := "..."

/-- What is found where an export should be. -/
def FileSpace.exportAt (space : FileSpace) (path : String) : ExportFile :=
  match space.find? path with
  | none => .missing
  | some .directory => .unreadable untold
  | some (.file content) =>
    match Json.read content with
    | .error _ => .unreadable untold
    | .ok data => .value data

/-- The surroundings of the service at a site. -/
def Site.surroundings (site : Site) : Surroundings :=
  { settings := site.settings
    reader := Script.reader
    exportAt := site.files.exportAt
    openStore := site.files.openStore
    delivery := site.delivery
    time := site.time }

namespace Service

/-! ## Contents -/

/-- The content of a request as a structured value; a mark of the byte order is skipped. -/
def contentOf (content : String) : Checked Json :=
  match content.toList with
  | [] => .fail .missing
  | c :: cs =>
    match Json.read (if c = '\uFEFF' then String.ofList cs else content) with
    | .ok j => .valid j
    | .error position => (Checked.fail .jsonInvalid).under (.index position)

/-- What a shape makes of a part of a request, or the answer to one of another shape. -/
def accepted {α : Type} (part : String) (checked : Checked α) : Except Response α :=
  match checked.under (.key part) with
  | .valid a => .ok a
  | .invalid problems => .error (.invalid problems)

/-- How the program decodes what is posted to be scored. -/
def decoding : Decoding where
  unit j := accepted "body" (UnitScoreRequest.shape j)
  group j := accepted "body" (GroupScoreRequest.shape j)
  system j := accepted "body" (SystemScoreRequest.shape j)

/-- Answer with the content of a request, if it has one. -/
def withContent (request : Request) (store : Option Store) (run : Json → Outcome) : Outcome :=
  match accepted "body" (contentOf request.content) with
  | .ok j => run j
  | .error response => { response, store }

/-- Answer with the content of a request, if it has the right shape. -/
def withShape {α : Type} (shape : Shape α) (request : Request) (store : Option Store)
    (run : α → Outcome) : Outcome :=
  withContent request store fun j =>
    match accepted "body" (shape j) with
    | .ok a => run a
    | .error response => { response, store }

/-! ## Addresses -/

/-- What can be found at an address. -/
inductive Route where
  | root | health | check | scoreUnit | scoreGroup | scoreSystem | scan
  | groupMetrics (groupId : String)
  deriving Repr, DecidableEq, Inhabited

/-- The group of an address below the histories. -/
def groupOfPath? (path : String) : Option String :=
  let start := "/metrics/groups/".toList
  let rest := path.toList.drop start.length
  if start.isPrefixOf path.toList && !rest.isEmpty && !rest.contains '/' then
    some (String.ofList rest)
  else none

/-- What is found at exactly this path. -/
def routeAt? (path : String) : Option Route :=
  match path with
  | "/" => some .root
  | "/health" => some .health
  | "/check" => some .check
  | "/score/unit" => some .scoreUnit
  | "/score/group" => some .scoreGroup
  | "/score/system" => some .scoreSystem
  | "/scan" => some .scan
  | path => (groupOfPath? path).map Route.groupMetrics

/-- A path without the slashes at its end. -/
def withoutLastSlashes (path : String) : String :=
  String.ofList (path.toList.reverse.dropWhile (· = '/')).reverse

/-- What is found at a path; slashes too many at its end are overlooked. -/
def route? (path : String) : Option Route :=
  match routeAt? path with
  | some route => some route
  | none =>
    if path.toList.getLast? = some '/' then routeAt? (withoutLastSlashes path) else none

/-- How a route can be asked. -/
def Route.methods : Route → List String
  | root | health | groupMetrics _ => ["GET"]
  | check => ["GET", "POST"]
  | scoreUnit | scoreGroup | scoreSystem | scan => ["POST"]

/-- The value of a query parameter; of several the last one counts. -/
def queryValue? (request : Request) (name : String) : Option String :=
  ((request.query.filter (·.1 = name)).getLast?).map Prod.snd

/-- The number of rows that a request asks for. -/
def limitOf (request : Request) : Except Response Int :=
  match queryValue? request "limit" with
  | some text => accepted "query" ((limitShape (.string text)).under (.key "limit"))
  | none => .ok 50

/-- The answer to a request that its route takes. -/
def answerAt (site : Site) (store : Option Store) (request : Request) : Route → Outcome
  | .root =>
    { response := ⟨200, .string (Page.layout "Node-RED Function Quality API" Page.rootBody)⟩,
      store }
  | .health => { response := ⟨200, .object [("status", .string "ok")]⟩, store }
  | .check =>
    if request.method = "GET" then
      { response := ⟨200, .string (Page.layout "Check" Page.checkBody)⟩, store }
    else
      withShape CheckRequest.shape request store fun r =>
        let (response, notes) := check site.surroundings r
        { response, store, notes }
  | .scoreUnit => withContent request store fun j => { response := decoding.postUnit j, store }
  | .scoreGroup => withContent request store fun j => { response := decoding.postGroup j, store }
  | .scoreSystem => withContent request store fun j => { response := decoding.postSystem j, store }
  | .scan => withShape ScanRequest.shape request store (runScan site.surroundings store)
  | .groupMetrics groupId =>
    match limitOf request with
    | .error response => { response, store }
    | .ok limit => runGroupMetrics site.surroundings store groupId limit

/-- The answer to a request. -/
def answer (site : Site) (store : Option Store) (request : Request) : Outcome :=
  match route? request.path with
  | none => { response := .detail 404 "Not Found", store }
  | some route =>
    if route.methods.contains request.method then answerAt site store request route
    else { response := .detail 405 "Method Not Allowed", store }

end Service

end FlowLint
