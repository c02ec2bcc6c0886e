import Wayfinder.Api.Message
import Wayfinder.Api.Page
import Wayfinder.Api.Payload
import Wayfinder.Api.Route
import Wayfinder.Settings.Options
import Wayfinder.Storage.Broken
import Wayfinder.Storage.Snapshot
import Wayfinder.Workspace.Lookup
import Wayfinder.Workspace.Surface

/-!
# The service

Serving a request: find its endpoint, check what it carries, carry it out on the database and describe
the result. An endpoint that reads works on a snapshot, which is made before the query is checked; one
that changes something makes its snapshot afterwards. What was committed stays, even if the snapshot
made afterwards fails.
-/

namespace Wayfinder.Api

open Input Storage Workspace Search

/-- The site that serves requests: where it is, the path below which its interface lies, its title, and
how it searches. -/
structure Site where
  origin : String
  base : String
  title : String
  quick : QuickSearch

/-- The site that a deployment with the given options has at a given place. -/
def Site.ofOptions (origin : String) (options : Settings.Options) : Site :=
  ⟨origin, options.apiBase, options.title, options.quick⟩

/-- A served request: the reply, the database afterwards, and what was logged. -/
structure Served where
  reply : Reply
  database : Database
  log : List LogLine := []

/-- Answer from a snapshot. -/
def fromSnapshot (database : Database) (answer : Objects → Reply × List LogLine) : Served :=
  let loaded := database.load
  match loaded.result with
  | .ok objects =>
    let (reply, log) := answer objects
    ⟨reply, database, loaded.events ++ log⟩
  | .error (.storage _) => ⟨.detail 500 "Failed to load workspace", database, loaded.events⟩
  | .error (.workspace _) => ⟨.internalError, database, loaded.events⟩

/-- Answer from a snapshot made after a change. -/
def fromReload (database : Database) (answer : Objects → Reply) : Served :=
  let loaded := database.load
  match loaded.result with
  | .ok objects => ⟨answer objects, database, loaded.events⟩
  | .error _ => ⟨.internalError, database, loaded.events⟩

/-- Report why a change was refused. -/
def ofFault (database : Database) : OperationFault → Served
  | .workspace fault => ⟨.fault fault, database, []⟩
  | .storage _ => ⟨.internalError, database, []⟩

/-- Go on after a change, or report why it was refused. -/
def afterCommit {α : Type} (database : Database) (outcome : Except OperationFault (Commit α))
    (next : Database → Served) : Served :=
  match outcome with
  | .error fault => ofFault database fault
  | .ok commit =>
    let served := next commit.database
    { served with log := commit.log ++ served.log }

/-- The page of the item of a full name, or the report that there is none. -/
def itemReply (status : Nat) (fullName : String) (objects : Objects) : Reply :=
  match objects.byFullName? snapshotSpace fullName with
  | some id => .json status (itemPage objects id)
  | none => .fault (.noItem fullName)

/-- The page of a view, or the report that there is none. -/
def viewReply (status : Nat) (name : String) (objects : Objects) : Reply :=
  match objects.viewNamed? snapshotSpace name with
  | some id => .json status (viewPage objects snapshotSpace id)
  | none => .fault (.noView name)

/-- The errors of a payload, located in the body. -/
def inBody (errors : List FieldError) : Reply :=
  .fieldErrors (errors.map (FieldError.within (.field "body")))

/-- The payload of a request, or the reply that refuses it. -/
def payload {α : Type} (check : Json → Checked α) (body : RequestBody) : Except Reply α :=
  let missing := inBody [⟨[], .missing, .null⟩]
  let checkValue (value : Json) : Except Reply α :=
    match checkRecord .notBody check value with
    | .sound payload => .ok payload
    | .faulty errors => .error (inBody errors)
  match body with
  | .none => .error missing
  | .value value => checkValue value
  | .bytes [] => .error missing
  | .bytes bytes =>
    match Json.parseBytes bytes with
    | .ok value => checkValue value
    | .error (.malformed position) =>
      .error (inBody [⟨[.index position], .malformedBody, .record []⟩])
    | .error _ => .error (.detail 400 "There was an error parsing the body")

/-- Go on with the payload of a request, or refuse it. -/
def withPayload {α : Type} (check : Json → Checked α) (request : Request) (database : Database)
    (next : α → Served) : Served :=
  match payload check request.body with
  | .ok value => next value
  | .error reply => ⟨reply, database, []⟩

/-- The requested limit of a search: a positive whole number, if it is given. -/
def requestedLimit (request : Request) : Except Reply (Option Int) :=
  match request.parameter? "max" with
  | none => .ok none
  | some text =>
    let refuse (fault : FieldFault) : Reply :=
      .fieldErrors [⟨[.field "query", .field "max"], fault, .text text⟩]
    match wholeOfText text with
    | .error fault => .error (refuse fault)
    | .ok limit => if limit < 1 then .error (refuse .tooSmall) else .ok (some limit)

/-- The answer of a quick search over a snapshot, and what was logged. -/
def searchReply (objects : Objects) (answer : Outcome ObjectId → Reply)
    (outcome : Traced (Event ObjectId) SearchFault (Outcome ObjectId)) : Reply × List LogLine :=
  let log := objects.catalog.logLines objects.describe outcome.events
  match outcome.result with
  | .ok outcome => (answer outcome, log)
  | .error .notFound => (.detail 404 SearchFault.notFound.message, log)
  | .error (.index _) => (.internalError, log)

namespace Site

/-- Search, look up or suggest over a whole snapshot. -/
def searchSnapshot (site : Site) (request : Request) (database : Database) (endpoint : Endpoint) :
    Served :=
  fromSnapshot database fun objects =>
    let root := ObjectId.space snapshotSpace
    let text (name : String) := (request.parameter? name).getD ""
    match endpoint with
    | .suggest =>
      match requestedLimit request with
      | .error reply => (reply, [])
      | .ok limit =>
        searchReply objects (fun outcome => .json 200 (suggestionsPage (outcome.answer site.base)))
          (site.quick.suggest objects.catalog root (text "query") limit)
    | .lookup =>
      match requestedLimit request with
      | .error reply => (reply, [])
      | .ok limit =>
        searchReply objects (fun outcome => .json 200 (lookupPage (outcome.answer site.base)))
          (site.quick.lookup objects.catalog root (text "q") limit)
    | _ =>
      searchReply objects
        (fun outcome => .redirect 302 (((outcome.answer site.base).url).getD ""))
        (site.quick.search objects.catalog root (text "q"))

/-- Create an item and show it. -/
def createItem (request : ItemCreate) (database : Database) : Served :=
  match request.name, request.displayNameOrDefault.mapM Text.Wide.text?,
      request.parentOrDefault.mapM Text.Wide.text? with
  | .sound name, some displayName, some parent =>
    let parent := nonEmpty? parent
    let fullName := match parent with
      | some parent => Path.trim parent ++ "/" ++ name
      | none => name
    afterCommit database (database.createItem name request.kindOrDefault displayName parent false)
      fun database => fromReload database (itemReply 201 fullName)
  | name, _, _ =>
    ofFault database (database.brokenItemFault none false name request.parentOrDefault)

/-- Change an item and show it. -/
def updateItem (path : String) (request : ItemUpdate) (database : Database) : Served :=
  match fullNameOfJobPath path with
  | .error fault => ⟨.fault fault, database, []⟩
  | .ok fullName =>
    match request.displayName.mapM fun value => value.mapM Text.Wide.text? with
    | some displayName =>
      afterCommit database (database.updateItem fullName ⟨displayName, request.disabled, []⟩)
        fun database => fromReload database (itemReply 200 fullName)
    | none => ofFault database (database.brokenUpdateFault fullName request.disabled)

/-- Delete an item. -/
def deleteItem (path : String) (database : Database) : Served :=
  match fullNameOfJobPath path with
  | .error fault => ⟨.fault fault, database, []⟩
  | .ok fullName =>
    afterCommit database (database.deleteItem fullName) fun database =>
      ⟨{ status := 204, body := .text "" }, database, []⟩

/-- Show an item. -/
def showItem (path : String) (database : Database) : Served :=
  fromSnapshot database fun objects =>
    match fullNameOfJobPath path with
    | .error fault => (.fault fault, [])
    | .ok fullName => (itemReply 200 fullName objects, [])

/-- Create a view and show it. -/
def createView (request : ViewCreate) (database : Database) : Served :=
  match request.name, request.membersOrDefault.mapM Text.Wide.text? with
  | .sound name, some members =>
    afterCommit database (database.createView name members request.primaryOrDefault false)
      fun database => fromReload database (viewReply 201 name)
  | name, _ => ofFault database (database.brokenViewFault name request.membersOrDefault false)

/-- Carry out a request at its endpoint. -/
def carryOut (site : Site) (request : Request) (database : Database) : Endpoint → Served
  | .createItem => withPayload ItemCreate.ofFields request database fun payload =>
      createItem payload database
  | .showItem path => showItem path database
  | .updateItem path => withPayload ItemUpdate.ofFields request database fun payload =>
      updateItem path payload database
  | .deleteItem path => deleteItem path database
  | .createView => withPayload ViewCreate.ofFields request database fun payload =>
      createView payload database
  | .listViews => fromSnapshot database fun objects =>
      (.json 200 (viewList objects snapshotSpace), [])
  | .showView name => fromSnapshot database fun objects => (viewReply 200 name objects, [])
  | .addMember view fullName =>
      afterCommit database (database.addViewMember view fullName) fun database =>
        fromReload database (viewReply 200 view)
  | .choosePrimary view =>
      afterCommit database (database.setPrimaryView view) fun database =>
        fromReload database (viewReply 200 view)
  | .home =>
      ⟨.json 200 (.record [("message", .text (site.title ++ " API is running"))]), database, []⟩
  | .health => ⟨.json 200 (.record [("status", .text "healthy")]), database, []⟩
  | endpoint => site.searchSnapshot request database endpoint

/-- Serve a request. A path that no route fits is tried with its other ending, and the client is sent
there if that fits. -/
def serve (site : Site) (request : Request) (database : Database) : Served :=
  let routes := routes site.base
  match dispatch routes request.method request.path with
  | .endpoint endpoint => site.carryOut request database endpoint
  | .wrongMethod => ⟨.detail 405 "Method Not Allowed", database, []⟩
  | .nowhere =>
    let other := otherEnding request.path
    if request.path ≠ "/" ∧ dispatch routes request.method other ≠ .nowhere then
      ⟨.redirect 307 (site.origin ++ addressPath other ++ request.queryText), database, []⟩
    else ⟨.detail 404 "Not Found", database, []⟩

end Site

end Wayfinder.Api
