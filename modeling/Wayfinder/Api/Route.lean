import Wayfinder.Json.Reader

/-!
# Routes

A route is a method, a pattern for paths and the endpoint behind it. A pattern may hold a segment, any
non-empty text without a slash, and may end in a remainder, any text without a line feed. A single
line feed at the very end of a path does not count where the pattern has nothing for it.

A request goes to the first route that fits its path and its method. A path that fits only routes of
other methods is refused for its method.
-/

namespace Wayfinder.Api

/-- What a request can address, with what its path says. -/
inductive Endpoint where
  | search
  | suggest
  | lookup
  | createItem
  | showItem (path : String)
  | updateItem (path : String)
  | deleteItem (path : String)
  | createView
  | listViews
  | showView (name : String)
  | addMember (view fullName : String)
  | choosePrimary (view : String)
  | home
  | health
  deriving DecidableEq, Repr

/-- A part of a path pattern. -/
inductive Piece where
  | literal (text : String)
  | segment
  | remainder
  deriving DecidableEq, Repr

/-- The texts that a path has at the open places of a pattern, if it fits. -/
def capture? : List Piece → List Char → Option (List String)
  | [], chars => if chars = [] ∨ chars = ['\n'] then some [] else none
  | .literal text :: pieces, chars =>
    if text.toList.isPrefixOf chars then capture? pieces (chars.drop text.length) else none
  | .segment :: pieces, chars =>
    let segment := chars.takeWhile (· != '/')
    if segment = [] then none
    else (capture? pieces (chars.dropWhile (· != '/'))).map (String.ofList segment :: ·)
  | .remainder :: pieces, chars =>
    (capture? pieces (chars.dropWhile (· != '\n'))).map
      (String.ofList (chars.takeWhile (· != '\n')) :: ·)

/-- A route: its method, its pattern, and the endpoint for the texts at the open places. -/
structure Route where
  method : String
  pieces : List Piece
  endpoint : List String → Option Endpoint

namespace Route

/-- A route without open places. -/
def plain (method path : String) (endpoint : Endpoint) : Route :=
  ⟨method, [.literal path], fun _ => some endpoint⟩

/-- A route with one open place. -/
def open1 (method : String) (pieces : List Piece) (endpoint : String → Endpoint) : Route :=
  ⟨method, pieces, fun texts => texts.head?.map endpoint⟩

/-- A route with two open places. -/
def open2 (method : String) (pieces : List Piece) (endpoint : String → String → Endpoint) : Route :=
  ⟨method, pieces, fun
    | [first, second] => some (endpoint first second)
    | _ => none⟩

/-- The endpoint that a path addresses on a route. -/
def endpoint? (route : Route) (path : String) : Option Endpoint :=
  (capture? route.pieces path.toList).bind route.endpoint

end Route

/-- The routes below a base path, in the order in which they are tried. -/
def routes (base : String) : List Route :=
  [.plain "GET" (base ++ "/search") .search,
    .plain "GET" (base ++ "/search/suggest") .suggest,
    .plain "GET" (base ++ "/search/lookup") .lookup,
    .plain "POST" (base ++ "/items") .createItem,
    .open1 "GET" [.literal (base ++ "/job/"), .remainder] .showItem,
    .open1 "PATCH" [.literal (base ++ "/job/"), .remainder] .updateItem,
    .open1 "DELETE" [.literal (base ++ "/job/"), .remainder] .deleteItem,
    .plain "POST" (base ++ "/views") .createView,
    .plain "GET" (base ++ "/views") .listViews,
    .open1 "GET" [.literal (base ++ "/view/"), .segment, .literal "/"] .showView,
    .open1 "GET" [.literal (base ++ "/view/"), .segment] .showView,
    .open2 "POST" [.literal (base ++ "/view/"), .segment, .literal "/members/", .remainder] .addMember,
    .open1 "POST" [.literal (base ++ "/view/"), .segment, .literal "/primary"] .choosePrimary,
    .plain "GET" "/" .home,
    .plain "GET" "/health" .health]

/-- Where a request goes. -/
inductive Dispatch where
  | endpoint (endpoint : Endpoint)
  | wrongMethod
  | nowhere
  deriving DecidableEq, Repr

/-- The routes that a path fits, with the endpoint it addresses on each. -/
def fitting (routes : List Route) (path : String) : List (Route × Endpoint) :=
  routes.filterMap fun route => (route.endpoint? path).map fun endpoint => (route, endpoint)

/-- Where a request of the given method and path goes. -/
def dispatch (routes : List Route) (method path : String) : Dispatch :=
  let found := fitting routes path
  match found.find? fun (route, _) => route.method == method with
  | some (_, endpoint) => .endpoint endpoint
  | none => if found.isEmpty then .nowhere else .wrongMethod

/-- A path with its slashes at the end taken off, or with one put there when it has none. -/
def otherEnding (path : String) : String :=
  let chars := path.toList
  if chars.getLast? = some '/' then String.ofList (chars.reverse.dropWhile (· == '/')).reverse
  else path ++ "/"

end Wayfinder.Api
