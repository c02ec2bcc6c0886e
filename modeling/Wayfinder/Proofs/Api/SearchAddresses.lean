import Wayfinder.Proofs.Api.Addresses
import Wayfinder.Proofs.Search.Outcomes
import Wayfinder.Proofs.Storage.Loading
import Wayfinder.Proofs.Workspace.Coverage

/-!
# The addresses that the search hands out

Whatever requests came before, a search answers with an address of an object that it found, and so do
the suggestions. Such an address leads to the page of the object, unless it is an item below or of a
name with a line feed.
-/

namespace Wayfinder.Api

open Workspace Search Storage

/-- The page of an object. -/
def pageOf (objects : Objects) : ObjectId → Json
  | .item id => itemPage objects id
  | .view id => viewPage objects snapshotSpace id
  | .space _ => .null

/-- Whether no name in the address of an object holds a line feed that a route would stop at. -/
def IsOneLine (objects : Objects) : ObjectId → Prop
  | .item id => ∀ item ∈ objects.lineage id, '\n' ∉ item.name.text.toList
  | _ => True

/-- Where the address of a search item leads: to the page of its own object, which shows the alias, or
for an object whose address is not one line to no page at all. -/
structure Leads (site : Site) (database : Database) (objects : Objects) (entry : SearchItem ObjectId) :
    Prop where
  shown : (pageOf objects entry.target.key).field? "name" = some (.text entry.name) ∨
    (pageOf objects entry.target.key).field? "display_name" = some (.text entry.name)
  page : IsOneLine objects entry.target.key →
    site.follow database (underBase site.base entry.url) =
      some (.json 200 (pageOf objects entry.target.key))
  noPage : ¬IsOneLine objects entry.target.key →
    ∃ reply, site.follow database (underBase site.base entry.url) = some reply ∧
      (reply.status = 404 ∨ reply.status = 307)

section Entries

variable {objects : Objects}

theorem url_of_mem_aliases_item {id : ItemId} {item : Item} (found : objects.item? id = some item)
    {entry : SearchItem ObjectId} (shown : entry ∈ objects.aliases (.item id)) :
    entry.url = objects.address id ∧
      (entry.name = item.name.text ∨ entry.name = item.shownName) := by
  have address : (objects.target (.item id)).url = objects.address id := by
    simp only [Objects.target, found]
  simp only [Objects.aliases, found] at shown
  rcases List.mem_cons.mp shown with rfl | other
  · exact ⟨address, .inl rfl⟩
  · cases display : item.displayName with
    | none => simp [display] at other
    | some text =>
        rw [display] at other
        dsimp only at other
        split at other
        · cases List.mem_singleton.mp other
          exact ⟨address, .inr (by simp [Item.shownName, display])⟩
        · cases other

theorem url_of_mem_aliases_view {id : ViewId} {view : ListView} (found : objects.view? id = some view)
    {entry : SearchItem ObjectId} (shown : entry ∈ objects.aliases (.view id)) :
    entry.url = Path.viewAddress view.name.text ∧ entry.name = view.name.text := by
  simp only [Objects.aliases, found] at shown
  cases List.mem_singleton.mp shown
  exact ⟨by simp only [Objects.target, found], rfl⟩

theorem field?_itemPage {id : ItemId} {item : Item} (found : objects.item? id = some item) :
    (itemPage objects id).field? "name" = some (.text item.name.text) ∧
      (itemPage objects id).field? "display_name" = some (.text item.shownName) := by
  simp [itemPage, found, Json.field?, List.lookup_cons]

theorem field?_viewPage {id : ViewId} {view : ListView} (found : objects.view? id = some view) :
    (viewPage objects snapshotSpace id).field? "name" = some (.text view.name.text) := by
  simp [viewPage, found, Json.field?, List.lookup_cons]

variable {database : Database} (origin title : String) (quick : QuickSearch)

/-- The address of every listed alias leads to its object. -/
theorem leads_of_mem_listing (tree : objects.IsTree) (loaded : database.load.result = .ok objects)
    {entry : SearchItem ObjectId} (member : entry ∈ objects.listing) :
    Leads (standardSite origin title quick) database objects entry := by
  obtain ⟨id, listed, shown⟩ := List.mem_flatMap.mp member
  have key := Objects.key_of_mem_aliases shown
  rcases tree.mem_levelOrder_iff.mp listed with ⟨item, rfl, there⟩ | ⟨view, viewed, rfl⟩
  · obtain ⟨held, found⟩ := Option.isSome_iff_exists.mp there
    obtain ⟨url, name⟩ := url_of_mem_aliases_item found shown
    obtain ⟨named, displayed⟩ := field?_itemPage found
    constructor
    case shown =>
      rw [key]
      rcases name with same | same
      · exact .inl (by rw [same]; exact named)
      · exact .inr (by rw [same]; exact displayed)
    case page =>
      intro line
      rw [key] at line ⊢
      rw [url]
      apply follow_item origin title quick tree loaded found
      intro name inside
      obtain ⟨other, above, rfl⟩ := List.mem_map.mp inside
      exact line other above
    case noPage =>
      intro broken
      rw [key] at broken
      rw [url]
      refine follow_broken origin title quick (tree.follow?_lineage found).1 ?_
      by_contra straight
      refine broken fun other above inside => straight ⟨_, List.mem_map_of_mem above, inside⟩
  · obtain ⟨held, found⟩ := tree.view_of_mem viewed
    obtain ⟨url, name⟩ := url_of_mem_aliases_view found shown
    constructor
    case shown =>
      rw [key, name]
      exact .inl (field?_viewPage found)
    case page =>
      intro _
      rw [key, url]
      exact follow_view origin title quick tree loaded viewed found
    case noPage =>
      intro broken
      rw [key] at broken
      exact absurd trivial broken

end Entries

section Replies

variable {objects : Objects} {answer : Outcome ObjectId → Reply}
  {outcome : Traced (Event ObjectId) SearchFault (Outcome ObjectId)}

theorem searchReply_of_ok {value : Outcome ObjectId} (ended : outcome.result = .ok value) :
    (searchReply objects answer outcome).1 = answer value := by
  simp only [searchReply, ended]

theorem searchReply_of_notFound (ended : outcome.result = .error .notFound) :
    (searchReply objects answer outcome).1.status = 404 := by
  simp only [searchReply, ended]
  rfl

theorem url_mem_listing (tree : objects.IsTree) {entry : SearchItem ObjectId}
    (member : entry ∈ objects.listing) :
    ∀ c ∈ (underBase standardBase entry.url).toList, isKept c = true := by
  obtain ⟨id, listed, shown⟩ := List.mem_flatMap.mp member
  rcases tree.mem_levelOrder_iff.mp listed with ⟨item, rfl, there⟩ | ⟨view, viewed, rfl⟩
  · obtain ⟨held, found⟩ := Option.isSome_iff_exists.mp there
    rw [(url_of_mem_aliases_item found shown).1]
    exact isKept_itemAddress
  · obtain ⟨held, found⟩ := tree.view_of_mem viewed
    rw [(url_of_mem_aliases_view found shown).1]
    exact isKept_viewAddress

variable {database : Database} (origin title : String) (quick : QuickSearch)

/-- What a search answers: that nothing was found, or the address of an object whose name or display
name equals the query. -/
theorem search_reply (tree : objects.IsTree) (loaded : database.load.result = .ok objects)
    (request : Request) :
    let reply := ((standardSite origin title quick).searchSnapshot request database .search).reply
    reply.status = 404 ∨ ∃ entry ∈ objects.listing, reply.status = 302 ∧
      reply.location = some (underBase standardBase entry.url) ∧
      comparable quick.caseSensitive entry.name =
        comparable quick.caseSensitive ((request.parameter? "q").getD "") := by
  have compared := tree.find_root ((request.parameter? "q").getD "") quick.caseSensitive
  simp only [Site.searchSnapshot, fromSnapshot_reply loaded]
  cases first : firstEqual quick.caseSensitive ((request.parameter? "q").getD "") objects.listing with
  | none =>
      rw [first] at compared
      exact .inl (searchReply_of_notFound (quick.search_result tree.openStart_root compared))
  | some entry =>
      rw [first] at compared
      have ended := quick.search_result tree.openStart_root compared
      obtain ⟨member, equal⟩ := mem_of_firstEqual first
      let redirect (outcome : Outcome ObjectId) : Reply :=
        .redirect 302 ((outcome.answer (standardSite origin title quick).base).url.getD "")
      have reply : (searchReply objects redirect
          (quick.search objects.catalog (.space rootSpace) ((request.parameter? "q").getD ""))).1 =
            redirect (.resolved entry) := searchReply_of_ok ended
      refine .inr ⟨entry, member, ?_, ?_, equal⟩
      · exact congrArg Reply.status reply
      · exact (congrArg Reply.location reply).trans (location_redirect (url_mem_listing tree member))

/-- The suggestions that an answer lists. -/
theorem suggest_reply (tree : objects.IsTree) (loaded : database.load.result = .ok objects)
    (request : Request) :
    let reply := ((standardSite origin title quick).searchSnapshot request database .suggest).reply
    requestedLimit request = .error reply ∨ ∃ entries ⊆ objects.listing,
      reply = .json 200 (suggestionsPage ((Outcome.suggested entries).answer standardBase)) := by
  simp only [Site.searchSnapshot, fromSnapshot_reply loaded]
  cases bound : requestedLimit request with
  | error refusal => exact .inl rfl
  | ok limit =>
      obtain ⟨entries, collected, among⟩ := Catalog.suggest_subset tree.walk_root.1
        ((request.parameter? "query").getD "") (quick.limit limit)
      have ended := quick.suggest_result tree.openStart_root collected
      refine .inr ⟨entries, List.Subset.trans among tree.walk_items_subset, ?_⟩
      exact searchReply_of_ok ended

/-- The objects that a lookup answers with: the one that equals the query, or the suggestions. -/
theorem lookup_reply (tree : objects.IsTree) (loaded : database.load.result = .ok objects)
    (request : Request) :
    let reply := ((standardSite origin title quick).searchSnapshot request database .lookup).reply
    requestedLimit request = .error reply ∨
      (∃ entry ∈ objects.listing,
        reply = .json 200 (lookupPage ((Outcome.resolved entry).answer standardBase)) ∧
        comparable quick.caseSensitive entry.name =
          comparable quick.caseSensitive ((request.parameter? "q").getD "")) ∨
      ∃ entries ⊆ objects.listing,
        reply = .json 200 (lookupPage ((Outcome.suggested entries).answer standardBase)) := by
  have compared := tree.find_root ((request.parameter? "q").getD "") quick.caseSensitive
  simp only [Site.searchSnapshot, fromSnapshot_reply loaded]
  cases bound : requestedLimit request with
  | error refusal => exact .inl rfl
  | ok limit =>
      obtain ⟨entries, collected, among⟩ := Catalog.suggest_subset tree.walk_root.1
        ((request.parameter? "q").getD "") (quick.limit limit)
      right
      cases first : firstEqual quick.caseSensitive ((request.parameter? "q").getD "")
          objects.listing with
      | none =>
          rw [first] at compared
          have ended := quick.lookup_result tree.openStart_root compared collected
          refine .inr ⟨entries, List.Subset.trans among tree.walk_items_subset, ?_⟩
          exact searchReply_of_ok ended
      | some entry =>
          rw [first] at compared
          have ended := quick.lookup_result tree.openStart_root compared collected
          obtain ⟨member, equal⟩ := mem_of_firstEqual first
          exact .inl ⟨entry, member, searchReply_of_ok ended, equal⟩

end Replies

/-- A request to the search below the base. -/
def searchRequest (path : String) (query : List (String × String)) : Request :=
  { method := "GET", path := standardBase ++ path, query }

/-- What a site answers to searches over a database: addresses of listed aliases, and where each of
them leads. -/
structure HandsOut (site : Site) (database : Database) (query : List (String × String))
    (objects : Objects) : Prop where
  loaded : database.load.result = .ok objects
  leads : ∀ entry ∈ objects.listing, Leads site database objects entry
  search :
    let request := searchRequest "/search" query
    let reply := (site.serve request database).reply
    reply.status = 404 ∨ ∃ entry ∈ objects.listing, reply.status = 302 ∧
      reply.location = some (underBase site.base entry.url) ∧
      comparable site.quick.caseSensitive entry.name =
        comparable site.quick.caseSensitive ((request.parameter? "q").getD "")
  suggest :
    let request := searchRequest "/search/suggest" query
    let reply := (site.serve request database).reply
    requestedLimit request = .error reply ∨ ∃ entries ⊆ objects.listing,
      reply = .json 200 (suggestionsPage ((Outcome.suggested entries).answer site.base))
  lookup :
    let request := searchRequest "/search/lookup" query
    let reply := (site.serve request database).reply
    requestedLimit request = .error reply ∨
      (∃ entry ∈ objects.listing,
        reply = .json 200 (lookupPage ((Outcome.resolved entry).answer site.base)) ∧
        comparable site.quick.caseSensitive entry.name =
          comparable site.quick.caseSensitive ((request.parameter? "q").getD "")) ∨
      ∃ entries ⊆ objects.listing,
        reply = .json 200 (lookupPage ((Outcome.suggested entries).answer site.base))

/-- A request that is routed to a search is answered from a snapshot. -/
theorem serve_of_search {site : Site} {request : Request} {endpoint : Endpoint}
    (routed : dispatch (routes site.base) request.method request.path = .endpoint endpoint)
    (searches : endpoint = .search ∨ endpoint = .suggest ∨ endpoint = .lookup) (database : Database) :
    site.serve request database = site.searchSnapshot request database endpoint := by
  have carried : site.serve request database = site.carryOut request database endpoint := by
    simp only [Site.serve, routed]
  rw [carried]
  rcases searches with rfl | rfl | rfl <;> rfl

theorem serve_search {site : Site} {endpoint : Endpoint} {path : String}
    (query : List (String × String))
    (routed : dispatch (routes site.base) "GET" (standardBase ++ path) = .endpoint endpoint)
    (searches : endpoint = .search ∨ endpoint = .suggest ∨ endpoint = .lookup) (database : Database) :
    site.serve (searchRequest path query) database =
      site.searchSnapshot (searchRequest path query) database endpoint :=
  serve_of_search routed searches database

/-- After any requests, the addresses that a search hands out are those of the objects that it found.
Such an address leads to the page of its object unless a name in it, other than that of a view, holds a
line feed; then it leads to no page. -/
theorem search_addresses_lead (origin title : String) (quick : QuickSearch) (run : List Request)
    (query : List (String × String)) :
    ∃ objects, HandsOut (standardSite origin title quick)
      ((standardSite origin title quick).databaseAfter run) query objects := by
  obtain ⟨objects, loaded, tree⟩ :=
    (Site.isSound_databaseAfter (standardSite origin title quick) run).load_result
  refine ⟨objects, loaded, fun entry => leads_of_mem_listing origin title quick tree loaded, ?_, ?_, ?_⟩
  · dsimp only
    rw [serve_search query dispatch_search (.inl rfl)]
    exact search_reply origin title quick tree loaded _
  · dsimp only
    rw [serve_search query dispatch_suggest (.inr (.inl rfl))]
    exact suggest_reply origin title quick tree loaded _
  · dsimp only
    rw [serve_search query dispatch_lookup (.inr (.inr rfl))]
    exact lookup_reply origin title quick tree loaded _

/-- A request to create an item whose name holds a line feed. -/
def createTwoLineItem : Request where
  method := "POST"
  path := "/api/v1/items"
  body := .value (.record [("name", .text "a\nb")])

/-- Such an item is found, but the address that the search answers leads nowhere. -/
theorem twoLineItem_address_not_found :
    let site := standardSite "http://testserver" "" {}
    let database := site.databaseAfter [createTwoLineItem]
    let reply := (site.serve (searchRequest "/search" [("q", "a\nb")]) database).reply
    reply.status = 302 ∧
      (reply.location.bind (site.follow database)).map Reply.status = some 404 := by
  decide +kernel

end Wayfinder.Api
