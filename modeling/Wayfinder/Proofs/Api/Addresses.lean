import Wayfinder.Proofs.Address
import Wayfinder.Proofs.Api.Routing
import Wayfinder.Proofs.Api.Runs
import Wayfinder.Proofs.Workspace.Lineage

/-!
# Following the address of a page

An address below the base is percent-encoded, sent, decoded and routed, and what is behind its first
`job/` is read as a full name that is looked up again. A name survives all of this unless it holds a
line feed and is a part of an item's address: then no route takes the address.
-/

namespace Wayfinder.Api

open Workspace Search Storage
open Text.Percent (Spells)

/-- A site at the usual base. -/
def standardSite (origin title : String) (quick : QuickSearch) : Site :=
  ⟨origin, standardBase, title, quick⟩

/-- The reply to a request for an address, if the address is the written form of a path. -/
def Site.follow (site : Site) (database : Database) (address : String) : Option Reply :=
  (Text.Percent.decode? address).map fun path =>
    (site.serve { method := "GET", path } database).reply

section Written

theorem spells_front : Spells (standardBase ++ "/").toList (standardBase ++ "/").toList :=
  Text.Percent.spells_plain (by decide)

/-- The address of an item is written for the path of its page. -/
theorem spells_itemAddress {names : List String} (nonempty : names ≠ []) :
    Spells (underBase standardBase (Path.itemAddress names)).toList
      (itemChars (Path.jobPath names).toList) := by
  have whole := spells_front.append (Path.spells_itemAddress nonempty)
  have written : (underBase standardBase (Path.itemAddress names)).toList =
      (standardBase ++ "/").toList ++ (Path.itemAddress names).toList := by
    rw [underBase, String.toList_append]
  have base : (standardBase ++ "/").toList ++ "job/".toList = (standardBase ++ "/job/").toList := rfl
  rwa [written, itemChars, ← base, List.append_assoc]

/-- The address of a view is written for the path of its page. -/
theorem spells_viewAddress (name : String) :
    Spells (underBase standardBase (Path.viewAddress name)).toList (viewChars name.toList) := by
  have marker : Spells "view/".toList "view/".toList := Text.Percent.spells_plain (by decide)
  have whole := spells_front.append
    ((marker.append (Text.Percent.spells_encode name)).append Text.Percent.spells_slash)
  have written : (underBase standardBase (Path.viewAddress name)).toList =
      (standardBase ++ "/").toList ++
        ("view/".toList ++ (Text.Percent.encode name).toList ++ "/".toList) := by
    simp only [underBase, Path.viewAddress, String.toList_append]
  have base : (standardBase ++ "/view/").toList = (standardBase ++ "/").toList ++ "view/".toList := rfl
  have last : "/".toList = ['/'] := rfl
  rw [written, viewChars, base]
  simpa only [List.append_assoc, last] using whole

/-- Whether a redirection leaves a character as it is. -/
def isKept (c : Char) : Bool :=
  Text.Percent.isUnreserved c || Reply.addressMarks.contains c

theorem isKept_encode {text : String} {c : Char} (member : c ∈ (Text.Percent.encode text).toList) :
    isKept c = true := by
  rcases Text.Percent.encode_chars member with plain | rfl
  · simp [isKept, plain]
  · rfl

/-- A redirection sends the client to the address as it was written. -/
theorem location_redirect {status : Nat} {address : String}
    (kept : ∀ c ∈ address.toList, isKept c = true) :
    (Reply.redirect status address).location = some address :=
  congrArg some (Text.Percent.encodeWith_of_kept kept)

theorem isKept_front : ∀ c ∈ (standardBase ++ "/").toList, isKept c = true :=
  List.all_eq_true.mp (by decide)

theorem isKept_slash : ∀ c ∈ "/".toList, isKept c = true :=
  List.all_eq_true.mp (by decide)

theorem isKept_itemAddress {names : List String} :
    ∀ c ∈ (underBase standardBase (Path.itemAddress names)).toList, isKept c = true := by
  have marker : ∀ c ∈ "job/".toList, isKept c = true := List.all_eq_true.mp (by decide)
  intro c member
  rw [underBase, String.toList_append, Path.toList_itemAddress] at member
  rcases List.mem_append.mp member with base | below
  · exact isKept_front c base
  · obtain ⟨name, -, part⟩ := List.mem_flatMap.mp below
    simp only [List.mem_append] at part
    rcases part with (job | encoded) | last
    · exact marker c job
    · exact isKept_encode encoded
    · exact isKept_slash c last

theorem isKept_viewAddress {name : String} :
    ∀ c ∈ (underBase standardBase (Path.viewAddress name)).toList, isKept c = true := by
  have marker : ∀ c ∈ "view/".toList, isKept c = true := List.all_eq_true.mp (by decide)
  intro c member
  simp only [underBase, Path.viewAddress, String.toList_append, List.mem_append] at member
  rcases member with base | (view | encoded) | last
  · exact isKept_front c (by simpa using base)
  · exact marker c view
  · exact isKept_encode encoded
  · exact isKept_slash c last

end Written

/-- A line feed in the path of an item comes from one of the names. -/
theorem lineFeed_mem_jobPath_iff {names : List String} (nonempty : names ≠ []) :
    '\n' ∈ (Path.jobPath names).toList ↔ ∃ name ∈ names, '\n' ∈ name.toList := by
  have marker : '\n' ∉ "job/".toList := by decide
  have slash : '\n' ∉ "/".toList := by decide
  have parts : '\n' ∈ "job/".toList ++ (Path.jobPath names).toList ↔
      ∃ name ∈ names, '\n' ∈ name.toList := by
    rw [Path.toList_jobPath nonempty, List.mem_flatMap]
    simp only [List.mem_append, marker, slash, false_or, or_false]
  rw [← parts, List.mem_append]
  simp only [marker, false_or]

section Followed

theorem fromSnapshot_reply {database : Database} {objects : Objects}
    (loaded : database.load.result = .ok objects) (answer : Objects → Reply × List LogLine) :
    (fromSnapshot database answer).reply = (answer objects).1 := by
  simp only [fromSnapshot, loaded]

/-- An address that is the written form of a path leads to the endpoint of the path. -/
theorem follow_of_spells (site : Site) (database : Database) {address path : String}
    {endpoint : Endpoint} (spelled : Spells address.toList path.toList)
    (routed : dispatch (routes site.base) "GET" path = .endpoint endpoint) :
    site.follow database address =
      some (site.carryOut { method := "GET", path } database endpoint).reply := by
  rw [Site.follow, Text.Percent.decode?_of_spells spelled, Option.map_some]
  simp only [Site.serve, routed]

variable {objects : Objects} {database : Database}

theorem showItem_reply (tree : objects.IsTree) (loaded : database.load.result = .ok objects)
    {id : ItemId} {item : Item} (found : objects.item? id = some item) :
    (Site.showItem (Path.jobPath (objects.lineageNames id)) database).reply =
      .json 200 (itemPage objects id) := by
  obtain ⟨nonempty, -⟩ := tree.follow?_lineage found
  have named : fullNameOfJobPath (Path.jobPath (objects.lineageNames id)) =
      .ok (Path.ofNames (objects.lineageNames id)) := by
    rw [fullNameOfJobPath, Path.ofJobPath?_jobPath nonempty fun _ =>
      Objects.isSegment_of_mem_lineageNames]
  have held : objects.byFullName? snapshotSpace (Path.ofNames (objects.lineageNames id)) = some id :=
    tree.byFullName?_lineage found
  rw [Site.showItem, fromSnapshot_reply loaded, named]
  simp only [itemReply, held]

theorem showView_reply (tree : objects.IsTree) (loaded : database.load.result = .ok objects)
    {id : ViewId} {view : ListView} (member : id ∈ objects.viewsOf rootSpace)
    (found : objects.view? id = some view) :
    (fromSnapshot database fun objects => (viewReply 200 view.name.text objects, [])).reply =
      .json 200 (viewPage objects snapshotSpace id) := by
  have held : objects.viewNamed? snapshotSpace view.name.text = some id :=
    tree.viewNamed?_eq member found
  rw [fromSnapshot_reply loaded]
  simp only [viewReply, held]

variable (origin title : String) (quick : QuickSearch)

/-- The address of an item whose names hold no line feed leads to the page of the item. -/
theorem follow_item (tree : objects.IsTree) (loaded : database.load.result = .ok objects) {id : ItemId}
    {item : Item} (found : objects.item? id = some item)
    (line : ∀ name ∈ objects.lineageNames id, '\n' ∉ name.toList) :
    (standardSite origin title quick).follow database (underBase standardBase (objects.address id)) =
      some (.json 200 (itemPage objects id)) := by
  obtain ⟨nonempty, -⟩ := tree.follow?_lineage found
  let path := String.ofList (itemChars (Path.jobPath (objects.lineageNames id)).toList)
  have chars : path.toList = itemChars (Path.jobPath (objects.lineageNames id)).toList :=
    String.toList_ofList
  have spelled : Spells (underBase standardBase (objects.address id)).toList path.toList := by
    rw [chars]
    exact spells_itemAddress nonempty
  have straight : '\n' ∉ (Path.jobPath (objects.lineageNames id)).toList := by
    intro broken
    obtain ⟨name, member, inside⟩ := (lineFeed_mem_jobPath_iff nonempty).mp broken
    exact line name member inside
  have routed := dispatch_item chars straight
  rw [String.ofList_toList] at routed
  have followed := follow_of_spells (standardSite origin title quick) database spelled routed
  rw [followed, Site.carryOut, showItem_reply tree loaded found]

/-- The address of a view leads to the page of the view. -/
theorem follow_view (tree : objects.IsTree) (loaded : database.load.result = .ok objects) {id : ViewId}
    {view : ListView} (member : id ∈ objects.viewsOf rootSpace)
    (found : objects.view? id = some view) :
    (standardSite origin title quick).follow database
      (underBase standardBase (Path.viewAddress view.name.text)) =
        some (.json 200 (viewPage objects snapshotSpace id)) := by
  let path := String.ofList (viewChars view.name.text.toList)
  have chars : path.toList = viewChars view.name.text.toList := String.toList_ofList
  have spelled : Spells (underBase standardBase (Path.viewAddress view.name.text)).toList
      path.toList := by
    rw [chars]
    exact spells_viewAddress view.name.text
  have nonempty : view.name.text.toList ≠ [] := fun empty =>
    view.name.text_ne_empty (String.toList_inj.mp empty)
  have routed := dispatch_view chars nonempty view.name.separator_not_mem
  rw [String.ofList_toList] at routed
  have followed := follow_of_spells (standardSite origin title quick) database spelled routed
  rw [followed, Site.carryOut, showView_reply tree loaded member found]

/-- The address of an item below or of a name with a line feed leads to no page: nowhere, or to the
address without its last slash. -/
theorem follow_broken {id : ItemId} (nonempty : objects.lineageNames id ≠ [])
    (broken : ∃ name ∈ objects.lineageNames id, '\n' ∈ name.toList) :
    ∃ reply, (standardSite origin title quick).follow database
      (underBase standardBase (objects.address id)) = some reply ∧
        (reply.status = 404 ∨ reply.status = 307) := by
  let path := String.ofList (itemChars (Path.jobPath (objects.lineageNames id)).toList)
  have chars : path.toList = itemChars (Path.jobPath (objects.lineageNames id)).toList :=
    String.toList_ofList
  have spelled : Spells (underBase standardBase (objects.address id)).toList path.toList := by
    rw [chars]
    exact spells_itemAddress nonempty
  have ends : (Path.jobPath (objects.lineageNames id)).toList =
      (Path.join "/" (Path.marked (objects.lineageNames id))).toList ++ ['/'] := by
    simp [Path.jobPath]
  have inside : '\n' ∈ (Path.join "/" (Path.marked (objects.lineageNames id))).toList := by
    have somewhere := (lineFeed_mem_jobPath_iff nonempty).mpr broken
    rw [ends] at somewhere
    simpa using somewhere
  rw [ends] at chars
  have routed := dispatch_broken chars inside
  rw [Site.follow, Text.Percent.decode?_of_spells spelled, Option.map_some]
  refine ⟨_, rfl, ?_⟩
  have base : (standardSite origin title quick).base = standardBase := rfl
  simp only [Site.serve, base, routed]
  split
  · exact .inr rfl
  · exact .inl rfl

end Followed

end Wayfinder.Api
