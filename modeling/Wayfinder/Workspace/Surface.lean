import Wayfinder.Search.QuickSearch
import Wayfinder.Workspace.Location

/-!
# What a workspace shows to search

Every object can be searched. A job shows its own aliases; a folder shows its own and those of its
items, and lets the search go on to the folders among them; a view shows its members. A workspace
shows its items like a folder, and after them its views by name. Views take no part in where a search
goes, so nothing becomes unreachable because of one.
-/

namespace Wayfinder.Workspace.Objects

open Search

/-- What search knows of an object. -/
def target (objects : Objects) : ObjectId → Target ObjectId
  | .item id =>
    match objects.item? id with
    | some item =>
      ⟨.item id, item.name.text, objects.address id, some item.shownName,
        some (objects.displayPath id)⟩
    | none => ⟨.item id, "", "", none, none⟩
  | .view id =>
    match objects.view? id with
    | some view =>
      let name := view.name.text
      ⟨.view id, name, Path.viewAddress name, some name, some name⟩
    | none => ⟨.view id, "", "", none, none⟩
  | .space id => ⟨.space id, "", "", some "", some ""⟩

/-- Declare items, and let the search go on to the folders among them. -/
def addMembers (objects : Objects) (index : SearchIndex ObjectId) (items : List ItemId) :
    Except IndexFault (SearchIndex ObjectId) :=
  let folders := items.filter fun id => (objects.group? id).isSome
  (index.addAll (items.map fun id => objects.target (.item id))).map fun index =>
    index.addChildren (folders.map fun id => .container (.item id))

/-- The index of an object. -/
def searchIndex (objects : Objects) (id : ObjectId) : Except IndexFault (SearchIndex ObjectId) := do
  let index : SearchIndex ObjectId := { owner := some id }
  match id with
  | .item item =>
    let index ← index.addAliases (objects.target id)
    objects.addMembers index (objects.members (.folder item))
  | .view view =>
    let members := ((objects.view? view).map ListView.members).getD []
    index.addAll (members.map fun item => objects.target (.item item))
  | .space space =>
    let index ← objects.addMembers index (objects.members (.space space))
    let views := ((objects.space? space).map Space.views).getD []
    views.foldlM (fun index view =>
      let target := objects.target (.view view)
      index.addName target.name (some target)) index

/-- All objects as containers to search. -/
def catalog (objects : Objects) : Catalog ObjectId where
  containers := objects.ids
  opening id := .ofExcept (objects.searchIndex id)

end Wayfinder.Workspace.Objects
