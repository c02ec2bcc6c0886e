import Wayfinder.Search.QuickSearch
import Wayfinder.Storage.Rows
import Wayfinder.Workspace.Location
import Wayfinder.Json.Value

/-!
# Pages

What the API shows of an item, a view, the views of a workspace and the outcome of a search.
-/

namespace Wayfinder.Api

open Workspace Search

/-- A text or nothing. -/
def optionalText (text : Option String) : Json :=
  (text.map Json.text).getD .null

/-- A number or nothing. -/
def optionalWhole (value : Option Int) : Json :=
  (value.map Json.whole).getD .null

/-- Texts in their order. -/
def textList (texts : List String) : Json :=
  .list (texts.map .text)

/-- The kind of an item. -/
def kindOf (item : Item) : Storage.ItemKind :=
  if item.isFolder then .folder else .job

/-- The page of an item. -/
def itemPage (objects : Objects) (id : ItemId) : Json :=
  match objects.item? id with
  | none => .null
  | some item =>
    let children := item.items.filterMap objects.item?
    .record [
      ("id", optionalWhole item.id),
      ("kind", .text (kindOf item).word),
      ("name", .text item.name.text),
      ("display_name", .text item.shownName),
      ("full_name", .text (objects.fullName id)),
      ("full_display_name", .text (objects.displayPath id)),
      ("url", .text (objects.address id)),
      ("disabled", .flag item.isDisabled),
      ("items", textList (children.map fun child => child.name.text))]

/-- The page of a view of a workspace. -/
def viewPage (objects : Objects) (space : SpaceId) (id : ViewId) : Json :=
  match objects.view? id with
  | none => .null
  | some view =>
    .record [
      ("id", optionalWhole view.id),
      ("name", .text view.name.text),
      ("url", .text (Path.viewAddress view.name.text)),
      ("primary", .flag (objects.primaryView? space == some id)),
      ("members", textList (view.members.map objects.fullName))]

/-- All views of a workspace, and which of them it shows first. -/
def viewList (objects : Objects) (space : SpaceId) : Json :=
  let views := ((objects.space? space).map Space.views).getD []
  let primary := (objects.primaryView? space).bind objects.view?
  .record [
    ("views", .list (views.map (viewPage objects space))),
    ("primary_view", optionalText (primary.map fun view => view.name.text))]

/-- One suggestion. -/
def suggestionPage (suggestion : Suggestion) : Json :=
  .record [
    ("name", .text suggestion.name),
    ("url", .text suggestion.url),
    ("path", .text suggestion.path)]

/-- The suggestions of an outcome. -/
def suggestionsPage (answer : LookupAnswer) : Json :=
  .record [("suggestions", .list (answer.suggestions.map suggestionPage))]

/-- A lookup. -/
def lookupPage (answer : LookupAnswer) : Json :=
  .record [
    ("state", .text answer.state.word),
    ("url", optionalText answer.url),
    ("suggestions", .list (answer.suggestions.map suggestionPage))]

end Wayfinder.Api
