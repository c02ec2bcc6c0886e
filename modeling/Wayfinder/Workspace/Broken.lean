import Wayfinder.Workspace.Editing
import Wayfinder.Workspace.Lookup
import Wayfinder.Workspace.Surface

/-!
# Workspaces with broken names

Half of a surrogate pair is no reason to refuse a name, so a workspace in memory can have items and views
of broken names. Only an address cannot be made of such a name: an index fails that would have to show an
object there.

Names of any kind are entered in a list here, and the objects go by stand-ins for them, each of which tells
its place in the list.
-/

namespace Wayfinder.Workspace

open Search
open Text (Glyph Wide)

/-- The name that stands for the one at a place: one more stroke than there are before it. -/
def strokes (place : Nat) : Name where
  text := String.ofList (List.replicate (place + 1) '|')
  sound := by
    have shown : Text.isBlank '|' = false := by decide
    have first : '|' ∈ List.replicate (place + 1) '|' := by simp
    have blank : Text.isBlankText (String.ofList (List.replicate (place + 1) '|')) = false := by
      rw [Text.isBlankText, String.toList_ofList, List.all_eq_false]
      exact ⟨'|', first, by simp [shown]⟩
    have dots (text : String) (dotted : '|' ∉ text.toList) :
        String.ofList (List.replicate (place + 1) '|') ≠ text := by
      rintro rfl
      exact dotted (by rw [String.toList_ofList]; exact first)
    simp [NameFault.of?, blank, dots "." (by decide), dots ".." (by decide)]

/-- Objects whose names may be broken: they have stand-ins for the names of a list. -/
structure Roster where
  names : List Wide := []
  objects : Objects := {}

namespace Roster

variable (roster : Roster)

/-- The stand-in for a name: for one that is entered, or is the next to be. -/
def standIn (name : Wide) : Name :=
  strokes (roster.names.idxOf name)

/-- Enter a name, unless it is entered already. -/
def enter (name : Wide) : Roster :=
  if name ∈ roster.names then roster else { roster with names := roster.names ++ [name] }

/-- The name that a text stands for. -/
def called (text : String) : Wide :=
  match text.length with
  | 0 => .sound text
  | place + 1 => roster.names[place]?.getD (.sound text)

/-- A fault that tells the names that are meant. -/
def retell : Fault → Fault
  | .duplicateItem text =>
    match roster.called text with
    | .sound name => .duplicateItem name
    | .broken name _ => .duplicateBrokenItem name
  | .duplicateView text =>
    match roster.called text with
    | .sound name => .duplicateView name
    | .broken name _ => .duplicateBrokenView name
  | .foreignView text =>
    match roster.called text with
    | .sound name => .foreignView name
    | .broken name _ => .foreignBrokenView name
  | fault => fault

/-- Carry out a change of the objects, by which a name of any kind may be given, or refuse it. -/
def carryOut {α : Type} (given : Option Wide) (change : Except Fault (Objects × α)) :
    Except Fault (Roster × α) := do
  given.forM checkWideName
  let (objects, value) ← change.mapError roster.retell
  return ({ given.elim roster roster.enter with objects }, value)

/-- Carry out an edit with a name of any kind, or refuse it. -/
def apply (edit : Edit Wide) : Except Fault Roster :=
  let change := (edit.map fun name => (roster.standIn name).text).apply roster.objects
  (roster.carryOut edit.name? (change.map fun objects => (objects, ()))).map Prod.fst

/-- The item of a full name in a workspace. -/
def byFullName? (space : SpaceId) (fullName : Wide) : Option ItemId :=
  roster.objects.follow? (.space space)
    ((Path.wideNames fullName).map fun name => (roster.standIn name).text)

/-- The group of a full name: a folder, or a workspace itself for no name. -/
def folderNamed (space : SpaceId) (fullName : Option Wide) : Except Fault GroupId :=
  match fullName.filter fun fullName => fullName != .sound "" with
  | none => .ok (.space space)
  | some fullName =>
    match roster.byFullName? space fullName with
    | none => .error (match fullName with
      | .sound fullName => .noItem fullName
      | .broken fullName _ => .noBrokenItem fullName)
    | some id =>
      match roster.objects.group? id with
      | some group => .ok group
      | none => .error (match fullName with
        | .sound fullName => .notFolder fullName
        | .broken fullName _ => .notBrokenFolder fullName)

/-- The name in place of its stand-in, if it is sound. -/
def soundName (name : Name) : Name :=
  match roster.called name.text with
  | .sound text =>
    match Name.parse text with
    | .ok checked => checked
    | .error _ => name
  | .broken _ _ => name

/-- The objects under their own names, wherever these are sound. -/
def renamed : Objects where
  items := roster.objects.items.map fun item => { item with name := roster.soundName item.name }
  views := roster.objects.views.map fun view => { view with name := roster.soundName view.name }
  spaces := roster.objects.spaces

/-- The names of which the address of an object is made. -/
def addressNames : ObjectId → List Wide
  | .item id => (roster.objects.lineage id).map fun item => roster.called item.name.text
  | .view id => ((roster.objects.view? id).map fun view => roster.called view.name.text).toList
  | .space _ => []

/-- The names down to an item, between slashes. -/
def fullName (id : ItemId) : List Glyph :=
  List.intercalate [.char '/'] ((roster.addressNames (.item id)).map Wide.glyphs)

/-- An object as messages show it. -/
def describe : ObjectId → String
  | .item id =>
    let isFolder := ((roster.objects.item? id).map Item.isFolder).getD false
    (if isFolder then "<Folder" else "<Job") ++ "(full_name=" ++
      Text.quoteGlyphs (roster.fullName id) ++ ")>"
  | .view id =>
    "<ListView(name=" ++
      Text.quoteGlyphs ((roster.addressNames (.view id)).flatMap Wide.glyphs) ++ ")>"
  | .space id => roster.objects.describe (.space id)

/-- The glyphs of a name that cannot be written in an address. -/
def brokenGlyphs? : Wide → Option (List Glyph)
  | .sound _ => none
  | .broken glyphs _ => some glyphs

/-- The first name that keeps an object from having an address. -/
def unaddressed? (id : ObjectId) : Option (List Glyph) :=
  (roster.addressNames id).findSome? brokenGlyphs?

/-- The objects that the index of an object shows, in the order in which they are added. -/
def shownIn : ObjectId → List ObjectId
  | .item id => .item id :: (roster.objects.members (.folder id)).map .item
  | .view id => (((roster.objects.view? id).map ListView.members).getD []).map .item
  | .space id => (roster.objects.members (.space id)).map .item ++
      (((roster.objects.space? id).map Space.views).getD []).map .view

/-- The index of an object. -/
def searchIndex (id : ObjectId) : Except IndexFault (SearchIndex ObjectId) :=
  match (roster.shownIn id).findSome? roster.unaddressed? with
  | some name => .error (.unencodable name)
  | none => roster.renamed.searchIndex id

/-- All objects as containers to search. -/
def catalog : Catalog ObjectId where
  containers := roster.objects.ids
  opening id := .ofExcept (roster.searchIndex id)

end Roster

end Wayfinder.Workspace
