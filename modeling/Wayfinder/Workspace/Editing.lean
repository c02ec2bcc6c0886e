import Wayfinder.Workspace.Objects

/-!
# Editing a workspace

Objects are made detached and then added to a group or a workspace. A group holds no two items of one
name and a workspace no two views of one name; an addition that would break this is refused, and a
refused operation gives no new objects.
-/

namespace Wayfinder.Workspace

namespace Objects

/-- Make an item that no group holds. -/
def newItem (objects : Objects) (item : Item) : Objects × ItemId :=
  ({ objects with items := objects.items ++ [item] }, ⟨objects.items.length⟩)

/-- Make a view that no workspace holds. -/
def newView (objects : Objects) (view : ListView) : Objects × ViewId :=
  ({ objects with views := objects.views ++ [view] }, ⟨objects.views.length⟩)

/-- Make an empty workspace. -/
def newSpace (objects : Objects) : Objects × SpaceId :=
  ({ objects with spaces := objects.spaces ++ [{}] }, ⟨objects.spaces.length⟩)

/-- Put an item at the end of a group's items. -/
def append (objects : Objects) (group : GroupId) (item : ItemId) : Objects :=
  match group with
  | .folder id => objects.modifyItem id fun folder => folder.withItem item
  | .space id => objects.modifySpace id fun space => { space with items := space.items ++ [item] }

/-- Add an item to a group, which becomes its parent. Groups that held it before keep it. -/
def addItem (objects : Objects) (group : GroupId) (id : ItemId) : Except Fault Objects :=
  match objects.item? id with
  | none => .ok objects
  | some item =>
    match objects.child? group item.name.text with
    | some _ => .error (.duplicateItem item.name.text)
    | none =>
      .ok ((objects.modifyItem id fun item => { item with parent := some group }).append group id)

/-- Make an item and add it to a group. -/
def createItem (objects : Objects) (group : GroupId) (item : Item) :
    Except Fault (Objects × ItemId) :=
  let (objects, id) := objects.newItem item
  (objects.addItem group id).map fun objects => (objects, id)

/-- A job of a given name. -/
def job (name : String) (displayName : Option String) (disabled : Bool) (id : Option Int) :
    Except Fault Item :=
  (checkName name).map fun name =>
    { name, displayName := nonEmpty? displayName, id, body := .job disabled }

/-- An empty folder of a given name. -/
def folder (name : String) (displayName : Option String) (id : Option Int) : Except Fault Item :=
  (checkName name).map fun name =>
    { name, displayName := nonEmpty? displayName, id, body := .folder [] }

/-- Make a job in a group. -/
def createJob (objects : Objects) (group : GroupId) (name : String) (displayName : Option String)
    (disabled : Bool) (id : Option Int) : Except Fault (Objects × ItemId) := do
  objects.createItem group (← job name displayName disabled id)

/-- Make a folder in a group. -/
def createFolder (objects : Objects) (group : GroupId) (name : String)
    (displayName : Option String) (id : Option Int) : Except Fault (Objects × ItemId) := do
  objects.createItem group (← folder name displayName id)

/-- Add a view to a workspace, which becomes its owner. -/
def addView (objects : Objects) (space : SpaceId) (id : ViewId) : Except Fault Objects :=
  match objects.view? id with
  | none => .ok objects
  | some view =>
    match objects.viewNamed? space view.name.text with
    | some _ => .error (.duplicateView view.name.text)
    | none =>
      .ok ((objects.modifyView id fun view => { view with owner := some space }).modifySpace space
        fun space => { space with views := space.views ++ [id] })

/-- A view of a given name. -/
def listView (name : String) (id : Option Int) : Except Fault ListView :=
  (checkName name).map fun name => { name, id }

/-- Make a view in a workspace. -/
def createView (objects : Objects) (space : SpaceId) (name : String) (id : Option Int) :
    Except Fault (Objects × ViewId) := do
  let (objects, view) := objects.newView (← listView name id)
  return (← objects.addView space view, view)

/-- Choose the view that a workspace shows first, which must be one of its own. -/
def setPrimaryView (objects : Objects) (space : SpaceId) (id : ViewId) : Except Fault Objects :=
  if id ∈ ((objects.space? space).map Space.views).getD [] then
    .ok (objects.modifySpace space fun space => { space with primary := some id })
  else
    .error (.foreignView (((objects.view? id).map fun view => view.name.text).getD ""))

end Objects

/-- The workspace that is made first. -/
def rootSpace : SpaceId := ⟨0⟩

/-- A step in building a workspace, with names of a type. Views are made detached and then added. -/
inductive Edit (τ : Type) where
  | createJob (group : GroupId) (name : τ) (displayName : Option String) (disabled : Bool)
      (id : Option Int)
  | createFolder (group : GroupId) (name : τ) (displayName : Option String) (id : Option Int)
  | newView (name : τ) (id : Option Int)
  | addView (view : ViewId)
  | listItem (view : ViewId) (item : ItemId)
  | unlistItem (view : ViewId) (item : ItemId)
  | setDisplayName (item : ItemId) (value : Option String)
  | setDisabled (item : ItemId) (disabled : Bool)
  | setPrimaryView (view : ViewId)

namespace Edit

variable {τ σ : Type}

/-- The name that an edit gives. -/
def name? : Edit τ → Option τ
  | .createJob _ name _ _ _ => some name
  | .createFolder _ name _ _ => some name
  | .newView name _ => some name
  | _ => none

/-- The same edit with another name. -/
def map (rename : τ → σ) : Edit τ → Edit σ
  | .createJob group name displayName disabled id =>
      .createJob group (rename name) displayName disabled id
  | .createFolder group name displayName id => .createFolder group (rename name) displayName id
  | .newView name id => .newView (rename name) id
  | .addView view => .addView view
  | .listItem view item => .listItem view item
  | .unlistItem view item => .unlistItem view item
  | .setDisplayName item value => .setDisplayName item value
  | .setDisabled item disabled => .setDisabled item disabled
  | .setPrimaryView view => .setPrimaryView view

/-- Carry out an edit, or refuse it. -/
def apply (objects : Objects) : Edit String → Except Fault Objects
  | .createJob group name displayName disabled id =>
      (objects.createJob group name displayName disabled id).map Prod.fst
  | .createFolder group name displayName id =>
      (objects.createFolder group name displayName id).map Prod.fst
  | .newView name id => (Objects.listView name id).map fun view => (objects.newView view).1
  | .addView view => objects.addView rootSpace view
  | .listItem view item => .ok (objects.modifyView view fun view => view.add item)
  | .unlistItem view item => .ok (objects.modifyView view fun view => view.remove item)
  | .setDisplayName item value => .ok (objects.modifyItem item fun item => item.withDisplayName value)
  | .setDisabled item disabled => .ok (objects.modifyItem item fun item => item.withDisabled disabled)
  | .setPrimaryView view => objects.setPrimaryView rootSpace view

end Edit

end Wayfinder.Workspace
