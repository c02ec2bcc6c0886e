import Wayfinder.Workspace.Objects

/-!
# Finding items

Items are found by their full name, one name after another from the top level, and listed depth first.
What is looked for may be a broken text.
-/

namespace Wayfinder.Workspace.Objects

open Text (Wide)

/-- The item at the end of a path of names below a group. Every item on the way but the last must be
a folder. -/
def follow? (objects : Objects) (group : GroupId) : List String → Option ItemId
  | [] => none
  | [name] => objects.child? group name
  | name :: rest =>
    ((objects.child? group name).bind objects.group?).bind fun group => objects.follow? group rest

/-- The item of a full name in a workspace. Slashes at the ends do not count. -/
def byFullName? (objects : Objects) (space : SpaceId) (fullName : String) : Option ItemId :=
  objects.follow? (.space space) (Path.names fullName)

/-- The item of a name in a group. -/
def childWide? (objects : Objects) (group : GroupId) (name : Wide) : Option ItemId :=
  (objects.members group).find? fun id =>
    match objects.item? id with
    | some item => .sound item.name.text == name
    | none => false

/-- The item at the end of a path of names below a group. -/
def followWide? (objects : Objects) (group : GroupId) : List Wide → Option ItemId
  | [] => none
  | [name] => objects.childWide? group name
  | name :: rest =>
    ((objects.childWide? group name).bind objects.group?).bind fun group => objects.followWide? group rest

/-- The item of a full name in a workspace. -/
def byWideName? (objects : Objects) (space : SpaceId) : Wide → Option ItemId
  | .sound fullName => objects.byFullName? space fullName
  | .broken fullName _ => objects.followWide? (.space space) (Path.brokenNames fullName)

/-- The view of a name in a workspace. -/
def viewWideNamed? (objects : Objects) (space : SpaceId) (name : Wide) : Option ViewId :=
  (((objects.space? space).map Space.views).getD []).find? fun id =>
    match objects.view? id with
    | some view => .sound view.name.text == name
    | none => false

/-- The group of a full name: a folder, or the workspace itself for no name. -/
def folderNamed (objects : Objects) (space : SpaceId) (fullName : Option String) :
    Except Fault GroupId :=
  match nonEmpty? fullName with
  | none => .ok (.space space)
  | some fullName =>
    match objects.byFullName? space fullName with
    | none => .error (.noItem fullName)
    | some id =>
      match objects.group? id with
      | some group => .ok group
      | none => .error (.notFolder fullName)

/-- The group of a full name that may be broken. -/
def folderWideNamed (objects : Objects) (space : SpaceId) : Option Wide → Except Fault GroupId
  | none => .ok (.space space)
  | some (.sound fullName) => objects.folderNamed space (some fullName)
  | some (.broken fullName isBroken) =>
    match objects.byWideName? space (.broken fullName isBroken) with
    | none => .error (.noBrokenItem fullName)
    | some id =>
      match objects.group? id with
      | some group => .ok group
      | none => .error (.notBrokenFolder fullName)

/-- A list of items, each followed by everything below it. A folder of `unentered` is entered once on
the way down, so that a folder inside itself is not entered again. -/
def descend (objects : Objects) (unentered : List ItemId) : List ItemId → List ItemId
  | [] => []
  | id :: rest =>
    id :: (if _member : id ∈ unentered then
        objects.descend (unentered.erase id) (objects.members (.folder id))
      else []) ++ objects.descend unentered rest
  termination_by items => (unentered.length, items.length)
  decreasing_by
    · apply Prod.Lex.left
      have positive := List.length_pos_of_mem _member
      rw [List.length_erase_of_mem _member]
      omega
    · apply Prod.Lex.right
      simp

/-- Every item below a group, depth first. -/
def allItems (objects : Objects) (group : GroupId) : List ItemId :=
  let unentered := match group with
    | .folder id => objects.itemIds.erase id
    | .space _ => objects.itemIds
  objects.descend unentered (objects.members group)

end Wayfinder.Workspace.Objects
