import Wayfinder.Text.Quoted

/-!
# Search items

A search item binds one alias of an object, its name or its display name, to the object. Items are
never changed once made, their alias is never empty, and two items count as equal when they point at
the same object, whichever alias made them.
-/

namespace Wayfinder.Search

/-- Which alias of an object made an item. -/
inductive AliasKind where
  | name
  | displayName
  deriving DecidableEq, Repr

/-- Why an item or an index cannot be made or changed. An address cannot be made of a name with half of a
surrogate pair in it. -/
inductive IndexFault where
  | emptyAlias
  | noTarget (name : String)
  | unknownKind (word : String)
  | immutable
  | unencodable (name : List Text.Glyph)
  deriving DecidableEq, Repr

namespace IndexFault

def message : IndexFault → String
  | .emptyAlias => "Search item name cannot be empty"
  | .noTarget name => "A target is required to index the name " ++ Text.quote name
  | .unknownKind word => Text.quote word ++ " is not a valid AliasKind"
  | .immutable => "SearchItem is immutable"
  | .unencodable name => Text.encodingFault name

end IndexFault

namespace AliasKind

/-- The word that writes a kind. -/
def word : AliasKind → String
  | .name => "name"
  | .displayName => "display_name"

/-- The kind that a word writes. -/
def ofWord (word : String) : Except IndexFault AliasKind :=
  if word = AliasKind.name.word then .ok .name
  else if word = AliasKind.displayName.word then .ok .displayName
  else .error (.unknownKind word)

@[simp] theorem ofWord_word (kind : AliasKind) : ofWord kind.word = .ok kind := by
  cases kind <;> rfl

end AliasKind

/-- What search knows of an object: its identity, its aliases and where it is. An object need not
have a display name or a display path. -/
structure Target (κ : Type) where
  key : κ
  name : String
  url : String
  displayName : Option String
  displayPath : Option String
  deriving DecidableEq, Repr

/-- One alias of an object. -/
structure SearchItem (κ : Type) where
  name : String
  url : String
  target : Target κ
  kind : AliasKind
  name_ne_empty : name ≠ ""
  deriving DecidableEq

namespace SearchItem

variable {κ : Type}

/-- An item for an alias, which must not be empty. -/
def make (name url : String) (target : Target κ) (kind : AliasKind) :
    Except IndexFault (SearchItem κ) :=
  if empty : name = "" then .error .emptyAlias else .ok ⟨name, url, target, kind, empty⟩

/-- Where the target is, for a reader: its display path, or the alias when it has none. -/
def path (item : SearchItem κ) : String :=
  match item.target.displayPath with
  | some path => if path = "" then item.name else path
  | none => item.name

/-- Changing a field is refused, whichever field it is. -/
def withField (_item : SearchItem κ) (_field : String) : Except IndexFault (SearchItem κ) :=
  .error .immutable

/-- Whether two items point at the same object. -/
def sameTarget [DecidableEq κ] (left right : SearchItem κ) : Bool :=
  decide (left.target.key = right.target.key)

/-- Whether an item points at the given object. -/
def refersTo [DecidableEq κ] (item : SearchItem κ) (key : κ) : Bool :=
  decide (item.target.key = key)

/-- How many different objects the items point at. -/
def countTargets [DecidableEq κ] (items : List (SearchItem κ)) : Nat :=
  (items.map fun item => item.target.key).eraseDups.length

/-- Whether two items bind the same alias to the same object. -/
def sameAlias [DecidableEq κ] (left right : SearchItem κ) : Bool :=
  decide (left.target.key = right.target.key ∧ left.kind = right.kind ∧ left.name = right.name)

/-- The item as messages show it. -/
def describe (item : SearchItem κ) : String :=
  "<SearchItem(name=" ++ Text.quote item.name ++ ", kind=" ++ item.kind.word ++ ", url=" ++
    Text.quote item.url ++ ")>"

end SearchItem

namespace Target

variable {κ : Type}

/-- The items of an object: its name and, when it has one that differs, its display name. -/
def aliases (target : Target κ) : Except IndexFault (List (SearchItem κ)) := do
  let named ← SearchItem.make target.name target.url target .name
  match target.displayName with
  | none => return [named]
  | some display =>
    if empty : display = "" then return [named]
    else if display = target.name then return [named]
    else return [named, ⟨display, target.url, target, .displayName, empty⟩]

end Target

end Wayfinder.Search
