import Wayfinder.Path

/-!
# Workspace faults

Every way in which an operation on a workspace is refused, with its message and its category. The
category decides how a fault is reported to a client.
-/

namespace Wayfinder.Workspace

/-- What a fault is about. `general` is for a fault of no more specific category. -/
inductive FaultCategory where
  | invalidName
  | duplicate
  | notFound
  | invalidParent
  | unsupported
  | general
  deriving DecidableEq, Repr

/-- A refused operation. A broken text is told by its glyphs; one that is no name has a separator in it. -/
inductive Fault where
  | invalidName (fault : NameFault)
  | brokenName (text : List Text.Glyph)
  | duplicateItem (name : String)
  | duplicateBrokenItem (name : List Text.Glyph)
  | duplicateView (name : String)
  | duplicateBrokenView (name : List Text.Glyph)
  | noItem (fullName : String)
  | noBrokenItem (fullName : List Text.Glyph)
  | noView (name : String)
  | foreignView (name : String)
  | foreignBrokenView (name : List Text.Glyph)
  | notItemPath (path : String)
  | notFolder (fullName : String)
  | notBrokenFolder (fullName : List Text.Glyph)
  | folderNotDisabled (fullName : String)
  deriving DecidableEq, Repr

namespace Fault

def category : Fault → FaultCategory
  | .invalidName _ => .invalidName
  | .brokenName _ => .invalidName
  | .duplicateItem _ | .duplicateBrokenItem _ => .duplicate
  | .duplicateView _ | .duplicateBrokenView _ => .duplicate
  | .noItem _ | .noBrokenItem _ => .notFound
  | .noView _ => .notFound
  | .foreignView _ | .foreignBrokenView _ => .notFound
  | .notItemPath _ => .notFound
  | .notFolder _ | .notBrokenFolder _ => .invalidParent
  | .folderNotDisabled _ => .unsupported

def message : Fault → String
  | .invalidName fault => fault.message
  | .brokenName text => "Name cannot contain '/': " ++ Text.quoteGlyphs text
  | .duplicateItem name => "An item named " ++ Text.quote name ++ " already exists"
  | .duplicateBrokenItem name => "An item named " ++ Text.quoteGlyphs name ++ " already exists"
  | .duplicateView name => "A view named " ++ Text.quote name ++ " already exists"
  | .duplicateBrokenView name => "A view named " ++ Text.quoteGlyphs name ++ " already exists"
  | .noItem fullName => "No item named " ++ Text.quote fullName
  | .noBrokenItem fullName => "No item named " ++ Text.quoteGlyphs fullName
  | .noView name => "No view named " ++ Text.quote name
  | .foreignView name => "View " ++ Text.quote name ++ " does not belong to this workspace"
  | .foreignBrokenView name => "View " ++ Text.quoteGlyphs name ++ " does not belong to this workspace"
  | .notItemPath path => "Not an item path: " ++ Text.quote path
  | .notFolder fullName => Text.quote fullName ++ " is not a folder"
  | .notBrokenFolder fullName => Text.quoteGlyphs fullName ++ " is not a folder"
  | .folderNotDisabled fullName => Text.quote fullName ++ " is a folder and cannot be disabled"

end Fault

/-- The name that a text is, or the fault to report. -/
def checkName (text : String) : Except Fault Name :=
  (Name.parse text).mapError .invalidName

theorem checkName_eq_ok_iff {text : String} {name : Name} :
    checkName text = .ok name ↔ text = name.text := by
  rw [checkName, ← Name.parse_eq_ok_iff]
  cases Name.parse text with
  | error fault =>
    constructor <;> intro accepted <;> cases accepted
  | ok checked =>
    constructor <;> intro accepted <;> cases accepted <;> rfl

theorem of?_of_checkName {text : String} {name : Name} (accepted : checkName text = .ok name) :
    NameFault.of? text = none := by
  rw [checkName_eq_ok_iff.mp accepted, name.sound]

/-- Refuse a text that is no name. Half of a surrogate pair is not blank, so a broken text is a name unless
there is a separator in it. -/
def checkWideName : Text.Wide → Except Fault Unit
  | .sound text => (checkName text).map fun _ => ()
  | .broken glyphs _ => if .char '/' ∈ glyphs then .error (.brokenName glyphs) else .ok ()

/-- The full name at the part of an item's address behind its first `job/`. -/
def fullNameOfJobPath (path : String) : Except Fault String :=
  match Path.ofJobPath? path with
  | some fullName => .ok fullName
  | none => .error (.notItemPath path)

end Wayfinder.Workspace
