import Wayfinder.Name
import Wayfinder.Text.Percent

/-!
# Full names, display paths and addresses

An item is located by the names from the top level down to it. Three texts write that location: the
full name (names between slashes), the display path (display names between guillemets) and the
address, in which every name is percent-encoded behind a `job` segment. A view has an address of its
own kind.

Reading a full name ignores slashes at both ends; reading the part of an address behind its first
`job/` demands that names and `job` markers alternate.
-/

namespace Wayfinder.Path

/-- The parts of a list between separators: one more than there are separators. -/
def split {α : Type} [DecidableEq α] (separator : α) : List α → List (List α)
  | [] => [[]]
  | c :: rest =>
    if c = separator then [] :: split separator rest
    else match split separator rest with
      | [] => [[c]]
      | part :: parts => (c :: part) :: parts

theorem split_ne_nil {α : Type} [DecidableEq α] (separator : α) (elements : List α) :
    split separator elements ≠ [] := by
  induction elements with
  | nil => simp [split]
  | cons c rest ih =>
    unfold split
    split
    · simp
    · split <;> simp

/-- The text that has the given parts between its separators. -/
def join (separator : String) (parts : List String) : String :=
  String.ofList (List.intercalate separator.toList (parts.map String.toList))

/-- A text without the slashes at its ends. -/
def trim (text : String) : String :=
  String.ofList (Text.stripWhere (· == '/') text.toList)

/-- The names that a full name lists, the topmost first. -/
def names (fullName : String) : List String :=
  (split '/' (trim fullName).toList).map String.ofList

/-- The names that a broken full name lists, read alike. -/
def brokenNames (fullName : List Text.Glyph) : List Text.Wide :=
  (split (.char '/') (Text.stripWhere (· == .char '/') fullName)).map Text.Wide.ofGlyphs

/-- The names that a full name of either kind lists. -/
def wideNames : Text.Wide → List Text.Wide
  | .sound fullName => (names fullName).map .sound
  | .broken fullName _ => brokenNames fullName

/-- The full name that lists the given names. -/
def ofNames (names : List String) : String :=
  join "/" names

/-- The display path that lists the given display names. -/
def displayOf (displayNames : List String) : String :=
  join " » " displayNames

/-- The names in a list where they alternate with `job` markers and stand at both ends. -/
def dropMarkers : List String → Option (List String)
  | [] => none
  | [name] => some [name]
  | name :: marker :: rest =>
    if marker = "job" then (dropMarkers rest).map (name :: ·) else none

/-- The full name at the part of an item's address behind its first `job/`. -/
def ofJobPath? (path : String) : Option String :=
  match names path with
  | [] => none
  | first :: rest => if first = "" then none else (dropMarkers (first :: rest)).map ofNames

/-- The address of the item under the given names, the topmost first. -/
def itemAddress (names : List String) : String :=
  String.join (names.map fun name => "job/" ++ Text.Percent.encode name ++ "/")

/-- The address of the view of the given name. -/
def viewAddress (name : String) : String :=
  "view/" ++ Text.Percent.encode name ++ "/"

end Wayfinder.Path
