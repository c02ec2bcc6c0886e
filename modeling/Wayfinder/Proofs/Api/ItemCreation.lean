import Mathlib
import Wayfinder.Proofs.Api.Payloads
import Wayfinder.Proofs.Api.Routing
import Wayfinder.Proofs.Api.Runs
import Wayfinder.Proofs.Storage.NewItems
import Wayfinder.Proofs.Storage.SimulatedCreation

/-!
# Items as clients create them

A request for a new item is answered by the first thing that speaks against it: its body, the folder it
names, the name that is taken there, or a text that the database cannot take. Otherwise it is answered by
the page of the item, which a snapshot made afterwards finds by its full name.
-/

namespace Wayfinder.Api

open Input Storage Workspace
open Text (Wide)

section Statuses

variable {objects : Objects} {create : ItemCreate}

end Statuses

section Served

variable {objects : Objects} {tables : Tables} (portrays : Portrays objects tables)
  (wellFormed : tables.WellFormed) (tree : objects.IsTree)

include portrays wellFormed tree

end Served

end Wayfinder.Api
