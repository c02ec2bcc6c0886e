import Wayfinder.Proofs.Storage.PortrayedViews
import Wayfinder.Proofs.Storage.Runs

/-!
# Snapshots lose and invent nothing

After any run of operations the snapshot is the portrait of the stored rows. Their order is the order of
their identifiers, which is that of their creation, so the snapshot lists everything as it was created.
-/

namespace Wayfinder.Storage

open Workspace

theorem Tables.WellFormed.load_portrays {tables : Tables} (wellFormed : tables.WellFormed) :
    ∃ objects, (⟨some tables⟩ : Database).load = ⟨[tables.loadedLine], .ok objects⟩ ∧
      Portrays objects tables := by
  obtain ⟨objects, made, portrays⟩ := wellFormed.snapshot_portrays
  refine ⟨objects, ?_, portrays⟩
  rw [Database.load, Database.tables, Traced.ofExcept, silent_bind, made]
  rfl

/-- After any run of operations there is a snapshot, its end is all that is reported, and it is the
portrait of the stored rows. These are the items and the views that were created and not deleted since,
in the order of their creation. -/
theorem load_portrays_run (run : List Operation) :
    ∃ tables objects, databaseAfter run = ⟨some tables⟩ ∧ tables.WellFormed ∧
      tables.itemIds = (Chronicle.ofRun run).items ∧ tables.viewIds = (Chronicle.ofRun run).views ∧
      (databaseAfter run).load = ⟨[tables.loadedLine], .ok objects⟩ ∧ Portrays objects tables := by
  obtain ⟨tables, lists⟩ := Chronicle.lists_ofRun run
  obtain ⟨objects, loaded, portrays⟩ := lists.wellFormed.load_portrays
  have same : databaseAfter run = ⟨some tables⟩ := by
    rw [← lists.database, Chronicle.database_ofRun]
  refine ⟨tables, objects, same, lists.wellFormed, lists.items.symm, lists.views.symm, ?_, portrays⟩
  rw [same]
  exact loaded

end Wayfinder.Storage
