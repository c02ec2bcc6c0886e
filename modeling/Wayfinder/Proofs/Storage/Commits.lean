import Wayfinder.Proofs.Storage.Soundness

/-!
# What a commit has done

An operation that is carried out has changed the rows in one way. Each is read here once, so that no
later proof looks at the steps of an operation.
-/

namespace Wayfinder.Storage

variable {tables : Tables}

theorem of?_of_requireName {name : String} (accepted : requireName name = .ok ()) :
    NameFault.of? name = none := by
  unfold requireName at accepted
  cases checked : Workspace.checkName name with
  | error fault =>
      rw [checked] at accepted
      cases accepted
  | ok named => exact Workspace.of?_of_checkName checked

namespace Tables

/-- The parent of a new item is a stored folder. -/
theorem folder_of_parentFolder {overlooked parent : Option String} {id : Int}
    (found : tables.parentFolder overlooked parent = .ok (some id)) :
    ∃ folder ∈ tables.items, folder.id = id ∧ folder.kind = .folder := by
  unfold parentFolder at found
  split at found
  case h_1 => cases found
  case h_2 fullName _ =>
    obtain ⟨row, there, found⟩ := bind_eq_ok_iff.mp found
    split at found
    case h_1 isFolder =>
      cases found
      exact ⟨row, mem_of_getItem there, rfl, isFolder⟩
    case h_2 => cases found

theorem mem_of_getItems {fullNames : List String} {rows : List ItemRow}
    (found : tables.getItems fullNames = .ok rows) : ∀ row ∈ rows, row ∈ tables.items := by
  induction fullNames generalizing rows with
  | nil =>
      cases found
      simp
  | cons fullName fullNames ih =>
      rw [getItems, List.mapM_cons] at found
      obtain ⟨first, there, found⟩ := bind_eq_ok_iff.mp found
      obtain ⟨rest, others, found⟩ := bind_eq_ok_iff.mp found
      cases found
      intro row member
      rcases List.mem_cons.mp member with rfl | member
      · exact mem_of_getItem there
      · exact ih others row member

/-- A view that is found is stored under its name. -/
theorem mem_of_findView {name : String} {row : ViewRow}
    (found : tables.findView name = .ok (some row)) : row ∈ tables.views ∧ row.name = name := by
  unfold findView at found
  split at found
  case h_1 => cases found
  case h_2 only =>
    cases found
    have member : row ∈ [row] := by simp
    rw [← only] at member
    simpa using List.mem_filter.mp member
  case h_3 => cases found

theorem mem_of_getView {name : String} {row : ViewRow} (found : tables.getView name = .ok row) :
    row ∈ tables.views ∧ row.name = name := by
  obtain ⟨view, looked, found⟩ := bind_eq_ok_iff.mp found
  cases view with
  | none => cases found
  | some view =>
      cases found
      exact mem_of_findView looked

end Tables

namespace Database

theorem getItem_of_tables (fullName : String) :
    (⟨some tables⟩ : Database).getItem fullName = tables.getItem fullName none := by
  simp only [Database.getItem, Database.tables, bind, Except.bind]

theorem getView_of_tables (name : String) :
    (⟨some tables⟩ : Database).getView name = tables.getView name := by
  simp only [Database.getView, Database.tables, bind, Except.bind]

theorem createItem_commit {overlooked : Option String} {missed : Bool} {name : String}
    {kind : ItemKind} {displayName parent : Option String} {commit : Commit ItemRow}
    (created : (⟨some tables⟩ : Database).createItemOverlooking overlooked missed name kind displayName
      parent = .ok commit) :
    ∃ parentId changed, NameFault.of? name = none ∧
      tables.parentFolder overlooked parent = .ok parentId ∧
      commit.value =
        ⟨tables.nextItemId, parentId, kind, name, Workspace.nonEmpty? displayName, false⟩ ∧
      tables.insertItem commit.value = some changed ∧ commit.database = ⟨some changed⟩ := by
  obtain ⟨⟨⟩, accepted, created⟩ := bind_eq_ok_iff.mp created
  obtain ⟨_, there, created⟩ := bind_eq_ok_iff.mp created
  cases there
  obtain ⟨parentId, found, created⟩ := bind_eq_ok_iff.mp created
  obtain ⟨taken, -, created⟩ := bind_eq_ok_iff.mp created
  split at created
  · cases created
  · dsimp only at created
    split at created
    case h_1 => cases created
    case h_2 changed inserted =>
      cases created
      exact ⟨parentId, changed, of?_of_requireName accepted, found, rfl, inserted, rfl⟩

theorem updateItem_commit {fullName : String} {changes : ItemChanges} {commit : Commit ItemRow}
    (updated : (⟨some tables⟩ : Database).updateItem fullName changes = .ok commit) :
    ∃ row, tables.getItem fullName none = .ok row ∧
      ((changes.disabled.bind id).isSome = true → row.kind = .job) ∧
      commit.database = ⟨some { tables with
        items := tables.items.map fun other =>
          if other.id == row.id then changes.apply row else other }⟩ := by
  obtain ⟨_, there, updated⟩ := bind_eq_ok_iff.mp updated
  cases there
  obtain ⟨row, found, updated⟩ := bind_eq_ok_iff.mp updated
  split at updated
  case isTrue => cases updated
  case isFalse allowed =>
    cases updated
    refine ⟨row, found, ?_, rfl⟩
    intro asked
    cases kind : row.kind with
    | job => rfl
    | folder => exact absurd (by rw [asked, kind]; rfl) allowed

theorem deleteItem_commit {fullName : String} {commit : Commit Unit}
    (deleted : (⟨some tables⟩ : Database).deleteItem fullName = .ok commit) :
    ∃ row, tables.getItem fullName none = .ok row ∧
      commit.database = ⟨some (tables.eraseItems (descendantIds tables.items row.id))⟩ := by
  obtain ⟨_, there, deleted⟩ := bind_eq_ok_iff.mp deleted
  cases there
  obtain ⟨row, found, deleted⟩ := bind_eq_ok_iff.mp deleted
  cases deleted
  exact ⟨row, found, rfl⟩

theorem setPrimaryView_commit {name : String} {commit : Commit ViewRow}
    (chosen : (⟨some tables⟩ : Database).setPrimaryView name = .ok commit) :
    ∃ row, tables.getView name = .ok row ∧ commit.value = { row with isPrimary := true } ∧
      commit.database = ⟨some (tables.choosePrimary row.id)⟩ := by
  obtain ⟨_, there, chosen⟩ := bind_eq_ok_iff.mp chosen
  cases there
  obtain ⟨row, found, chosen⟩ := bind_eq_ok_iff.mp chosen
  cases chosen
  exact ⟨row, found, rfl, rfl⟩

/-- A view is stored, then its memberships; then it may be chosen as the primary one. -/
theorem createView_commit {name : String} {members : List String} {primary overlook : Bool}
    {commit : Commit ViewRow}
    (created : (⟨some tables⟩ : Database).createView name members primary overlook = .ok commit) :
    ∃ items viewed changed, NameFault.of? name = none ∧ tables.getItems members = .ok items ∧
      tables.insertView ⟨tables.nextViewId, name, false⟩ = some viewed ∧
      viewed.insertMembers
        ((items.map ItemRow.id).eraseDups.map fun item => ⟨tables.nextViewId, item⟩) = some changed ∧
      (primary = false ∧ commit.value = ⟨tables.nextViewId, name, false⟩ ∧
          commit.database = ⟨some changed⟩ ∨
        primary = true ∧ ∃ row, changed.getView name = .ok row ∧
          commit.value = { row with isPrimary := true } ∧
          commit.database = ⟨some (changed.choosePrimary row.id)⟩) := by
  obtain ⟨⟨⟩, accepted, created⟩ := bind_eq_ok_iff.mp created
  obtain ⟨_, there, created⟩ := bind_eq_ok_iff.mp created
  cases there
  obtain ⟨taken, -, created⟩ := bind_eq_ok_iff.mp created
  split at created
  · cases created
  · obtain ⟨items, found, created⟩ := bind_eq_ok_iff.mp created
    dsimp only at created
    split at created
    case h_1 => cases created
    case h_2 changed stored =>
      obtain ⟨viewed, inserted, listed⟩ := Option.bind_eq_some_iff.mp stored
      refine ⟨items, viewed, changed, of?_of_requireName accepted, found, inserted, listed, ?_⟩
      cases primary with
      | true =>
          obtain ⟨chosen, set, created⟩ := bind_eq_ok_iff.mp created
          cases created
          obtain ⟨row, there, value, after⟩ := setPrimaryView_commit set
          exact .inr ⟨rfl, row, there, value, after⟩
      | false =>
          cases created
          exact .inl ⟨rfl, rfl, rfl⟩

theorem addViewMember_commit {name fullName : String} {commit : Commit Unit}
    (added : (⟨some tables⟩ : Database).addViewMember name fullName = .ok commit) :
    ∃ view item, tables.getView name = .ok view ∧ tables.getItem fullName none = .ok item ∧
      (⟨view.id, item.id⟩ ∈ tables.members ∧ commit.database = ⟨some tables⟩ ∨ ∃ changed,
        tables.insertMember ⟨view.id, item.id⟩ = some changed ∧ commit.database = ⟨some changed⟩) := by
  obtain ⟨_, there, added⟩ := bind_eq_ok_iff.mp added
  cases there
  obtain ⟨view, viewed, added⟩ := bind_eq_ok_iff.mp added
  obtain ⟨item, found, added⟩ := bind_eq_ok_iff.mp added
  refine ⟨view, item, viewed, found, ?_⟩
  dsimp only at added
  split at added
  case isTrue listed =>
    cases added
    exact .inl ⟨listed, rfl⟩
  case isFalse =>
    obtain ⟨after, stored, added⟩ := bind_eq_ok_iff.mp added
    cases added
    cases inserted : tables.insertMember ⟨view.id, item.id⟩ with
    | none =>
        rw [inserted] at stored
        cases stored
    | some changed =>
        rw [inserted] at stored
        cases stored
        exact .inr ⟨changed, rfl, rfl⟩

end Database

end Wayfinder.Storage
