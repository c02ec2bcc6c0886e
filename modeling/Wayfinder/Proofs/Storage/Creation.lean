import Wayfinder.Proofs.Storage.Agreement

/-!
# Creating an item in the database and in memory

The database makes the checks that a workspace in memory makes, in the same order, and what it then
stores is read back as the item that the workspace would have made: behind all others of its group, and
with the largest identifier.
-/

namespace Wayfinder.Storage

open Workspace

/-- What a new item of a kind is: a job that is enabled, or a folder that holds nothing. -/
def ItemKind.newBody : ItemKind → ItemBody
  | .job => .job false
  | .folder => .folder []

/-- Make a job or a folder in a group of items. -/
def makeItem (objects : Objects) (kind : ItemKind) (group : GroupId) (name : String)
    (displayName : Option String) (key : Int) : Except Fault (Objects × ItemId) :=
  match kind with
  | .job => objects.createJob group name displayName false (some key)
  | .folder => objects.createFolder group name displayName (some key)

/-- Objects to which an item with the key `key` was added, and nothing else. -/
structure Adds (objects changed : Objects) (group : GroupId) (id : ItemId) (item : Item) (key : Int) :
    Prop where
  added : changed.item? id = some { item with parent := some group }
  /-- No other item has a key as large. -/
  largest : ∀ other old oldKey, objects.item? other = some old → old.id = some oldKey → oldKey < key
  /-- The group holds the item last; all others hold what they held. -/
  members : ∀ other, changed.members other =
    if other = group then objects.members group ++ [id] else objects.members other
  /-- The other items are as they were, but for what the group holds. -/
  others : ∀ other ≠ id,
    changed.item? other = (objects.item? other).map (Objects.grownBy group id other)
  /-- The views list what they listed, which is not the new item. -/
  views : changed.views = objects.views
  unlisted : ∀ view ∈ objects.views, id ∉ view.members
  viewsOf : ∀ space, changed.viewsOf space = objects.viewsOf space
  /-- The choice of the primary view is as it was. -/
  primary : ∀ space, (changed.space? space).map Space.primary = (objects.space? space).map Space.primary

variable {tables : Tables} {objects : Objects}

/-- The folder of a new item is looked up alike. -/
theorem Portrays.folderNamed_eq (portrays : Portrays objects tables) (wellFormed : tables.WellFormed)
    (parent : Option String) :
    (∃ fault, tables.parentFolder none parent = refuse fault ∧
      objects.folderNamed snapshotSpace parent = .error fault) ∨
    ∃ id, tables.parentFolder none parent = .ok id ∧ Houses tables.items id ∧
      objects.folderNamed snapshotSpace parent = .ok (groupOf tables.items id) := by
  unfold Tables.parentFolder Objects.folderNamed
  cases nonEmpty? parent with
  | none => exact .inr ⟨none, rfl, houses_none tables.items, rfl⟩
  | some fullName =>
      dsimp only
      rw [wellFormed.getItem_eq, portrays.byFullName?_eq wellFormed]
      cases found : tables.follow? none (Path.names fullName) with
      | none => exact .inl ⟨_, rfl, rfl⟩
      | some row =>
          have stored := Tables.mem_of_follow? found
          simp only [Option.map_some, portrays.group?_objectOf stored]
          cases kind : row.kind with
          | job =>
              left
              refine ⟨.notFolder fullName, ?_, rfl⟩
              simp only [bind, Except.bind, kind]
          | folder =>
              right
              refine ⟨some row.id, ?_, ?_, rfl⟩
              · simp only [bind, Except.bind, kind]
                rfl
              · rintro _ ⟨⟩
                exact ⟨row, stored, rfl, kind⟩

/-- The row of a new item. -/
def Tables.newRow (tables : Tables) (parent : Option Int) (kind : ItemKind) (name : String)
    (displayName : Option String) : ItemRow :=
  ⟨tables.nextItemId, parent, kind, name, nonEmpty? displayName, false⟩

theorem Tables.insertItem_newRow {parent : Option Int} (kind : ItemKind) {name : String}
    (displayName : Option String) (free : tables.child? parent name = none) :
    tables.insertItem (tables.newRow parent kind name displayName) =
      some { tables with items := tables.items ++ [tables.newRow parent kind name displayName] } := by
  have larger : ∀ other ∈ tables.items, other.id < tables.nextItemId := by
    intro other stored
    exact Tables.lt_nextItemId stored
  have fits : ¬(tables.items.any
      (tables.itemsClash (tables.newRow parent kind name displayName))) = true := by
    intro clash
    obtain ⟨other, stored, both⟩ := List.any_eq_true.mp clash
    have differ := List.find?_eq_none.mp free other stored
    have smaller := larger other stored
    simp only [itemsClash, newRow, Bool.or_eq_true, Bool.and_eq_true, beq_iff_eq] at both differ
    rcases both with same | same
    · omega
    · exact differ ⟨same.1.1.symm, same.1.2.symm⟩
  rw [insertItem, if_neg fits, insertOrdered_last]
  intro other stored
  exact decide_eq_true (larger other stored)

section Outcomes

variable {name : String} (kind : ItemKind) (displayName : Option String) {parent : Option String}

theorem createItem_of_fault {fault : Fault} (checked : checkName name = .error fault) :
    (⟨some tables⟩ : Database).createItem name kind displayName parent false = refuse fault := by
  rw [Database.createItem, Database.createItemOverlooking, requireName, checked]
  rfl

variable {checked : Name} (accepted : checkName name = .ok checked)

include accepted

theorem createItem_of_parent {fault : Fault} (found : tables.parentFolder none parent = refuse fault) :
    (⟨some tables⟩ : Database).createItem name kind displayName parent false = refuse fault := by
  rw [Database.createItem, Database.createItemOverlooking, requireName, accepted]
  simp only [Bool.false_eq_true, if_false, Database.tables, bind, Except.bind, found]
  rfl

variable {id : Option Int} (found : tables.parentFolder none parent = .ok id)

include found

theorem createItem_of_taken {row : ItemRow} (taken : tables.findChild none id name = .ok (some row)) :
    (⟨some tables⟩ : Database).createItem name kind displayName parent false =
      refuse (.duplicateItem name) := by
  rw [Database.createItem, Database.createItemOverlooking, requireName, accepted]
  simp only [Bool.false_eq_true, if_false, Database.tables, bind, Except.bind, found, taken]
  rfl

theorem createItem_of_free {changed : Tables} (free : tables.findChild none id name = .ok none)
    (inserted : tables.insertItem (tables.newRow id kind name displayName) = some changed) :
    ∃ commit, (⟨some tables⟩ : Database).createItem name kind displayName parent false = .ok commit ∧
      commit.value = tables.newRow id kind name displayName ∧ commit.database = ⟨some changed⟩ := by
  rw [Database.createItem, Database.createItemOverlooking, requireName, accepted]
  rw [Tables.newRow] at inserted
  simp only [Bool.false_eq_true, if_false, Database.tables, bind, Except.bind, found, free,
    Option.isSome_none, inserted]
  exact ⟨_, rfl, rfl, rfl⟩

end Outcomes

/-- The item that is made in memory. -/
theorem makeItem_eq (objects : Objects) (kind : ItemKind) (group : GroupId) {name : String}
    {checked : Name} (displayName : Option String) (key : Int)
    (accepted : checkName name = .ok checked) :
    makeItem objects kind group name displayName key =
      objects.createItem group
        { name := checked, displayName := nonEmpty? displayName, id := some key,
          body := kind.newBody } := by
  cases kind with
  | job =>
      simp only [makeItem, Objects.createJob, Objects.job, accepted, Except.map, bind, Except.bind]
      rfl
  | folder =>
      simp only [makeItem, Objects.createFolder, Objects.folder, accepted, Except.map, bind, Except.bind]
      rfl

/-- A row that the database puts behind all others is that of an item which can be made in memory. -/
theorem Portrays.row_of_createItem (portrays : Portrays objects tables)
    (wellFormed : tables.WellFormed) {name : String} {kind : ItemKind}
    {displayName parent : Option String} {commit : Commit ItemRow}
    (created : (⟨some tables⟩ : Database).createItem name kind displayName parent false = .ok commit) :
    ∃ id checked, checkName name = .ok checked ∧
      objects.folderNamed snapshotSpace parent = .ok (groupOf tables.items id) ∧
      Houses tables.items id ∧ tables.child? id name = none ∧
      commit.value = tables.newRow id kind name displayName ∧
      commit.database = ⟨some { tables with items := tables.items ++ [commit.value] }⟩ := by
  cases accepted : checkName name with
  | error fault =>
      rw [createItem_of_fault kind displayName accepted] at created
      cases created
  | ok checked =>
      rcases portrays.folderNamed_eq wellFormed parent with
        ⟨fault, stored, -⟩ | ⟨id, stored, houses, held⟩
      · rw [createItem_of_parent kind displayName accepted stored] at created
        cases created
      · have lookup := wellFormed.findChild_eq none id name
        rw [if_neg (by simp)] at lookup
        cases free : tables.child? id name with
        | some taken =>
            rw [free] at lookup
            rw [createItem_of_taken kind displayName accepted stored lookup] at created
            cases created
        | none =>
            rw [free] at lookup
            obtain ⟨other, created', value, after⟩ := createItem_of_free kind displayName accepted stored
              lookup (Tables.insertItem_newRow kind displayName free)
            cases created.symm.trans created'
            exact ⟨id, checked, rfl, held, houses, free, value, by rw [after, value]⟩

theorem detached_of_enabled (row : ItemRow) (name : Name) (enabled : row.disabled = false) :
    detached row name =
      { name, displayName := row.displayName, id := some row.id, body := row.kind.newBody } := by
  cases kind : row.kind <;>
    simp [detached, itemFor, bodyOf, kind, enabled, ItemKind.newBody, childrenOf]

/-- No view lists an item that is not stored yet. -/
theorem Tables.WellFormed.listedItems_concat (wellFormed : tables.WellFormed) {row : ItemRow}
    (fresh : row.id ∉ tables.items.map ItemRow.id) (view : Int) :
    ({ tables with items := tables.items ++ [row] } : Tables).listedItems view =
      tables.listedItems view := by
  have unlisted : tables.members.contains ⟨view, row.id⟩ = false := by
    rw [List.contains_eq_mem, decide_eq_false_iff_not]
    intro member
    obtain ⟨-, item, stored, same⟩ := wellFormed.membersStored _ member
    exact fresh (List.mem_map.mpr ⟨item, stored, same⟩)
  rw [Tables.listedItems, List.filter_append, List.filter_singleton, unlisted]
  simp only [cond_false, List.append_nil]
  apply List.map_congr_left
  intro other member
  exact objectOf_append (List.mem_filter.mp member).1 [row]

/-- Making the item of a new row in memory gives the portrait of the rows with the new one behind. -/
theorem Portrays.createItem (portrays : Portrays objects tables) (wellFormed : tables.WellFormed)
    (row : ItemRow) (name : Name) (next : row.id = tables.nextItemId)
    (houses : Houses tables.items row.parentId) (text : name.text = row.name)
    (free : tables.child? row.parentId row.name = none) :
    ∃ changed, objects.createItem (groupOf tables.items row.parentId) (detached row name) =
        .ok (changed, ⟨tables.items.length⟩) ∧
      Portrays changed { tables with items := tables.items ++ [row] } ∧
      Adds objects changed (groupOf tables.items row.parentId) ⟨tables.items.length⟩
        (detached row name) row.id := by
  have smaller : ∀ other ∈ tables.items, other.id < row.id := by
    intro other stored
    rw [next]
    exact Tables.lt_nextItemId stored
  have fresh : row.id ∉ tables.items.map ItemRow.id := by
    intro member
    obtain ⟨other, stored, same⟩ := List.mem_map.mp member
    exact absurd same (Int.ne_of_lt (smaller other stored))
  have differ : ∀ other ∈ tables.items, other.parentId = row.parentId → other.name ≠ row.name := by
    intro other stored sibling same
    have fits := List.find?_eq_none.mp free other stored
    simp [sibling, same] at fits
  obtain ⟨changed, created, items, views, spaces⟩ := portrays.toPortraysItems.createItem_eq row name
    wellFormed.grounded portrays.spaces rfl fresh houses text differ
  have listed : ({ tables with items := tables.items ++ [row] } : Tables).listedItems =
      tables.listedItems := funext (wellFormed.listedItems_concat fresh)
  have there := portrays.hasGroup_groupOf portrays.spaces houses
  have placed := Objects.createItem_placed there (items_detached row name) created
  refine ⟨changed, created, ⟨items, ?_, spaces⟩, ?_⟩
  · rw [listed]
    exact portrays.toPortraysViews.of_views views
  constructor
  case added => exact placed.item?_new
  case largest =>
    intro other old oldKey found key
    obtain ⟨row, stored, name, rfl⟩ := portrays.exists_row_of_item found
    cases key
    exact smaller row stored
  case members => exact placed.members
  case others => exact placed.item?_old
  case views => exact views
  case unlisted =>
    intro view member listed
    obtain ⟨row, -, name, rfl⟩ := portrays.exists_row_of_view member
    obtain ⟨item, chosen, same⟩ := List.mem_map.mp listed
    have bound := index_objectOf_lt (List.mem_filter.mp chosen).1
    rw [same] at bound
    exact Nat.lt_irrefl _ bound
  case viewsOf => exact placed.viewsOf
  case primary =>
    intro space
    obtain ⟨index⟩ := space
    rw [Objects.space?, Objects.space?, spaces, portrays.spaces]
    cases index <;> rfl

/-- What the database stores of a new item, and what making it in the snapshot comes to. -/
structure MakesAlike (objects changed : Objects) (name : String) (kind : ItemKind)
    (displayName : Option String) (group : GroupId) (id : ItemId) (key : Int) : Prop where
  made : makeItem objects kind group name displayName key = .ok (changed, id)
  adds : ∃ checked : Name, checked.text = name ∧ Adds objects changed group id
    { name := checked, displayName := nonEmpty? displayName, id := some key, body := kind.newBody } key

theorem Portrays.makesAlike (portrays : Portrays objects tables) (wellFormed : tables.WellFormed)
    {name : String} {kind : ItemKind} {displayName parent : Option String} {commit : Commit ItemRow}
    (created : (⟨some tables⟩ : Database).createItem name kind displayName parent false = .ok commit) :
    ∃ changed group id, commit.database.load.result = .ok changed ∧
      objects.folderNamed snapshotSpace parent = .ok group ∧
      MakesAlike objects changed name kind displayName group id commit.value.id := by
  obtain ⟨id, checked, accepted, held, houses, free, value, after⟩ :=
    portrays.row_of_createItem wellFormed created
  have text : checked.text = name := (checkName_eq_ok_iff.mp accepted).symm
  have row : commit.value.parentId = id ∧ commit.value.kind = kind ∧ commit.value.name = name ∧
      commit.value.displayName = nonEmpty? displayName ∧ commit.value.disabled = false := by
    rw [value]
    exact ⟨rfl, rfl, rfl, rfl, rfl⟩
  obtain ⟨rfl, rfl, named, shown, enabled⟩ := row
  obtain ⟨changed, made, portrays', adds⟩ := portrays.createItem wellFormed commit.value checked
    (by rw [value]; rfl) houses (text.trans named.symm) (by rw [named]; exact free)
  rw [detached_of_enabled _ _ enabled, shown] at made adds
  obtain ⟨grown, database, succeeds⟩ := wellFormed.succeeds_createItem created
  obtain ⟨objects', loaded, portrays''⟩ := succeeds.wellFormed.load_portrays
  have same : grown = { tables with items := tables.items ++ [commit.value] } := by
    rw [database] at after
    cases after
    rfl
  rw [same] at portrays''
  cases portrays''.unique portrays'
  refine ⟨changed, _, ⟨tables.items.length⟩, by rw [database, loaded], held, ?_, checked, text, adds⟩
  rw [makeItem_eq objects _ _ displayName _ accepted]
  exact made

end Wayfinder.Storage
