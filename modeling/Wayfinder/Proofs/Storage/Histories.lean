import Mathlib.Data.List.Induction
import Wayfinder.Proofs.Storage.Memberships

/-!
# Members are the items that were asked for

The identifier of a deleted item may be given again, and its place may be taken by another item. What is
listed goes by what has happened since the item that is there now was created: it is a member of a view
if and only if an operation has asked for it since, and what is below it was created after it.
-/

namespace Wayfinder.Storage

open Workspace

/-- Whether the item of a full name has a given identifier after a run. -/
def Stands (run : List Operation) (fullName : String) (id : Int) : Prop :=
  ∃ row, (databaseAfter run).getItem fullName = .ok row ∧ row.id = id

/-- A run that falls into a beginning, the creation of an item, and what came later, all through which
the item has stood under its full name. -/
structure CreatedAt (run before : List Operation) (creation : Operation) (later : List Operation)
    (fullName : String) (id : Int) : Prop where
  parts : run = before ++ creation :: later
  creates : creation.createdItems (databaseAfter before) = [id]
  stands : ∀ between, between <+: later → Stands (before ++ creation :: between) fullName id

/-- Whether the snapshot of a database lists the item of a full name as a member of a view. -/
def Database.Lists (database : Database) (view fullName : String) : Prop :=
  ∃ objects id listed, database.load.result = .ok objects ∧
    objects.viewNamed? snapshotSpace view = some id ∧ objects.view? id = some listed ∧
    ∃ item ∈ listed.members, objects.fullName item = Path.trim fullName

/-- What is known of an item from its creation on. -/
structure KeptAsAsked (run before : List Operation) (creation : Operation) (later : List Operation)
    (fullName : String) (id : Int) : Prop where
  /-- A view lists the item if and only if an operation has asked for it since the creation. -/
  views : ∀ view, (databaseAfter run).Lists view fullName ↔
    ∃ between request, between ++ [request] <+: later ∧
      request.Asks (databaseAfter (before ++ creation :: between)) view (Path.names fullName)
  /-- Whatever is in the item was created since. -/
  children : ∀ path child, (databaseAfter run).getItem path = .ok child → child.parentId = some id →
    ∃ between birth rest, CreatedAt run (before ++ creation :: between) birth rest path child.id

/-- What one more operation does. -/
theorem exists_step (run : List Operation) (operation : Operation) :
    ∃ tables changed, databaseAfter run = ⟨some tables⟩ ∧ tables.WellFormed ∧
      databaseAfter (run ++ [operation]) = ⟨some changed⟩ ∧
      Tables.Succeeds tables changed (operation.createdItems ⟨some tables⟩)
        (operation.createdViews ⟨some tables⟩) ∧ Tables.Follows tables changed operation := by
  obtain ⟨tables, same, wellFormed⟩ := exists_wellFormed run
  obtain ⟨changed, after, succeeds⟩ := wellFormed.succeeds_after operation
  refine ⟨tables, changed, same, wellFormed, ?_, succeeds, wellFormed.follows_after after⟩
  rw [databaseAfter_concat, same, after]

theorem createdItems_eq_of_mem {operation : Operation} {database : Database} {id : Int}
    (created : id ∈ operation.createdItems database) : operation.createdItems database = [id] := by
  cases operation with
  | createItem =>
      rw [Operation.createdItems] at created ⊢
      split at created
      · rw [List.mem_singleton.mp created]
      · cases created
  | _ => cases created

section Now

variable {run : List Operation} {tables : Tables} (now : databaseAfter run = ⟨some tables⟩)
  (wellFormed : tables.WellFormed)

include now wellFormed

theorem stands_iff {fullName : String} {id : Int} :
    Stands run fullName id ↔ tables.LeadsTo (Path.names fullName) (some id) := by
  rw [Stands, now, Database.getItem_of_tables, wellFormed.leadsTo_iff_follow?]
  simp only [wellFormed.getItem_eq_ok_iff]

end Now

/-- An item that still stands after one more operation has stood all through it. -/
theorem CreatedAt.concat {run before later : List Operation} {creation operation : Operation}
    {fullName : String} {id : Int} (created : CreatedAt run before creation later fullName id)
    (stands : Stands (run ++ [operation]) fullName id) :
    CreatedAt (run ++ [operation]) before creation (later ++ [operation]) fullName id := by
  have parts : run ++ [operation] = before ++ creation :: (later ++ [operation]) := by
    rw [created.parts, List.append_assoc, List.cons_append]
  refine ⟨parts, created.creates, ?_⟩
  intro between within
  rcases List.prefix_concat_iff.mp within with rfl | shorter
  · exact parts ▸ stands
  · exact created.stands between shorter

/-- Whatever stands was created, and has stood since. -/
theorem exists_createdAt {run : List Operation} {fullName : String} {id : Int}
    (stands : Stands run fullName id) :
    ∃ before creation later, CreatedAt run before creation later fullName id := by
  induction run using List.reverseRecOn with
  | nil =>
      have leads := (stands_iff rfl Tables.wellFormed_empty).mp stands
      obtain ⟨row, stored, -⟩ := leads.exists_row
      cases stored
  | append_singleton run operation ih =>
      obtain ⟨tables, changed, before, wellFormed, after, succeeds, follows⟩ := exists_step run operation
      have leads := (stands_iff after succeeds.wellFormed).mp stands
      obtain ⟨row, there, rfl⟩ := leads.exists_row
      have stored : row.id ∈ changed.itemIds := List.mem_map_of_mem there
      rw [succeeds.itemIds] at stored
      rcases List.mem_append.mp stored with old | new
      · obtain ⟨old, kept⟩ := List.mem_filter.mp old
        obtain ⟨former, stored, same⟩ := List.mem_map.mp old
        obtain ⟨names, led⟩ := wellFormed.exists_leadsTo stored
        rw [same] at led
        have still := follows.places names row.id led (List.contains_iff_mem.mp kept)
        rw [succeeds.wellFormed.names_eq still leads] at led
        obtain ⟨beginning, creation, later, created⟩ := ih ((stands_iff before wellFormed).mpr led)
        exact ⟨beginning, creation, later ++ [operation], created.concat stands⟩
      · refine ⟨run, operation, [], rfl, ?_, ?_⟩
        · rw [before]
          exact createdItems_eq_of_mem new
        · intro between within
          rw [List.prefix_nil.mp within]
          exact stands

section Creation

variable {tables changed : Tables} {id : Int} {views : List Int}

/-- A new item has the largest identifier. -/
theorem Tables.Succeeds.lt_created (succeeds : Tables.Succeeds tables changed [id] views) {other : Int}
    (old : other ∈ tables.itemIds) (kept : other ∈ changed.itemIds) : other < id := by
  have ordered : changed.itemIds.Pairwise (· < ·) :=
    List.pairwise_map.mpr succeeds.wellFormed.itemsOrdered
  rw [succeeds.itemIds] at ordered
  exact (List.pairwise_append.mp ordered).2.2 other
    (List.mem_filter.mpr ⟨old, List.contains_iff_mem.mpr kept⟩) id (List.mem_singleton_self id)

theorem Tables.Succeeds.created_mem (succeeds : Tables.Succeeds tables changed [id] views) :
    id ∈ changed.itemIds := by
  rw [succeeds.itemIds]
  exact List.mem_append_right _ (List.mem_singleton_self id)

/-- No item had the identifier of the new one. -/
theorem Tables.Succeeds.created_fresh (succeeds : Tables.Succeeds tables changed [id] views) :
    id ∉ tables.itemIds :=
  fun old => Int.lt_irrefl id (succeeds.lt_created old succeeds.created_mem)

/-- Nothing is in a new item. -/
theorem Tables.Succeeds.created_empty (succeeds : Tables.Succeeds tables changed [id] views)
    {row : ItemRow} (stored : row ∈ changed.items) : row.parentId ≠ some id := by
  intro held
  obtain ⟨-, -, -, -, smaller⟩ := succeeds.wellFormed.parents row stored id held
  have there : row.id ∈ changed.itemIds := List.mem_map_of_mem stored
  have split := there
  rw [succeeds.itemIds] at split
  rcases List.mem_append.mp split with old | new
  · exact Int.lt_asymm smaller (succeeds.lt_created (List.mem_filter.mp old).1 there)
  · rw [List.mem_singleton.mp new] at smaller
    exact Int.lt_irrefl id smaller

/-- Creating an item stores no membership. -/
theorem members_of_creates {operation : Operation}
    (creates : operation.createdItems ⟨some tables⟩ = [id])
    (after : operation.after ⟨some tables⟩ = ⟨some changed⟩) : changed.members = tables.members := by
  cases operation with
  | createItem overlooked missed name kind displayName parent =>
      rw [Operation.createdItems] at creates
      rw [Operation.after, Operation.apply] at after
      cases made : (⟨some tables⟩ : Database).createWideItem overlooked missed name kind displayName
          parent with
      | error fault =>
          rw [made] at creates
          cases creates
      | ok commit =>
          rw [made] at after
          obtain ⟨_, _, _, -, -, -, stored⟩ := Database.createWideItem_eq_ok made
          obtain ⟨_, other, -, -, value, inserted, left⟩ := Database.createItem_commit stored
          have same : commit.database = ⟨some changed⟩ := after
          rw [left] at same
          cases same
          rw [(Tables.insertItem_next (by rw [value]) inserted).1]
  | _ => cases creates

/-- A new item is a member of no view. -/
theorem not_hasMember_of_creates {operation : Operation} (wellFormed : tables.WellFormed)
    (creates : operation.createdItems ⟨some tables⟩ = [id])
    (after : operation.after ⟨some tables⟩ = ⟨some changed⟩)
    (succeeds : Tables.Succeeds tables changed [id] views) (view : String) :
    ¬changed.HasMember view id := by
  rintro ⟨row, -, -, listed⟩
  rw [members_of_creates creates after] at listed
  obtain ⟨-, item, stored, same⟩ := wellFormed.membersStored _ listed
  exact succeeds.created_fresh (List.mem_map.mpr ⟨item, stored, same⟩)

end Creation

/-- What was carried out in a run was carried out before its last operation, or is that one. -/
theorem exists_request_concat_iff {run : List Operation} {operation : Operation}
    {holds : List Operation → Operation → Prop} :
    (∃ between request, between ++ [request] <+: run ++ [operation] ∧ holds between request) ↔
      (∃ between request, between ++ [request] <+: run ∧ holds between request) ∨
        holds run operation := by
  constructor
  · rintro ⟨between, request, within, held⟩
    rcases List.prefix_concat_iff.mp within with whole | shorter
    · obtain ⟨rfl, rest⟩ := List.append_inj' whole rfl
      cases rest
      exact .inr held
    · exact .inl ⟨between, request, shorter, held⟩
  · rintro (⟨between, request, within, held⟩ | held)
    · exact ⟨between, request, within.trans (List.prefix_append _ _), held⟩
    · exact ⟨run, operation, List.prefix_rfl, held⟩

/-- What is stored of an item's memberships is what was asked for while it stood. -/
theorem hasMember_iff {before later : List Operation} {creation : Operation} {fullName : String}
    {id : Int} (creates : creation.createdItems (databaseAfter before) = [id])
    (stands : ∀ between, between <+: later → Stands (before ++ creation :: between) fullName id)
    {tables : Tables} (now : databaseAfter (before ++ creation :: later) = ⟨some tables⟩)
    (view : String) : tables.HasMember view id ↔
      ∃ between request, between ++ [request] <+: later ∧
        request.Asks (databaseAfter (before ++ creation :: between)) view (Path.names fullName) := by
  induction later using List.reverseRecOn generalizing tables with
  | nil =>
      obtain ⟨former, changed, first, wellFormed, last, succeeds, -⟩ := exists_step before creation
      rw [last] at now
      cases now
      rw [first] at creates
      rw [creates] at succeeds
      have after : creation.after ⟨some former⟩ = ⟨some tables⟩ := by
        rw [← first, ← databaseAfter_concat, last]
      constructor
      · intro member
        exact absurd member (not_hasMember_of_creates wellFormed creates after succeeds view)
      · rintro ⟨between, request, within, -⟩
        simp at within
  | append_singleton later operation ih =>
      obtain ⟨former, changed, first, wellFormed, last, succeeds, follows⟩ :=
        exists_step (before ++ creation :: later) operation
      have parts : before ++ creation :: later ++ [operation] =
          before ++ creation :: (later ++ [operation]) := by simp
      rw [parts] at last
      rw [last] at now
      cases now
      have earlier := ih
        (fun between within => stands between (within.trans (List.prefix_append _ _))) first
      have led := (stands_iff first wellFormed).mp (stands later (List.prefix_append _ _))
      have there := ((stands_iff last succeeds.wellFormed).mp (stands _ List.prefix_rfl)).exists_row
      obtain ⟨row, stored, rfl⟩ := there
      rw [follows.members _ _ led (List.mem_map_of_mem stored) view, earlier, ← first,
        exists_request_concat_iff]

/-- The snapshot lists an item where a membership is stored. -/
theorem Tables.WellFormed.lists_iff {tables : Tables} (wellFormed : tables.WellFormed)
    {fullName : String} {id : Int} (leads : tables.LeadsTo (Path.names fullName) (some id))
    (view : String) : (⟨some tables⟩ : Database).Lists view fullName ↔ tables.HasMember view id := by
  obtain ⟨objects, loaded, portrays, tree⟩ := wellFormed.exists_snapshot
  have segments := wellFormed.isSegment_of_leadsTo leads
  constructor
  · rintro ⟨other, viewId, listed, loaded', named, found, item, member, full⟩
    rw [loaded] at loaded'
    cases loaded'
    rw [portrays.viewNamed?_eq] at named
    obtain ⟨row, there, rfl⟩ := Option.map_eq_some_iff.mp named
    obtain ⟨stored, sameName⟩ := wellFormed.viewNamed?_eq_some_iff.mp there
    obtain ⟨name, -, found'⟩ := portrays.view? row stored
    rw [found'] at found
    cases found
    obtain ⟨itemRow, chosen, rfl⟩ := List.mem_map.mp member
    obtain ⟨held, listed⟩ := List.mem_filter.mp chosen
    have led := portrays.leadsTo_lineageNames wellFormed tree held
    rw [← Path.ofNames_names] at full
    rw [Path.ofNames_inj (wellFormed.isSegment_of_leadsTo led) segments led.ne_nil leads.ne_nil
      full] at led
    rw [wellFormed.eq_of_leadsTo leads led]
    exact ⟨row, stored, sameName, List.contains_iff_mem.mp listed⟩
  · rintro ⟨row, stored, rfl, listed⟩
    obtain ⟨itemRow, held, rfl⟩ := leads.exists_row
    obtain ⟨name, -, found⟩ := portrays.view? row stored
    refine ⟨objects, viewObjectOf tables.views row.id, _, loaded, ?_, found,
      objectOf tables.items itemRow.id, ?_, ?_⟩
    · rw [portrays.viewNamed?_eq]
      exact Option.map_eq_some_iff.mpr ⟨row, wellFormed.viewNamed?_eq_some_iff.mpr ⟨stored, rfl⟩, rfl⟩
    · exact List.mem_map.mpr
        ⟨itemRow, List.mem_filter.mpr ⟨held, List.contains_iff_mem.mpr listed⟩, rfl⟩
    · rw [← Path.ofNames_names, ← portrays.lineageNames_eq wellFormed tree leads]
      rfl

/-- Just after an item was created, nothing stands in it. -/
theorem CreatedAt.empty {run before later : List Operation} {creation : Operation} {fullName : String}
    {id : Int} (created : CreatedAt run before creation later fullName id) {path name : String}
    {child : Int} (below : Path.names path = Path.names fullName ++ [name]) :
    ¬Stands (before ++ [creation]) path child := by
  intro stands
  obtain ⟨former, changed, first, -, last, succeeds, -⟩ := exists_step before creation
  rw [← first, created.creates] at succeeds
  have leads := (stands_iff last succeeds.wellFormed).mp (created.stands [] List.nil_prefix)
  have led := (stands_iff last succeeds.wellFormed).mp stands
  rw [below] at led
  obtain ⟨above, row, stored, rfl, -, parts⟩ := Tables.LeadsTo.some_iff.mp led
  rw [List.singleton_inj.mp (List.append_inj' parts rfl).2] at led
  exact succeeds.created_empty stored ((succeeds.wellFormed.leadsTo_child_iff stored leads).mp led)

/-- What is in an item was created after it. -/
theorem CreatedAt.exists_birth {run before later : List Operation} {creation : Operation}
    {fullName : String} {id : Int} (created : CreatedAt run before creation later fullName id)
    {path : String} {child : ItemRow} (found : (databaseAfter run).getItem path = .ok child)
    (inside : child.parentId = some id) :
    ∃ between birth rest, CreatedAt run (before ++ creation :: between) birth rest path child.id := by
  obtain ⟨start, birth, rest, born⟩ := exists_createdAt ⟨child, found, rfl⟩
  obtain ⟨tables, now, wellFormed⟩ := exists_wellFormed run
  rw [now, Database.getItem_of_tables, wellFormed.getItem_eq_ok_iff_leadsTo] at found
  have leads : tables.LeadsTo (Path.names fullName) (some id) := by
    apply (stands_iff now wellFormed).mp
    rw [created.parts]
    exact created.stands later List.prefix_rfl
  have below : Path.names path = Path.names fullName ++ [child.name] :=
    wellFormed.names_eq found.2 ((wellFormed.leadsTo_child_iff found.1 leads).mpr inside)
  rcases List.append_eq_append_iff.mp (created.parts.symm.trans born.parts) with
    ⟨between, rfl, same⟩ | ⟨between, rfl, same⟩
  · cases between with
    | nil =>
        cases same
        rw [List.append_nil] at born
        exact absurd (born.stands [] List.nil_prefix) (created.empty below)
    | cons first between =>
        cases same
        exact ⟨between, birth, rest, born⟩
  · -- The child would have stood in the item when that had just been created.
    cases between with
    | nil =>
        cases same
        rw [List.append_nil] at created
        exact absurd (born.stands [] List.nil_prefix) (created.empty below)
    | cons first between =>
        cases same
        have stands := born.stands (between ++ [creation]) (by simp)
        have parts : start ++ birth :: (between ++ [creation]) =
            start ++ birth :: between ++ [creation] := by simp
        rw [parts] at stands
        exact absurd stands (created.empty below)

/-- After any run, the item of a full name was created and has stood since. A view lists it if and only
if that was asked for since its creation, and what is in it was created since. So an item that was just
created is a member of no view and has nothing in it, whatever had its identifier or its place before. -/
theorem keptAsAsked_run (run : List Operation) {fullName : String} {row : ItemRow}
    (found : (databaseAfter run).getItem fullName = .ok row) :
    (∃ before creation later, CreatedAt run before creation later fullName row.id) ∧
      ∀ before creation later, CreatedAt run before creation later fullName row.id →
        KeptAsAsked run before creation later fullName row.id := by
  refine ⟨exists_createdAt ⟨row, found, rfl⟩, ?_⟩
  intro before creation later created
  obtain ⟨tables, now, wellFormed⟩ := exists_wellFormed run
  constructor
  · intro view
    have leads := (stands_iff now wellFormed).mp ⟨row, found, rfl⟩
    rw [created.parts] at now
    rw [created.parts, now, wellFormed.lists_iff leads]
    exact hasMember_iff created.creates created.stands now view
  · intro path child there inside
    exact created.exists_birth there inside

/-- A job that is listed in a view and then deleted, and another that takes its place and its
identifier. -/
def recycledRun : List Operation :=
  [.createItem none false (.sound "a") .job none none,
    .createView (.sound "v") [.sound "a"] false false, .deleteItem (.sound "a"),
    .createItem none false (.sound "a") .job none none]

theorem recycled_keptAsAsked :
    (databaseAfter recycledRun).getItem "a" = .ok ⟨1, none, .job, "a", none, false⟩ ∧
      ¬(databaseAfter recycledRun).Lists "v" "a" := by
  have found : (databaseAfter recycledRun).getItem "a" = .ok ⟨1, none, .job, "a", none, false⟩ := by
    decide +kernel
  have created : CreatedAt recycledRun (recycledRun.take 3)
      (.createItem none false (.sound "a") .job none none) [] "a" 1 := by
    refine ⟨rfl, by decide +kernel, ?_⟩
    intro between within
    rw [List.prefix_nil.mp within]
    exact ⟨_, found, rfl⟩
  have kept := (keptAsAsked_run recycledRun found).2 _ _ _ created
  refine ⟨found, ?_⟩
  intro lists
  obtain ⟨between, request, within, -⟩ := (kept.views "v").mp lists
  simp at within

end Wayfinder.Storage
