import Mathlib.Logic.Relation
import Wayfinder.Proofs.Storage.Deletion
import Wayfinder.Storage.Generations

/-!
# The order in which a deletion goes through what is below

The loop over generations ends on any table, since every round but the last collects a row that was not
collected before. What it collects is the item and the rows whose parents lead to it, each once and behind
its parent. Circles of parents do not matter for that, except that an item that is below itself stands in
front of its own parent. Without circles a deletion that goes through the list from behind never takes out
a row before its children.
-/

namespace Wayfinder.Storage

/-- Whether a row has the first identifier, and the second one as its parent. -/
def HasParent (rows : List ItemRow) (child parent : Int) : Prop :=
  ∃ row ∈ rows, row.id = child ∧ row.parentId = some parent

/-- Whether no item is below itself. -/
def Acyclic (rows : List ItemRow) : Prop :=
  ∀ id, ¬Relation.TransGen (HasParent rows) id id

/-- Rows that are stored below an item of a smaller rank are in no circle. -/
theorem acyclic_of_rank {rows : List ItemRow} (rank : Int → Nat)
    (grows : ∀ row ∈ rows, ∀ parent ∈ row.parentId, rank parent < rank row.id) : Acyclic rows := by
  have chain {below above : Int} (leads : Relation.TransGen (HasParent rows) below above) :
      rank above < rank below := by
    induction leads with
    | single step =>
        obtain ⟨row, stored, rfl, held⟩ := step
        exact grows row stored _ held
    | tail _ step ih =>
        obtain ⟨row, stored, rfl, held⟩ := step
        exact (grows row stored _ held).trans ih
  exact fun id circle => Nat.lt_irrefl _ (chain circle)

/-- Whether a table lists the children of every generation, in whatever order. -/
def ListsChildren (rows : List ItemRow) (ask : List Int → List Int) : Prop :=
  ∀ generation, (ask generation).Perm (childIds rows generation)

theorem listsChildren_childIds (rows : List ItemRow) : ListsChildren rows (childIds rows) :=
  fun _ => .refl _

theorem childIds_filter (rows : List ItemRow) (collected generation : List Int) :
    (childIds rows generation).filter (fun id => !collected.contains id) =
      nextGeneration rows collected generation := by
  rw [childIds, nextGeneration, List.filter_map, List.filter_filter]
  congr 2
  funext row
  exact Bool.and_comm _ _

namespace Collecting

variable {rows : List ItemRow} {ask : List Int → List Int} {root : Int} {collecting : Collecting}

/-- What a round finds is the next generation, in whatever order. -/
theorem perm_next (lists : ListsChildren rows ask) : (collecting.next ask).generation.Perm
    (nextGeneration rows collecting.collected collecting.generation) := by
  rw [← childIds_filter]
  exact (lists collecting.generation).filter _

theorem mem_next (lists : ListsChildren rows ask) {id : Int} :
    id ∈ (collecting.next ask).generation ↔ id ∉ collecting.collected ∧
      ∃ parent ∈ collecting.generation, HasParent rows id parent := by
  rw [(perm_next lists).mem_iff, mem_nextGeneration]
  constructor
  · rintro ⟨fresh, row, stored, same, parent, above, held⟩
    exact ⟨fresh, parent, above, row, stored, same, held⟩
  · rintro ⟨fresh, parent, above, row, stored, same, held⟩
    exact ⟨fresh, row, stored, same, parent, above, held⟩

/-- How many rows are left does not depend on the order in which others were collected. -/
theorem uncollected_perm {left right : List Int} (same : left.Perm right) :
    uncollected rows left = uncollected rows right := by
  simp only [uncollected, same.contains_eq]

theorem uncollected_next_lt (lists : ListsChildren rows ask)
    (more : (collecting.next ask).generation ≠ []) :
    uncollected rows (collecting.next ask).collected < uncollected rows collecting.collected := by
  have found : (collecting.next ask).generation.Perm _ := perm_next lists
  have same : uncollected rows (collecting.next ask).collected = _ :=
    uncollected_perm (found.append_left collecting.collected)
  rw [same]
  apply uncollected_lt
  intro none
  rw [none, List.perm_nil] at found
  exact more found

theorem fix_of_ended (ended : collecting.generation = []) :
    (round ask).fix collecting = .some collecting.collected := by
  apply Part.eq_some_iff.mpr
  apply PFun.fix_stop
  rw [round, if_pos ended]
  exact Part.mem_some _

theorem fix_of_more (more : collecting.generation ≠ []) :
    (round ask).fix collecting = (round ask).fix (collecting.next ask) := by
  apply PFun.fix_fwd_eq
  rw [round, if_neg more]
  exact Part.mem_some _

/-- What holds of a collection between two rounds: nothing is collected twice, all of it leads to the item
it began with and stands behind a parent, and only children of the last generation may be missing. -/
structure IsSound (rows : List ItemRow) (root : Int) (collecting : Collecting) : Prop where
  head : collecting.collected.head? = some root
  nodup : collecting.collected.Nodup
  among : collecting.generation ⊆ collecting.collected
  leads : ∀ id ∈ collecting.collected, Relation.ReflTransGen (HasParent rows) id root
  follows : ∀ id ∈ collecting.collected, id = root ∨
    ∃ parent, HasParent rows id parent ∧ [parent, id].Sublist collecting.collected
  pending : ∀ child parent, HasParent rows child parent → parent ∈ collecting.collected →
    parent ∈ collecting.generation ∨ child ∈ collecting.collected

theorem IsSound.start (rows : List ItemRow) (root : Int) : IsSound rows root ⟨[root], [root]⟩ where
  head := rfl
  nodup := List.nodup_singleton root
  among := List.Subset.refl _
  leads id member := by rw [List.mem_singleton.mp member]
  follows id member := .inl (List.mem_singleton.mp member)
  pending _ _ _ above := .inl above

/-- A round leaves a sound collection. -/
theorem IsSound.next (sound : IsSound rows root collecting) (lists : ListsChildren rows ask)
    (distinct : (rows.map ItemRow.id).Nodup) : IsSound rows root (collecting.next ask) := by
  have fresh {id : Int} (member : id ∈ (collecting.next ask).generation) := (mem_next lists).mp member
  constructor
  case head => rw [Collecting.next, List.head?_append, sound.head, Option.some_or]
  case nodup =>
    have new : (nextGeneration rows collecting.collected collecting.generation).Nodup :=
      distinct.sublist (List.filter_sublist.map ItemRow.id)
    refine sound.nodup.append ((perm_next lists).nodup_iff.mpr new) fun id old member => ?_
    exact (fresh member).1 old
  case among => exact List.subset_append_right _ _
  case leads =>
    intro id member
    rcases List.mem_append.mp member with old | new
    · exact sound.leads id old
    · obtain ⟨-, parent, above, held⟩ := fresh new
      exact .head held (sound.leads parent (sound.among above))
  case follows =>
    intro id member
    rcases List.mem_append.mp member with old | new
    · rcases sound.follows id old with same | ⟨parent, held, before⟩
      · exact .inl same
      · exact .inr ⟨parent, held, before.trans (List.sublist_append_left _ _)⟩
    · obtain ⟨-, parent, above, held⟩ := fresh new
      have first := List.singleton_sublist.mpr (sound.among above)
      exact .inr ⟨parent, held, first.append (List.singleton_sublist.mpr new)⟩
  case pending =>
    intro child parent held above
    rcases List.mem_append.mp above with old | new
    · right
      rcases sound.pending child parent held old with last | there
      · by_cases known : child ∈ collecting.collected
        · exact List.mem_append_left _ known
        · exact List.mem_append_right _ ((mem_next lists).mpr ⟨known, parent, last, held⟩)
      · exact List.mem_append_left _ there
    · exact .inl new

/-- However far a collection is, it ends, with a sound one that has nothing left to ask for. -/
theorem IsSound.exists_end (sound : IsSound rows root collecting) (lists : ListsChildren rows ask)
    (distinct : (rows.map ItemRow.id).Nodup) : ∃ ids,
      (round ask).fix collecting = .some ids ∧ IsSound rows root ⟨ids, []⟩ := by
  -- The measure is the number of rows that are not collected. The last round leaves it as it is.
  induction left : uncollected rows collecting.collected using Nat.strong_induction_on
    generalizing collecting with
  | h size ih =>
      by_cases ended : collecting.generation = []
      · refine ⟨collecting.collected, fix_of_ended ended, ?_⟩
        rwa [← ended]
      · rw [fix_of_more ended]
        have after := sound.next lists distinct
        by_cases last : (collecting.next ask).generation = []
        · refine ⟨(collecting.next ask).collected, fix_of_ended last, ?_⟩
          rwa [← last]
        · exact ih _ (left ▸ uncollected_next_lt lists last) after rfl

/-- Asked in the order of the rows, the loop collects what the recursion does. -/
theorem fix_childIds (rows : List ItemRow) (collected generation : List Int) (more : generation ≠ []) :
    (round (childIds rows)).fix ⟨collected, generation⟩ =
      .some (collectGenerations rows collected generation) := by
  induction collected, generation using collectGenerations.induct rows with
  | case1 collected generation next ended =>
      have none : nextGeneration rows collected generation = [] := ended
      rw [collectGenerations, dif_pos ended, fix_of_more more, Collecting.next, childIds_filter, none,
        List.append_nil, fix_of_ended rfl]
  | case2 collected generation next found ih =>
      rw [collectGenerations, dif_neg found, fix_of_more more, Collecting.next, childIds_filter]
      exact ih found

end Collecting

/-- In a list without repetitions what stands behind is taken first from behind. -/
theorem mem_of_taken_behind {ids deleted : List Int} {first second : Int} (distinct : ids.Nodup)
    (before : [first, second].Sublist ids) (taken : deleted <+: ids.reverse) (gone : first ∈ deleted) :
    second ∈ deleted := by
  obtain ⟨rest, parts⟩ := taken
  have reversed : [second, first].Sublist (deleted ++ rest) := by
    rw [parts]
    exact before.reverse
  have apart : deleted.Disjoint rest := by
    rw [← List.nodup_reverse, ← parts] at distinct
    exact List.disjoint_of_nodup_append distinct
  obtain ⟨front, behind, split, early, late⟩ := List.sublist_append_iff.mp reversed
  cases front with
  | nil =>
      rw [List.nil_append] at split
      exact (apart gone (late.subset (split ▸ by simp))).elim
  | cons head others =>
      obtain ⟨rfl, -⟩ := List.cons.inj split
      exact early.subset List.mem_cons_self

namespace Session

theorem conclude_eraseInTurn (ids : List Int) (tables : Tables) :
    (eraseInTurn ids).conclude ⟨some tables⟩ =
      (.ok (), ⟨some { tables with items := leftRows tables.items ids }⟩) :=
  close_forM_eraseItem ids ⟨some tables⟩ tables fun _ => commit

end Session

/-- What a list of identifiers is for a deletion of the first one. It is the item and all rows whose parents
lead to it, each once, and as long as there is no circle of parents each row stands behind its parent, with
the parent of the item itself elsewhere. So when rows are taken out one after another from behind, none is
left at any time whose parent is gone. -/
structure Tables.DeletesSafely (tables : Tables) (root : Int) (ids : List Int) : Prop where
  head : ids.head? = some root
  nodup : ids.Nodup
  mem_iff : ∀ id, id ∈ ids ↔ Relation.ReflTransGen (HasParent tables.items) id root
  ordered : Acyclic tables.items → ∀ row ∈ tables.items, row.id ∈ ids →
    (row.id = root ∧ ∀ parent ∈ row.parentId, parent ∉ ids) ∨
      ∃ parent ∈ row.parentId, [parent, row.id].Sublist ids
  attached : Acyclic tables.items → ∀ deleted, deleted <+: ids.reverse →
    (Session.eraseInTurn deleted).conclude ⟨some tables⟩ =
      (.ok (), ⟨some { tables with items := leftRows tables.items deleted }⟩) ∧
    ∀ row ∈ leftRows tables.items deleted, ∀ parent ∈ row.parentId, parent ∉ deleted

/-- A collection that has ended is safe to delete. -/
theorem Collecting.IsSound.deletesSafely {tables : Tables} {root : Int} {ids : List Int}
    (sound : Collecting.IsSound tables.items root ⟨ids, []⟩)
    (distinct : (tables.items.map ItemRow.id).Nodup) : tables.DeletesSafely root ids := by
  have closed {child parent : Int} (held : HasParent tables.items child parent)
      (above : parent ∈ ids) : child ∈ ids :=
    (sound.pending child parent held above).resolve_left List.not_mem_nil
  have ordered (acyclic : Acyclic tables.items) (row : ItemRow) (stored : row ∈ tables.items)
      (member : row.id ∈ ids) : (row.id = root ∧ ∀ parent ∈ row.parentId, parent ∉ ids) ∨
        ∃ parent ∈ row.parentId, [parent, row.id].Sublist ids := by
    rcases sound.follows row.id member with same | ⟨parent, ⟨other, there, equal, held⟩, before⟩
    · refine .inl ⟨same, fun parent held above => acyclic root ?_⟩
      exact .head' ⟨row, stored, same, held⟩ (sound.leads parent above)
    · cases List.inj_on_of_nodup_map distinct there stored equal
      exact .inr ⟨parent, held, before⟩
  constructor
  case head => exact sound.head
  case nodup => exact sound.nodup
  case mem_iff =>
    refine fun id => ⟨sound.leads id, fun chain => ?_⟩
    induction chain using Relation.ReflTransGen.head_induction_on with
    | refl => exact List.mem_of_head? sound.head
    | head held _ ih => exact closed held ih
  case ordered => exact ordered
  case attached =>
    refine fun acyclic deleted taken => ⟨Session.conclude_eraseInTurn deleted tables, ?_⟩
    intro row left parent held gone
    obtain ⟨stored, spared⟩ := mem_leftRows.mp left
    have above : parent ∈ ids := List.mem_reverse.mp (taken.subset gone)
    have member : row.id ∈ ids := closed ⟨row, stored, rfl, held⟩ above
    rcases ordered acyclic row stored member with ⟨-, elsewhere⟩ | ⟨other, held', before⟩
    · exact elsewhere parent held above
    · cases held.symm.trans held'
      exact spared (mem_of_taken_behind sound.nodup before taken gone)

/-- What the loop over generations comes to for an item, whatever order the table lists children in. -/
structure Tables.CollectsSafely (tables : Tables) (root : Int) : Prop where
  loop : collectBelow? (childIds tables.items) root = .some (descendantIds tables.items root)
  safe : tables.DeletesSafely root (descendantIds tables.items root)
  anyOrder : ∀ ask, ListsChildren tables.items ask → ∃ ids,
    collectBelow? ask root = .some ids ∧ tables.DeletesSafely root ids

/-- On any table with one row for each identifier, whatever parents the rows mention, the loop over
generations ends, and what it collects is safe to delete. -/
theorem Tables.collectsSafely (tables : Tables) (distinct : (tables.items.map ItemRow.id).Nodup)
    (root : Int) : tables.CollectsSafely root := by
  have start := Collecting.IsSound.start tables.items root
  have anyOrder : ∀ ask, ListsChildren tables.items ask → ∃ ids,
      collectBelow? ask root = .some ids ∧ tables.DeletesSafely root ids := by
    intro ask lists
    obtain ⟨ids, ended, sound⟩ := start.exists_end lists distinct
    exact ⟨ids, ended, sound.deletesSafely distinct⟩
  have loop : collectBelow? (childIds tables.items) root = .some (descendantIds tables.items root) :=
    Collecting.fix_childIds tables.items [root] [root] (List.cons_ne_nil _ _)
  obtain ⟨ids, ended, safe⟩ := anyOrder _ (listsChildren_childIds tables.items)
  cases Part.some_injective (ended.symm.trans loop)
  exact ⟨loop, safe, anyOrder⟩

/-- A folder with a job that was stored before the folder it is in. -/
def restacked : Tables where
  items := [⟨1, some 3, .job, "build", none, false⟩, ⟨2, none, .folder, "apps", none, false⟩,
    ⟨3, some 2, .folder, "core", none, false⟩, ⟨4, some 2, .job, "docs", none, false⟩]

/-- The job comes last all the same, and is the first to go. -/
theorem restacked_collectsSafely : (restacked.items.map ItemRow.id).Nodup ∧ Acyclic restacked.items ∧
    descendantIds restacked.items 2 = [2, 3, 4, 1] ∧ restacked.CollectsSafely 2 := by
  have acyclic : Acyclic restacked.items :=
    acyclic_of_rank (fun id => if id = 2 then 0 else if id = 1 then 2 else 1) (by decide)
  exact ⟨by decide, acyclic, by decide +kernel, restacked.collectsSafely (by decide) 2⟩

/-- Around a circle of parents the collection goes once. -/
example : descendantIds [⟨1, some 2, .folder, "a", none, false⟩,
    ⟨2, some 1, .folder, "b", none, false⟩, ⟨3, some 3, .folder, "c", none, false⟩] 1 = [1, 2] := by
  decide +kernel

end Wayfinder.Storage
