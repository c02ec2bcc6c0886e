import Wayfinder.Proofs.Storage.Dependable
import Wayfinder.Storage.Session

/-!
# Sessions end like operations

An operation was described by what it comes to, a session by its steps. Both give the same answer and
leave the same rows, so a session that fails has committed nothing: a view is stored before it is chosen
as the primary one, but by then the choice cannot fail.
-/

namespace Wayfinder.Storage

open Text (Wide)

variable {α β : Type}

/-- How a session ends that commits what an operation has done, and nothing else. -/
def ending (database : Database) :
    Except OperationFault (Commit α) → Except OperationFault α × Database
  | .ok commit => (.ok commit.value, commit.database)
  | .error fault => (.error fault, database)

theorem ending_fst_eq_error_iff {database : Database} {outcome : Except OperationFault (Commit α)}
    {fault : OperationFault} : (ending database outcome).1 = .error fault ↔ outcome = .error fault := by
  cases outcome <;> simp [ending]

theorem Database.tables_bind (tables : Tables) (next : Tables → Except OperationFault α) :
    (⟨some tables⟩ : Database).tables >>= next = next tables := rfl

namespace Session

variable {database committed : Database} {tables changed : Tables} {next : α → Session β}
  {rest : α → Except OperationFault (Commit β)}

/-- Steps that begin with an outcome that does not depend on the rows. -/
theorem conclude_ofExcept_bind {outcome : Except OperationFault α}
    (goesOn : ∀ value, outcome = .ok value →
      (next value).conclude database = ending database (rest value)) :
    (ofExcept outcome >>= next).conclude database = ending database (outcome >>= rest) := by
  cases outcome with
  | error fault => rfl
  | ok value => exact goesOn value rfl

/-- Steps that begin with a look at the rows. -/
theorem conclude_ask_bind {question : Tables → Except OperationFault α}
    (goesOn : ∀ value, question tables = .ok value →
      (next value).conclude ⟨some tables⟩ = ending ⟨some tables⟩ (rest value)) :
    (ask question >>= next).conclude ⟨some tables⟩ =
      ending ⟨some tables⟩ (question tables >>= rest) := by
  cases found : question tables with
  | error fault =>
      simp only [conclude, close, bind, andThen, ask, Database.tables, Except.bind, found, ending]
  | ok value =>
      have goesOn' := goesOn value found
      simp only [conclude, close, bind, andThen, ask, Database.tables, Except.bind, found] at goesOn' ⊢
      exact goesOn'

theorem conclude_ask_bind_of_ok {question : Tables → Except OperationFault α} {value : α}
    (found : question tables = .ok value) (next : α → Session β) :
    (ask question >>= next).conclude ⟨some tables⟩ = (next value).conclude ⟨some tables⟩ := by
  simp only [conclude, close, bind, andThen, ask, Database.tables, Except.bind, found]

/-- Without tables nothing can be looked up. -/
theorem conclude_ask_of_no_tables (question : Tables → Except OperationFault α) (next : α → Session β)
    (rest : Tables → Except OperationFault (Commit β)) : (ask question >>= next).conclude ⟨none⟩ =
      ending ⟨none⟩ ((⟨none⟩ : Database).tables >>= rest) := rfl

theorem close_see_bind (value : Tables → α) (next : α → Session β) :
    (see value >>= next).close ⟨committed, ⟨some tables⟩⟩ =
      (next (value tables)).close ⟨committed, ⟨some tables⟩⟩ := rfl

theorem close_change_bind (edit : Tables → Tables) (next : Unit → Session β) :
    (change edit >>= next).close ⟨committed, ⟨some tables⟩⟩ =
      (next ()).close ⟨committed, ⟨some (edit tables)⟩⟩ := rfl

/-- Once the changes are committed, a session goes on as if it began with them. -/
theorem close_commit_bind (next : Unit → Session β) :
    (commit >>= next).close ⟨committed, database⟩ = (next ()).conclude database := rfl

/-- Steps that are carried out without a conflict. -/
theorem close_refusingConflicts_bind {steps : Session α} {draft after : Draft} {value : α}
    (ended : steps.run draft = (.ok value, after)) (fault : Workspace.Fault) :
    (refusingConflicts fault steps >>= next).close draft = (next value).close after := by
  simp only [close, bind, andThen, refusingConflicts, ended]

/-- A broken constraint refuses the operation, and the database keeps what was committed before. -/
theorem close_of_conflict {steps : Session α} {other : Database}
    (broken : steps.run ⟨committed, database⟩ = (.error (.storage .integrity), ⟨committed, other⟩))
    (fault : Workspace.Fault) : (refusingConflicts fault steps >>= next).close ⟨committed, database⟩ =
      (.error (.workspace fault), committed) := by
  simp only [close, bind, andThen, refusingConflicts, broken]

theorem run_write_bind {edit : Tables → Option Tables} (written : edit tables = some changed)
    (next : Unit → Session α) : (write edit >>= next).run ⟨committed, ⟨some tables⟩⟩ =
      (next ()).run ⟨committed, ⟨some changed⟩⟩ := by
  simp only [write, Database.tables, bind, andThen, Except.bind, written, Database.ofInsert]

theorem run_write_bind_of_none {edit : Tables → Option Tables} (broken : edit tables = none)
    (next : Unit → Session α) : (write edit >>= next).run ⟨committed, ⟨some tables⟩⟩ =
      (.error (.storage .integrity), ⟨committed, ⟨some tables⟩⟩) := by
  simp only [write, Database.tables, bind, andThen, Except.bind, broken, Database.ofInsert]

end Session

open Session

theorem conclude_createSoundItem (overlooked : Option String) (missed : Bool) (name : String)
    (kind : ItemKind) (displayName parent : Option String) (database : Database) :
    (Session.createItem overlooked missed (.sound name) kind (displayName.map .sound)
        (parent.map .sound)).conclude database =
      ending database
        (database.createItemOverlooking overlooked missed name kind displayName parent) := by
  rw [Session.createItem, Database.createItemOverlooking, requireWideName_sound]
  apply conclude_ofExcept_bind
  intro _ _
  obtain ⟨_ | tables⟩ := database
  · exact conclude_ask_of_no_tables _ _ _
  · simp only [Tables.wideParentFolder_map_sound, mapM_encode_map_sound]
    rw [Database.tables_bind]
    apply conclude_ask_bind
    intro parentId _
    apply conclude_ask_bind
    intro taken looked
    cases taken with
    | some row =>
        cases missed with
        | true => cases looked
        | false =>
            rw [← (Tables.mem_of_findChild looked).2]
            rfl
    | none =>
        simp only [Option.isSome_none, Bool.false_eq_true, if_false]
        rw [conclude, close_see_bind]
        change (refusingConflicts _ _ >>= _).close _ = _
        split
        case h_1 broken => exact close_of_conflict (run_write_bind_of_none broken _) _
        case h_2 changed inserted =>
          rw [close_refusingConflicts_bind (run_write_bind inserted _)]
          rfl

/-- A row with a broken text is not stored. -/
theorem close_unencodable {name : Wide} {displayName : Option Wide}
    (unread : ∀ (text : String) (shown : Option String),
      name = .sound text → displayName = shown.map .sound → False)
    (next : String → Option String → Session α) (draft : Draft) :
    (ofExcept (encode name) >>= fun name =>
        ofExcept (displayName.mapM encode) >>= next name).close draft =
      (.error (.storage .unencodable), draft.committed) := by
  rcases name with name | _
  · rcases displayName with _ | shown | _
    · exact (unread name none rfl rfl).elim
    · exact (unread name (some shown) rfl rfl).elim
    · rfl
  · rfl

theorem conclude_createItem (overlooked : Option String) (missed : Bool) (name : Wide)
    (kind : ItemKind) (displayName parent : Option Wide) (database : Database) :
    (Session.createItem overlooked missed name kind displayName parent).conclude database =
      ending database
        (database.createWideItem overlooked missed name kind displayName parent) := by
  by_cases read : ∃ (text : String) (shown path : Option String), name = .sound text ∧
      displayName = shown.map .sound ∧ parent = path.map .sound
  case pos =>
    obtain ⟨text, shown, path, rfl, rfl, rfl⟩ := read
    rw [Database.createWideItem_sound]
    exact conclude_createSoundItem overlooked missed text kind shown path database
  case neg =>
    rw [Database.createWideItem_of_broken read, Session.createItem, Database.brokenItemFault]
    simp only [error_faultBefore_bind]
    apply conclude_ofExcept_bind
    intro _ _
    obtain ⟨_ | tables⟩ := database
    · exact conclude_ask_of_no_tables _ _ _
    · rw [Database.tables_bind]
      apply conclude_ask_bind
      intro parentId found
      have unstored : ∀ (text : String) (shown : Option String),
          name = .sound text → displayName = shown.map .sound → False := by
        intro text shown named displayed
        obtain ⟨path, located⟩ := Tables.wideParentFolder_eq_ok found
        exact read ⟨text, shown, path, named, displayed, located⟩
      cases missed with
      | true => exact (close_see_bind _ _).trans (close_unencodable unstored _ _)
      | false =>
          rw [if_neg Bool.false_ne_true, error_faultBefore_bind]
          apply conclude_ask_bind
          intro taken _
          cases taken with
          | some row => rfl
          | none => exact (close_see_bind _ _).trans (close_unencodable unstored _ _)

theorem replaceItem_replaceItem {tables : Tables} {first second : ItemRow}
    (same : first.id = second.id) :
    (tables.replaceItem first).replaceItem second = tables.replaceItem second := by
  simp only [Tables.replaceItem, List.map_map, Tables.mk.injEq, and_true]
  apply List.map_congr_left
  intro other _
  by_cases replaced : other.id = second.id
  · simp [replaced, same]
  · simp [replaced, same]

theorem conclude_updateSoundItem (fullName : String) (changes : ItemChanges) (database : Database) :
    (Session.updateItem (.sound fullName) changes.wide).conclude database =
      ending database (database.updateItem fullName changes) := by
  rw [Session.updateItem, Database.updateItem, WideChanges.sound?_wide, mapM_encode_wide]
  obtain ⟨_ | tables⟩ := database
  · exact conclude_ask_of_no_tables _ _ _
  · rw [Database.tables_bind]
    apply conclude_ask_bind
    intro row _
    have kept : ({ changes with disabled := none }.apply row).id = (changes.apply row).id := rfl
    have flag : changes.wide.disabled = changes.disabled := rfl
    have rest : changes.wide.others = changes.others := rfl
    dsimp only
    rw [conclude, close_change_bind, flag, rest]
    by_cases isFolder : ((changes.disabled.bind id).isSome && row.kind == .folder) = true
    · simp only [if_pos isFolder]
      rfl
    · simp only [if_neg isFolder]
      change (change _ >>= fun _ => commit >>= _).close _ = _
      rw [close_change_bind, close_commit_bind, replaceItem_replaceItem kept]
      rfl

/-- An item of a broken full name is not there to be used. -/
theorem conclude_getWideItem_bind {fullName : List Text.Glyph}
    (isBroken : Text.Glyph.text? fullName = none) (next : ItemRow → Session β) (database : Database) :
    ((ask fun tables => tables.getWideItem (.broken fullName isBroken) none) >>= next).conclude database =
      (.error (faultBefore (database.getWideItem (.broken fullName isBroken))), database) := by
  obtain ⟨_ | tables⟩ := database <;> rfl

theorem conclude_updateItem (fullName : Wide) (changes : WideChanges) (database : Database) :
    (Session.updateItem fullName changes).conclude database =
      ending database (database.updateWideItem fullName changes) := by
  cases fullName with
  | broken glyphs isBroken => exact conclude_getWideItem_bind isBroken _ database
  | sound path =>
      cases read : changes.sound? with
      | some sound =>
          rw [WideChanges.sound?_eq_some_iff.mp read, Database.updateWideItem_sound]
          exact conclude_updateSoundItem path sound database
      | none =>
          rw [Database.updateWideItem_of_broken read, Session.updateItem, read,
            Database.brokenUpdateFault, Database.updateItem]
          simp only [error_faultBefore_bind]
          obtain ⟨_ | tables⟩ := database
          · exact conclude_ask_of_no_tables _ _ _
          · rw [Database.tables_bind]
            apply conclude_ask_bind
            intro row _
            by_cases isFolder : ((changes.disabled.bind id).isSome && row.kind == .folder) = true
            · simp only [if_pos isFolder]
              rfl
            · simp only [if_neg isFolder, mapM_encode_of_broken read]
              rfl

/-- Items are taken out one by one. -/
theorem close_forM_eraseItem (ids : List Int) (committed : Database) (tables : Tables)
    (next : Unit → Session α) :
    ((ids.forM fun id => change fun tables => tables.eraseItem id) >>= next).close
        ⟨committed, ⟨some tables⟩⟩ =
      (next ()).close ⟨committed, ⟨some { tables with
        items := tables.items.filter fun row => !ids.contains row.id }⟩⟩ := by
  induction ids generalizing tables with
  | nil => simp [List.forM]
  | cons id ids ih =>
      rw [List.forM, bind_assoc, close_change_bind, ih, Tables.eraseItem, List.filter_filter]
      congr 5
      apply List.filter_congr
      intro row _
      simp only [List.contains_cons, Bool.not_or, bne, Bool.and_comm]

theorem conclude_deleteItem (fullName : Wide) (database : Database) :
    (Session.deleteItem fullName).conclude database =
      ending database (database.deleteWideItem fullName) := by
  cases fullName with
  | broken glyphs isBroken => exact conclude_getWideItem_bind isBroken _ database
  | sound path =>
      rw [Session.deleteItem, Database.deleteWideItem, Database.deleteItem]
      obtain ⟨_ | tables⟩ := database
      · exact conclude_ask_of_no_tables _ _ _
      · rw [Database.tables_bind]
        apply conclude_ask_bind
        intro row _
        rw [conclude, close_see_bind, close_change_bind, eraseInTurn, close_forM_eraseItem]
        simp only [List.contains_reverse]
        rfl

theorem flagPrimary_clearPrimary (tables : Tables) (id : Int) :
    tables.clearPrimary.flagPrimary id = tables.choosePrimary id := by
  simp only [Tables.clearPrimary, Tables.flagPrimary, Tables.choosePrimary, List.map_map,
    Tables.mk.injEq, true_and, and_true]
  apply List.map_congr_left
  intro row _
  obtain ⟨key, name, _ | _⟩ := row <;> by_cases chosen : key = id <;> simp [chosen]

theorem conclude_setPrimaryView (name : Wide) (database : Database) :
    (Session.setPrimaryView name).conclude database =
      ending database (database.setPrimaryWideView name) := by
  cases name with
  | broken glyphs => obtain ⟨_ | tables⟩ := database <;> rfl
  | sound name =>
      rw [Session.setPrimaryView, Database.setPrimaryWideView, Database.setPrimaryView]
      obtain ⟨_ | tables⟩ := database
      · exact conclude_ask_of_no_tables _ _ _
      · rw [Database.tables_bind]
        apply conclude_ask_bind
        intro row _
        rw [conclude, close_change_bind, close_change_bind, close_commit_bind,
          flagPrimary_clearPrimary]
        rfl

theorem conclude_addSoundMember (name fullName : String) (database : Database) :
    (Session.addViewMember (.sound name) (.sound fullName)).conclude database =
      ending database (database.addViewMember name fullName) := by
  rw [Session.addViewMember, Database.addViewMember]
  obtain ⟨_ | tables⟩ := database
  · exact conclude_ask_of_no_tables _ _ _
  · rw [Database.tables_bind]
    apply conclude_ask_bind
    intro view _
    apply conclude_ask_bind
    intro item _
    dsimp only
    rw [conclude, close_see_bind]
    by_cases listed : (⟨view.id, item.id⟩ : MemberRow) ∈ tables.members
    · rw [if_pos (List.contains_iff_mem.mpr listed), if_pos listed]
      rfl
    · have inserted : tables.insertMember ⟨view.id, item.id⟩ = some _ := if_neg listed
      rw [if_neg (fun member => listed (List.contains_iff_mem.mp member)), if_neg listed, inserted]
      rw [close, run_write_bind inserted]
      rfl

theorem conclude_addViewMember (name fullName : Wide) (database : Database) :
    (Session.addViewMember name fullName).conclude database =
      ending database (database.addWideMember name fullName) := by
  by_cases read : ∃ view path, name = .sound view ∧ fullName = .sound path
  case pos =>
    obtain ⟨view, path, rfl, rfl⟩ := read
    exact conclude_addSoundMember view path database
  case neg =>
    rw [Database.addWideMember_of_broken read, Session.addViewMember, Database.getWideView,
      Database.getWideItem]
    simp only [error_faultBefore_bind]
    obtain ⟨_ | tables⟩ := database
    · rfl
    · simp only [Database.tables_bind]
      apply conclude_ask_bind
      intro view found
      cases fullName with
      | broken glyphs isBroken => exact conclude_getWideItem_bind isBroken _ _
      | sound path =>
          cases name with
          | broken glyphs => cases found
          | sound name => exact absurd ⟨name, path, rfl, rfl⟩ read

/-- A new view is stored together with its members, or nothing of it is. -/
theorem conclude_storeListing (tables : Tables) (view : ViewRow) (listing : List MemberRow)
    (fault : Workspace.Fault) (next : Unit → Session α) :
    (refusingConflicts fault (do
        write fun tables => tables.insertView view
        write fun tables => tables.insertMembers listing
        commit) >>= next).conclude ⟨some tables⟩ =
      match (tables.insertView view).bind fun viewed => viewed.insertMembers listing with
      | none => (.error (.workspace fault), ⟨some tables⟩)
      | some changed => (next ()).conclude ⟨some changed⟩ := by
  rw [conclude]
  cases inserted : tables.insertView view with
  | none => exact close_of_conflict (run_write_bind_of_none inserted _) _
  | some viewed =>
      rw [Option.bind_some]
      cases listed : viewed.insertMembers listing with
      | none =>
          apply close_of_conflict
          rw [run_write_bind inserted]
          exact run_write_bind_of_none listed _
      | some changed =>
          rw [close_refusingConflicts_bind
            ((run_write_bind inserted _).trans (run_write_bind listed _))]
          rfl

/-- A view that was stored is there to be chosen, so the choice does not fail. -/
theorem conclude_createSoundView {database : Database}
    (fits : ∀ tables, database.content = some tables → tables.WellFormed)
    (name : String) (members : List String) (primary missed : Bool) :
    (Session.createView (.sound name) (members.map .sound) primary missed).conclude database =
      ending database (database.createView name members primary missed) := by
  rw [Session.createView, Database.createView, requireWideName_sound]
  apply conclude_ofExcept_bind
  intro _ accepted
  obtain ⟨_ | tables⟩ := database
  · exact conclude_ask_of_no_tables _ _ _
  have wellFormed := fits tables rfl
  have looked : (if missed then .ok none else tables.findWideView (.sound name) :
      Except OperationFault _) = .ok (if missed then none else tables.viewNamed? name) := by
    rw [wellFormed.findWideView_sound]
    cases missed <;> rfl
  have taken : (!missed && (tables.viewNamed? name).isSome) =
      (if missed then none else tables.viewNamed? name).isSome := by
    cases missed <;> rfl
  simp only [Tables.getWideItems_map_sound]
  rw [Database.tables_bind, wellFormed.findView_eq, conclude_ask_bind_of_ok looked]
  change _ = ending _ (if _ then _ else _)
  rw [taken]
  cases seen : (if missed then none else tables.viewNamed? name) with
  | some row =>
      have named : row.name = name := by
        cases missed with
        | true => cases seen
        | false => exact (Tables.mem_of_findView ((wellFormed.findView_eq name).trans
            (congrArg Except.ok seen))).2
      rw [← named]
      rfl
  | none =>
    simp only [Option.isSome_none, Bool.false_eq_true, if_false]
    apply conclude_ask_bind
    intro items found
    rw [conclude, close_see_bind, ← conclude]
    change (refusingConflicts _ _ >>= _).conclude _ = _
    rw [conclude_storeListing]
    cases stored : (tables.insertView ⟨tables.nextViewId, name, false⟩).bind fun viewed =>
        viewed.insertMembers
          ((items.map ItemRow.id).eraseDups.map fun item => ⟨tables.nextViewId, item⟩) with
    | none => rfl
    | some changed =>
        obtain ⟨viewed, inserted, listed⟩ := Option.bind_eq_some_iff.mp stored
        dsimp only
        split
        case isFalse => rfl
        case isTrue =>
          have chosen := wellFormed.getView_insertListing (of?_of_requireName accepted)
            (Tables.mem_of_getItems found) inserted listed
          rw [conclude_setPrimaryView, Database.setPrimaryWideView, Database.setPrimaryView,
            Database.tables_bind, chosen]
          rfl

theorem conclude_createView {database : Database}
    (fits : ∀ tables, database.content = some tables → tables.WellFormed)
    (name : Wide) (members : List Wide) (primary missed : Bool) :
    (Session.createView name members primary missed).conclude database =
      ending database (database.createWideView name members primary missed) := by
  by_cases read : ∃ (text : String) (paths : List String), name = .sound text ∧
      members = paths.map .sound
  case pos =>
    obtain ⟨text, paths, rfl, rfl⟩ := read
    rw [Database.createWideView_sound]
    exact conclude_createSoundView fits text paths primary missed
  case neg =>
    rw [Database.createWideView_of_broken read, Session.createView, Database.brokenViewFault]
    simp only [error_faultBefore_bind]
    apply conclude_ofExcept_bind
    intro _ _
    obtain ⟨_ | tables⟩ := database
    · exact conclude_ask_of_no_tables _ _ _
    rw [Database.tables_bind]
    -- Once the members are found, their full names are sound, so the name of the view is not.
    have listed (next : List ItemRow → Int → String → Session ViewRow) :
        ((ask fun tables => tables.getWideItems members) >>= fun items => see Tables.nextViewId >>=
          fun id => ofExcept (encode name) >>= next items id).conclude ⟨some tables⟩ =
        ending ⟨some tables⟩ (.error (faultBefore (do let _items ← tables.getWideItems members))) := by
      rw [error_faultBefore_bind]
      apply conclude_ask_bind
      intro items found
      cases name with
      | broken glyphs => rfl
      | sound text =>
          obtain ⟨paths, rfl⟩ := Tables.getWideItems_eq_ok found
          exact absurd ⟨text, paths, rfl, rfl⟩ read
    cases missed with
    | true => exact listed _
    | false =>
        rw [if_pos (Bool.not_false), error_faultBefore_bind]
        apply conclude_ask_bind
        intro taken _
        cases taken with
        | some row => rfl
        | none => exact listed _

namespace Operation

/-- An operation step by step; what it answers is left out. -/
def steps : Operation → Session Unit
  | .createItem overlooked missed name kind displayName parent =>
      discard (Session.createItem overlooked missed name kind displayName parent)
  | .updateItem fullName changes => discard (Session.updateItem fullName changes)
  | .deleteItem fullName => Session.deleteItem fullName
  | .createView name members primary missed => discard (Session.createView name members primary missed)
  | .addViewMember name fullName => Session.addViewMember name fullName
  | .setPrimaryView name => discard (Session.setPrimaryView name)
  | .getItem fullName => discard (ask fun tables => tables.getWideItem fullName none)
  | .getView name => discard (ask fun tables => tables.getWideView name)
  | .load => discard (ask fun tables => (tables.snapshot.mapError .workspace).result)

end Operation

/-- How a session ends that leaves a changed database or is refused, its answer left out. -/
def settled (database : Database) :
    Except OperationFault Database → Except OperationFault Unit × Database
  | .ok changed => (.ok (), changed)
  | .error fault => (.error fault, database)

theorem conclude_discard (steps : Session α) (database : Database) :
    (discard steps).conclude database =
      ((steps.conclude database).1.map fun _ => (), (steps.conclude database).2) := by
  obtain ⟨run⟩ := steps
  change (andThen ⟨run⟩ fun _ => ⟨fun draft => (.ok (), draft)⟩).conclude database = _
  simp only [conclude, close, andThen]
  rcases run ⟨database, database⟩ with ⟨_ | _, after⟩ <;> rfl

theorem settled_of_ending {steps : Session α} {database : Database}
    {outcome : Except OperationFault (Commit α)}
    (ended : steps.conclude database = ending database outcome) :
    (discard steps).conclude database = settled database (outcome.map Commit.database) := by
  rw [conclude_discard, ended]
  cases outcome <;> rfl

theorem settled_of_ask (question : Tables → Except OperationFault α) (database : Database) :
    (discard (ask question)).conclude database =
      settled database ((database.tables >>= question).map fun _ => database) := by
  rw [conclude_discard]
  change ((database.tables >>= question).map _, database) = _
  cases database.tables >>= question <;> rfl

/-- An operation carried out step by step, in a session of its own, ends as it was said to. -/
theorem conclude_steps {database : Database}
    (fits : ∀ tables, database.content = some tables → tables.WellFormed) (operation : Operation) :
    operation.steps.conclude database = settled database (operation.apply database) := by
  cases operation with
  | createItem overlooked missed name kind displayName parent =>
      exact settled_of_ending (conclude_createItem overlooked missed name kind displayName parent _)
  | updateItem fullName changes => exact settled_of_ending (conclude_updateItem fullName changes _)
  | deleteItem fullName =>
      rw [Operation.steps, conclude_deleteItem, Operation.apply]
      cases database.deleteWideItem fullName <;> rfl
  | createView name members primary missed =>
      exact settled_of_ending (conclude_createView fits name members primary missed)
  | addViewMember name fullName =>
      rw [Operation.steps, conclude_addViewMember, Operation.apply]
      cases database.addWideMember name fullName <;> rfl
  | setPrimaryView name => exact settled_of_ending (conclude_setPrimaryView name _)
  | getItem fullName => exact settled_of_ask _ _
  | getView name => exact settled_of_ask _ _
  | load =>
      rw [Operation.steps, settled_of_ask, Operation.apply, Database.load, result_ofExcept_bind]

end Wayfinder.Storage
