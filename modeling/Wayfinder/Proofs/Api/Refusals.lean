import Wayfinder.Proofs.Api.Integrity
import Wayfinder.Proofs.Storage.Memberships
import Wayfinder.Proofs.Storage.Sessions

/-!
# What is refused changes nothing

A request asks for one operation, or for none. When the operation is carried out, the snapshot made
after it has what was changed, so the answer is no failure; when it is refused, the database is as it was
and the answer is a failure.
-/

namespace Wayfinder.Api

open Storage Workspace

/-- The operation that a request to create an item asks for. -/
def ItemCreate.operation (request : ItemCreate) : Operation :=
  .createItem none false request.name request.kindOrDefault request.displayNameOrDefault
    request.parentOrDefault

/-- The operation that a request to change an item asks for. -/
def ItemUpdate.operation (request : ItemUpdate) (fullName : String) : Operation :=
  .updateItem (.sound fullName) ⟨request.displayName, request.disabled, []⟩

/-- The operation that a request to create a view asks for. -/
def ViewCreate.operation (request : ViewCreate) : Operation :=
  .createView request.name request.membersOrDefault request.primaryOrDefault false

/-- The operation that a request asks for at an endpoint, if it is to change something and what it
carries is sound. -/
def Endpoint.operation? (endpoint : Endpoint) (request : Request) : Option Operation :=
  match endpoint with
  | .createItem =>
    (payload ItemCreate.ofFields request.body).toOption.bind fun change => some change.operation
  | .updateItem path =>
    (payload ItemUpdate.ofFields request.body).toOption.bind fun change =>
      (fullNameOfJobPath path).toOption.map change.operation
  | .deleteItem path => (fullNameOfJobPath path).toOption.map fun fullName => .deleteItem (.sound fullName)
  | .createView =>
    (payload ViewCreate.ofFields request.body).toOption.bind fun change => some change.operation
  | .addMember view fullName => some (.addViewMember (.sound view) (.sound fullName))
  | .choosePrimary view => some (.setPrimaryView (.sound view))
  | _ => none

/-- The operation that a request to a site asks for. -/
def Site.operation? (site : Site) (request : Request) : Option Operation :=
  match dispatch (routes site.base) request.method request.path with
  | .endpoint endpoint => endpoint.operation? request
  | _ => none

/-- What an answer says of an operation that was asked for. -/
inductive Answers (database : Database) (served : Served) (operation : Operation) : Prop where
  /-- It was carried out, and that is no failure. -/
  | done {changed : Database} (carried : operation.apply database = .ok changed)
      (after : served.database = changed) (success : served.reply.status < 400)
  /-- It was refused, nothing has changed, and that is a failure. -/
  | refused {fault : OperationFault} (fails : operation.apply database = .error fault)
      (after : served.database = database) (failure : 400 ≤ served.reply.status)

/-- What an answer says of what was asked for, if anything was; else nothing has changed. -/
inductive AnswersTo (database : Database) (served : Served) : Option Operation → Prop where
  | operation {operation : Operation} (answers : Answers database served operation) :
      AnswersTo database served (some operation)
  | nothing (after : served.database = database) : AnswersTo database served none

/-- An operation that is carried out is answered as such. -/
theorem Answers.of_carried {database changed : Database} {served : Served} {operation : Operation}
    (answers : Answers database served operation) (carried : operation.apply database = .ok changed) :
    served.database = changed ∧ served.reply.status < 400 := by
  cases answers with
  | done carried' after success =>
      rw [carried] at carried'
      cases carried'
      exact ⟨after, success⟩
  | refused fails _ _ =>
      rw [carried] at fails
      cases fails

/-- What is answered as a failure has changed nothing. -/
theorem AnswersTo.of_failure {database : Database} {served : Served} {asked : Option Operation}
    (answered : AnswersTo database served asked) (failed : 400 ≤ served.reply.status) :
    served.database = database := by
  cases answered with
  | nothing after => exact after
  | operation answers =>
      cases answers with
      | done _ _ success => exact absurd success (Nat.not_lt.mpr failed)
      | refused _ after _ => exact after

section Replies

variable {database : Database}

theorem status_fault (fault : Fault) : 400 ≤ (Reply.fault fault).status := by
  change 400 ≤ statusOf fault.category
  cases fault.category <;> decide

theorem status_ofFault (fault : OperationFault) : 400 ≤ (ofFault database fault).reply.status := by
  cases fault with
  | workspace fault => exact status_fault fault
  | storage fault => exact (by decide : 400 ≤ 500)

theorem answers_ofFault {operation : Operation} {fault : OperationFault}
    (refused : operation.apply database = .error fault) :
    Answers database (ofFault database fault) operation :=
  .refused refused (database_ofFault fault) (status_ofFault fault)

/-- An operation is answered by how it ends, if the answer to one that is carried out is no failure. -/
theorem answers_afterCommit {α : Type} {outcome : Except OperationFault (Commit α)}
    {next : Database → Served} {operation : Operation} (fits : FitsTogether database)
    (carried : operation.apply database = outcome.map Commit.database)
    (kept : ∀ after, (next after).database = after)
    (shown : ∀ tables, database = ⟨some tables⟩ → tables.WellFormed → ∀ commit, outcome = .ok commit →
      (next commit.database).reply.status < 400) :
    Answers database (afterCommit database outcome next) operation := by
  cases outcome with
  | error fault => exact answers_ofFault carried
  | ok commit =>
      obtain ⟨_ | tables⟩ := database
      · exact absurd carried (Operation.apply_of_no_tables operation _)
      · exact .done carried (kept commit.database) (shown tables rfl (fits tables rfl) commit rfl)

/-- The snapshot made after a change shows an item that is there. -/
theorem shows_item {tables : Tables} (wellFormed : tables.WellFormed) {fullName : String} {id : Int}
    (leads : tables.LeadsTo (Path.names fullName) (some id)) (status : Nat) :
    (fromReload ⟨some tables⟩ (itemReply status fullName)).reply.status = status := by
  obtain ⟨objects, loaded, portrays, -⟩ := wellFormed.exists_snapshot
  obtain ⟨row, found, -⟩ := wellFormed.leadsTo_iff_follow?.mp leads
  have shown : objects.byFullName? snapshotSpace fullName = some (objectOf tables.items row.id) := by
    rw [portrays.byFullName?_eq wellFormed, found, Option.map_some]
  simp only [fromReload, loaded, itemReply, shown]
  rfl

/-- The snapshot made after a change shows a view that is there. -/
theorem shows_view {tables : Tables} (wellFormed : tables.WellFormed) {name : String}
    (there : ∃ row ∈ tables.views, row.name = name) (status : Nat) :
    (fromReload ⟨some tables⟩ (viewReply status name)).reply.status = status := by
  obtain ⟨objects, loaded, portrays, -⟩ := wellFormed.exists_snapshot
  obtain ⟨row, found⟩ := there
  have shown : objects.viewNamed? snapshotSpace name = some (viewObjectOf tables.views row.id) := by
    rw [portrays.viewNamed?_eq]
    exact Option.map_eq_some_iff.mpr ⟨row, wellFormed.viewNamed?_eq_some_iff.mpr found, rfl⟩
  simp only [fromReload, loaded, viewReply, shown]
  rfl

end Replies

section Views

variable {tables : Tables} {name : String}

/-- The choice of the primary view leaves every view there. -/
theorem exists_view_choosePrimary (there : ∃ row ∈ tables.views, row.name = name) (chosen : Int) :
    ∃ row ∈ (tables.choosePrimary chosen).views, row.name = name := by
  obtain ⟨row, stored, named⟩ := there
  exact ⟨_, List.mem_map_of_mem stored, named⟩

/-- A new view is there. -/
theorem exists_view_createView (wellFormed : tables.WellFormed) {members : List String}
    {primary missed : Bool} {commit : Commit ViewRow}
    (created : (⟨some tables⟩ : Database).createView name members primary missed = .ok commit) :
    ∃ changed, commit.database = ⟨some changed⟩ ∧ changed.WellFormed ∧
      ∃ row ∈ changed.views, row.name = name := by
  obtain ⟨items, viewed, changed, named, found, inserted, listed, outcome⟩ :=
    Database.createView_commit created
  obtain ⟨isListed, -, views⟩ :=
    wellFormed.insertListing named (Tables.mem_of_getItems found) inserted listed
  have there : ∃ row ∈ changed.views, row.name = name :=
    ⟨⟨tables.nextViewId, name, false⟩, by simp [views], rfl⟩
  rcases outcome with ⟨-, -, after⟩ | ⟨-, row, -, -, after⟩
  · exact ⟨changed, after, isListed, there⟩
  · exact ⟨_, after, isListed.choosePrimary row.id, exists_view_choosePrimary there row.id⟩

end Views

section Endpoints

variable {database : Database} (fits : FitsTogether database)

include fits

theorem answers_createItem (request : ItemCreate) :
    Answers database (Site.createItem request database) request.operation := by
  unfold Site.createItem ItemCreate.operation
  split
  case h_1 name displayName parent named shown located =>
    rw [named, text?_eq_some_iff.mp shown, text?_eq_some_iff.mp located]
    apply answers_afterCommit fits
    · rw [Operation.apply, Database.createWideItem_sound, Database.createItem_nonEmpty]
      rfl
    · simp
    · rintro tables rfl wellFormed commit created
      obtain ⟨changed, after, isChanged, leads⟩ := wellFormed.leadsTo_createItem created
      rw [nonEmpty?_nonEmpty?] at leads
      rw [after, shows_item isChanged]
      · decide
      · exact leads
  case h_2 unread =>
    apply answers_ofFault
    rw [Operation.apply, Database.createWideItem_of_broken]
    · rfl
    · rintro ⟨name, displayName, parent, named, shown, located⟩
      exact unread name displayName parent named (text?_eq_some_iff.mpr shown)
        (text?_eq_some_iff.mpr located)

theorem answers_updateItem (request : ItemUpdate) {path fullName : String}
    (read : fullNameOfJobPath path = .ok fullName) :
    Answers database (Site.updateItem path request database) (request.operation fullName) := by
  have asked : (⟨request.displayName, request.disabled, []⟩ : WideChanges).sound? =
      (request.displayName.mapM fun (value : Option Text.Wide) => value.mapM Text.Wide.text?).map
        fun displayName => ⟨displayName, request.disabled, []⟩ := rfl
  unfold Site.updateItem ItemUpdate.operation
  rw [read]
  dsimp only
  cases shown : request.displayName.mapM fun value => value.mapM Text.Wide.text? with
  | none =>
      apply answers_ofFault
      rw [shown] at asked
      rw [Operation.apply, Database.updateWideItem_of_broken asked]
      rfl
  | some displayName =>
      rw [shown] at asked
      rw [WideChanges.sound?_eq_some_iff.mp asked]
      apply answers_afterCommit fits
        (by rw [Operation.apply, Database.updateWideItem_sound]) (by simp)
      rintro tables rfl wellFormed commit updated
      obtain ⟨row, found, allowed, after⟩ := Database.updateItem_commit updated
      obtain ⟨stored, leads⟩ := wellFormed.getItem_eq_ok_iff_leadsTo.mp found
      rw [after, shows_item (wellFormed.updateItem stored allowed)
        (leads.mono (wellFormed.kept_updateItem stored _))]
      decide

theorem answers_deleteItem {path fullName : String} (read : fullNameOfJobPath path = .ok fullName) :
    Answers database (Site.deleteItem path database) (.deleteItem (.sound fullName)) := by
  unfold Site.deleteItem
  rw [read]
  apply answers_afterCommit fits (by rw [Operation.apply, Database.deleteWideItem]) fun _ => rfl
  intro _ _ _ _ _
  exact (by decide : 204 < 400)

theorem answers_createView (request : ViewCreate) :
    Answers database (Site.createView request database) request.operation := by
  unfold Site.createView ViewCreate.operation
  split
  case h_1 name members named listing =>
    rw [named, mapM_text?_eq_some_iff.mp listing]
    apply answers_afterCommit fits (by rw [Operation.apply, Database.createWideView_sound]) (by simp)
    rintro tables rfl wellFormed commit created
    obtain ⟨changed, after, isChanged, there⟩ := exists_view_createView wellFormed created
    rw [after, shows_view isChanged there]
    decide
  case h_2 unread =>
    apply answers_ofFault
    rw [Operation.apply, Database.createWideView_of_broken]
    · rfl
    · rintro ⟨name, members, named, listing⟩
      exact unread name members named (mapM_text?_eq_some_iff.mpr listing)

theorem answers_addMember (view fullName : String) :
    Answers database (afterCommit database (database.addViewMember view fullName) fun after =>
      fromReload after (viewReply 200 view)) (.addViewMember (.sound view) (.sound fullName)) := by
  apply answers_afterCommit fits (by rw [Operation.apply, Database.addWideMember_sound]) (by simp)
  rintro tables rfl wellFormed commit added
  obtain ⟨changed, after, succeeds⟩ := wellFormed.succeeds_addViewMember added
  obtain ⟨row, item, found, -, outcome⟩ := Database.addViewMember_commit added
  have kept : changed.views = tables.views := by
    rw [after] at outcome
    rcases outcome with ⟨-, same⟩ | ⟨other, inserted, same⟩
    · cases same
      rfl
    · cases same
      exact (Tables.rows_insertMember inserted).2
  rw [after, shows_view succeeds.wellFormed ⟨row, kept ▸ Tables.mem_of_getView found⟩]
  decide

theorem answers_choosePrimary (view : String) :
    Answers database (afterCommit database (database.setPrimaryView view) fun after =>
      fromReload after (viewReply 200 view)) (.setPrimaryView (.sound view)) := by
  apply answers_afterCommit fits (by rw [Operation.apply, Database.setPrimaryWideView]) (by simp)
  rintro tables rfl wellFormed commit chosen
  obtain ⟨row, found, -, after⟩ := Database.setPrimaryView_commit chosen
  have there := exists_view_choosePrimary ⟨row, Tables.mem_of_getView found⟩ row.id
  rw [after, shows_view (wellFormed.choosePrimary row.id) there]
  decide

omit fits in
theorem answersTo_withPayload {α : Type} {check : Json → Input.Checked α} {request : Request}
    {next : α → Served} {asked : α → Option Operation}
    (each : ∀ value, AnswersTo database (next value) (asked value)) :
    AnswersTo database (withPayload check request database next)
      ((payload check request.body).toOption.bind asked) := by
  unfold withPayload
  cases payload check request.body with
  | error reply => exact .nothing rfl
  | ok value => exact each value

theorem answersTo_updateItem (path : String) (request : ItemUpdate) :
    AnswersTo database (Site.updateItem path request database)
      ((fullNameOfJobPath path).toOption.map request.operation) := by
  cases read : fullNameOfJobPath path with
  | error fault =>
      rw [Site.updateItem, read]
      exact .nothing rfl
  | ok fullName => exact .operation (answers_updateItem fits request read)

theorem answersTo_deleteItem (path : String) :
    AnswersTo database (Site.deleteItem path database)
      ((fullNameOfJobPath path).toOption.map fun fullName => .deleteItem (.sound fullName)) := by
  cases read : fullNameOfJobPath path with
  | error fault =>
      rw [Site.deleteItem, read]
      exact .nothing rfl
  | ok fullName => exact .operation (answers_deleteItem fits read)

/-- A request does what it asks for, and one that asks for nothing changes nothing. -/
theorem answersTo_carryOut (site : Site) (request : Request) (endpoint : Endpoint) :
    AnswersTo database (site.carryOut request database endpoint) (endpoint.operation? request) := by
  cases endpoint with
  | createItem => exact answersTo_withPayload fun value => .operation (answers_createItem fits value)
  | updateItem path => exact answersTo_withPayload fun value => answersTo_updateItem fits path value
  | deleteItem path => exact answersTo_deleteItem fits path
  | createView => exact answersTo_withPayload fun value => .operation (answers_createView fits value)
  | addMember view fullName => exact .operation (answers_addMember fits view fullName)
  | choosePrimary view => exact .operation (answers_choosePrimary fits view)
  | showItem path => exact .nothing (database_fromSnapshot _)
  | listViews | showView => exact .nothing (database_fromSnapshot _)
  | search | suggest | lookup => exact .nothing (Site.database_searchSnapshot site request _)
  | home | health => exact .nothing rfl

theorem answersTo_serve (site : Site) (request : Request) :
    AnswersTo database (site.serve request database) (site.operation? request) := by
  unfold Site.operation? Site.serve
  dsimp only
  cases dispatch (routes site.base) request.method request.path with
  | endpoint endpoint => exact answersTo_carryOut fits site request endpoint
  | wrongMethod => exact .nothing rfl
  | nowhere =>
      dsimp only
      split <;> exact .nothing rfl

end Endpoints

/-- A database on which a failure changes nothing. The identifiers that the next creation gives are read
off the rows, so they are the same as well. -/
structure FailuresChangeNothing (database : Database) : Prop where
  /-- An operation that fails, at whichever of its steps, leaves the database as it was. -/
  operation : ∀ (operation : Operation) (fault : OperationFault),
    (operation.steps.conclude database).1 = .error fault →
      (operation.steps.conclude database).2 = database
  /-- So does a request that is answered as a failure. -/
  request : ∀ (site : Site) (request : Request), 400 ≤ (site.serve request database).reply.status →
    (site.serve request database).database = database
  /-- A change that a request asked for and that was committed is not answered as a failure. -/
  committed : ∀ (site : Site) (request : Request) (operation : Operation) (changed : Database),
    site.operation? request = some operation →
      operation.steps.conclude database = (.ok (), changed) →
        (site.serve request database).database = changed ∧
          (site.serve request database).reply.status < 400

/-- Whatever was done to a database, a failure changes nothing. -/
theorem failuresChangeNothing_of_actions (actions : List Action) :
    FailuresChangeNothing (databaseAfterAll actions) := by
  have fits := fitsTogether_databaseAfterAll actions
  constructor
  case operation =>
    intro operation fault failed
    rw [conclude_steps fits] at failed ⊢
    cases ended : operation.apply (databaseAfterAll actions) with
    | error other => rfl
    | ok changed =>
        rw [ended] at failed
        cases failed
  case request =>
    intro site request failed
    exact (answersTo_serve fits site request).of_failure failed
  case committed =>
    intro site request operation changed asked stored
    have answered := answersTo_serve fits site request
    rw [asked] at answered
    rw [conclude_steps fits] at stored
    cases ended : operation.apply (databaseAfterAll actions) with
    | error fault =>
        rw [ended] at stored
        cases stored
    | ok other =>
        rw [ended] at stored
        cases stored
        cases answered with
        | operation answers => exact answers.of_carried ended

end Wayfinder.Api
