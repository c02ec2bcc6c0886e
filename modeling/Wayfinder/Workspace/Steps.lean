import Wayfinder.Workspace.Editing

/-!
# Operations step by step

An operation looks at objects and changes them one statement after another, and it may be refused in
between. What was changed by then stays changed: that a refusal leaves nothing behind is a matter of the
order of the statements.
-/

namespace Wayfinder.Workspace

/-- Statements about objects: what they answer, or why they are refused, and the objects after them. -/
abbrev Steps := ExceptT Fault (StateM Objects)

namespace Steps

variable {α β ι : Type}

/-- Carry out statements on objects. -/
def on (steps : Steps α) (objects : Objects) : Except Fault α × Objects :=
  (steps.run.run objects).run

/-- Look something up. -/
def see (value : Objects → α) : Steps α := do
  return value (← get)

/-- Make an object, unless its constructor refuses to. -/
def make (constructed : Except Fault α) (keep : Objects → α → Objects × ι) : Steps ι := do
  let object ← ExceptT.mk (pure constructed)
  let (objects, id) := keep (← get) object
  set objects
  return id

section On

variable (objects : Objects)

@[simp] theorem on_pure (value : α) : (pure value : Steps α).on objects = (.ok value, objects) := rfl

@[simp] theorem on_throw (fault : Fault) :
    (throw fault : Steps α).on objects = (.error fault, objects) := rfl

@[simp] theorem on_see (value : Objects → α) : (see value).on objects = (.ok (value objects), objects) :=
  rfl

@[simp] theorem on_modify (change : Objects → Objects) :
    (modify change : Steps Unit).on objects = (.ok (), change objects) := rfl

@[simp] theorem on_bind (first : Steps α) (next : α → Steps β) : (first >>= next).on objects =
    match first.on objects with
    | (.ok value, after) => (next value).on after
    | (.error fault, after) => (.error fault, after) := by
  unfold on
  simp only [ExceptT.run_bind, StateT.run_bind, Id.run_bind]
  rcases (first.run.run objects).run with ⟨fault | value, after⟩ <;> rfl

@[simp] theorem on_map (change : α → β) (steps : Steps α) : (change <$> steps).on objects =
    ((steps.on objects).1.map change, (steps.on objects).2) := by
  rw [map_eq_pure_bind, on_bind]
  rcases steps.on objects with ⟨fault | value, after⟩ <;> rfl

@[simp] theorem on_discard (steps : Steps α) : (discard steps).on objects =
    ((steps.on objects).1.map fun _ => (), (steps.on objects).2) :=
  on_map objects (fun _ => ()) steps

@[simp] theorem on_make (constructed : Except Fault α) (keep : Objects → α → Objects × ι) :
    (make constructed keep).on objects = match constructed with
      | .ok object => (.ok (keep objects object).2, (keep objects object).1)
      | .error fault => (.error fault, objects) := by
  cases constructed <;> rfl

end On

/-- Make a workspace. -/
def newSpace : Steps SpaceId :=
  make (.ok ()) fun objects _ => objects.newSpace

/-- Make a job that no group holds. -/
def newJob (name : String) (displayName : Option String) (disabled : Bool) (id : Option Int) :
    Steps ItemId :=
  make (Objects.job name displayName disabled id) Objects.newItem

/-- Make a folder that no group holds. -/
def newFolder (name : String) (displayName : Option String) (id : Option Int) : Steps ItemId :=
  make (Objects.folder name displayName id) Objects.newItem

/-- Make a view that no workspace holds, whatever workspace it is said to belong to. -/
def newView (name : String) (owner : Option SpaceId) (id : Option Int) : Steps ViewId :=
  make ((Objects.listView name id).map fun view => { view with owner }) Objects.newView

/-- Add an item to a group. -/
def addItem (group : GroupId) (id : ItemId) : Steps ItemId := do
  let some item ← see fun objects => objects.item? id | return id
  if (← see fun objects => objects.child? group item.name.text).isSome then
    throw (.duplicateItem item.name.text)
  modify fun objects => objects.modifyItem id fun item => { item with parent := some group }
  modify fun objects => objects.append group id
  return id

/-- Make a job in a group. -/
def createJob (group : GroupId) (name : String) (displayName : Option String) (disabled : Bool)
    (id : Option Int) : Steps ItemId := do
  addItem group (← newJob name displayName disabled id)

/-- Make a folder in a group. -/
def createFolder (group : GroupId) (name : String) (displayName : Option String) (id : Option Int) :
    Steps ItemId := do
  addItem group (← newFolder name displayName id)

/-- Add a view to a workspace. -/
def addView (space : SpaceId) (id : ViewId) : Steps ViewId := do
  let some view ← see fun objects => objects.view? id | return id
  if (← see fun objects => objects.viewNamed? space view.name.text).isSome then
    throw (.duplicateView view.name.text)
  modify fun objects => objects.modifyView id fun view => { view with owner := some space }
  modify fun objects => objects.modifySpace space fun space => { space with views := space.views ++ [id] }
  return id

/-- Choose the view that a workspace shows first. -/
def setPrimaryView (space : SpaceId) (id : ViewId) : Steps Unit := do
  if id ∉ (← see fun objects => ((objects.space? space).map Space.views).getD []) then
    throw (.foreignView ((← see fun objects => (objects.view? id).map fun view => view.name.text).getD ""))
  modify fun objects => objects.modifySpace space fun space => { space with primary := some id }

/-- List an item in a view, unless it is listed already. -/
def listItem (view : ViewId) (item : ItemId) : Steps Unit :=
  modify fun objects => objects.modifyView view fun view => view.add item

/-- Take an item off a view. -/
def unlistItem (view : ViewId) (item : ItemId) : Steps Unit :=
  modify fun objects => objects.modifyView view fun view => view.remove item

end Steps

/-- A call of an operation that makes or changes objects. -/
inductive Call where
  | newSpace
  | newJob (name : String) (displayName : Option String) (disabled : Bool) (id : Option Int)
  | newFolder (name : String) (displayName : Option String) (id : Option Int)
  | newView (name : String) (owner : Option SpaceId) (id : Option Int)
  | createJob (group : GroupId) (name : String) (displayName : Option String) (disabled : Bool)
      (id : Option Int)
  | createFolder (group : GroupId) (name : String) (displayName : Option String) (id : Option Int)
  | addItem (group : GroupId) (item : ItemId)
  | addView (space : SpaceId) (view : ViewId)
  | setPrimaryView (space : SpaceId) (view : ViewId)
  | listItem (view : ViewId) (item : ItemId)
  | unlistItem (view : ViewId) (item : ItemId)
  deriving DecidableEq, Repr

namespace Call

/-- The statements that a call carries out, but for what it answers. -/
def steps : Call → Steps Unit
  | .newSpace => discard Steps.newSpace
  | .newJob name displayName disabled id => discard (Steps.newJob name displayName disabled id)
  | .newFolder name displayName id => discard (Steps.newFolder name displayName id)
  | .newView name owner id => discard (Steps.newView name owner id)
  | .createJob group name displayName disabled id =>
      discard (Steps.createJob group name displayName disabled id)
  | .createFolder group name displayName id => discard (Steps.createFolder group name displayName id)
  | .addItem group item => discard (Steps.addItem group item)
  | .addView space view => discard (Steps.addView space view)
  | .setPrimaryView space view => Steps.setPrimaryView space view
  | .listItem view item => Steps.listItem view item
  | .unlistItem view item => Steps.unlistItem view item

/-- Whether a call is carried out or refused. -/
def outcome (call : Call) (objects : Objects) : Except Fault Unit :=
  (call.steps.on objects).1

/-- The objects after a call. -/
def after (call : Call) (objects : Objects) : Objects :=
  (call.steps.on objects).2

end Call

end Wayfinder.Workspace
