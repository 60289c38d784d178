import SchemaDiagram.Proofs.Workspace

/-!
# The project of a workspace

What is saved of a workspace names its project. Who that is follows from what was done before
(`Workspace.projectAfter`): the last diagram that was restored, and since then the first time the
diagram was saved and the last name it was given. A workspace only keeps a project, or a name for
one that is to come. That this is enough (`Workspace.identified_run`) is shown by following both
through each operation (`Workspace.projectAt_step`, `Workspace.projectAfter_concat`).
-/

namespace SchemaDiagram

namespace Workspace

/-! ## What operations say about the project -/

/-- The saved diagram that an operation restores, and when it does. -/
def Operation.restored? : Operation → Option (Snapshot × Instant)
  | .restore saved now => some (saved, now)
  | _ => none

/-- The name that an operation gives to the project. -/
def Operation.name? : Operation → Option String
  | .setProjectName name => some name
  | _ => none

/-- When an operation saves the diagram. -/
def Operation.savedAt? : Operation → Option Instant
  | .snapshot now => some now
  | _ => none

/-- The diagram that was restored last, and when it was. -/
def lastRestored? (operations : List Operation) : Option (Snapshot × Instant) :=
  (operations.filterMap Operation.restored?).getLast?

/-- What was done since a diagram was restored, or from the start if none was. -/
def sinceRestored (operations : List Operation) : List Operation :=
  operations.rtakeWhile (·.restored?.isNone)

/-- The name that was given last since a diagram was restored. -/
def lastName? (operations : List Operation) : Option String :=
  ((sinceRestored operations).filterMap Operation.name?).getLast?

/-- When the diagram was saved for the first time since one was restored. -/
def firstSavedAt? (operations : List Operation) : Option Instant :=
  ((sinceRestored operations).filterMap Operation.savedAt?).head?

/-- The project of a diagram that is saved at a moment after these operations. If the last restored
diagram had an identifier, it is the project of that. Otherwise it begins when the diagram is saved
for the first time. Its name is the last one that it was given, or that of the restored diagram. -/
def projectAfter (operations : List Operation) (now : Instant) : Project :=
  let beginning := (firstSavedAt? operations).getD now
  let name := (lastName? operations).or ((lastRestored? operations).bind (·.1.name))
  match lastRestored? operations with
  | some ({ id := some id, createdAt, .. }, opened) =>
    ⟨id, name.getD Project.untitled, createdAt.getD opened⟩
  | _ => ⟨Project.idAt beginning, name.getD Project.untitled, beginning⟩

/-- The project that a workspace has when it is saved at a moment. -/
def projectAt (w : Workspace) (now : Instant) : Project :=
  w.project.getD (.new w.pendingName now)

/-- The project after one more operation, if the project before it is known for each moment. -/
def Operation.project (operation : Operation) (before : Instant → Project) (now : Instant) :
    Project :=
  match operation.restored? with
  | some (saved, opened) => (saved.project? opened).getD (.new saved.name now)
  | none =>
    let project := before (operation.savedAt?.getD now)
    { project with name := operation.name?.getD project.name }

/-! ## One operation -/

/-- How an operation changes the project of a workspace. -/
theorem projectAt_step (w : Workspace) (operation : Operation) :
    (w.step operation).projectAt = operation.project w.projectAt := by
  funext now
  cases operation with
  | setText text => rfl
  | deleteNode id => rfl
  | connect sourceNode targetNode handles =>
    show (w.connect sourceNode targetNode handles).2.projectAt now = w.projectAt now
    rcases connect_cases w sourceNode targetNode handles with heq | ⟨text, heq⟩ | ⟨-, heq⟩
    · rw [heq]
    · rw [heq]
      rfl
    · rw [heq]
      rfl
  | moveNode id position => rfl
  | clickEdge id => rfl
  | clickPane => rfl
  | pressDelete focus => rfl
  | importContent format content =>
    show (w.importContent format content).2.projectAt now = w.projectAt now
    unfold Workspace.importContent
    split <;> rfl
  | openShareLink url =>
    show (w.openShareLink url).2.projectAt now = w.projectAt now
    unfold Workspace.openShareLink
    split <;> rfl
  | setProjectName name =>
    show (w.setProjectName name).projectAt now = { w.projectAt now with name }
    unfold Workspace.setProjectName Workspace.projectAt
    cases w.project <;> rfl
  | snapshot saved => rfl
  | restore saved opened =>
    show (w.restore saved opened).projectAt now =
      (saved.project? opened).getD (.new saved.name now)
    unfold Workspace.restore Workspace.projectAt Workspace.setText
    cases hid : saved.id <;> simp [Snapshot.project?, hid]

/-- The first of what a function finds in a list with one more element. -/
theorem head?_filterMap_concat {α β : Type} (f : α → Option β) (l : List α) (a : α) :
    ((l ++ [a]).filterMap f).head? = (l.filterMap f).head?.or (f a) := by
  rw [List.filterMap_append, List.head?_append]
  cases h : f a <;> simp [h]

/-- The last of what a function finds in a list with one more element. -/
theorem getLast?_filterMap_concat {α β : Type} (f : α → Option β) (l : List α) (a : α) :
    ((l ++ [a]).filterMap f).getLast? = (f a).or (l.filterMap f).getLast? := by
  rw [List.filterMap_append, List.getLast?_append]
  cases h : f a <;> simp [h]

/-- How one more operation changes the project that follows from the operations. -/
theorem projectAfter_concat (operations : List Operation) (operation : Operation) :
    projectAfter (operations ++ [operation]) = operation.project (projectAfter operations) := by
  funext now
  have hlast : lastRestored? (operations ++ [operation]) =
      operation.restored?.or (lastRestored? operations) := getLast?_filterMap_concat _ _ _
  cases hrestored : operation.restored? with
  | some restored =>
    have hsince : sinceRestored (operations ++ [operation]) = [] :=
      List.rtakeWhile_concat_neg _ _ _ (by simp [hrestored])
    have hname : lastName? (operations ++ [operation]) = none := by
      unfold lastName?
      rw [hsince]
      rfl
    have hsaved : firstSavedAt? (operations ++ [operation]) = none := by
      unfold firstSavedAt?
      rw [hsince]
      rfl
    obtain ⟨⟨id, name, text, layout, createdAt, updatedAt⟩, opened⟩ := restored
    rw [hrestored, Option.some_or] at hlast
    unfold projectAfter Operation.project
    rw [hlast, hname, hsaved, hrestored]
    cases id <;> rfl
  | none =>
    have hsince : sinceRestored (operations ++ [operation]) =
        sinceRestored operations ++ [operation] :=
      List.rtakeWhile_concat_pos _ _ _ (by simp [hrestored])
    have hname : lastName? (operations ++ [operation]) =
        operation.name?.or (lastName? operations) := by
      unfold lastName?
      rw [hsince, getLast?_filterMap_concat]
    have hsaved : firstSavedAt? (operations ++ [operation]) =
        (firstSavedAt? operations).or operation.savedAt? := by
      unfold firstSavedAt?
      rw [hsince, head?_filterMap_concat]
    -- A name that was given now replaces the one before, and the first save stays the first.
    have hcalled (given other : Option String) : (operation.name?.or given |>.or other).getD
        Project.untitled = operation.name?.getD ((given.or other).getD Project.untitled) := by
      cases operation.name? <;> rfl
    have hbegun (first : Option Instant) : (first.or operation.savedAt?).getD now =
        first.getD (operation.savedAt?.getD now) := by
      cases first <;> rfl
    rw [hrestored, Option.none_or] at hlast
    unfold projectAfter Operation.project
    rw [hlast, hname, hsaved, hrestored]
    simp only [hcalled, hbegun]
    split <;> rfl

/-! ## Runs -/

/-- The project of a workspace follows from the operations that lead to it. -/
theorem projectAt_run (settings : Settings) (text : String) (operations : List Operation) :
    ((withText settings text).run operations).projectAt = projectAfter operations := by
  -- By induction on the operations from the last one on, as the project depends on the latest.
  induction operations using List.reverseRecOn with
  | nil => rfl
  | append_singleton operations operation ih =>
    rw [projectAfter_concat, ← ih, ← projectAt_step]
    unfold run
    rw [List.foldl_append]
    rfl

/-- Once the diagram was saved the project keeps its identifier and its beginning, until another
diagram is restored. -/
theorem projectAfter_append (operations : List Operation) {later : List Operation}
    (hlater : ∀ operation ∈ later, operation.restored? = none) (now again : Instant) :
    (projectAfter (operations ++ .snapshot now :: later) again).id =
        (projectAfter operations now).id ∧
      (projectAfter (operations ++ .snapshot now :: later) again).createdAt =
        (projectAfter operations now).createdAt := by
  induction later using List.reverseRecOn generalizing again with
  | nil =>
    rw [projectAfter_concat]
    exact ⟨rfl, rfl⟩
  | append_singleton later operation ih =>
    have hnone : operation.restored? = none := hlater operation (by simp)
    rw [← List.cons_append, ← List.append_assoc, projectAfter_concat]
    unfold Operation.project
    rw [hnone]
    exact ih (fun operation hmem => hlater operation (by simp [hmem])) _

/-- What is saved of a workspace, to which these operations lead, says who its project is. -/
structure Identified (operations : List Operation) (w : Workspace) : Prop where
  /-- The project is the one that follows from the operations. -/
  saved : ∀ now, (w.snapshot now).1.id = some (projectAfter operations now).id ∧
    (w.snapshot now).1.name = some (projectAfter operations now).name ∧
    (w.snapshot now).1.createdAt = some (projectAfter operations now).createdAt
  /-- Whatever is saved later has the same identifier and the same beginning, until another diagram
  is restored. -/
  kept : ∀ now later, (∀ operation ∈ later, operation.restored? = none) → ∀ again,
    ((w.run (.snapshot now :: later)).snapshot again).1.id = (w.snapshot now).1.id ∧
      ((w.run (.snapshot now :: later)).snapshot again).1.createdAt = (w.snapshot now).1.createdAt
  /-- Operations other than restoring, naming and saving have nothing to do with the project. -/
  others : ∀ operation, operation.restored? = none → operation.name? = none →
    operation.savedAt? = none → ∀ now,
      ((w.step operation).snapshot now).1.id = (w.snapshot now).1.id ∧
        ((w.step operation).snapshot now).1.name = (w.snapshot now).1.name ∧
        ((w.step operation).snapshot now).1.createdAt = (w.snapshot now).1.createdAt

/-- What is saved of any workspace that operations lead to says who its project is. -/
theorem identified_run (settings : Settings) (text : String) (operations : List Operation) :
    Identified operations ((withText settings text).run operations) := by
  have hproject := projectAt_run settings text operations
  -- What a workspace saves of its project is what `projectAt` says.
  constructor
  case saved =>
    intro now
    rw [← hproject]
    exact ⟨rfl, rfl, rfl⟩
  case kept =>
    intro now later hlater again
    have hrun : (((withText settings text).run operations).run (.snapshot now :: later)).projectAt =
        projectAfter (operations ++ .snapshot now :: later) := by
      rw [← projectAt_run settings text]
      unfold run
      rw [List.foldl_append]
    obtain ⟨hid, hbeginning⟩ := projectAfter_append operations hlater now again
    rw [← hrun, ← hproject] at hid hbeginning
    exact ⟨congrArg some hid, congrArg some hbeginning⟩
  case others =>
    intro operation hrestored hname hsavedAt now
    have hsame (before : Instant → Project) : operation.project before = before := by
      funext now
      unfold Operation.project
      rw [hrestored, hname, hsavedAt]
      rfl
    have hstep := projectAt_step ((withText settings text).run operations) operation
    rw [hsame] at hstep
    have hnow : ((withText settings text).run operations |>.step operation).projectAt now =
        ((withText settings text).run operations).projectAt now := by
      rw [hstep]
    exact ⟨congrArg (fun project : Project => some project.id) hnow,
      congrArg (fun project : Project => some project.name) hnow,
      congrArg (fun project : Project => some project.createdAt) hnow⟩

/-- A diagram is named and saved; then one is restored that has a name and no identifier, and that
is saved twice and given another name. -/
def renamings : List Operation :=
  [.setProjectName "draft", .snapshot ⟨1, 0, 0⟩,
    .restore { text := "", name := some "shop", createdAt := some ⟨2, 0, 0⟩ } ⟨3, 0, 0⟩,
    .snapshot ⟨4, 0, 0⟩, .setText "Table a", .setProjectName "blog", .snapshot ⟨5, 0, 0⟩]

/-- The project begins with the first save since, whatever the restored diagram said, and keeps its
identifier and its beginning when it gets another name again. -/
theorem identified_renamings :
    let w := (withText {} "").run renamings
    let later := [.snapshot ⟨6, 0, 0⟩, .clickPane, .setProjectName "shop"]
    let again := (w.run later).snapshot ⟨7, 0, 0⟩
    Identified renamings w ∧
      (w.snapshot ⟨6, 0, 0⟩).1.id = some (Project.idAt ⟨4, 0, 0⟩) ∧
      (w.snapshot ⟨6, 0, 0⟩).1.name = some "blog" ∧
      (w.snapshot ⟨6, 0, 0⟩).1.createdAt = some ⟨4, 0, 0⟩ ∧
      again.1.id = some (Project.idAt ⟨4, 0, 0⟩) ∧ again.1.name = some "shop" ∧
      again.1.createdAt = some ⟨4, 0, 0⟩ := by
  intro w later again
  have hidentified : Identified renamings w := identified_run {} "" renamings
  obtain ⟨hid, hname, hbeginning⟩ := hidentified.saved ⟨6, 0, 0⟩
  obtain ⟨hkept, hkeptBeginning⟩ := hidentified.kept ⟨6, 0, 0⟩ [.clickPane, .setProjectName "shop"]
    (by simp [Operation.restored?]) ⟨7, 0, 0⟩
  exact ⟨hidentified, hid, hname, hbeginning, hkept.trans hid, rfl, hkeptBeginning.trans hbeginning⟩

end Workspace

end SchemaDiagram
