import ScriptFormat.Proofs.FileTree.Resolution

/-!
# Writing to where a route leads

Filling a place with a file leaves every route as it was, apart from the content
found at that place. So a file that can be read can be written by the same route,
and what is then read is what was written.
-/

namespace ScriptFormat

/-- A target once the place, which held a file or nothing, holds a file of this content. -/
def Target.refilled (place : Place) (content : Bytes) : Target → Target
  | .directory other => .directory other
  | .file other old => .file other (if other = place then content else old)
  | .vacant other => if other = place then .file place content else .vacant other

def Target.place? : Target → Option Place
  | .directory _ => none
  | .file place _ => some place
  | .vacant place => some place

namespace FileTree

def Fillable (tree : FileTree) (place : Place) : Prop :=
  place ≠ [] ∧ ∀ node, tree.node? place = some node → ∃ old, node = .file old

section Filling

variable {tree : FileTree} {place : Place}

theorem set_set (tree : FileTree) (place : Place) (first second : Node) :
    (tree.set place first).set place second = tree.set place second := by
  simp [set, List.filter_filter]

theorem node?_set_eq (fillable : tree.Fillable place) (node : Node) :
    (tree.set place node).node? place = some node := by
  cases place with
  | nil => exact absurd rfl fillable.1
  | cons name rest => exact node?_set_self tree name rest node

/-- Directories and links are at other places, and stay. -/
theorem Fillable.node?_set {other : Place} {node : Node} (fillable : tree.Fillable place)
    (content : Bytes) (found : tree.node? other = some node)
    (apart : ∀ old, node ≠ .file old) :
    (tree.set place (.file content)).node? other = some node := by
  have elsewhere : other ≠ place := by
    intro same
    subst same
    obtain ⟨old, file⟩ := fillable.2 node found
    exact apart old file
  rw [node?_set_ne tree _ elsewhere, found]

theorem Leads.refill {creating : Bool} {links : Nat} {directory : Place} {names : List Text}
    {target : Target} (fillable : tree.Fillable place) (content : Bytes)
    (leads : Leads tree creating links directory names target) :
    Leads (tree.set place (.file content)) creating links directory names
      (target.refilled place content) := by
  induction leads with
  | stop links directory => exact .stop links directory
  | here stays _ ih => exact .here stays ih
  | up _ ih => exact .up ih
  | @vacant links directory name ordinary nothing =>
      by_cases same : name :: directory = place
      · subst same
        simp only [Target.refilled, if_true]
        exact .file links ordinary (node?_set_eq fillable _)
      · simp only [Target.refilled, if_neg same]
        exact .vacant links ordinary (by rw [node?_set_ne tree _ same, nothing])
  | down ordinary found _ ih =>
      exact .down ordinary (fillable.node?_set content found (by simp)) ih
  | @file links directory name old ordinary found =>
      by_cases same : name :: directory = place
      · subst same
        simp only [Target.refilled, if_true]
        exact .file links ordinary (node?_set_eq fillable _)
      · simp only [Target.refilled, if_neg same]
        exact .file links ordinary (by rw [node?_set_ne tree _ same, found])
  | link ordinary found _ ih =>
      exact .link ordinary (fillable.node?_set content found (by simp)) ih

theorem Leads.fillable {creating : Bool} {links : Nat} {directory : Place} {names : List Text}
    {target : Target} (leads : Leads tree creating links directory names target)
    (placed : target.place? = some place) : tree.Fillable place := by
  cases target with
  | directory => cases placed
  | file other content =>
      cases placed
      refine ⟨leads.file_ne_nil, fun node there => ⟨content, ?_⟩⟩
      rw [leads.node?_file] at there
      exact (Option.some.inj there).symm
  | vacant other =>
      cases placed
      have nothing := leads.node?_vacant
      constructor
      · rintro rfl
        cases nothing
      · intro node there
        rw [nothing] at there
        cases there

end Filling

section Routes

variable {tree : FileTree} {creating : Bool} {route : Route}

theorem resolve_eq_ok_iff {target : Target} :
    tree.resolve creating route = .ok target ↔
      route.text.isEmpty = false ∧ Path.nameLength route.text < maxPath ∧
        Leads tree creating maxLinks (originOf route tree.start) route.names target := by
  unfold resolve follow
  by_cases empty : route.text.isEmpty = true
  · simp [empty]
  by_cases long : maxPath ≤ Path.nameLength route.text
  · rw [if_neg empty, if_pos long]
    simp [Nat.not_lt.mpr long]
  · rw [if_neg empty, if_neg long, walk_eq_ok_iff]
    exact ⟨fun leads => ⟨Bool.eq_false_iff.mpr empty, Nat.not_le.mp long, leads⟩,
      fun all => all.2.2⟩

theorem resolve_refill {place : Place} {target : Target} (fillable : tree.Fillable place)
    (content : Bytes) (found : tree.resolve creating route = .ok target) :
    (tree.set place (.file content)).resolve creating route =
      .ok (target.refilled place content) := by
  obtain ⟨nonempty, short, leads⟩ := resolve_eq_ok_iff.mp found
  exact resolve_eq_ok_iff.mpr ⟨nonempty, short, leads.refill fillable content⟩

theorem read_eq_ok_iff {content : Bytes} :
    tree.read route = .ok content ↔
      route.refusal? = none ∧ ∃ place, tree.resolve false route = .ok (.file place content) := by
  unfold read
  cases refused : route.refusal? with
  | some fault => simp
  | none =>
      cases found : tree.resolve false route with
      | error fault => simp
      | ok target => cases target <;> simp

theorem writable_eq_ok_iff {place : Place} :
    tree.writable route = .ok place ↔
      route.refusal? = none ∧
        ((∃ content, tree.resolve true route = .ok (.file place content)) ∨
          tree.resolve true route = .ok (.vacant place)) := by
  unfold writable
  cases refused : route.refusal? with
  | some fault => simp
  | none =>
      cases found : tree.resolve true route with
      | error fault => simp
      | ok target => cases target <;> simp

/-- Where a file is found for reading: its place, which writing by the same route fills. -/
structure Holds (tree : FileTree) (route : Route) (place : Place) (content : Bytes) : Prop where
  resolves : tree.resolve false route = .ok (.file place content)
  writable : tree.writable route = .ok place
  node : tree.node? place = some (.file content)
  fillable : tree.Fillable place

theorem Holds.of_read {content : Bytes} (found : tree.read route = .ok content) :
    ∃ place, tree.Holds route place content := by
  obtain ⟨admitted, place, resolved⟩ := read_eq_ok_iff.mp found
  obtain ⟨nonempty, short, leads⟩ := resolve_eq_ok_iff.mp resolved
  have creating := resolve_eq_ok_iff.mpr ⟨nonempty, short, leads.creating_of_file⟩
  have writable := writable_eq_ok_iff.mpr ⟨admitted, .inl ⟨content, creating⟩⟩
  exact ⟨place, resolved, writable, leads.node?_file, leads.fillable rfl⟩

theorem Holds.read {place : Place} {content : Bytes} (holds : tree.Holds route place content) :
    tree.read route = .ok content :=
  read_eq_ok_iff.mpr ⟨(writable_eq_ok_iff.mp holds.writable).1, place, holds.resolves⟩

/-- A file that was filled is found where it was. -/
theorem Holds.set {place : Place} {old : Bytes} (holds : tree.Holds route place old)
    (content : Bytes) : (tree.set place (.file content)).Holds route place content where
  resolves := by
    simpa [Target.refilled] using resolve_refill holds.fillable content holds.resolves
  writable := by
    obtain ⟨admitted, found⟩ := writable_eq_ok_iff.mp holds.writable
    refine writable_eq_ok_iff.mpr ⟨admitted, .inl ⟨content, ?_⟩⟩
    rcases found with ⟨_, file⟩ | vacant
    · simpa [Target.refilled] using resolve_refill holds.fillable content file
    · simpa [Target.refilled] using resolve_refill holds.fillable content vacant
  node := node?_set_eq holds.fillable _
  fillable := by
    refine ⟨holds.fillable.1, fun node found => ⟨content, ?_⟩⟩
    rw [node?_set_eq holds.fillable] at found
    exact (Option.some.inj found).symm

/-- What was put at the place is what is read. -/
theorem Holds.read_set {place : Place} {old : Bytes} (holds : tree.Holds route place old)
    (content : Bytes) : (tree.set place (.file content)).read route = .ok content :=
  (holds.set content).read

end Routes

end FileTree

end ScriptFormat
