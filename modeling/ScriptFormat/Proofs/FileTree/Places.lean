import ScriptFormat.Proofs.FileTree.TextFiles

/-!
# The place that a route leads to

A route leads to the place of a file, or to one where nothing is yet. Filling a place
with a file changes no route in where it leads. So what is read by a route afterwards
goes by its place: the new content there, the old content everywhere else.
-/

namespace ScriptFormat

theorem Target.place?_refilled (place : Place) (content : Bytes) (target : Target) :
    (target.refilled place content).place? = target.place? := by
  cases target with
  | directory => rfl
  | file => rfl
  | vacant other =>
      by_cases same : other = place
      · simp [refilled, place?, same]
      · simp [refilled, place?, same]

namespace FileTree

def place? (tree : FileTree) (route : Route) : Option Place :=
  match route.refusal?, tree.resolve false route with
  | none, .ok target => target.place?
  | _, _ => none

variable {tree : FileTree} {route : Route} {place : Place}

theorem place?_eq_some_iff :
    tree.place? route = some place ↔
      route.refusal? = none ∧
        ∃ target, tree.resolve false route = .ok target ∧ target.place? = some place := by
  unfold place?
  cases route.refusal? with
  | some fault => simp
  | none => cases tree.resolve false route <;> simp

/-- What is found for writing is found for reading as well. -/
theorem Leads.reading {links : Nat} {directory : Place} {names : List Text} {target : Target}
    (leads : Leads tree true links directory names target) :
    Leads tree false links directory names target := by
  have admits {name : Text} {rest : List Text} (ordinary : Ordinary true name rest) :
      Ordinary false name rest := { ordinary with admitted := rfl }
  induction leads with
  | stop links directory => exact .stop links directory
  | here stays _ ih => exact .here stays ih
  | up _ ih => exact .up ih
  | vacant links ordinary nothing => exact .vacant links (admits ordinary) nothing
  | down ordinary found _ ih => exact .down (admits ordinary) found ih
  | file links ordinary found => exact .file links (admits ordinary) found
  | link ordinary found _ ih => exact .link (admits ordinary) found ih

theorem writable_iff_place? :
    tree.writable route = .ok place ↔
      route.refusal? = none ∧
        ∃ target, tree.resolve true route = .ok target ∧ target.place? = some place := by
  rw [writable_eq_ok_iff]
  refine and_congr_right fun _ => ⟨?_, ?_⟩
  · rintro (⟨content, file⟩ | vacant)
    · exact ⟨_, file, rfl⟩
    · exact ⟨_, vacant, rfl⟩
  · rintro ⟨target, resolved, placed⟩
    cases target with
    | directory => cases placed
    | file other content => cases placed; exact .inl ⟨content, resolved⟩
    | vacant other => cases placed; exact .inr resolved

theorem place?_of_writable (writable : tree.writable route = .ok place) :
    tree.place? route = some place := by
  obtain ⟨admitted, target, resolved, placed⟩ := writable_iff_place?.mp writable
  obtain ⟨nonempty, short, leads⟩ := resolve_eq_ok_iff.mp resolved
  have found := resolve_eq_ok_iff.mpr ⟨nonempty, short, leads.reading⟩
  exact place?_eq_some_iff.mpr ⟨admitted, target, found, placed⟩

theorem Fillable.of_place? (leads : tree.place? route = some place) : tree.Fillable place := by
  obtain ⟨_, target, resolved, placed⟩ := place?_eq_some_iff.mp leads
  exact (resolve_eq_ok_iff.mp resolved).2.2.fillable placed

/-! ## Where routes lead once a place is filled -/

section Filled

variable {content : Bytes}

/-- What is no file in the filled tree was there before. -/
theorem Fillable.node?_of_set {other : Place} {node : Option Node} (fillable : tree.Fillable place)
    (found : (tree.set place (.file content)).node? other = node)
    (apart : node ≠ some (.file content)) : tree.node? other = node := by
  have elsewhere : other ≠ place := by
    rintro rfl
    rw [node?_set_eq fillable] at found
    exact apart found.symm
  rwa [node?_set_ne tree _ elsewhere] at found

/-- Whatever a route leads to in the filled tree, it led there before. -/
theorem Leads.unfill {creating : Bool} {links : Nat} {directory : Place} {names : List Text}
    {target : Target} (fillable : tree.Fillable place)
    (leads : Leads (tree.set place (.file content)) creating links directory names target) :
    ∃ earlier, Leads tree creating links directory names earlier ∧
      earlier.refilled place content = target := by
  induction leads with
  | stop links directory => exact ⟨_, .stop links directory, rfl⟩
  | here stays _ ih =>
      obtain ⟨earlier, behind, same⟩ := ih
      exact ⟨earlier, .here stays behind, same⟩
  | up _ ih =>
      obtain ⟨earlier, behind, same⟩ := ih
      exact ⟨earlier, .up behind, same⟩
  | @vacant links directory name ordinary nothing =>
      have before := fillable.node?_of_set nothing (by simp)
      have elsewhere : name :: directory ≠ place := by
        rintro rfl
        rw [node?_set_eq fillable] at nothing
        cases nothing
      exact ⟨_, .vacant links ordinary before, by simp [Target.refilled, elsewhere]⟩
  | down ordinary found _ ih =>
      obtain ⟨earlier, behind, same⟩ := ih
      exact ⟨earlier, .down ordinary (fillable.node?_of_set found (by simp)) behind, same⟩
  | @file links directory name held ordinary found =>
      by_cases same : name :: directory = place
      · subst same
        rw [node?_set_eq fillable] at found
        cases found
        -- The place held a file of some content or nothing, and the name is the last one.
        cases before : tree.node? (name :: directory) with
        | none => exact ⟨_, .vacant links ordinary before, by simp [Target.refilled]⟩
        | some node =>
            obtain ⟨old, rfl⟩ := fillable.2 node before
            exact ⟨_, .file links ordinary before, by simp [Target.refilled]⟩
      · rw [node?_set_ne tree _ same] at found
        exact ⟨_, .file links ordinary found, by simp [Target.refilled, same]⟩
  | link ordinary found _ ih =>
      obtain ⟨earlier, behind, same⟩ := ih
      exact ⟨earlier, .link ordinary (fillable.node?_of_set found (by simp)) behind, same⟩

theorem resolve_set_eq_ok_iff (fillable : tree.Fillable place) {creating : Bool}
    {target : Target} :
    (tree.set place (.file content)).resolve creating route = .ok target ↔
      ∃ earlier, tree.resolve creating route = .ok earlier ∧
        earlier.refilled place content = target := by
  constructor
  · intro found
    obtain ⟨nonempty, short, leads⟩ := resolve_eq_ok_iff.mp found
    obtain ⟨earlier, before, same⟩ := leads.unfill fillable
    exact ⟨earlier, resolve_eq_ok_iff.mpr ⟨nonempty, short, before⟩, same⟩
  · rintro ⟨earlier, before, rfl⟩
    exact resolve_refill fillable content before

/-- Filling a place changes no route in where it leads. -/
theorem place?_set (fillable : tree.Fillable place) (content : Bytes) (route : Route) :
    (tree.set place (.file content)).place? route = tree.place? route := by
  ext other
  rw [place?_eq_some_iff, place?_eq_some_iff]
  refine and_congr_right fun _ => ⟨?_, ?_⟩
  · rintro ⟨target, found, placed⟩
    obtain ⟨earlier, before, rfl⟩ := (resolve_set_eq_ok_iff fillable).mp found
    exact ⟨earlier, before, by rw [← placed, Target.place?_refilled]⟩
  · rintro ⟨target, found, placed⟩
    exact ⟨_, resolve_refill fillable content found, by rw [Target.place?_refilled, placed]⟩

/-- A route to the filled place leads to a file with the content. -/
theorem resolve_set_self (leads : tree.place? route = some place) (content : Bytes) :
    (tree.set place (.file content)).resolve false route = .ok (.file place content) := by
  obtain ⟨_, target, found, placed⟩ := place?_eq_some_iff.mp leads
  rw [resolve_refill (.of_place? leads) content found]
  cases target with
  | directory => cases placed
  | file => cases placed; simp [Target.refilled]
  | vacant => cases placed; simp [Target.refilled]

/-- By a route to the filled place the new content is read, and by any other what was read
before. -/
theorem read_set (fillable : tree.Fillable place) {other : Place}
    (leads : tree.place? route = some other) (content : Bytes) :
    (tree.set place (.file content)).read route =
      if other = place then .ok content else tree.read route := by
  obtain ⟨admitted, target, found, placed⟩ := place?_eq_some_iff.mp leads
  by_cases same : other = place
  · subst same
    rw [if_pos rfl]
    exact read_eq_ok_iff.mpr ⟨admitted, _, resolve_set_self leads content⟩
  · have unchanged : target.refilled place content = target := by
      cases target with
      | directory => rfl
      | file => cases placed; simp [Target.refilled, same]
      | vacant => cases placed; simp [Target.refilled, same]
    have filled := resolve_refill fillable content found
    rw [unchanged] at filled
    rw [if_neg same]
    simp only [read, admitted, filled, found]

end Filled

end FileTree

end ScriptFormat
