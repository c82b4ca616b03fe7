import ScriptFormat.Proofs.Source.Overwriting

/-!
# Reading what was written

A text that was written to a file is read by every path that leads to the file's place,
and what is read by any other path stays. Where a path leads never changes, so after a
series of writes each path gives the text that was last written to its place.
-/

namespace ScriptFormat

open Run

structure FileWrite where
  path : Path
  text : Text

namespace FileTree

variable {tree : FileTree} {path : Path} {place other : Place}

theorem place?_of_read {content : Bytes} (held : tree.read path.route = .ok content) :
    ∃ place, tree.place? path.route = some place := by
  obtain ⟨admitted, place, resolved⟩ := read_eq_ok_iff.mp held
  exact ⟨place, place?_eq_some_iff.mpr ⟨admitted, _, resolved, rfl⟩⟩

theorem readText_set (fillable : tree.Fillable place)
    (leads : tree.place? path.route = some other) {text : Text} {content : Bytes}
    (encoded : Utf8.encode text = .ok content) :
    (tree.set place (.file content)).readText path =
      if other = place then .ok text else tree.readText path := by
  unfold readText
  rw [read_set fillable leads]
  by_cases same : other = place
  · rw [if_pos same, if_pos same]
    simp only [(Utf8.decode_eq_ok_iff content text).mpr encoded]
  · rw [if_neg same, if_neg same]

end FileTree

namespace Source

theorem readPath_result (path : Path) (world : World) :
    (readPath path).result world = (world.tree.readText path).mapError
      (mapped isFileFault .sourceRead ("Failed to read file " ++ path.text)) :=
  (readPath_yields path world).result_eq

inductive Wrote : World → List FileWrite → World → Prop where
  | nothing (world : World) : Wrote world [] world
  | next {world middle after : World} {write : FileWrite} {rest : List FileWrite}
      (returned : writePath write.path write.text world = .ok () middle)
      (behind : Wrote middle rest after) : Wrote world (write :: rest) after

section One

variable {write : FileWrite} {world after : World}

/-- A write that returns has filled the place of its path with the encoded text. -/
theorem filled_of_returned
    (returned : writePath write.path write.text world = .ok () after) :
    ∃ place content, world.tree.place? write.path.route = some place ∧
      Utf8.encode write.text = .ok content ∧ after.tree = world.tree.set place (.file content) := by
  have tree := writePath_tree write.path write.text world
  have result := writePath_result write.path write.text world
  rw [after_of_ok returned] at tree
  rw [result_of_ok returned] at result
  have wrote : world.tree.writeText write.path write.text = (.ok (), after.tree) :=
    Prod.ext (mapError_eq_ok_iff.mp result.symm) tree.symm
  obtain ⟨place, content, writable, encoded, filled⟩ := FileTree.writeText_eq_ok_iff.mp wrote
  exact ⟨place, content, FileTree.place?_of_writable writable, encoded, filled⟩

/-- After a write every path leads where it led before. -/
theorem place?_of_returned (returned : writePath write.path write.text world = .ok () after)
    (path : Path) : after.tree.place? path.route = world.tree.place? path.route := by
  obtain ⟨place, content, leads, _, tree⟩ := filled_of_returned returned
  rw [tree, FileTree.place?_set (.of_place? leads)]

/-- By a path to the same place the text that was written is read. -/
theorem readText_same (returned : writePath write.path write.text world = .ok () after)
    {path : Path}
    (same : world.tree.place? path.route = world.tree.place? write.path.route) :
    after.tree.readText path = .ok write.text := by
  obtain ⟨place, content, leads, encoded, tree⟩ := filled_of_returned returned
  rw [tree, FileTree.readText_set (.of_place? leads) (same.trans leads) encoded, if_pos rfl]

/-- By a path to another place the same is read as before. -/
theorem readText_other (returned : writePath write.path write.text world = .ok () after)
    {path : Path} {place : Place} (leads : world.tree.place? path.route = some place)
    (apart : world.tree.place? path.route ≠ world.tree.place? write.path.route) :
    after.tree.readText path = world.tree.readText path := by
  obtain ⟨filled, content, leads', encoded, tree⟩ := filled_of_returned returned
  have elsewhere : place ≠ filled := by
    rintro rfl
    exact apart (leads.trans leads'.symm)
  rw [tree, FileTree.readText_set (.of_place? leads') leads encoded, if_neg elsewhere]

end One

/-! ## A series of writes -/

section Series

variable {world after : World} {writes earlier later : List FileWrite} {path : Path}
  {place : Place}

theorem Wrote.place? (wrote : Wrote world writes after) (path : Path) :
    after.tree.place? path.route = world.tree.place? path.route := by
  induction wrote with
  | nothing world => rfl
  | next returned _ ih => rw [ih, place?_of_returned returned]

/-- A path to a place that no write goes to gives what it gave before. -/
theorem Wrote.readText_other (wrote : Wrote world writes after)
    (leads : world.tree.place? path.route = some place)
    (apart : ∀ write ∈ writes,
      world.tree.place? path.route ≠ world.tree.place? write.path.route) :
    after.tree.readText path = world.tree.readText path := by
  induction wrote with
  | nothing world => rfl
  | next returned _ ih =>
      obtain ⟨first, others⟩ := List.forall_mem_cons.mp apart
      have kept := place?_of_returned returned
      rw [ih ((kept path).trans leads) ?_, Source.readText_other returned leads first]
      intro write member
      rw [kept path, kept write.path]
      exact others write member

/-- A series of writes goes through a world between any two of them. -/
theorem Wrote.split (wrote : Wrote world (earlier ++ later) after) :
    ∃ middle, Wrote world earlier middle ∧ Wrote middle later after := by
  induction earlier generalizing world with
  | nil => exact ⟨world, .nothing world, wrote⟩
  | cons write rest ih =>
      cases wrote with
      | next returned behind =>
          obtain ⟨middle, front, back⟩ := ih behind
          exact ⟨middle, .next returned front, back⟩

/-- A path gives the text of a write to its place if no later write goes there. -/
theorem Wrote.readText_last {write : FileWrite}
    (wrote : Wrote world (earlier ++ write :: later) after)
    (same : world.tree.place? path.route = world.tree.place? write.path.route)
    (apart : ∀ other ∈ later,
      world.tree.place? path.route ≠ world.tree.place? other.path.route) :
    after.tree.readText path = .ok write.text := by
  obtain ⟨middle, front, back⟩ := wrote.split
  cases back with
  | @next _ last _ _ _ returned behind =>
      have kept := front.place?
      have same' : middle.tree.place? path.route = middle.tree.place? write.path.route := by
        rw [kept path, kept write.path, same]
      obtain ⟨place, _, leads, _, _⟩ := filled_of_returned returned
      have still := place?_of_returned returned
      rw [behind.readText_other ((still path).trans (same'.trans leads)) ?_,
        readText_same returned same']
      intro other member
      rw [still path, still other.path, kept path, kept other.path]
      exact apart other member

/-- After writes that all return every path leads where it led before. By a path to the place of a
write, if no later write went there, its text is read; by a path to a place that was not written
to, the same text as before. -/
theorem last_written_is_read (wrote : Wrote world writes after) :
    (∀ path : Path, after.tree.place? path.route = world.tree.place? path.route) ∧
      (∀ earlier write later, writes = earlier ++ write :: later →
        ∀ path : Path, world.tree.place? path.route = world.tree.place? write.path.route →
          (∀ other ∈ later,
            world.tree.place? path.route ≠ world.tree.place? other.path.route) →
          (readPath path).result after = .ok write.text) ∧
      (∀ path text, (readPath path).result world = .ok text →
        (∀ write ∈ writes,
          world.tree.place? path.route ≠ world.tree.place? write.path.route) →
        (readPath path).result after = .ok text) := by
  refine ⟨wrote.place?, ?_, ?_⟩
  · rintro earlier write later rfl path same apart
    rw [readPath_result, wrote.readText_last same apart]
    rfl
  · intro path text read apart
    rw [readPath_result, mapError_eq_ok_iff] at read ⊢
    obtain ⟨content, held, _⟩ := FileTree.readText_eq_ok_iff.mp read
    obtain ⟨place, leads⟩ := FileTree.place?_of_read held
    rw [wrote.readText_other leads apart, read]

end Series

def shelf : FileTree where
  start := []
  entries := [(["d"], .directory), (["a.gd"], .file [97]), (["b.gd"], .link "d/../a.gd"),
    (["c.gd"], .link "d/new.gd")]

def shelfWrites : List FileWrite :=
  [{ path := .ofText "c.gd", text := "x" }, { path := .ofText "./b.gd", text := "y" }]

theorem last_written_is_read_on_shelf :
    ∃ after, Wrote { Program.desk with tree := shelf } shelfWrites after ∧
      (readPath (.ofText "d//../d/new.gd")).result after = .ok "x" ∧
      (readPath (.ofText "a.gd")).result after = .ok "y" := by
  have first : (writePath (.ofText "c.gd") "x").result { Program.desk with tree := shelf } =
      .ok () := by
    rw [writePath_result]
    rfl
  have second : (writePath (.ofText "./b.gd") "y").result
      ((writePath (.ofText "c.gd") "x").after { Program.desk with tree := shelf }) = .ok () := by
    rw [writePath_result, writePath_tree]
    rfl
  have wrote : Wrote { Program.desk with tree := shelf } shelfWrites _ :=
    .next (eq_ok_of_result first) (.next (eq_ok_of_result second) (.nothing _))
  have read := (last_written_is_read wrote).2.1
  refine ⟨_, wrote, read [] _ _ rfl _ (by decide +kernel) ?_,
    read [_] _ [] rfl _ (by decide +kernel) (by simp)⟩
  intro other member
  rw [List.mem_singleton.mp member]
  decide +kernel

end Source

end ScriptFormat
