import ScriptFormat.FileTree.Resolve

/-!
# What path resolution finds

The ways a route can lead somewhere are written down as rules, and following a
route finds exactly what the rules give. From them: a file is found for writing
wherever it is found for reading, and giving a file new content changes what a
route leads to in that content only.
-/

namespace ScriptFormat.FileTree

/-- A name that is looked up in its directory, with `rest` still to follow behind it. -/
structure Ordinary (creating : Bool) (name : Text) (rest : List Text) : Prop where
  named : (name.isEmpty || name = Path.here) = false
  notUp : name ≠ Path.up
  admitted : (creating && rest = [[]]) = false
  short : Path.nameLength name ≤ maxName

/--
The rules of resolution: from a directory, the names lead to a target over at
most so many links.
-/
inductive Leads (tree : FileTree) (creating : Bool) :
    Nat → Place → List Text → Target → Prop where
  | stop (links : Nat) (directory : Place) :
      Leads tree creating links directory [] (.directory directory)
  | here {links : Nat} {directory : Place} {name : Text} {rest : List Text} {target : Target}
      (stays : (name.isEmpty || name = Path.here) = true)
      (behind : Leads tree creating links directory rest target) :
      Leads tree creating links directory (name :: rest) target
  | up {links : Nat} {directory : Place} {rest : List Text} {target : Target}
      (behind : Leads tree creating links directory.tail rest target) :
      Leads tree creating links directory (Path.up :: rest) target
  | vacant (links : Nat) {directory : Place} {name : Text}
      (ordinary : Ordinary creating name [])
      (nothing : tree.node? (name :: directory) = none) :
      Leads tree creating links directory [name] (.vacant (name :: directory))
  | down {links : Nat} {directory : Place} {name : Text} {rest : List Text} {target : Target}
      (ordinary : Ordinary creating name rest)
      (found : tree.node? (name :: directory) = some .directory)
      (behind : Leads tree creating links (name :: directory) rest target) :
      Leads tree creating links directory (name :: rest) target
  | file (links : Nat) {directory : Place} {name : Text} {content : Bytes}
      (ordinary : Ordinary creating name [])
      (found : tree.node? (name :: directory) = some (.file content)) :
      Leads tree creating links directory [name] (.file (name :: directory) content)
  | link {links : Nat} {directory : Place} {name pointer : Text} {rest : List Text}
      {target : Target} (ordinary : Ordinary creating name rest)
      (found : tree.node? (name :: directory) = some (.link pointer))
      (behind : Leads tree creating links (originOf (.ofText pointer) directory)
        ((Route.ofText pointer).names ++ rest) target) :
      Leads tree creating (links + 1) directory (name :: rest) target

/-! ## The rules and the walk -/

section Walk

variable {tree : FileTree} {creating : Bool}

theorem walkWith_here {follow : Place → List Text → Except PathFault Target} {directory : Place}
    {name : Text} {rest : List Text} (stays : (name.isEmpty || name = Path.here) = true) :
    walkWith tree creating follow directory (name :: rest) =
      walkWith tree creating follow directory rest := by
  rw [walkWith, if_pos stays]

theorem walkWith_up {follow : Place → List Text → Except PathFault Target} {directory : Place}
    {rest : List Text} :
    walkWith tree creating follow directory (Path.up :: rest) =
      walkWith tree creating follow directory.tail rest := by
  rw [walkWith, if_neg (by decide), if_pos rfl]

/-- An ordinary name is looked up, and what is there decides. -/
theorem walkWith_ordinary {follow : Place → List Text → Except PathFault Target}
    {directory : Place} {name : Text} {rest : List Text} (ordinary : Ordinary creating name rest) :
    walkWith tree creating follow directory (name :: rest) =
      match tree.node? (name :: directory) with
      | none => if rest.isEmpty then .ok (.vacant (name :: directory)) else .error .notFound
      | some .directory => walkWith tree creating follow (name :: directory) rest
      | some (.file content) =>
          if rest.isEmpty then .ok (.file (name :: directory) content) else .error .notDirectory
      | some (.link pointer) =>
          follow (originOf (.ofText pointer) directory)
            ((Route.ofText pointer).names ++ rest) := by
  refine (if_neg (Bool.eq_false_iff.mp ordinary.named)).trans ?_
  refine (if_neg ordinary.notUp).trans ?_
  refine (if_neg (Bool.eq_false_iff.mp ordinary.admitted)).trans ?_
  exact if_neg (Nat.not_lt.mpr ordinary.short)

/-- Each name stays, goes up, is ordinary or stops the walk. -/
theorem name_cases (creating : Bool) (name : Text) (rest : List Text) :
    (name.isEmpty || name = Path.here) = true ∨ name = Path.up ∨ Ordinary creating name rest ∨
      ∀ (tree : FileTree) (follow : Place → List Text → Except PathFault Target)
        (directory : Place),
        ∃ fault, walkWith tree creating follow directory (name :: rest) = .error fault := by
  by_cases stays : (name.isEmpty || name = Path.here) = true
  · exact .inl stays
  by_cases up : name = Path.up
  · exact .inr (.inl up)
  by_cases refused : (creating && rest = [[]]) = true
  · refine .inr (.inr (.inr fun tree follow directory => ⟨.isDirectory, ?_⟩))
    rw [walkWith, if_neg stays, if_neg up, if_pos refused]
  by_cases long : maxName < Path.nameLength name
  · refine .inr (.inr (.inr fun tree follow directory => ⟨.nameTooLong, ?_⟩))
    rw [walkWith, if_neg stays, if_neg up, if_neg refused, if_pos long]
  · exact .inr (.inr (.inl ⟨Bool.eq_false_iff.mpr stays, up, Bool.eq_false_iff.mpr refused,
      Nat.not_lt.mp long⟩))

/-- What a walk finds is by the rules, if that holds of what it finds behind a link. -/
theorem leads_of_walkWith {follow : Place → List Text → Except PathFault Target} {links : Nat}
    (behindLink : ∀ directory names target, follow directory names = .ok target →
      ∃ fewer, links = fewer + 1 ∧ Leads tree creating fewer directory names target)
    {directory : Place} {names : List Text} {target : Target}
    (found : walkWith tree creating follow directory names = .ok target) :
    Leads tree creating links directory names target := by
  induction names generalizing directory with
  | nil =>
      cases found
      exact .stop links directory
  | cons name rest ih =>
      rcases name_cases creating name rest with stays | up | ordinary | stopped
      · rw [walkWith_here stays] at found
        exact .here stays (ih found)
      · subst up
        rw [walkWith_up] at found
        exact .up (ih found)
      · rw [walkWith_ordinary ordinary] at found
        cases node : tree.node? (name :: directory) with
        | none =>
            simp only [node] at found
            cases rest with
            | nil => cases found; exact .vacant links ordinary node
            | cons => cases found
        | some entry =>
            cases entry with
            | directory =>
                simp only [node] at found
                exact .down ordinary node (ih found)
            | file content =>
                simp only [node] at found
                cases rest with
                | nil => cases found; exact .file links ordinary node
                | cons => cases found
            | link pointer =>
                simp only [node] at found
                obtain ⟨fewer, rfl, behind⟩ := behindLink _ _ _ found
                exact .link ordinary node behind
      · obtain ⟨fault, refused⟩ := stopped tree follow directory
        rw [refused] at found
        cases found

theorem leads_of_walk {links : Nat} {directory : Place} {names : List Text} {target : Target}
    (found : walk tree creating links directory names = .ok target) :
    Leads tree creating links directory names target := by
  induction links generalizing directory names target with
  | zero => exact leads_of_walkWith (fun _ _ _ impossible => by cases impossible) found
  | succ links ih => exact leads_of_walkWith (fun _ _ _ behind => ⟨links, rfl, ih behind⟩) found

/-- The walk unfolds in the same way however many links are left, except at a link. -/
theorem walk_eq_walkWith (tree : FileTree) (creating : Bool) (links : Nat) :
    ∃ follow, tree.walk creating links = walkWith tree creating follow := by
  cases links with
  | zero => exact ⟨_, rfl⟩
  | succ links => exact ⟨_, rfl⟩

theorem Leads.walk {links : Nat} {directory : Place} {names : List Text} {target : Target}
    (leads : Leads tree creating links directory names target) :
    tree.walk creating links directory names = .ok target := by
  induction leads with
  | stop links directory =>
      obtain ⟨follow, shape⟩ := walk_eq_walkWith tree creating links
      rw [shape, walkWith]
  | @here links _ _ _ _ stays _ ih =>
      obtain ⟨follow, shape⟩ := walk_eq_walkWith tree creating links
      rw [shape] at ih ⊢
      rw [walkWith_here stays, ih]
  | @up links _ _ _ _ ih =>
      obtain ⟨follow, shape⟩ := walk_eq_walkWith tree creating links
      rw [shape] at ih ⊢
      rw [walkWith_up, ih]
  | vacant links ordinary nothing =>
      obtain ⟨follow, shape⟩ := walk_eq_walkWith tree creating links
      rw [shape, walkWith_ordinary ordinary, nothing]
      rfl
  | @down links _ _ _ _ ordinary found _ ih =>
      obtain ⟨follow, shape⟩ := walk_eq_walkWith tree creating links
      rw [shape] at ih ⊢
      rw [walkWith_ordinary ordinary, found]
      exact ih
  | file links ordinary found =>
      obtain ⟨follow, shape⟩ := walk_eq_walkWith tree creating links
      rw [shape, walkWith_ordinary ordinary, found]
      rfl
  | link ordinary found _ ih =>
      rw [FileTree.walk, walkWith_ordinary ordinary, found]
      exact ih

/-- Following names finds exactly what the rules give. -/
theorem walk_eq_ok_iff {links : Nat} {directory : Place} {names : List Text} {target : Target} :
    tree.walk creating links directory names = .ok target ↔
      Leads tree creating links directory names target :=
  ⟨leads_of_walk, Leads.walk⟩

end Walk

namespace Leads

variable {tree : FileTree} {creating : Bool} {links : Nat} {directory : Place}
  {names : List Text} {place : Place} {content : Bytes}

theorem node?_file
    (leads : Leads tree creating links directory names (.file place content)) :
    tree.node? place = some (.file content) := by
  generalize aim : Target.file place content = target at leads
  induction leads with
  | here _ _ ih => exact ih aim
  | up _ ih => exact ih aim
  | down _ _ _ ih => exact ih aim
  | link _ _ _ ih => exact ih aim
  | file _ _ found => cases aim; exact found
  | _ => cases aim

theorem file_ne_nil (leads : Leads tree creating links directory names (.file place content)) :
    place ≠ [] := by
  intro root
  have found := leads.node?_file
  rw [root] at found
  cases found

theorem node?_vacant (leads : Leads tree creating links directory names (.vacant place)) :
    tree.node? place = none := by
  generalize aim : Target.vacant place = target at leads
  induction leads with
  | here _ _ ih => exact ih aim
  | up _ ih => exact ih aim
  | down _ _ _ ih => exact ih aim
  | link _ _ _ ih => exact ih aim
  | vacant _ _ nothing => cases aim; exact nothing
  | _ => cases aim

/-- A file is never found by names that ask for a directory at the end. -/
theorem getLast?_ne
    (leads : Leads tree creating links directory names (.file place content)) :
    names.getLast? ≠ some [] := by
  generalize aim : Target.file place content = target at leads
  induction leads with
  | @here _ _ name rest _ stays behind ih =>
      cases rest with
      | nil => cases behind; cases aim
      | cons next others => simpa [List.getLast?_cons_cons] using ih aim
  | @up _ _ rest _ behind ih =>
      cases rest with
      | nil => cases behind; cases aim
      | cons next others => simpa [List.getLast?_cons_cons] using ih aim
  | @down _ _ name rest _ _ _ behind ih =>
      cases rest with
      | nil => cases behind; cases aim
      | cons next others => simpa [List.getLast?_cons_cons] using ih aim
  | @file _ _ name _ ordinary _ =>
      intro last
      have empty : name = [] := by simpa using last
      simpa [empty] using ordinary.named
  | @link _ _ name pointer rest _ ordinary _ behind ih =>
      cases rest with
      | nil =>
          intro last
          have empty : name = [] := by simpa using last
          simpa [empty] using ordinary.named
      | cons next others =>
          have later := ih aim
          rw [List.getLast?_append] at later
          simpa [List.getLast?_cons] using later
  | _ => cases aim

/-- What is found for reading is found for writing if it is a file. -/
theorem creating_of_file
    (leads : Leads tree false links directory names (.file place content)) :
    Leads tree true links directory names (.file place content) := by
  have admits {name : Text} {rest : List Text} (ordinary : Ordinary false name rest)
      (apart : rest ≠ [[]]) : Ordinary true name rest :=
    { ordinary with admitted := by simpa using apart }
  generalize aim : Target.file place content = target at leads ⊢
  induction leads with
  | here stays _ ih => exact .here stays (ih aim)
  | up _ ih => exact .up (ih aim)
  | down ordinary found behind ih =>
      subst aim
      exact .down (admits ordinary fun trailing => behind.getLast?_ne (by simp [trailing])) found
        (ih rfl)
  | file links ordinary found => exact .file links (admits ordinary (by simp)) found
  | link ordinary found behind ih =>
      subst aim
      exact .link (admits ordinary fun trailing => behind.getLast?_ne (by simp [trailing])) found
        (ih rfl)
  | _ => cases aim

end Leads

end ScriptFormat.FileTree
