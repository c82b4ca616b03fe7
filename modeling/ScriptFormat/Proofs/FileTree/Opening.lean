import ScriptFormat.Proofs.FileTree.Places

/-!
# Opening a file for writing

The ways that following a route can fail are written down as rules, beside those of
finding a target. So a route either opens at one place, by the rules, or it is shut
for a reason that the rules give.
-/

namespace ScriptFormat.FileTree

/--
The rules of failing: from a directory, following the names stops for a reason
before there is a target.
-/
inductive Stops (tree : FileTree) (creating : Bool) :
    Nat → Place → List Text → PathFault → Prop where
  | here {links : Nat} {directory : Place} {name : Text} {rest : List Text} {reason : PathFault}
      (stays : (name.isEmpty || name = Path.here) = true)
      (behind : Stops tree creating links directory rest reason) :
      Stops tree creating links directory (name :: rest) reason
  | up {links : Nat} {directory : Place} {rest : List Text} {reason : PathFault}
      (behind : Stops tree creating links directory.tail rest reason) :
      Stops tree creating links directory (Path.up :: rest) reason
  | slashed (links : Nat) (directory : Place) {name : Text} {rest : List Text}
      (named : (name.isEmpty || name = Path.here) = false) (notUp : name ≠ Path.up)
      (refused : (creating && rest = [[]]) = true) :
      Stops tree creating links directory (name :: rest) .isDirectory
  | long (links : Nat) (directory : Place) {name : Text} {rest : List Text}
      (named : (name.isEmpty || name = Path.here) = false) (notUp : name ≠ Path.up)
      (admitted : (creating && rest = [[]]) = false) (long : maxName < Path.nameLength name) :
      Stops tree creating links directory (name :: rest) .nameTooLong
  | missing (links : Nat) {directory : Place} {name : Text} {rest : List Text}
      (ordinary : Ordinary creating name rest) (more : rest ≠ [])
      (nothing : tree.node? (name :: directory) = none) :
      Stops tree creating links directory (name :: rest) .notFound
  | blocked (links : Nat) {directory : Place} {name : Text} {rest : List Text} {content : Bytes}
      (ordinary : Ordinary creating name rest) (more : rest ≠ [])
      (found : tree.node? (name :: directory) = some (.file content)) :
      Stops tree creating links directory (name :: rest) .notDirectory
  | loop {directory : Place} {name pointer : Text} {rest : List Text}
      (ordinary : Ordinary creating name rest)
      (found : tree.node? (name :: directory) = some (.link pointer)) :
      Stops tree creating 0 directory (name :: rest) .tooManyLinks
  | down {links : Nat} {directory : Place} {name : Text} {rest : List Text} {reason : PathFault}
      (ordinary : Ordinary creating name rest)
      (found : tree.node? (name :: directory) = some .directory)
      (behind : Stops tree creating links (name :: directory) rest reason) :
      Stops tree creating links directory (name :: rest) reason
  | link {links : Nat} {directory : Place} {name pointer : Text} {rest : List Text}
      {reason : PathFault} (ordinary : Ordinary creating name rest)
      (found : tree.node? (name :: directory) = some (.link pointer))
      (behind : Stops tree creating links (originOf (.ofText pointer) directory)
        ((Route.ofText pointer).names ++ rest) reason) :
      Stops tree creating (links + 1) directory (name :: rest) reason

section Walk

variable {tree : FileTree} {creating : Bool} {links : Nat} {directory : Place}
  {names : List Text} {reason : PathFault}

/-- A walk fails by the rules, if behind a link it does or no link may be followed. -/
theorem stops_of_walkWith {follow : Place → List Text → Except PathFault Target}
    (behindLink : ∀ directory names, follow directory names = .error reason →
      (links = 0 ∧ reason = .tooManyLinks) ∨
        ∃ fewer, links = fewer + 1 ∧ Stops tree creating fewer directory names reason)
    (failed : walkWith tree creating follow directory names = .error reason) :
    Stops tree creating links directory names reason := by
  have filled {rest : List Text} (more : ¬ rest.isEmpty = true) : rest ≠ [] :=
    fun none => more (List.isEmpty_iff.mpr none)
  have ordinary {name : Text} {rest : List Text}
      (named : ¬ (name.isEmpty || name = Path.here) = true) (notUp : name ≠ Path.up)
      (admitted : ¬ (creating && rest = [[]]) = true)
      (short : ¬ maxName < Path.nameLength name) : Ordinary creating name rest :=
    ⟨Bool.eq_false_iff.mpr named, notUp, Bool.eq_false_iff.mpr admitted, Nat.not_lt.mp short⟩
  fun_induction walkWith tree creating follow directory names with
  | case1 => cases failed
  | case2 directory name rest stays ih => exact .here stays (ih failed)
  | case3 directory rest _ ih => exact .up (ih failed)
  | case4 directory name rest named notUp refused =>
      cases failed
      exact .slashed links directory (Bool.eq_false_iff.mpr named) notUp refused
  | case5 directory name rest named notUp admitted long =>
      cases failed
      exact .long links directory (Bool.eq_false_iff.mpr named) notUp
        (Bool.eq_false_iff.mpr admitted) long
  | case6 => cases failed
  | case7 directory name rest named notUp admitted short nothing more =>
      cases failed
      exact .missing links (ordinary named notUp admitted short) (filled more) nothing
  | case8 directory name rest named notUp admitted short found ih =>
      exact .down (ordinary named notUp admitted short) found (ih failed)
  | case9 => cases failed
  | case10 directory name rest named notUp admitted short content found more =>
      cases failed
      exact .blocked links (ordinary named notUp admitted short) (filled more) found
  | case11 directory name rest named notUp admitted short pointer found =>
      rcases behindLink _ _ failed with ⟨rfl, rfl⟩ | ⟨fewer, rfl, behind⟩
      · exact .loop (ordinary named notUp admitted short) found
      · exact .link (ordinary named notUp admitted short) found behind

theorem stops_of_walk (failed : tree.walk creating links directory names = .error reason) :
    Stops tree creating links directory names reason := by
  induction links generalizing directory names with
  | zero =>
      refine stops_of_walkWith (fun _ _ refused => .inl ⟨rfl, ?_⟩) failed
      cases refused
      rfl
  | succ links ih =>
      exact stops_of_walkWith (fun _ _ refused => .inr ⟨links, rfl, ih refused⟩) failed

theorem walkWith_missing {follow : Place → List Text → Except PathFault Target} {name : Text}
    {rest : List Text} (ordinary : Ordinary creating name rest) (more : rest ≠ [])
    (nothing : tree.node? (name :: directory) = none) :
    walkWith tree creating follow directory (name :: rest) = .error .notFound := by
  rw [walkWith_ordinary ordinary, nothing]
  exact if_neg fun none => more (List.isEmpty_iff.mp none)

theorem walkWith_blocked {follow : Place → List Text → Except PathFault Target} {name : Text}
    {rest : List Text} {content : Bytes} (ordinary : Ordinary creating name rest)
    (more : rest ≠ []) (found : tree.node? (name :: directory) = some (.file content)) :
    walkWith tree creating follow directory (name :: rest) = .error .notDirectory := by
  rw [walkWith_ordinary ordinary, found]
  exact if_neg fun none => more (List.isEmpty_iff.mp none)

theorem Stops.walk (stops : Stops tree creating links directory names reason) :
    tree.walk creating links directory names = .error reason := by
  induction stops with
  | @here links _ _ _ _ stays _ ih =>
      obtain ⟨follow, shape⟩ := walk_eq_walkWith tree creating links
      rw [shape] at ih ⊢
      rw [walkWith_here stays, ih]
  | @up links _ _ _ _ ih =>
      obtain ⟨follow, shape⟩ := walk_eq_walkWith tree creating links
      rw [shape] at ih ⊢
      rw [walkWith_up, ih]
  | slashed links directory named notUp refused =>
      obtain ⟨follow, shape⟩ := walk_eq_walkWith tree creating links
      rw [shape, walkWith, if_neg (Bool.eq_false_iff.mp named), if_neg notUp, if_pos refused]
  | long links directory named notUp admitted long =>
      obtain ⟨follow, shape⟩ := walk_eq_walkWith tree creating links
      rw [shape, walkWith, if_neg (Bool.eq_false_iff.mp named), if_neg notUp,
        if_neg (Bool.eq_false_iff.mp admitted), if_pos long]
  | missing links ordinary more nothing =>
      obtain ⟨follow, shape⟩ := walk_eq_walkWith tree creating links
      rw [shape, walkWith_missing ordinary more nothing]
  | blocked links ordinary more found =>
      obtain ⟨follow, shape⟩ := walk_eq_walkWith tree creating links
      rw [shape, walkWith_blocked ordinary more found]
  | loop ordinary found => rw [FileTree.walk, walkWith_ordinary ordinary, found]
  | @down links _ _ _ _ ordinary found _ ih =>
      obtain ⟨follow, shape⟩ := walk_eq_walkWith tree creating links
      rw [shape] at ih ⊢
      rw [walkWith_ordinary ordinary, found]
      exact ih
  | link ordinary found _ ih =>
      rw [FileTree.walk, walkWith_ordinary ordinary, found]
      exact ih

end Walk

/-! ## Open and shut routes -/

structure Followed (route : Route) : Prop where
  admitted : route.refusal? = none
  nonempty : route.text.isEmpty = false
  short : Path.nameLength route.text < maxPath

/-- A route opens at a place for writing: it leads to a file there, or to where one can be made. -/
structure Opens (tree : FileTree) (route : Route) (place : Place) : Prop where
  followed : Followed route
  leads : ∃ target, Leads tree true maxLinks (originOf route tree.start) route.names target ∧
    target.place? = some place

/-- Why a route does not open for writing: the fault of its name, or the one that the system has. -/
inductive Shut (tree : FileTree) (route : Route) : Fault → Prop where
  | unnamed {fault : Fault} (refused : route.refusal? = some fault) : Shut tree route fault
  | empty (admitted : route.refusal? = none) (empty : route.text.isEmpty = true) :
      Shut tree route (PathFault.notFound.fault [route.text])
  | long (admitted : route.refusal? = none) (nonempty : route.text.isEmpty = false)
      (long : maxPath ≤ Path.nameLength route.text) :
      Shut tree route (PathFault.nameTooLong.fault [route.text])
  | stopped {reason : PathFault} (followed : Followed route)
      (stops : Stops tree true maxLinks (originOf route tree.start) route.names reason) :
      Shut tree route (reason.fault [route.text])
  | directory {place : Place} (followed : Followed route)
      (leads : Leads tree true maxLinks (originOf route tree.start) route.names
        (.directory place)) :
      Shut tree route (PathFault.isDirectory.fault [route.text])

section Opening

variable {tree : FileTree} {route : Route} {place : Place} {fault : Fault}

theorem Followed.resolve (followed : Followed route) (tree : FileTree) (creating : Bool) :
    tree.resolve creating route =
      tree.walk creating maxLinks (originOf route tree.start) route.names := by
  rw [FileTree.resolve, follow, if_neg (Bool.eq_false_iff.mp followed.nonempty),
    if_neg (Nat.not_le.mpr followed.short)]

theorem opens_iff : tree.Opens route place ↔ tree.writable route = .ok place := by
  rw [writable_iff_place?]
  constructor
  · rintro ⟨followed, target, leads, placed⟩
    refine ⟨followed.admitted, target, ?_, placed⟩
    rw [followed.resolve, leads.walk]
  · rintro ⟨admitted, target, resolved, placed⟩
    obtain ⟨nonempty, short, leads⟩ := resolve_eq_ok_iff.mp resolved
    exact ⟨⟨admitted, nonempty, short⟩, target, leads, placed⟩

theorem shut_of_writable (failed : tree.writable route = .error fault) :
    tree.Shut route fault := by
  unfold writable at failed
  cases refused : route.refusal? with
  | some raised =>
      rw [refused] at failed
      cases failed
      exact .unnamed refused
  | none =>
      simp only [refused] at failed
      by_cases empty : route.text.isEmpty = true
      · rw [resolve, follow, if_pos empty] at failed
        cases failed
        exact .empty refused empty
      have nonempty := Bool.eq_false_iff.mpr empty
      by_cases long : maxPath ≤ Path.nameLength route.text
      · rw [resolve, follow, if_neg empty, if_pos long] at failed
        cases failed
        exact .long refused nonempty long
      have followed : Followed route := ⟨refused, nonempty, Nat.not_le.mp long⟩
      rw [followed.resolve] at failed
      cases walked : tree.walk true maxLinks (originOf route tree.start) route.names with
      | error reason =>
          rw [walked] at failed
          cases failed
          exact .stopped followed (stops_of_walk walked)
      | ok target =>
          rw [walked] at failed
          cases target with
          | directory place =>
              cases failed
              exact .directory followed (leads_of_walk walked)
          | file => cases failed
          | vacant => cases failed

theorem Shut.writable (shut : tree.Shut route fault) : tree.writable route = .error fault := by
  cases shut with
  | unnamed refused => simp only [FileTree.writable, refused]
  | empty admitted empty =>
      have resolved : tree.resolve true route = .error .notFound := by
        rw [resolve, follow, if_pos empty]
      simp only [FileTree.writable, admitted, resolved]
  | long admitted nonempty long =>
      have resolved : tree.resolve true route = .error .nameTooLong := by
        rw [resolve, follow, if_neg (Bool.eq_false_iff.mp nonempty), if_pos long]
      simp only [FileTree.writable, admitted, resolved]
  | stopped followed stops =>
      simp only [FileTree.writable, followed.admitted, followed.resolve, stops.walk]
  | directory followed leads =>
      simp only [FileTree.writable, followed.admitted, followed.resolve, leads.walk]

/-- A route is shut for a reason exactly if it does not open. -/
theorem shut_iff : (∃ fault, tree.Shut route fault) ↔ ¬ ∃ place, tree.Opens route place := by
  constructor
  · rintro ⟨fault, shut⟩ ⟨place, opens⟩
    have writable := opens_iff.mp opens
    rw [shut.writable] at writable
    cases writable
  · intro closed
    cases writable : tree.writable route with
    | ok place => exact absurd ⟨place, opens_iff.mpr writable⟩ closed
    | error fault => exact ⟨fault, shut_of_writable writable⟩

/-- A tree is another one but for the file that the route leads to now, with this content. At its
place was a file before, or nothing. -/
structure Rewritten (before after : FileTree) (route : Route) (place : Place) (content : Bytes) :
    Prop where
  start : after.start = before.start
  resolves : after.resolve false route = .ok (.file place content)
  held : after.node? place = some (.file content)
  replaceable : ∀ node, before.node? place = some node → ∃ old, node = .file old
  others : ∀ other ≠ place, after.node? other = before.node? other

theorem Opens.place? (opens : tree.Opens route place) : tree.place? route = some place :=
  place?_of_writable (opens_iff.mp opens)

theorem Opens.rewritten (opens : tree.Opens route place) (content : Bytes) :
    tree.Rewritten (tree.set place (.file content)) route place content where
  start := rfl
  resolves := resolve_set_self opens.place? content
  held := node?_set_eq (.of_place? opens.place?) _
  replaceable := (Fillable.of_place? opens.place?).2
  others _ elsewhere := node?_set_ne tree _ elsewhere

end Opening

end ScriptFormat.FileTree
