import ScriptFormat.Log

/-!
# The loggers above a logger

A logger below the package has the package above it, whichever other loggers were asked
for, as long as no dot stands right behind the first dot of its name. A logger whose name
does not begin with the package and a dot never has it.
-/

namespace ScriptFormat

namespace Log

/-- The package, and the names below it in which no dot stands right behind the first. -/
inductive Own : Text → Prop where
  | package : Own package
  | inside {logger rest : Text} (begins : logger = package ++ dot :: rest)
      (apart : rest.head? ≠ some dot) : Own logger

def IsBelow (logger : Text) : Prop := ∃ rest, logger = package ++ dot :: rest

def IsPlain (name : Text) : Prop := name ≠ package ∧ name ≠ parser

variable {log : Log} {logger name : Text}

theorem suffix_of_cutAtDot {reversed above : Text} (cut : cutAtDot reversed = some above) :
    dot :: above <:+ reversed := by
  fun_induction cutAtDot reversed with
  | case1 => cases cut
  | case2 => cases cut
  | case3 rest nonempty =>
      cases cut
      exact List.suffix_refl _
  | case4 point rest nonempty apart ih => exact (ih cut).trans (List.suffix_cons point rest)

theorem cutAtDot_append {front above : Text} (clear : dot ∉ front) (nonempty : above ≠ []) :
    cutAtDot (front ++ dot :: above) = some above := by
  obtain ⟨first, others, rfl⟩ := List.exists_cons_of_ne_nil nonempty
  induction front with
  | nil => rfl
  | cons point front ih =>
      have apart : point ≠ dot := fun same => clear (same ▸ List.mem_cons_self)
      have behind : dot ∉ front := fun inside => clear (List.mem_cons_of_mem point inside)
      rw [List.cons_append, cutAtDot, if_neg apart]
      · exact ih behind
      · simp

theorem namesAbove_of_cut {fuel : Nat} {reversed above : Text}
    (cut : cutAtDot reversed = some above) (nonempty : above ≠ []) :
    namesAbove (fuel + 1) reversed =
      above :: namesAbove fuel (if above.head? = some dot then above.drop 1 else above) := by
  cases above with
  | nil => exact absurd rfl nonempty
  | cons first others => rw [namesAbove, cut]

/-- A name above is what stands in front of some dot. -/
theorem suffix_of_mem_namesAbove {fuel : Nat} {reversed above : Text}
    (member : above ∈ namesAbove fuel reversed) : dot :: above <:+ reversed := by
  induction fuel generalizing reversed with
  | zero => cases member
  | succ fuel ih =>
      unfold namesAbove at member
      cases cut : cutAtDot reversed with
      | none => rw [cut] at member; cases member
      | some next =>
          have reached := suffix_of_cutAtDot cut
          have behind : next <:+ reversed := (List.suffix_cons dot next).trans reached
          rw [cut] at member
          rcases List.mem_cons.mp member with here | further
          · rw [here]
            exact reached
          cases next with
          | nil => cases further
          | cons first others =>
              dsimp only at further
              split at further
              · exact (ih further).trans ((List.suffix_cons first others).trans behind)
              · exact (ih further).trans behind

def above (logger : Text) : List Text := (namesAbove logger.length logger.reverse).map List.reverse

theorem parent?_eq (log : Log) (logger : Text) :
    log.parent? logger =
      (above logger).find? fun name =>
        name == package || name == parser || log.loggers.contains name :=
  rfl

theorem eq_of_mem_above (member : name ∈ above logger) :
    ∃ rest, logger = name ++ dot :: rest := by
  obtain ⟨reversed, inside, same⟩ := List.mem_map.mp member
  obtain ⟨front, shape⟩ := suffix_of_mem_namesAbove inside
  refine ⟨front.reverse, ?_⟩
  rw [← List.reverse_reverse logger, ← shape, ← same]
  simp

def stem : Text := dot :: package.reverse

/-- What is left behind a cut, also where a dot is passed over, ends as the name did. -/
theorem passed_inside {inner : Text} (nonempty : inner ≠ []) (apart : inner.getLast? ≠ some dot) :
    ∃ next : Text, next.getLast? ≠ some dot ∧ next.length ≤ inner.length ∧
      (if (inner ++ stem).head? = some dot then (inner ++ stem).drop 1 else inner ++ stem) =
        next ++ stem := by
  obtain ⟨first, others, rfl⟩ := List.exists_cons_of_ne_nil nonempty
  by_cases skips : first = dot
  · refine ⟨others, ?_, Nat.le_succ _, by simp [skips]⟩
    cases others with
    | nil => exact absurd (by simp [skips]) apart
    | cons second more => simpa [List.getLast?_cons_cons] using apart
  · exact ⟨first :: others, apart, Nat.le_refl _, by simp [skips]⟩

/-- Every cut leaves the first dot alone, as the code point behind it is no dot: the cut in front
of which a dot is passed over is never the one right behind it. -/
theorem namesAbove_inside {fuel : Nat} {reversed : Text} (apart : reversed.getLast? ≠ some dot)
    (enough : reversed.length < fuel) :
    ∃ between, namesAbove fuel (reversed ++ stem) = between ++ [package.reverse] ∧
      ∀ name ∈ between, ∃ inner, name = inner ++ stem ∧ inner.getLast? ≠ some dot := by
  induction fuel generalizing reversed with
  | zero => cases enough
  | succ fuel ih =>
      -- The induction is on the cuts: as long as there is a dot left besides that of the stem, the
      -- next cut is there and leaves the stem alone.
      by_cases dotted : dot ∈ reversed
      · obtain ⟨front, inner, rfl, clear⟩ := List.eq_append_cons_of_mem dotted
        have nonempty : inner ≠ [] := by
          rintro rfl
          exact apart (by simp)
        have kept : inner.getLast? ≠ some dot := by
          obtain ⟨first, others, rfl⟩ := List.exists_cons_of_ne_nil nonempty
          simpa [List.getLast?_append, List.getLast?_cons] using apart
        have shape : front ++ dot :: inner ++ stem = front ++ dot :: (inner ++ stem) := by simp
        have shorter : inner.length < fuel := by
          rw [List.length_append, List.length_cons] at enough
          omega
        obtain ⟨next, still, less, same⟩ := passed_inside nonempty kept
        obtain ⟨between, names, own⟩ := ih still (by omega)
        have ends : inner ++ stem ≠ [] := List.append_ne_nil_of_left_ne_nil nonempty stem
        refine ⟨(inner ++ stem) :: between, ?_, ?_⟩
        · rw [shape, namesAbove_of_cut (cutAtDot_append clear ends) ends, same, names]
          rfl
        · rintro name (_ | ⟨_, member⟩)
          · exact ⟨inner, rfl, kept⟩
          · exact own name member
      · have last : namesAbove fuel package.reverse = [] := by
          cases fuel <;> rfl
        refine ⟨[], ?_, by simp⟩
        rw [namesAbove, stem, cutAtDot_append dotted (by decide)]
        exact congrArg (package.reverse :: ·) last

theorem above_package : above package = [] := by decide

/-- Above a logger of the program there are such loggers only, and the package last. -/
theorem above_own {rest : Text} (begins : logger = package ++ dot :: rest)
    (apart : rest.head? ≠ some dot) :
    ∃ between, above logger = between ++ [package] ∧ ∀ name ∈ between, Own name := by
  subst begins
  have kept : rest.reverse.getLast? ≠ some dot := by rwa [List.getLast?_reverse]
  have enough : rest.reverse.length < (package ++ dot :: rest).length := by
    simp only [List.length_reverse, List.length_append, List.length_cons]
    omega
  obtain ⟨between, names, own⟩ := namesAbove_inside kept enough
  refine ⟨between.map List.reverse, ?_, fun name member => ?_⟩
  · have shape : (package ++ dot :: rest).reverse = rest.reverse ++ stem := by simp [stem]
    rw [above, shape, names, List.map_append, List.map_singleton, List.reverse_reverse]
  · obtain ⟨reversed, inside, rfl⟩ := List.mem_map.mp member
    obtain ⟨inner, rfl, still⟩ := own reversed inside
    refine @Own.inside _ inner.reverse (by simp [stem]) ?_
    rwa [List.head?_reverse]

/-! ## The lineage of a logger -/

theorem parent?_package (log : Log) : log.parent? package = none := by
  rw [parent?_eq, above_package]
  rfl

theorem length_of_parent? {parent : Text} (found : log.parent? logger = some parent) :
    parent.length < logger.length := by
  obtain ⟨rest, shape⟩ := eq_of_mem_above (List.mem_of_find?_eq_some found)
  rw [shape, List.length_append, List.length_cons]
  omega

/-- Whichever loggers are known, the one above a logger of the program is of the program. -/
theorem Own.parent? (own : Own logger) (apart : logger ≠ Log.package) (log : Log) :
    ∃ parent, log.parent? logger = some parent ∧ Own parent := by
  cases own with
  | package => exact absurd rfl apart
  | inside begins behind =>
      obtain ⟨between, names, own⟩ := above_own begins behind
      have some : (log.parent? logger).isSome := by
        rw [parent?_eq, names, List.find?_isSome]
        exact ⟨Log.package, by simp, by simp⟩
      obtain ⟨parent, found⟩ := Option.isSome_iff_exists.mp some
      refine ⟨parent, found, ?_⟩
      have member := List.mem_of_find?_eq_some (parent?_eq log logger ▸ found)
      rw [names, List.mem_append, List.mem_singleton] at member
      rcases member with inside | last
      · exact own parent inside
      · exact last ▸ .package

theorem Own.ne_parser (own : Own logger) : logger ≠ parser := by
  rintro rfl
  cases own with
  | inside begins apart => cases begins

/-- The lineage of a logger of the program ends with the package, and nothing else in it is
configured. -/
theorem Own.lineage (own : Own logger) {fuel : Nat} (enough : logger.length < fuel) (log : Log) :
    ∃ plain : List Text, (∀ name ∈ plain, IsPlain name) ∧
      log.lineage fuel logger = plain ++ [Log.package] := by
  induction fuel generalizing logger with
  | zero => cases enough
  | succ fuel ih =>
      by_cases top : logger = Log.package
      · refine ⟨[], by simp, ?_⟩
        rw [top, Log.lineage, parent?_package]
        rfl
      · obtain ⟨parent, found, further⟩ := own.parent? top log
        have shorter := length_of_parent? found
        obtain ⟨plain, unconfigured, shape⟩ := ih further (by omega)
        refine ⟨logger :: plain, List.forall_mem_cons.mpr ⟨⟨top, own.ne_parser⟩, unconfigured⟩, ?_⟩
        rw [Log.lineage, found]
        exact congrArg (logger :: ·) shape

theorem Own.isRoot (own : Own logger) : isRoot logger = false := by
  cases own with
  | package => rfl
  | inside begins apart =>
      subst begins
      rfl

theorem Own.lineageOf (own : Own logger) (log : Log) :
    ∃ plain : List Text, (∀ name ∈ plain, IsPlain name) ∧
      log.lineageOf logger = plain ++ [Log.package] := by
  rw [Log.lineageOf, own.isRoot]
  exact own.lineage (Nat.lt_succ_self _) log

/-- A lineage holds nothing but what stands in front of a dot in the name of the logger, and the
logger. -/
theorem eq_of_mem_lineage {fuel : Nat} (member : name ∈ log.lineage fuel logger) :
    name = logger ∨ ∃ rest, logger = name ++ dot :: rest := by
  induction fuel generalizing logger with
  | zero => cases member
  | succ fuel ih =>
      rw [lineage] at member
      rcases List.mem_cons.mp member with here | further
      · exact .inl here
      right
      cases found : log.parent? logger with
      | none => rw [found] at further; cases further
      | some parent =>
          rw [found] at further
          obtain ⟨behind, shape⟩ := eq_of_mem_above (List.mem_of_find?_eq_some found)
          rcases ih further with rfl | ⟨rest, inner⟩
          · exact ⟨behind, shape⟩
          · exact ⟨rest ++ dot :: behind, by rw [shape, inner, List.append_assoc]; rfl⟩

/-- The package ends the lineage of any logger that has it. -/
theorem lineage_cases (log : Log) (fuel : Nat) (logger : Text) :
    ∃ others : List Text, package ∉ others ∧
      (log.lineage fuel logger = others ∨ log.lineage fuel logger = others ++ [package]) := by
  induction fuel generalizing logger with
  | zero => exact ⟨[], List.not_mem_nil, .inl rfl⟩
  | succ fuel ih =>
      rw [lineage]
      by_cases top : logger = package
      · refine ⟨[], List.not_mem_nil, .inr ?_⟩
        rw [top, parent?_package]
        rfl
      have apart (others : List Text) (clear : package ∉ others) : package ∉ logger :: others :=
        List.not_mem_cons_of_ne_of_not_mem (Ne.symm top) clear
      cases log.parent? logger with
      | none => exact ⟨[logger], apart [] List.not_mem_nil, .inl rfl⟩
      | some parent =>
          obtain ⟨others, clear, shape⟩ := ih parent
          refine ⟨logger :: others, apart others clear, ?_⟩
          rcases shape with without | ending
          · exact .inl (congrArg (logger :: ·) without)
          · exact .inr (congrArg (logger :: ·) ending)

theorem eq_of_mem_lineageOf (member : name ∈ log.lineageOf logger) :
    name = logger ∨ ∃ rest, logger = name ++ dot :: rest := by
  unfold lineageOf at member
  split at member
  · cases member
  · exact eq_of_mem_lineage member

theorem lineageOf_cases (log : Log) (logger : Text) :
    ∃ others : List Text, package ∉ others ∧
      (log.lineageOf logger = others ∨ log.lineageOf logger = others ++ [package]) := by
  unfold lineageOf
  split
  · exact ⟨[], List.not_mem_nil, .inl rfl⟩
  · exact log.lineage_cases _ logger

/-- The parser has no part in the names that begin as those below the package do. -/
theorem IsBelow.isPlain (below : IsBelow logger) (apart : name ≠ package)
    (within : name = logger ∨ ∃ rest, logger = name ++ dot :: rest) : IsPlain name := by
  refine ⟨apart, ?_⟩
  rintro rfl
  obtain ⟨rest, begins⟩ := below
  have first : logger.head? = package.head? := by
    rw [begins]
    rfl
  have same : logger.head? = parser.head? := by
    rcases within with rfl | ⟨behind, rfl⟩ <;> rfl
  rw [first] at same
  exact absurd same (by decide)

/-- Only the package and the names that begin as those below it have the package above them. -/
theorem package_notMem (apart : logger ≠ package) (outside : ¬IsBelow logger) (log : Log) :
    package ∉ log.lineageOf logger := by
  intro member
  rcases eq_of_mem_lineageOf member with same | below
  · exact apart same.symm
  · exact outside below

end Log

end ScriptFormat
