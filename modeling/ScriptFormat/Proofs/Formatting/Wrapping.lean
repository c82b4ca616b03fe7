import ScriptFormat.Proofs.Program.Course
import ScriptFormat.Proofs.Text.Pieces

/-!
# Errors of the toolkit

Whatever the toolkit does, its adapter gives what the formatter gave or raises a typed error,
unless a package is there and lacks the name that is taken from it. Formatting makes an error
of that as well. A fault of the formatter becomes an error once, in the adapter, and nothing is
added to it behind.
-/

namespace ScriptFormat

open Run

inductive Fault.Stops : Fault → Prop where
  | interrupt (message : Text) : Stops (.interrupt message)
  | exit (status : Value) : Stops (.exit status)
  | signal (name message : Text) : Stops (.foreign .signal name message)

theorem Fault.isOrdinary_eq_false_iff {fault : Fault} : fault.isOrdinary = false ↔ fault.Stops := by
  constructor
  · intro signal
    cases fault with
    | interrupt message => exact .interrupt message
    | exit status => exact .exit status
    | foreign family name message =>
        cases family with
        | signal => exact .signal name message
        | _ => cases signal
    | _ => cases signal
  · intro stops
    cases stops <;> rfl

namespace Toolkit

/-- The import that fails, where the one of the formatter comes first. -/
inductive Lacks (toolkit : Toolkit) (fault : ImportFault) : Prop where
  | formatter (failed : toolkit.formatterImport = some fault)
  | parser (imported : toolkit.formatterImport = none)
      (failed : toolkit.parserImport = some fault)

structure Ready (toolkit : Toolkit) (config : FormatterConfig) : Prop where
  formatter : toolkit.formatterImport = none
  parser : toolkit.parserImport = none
  plain : config.reorderCode = false

inductive Bars (toolkit : Toolkit) (config : FormatterConfig) : Raised → Prop where
  | absent {message : Text} (lacks : toolkit.Lacks (.moduleMissing message)) :
      Bars toolkit config
        { fault := .typed {
            kind := .environment
            message := "gdtoolkit is not installed. Install with: pip install gdtoolkit" }
          cause := some (.missing (.moduleMissing message)) }
  | incomplete {message : Text} (lacks : toolkit.Lacks (.nameMissing message)) :
      Bars toolkit config { fault := .missing (.nameMissing message) }
  | reordering (formatter : toolkit.formatterImport = none)
      (parser : toolkit.parserImport = none) (asked : config.reorderCode = true) :
      Bars toolkit config
        { fault := .typed {
            kind := .unsupportedOption
            message := "gdtoolkit does not support declaration reordering."
            hint := some "Run again without --reorder-code." } }

/-- How a fault of the formatter shows: a parser's is told without the blanks around it, any other
ordinary one with advice to update, and one that stops a run passes. -/
inductive Fails (fault : Fault) : Raised → Prop where
  | refused {message : Text} (parser : fault.isParser = true)
      (trimmed : Text.Trimmed CodePoint.isBlank fault.message message) :
      Fails fault
        { fault := .typed { kind := .format, message, hint := none }
          cause := some fault }
  | unexpected (ordinary : fault.isOrdinary = true) (other : fault.isParser = false) :
      Fails fault
        { fault := .typed {
            kind := .format
            message := "Unexpected gdtoolkit error: " ++ fault.message
            hint := some ("The input may have triggered a formatter bug.\n" ++
              "Also try updating gdtoolkit:\n    pip install --upgrade gdtoolkit") }
          cause := some fault }
  | passed (stops : fault.Stops) : Fails fault { fault }

inductive Answers (toolkit : Toolkit) (config : FormatterConfig) (call : ToolkitCall) :
    Except Raised Value → List ToolkitCall → Prop where
  | barred {raised : Raised} (bars : toolkit.Bars config raised) :
      Answers toolkit config call (.error raised) []
  | returned {value : Value} (ready : toolkit.Ready config)
      (answers : toolkit.formatCode call = .ok value) :
      Answers toolkit config call (.ok value) [call]
  | failed {fault : Fault} {raised : Raised} (ready : toolkit.Ready config)
      (answers : toolkit.formatCode call = .error fault) (fails : Fails fault raised) :
      Answers toolkit config call (.error raised) [call]

theorem importFault?_eq_some_iff {toolkit : Toolkit} {fault : ImportFault} :
    toolkit.importFault? = some fault ↔ toolkit.Lacks fault := by
  constructor
  · intro found
    unfold importFault? at found
    cases imported : toolkit.formatterImport with
    | some first =>
        rw [imported] at found
        exact .formatter (imported.trans found)
    | none =>
        rw [imported] at found
        exact .parser imported found
  · intro lacks
    unfold importFault?
    cases lacks with
    | formatter failed => rw [failed]; rfl
    | parser imported failed => rw [imported, failed]; rfl

theorem importFault?_eq_none_iff {toolkit : Toolkit} :
    toolkit.importFault? = none ↔
      toolkit.formatterImport = none ∧ toolkit.parserImport = none := by
  unfold importFault?
  cases toolkit.formatterImport <;> simp

theorem suggestUpgrade_formatterBug :
    Advice.suggestUpgrade "The input may have triggered a formatter bug." =
      "The input may have triggered a formatter bug.\n" ++
        "Also try updating gdtoolkit:\n    pip install --upgrade gdtoolkit" := by
  decide +kernel

theorem toolkitFailed_fails (fault : Fault) : Fails fault (Formatting.toolkitFailed fault) := by
  unfold Formatting.toolkitFailed
  split
  · next parser => exact .refused parser (Text.trimBy_trimmed _ _)
  · next other =>
      split
      · next ordinary =>
          rw [suggestUpgrade_formatterBug]
          exact .unexpected ordinary (Bool.eq_false_iff.mpr other)
      · next signal =>
          exact .passed (Fault.isOrdinary_eq_false_iff.mp (Bool.eq_false_iff.mpr signal))

theorem answer_answers (toolkit : Toolkit) (source : Text) (config : FormatterConfig) :
    toolkit.Answers config (callFor source config) (toolkit.answer source config)
      (toolkit.calls source config) := by
  unfold answer calls
  cases imports : toolkit.importFault? with
  | some fault =>
      have lacks := importFault?_eq_some_iff.mp imports
      cases fault with
      | moduleMissing message => exact .barred (.absent lacks)
      | nameMissing message => exact .barred (.incomplete lacks)
  | none =>
      obtain ⟨formatter, parser⟩ := importFault?_eq_none_iff.mp imports
      cases asked : config.reorderCode with
      | true => exact .barred (.reordering formatter parser asked)
      | false =>
          have ready : toolkit.Ready config := ⟨formatter, parser, asked⟩
          cases answers : toolkit.formatCode (callFor source config) with
          | ok value =>
              simp only [Bool.false_eq_true, if_false]
              exact .returned ready answers
          | error fault =>
              simp only [Bool.false_eq_true, if_false]
              exact .failed ready answers (toolkitFailed_fails fault)

end Toolkit

namespace Formatting

section Adapter

variable {toolkit : Toolkit} {config : FormatterConfig} {call : ToolkitCall}
  {result : Except Raised Value} {calls : List ToolkitCall}

/-- A package that lacks a name is all that gets past the adapter untyped. -/
theorem answers_typed (answers : toolkit.Answers config call result calls)
    (named : ¬ ∃ message, toolkit.importFault? = some (.nameMissing message)) :
    (∃ value, toolkit.formatCode call = .ok value ∧ result = .ok value) ∨
      (∃ error cause, result = .error { fault := .typed error, cause }) ∨
      ∃ fault, toolkit.formatCode call = .error fault ∧ fault.Stops ∧
        result = .error { fault } := by
  cases answers with
  | barred bars =>
      cases bars with
      | absent => exact .inr (.inl ⟨_, _, rfl⟩)
      | incomplete lacks =>
          exact absurd ⟨_, Toolkit.importFault?_eq_some_iff.mpr lacks⟩ named
      | reordering => exact .inr (.inl ⟨_, _, rfl⟩)
  | returned _ answers => exact .inl ⟨_, answers, rfl⟩
  | failed _ answers fails =>
      cases fails with
      | refused => exact .inr (.inl ⟨_, _, rfl⟩)
      | unexpected => exact .inr (.inl ⟨_, _, rfl⟩)
      | passed stops => exact .inr (.inr ⟨_, answers, stops, rfl⟩)

theorem answers_incomplete (answers : toolkit.Answers config call result calls) {message : Text}
    (missing : toolkit.importFault? = some (.nameMissing message)) :
    result = .error { fault := .missing (.nameMissing message) } := by
  have first {fault : ImportFault} (lacksOther : toolkit.Lacks fault) :
      fault = .nameMissing message := by
    have found := Toolkit.importFault?_eq_some_iff.mpr lacksOther
    rw [missing] at found
    exact (Option.some.inj found).symm
  have none (formatter : toolkit.formatterImport = none) (parser : toolkit.parserImport = none) :
      False := by
    rw [Toolkit.importFault?_eq_none_iff.mpr ⟨formatter, parser⟩] at missing
    cases missing
  cases answers with
  | barred bars =>
      cases bars with
      | absent lacks => cases first lacks
      | incomplete lacks => cases first lacks; rfl
      | reordering formatter parser => exact (none formatter parser).elim
  | returned ready => exact (none ready.formatter ready.parser).elim
  | failed ready => exact (none ready.formatter ready.parser).elim

end Adapter

/-- The adapter gives what the formatter gave or raises a typed error, and lets pass what stops a
run. Only where a package lacks the name that is taken from it, the fault of that is raised as it
is. -/
theorem callToolkit_raises_typed (toolkit : Toolkit) (source : Text) (config : FormatterConfig)
    (world : World) :
    let answer := toolkit.formatCode (Toolkit.callFor source config)
    let result := (callToolkit toolkit source config).result world
    ((¬ ∃ message, toolkit.importFault? = some (.nameMissing message)) →
      (∃ value, answer = .ok value ∧ result = .ok value) ∨
        (∃ error cause, result = .error { fault := .typed error, cause }) ∨
        ∃ fault, answer = .error fault ∧ fault.Stops ∧ result = .error { fault }) ∧
    ∀ message, toolkit.importFault? = some (.nameMissing message) →
      result = .error { fault := .missing (.nameMissing message) } := by
  intro answer result
  have answers := toolkit.answer_answers source config
  rw [← (callToolkit_yields toolkit source config world).result_eq] at answers
  constructor
  · intro named
    exact answers_typed answers named
  · intro message missing
    exact answers_incomplete answers missing

def brokenToolkit : Toolkit :=
  { formatCode := fun _ => .error (.foreign .other "AssertionError" "tree invariant") }

theorem callToolkit_raises_typed_when_broken :
    (¬ ∃ message, brokenToolkit.importFault? = some (.nameMissing message)) ∧
      ∃ error cause, (callToolkit brokenToolkit "x" {}).result Program.desk =
        .error { fault := .typed error, cause } := by
  have named : ¬ ∃ message, brokenToolkit.importFault? = some (.nameMissing message) := by
    rintro ⟨message, missing⟩
    cases missing
  constructor
  · exact named
  · rcases (callToolkit_raises_typed brokenToolkit "x" {} Program.desk).1 named with
      ⟨value, answer, _⟩ | typed | ⟨fault, answer, stops, _⟩
    · cases answer
    · exact typed
    · cases answer
      cases stops

def renamedToolkit : Toolkit :=
  { formatterImport := some (.nameMissing
      "cannot import name 'format_code' from 'gdtoolkit.formatter' (unknown location)")
    formatCode := fun call => .ok (.text call.source) }

/-- The fault of a missing name is an ordinary one, and no typed error is made of it. -/
theorem callToolkit_raises_on_missing_name :
    ∃ fault, (callToolkit renamedToolkit "x" {}).result Program.desk = .error { fault } ∧
      fault.isOrdinary = true ∧ fault.isTyped = false :=
  ⟨_, rfl, rfl, rfl⟩

/-! ## The service -/

/-- What formatting with a toolkit gives, and the calls of the formatter on the way. -/
inductive Wraps (toolkit : Toolkit) (config : FormatterConfig) (call : ToolkitCall) :
    Except Raised Text → List ToolkitCall → Prop where
  | barred {error : TypedError} {cause : Option Fault}
      (bars : toolkit.Bars config { fault := .typed error, cause }) :
      Wraps toolkit config call (.error { fault := .typed error, cause }) []
  | incomplete {message : Text} (lacks : toolkit.Lacks (.nameMissing message)) :
      Wraps toolkit config call
        (.error {
          fault := .typed {
            kind := .format
            message := "Unexpected formatting engine error: " ++ message }
          cause := some (.missing (.nameMissing message)) }) []
  | formatted {formatted : Text} (ready : toolkit.Ready config)
      (answers : toolkit.formatCode call = .ok (.text formatted)) :
      Wraps toolkit config call (.ok formatted) [call]
  | noText {value : Value} (ready : toolkit.Ready config)
      (answers : toolkit.formatCode call = .ok value) (other : ∀ text, value ≠ .text text) :
      Wraps toolkit config call
        (.error {
          fault := .typed {
            kind := .format
            message := "Formatting engine returned " ++ value.type ++ " instead of text." } })
        [call]
  | failed {fault : Fault} {raised : Raised} (ready : toolkit.Ready config)
      (answers : toolkit.formatCode call = .error fault) (fails : Toolkit.Fails fault raised) :
      Wraps toolkit config call (.error raised) [call]

/-- The service adds nothing to what the adapter made of a fault. -/
theorem engineFailed_of_fails {fault : Fault} {raised : Raised}
    (fails : Toolkit.Fails fault raised) : engineFailed raised = raised := by
  cases fails with
  | refused => rfl
  | unexpected => rfl
  | passed stops => cases stops <;> rfl

theorem outcome_noText {value : Value} (other : ∀ text, value ≠ .text text) :
    outcome (.ok value) = .error (notText value) := by
  cases value with
  | text formatted => exact absurd rfl (other formatted)
  | _ => rfl

theorem outcome_wraps {toolkit : Toolkit} {config : FormatterConfig} {call : ToolkitCall}
    {result : Except Raised Value} {calls : List ToolkitCall}
    (answers : toolkit.Answers config call result calls) :
    Wraps toolkit config call (outcome result) calls := by
  cases answers with
  | barred bars =>
      cases bars with
      | absent lacks => exact .barred (.absent lacks)
      | incomplete lacks => exact .incomplete lacks
      | reordering formatter parser asked => exact .barred (.reordering formatter parser asked)
  | @returned value ready answers =>
      by_cases text : ∃ formatted, value = .text formatted
      · obtain ⟨formatted, rfl⟩ := text
        exact .formatted ready answers
      · have other : ∀ formatted, value ≠ .text formatted := not_exists.mp text
        rw [outcome_noText other]
        exact .noText ready answers other
  | failed ready answers fails =>
      rw [outcome, engineFailed_of_fails fails]
      exact .failed ready answers fails

/-- Formatting with a toolkit calls the formatter at most once, with a hundred columns and the
indent where spaces are in use, and gives its text or an error that was made once. -/
theorem format_wraps_once (toolkit : Toolkit) (source : Text) (config : FormatterConfig)
    (world : World) :
    ∃ calls,
      Wraps toolkit config
        { source
          lineLength := 100
          indent := if config.useSpaces then some config.indentSize else none }
        ((format (.toolkit toolkit) source config).result world) calls ∧
      ((format (.toolkit toolkit) source config).after world).toolkitCalls =
        world.toolkitCalls ++ calls := by
  have yields := format_yields (.toolkit toolkit) source config world
  refine ⟨toolkit.calls source config, ?_, ?_⟩
  · rw [yields.result_eq]
    exact outcome_wraps (toolkit.answer_answers source config)
  · obtain ⟨log, errors, left⟩ := yields.after_eq
    rw [left]
    rfl

end Formatting

end ScriptFormat
