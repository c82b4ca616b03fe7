import ScriptFormat.Proofs.Run.Delivery

/-!
# The faults of a run

If the streams and the engine raise ordinary faults and interrupts only, nothing
else stops a stage of a run: reading, the engine, the delivery. Each such fault can
be reported, as the name of its class has no bracket in it.
-/

namespace ScriptFormat

def Fault.IsCaught (fault : Fault) : Prop :=
  fault.isOrdinary = true ∨ ∃ message, fault = .interrupt message

/-- A fault that is caught, of a class whose name is an identifier. -/
structure Fault.Admitted (fault : Fault) : Prop where
  caught : fault.IsCaught
  named : Markup.opening ∉ fault.name

namespace Fault

theorem typed_admitted (error : TypedError) : (Fault.typed error).Admitted where
  caught := .inl rfl
  named := by
    change Markup.opening ∉ error.kind.name
    cases error.kind <;> decide

theorem interrupt_admitted (message : Text) : (Fault.interrupt message).Admitted where
  caught := .inr ⟨message, rfl⟩
  named := (by decide : Markup.opening ∉ Text.ofString "KeyboardInterrupt")

theorem undecodable_admitted (fault : DecodeFault) : (Fault.undecodable fault).Admitted where
  caught := .inl rfl
  named := (by decide : Markup.opening ∉ Text.ofString "UnicodeDecodeError")

theorem unencodable_admitted (fault : EncodeFault) : (Fault.unencodable fault).Admitted where
  caught := .inl rfl
  named := (by decide : Markup.opening ∉ Text.ofString "UnicodeEncodeError")

theorem ofValue_admitted (message : Text) : (ofValue message).Admitted where
  caught := .inl rfl
  named := (by decide : Markup.opening ∉ Text.ofString "ValueError")

theorem ofAttribute_admitted (message : Text) : (ofAttribute message).Admitted where
  caught := .inl rfl
  named := (by decide : Markup.opening ∉ Text.ofString "AttributeError")

theorem system_admitted (fault : PathFault) (files : List Text) : (fault.fault files).Admitted where
  caught := .inl rfl
  named := by
    change Markup.opening ∉ systemName fault.code
    cases fault <;> decide

theorem not_admitted_exit (status : Value) : ¬ (Fault.exit status).Admitted := by
  intro admitted
  rcases admitted.caught with ordinary | ⟨message, interrupt⟩
  · cases ordinary
  · cases interrupt

theorem eq_typed {fault : Fault} (typed : fault.isTyped = true) :
    ∃ error, fault = .typed error := by
  cases fault with
  | typed error => exact ⟨error, rfl⟩
  | _ => cases typed

/-- A fault that is caught and not ordinary is an interrupt. -/
theorem IsCaught.interrupt {fault : Fault} (caught : fault.IsCaught)
    (signal : fault.isOrdinary = false) : ∃ message, fault = .interrupt message := by
  rcases caught with ordinary | interrupt
  · rw [signal] at ordinary
    cases ordinary
  · exact interrupt

/-- The three kinds of admitted faults. -/
theorem Admitted.cases {fault : Fault} (admitted : fault.Admitted) :
    (∃ error, fault = .typed error) ∨ (∃ message, fault = .interrupt message) ∨
      fault.isOrdinary = true ∧ fault.isTyped = false := by
  cases typed : fault.isTyped with
  | true => exact .inl (eq_typed typed)
  | false =>
      cases ordinary : fault.isOrdinary with
      | true => exact .inr (.inr ⟨rfl, rfl⟩)
      | false => exact .inr (.inl (admitted.caught.interrupt ordinary))

end Fault

theorem Path.refusal?_admitted {text : Text} {fault : Fault}
    (refused : Path.refusal? text = some fault) : fault.Admitted := by
  unfold Path.refusal? at refused
  split at refused
  · cases refused
    exact Fault.unencodable_admitted _
  · split at refused
    · cases refused
      exact Fault.ofValue_admitted _
    · cases refused

namespace FileTree

variable {tree : FileTree}

theorem read_admitted {route : Route} {fault : Fault} (failed : tree.read route = .error fault) :
    fault.Admitted := by
  unfold read at failed
  repeat' split at failed
  all_goals cases failed
  · exact Path.refusal?_admitted ‹_›
  all_goals exact Fault.system_admitted _ _

theorem writable_admitted {route : Route} {fault : Fault}
    (failed : tree.writable route = .error fault) : fault.Admitted := by
  unfold writable at failed
  repeat' split at failed
  all_goals cases failed
  · exact Path.refusal?_admitted ‹_›
  all_goals exact Fault.system_admitted _ _

theorem readText_admitted {path : Path} {fault : Fault}
    (failed : tree.readText path = .error fault) : fault.Admitted := by
  unfold readText at failed
  split at failed
  · cases failed
    exact read_admitted ‹_›
  · split at failed
    · cases failed
    · cases failed
      exact Fault.undecodable_admitted _

theorem writeText_admitted {path : Path} {text : Text} {fault : Fault} {after : FileTree}
    (failed : tree.writeText path text = (.error fault, after)) : fault.Admitted := by
  unfold writeText at failed
  split at failed
  · cases failed
    exact writable_admitted ‹_›
  · split at failed
    · cases failed
    · cases failed
      exact Fault.unencodable_admitted _

end FileTree

structure InputStream.Admitted (stream : InputStream) : Prop where
  reading : ∀ fault, stream.content = .failing fault → fault.Admitted
  probing : ∀ fault, stream.terminal = .fails fault → fault.Admitted

def OutputStream.Admitted (stream : OutputStream) : Prop :=
  ∀ scripted method fault, stream = .scripted scripted → scripted.fails method = some fault →
    fault.Admitted

theorem InputStream.closedFault_admitted (content : InputContent) :
    (closedFault content).Admitted := by
  cases content <;> exact Fault.ofValue_admitted _

/-- Reading fails with the fault of the stream itself, or with an admitted one. -/
theorem InputStream.readAll_fault {stream : InputStream} {fault : Fault}
    (failed : stream.readAll.1 = .error fault) :
    stream.content = .failing fault ∨ fault.Admitted := by
  unfold readAll at failed
  split at failed
  · cases failed
    exact .inr (Fault.ofAttribute_admitted _)
  · cases failed
    exact .inl ‹_›
  · split at failed
    · cases failed
      exact .inr (closedFault_admitted _)
    · dsimp only at failed
      split at failed
      · cases failed
      · cases failed
        exact .inr (Fault.undecodable_admitted _)
  · split at failed
    · cases failed
      exact .inr (closedFault_admitted _)
    · cases failed

theorem InputStream.isInteractive_admitted {stream : InputStream} (admitted : stream.Admitted)
    {fault : Fault} (failed : stream.isInteractive = .error fault) : fault.Admitted := by
  unfold isInteractive at failed
  split at failed
  · cases failed
  · cases failed
  · split at failed
    · cases failed
    · cases failed
      exact admitted.probing _ ‹_›

/-- What is so of admitted faults and of the faults of a stream is so of all that it raises. -/
theorem OutputStream.Raises.holds {holds : Fault → Prop}
    (admitted : ∀ fault : Fault, fault.Admitted → holds fault) {stream : OutputStream}
    (own : ∀ scripted method fault, stream = .scripted scripted →
      scripted.fails method = some fault → holds fault)
    {fault : Fault} (raises : stream.Raises fault) : holds fault := by
  rcases raises with ⟨message, rfl⟩ | ⟨refused, rfl⟩ | ⟨scripted, method, same, fails⟩
  · exact admitted _ (Fault.ofValue_admitted message)
  · exact admitted _ (Fault.unencodable_admitted refused)
  · exact own scripted method fault same fails

theorem OutputStream.Admitted.raises {stream : OutputStream} (admitted : stream.Admitted)
    {fault : Fault} (raises : stream.Raises fault) : fault.Admitted :=
  OutputStream.Raises.holds (fun _ => id) admitted raises

theorem exists_of_mapError {ε φ α : Type} {result : Except ε α} {change : ε → φ} {raised : φ}
    (failed : result.mapError change = .error raised) :
    ∃ fault, result = .error fault ∧ change fault = raised := by
  cases result with
  | ok value => cases failed
  | error fault => exact ⟨fault, rfl, Except.error.inj failed⟩

theorem Source.mapped_holds {holds : Fault → Prop}
    (admitted : ∀ fault : Fault, fault.Admitted → holds fault) {fault : Fault} (own : holds fault)
    (guarded : Fault → Bool) (kind : ErrorKind) (message : Text) :
    holds (mapped guarded kind message fault).fault := by
  unfold mapped
  split
  · exact admitted _ (Fault.typed_admitted _)
  · exact own

theorem Source.mapped_admitted {fault : Fault} (admitted : fault.Admitted)
    (guarded : Fault → Bool) (kind : ErrorKind) (message : Text) :
    (mapped guarded kind message fault).fault.Admitted :=
  mapped_holds (fun _ => id) admitted guarded kind message

/-- What is so of admitted faults and of the fault of the input is so of all that stops the source
from being acquired. -/
theorem Invocation.acquired_holds {holds : Fault → Prop}
    (admitted : ∀ fault : Fault, fault.Admitted → holds fault) {invocation : Invocation}
    {tree : FileTree} {input : InputStream}
    (own : ∀ fault, input.content = .failing fault → holds fault) {raised : Raised}
    (failed : (invocation.acquired tree input).1 = .error raised) : holds raised.fault := by
  cases named : invocation.input with
  | some path =>
      rw [acquired_file named] at failed
      obtain ⟨fault, unread, rfl⟩ := exists_of_mapError failed
      exact Source.mapped_holds admitted (admitted fault (FileTree.readText_admitted unread)) _ _ _
  | none =>
      rw [acquired_input named] at failed
      obtain ⟨fault, unread, rfl⟩ := exists_of_mapError failed
      exact Source.mapped_holds admitted
        ((InputStream.readAll_fault unread).elim (own fault) (admitted fault)) _ _ _

theorem Invocation.acquired_admitted {invocation : Invocation} {tree : FileTree}
    {input : InputStream} (admitted : input.Admitted) {raised : Raised}
    (failed : (invocation.acquired tree input).1 = .error raised) : raised.fault.Admitted :=
  acquired_holds (fun _ => id) admitted.reading failed

def Engine.Admitted : Engine → Prop
  | .custom _ format => ∀ source config tree fault,
      (format source config tree).1 = .error fault → fault.IsCaught
  | .toolkit used => ∀ call fault, used.formatCode call = .error fault → fault.IsCaught

theorem Formatting.toolkitFailed_caught {fault : Fault} (caught : fault.IsCaught) :
    (toolkitFailed fault).fault.IsCaught := by
  unfold toolkitFailed
  split
  · exact .inl rfl
  · split
    · exact .inl rfl
    · exact caught

theorem Toolkit.answer_caught {toolkit : Toolkit}
    (admitted : ∀ call fault, toolkit.formatCode call = .error fault → fault.IsCaught)
    {source : Text} {config : FormatterConfig} {raised : Raised}
    (failed : toolkit.answer source config = .error raised) : raised.fault.IsCaught := by
  unfold answer at failed
  split at failed
  · cases failed
    exact .inl rfl
  · cases failed
    exact .inl rfl
  · split at failed
    · cases failed
      exact .inl rfl
    · cases answered : toolkit.formatCode (callFor source config) with
      | ok value =>
          rw [answered] at failed
          cases failed
      | error fault =>
          rw [answered] at failed
          cases failed
          exact Formatting.toolkitFailed_caught (admitted _ _ answered)

theorem Engine.answer_caught {engine : Engine} (admitted : engine.Admitted) {source : Text}
    {config : FormatterConfig} {tree : FileTree} {raised : Raised}
    (failed : (engine.answer source config tree).1 = .error raised) : raised.fault.IsCaught := by
  cases engine with
  | toolkit used => exact Toolkit.answer_caught admitted failed
  | custom name format =>
      cases answered : (format source config tree).1 with
      | ok value =>
          rw [answer, answered] at failed
          cases failed
      | error fault =>
          rw [answer, answered] at failed
          cases failed
          exact admitted source config tree fault answered

/-- What an engine raises becomes a typed error, or it is not ordinary and passes. -/
theorem Formatting.engineFailed_cases (raised : Raised) :
    (∃ error, (engineFailed raised).fault = .typed error) ∨
      raised.fault.isOrdinary = false ∧ engineFailed raised = raised := by
  unfold engineFailed
  by_cases passes : (raised.fault.isTyped || !raised.fault.isOrdinary) = true
  · rw [if_pos passes]
    cases ordinary : raised.fault.isOrdinary with
    | true =>
        rw [ordinary, Bool.not_true, Bool.or_false] at passes
        exact .inl (Fault.eq_typed passes)
    | false => exact .inr ⟨rfl, rfl⟩
  · rw [if_neg passes]
    exact .inl ⟨_, rfl⟩

theorem Formatting.engineFailed_admitted {raised : Raised} (caught : raised.fault.IsCaught) :
    (engineFailed raised).fault.Admitted := by
  rcases engineFailed_cases raised with ⟨error, typed⟩ | ⟨signal, passes⟩
  · rw [typed]
    exact Fault.typed_admitted error
  · obtain ⟨message, interrupt⟩ := caught.interrupt signal
    rw [passes, interrupt]
    exact Fault.interrupt_admitted message

/-- What stops formatting is a typed error or an interrupt. -/
theorem Formatting.outcome_admitted {engine : Engine} (admitted : engine.Admitted)
    {source : Text} {config : FormatterConfig} {tree : FileTree} {raised : Raised}
    (failed : outcome (engine.answer source config tree).1 = .error raised) :
    raised.fault.Admitted := by
  cases answered : (engine.answer source config tree).1 with
  | ok value =>
      rw [answered] at failed
      cases value <;> cases failed <;> exact Fault.typed_admitted _
  | error other =>
      rw [answered] at failed
      cases failed
      exact engineFailed_admitted (Engine.answer_caught admitted answered)

end ScriptFormat
