import ScriptFormat.Proofs.Log.Lineage

/-!
# A configured log

What a log keeps to is what its latest configuration asks for: the level of the program, the
one handler, and the answers that loggers gave since. So a record leaves lines that depend
on the latest configuration only, on nothing configured or logged before.
-/

namespace ScriptFormat

structure LogSetting where
  debug : Bool
  target : LogTarget
  deriving DecidableEq

namespace LogSetting

def level (setting : LogSetting) : LogLevel := Log.levelFor setting.debug

def handler (setting : LogSetting) : LogHandler :=
  ⟨setting.target, setting.level, setting.debug⟩

def announcement (setting : LogSetting) : LogRecord :=
  ⟨Log.package, .debug, "Logging configured: level=" ++ setting.level.name⟩

end LogSetting

namespace Log

variable {log : Log} {latest : Option LogSetting} {record : LogRecord} {logger : Text}

def ownLevel (latest : Option LogSetting) : LogLevel := (latest.map LogSetting.level).getD .warning

def reaches (level : LogLevel) (record : LogRecord) : Bool :=
  decide (level.rank ≤ record.level.rank)

/-- An answer to whether a record is taken: it goes by the level of the program where its logger is
of the program, and by that of the root where it has nothing to do with the program. A name with
two dots behind the package may go by either. -/
structure Apt (latest : Option LogSetting) (record : LogRecord) (answer : Bool) : Prop where
  own : Own record.logger → answer = reaches (ownLevel latest) record
  foreign : record.logger ≠ package → ¬IsBelow record.logger → answer = reaches .warning record
  either : answer = reaches (ownLevel latest) record ∨ answer = reaches .warning record

/-- Answers go by the logger and the level of a record alone. -/
theorem Apt.of_same {other : LogRecord} {answer : Bool} (apt : Apt latest record answer)
    (logger : other.logger = record.logger) (level : other.level = record.level) :
    Apt latest other answer := by
  have same (least : LogLevel) : reaches least other = reaches least record := by
    rw [reaches, reaches, level]
  refine ⟨fun own => ?_, fun apart outside => ?_, ?_⟩
  · rw [same]
    exact apt.own (logger ▸ own)
  · rw [same]
    exact apt.foreign (logger ▸ apart) (logger ▸ outside)
  · rw [same, same]
    exact apt.either

/-- The log is as its latest configuration has left it, but for the loggers asked for. -/
structure Follows (latest : Option LogSetting) (log : Log) : Prop where
  level : log.packageLevel = latest.map LogSetting.level
  quiet : log.parserLevel = none ∨ log.parserLevel = some .warning
  handlers : log.handlers = (latest.map LogSetting.handler).toList
  answers : ∀ record answer, log.answer? record = some answer → Apt latest record answer

theorem findSome?_ownLevel? (log : Log) {plain : List Text}
    (unconfigured : ∀ name ∈ plain, IsPlain name) :
    (plain ++ [package]).findSome? log.ownLevel? = log.packageLevel := by
  have none : plain.findSome? log.ownLevel? = none :=
    List.findSome?_eq_none_iff.mpr fun name member => by
      rw [ownLevel?, if_neg (unconfigured name member).1, if_neg (unconfigured name member).2]
  rw [List.findSome?_append, none]
  simp [ownLevel?]

theorem Follows.threshold_of_ends (follows : log.Follows latest) {plain : List Text}
    (unconfigured : ∀ name ∈ plain, IsPlain name)
    (shape : log.lineageOf logger = plain ++ [package]) :
    log.threshold logger = ownLevel latest := by
  rw [threshold, shape, findSome?_ownLevel? log unconfigured, follows.level, ownLevel]

theorem Follows.threshold_of_notMem (follows : log.Follows latest)
    (apart : package ∉ log.lineageOf logger) : log.threshold logger = .warning := by
  cases found : (log.lineageOf logger).findSome? log.ownLevel? with
  | none => rw [threshold, found]; rfl
  | some level =>
      obtain ⟨name, member, own⟩ := List.exists_of_findSome?_eq_some found
      have other : name ≠ package := fun same => apart (same ▸ member)
      rw [ownLevel?, if_neg other] at own
      split at own
      · rcases follows.quiet with unset | quiet
        · rw [unset] at own
          cases own
        · rw [quiet] at own
          rw [threshold, found, ← own]
          rfl
      · cases own

theorem handlersFor_of_notMem (apart : package ∉ log.lineageOf logger) :
    log.handlersFor logger = [] := by
  rw [handlersFor, List.flatMap_eq_nil_iff]
  intro name member
  have other : name ≠ package := fun same => apart (same ▸ member)
  rw [ownHandlers, if_neg other]

theorem handlersFor_of_ends {others : List Text} (clear : package ∉ others)
    (shape : log.lineageOf logger = others ++ [package]) :
    log.handlersFor logger = log.handlers := by
  have none : others.flatMap log.ownHandlers = [] := by
    rw [List.flatMap_eq_nil_iff]
    intro name member
    have other : name ≠ package := fun same => clear (same ▸ member)
    rw [ownHandlers, if_neg other]
  rw [handlersFor, shape, List.flatMap_append, none, List.flatMap_singleton]
  rfl

theorem Own.handlersFor (own : Own logger) (log : Log) : log.handlersFor logger = log.handlers := by
  obtain ⟨plain, unconfigured, shape⟩ := own.lineageOf log
  exact handlersFor_of_ends (fun member => (unconfigured _ member).1 rfl) shape

theorem Follows.threshold_own (follows : log.Follows latest) (own : Own logger) :
    log.threshold logger = ownLevel latest := by
  obtain ⟨plain, unconfigured, shape⟩ := own.lineageOf log
  exact follows.threshold_of_ends unconfigured shape

theorem Follows.threshold_either (follows : log.Follows latest) (logger : Text) :
    log.threshold logger = ownLevel latest ∨ log.threshold logger = .warning := by
  by_cases own : logger = package
  · exact .inl (follows.threshold_own (own ▸ .package))
  by_cases below : IsBelow logger
  -- Which loggers are known decides whether the package is reached behind two dots.
  · obtain ⟨others, clear, without | ending⟩ := log.lineageOf_cases logger
    · exact .inr (follows.threshold_of_notMem (without ▸ clear))
    · refine .inl (follows.threshold_of_ends (fun name member => ?_) ending)
      have inside : name ∈ log.lineageOf logger := ending ▸ List.mem_append_left _ member
      exact below.isPlain (fun same => clear (same ▸ member)) (eq_of_mem_lineageOf inside)
  · exact .inr (follows.threshold_of_notMem (package_notMem own below log))

/-- A logger answers as its class does, now and later. -/
theorem Follows.takes (follows : log.Follows latest) (record : LogRecord) :
    Apt latest record (log.takes record) := by
  unfold Log.takes
  cases found : log.answer? record with
  | some answer => exact follows.answers record answer found
  | none =>
      refine ⟨fun own => ?_, fun apart outside => ?_, ?_⟩
      · rw [follows.threshold_own own]
        rfl
      · rw [follows.threshold_of_notMem (package_notMem apart outside log)]
        rfl
      · rcases follows.threshold_either record.logger with same | same
        · exact .inl (by rw [same]; rfl)
        · exact .inr (by rw [same]; rfl)

/-- The lines of a record of the program: one in the form and on the stream that the latest
configuration asks for, and before any a bare one. -/
def ownLines (latest : Option LogSetting) (time : Text) (record : LogRecord) : List LogLine :=
  match latest with
  | none => bareLines record
  | some setting =>
      if setting.level.rank ≤ record.level.rank then
        [⟨setting.target, render setting.debug time record⟩]
      else []

theorem bareLines_of_not_reaches (low : reaches .warning record = false) :
    bareLines record = [] := by
  rw [bareLines, if_neg (of_decide_eq_false low)]

theorem ownLines_of_not_reaches (low : reaches (ownLevel latest) record = false) (time : Text) :
    ownLines latest time record = [] := by
  cases latest with
  | none => exact bareLines_of_not_reaches low
  | some setting => exact if_neg (of_decide_eq_false low)

/-- A handler of the latest configuration writes every record of its level, and no other. -/
theorem filterMap_handled? (setting : LogSetting) (time : Text) (record : LogRecord) :
    [setting.handler].filterMap (handled? time record) = ownLines (some setting) time record := by
  by_cases low : record.level.rank < setting.level.rank
  · have passed : handled? time record setting.handler = none := if_pos low
    rw [List.filterMap_cons_none passed, ownLines, if_neg (Int.not_le.mpr low)]
    rfl
  · have written : handled? time record setting.handler =
        some ⟨setting.target, render setting.debug time record⟩ := if_neg low
    rw [List.filterMap_cons_some written, ownLines, if_pos (Int.not_lt.mp low)]
    rfl

theorem Follows.lines_of_handlers (follows : log.Follows latest) (time : Text)
    (handlers : log.handlersFor record.logger = log.handlers) (taken : log.takes record = true) :
    log.linesFor time record = ownLines latest time record := by
  rw [linesFor, if_pos taken, handlers, follows.handlers]
  cases latest with
  | none => rfl
  | some setting => exact filterMap_handled? setting time record

theorem lines_of_none (time : Text) (handlers : log.handlersFor record.logger = [])
    (taken : log.takes record = true) : log.linesFor time record = bareLines record := by
  rw [linesFor, if_pos taken, handlers]

theorem lines_of_refused (time : Text) (refused : log.takes record = false) :
    log.linesFor time record = [] := by
  rw [linesFor, refused]
  rfl

theorem Follows.own_lines (follows : log.Follows latest) (own : Own record.logger) (time : Text) :
    log.linesFor time record = ownLines latest time record := by
  cases taken : log.takes record with
  | true => exact follows.lines_of_handlers time (own.handlersFor log) taken
  | false =>
      have low := (follows.takes record).own own
      rw [lines_of_refused time taken, ownLines_of_not_reaches (low ▸ taken)]

theorem Follows.foreign_lines (follows : log.Follows latest) (apart : record.logger ≠ package)
    (outside : ¬IsBelow record.logger) (time : Text) :
    log.linesFor time record = bareLines record := by
  have unhandled := handlersFor_of_notMem (package_notMem apart outside log)
  cases taken : log.takes record with
  | true => exact lines_of_none time unhandled taken
  | false =>
      have low := (follows.takes record).foreign apart outside
      rw [lines_of_refused time taken, bareLines_of_not_reaches (low ▸ taken)]

/-- Whatever the name of a logger, its records are written as those of the program or bare. -/
theorem Follows.either_lines (follows : log.Follows latest) (record : LogRecord) (time : Text) :
    log.linesFor time record = ownLines latest time record ∨
      log.linesFor time record = bareLines record := by
  cases taken : log.takes record with
  | true =>
      obtain ⟨others, clear, without | ending⟩ := log.lineageOf_cases record.logger
      · exact .inr (lines_of_none time (handlersFor_of_notMem (without ▸ clear)) taken)
      · exact .inl (follows.lines_of_handlers time (handlersFor_of_ends clear ending) taken)
  | false =>
      rw [lines_of_refused time taken]
      rcases (follows.takes record).either with low | low
      · exact .inl (ownLines_of_not_reaches (low ▸ taken) time).symm
      · exact .inr (bareLines_of_not_reaches (low ▸ taken)).symm

/-! ## What a step keeps -/

theorem Follows.know (follows : log.Follows latest) (logger : Text) :
    (log.know logger).Follows latest := by
  unfold Log.know
  split
  · exact follows
  · exact ⟨follows.level, follows.quiet, follows.handlers, follows.answers⟩

theorem Follows.keepAnswer (follows : log.Follows latest) (record : LogRecord) :
    (log.keepAnswer record).Follows latest := by
  refine ⟨follows.level, follows.quiet, follows.handlers, fun other answer found => ?_⟩
  rw [answer?, Log.keepAnswer, List.lookup_cons] at found
  split at found
  · next same =>
      obtain ⟨logger, level⟩ := Prod.mk.inj (eq_of_beq same)
      cases found
      exact (follows.takes record).of_same logger level
  · exact follows.answers other answer found

theorem Follows.emit (follows : log.Follows latest) (time : Text) (record : LogRecord) :
    (log.emit time record).1.Follows latest :=
  (follows.know record.logger).keepAnswer record

/-- A configuration makes the log follow it, whatever was configured or logged before. -/
theorem configured_follows (log : Log) (setting : LogSetting) :
    (log.configured setting.debug setting.target).Follows (some setting) where
  level := rfl
  quiet := .inr rfl
  handlers := rfl
  answers _ _ found := nomatch found

def IsConfigured (debug : Bool) (log : Log) : Prop := log.Follows (some ⟨debug, .errors⟩)

end Log

end ScriptFormat
