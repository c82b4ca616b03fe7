import ScriptFormat.Proofs.Log.Configured

/-!
# Where log records go

A log is configured and written to in any order. Behind any such events the program has the
one handler and the level of the latest configuration, and each record of the program goes
there once if it reaches the level. What has nothing to do with the program never comes near
a handler, and no line goes to the stream of an earlier configuration.
-/

namespace ScriptFormat

inductive LogEvent where
  | configured (time : Text) (setting : LogSetting)
  | recorded (time : Text) (record : LogRecord)

def LogEvent.setting? : LogEvent → Option LogSetting
  | .configured _ setting => some setting
  | .recorded .. => none

def latestSetting (events : List LogEvent) : Option LogSetting :=
  (events.filterMap LogEvent.setting?).getLast?

theorem latestSetting_cons (event : LogEvent) (rest : List LogEvent) (latest : Option LogSetting) :
    (latestSetting rest).or (event.setting?.or latest) =
      (latestSetting (event :: rest)).or latest := by
  cases event with
  | recorded => rfl
  | configured time setting =>
      have first : latestSetting (.configured time setting :: rest) =
          some ((latestSetting rest).getD setting) := List.getLast?_cons
      rw [first]
      cases latestSetting rest <;> rfl

namespace Log

def step (log : Log) : LogEvent → Log × List LogLine
  | .configured time setting => log.configure time setting.debug setting.target
  | .recorded time record => log.emit time record

def afterEvents (log : Log) (events : List LogEvent) : Log :=
  events.foldl (fun log event => (log.step event).1) log

def fresh (known : List Text) : Log := { loggers := known }

variable {log : Log} {latest : Option LogSetting}

theorem fresh_follows (known : List Text) : (fresh known).Follows none where
  level := rfl
  quiet := .inl rfl
  handlers := rfl
  answers _ _ found := nomatch found

theorem Follows.step (follows : log.Follows latest) (event : LogEvent) :
    (log.step event).1.Follows (event.setting?.or latest) := by
  cases event with
  | configured time setting =>
      exact (log.configured_follows setting).emit time setting.announcement
  | recorded time record => exact follows.emit time record

theorem Follows.afterEvents (follows : log.Follows latest) (events : List LogEvent) :
    (log.afterEvents events).Follows ((latestSetting events).or latest) := by
  induction events generalizing log latest with
  | nil => exact follows
  | cons event rest ih =>
      have later := ih (follows.step event)
      rw [← latestSetting_cons]
      exact later

theorem afterEvents_follows (known : List Text) (events : List LogEvent) :
    ((fresh known).afterEvents events).Follows (latestSetting events) := by
  have follows := (fresh_follows known).afterEvents events
  rwa [Option.or_none] at follows

structure Routed (latest : Option LogSetting) (time : Text) (record : LogRecord)
    (lines : List LogLine) : Prop where
  own : Own record.logger → lines = ownLines latest time record
  foreign : record.logger ≠ package → ¬IsBelow record.logger → lines = bareLines record
  either : lines = ownLines latest time record ∨ lines = bareLines record

theorem Follows.routed (follows : log.Follows latest) (time : Text) (record : LogRecord) :
    Routed latest time record (log.emit time record).2 where
  own own := (follows.know record.logger).own_lines own time
  foreign apart outside := (follows.know record.logger).foreign_lines apart outside time
  either := (follows.know record.logger).either_lines record time

/-- A line on the stream of a configuration, or else a bare one on the error stream: for a record of
the program only where nothing is configured. -/
inductive Permitted (latest : Option LogSetting) : LogEvent → LogLine → Prop where
  | handled {event : LogEvent} {line : LogLine} {setting : LogSetting}
      (configured : event.setting?.or latest = some setting)
      (there : line.target = setting.target) : Permitted latest event line
  | bare {time : Text} {record : LogRecord} (high : LogLevel.warning.rank ≤ record.level.rank)
      (unhandled : latest = none ∨ ¬Own record.logger) :
      Permitted latest (.recorded time record) ⟨.errors, record.message ++ "\n"⟩

theorem target_of_ownLines {setting : LogSetting} {time : Text} {record : LogRecord}
    {line : LogLine} (member : line ∈ ownLines (some setting) time record) :
    line.target = setting.target := by
  rw [ownLines] at member
  split at member
  · rw [List.mem_singleton.mp member]
  · cases member

theorem permitted_of_bareLines {time : Text} {record : LogRecord} {line : LogLine}
    (unhandled : latest = none ∨ ¬Own record.logger) (member : line ∈ bareLines record) :
    Permitted latest (.recorded time record) line := by
  unfold bareLines at member
  split at member
  · next high =>
      rw [List.mem_singleton.mp member]
      exact .bare high unhandled
  · cases member

theorem Routed.permitted {time : Text} {record : LogRecord} {lines : List LogLine}
    (routed : Routed latest time record lines) {line : LogLine} (member : line ∈ lines) :
    Permitted latest (.recorded time record) line := by
  have handled (same : lines = ownLines latest time record) :
      Permitted latest (.recorded time record) line := by
    rw [same] at member
    cases configured : latest with
    | none =>
        rw [configured] at member
        exact permitted_of_bareLines (.inl rfl) member
    | some setting =>
        rw [configured] at member
        exact .handled rfl (target_of_ownLines member)
  by_cases own : Own record.logger
  · exact handled (routed.own own)
  · rcases routed.either with same | bare
    · exact handled same
    · exact permitted_of_bareLines (.inr own) (bare ▸ member)

theorem configure_lines (log : Log) (time : Text) (setting : LogSetting) :
    (log.configure time setting.debug setting.target).2 =
      ownLines (some setting) time setting.announcement :=
  ((log.configured_follows setting).routed time setting.announcement).own .package

theorem Follows.step_permitted (follows : log.Follows latest) {event : LogEvent} {line : LogLine}
    (member : line ∈ (log.step event).2) : Permitted latest event line := by
  cases event with
  | configured time setting =>
      have shape := log.configure_lines time setting
      exact .handled rfl (target_of_ownLines (shape ▸ member))
  | recorded time record => exact (follows.routed time record).permitted member

/-- Whatever was configured and logged before: the program has exactly the handler and the level of
the latest configuration. A record of the program is written once there if it reaches the level and
not at all otherwise, and before any configuration as a bare line if it is a warning at least. A
record that has nothing to do with the program never comes near the handler. A name with two dots
behind the package is treated in one of the two ways. No line goes to the stream of an earlier
configuration. -/
theorem records_go_to_newest_handler (known : List Text) (events : List LogEvent) :
    let log := (fresh known).afterEvents events
    let latest := latestSetting events
    (log.packageLevel = latest.map LogSetting.level ∧
        log.handlers = (latest.map LogSetting.handler).toList) ∧
      (∀ time record, Routed latest time record (log.emit time record).2) ∧
      (∀ time setting, (log.configure time setting.debug setting.target).2 =
        ownLines (some setting) time setting.announcement) ∧
      ∀ event, ∀ line ∈ (log.step event).2, Permitted latest event line := by
  intro log latest
  have follows : log.Follows latest := afterEvents_follows known events
  refine ⟨⟨follows.level, follows.handlers⟩, follows.routed, log.configure_lines, ?_⟩
  intro event line member
  exact follows.step_permitted member

/-- The second of two streams gets the record of a logger of the program, and the first nothing. -/
theorem records_go_to_newest_handler_of_two :
    let first : LogSetting := ⟨true, .named "a"⟩
    let second : LogSetting := ⟨false, .named "b"⟩
    let events : List LogEvent := [.configured [] first, .configured [] second]
    let record : LogRecord := ⟨"gdfmt.cli.app", .error, "m"⟩
    Own record.logger ∧
      (((fresh []).afterEvents events).emit [] record).2 =
        [⟨.named "b", "gdfmt.cli.app: m\n"⟩] := by
  intro first second events record
  have own : Own record.logger := @Own.inside record.logger "cli.app" (by decide) (by decide)
  obtain ⟨_, routed, _⟩ := records_go_to_newest_handler [] events
  exact ⟨own, (routed [] record).own own⟩

/-- A dot right behind another hides the package: the record misses the handler. -/
theorem record_behind_two_dots :
    let setting : LogSetting := ⟨false, .named "a"⟩
    let events : List LogEvent := [.configured [] setting]
    let record : LogRecord := ⟨"gdfmt..x", .warning, "m"⟩
    IsBelow record.logger ∧ setting.level.rank ≤ record.level.rank ∧
      (((fresh []).afterEvents events).emit [] record).2 = [⟨.errors, "m\n"⟩] ∧
      (((fresh []).afterEvents events).emit [] record).2 ≠
        ownLines (latestSetting events) [] record := by
  refine ⟨⟨".x", by decide⟩, by decide, by decide, by decide⟩

end Log

end ScriptFormat
