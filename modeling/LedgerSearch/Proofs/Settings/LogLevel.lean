import LedgerSearch.Proofs.Settings.Variables
import LedgerSearch.Proofs.Text.Upper

/-!
# The log level that settings accept

Every text is accepted as a log level and kept in upper case, so nothing is reported
for it with the other variables. Whether there is a level of that name is only found
out when logging is set up, and a command that finds none fails there. Where records
have been handled before, the name is not looked at and no command fails for it.

* `LogLevel.parse_upper`: a level is read from its name in upper case as from the name.
* `choose_of_load`: the level that is chosen after settings are accepted.
* `configure_of_load`: how logging is set up after settings are accepted.
* `accepts_congr`: settings are accepted or not whatever the log level is.
* `run_failed_logLevel_iff`: a command fails for its log level before anything else.
-/

namespace LedgerSearch

/-! ## Names of levels -/

namespace LogLevel

theorem parse_upper (s : String) : parse (Text.upper s) = parse s := by
  simp only [parse, Text.upper_upper]

/-- Whether a text is the name of a level, in any case. -/
def IsName (s : String) : Prop :=
  ∃ level, (Text.upper s, level) ∈ names

theorem exists_parse_iff {s : String} : (∃ level, parse s = .ok level) ↔ IsName s := by
  simp only [parse, IsName]
  constructor
  · rintro ⟨level, h⟩
    split at h
    · rename_i found hfound
      obtain ⟨front, back, hnames, -⟩ := List.lookup_eq_some_iff.mp hfound
      exact ⟨found, by simp [hnames]⟩
    · cases h
  · rintro ⟨level, hmem⟩
    split
    · exact ⟨_, rfl⟩
    · rename_i hnone
      have hne := List.lookup_eq_none_iff.mp hnone _ hmem
      simp at hne

theorem parse_eq_error_iff {s : String} {e : LogLevelError} :
    parse s = .error e ↔ e = .unknown (Text.upper s) ∧ ¬ IsName s := by
  rw [← exists_parse_iff]
  simp only [parse]
  split
  · simp
  · simp [eq_comm]

/-- The first text that is not empty decides. -/
theorem choose_cons {s : String} {choices : List (Option String)} :
    choose (some s :: choices) = if s = "" then choose choices else parse s := by
  by_cases h : s = ""
  · simp [choose, h]
  · simp [choose, h]

theorem choose_singleton (choice : Option String) :
    choose [choice] = parse ((choice.filter (· ≠ "")).getD "INFO") := by
  cases choice with
  | none => rfl
  | some s =>
    rw [choose_cons]
    by_cases h : s = ""
    · simp [choose, Option.filter, h]
    · simp [Option.filter, h]

end LogLevel

namespace Settings

variable {env file : Environment}

/-! ## The text that decides -/

/-- The value of the variable for the log level, in the environment or else in the file. -/
def levelValue (env file : Environment) : String :=
  ((env.getAnyCase? "LOG_LEVEL").or (file.getAnyCase? "LOG_LEVEL")).getD "INFO"

/-- The text that decides on the log level: the value of the variable, or if that is empty the value
that stands under exactly that name in the environment, and last `INFO`. -/
def levelText (env file : Environment) : String :=
  if levelValue env file = "" then ((env.get? "LOG_LEVEL").filter (· ≠ "")).getD "INFO"
  else levelValue env file

/-- Any value is accepted, and kept in upper case. -/
theorem stands_checkLogLevel_iff {level : String} :
    Stands checkLogLevel "INFO" (found? [] env file "LOG_LEVEL") level ↔
      level = Text.upper (levelValue env file) := by
  have hfound : found? [] env file "LOG_LEVEL" =
      ((env.getAnyCase? "LOG_LEVEL").or (file.getAnyCase? "LOG_LEVEL")).map .text := by
    rw [found?, Option.map_or]
    rfl
  have hinfo : Text.upper "INFO" = "INFO" := by
    decide +kernel
  rw [hfound, levelValue]
  cases (env.getAnyCase? "LOG_LEVEL").or (file.getAnyCase? "LOG_LEVEL") with
  | none => rw [Option.getD_none, hinfo]; rfl
  | some text => exact ⟨fun h => (Checked.ok.inj h).symm, fun h => congrArg Checked.ok h.symm⟩

/-- After settings are accepted, the level is the one that the deciding text names. -/
theorem choose_of_load {settings : Settings} (h : load [] env file = .ok settings) :
    LogLevel.choose [some settings.logLevel, env.get? "LOG_LEVEL"] =
      LogLevel.parse (levelText env file) := by
  rw [stands_checkLogLevel_iff.mp (load_eq_ok_iff.mp h).logLevel, LogLevel.choose_cons, levelText,
    LogLevel.choose_singleton, LogLevel.parse_upper]
  -- Upper case leaves only the empty text empty, so the same text decides before and after it.
  simp only [Text.upper_eq_empty_iff]
  split <;> rfl

/-- After settings are accepted, logging is set up at the level that the deciding text names, unless
records have been handled before. -/
theorem configure_of_load {settings : Settings} (h : load [] env file = .ok settings)
    (before : RootLogger) :
    Logging.configure before [some settings.logLevel, env.get? "LOG_LEVEL"] =
      if before.hasHandlers then .ok { root := before.level, writes := false }
      else (LogLevel.parse (levelText env file)).map fun level =>
        { root := level, writes := true } := by
  rw [Logging.configure, choose_of_load h]
  cases LogLevel.parse (levelText env file) <;> rfl

/-- Logging cannot be set up exactly if no records have been handled before and the deciding text
names no level. -/
theorem configure_eq_error_iff {settings : Settings} (h : load [] env file = .ok settings)
    {before : RootLogger} {e : LogLevelError} :
    Logging.configure before [some settings.logLevel, env.get? "LOG_LEVEL"] = .error e ↔
      before.hasHandlers = false ∧ ¬ LogLevel.IsName (levelText env file) ∧
        e = .unknown (Text.upper (levelText env file)) := by
  rw [configure_of_load h]
  cases before.hasHandlers with
  | true => simp
  | false =>
    have hparse := LogLevel.parse_eq_error_iff (s := levelText env file) (e := e)
    rw [and_comm] at hparse
    cases hlevel : LogLevel.parse (levelText env file) with
    | ok level => simpa [hlevel, Except.map] using hparse
    | error e' => simpa [hlevel, Except.map] using hparse

theorem exists_configure_iff {settings : Settings} (h : load [] env file = .ok settings)
    (before : RootLogger) :
    (∃ logging,
        Logging.configure before [some settings.logLevel, env.get? "LOG_LEVEL"] = .ok logging) ↔
      before.hasHandlers = true ∨ LogLevel.IsName (levelText env file) := by
  rw [configure_of_load h, ← LogLevel.exists_parse_iff]
  cases before.hasHandlers with
  | true => exact iff_of_true ⟨_, rfl⟩ (.inl rfl)
  | false =>
    cases LogLevel.parse (levelText env file) with
    | ok level => exact iff_of_true ⟨_, rfl⟩ (.inr ⟨level, rfl⟩)
    | error e => simp [Except.map]

/-- Settings are accepted or not whatever the log level is. -/
theorem accepts_congr {env' file' : Environment}
    (h : ∀ name ∈ variableNames, name ≠ "LOG_LEVEL" →
      found? [] env' file' name = found? [] env file name) :
    Accepts [] env' file' ↔ Accepts [] env file := by
  have hany (env file : Environment) :
      ∃ level, Stands checkLogLevel "INFO" (found? [] env file "LOG_LEVEL") level :=
    ⟨_, stands_checkLogLevel_iff.mpr rfl⟩
  rw [accepts_iff_stands, accepts_iff_stands, h "DATABASE_URL" (by decide) (by decide),
    h "SEARCH_OPERATORS" (by decide) (by decide), h "SEARCH_PAGE_SIZE" (by decide) (by decide)]
  exact and_congr_right fun _ => and_congr_right fun _ => and_congr_right fun _ =>
    iff_of_true (hany _ _) (hany _ _)

end Settings

/-! ## Commands -/

namespace CommandLine

open Database Sql

variable {w : World} {arguments : List String} {e : LogLevelError}

theorem setUp_eq_logLevel_iff {settings : Settings}
    (h : Settings.load [] (w.environment.withDefaults w.file) w.file = .ok settings) :
    setUp w = .error (.logLevel e) ↔
      Logging.configure w.rootLogger [some settings.logLevel,
        (w.environment.withDefaults w.file).get? "LOG_LEVEL"] = .error e := by
  simp only [setUp, h]
  cases Logging.configure w.rootLogger [some settings.logLevel,
    (w.environment.withDefaults w.file).get? "LOG_LEVEL"] with
  | error e' => simp
  | ok logging =>
    refine iff_of_false ?_ (by simp)
    obtain ⟨registry, hregistry⟩ := settings.exists_registry
    simp only [hregistry]
    split
    · simp
    · split
      · simp
      · simp

/-- A query that is replied to does not fail for the log level. -/
theorem reply_ne_failed_logLevel (w : World) (setup : Setup) (request : Request)
    (interpreted : Except Failure Interpretation) (output : String) :
    (reply w setup request interpreted).ending ≠ .failed output (.logLevel e) := by
  intro h
  cases interpreted with
  | error e' => cases e' <;> cases h
  | ok i =>
    rw [reply] at h
    rcases answer_ending w setup request i with
      ⟨_, -, hends⟩ | ⟨_, _, hends, hanswer⟩ | ⟨_, hends⟩
    · rw [hends] at h
      cases h
    · rw [hends] at h
      cases h
      exact hanswer
    · rw [hends] at h
      cases h

/-- A command fails for its log level before anything else is done. -/
theorem run_failed_logLevel_iff {request : Request} {output : String}
    (hrequest : Request.ofArguments arguments = .ok request) :
    (run w arguments).ending = .failed output (.logLevel e) ↔
      output = "" ∧ setUp w = .error (.logLevel e) := by
  have hrun : run w arguments = serve w request := by rw [run, hrequest]
  rw [hrun]
  cases hsetUp : setUp w with
  | error e' => simp [serve, hsetUp, eq_comm]
  | ok setup =>
    refine iff_of_false ?_ (by simp)
    rw [ending_serve hsetUp]
    exact reply_ne_failed_logLevel w setup request _ output

/-- Settings are accepted for the values of the other variables alone. The level is then the one
that the deciding text names in any case. Where records have been handled before, that text is not
looked at; otherwise, where it names no level, logging cannot be set up and the program cannot
start: a command ends with a failure of its own, before anything happens to the database. -/
theorem accepted_level_starts_iff {env file : Environment} {settings : Settings}
    (h : Settings.load [] env file = .ok settings) :
    (∀ env' file', (∀ name ∈ Settings.variableNames, name ≠ "LOG_LEVEL" →
        Settings.found? [] env' file' name = Settings.found? [] env file name) →
      Settings.Accepts [] env' file') ∧
    (∀ before : RootLogger,
      Logging.configure before [some settings.logLevel, env.get? "LOG_LEVEL"] =
          (if before.hasHandlers then .ok { root := before.level, writes := false }
          else (LogLevel.parse (Settings.levelText env file)).map fun level =>
            { root := level, writes := true }) ∧
        ((∃ logging,
            Logging.configure before [some settings.logLevel, env.get? "LOG_LEVEL"] = .ok logging) ↔
          before.hasHandlers = true ∨ LogLevel.IsName (Settings.levelText env file))) ∧
    ∀ w arguments request, w.environment.withDefaults w.file = env → w.file = file →
      Request.ofArguments arguments = .ok request →
      ((∀ output e, (run w arguments).ending ≠ .failed output (.logLevel e)) ↔
        w.rootLogger.hasHandlers = true ∨ LogLevel.IsName (Settings.levelText env file)) ∧
      (w.rootLogger.hasHandlers = false → ¬ LogLevel.IsName (Settings.levelText env file) →
        run w arguments = ⟨.failed ""
          (.logLevel (.unknown (Text.upper (Settings.levelText env file)))), [], [], []⟩) := by
  refine ⟨fun env' file' hothers => (Settings.accepts_congr hothers).mpr ⟨settings, h⟩,
    fun before => ⟨Settings.configure_of_load h before, Settings.exists_configure_iff h before⟩, ?_⟩
  rintro w arguments request rfl rfl hrequest
  have hsetUp (e : LogLevelError) := (setUp_eq_logLevel_iff h (e := e)).trans
    (Settings.configure_eq_error_iff h)
  constructor
  · constructor
    · intro hnever
      by_contra hnot
      obtain ⟨hfresh, hname⟩ := not_or.mp hnot
      have hfails := (hsetUp _).mpr ⟨Bool.eq_false_iff.mpr hfresh, hname, rfl⟩
      exact hnever "" _ ((run_failed_logLevel_iff hrequest).mpr ⟨rfl, hfails⟩)
    · intro hstarts output e hends
      obtain ⟨-, hfails⟩ := (run_failed_logLevel_iff hrequest).mp hends
      obtain ⟨hfresh, hname, -⟩ := (hsetUp e).mp hfails
      rcases hstarts with hhandlers | hstarts
      · rw [hfresh] at hhandlers
        cases hhandlers
      · exact hname hstarts
  · intro hhandlers hname
    rw [run, hrequest]
    simp only [serve, (hsetUp _).mpr ⟨hhandlers, hname, rfl⟩]

/-- A world whose environment has a log level and the place of a database without rows. Nobody has
handled records in it. -/
def leveledWorld (level : String) : World where
  environment := [("LOG_LEVEL", level), ("DATABASE_URL", "postgresql://example/invalid")]
  file := []
  database := ⟨fun _ => .ok []⟩
  dates := .english
  rootLogger := {}
  clock := ⟨fun _ => "2024-01-15 10:30:00,000", 2, 1875⟩
  name := "__main__"

/-- A small i without a dot is a capital I in upper case. -/
theorem accepted_level_starts_iff_dotless :
    (∃ settings, Settings.load [] (leveledWorld "ınfo").environment [] = .ok settings ∧
      Logging.configure {} [some settings.logLevel, some "ınfo"] =
        .ok { root := .info, writes := true }) ∧
    ∀ output e, (run (leveledWorld "ınfo") ["q"]).ending ≠ .failed output (.logLevel e) := by
  have hload : Settings.load [] (leveledWorld "ınfo").environment [] =
      .ok { databaseUrl := some "postgresql://example/invalid" } := rfl
  have hname : LogLevel.IsName (Settings.levelText (leveledWorld "ınfo").environment []) :=
    ⟨.info, by decide +kernel⟩
  have hparse : LogLevel.parse (Settings.levelText (leveledWorld "ınfo").environment []) =
      .ok .info := by
    decide +kernel
  obtain ⟨-, hconfigure, hrun⟩ := accepted_level_starts_iff hload
  have hlogging := (hconfigure {}).1
  rw [hparse] at hlogging
  refine ⟨⟨_, hload, hlogging⟩, ?_⟩
  exact (hrun (leveledWorld "ınfo") ["q"] ⟨"q", 1, false, false⟩ rfl rfl rfl).1.mpr (.inr hname)

/-- A text that names no level is accepted, and the command fails after that. -/
theorem accepted_level_unknown :
    (∃ settings, Settings.load [] (leveledWorld "verbose").environment [] = .ok settings ∧
      Logging.configure {} [some settings.logLevel, some "verbose"] =
        .error (.unknown "VERBOSE")) ∧
    run (leveledWorld "verbose") ["q"] =
      ⟨.failed "" (.logLevel (.unknown "VERBOSE")), [], [], []⟩ := by
  have hload : Settings.load [] (leveledWorld "verbose").environment [] = .ok
      { databaseUrl := some "postgresql://example/invalid", logLevel := "VERBOSE" } := rfl
  exact ⟨⟨_, hload, rfl⟩, rfl⟩

end CommandLine

end LedgerSearch
