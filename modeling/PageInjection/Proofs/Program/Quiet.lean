import PageInjection.Program
import PageInjection.Proofs.CommandLine.Accepted
import PageInjection.Proofs.Program.Alike
import PageInjection.Proofs.Settings.Standing
import PageInjection.Proofs.Store.WriteTimes

/-!
# Quiet runs

A quiet run of the program is its command and nothing else.  It answers what the session
answers that is opened for the invocation, and leaves what that leaves.  Whatever is said
about the log, on the command line or in the environment, makes no difference.
-/

namespace PageInjection

theorem OptionShape.take_path_eq_ok_iff {δ : Type} {name kind text : String}
    {set : String → δ → δ} {draft taken : δ} :
    (OptionShape.path name kind set).take text draft = .ok taken ↔
      text ≠ "" ∧ set text draft = taken := by
  by_cases empty : text = "" <;> simp [OptionShape.path, empty]

namespace Invocation

/-- The invocation without what it tells about the log, apart from being quiet. -/
def unlogged (invocation : Invocation) : Invocation :=
  { invocation with
    isVerbose := false, logLevel := none, logFormat := none, logOutput := none, logFile := none }

/-- Nothing on the command line switches the log of a quiet run on. -/
theorem enabled_adjust {invocation : Invocation} (quiet : invocation.isQuiet = true)
    (settings : LoggingSettings) : (invocation.adjust settings).enabled = false := by
  unfold adjust
  rw [quiet]
  cases invocation.isVerbose <;> rfl

/-- The options about the log that do not switch it off. -/
def logOptions : List String :=
  ["verbose", "log-level", "log-format", "log-output", "log-file"]

/-- What is said beside the log. -/
def besideLog (sayings : List (OptionShape Invocation × String)) :
    List (OptionShape Invocation × String) :=
  sayings.filter fun saying => !logOptions.contains saying.1.name

/-- An option makes a run quiet if it is the one that does, and it leaves alone what is beside
the log, or does not look at the log. -/
structure IsSeparate (option : OptionShape Invocation) (value : String)
    (draft taken : Invocation) : Prop where
  isQuiet : taken.isQuiet = (draft.isQuiet || option.name == "quiet")
  ofLog : option.name ∈ logOptions → taken.unlogged = draft.unlogged
  other : option.name ∉ logOptions → option.take value draft.unlogged = .ok taken.unlogged

theorem isSeparate_take {option : OptionShape Invocation} (known : option ∈ level.options)
    {value : String} {draft taken : Invocation} (takes : option.take value draft = .ok taken) :
    IsSeparate option value draft taken := by
  simp only [level, List.mem_cons, List.not_mem_nil, or_false] at known
  rcases known with rfl | rfl | rfl | rfl | rfl | rfl | rfl | rfl | rfl
  -- a path is only taken if it is not empty
  any_goals obtain ⟨filled, rfl⟩ := OptionShape.take_path_eq_ok_iff.mp takes
  any_goals cases takes
  all_goals
    refine ⟨?_, ?_, ?_⟩ <;>
      simp [OptionShape.path, OptionShape.text, OptionShape.switch, logOptions, unlogged, *]

/-- What is said beside the log gives the invocation without the log. -/
theorem takeAll_besideLog {sayings : List (OptionShape Invocation × String)}
    (known : ∀ saying ∈ sayings, saying.1 ∈ level.options) {draft taken : Invocation}
    (takes : LevelReading.takeAll draft sayings = .ok taken) :
    LevelReading.takeAll draft.unlogged (besideLog sayings) = .ok taken.unlogged := by
  induction sayings generalizing draft with
  | nil => cases takes; rfl
  | cons saying sayings ih =>
      obtain ⟨first, later⟩ := List.forall_mem_cons.mp known
      obtain ⟨next, step, rest⟩ := LevelReading.takeAll_cons_eq_ok_iff.mp takes
      have separate := isSeparate_take first step
      -- What is said about the log is not passed on, and changed nothing beside the log.
      by_cases ofLog : saying.1.name ∈ logOptions
      · rw [besideLog, List.filter_cons_of_neg (by simpa using ofLog), ← separate.ofLog ofLog]
        exact ih later rest
      · rw [besideLog, List.filter_cons_of_pos (by simpa using ofLog)]
        exact LevelReading.takeAll_cons_eq_ok_iff.mpr ⟨_, separate.other ofLog, ih later rest⟩

/-- A run is quiet if that is said. -/
theorem isQuiet_takeAll {sayings : List (OptionShape Invocation × String)}
    (known : ∀ saying ∈ sayings, saying.1 ∈ level.options) {draft taken : Invocation}
    (takes : LevelReading.takeAll draft sayings = .ok taken) :
    taken.isQuiet = (draft.isQuiet || sayings.any fun saying => saying.1.name == "quiet") := by
  induction sayings generalizing draft with
  | nil => cases takes; simp
  | cons saying sayings ih =>
      obtain ⟨first, later⟩ := List.forall_mem_cons.mp known
      obtain ⟨next, step, rest⟩ := LevelReading.takeAll_cons_eq_ok_iff.mp takes
      rw [ih later rest, (isSeparate_take first step).isQuiet, List.any_cons, Bool.or_assoc]

theorem IsSaid.isQuiet_iff {invocation : Invocation} {words command : List String}
    {sayings : List (OptionShape Invocation × String)}
    (said : invocation.IsSaid words sayings command) :
    invocation.isQuiet = true ↔ "quiet" ∈ sayings.map (·.1.name) := by
  obtain ⟨reading, gives, whole⟩ := said.given
  have quiet := isQuiet_takeAll said.known (LevelReading.takeAll_of_giveAll gives)
  rw [← whole]
  simp [quiet, and_comm]

/-- What is said beside the log and the command make an invocation without the log. -/
theorem IsSaid.unlogged_eq {invocation other : Invocation} {words otherWords command : List String}
    {sayings others : List (OptionShape Invocation × String)}
    (said : invocation.IsSaid words sayings command)
    (also : other.IsSaid otherWords others command)
    (same : besideLog sayings = besideLog others) : invocation.unlogged = other.unlogged := by
  obtain ⟨reading, gives, whole⟩ := said.given
  obtain ⟨otherReading, otherGives, otherWhole⟩ := also.given
  have taken := takeAll_besideLog said.known (LevelReading.takeAll_of_giveAll gives)
  have otherTaken := takeAll_besideLog also.known (LevelReading.takeAll_of_giveAll otherGives)
  rw [same, otherTaken] at taken
  have sameCommand : invocation.command = other.command := by
    obtain ⟨_, _, rfl, read⟩ := said.command
    obtain ⟨_, _, same, otherRead⟩ := also.command
    obtain ⟨rfl, rfl⟩ := List.cons.inj same
    exact Except.ok.inj (read.symm.trans otherRead)
  have sameDraft := Except.ok.inj taken
  rw [← whole, ← otherWhole, sameCommand]
  exact congrArg (fun draft : Invocation => { draft with command := other.command })
    sameDraft.symm

end Invocation

namespace Outcome

theorem empty_append (outcome : Outcome) : ({} : Outcome) ++ outcome = outcome := by
  change (⟨outcome.exit, "" ++ outcome.stdout, "" ++ outcome.stderr⟩ : Outcome) = outcome
  rw [String.empty_append, String.empty_append]

end Outcome

namespace Session

/-- Open a session for an invocation and carry out its command in it. -/
def answer {m : Type → Type} [Monad m] (outside : Surroundings m) (engine : Engine)
    (invocation : Invocation) : m (Except CommandFault String) := do
  match ← start outside invocation with
  | .error fault => return .error fault
  | .ok session => execute outside engine session invocation.command

end Session

namespace Host

theorem bind_eq {α β : Type} {action : StateM Host α} {host after : Host} {value : α}
    (done : action host = (value, after)) (next : α → StateM Host β) :
    (action >>= next) host = next value after := by
  change next (action host).1 (action host).2 = next value after
  rw [done]

/-- The same disk, and the same databases but for times of writes. -/
structure LeavesSame (host other : Host) : Prop where
  disk : host.disk = other.disk
  databases : ∀ place, (host.databaseAt place).SameButTime (other.databaseAt place)

namespace IsAlike

variable {host other : Host}

theorem leavesSame (alike : host.IsAlike other) : host.LeavesSame other where
  disk := alike.disk
  databases place := by
    rw [databaseAt, databaseAt, alike.databases]
    exact .refl _

theorem makeFolders_keeps (path : String) : Keeps IsAlike (surroundings.makeFolders path) := by
  intro host other alike
  have same : other.disk.makeFolders other.current path =
      host.disk.makeFolders host.current path := by rw [alike.disk, alike.current]
  simp only [surroundings, onDisk, same]
  cases host.disk.makeFolders host.current path with
  | error fault => exact ⟨rfl, alike⟩
  | ok disk => exact ⟨rfl, { alike with disk := rfl }⟩

theorem openDatabase_keeps (path : String) : Keeps IsAlike (surroundings.openDatabase path) := by
  intro host other alike
  simp only [surroundings, openDatabase, databaseAt, alike.disk, alike.current, alike.databases]
  cases other.disk.follow other.current path <;> exact ⟨rfl, alike⟩

theorem keepDatabase_leavesSame (alike : host.IsAlike other) (path : String)
    {left right : Database} (same : left.SameButTime right) :
    (keepDatabase path left host).2.LeavesSame (keepDatabase path right other).2 := by
  simp only [keepDatabase, alike.disk, alike.current]
  cases other.disk.follow other.current path with
  | error fault => exact alike.leavesSame
  | ok place =>
      refine ⟨alike.disk, fun looked => ?_⟩
      simp only [databaseAt, setDatabase, alike.databases, List.lookup_append]
      cases (other.databases.filter (·.1 != place)).lookup looked with
      | some database => exact .refl _
      | none =>
          cases here : looked == place with
          | true => simpa [List.lookup_cons, here] using same
          | false => simpa [List.lookup_cons, here] using Database.SameButTime.refl _

end IsAlike

/-- An action that keeps hosts together, whatever holds them together, leaves them alone. -/
theorem eq_of_keeps {α : Type} {action : StateM Host α}
    (keeps : ∀ related : Host → Host → Prop,
      (∀ host other, related host other → host.IsAlike other) → Keeps related action)
    (host : Host) : action host = ((action host).1, host) := by
  -- One of the relations that are kept holds of this host and itself alone.
  have alike : ∀ left right : Host, left = host ∧ right = host → left.IsAlike right := by
    rintro _ _ ⟨rfl, rfl⟩
    exact .refl _
  have still := keeps (fun left right => left = host ∧ right = host) alike host host ⟨rfl, rfl⟩
  exact Prod.ext rfl still.2.1

end Host

namespace Program

variable {invocation : Invocation} (engine : Engine) (host : Host)

theorem loggingFor_of_quiet (quiet : invocation.isQuiet = true) :
    ∃ settings : LoggingSettings, settings.enabled = false ∧
      loggingFor Host.surroundings invocation host = (settings, host) := by
  have loaded := Host.eq_of_keeps (fun _ within =>
    Settings.loadFor_keeps within invocation.workspace invocation.configFile) host
  unfold loggingFor
  simp only [bind, StateT.bind]
  rw [loaded]
  cases (Settings.loadFor Host.surroundings invocation.workspace invocation.configFile host).1 with
  | error fault => exact ⟨_, Invocation.enabled_adjust quiet _, rfl⟩
  | ok settings => exact ⟨_, Invocation.enabled_adjust quiet _, rfl⟩

theorem settingsEvents_keeps {related : Host → Host → Prop}
    (within : ∀ host other, related host other → host.IsAlike other) (invocation : Invocation) :
    Host.Keeps related (settingsEvents Host.surroundings invocation) := by
  refine .bind (Settings.globalFile?_keeps within) fun found => ?_
  split <;> exact .pure _

/-- Without a log, a command is carried out and nothing is told beside its answer. -/
theorem carryOut_of_none (invocation : Invocation) :
    carryOut Host.surroundings engine none invocation host =
      (Session.answer Host.surroundings engine invocation host).map Outcome.ofAnswer id := by
  have events := Host.eq_of_keeps (fun _ within =>
    settingsEvents_keeps within invocation) host
  unfold carryOut Session.answer
  rw [Host.bind_eq events]
  rcases started : Session.start Host.surroundings invocation host with ⟨fault | session, opened⟩
  · simp only [note, pure_bind, Host.bind_eq started, Outcome.empty_append]
    rfl
  · simp only [note, pure_bind, Host.bind_eq started, Outcome.empty_append]
    rfl

theorem run_of_quiet {words : List String} (accepted : Invocation.ofWords words = .ok invocation)
    (quiet : invocation.isQuiet = true) :
    run Host.surroundings engine words host =
      (Session.answer Host.surroundings engine invocation host).map Outcome.ofAnswer id := by
  obtain ⟨settings, off, logging⟩ := loggingFor_of_quiet host quiet
  have notices (given : LogVariables) : LogPlan.notices settings given = [] := by
    simp [LogPlan.notices, off]
  have closed : openLog Host.surroundings settings host = (.ok none, host) := by
    unfold openLog
    rw [Host.bind_eq (Settings.environment_surroundings host)]
    simp only [LogPlan.make, off]
    rfl
  simp only [run, accepted, Host.bind_eq logging,
    Host.bind_eq (Settings.environment_surroundings host), notices, Host.bind_eq closed,
    Host.bind_eq (carryOut_of_none engine host invocation)]
  exact Prod.ext (Outcome.empty_append _) rfl

end Program

namespace Session

open Host (Keeps IsAlike)

theorem start_keeps (invocation : Invocation) :
    Keeps IsAlike (start Host.surroundings invocation) := by
  have within : ∀ host other : Host, host.IsAlike other → host.IsAlike other := fun _ _ => id
  refine .bind (.bind (Settings.loadFor_keeps within _ _) fun loaded => .pure _) fun settings => ?_
  cases settings with
  | error fault => exact .pure _
  | ok settings =>
      refine .bind (.bind (IsAlike.makeFolders_keeps _) fun made => ?_) fun database => ?_
      · cases made with
        | error fault => exact .pure _
        | ok made =>
            refine .bind (IsAlike.openDatabase_keeps _) fun database => ?_
            cases database <;> exact .pure _
      · cases database <;> exact .pure _

theorem fileFor_keeps {related : Host → Host → Prop}
    (within : ∀ host other, related host other → host.IsAlike other) (command : Command) :
    Keeps related (fileFor Host.surroundings command) := by
  unfold fileFor
  split
  · exact .bind (.look within _) fun looked => .pure _
  · exact .pure _

/-- What a command gets on a host. -/
def settingOn (host : Host) (engine : Engine) (session : Session) (command : Command) :
    CommandSetting where
  engine := engine
  limits := session.settings.sandbox
  now := host.now
  readFile _ := (fileFor Host.surroundings command host).1

/-- No session looks at what its invocation tells about the log. -/
theorem answer_unlogged {m : Type → Type} [Monad m] (outside : Surroundings m) (engine : Engine)
    (invocation : Invocation) :
    answer outside engine invocation.unlogged = answer outside engine invocation := rfl

theorem execute_eq (engine : Engine) (session : Session) (command : Command) (host : Host) :
    execute Host.surroundings engine session command host =
      let outcome := command.outcome (settingOn host engine session command) session.database
      (outcome.1, (Host.keepDatabase session.storePath outcome.2 host).2) := by
  have found := Host.eq_of_keeps (fun _ within => fileFor_keeps within command) host
  have taken : settingOf Host.surroundings engine session command host =
      (settingOn host engine session command, host) := by
    unfold settingOf
    rw [Host.bind_eq found]
    rfl
  unfold execute
  rw [Host.bind_eq taken]
  rfl

/-- On alike hosts a session answers the same and leaves the same. -/
theorem answer_alike (engine : Engine) (invocation : Invocation) {host other : Host}
    (alike : host.IsAlike other) :
    (answer Host.surroundings engine invocation host).1 =
        (answer Host.surroundings engine invocation other).1 ∧
      (answer Host.surroundings engine invocation host).2.LeavesSame
        (answer Host.surroundings engine invocation other).2 := by
  obtain ⟨sameStart, stillAlike⟩ := start_keeps invocation host other alike
  rcases first : start Host.surroundings invocation host with ⟨result, opened⟩
  rcases second : start Host.surroundings invocation other with ⟨result', openedToo⟩
  rw [first, second] at sameStart stillAlike
  obtain rfl : result = result' := sameStart
  unfold answer
  rw [Host.bind_eq first, Host.bind_eq second]
  cases result with
  | error fault => exact ⟨rfl, stillAlike.leavesSame⟩
  | ok session =>
      have sameFile :=
        (fileFor_keeps (fun _ _ => id) invocation.command opened openedToo stillAlike).1
      -- The clocks may differ, so that the command may be carried out at another time.
      have setting : settingOn openedToo engine session invocation.command =
          { settingOn opened engine session invocation.command with now := openedToo.now } := by
        simp only [settingOn, sameFile]
      obtain ⟨sameAnswer, sameDatabase⟩ := Command.outcome_at_other_time
        (settingOn opened engine session invocation.command) openedToo.now session.database
        invocation.command
      rw [← setting] at sameAnswer sameDatabase
      simp only [execute_eq]
      exact ⟨sameAnswer, stillAlike.keepDatabase_leavesSame _ sameDatabase⟩

end Session

namespace Program

open Invocation (besideLog)

/-- A quiet run is its command.  Words that are accepted say options and then a command; when
one of the options makes the run quiet, the exit code and the standard output tell the answer
of a session for the invocation, and the host is left as the session leaves it.  Words that
say the same beside the log, on a host that says the same beside the log, give the same exit
code and outputs and leave the same files and databases, but for times of writes. -/
theorem quiet_run_is_its_command (engine : Engine) {words : List String}
    {invocation : Invocation} (accepted : Invocation.ofWords words = .ok invocation) :
    (∃ sayings command, invocation.IsSaid words sayings command) ∧
    ∀ sayings command, invocation.IsSaid words sayings command →
      "quiet" ∈ sayings.map (·.1.name) →
      ∀ host answer kept,
        Session.answer Host.surroundings engine invocation host = (answer, kept) →
      ∃ outcome, run Host.surroundings engine words host = (outcome, kept) ∧
        (∀ text, answer = .ok text →
          outcome.exit = 0 ∧ outcome.stdout = if text = "" then "" else text ++ "\n") ∧
        (∀ fault, answer = .error fault → outcome.exit = 1 ∧ outcome.stdout = "") ∧
        ∀ otherWords otherInvocation others otherHost,
          Invocation.ofWords otherWords = .ok otherInvocation →
          otherInvocation.IsSaid otherWords others command →
          besideLog others = besideLog sayings → host.IsAlike otherHost →
          ∃ otherKept, run Host.surroundings engine otherWords otherHost = (outcome, otherKept) ∧
            kept.LeavesSame otherKept := by
  refine ⟨Invocation.exists_isSaid accepted,
    fun sayings command said quiet host answer kept answered => ?_⟩
  have isQuiet := said.isQuiet_iff.mpr quiet
  rw [run_of_quiet engine host accepted isQuiet, answered]
  refine ⟨_, rfl, ?_, ?_, ?_⟩
  · rintro text rfl
    refine ⟨rfl, ?_⟩
    by_cases empty : text = "" <;> simp [Outcome.ofAnswer, empty]
  · rintro fault rfl
    exact ⟨rfl, rfl⟩
  · intro otherWords otherInvocation others otherHost otherAccepted also same alike
    have sameInvocation := also.unlogged_eq said same
    have alsoQuiet : otherInvocation.isQuiet = true := by
      have kept : otherInvocation.unlogged.isQuiet = invocation.unlogged.isQuiet := by
        rw [sameInvocation]
      exact kept.trans isQuiet
    have sameAnswer : Session.answer Host.surroundings engine otherInvocation =
        Session.answer Host.surroundings engine invocation := by
      rw [← Session.answer_unlogged, sameInvocation, Session.answer_unlogged]
    obtain ⟨answers, leaves⟩ := Session.answer_alike engine invocation alike
    rw [answered] at answers leaves
    rw [run_of_quiet engine otherHost otherAccepted alsoQuiet, sameAnswer]
    exact ⟨_, Prod.ext (congrArg Outcome.ofAnswer answers.symm) rfl, leaves⟩

/-- A host that asks for a log in its environment, in a form that is not known. -/
def loudHost : Host where
  environment := ⟨[("CODEWEAVE_LOG", "trace"), ("CODEWEAVE_LOG_FORMAT", "odd")]⟩
  now := 7

/-- One run asks for a log at an unknown level, the other in an unknown form and on a host that
asks as well; both are quiet and store the style. -/
theorem quiet_run_that_stores_style :
    ∃ outcome left otherLeft,
      run Host.surroundings .standard
          ["--quiet", "--log-level", "loud", "--log-file=/log", "set", "style", "--content=p"] {} =
        (outcome, left) ∧
      run Host.surroundings .standard
          ["--log-format=odd", "--quiet", "--verbose", "set", "style", "--content=p"] loudHost =
        (outcome, otherLeft) ∧
      outcome.exit = 0 ∧
      outcome.stdout = "Stored global style (1 bytes, digest 73f291693e31fe77)\n" ∧
      left.LeavesSame otherLeft := by
  let command := ["set", "style", "--content=p"]
  let words := ["--quiet", "--log-level", "loud", "--log-file=/log"] ++ command
  let otherWords := ["--log-format=odd", "--quiet", "--verbose"] ++ command
  let invocation : Invocation :=
    { command := .setGlobal .style (.inline "p"), isQuiet := true, logLevel := some "loud"
      logFile := some "/log" }
  let other : Invocation :=
    { command := .setGlobal .style (.inline "p"), isQuiet := true, isVerbose := true
      logFormat := some "odd" }
  let option (place : Fin 9) : OptionShape Invocation := Invocation.level.options[place]
  have accepted : Invocation.ofWords words = .ok invocation := by decide +kernel
  have otherAccepted : Invocation.ofWords otherWords = .ok other := by decide +kernel
  have said : invocation.IsSaid words [(option 4, ""), (option 5, "loud"), (option 8, "/log")]
      command :=
    { words := ⟨_, rfl, .cons (.switch rfl) (.cons (.apart rfl (by simp))
        (.cons (.attached "/log" rfl) .nil))⟩
      known := by simp [option]
      given := ⟨_, rfl, rfl⟩
      command := ⟨_, _, rfl, by decide +kernel⟩ }
  have alsoSaid : other.IsSaid otherWords [(option 6, "odd"), (option 4, ""), (option 3, "")]
      command :=
    { words := ⟨_, rfl, .cons (.attached "odd" rfl) (.cons (.switch rfl)
        (.cons (.switch rfl) .nil))⟩
      known := by simp [option]
      given := ⟨_, rfl, rfl⟩
      command := ⟨_, _, rfl, by decide +kernel⟩ }
  have answers : (Session.answer Host.surroundings .standard invocation {}).1 =
      .ok "Stored global style (1 bytes, digest 73f291693e31fe77)" := by
    decide +kernel
  have alike : Host.IsAlike {} loudHost := ⟨rfl, rfl, rfl, rfl, rfl⟩
  rcases answered : Session.answer Host.surroundings .standard invocation {} with ⟨answer, kept⟩
  rw [answered] at answers
  obtain ⟨outcome, ran, told, _, same⟩ := (quiet_run_is_its_command .standard accepted).2 _ _ said
    (by decide) _ _ _ answered
  obtain ⟨isZero, line⟩ := told _ answers
  obtain ⟨otherKept, ranToo, leavesSame⟩ := same _ _ _ loudHost otherAccepted alsoSaid rfl alike
  exact ⟨outcome, kept, otherKept, ran, ranToo, isZero, line, leavesSame⟩
end Program

end PageInjection
