import CrossDriver.Proofs.CommandLine.Preparation
import CrossDriver.Proofs.CommandLine.Reading
import CrossDriver.Proofs.Link.WholeTokens
import CrossDriver.Proofs.Shell.Bash
import CrossDriver.Proofs.Shell.Cmd

namespace CrossDriver

namespace CommandLine

/-! ## Options for the output -/

inductive ModeOption : String → Directive → Prop where
  | json : ModeOption "--json" .json
  | explain : ModeOption "--explain" .explain

def modeOptions (json explain : Bool) : List String :=
  (if json then ["--json"] else []) ++ if explain then ["--explain"] else []

theorem terminator_not_mem_append_modeOptions {options : List String} (unmarked : "--" ∉ options)
    (json explain : Bool) : "--" ∉ options ++ modeOptions json explain := by
  cases json <;> cases explain <;> simpa [modeOptions] using unmarked

section
variable {keepsMark : Bool} {options : List String} (unmarked : "--" ∉ options) {r : Request}
  (asked : Invocation.ofArgs (Command.link.name :: options) keepsMark = .run .link r)
include unmarked asked

theorem ofArgs_append_mode {arg : String} {d : Directive} (mode : ModeOption arg d) :
    Invocation.ofArgs (Command.link.name :: options ++ [arg]) keepsMark = .run .link (r.add d) := by
  have meant : ∃ reading, (Command.link.grammar keepsMark).classify arg = .ok reading ∧
      (Command.link.grammar keepsMark).cluster arg reading = .complete [.act d] := by
    cases mode <;> exact ⟨_, rfl, rfl⟩
  have elsewhere : mainGrammar.classify arg = .ok .unknown := by cases mode <;> rfl
  have further : arg ≠ "--" := by cases mode <;> decide
  have works : d ≠ .help := by cases mode <;> decide
  obtain ⟨reading, meant, acts⟩ := meant
  exact ofArgs_append_option unmarked asked further meant acts works ⟨_, elsewhere⟩

theorem ofArgs_append_modeOptions (plain : r.json = false) (unexplained : r.explain = false)
    (json explain : Bool) :
    Invocation.ofArgs (Command.link.name :: options ++ modeOptions json explain) keepsMark =
      .run .link { r with json, explain } := by
  have data : Invocation.ofArgs (Command.link.name :: options ++ if json then ["--json"] else [])
      keepsMark = .run .link { r with json } := by
    cases json with
    | false =>
      have kept : { r with json := false } = r := by rw [← plain]
      rw [kept]
      simpa using asked
    | true => exact ofArgs_append_mode unmarked asked .json
  have unmarked_data : "--" ∉ options ++ if json then ["--json"] else [] := by
    cases json <;> simpa using unmarked
  rw [modeOptions, ← List.append_assoc]
  cases explain with
  | false =>
    have kept : { r with json, explain := false } = { r with json } := by rw [← unexplained]
    rw [kept]
    simpa using data
  | true => exact ofArgs_append_mode unmarked_data data .explain

end

/-! ## Commands from whole texts -/

theorem whole_loadSettings {world : World}
    (outside : ∀ name value, world.environment.get? name = some value → Text.Whole value.toList)
    {r : Request} {settings : Settings}
    (loaded : (loadSettings world r).result = .ok settings) : settings.Whole := by
  unfold loadSettings at loaded
  split at loaded
  · exact Settings.whole_of_load outside loaded
  · cases loaded
  · exact Settings.whole_of_load outside loaded

theorem whole_withTarget {settings : Settings} (whole : settings.Whole) {c : Config}
    (own : c.Whole) : (withTarget settings c).Whole := by
  unfold withTarget
  split
  · refine ⟨fun field value mem => ?_, fun list text mem => own.entry list text ?_⟩
    · by_cases named : field = .triple
      · rw [named] at mem
        exact whole .triple value mem
      · exact own.word field value (by cases field <;> first | exact mem | exact absurd rfl named)
    · cases list <;> exact mem
  · exact own

theorem whole_of_target {c : Config} (whole : c.Whole) {triple : Triple}
    (target : c.target = .ok triple) : triple.Whole := by
  rw [Config.target] at target
  split at target
  case h_1 text named =>
    rw [← Except.ok.inj target]
    exact Triple.whole_parse (whole.word .triple text named)
  case h_2 => cases target

theorem whole_argv_of_linkJob {world : World}
    (outside : ∀ name value, world.environment.get? name = some value → Text.Whole value.toList)
    {r : Request} (whole : ∀ d ∈ r.arguments, Text.Whole d.toList) {c : Config} {linker : Linker}
    {command : LinkCommand} (made : (linkJob world r).result = .ok (c, linker, command)) :
    ∀ token ∈ command.argv, Text.Whole token.toList := by
  rw [result_linkJob, result_prepare] at made
  obtain ⟨⟨settled, toolchain⟩, prepared, made⟩ := exists_of_bind_ok made
  obtain ⟨settings, loaded, prepared⟩ := exists_of_bind_ok prepared
  obtain ⟨parsed, read, prepared⟩ := exists_of_bind_ok prepared
  obtain ⟨found, searched, prepared⟩ := exists_of_bind_ok prepared
  obtain ⟨linked, given, made⟩ := exists_of_bind_ok made
  cases prepared
  cases made
  have own := whole_loadSettings outside loaded
  have config := whole_withTarget own (Config.whole_parse whole read)
  rw [Toolchain.result_find] at searched
  obtain ⟨triple, target, searched⟩ := exists_of_bind_ok searched
  split at searched
  case isTrue =>
    cases searched
    have sysroot := config.word .sysroot _ rfl
    exact Linker.whole_command ⟨own, whole_of_target config target, sysroot⟩ config given
  case isFalse => cases searched

/-! ## Commands as data -/

theorem textualItems_map_text {texts : List String} (whole : ∀ s ∈ texts, Text.Whole s.toList) :
    Json.TextualItems (texts.map .text) := by
  induction texts with
  | nil => trivial
  | cons s rest ih =>
    obtain ⟨own, later⟩ := List.forall_mem_cons.mp whole
    exact ⟨own, ih later⟩

theorem depthItems_map_text (texts : List String) : Json.depthItems (texts.map .text) = 0 := by
  induction texts with
  | nil => rfl
  | cons s rest ih =>
    rw [List.map_cons, Json.depthItems, ih]
    rfl

theorem read_commandData {command : LinkCommand}
    (whole : ∀ token ∈ command.argv, Text.Whole token.toList) {room : Json.Limits}
    (roomy : 2 ≤ room.levels) :
    Json.read (withLineEnd (commandData command).write).toList room = .ok (commandData command) := by
  obtain ⟨executable, args⟩ := List.forall_mem_cons.mp whole
  apply Json.read_write_line
  · exact ⟨by simp, Text.whole_literal (by decide), executable, Text.whole_literal (by decide),
      textualItems_map_text args, trivial⟩
  · simpa [commandData, Json.depth, Json.depthMembers, depthItems_map_text] using roomy

theorem plain_writeItems_text (level : Nat) (texts : List String) :
    ∀ c ∈ Json.writeItems level (texts.map .text), Json.Plain c := by
  induction texts with
  | nil => exact Json.plain_writeItems level trivial
  | cons s rest ih =>
    rw [List.map_cons, Json.writeItems]
    exact Json.plain_append (Json.plain_append (Json.plain_cons (by simp [Json.Visible])
      (Json.plain_newLine _)) (Json.plain_writeText s)) ih

theorem ascii_commandData (command : LinkCommand) :
    ∀ c ∈ (withLineEnd (commandData command).write).toList, c.toNat < 0x80 := by
  have value : ∀ c ∈ Json.writeAt 1 (.array (command.args.map .text)), Json.Plain c := by
    cases command.args with
    | nil => simp [Json.writeAt, Json.Plain, Json.Visible]
    | cons s rest =>
      rw [List.map_cons, Json.writeAt]
      exact Json.plain_append (Json.plain_append (Json.plain_cons (by simp [Json.Visible])
        (Json.plain_newLine _)) (Json.plain_writeText s)) (plain_writeItems_text 1 rest)
  have member (key : String) {written : List Char} (plain : ∀ c ∈ written, Json.Plain c) :
      ∀ c ∈ Json.newLine 1 ++ Json.writeText key ++ ':' :: ' ' :: written, Json.Plain c :=
    Json.plain_append (Json.plain_append (Json.plain_newLine 1) (Json.plain_writeText key))
      (Json.plain_cons (by simp [Json.Visible]) (Json.plain_cons (by simp [Json.Visible]) plain))
  have data : ∀ c ∈ Json.writeAt 0 (commandData command), Json.Plain c := by
    rw [commandData, Json.writeAt, Json.writeMembers]
    exact Json.plain_append
      (Json.plain_cons (by simp [Json.Visible]) (member _ (Json.plain_writeText _)))
      (Json.plain_append (Json.plain_cons (by simp [Json.Visible]) (member _ value))
        (Json.plain_writeMembers 0 trivial))
  rw [withLineEnd, Json.write, String.toList_append, String.toList_ofList]
  intro c mem
  rcases List.mem_append.mp mem with inner | last
  · rcases data c inner with visible | rfl
    · exact Nat.lt_succ_of_le (Nat.le_succ_of_le visible.2)
    · decide
  · rw [List.mem_singleton.mp last]
    decide

/-! ## All ways -/

theorem words_line (tokens : List String) :
    Shell.bashWords? (Shell.bash.line tokens).toList = some (tokens.map String.toList) ∧
      Shell.cmdWords? (Shell.cmd.line tokens).toList = some (tokens.map String.toList) := by
  rw [Shell.line, Shell.line, String.toList_ofList, String.toList_ofList, Shell.bashWords?,
    Shell.bashLetters?_lineChars, Option.map_some, List.map_map]
  exact ⟨by simp [Function.comp_def, Shell.map_char_letters], Shell.cmdWords?_lineChars tokens⟩

theorem log_runLink_of_ok {world : World} {r : Request} {c : Config} {linker : Linker}
    {command : LinkCommand} (made : (linkJob world r).result = .ok (c, linker, command))
    {names : List String} (fired : (linker.firedRules c).result = .ok names) :
    (runLink world r).log = r.logText (linkJob world r).events ++
      if r.explain then r.logText (linker.firedRules c).events ++ explanation names else "" := by
  cases explains : r.explain with
  | false =>
    have silent : r.logText (pure [] : Traced (List String)).events = "" := rfl
    simp [runLink, made, explains, silent]
  | true => simp [runLink, made, explains, fired, String.append_assoc]

theorem run_link_modeOptions {world : World} {options : List String} (unmarked : "--" ∉ options)
    {r : Request}
    (asked : Invocation.ofArgs (Command.link.name :: options) world.keepsMark = .run .link r)
    (none_taken : r.arguments = []) (plain : r.json = false) (unexplained : r.explain = false)
    (json explain : Bool) (ds : List String) :
    run world (Command.link.name :: options ++ modeOptions json explain ++ "--" :: ds) =
      runLink world { r with arguments := ds, json, explain } := by
  have modes := ofArgs_append_modeOptions unmarked asked plain unexplained json explain
  have unmarked_modes := terminator_not_mem_append_modeOptions unmarked json explain
  have handed := ofArgs_append_terminator (by decide) unmarked_modes modes none_taken ds
  rw [run, List.cons_append, List.cons_append, ← List.cons_append, handed]
  rfl

theorem written_link {world : World} {options : List String} (unmarked : "--" ∉ options)
    {r : Request}
    (asked : Invocation.ofArgs (Command.link.name :: options) world.keepsMark = .run .link r)
    (none_taken : r.arguments = []) (plain : r.json = false) (unexplained : r.explain = false)
    {ds : List String} {c : Config} {linker : Linker} {command : LinkCommand}
    (made : (linkJob world { r with arguments := ds }).result = .ok (c, linker, command))
    (json explain : Bool) :
    written world (Command.link.name :: options ++ modeOptions json explain ++ "--" :: ds) =
      let text := withLineEnd (if json then (commandData command).write
        else (Shell.ofSystem world.system).line command.argv)
      let log := (runLink world { r with arguments := ds, json, explain }).log
      if world.encodes text = true then
        ⟨.ended (.exit (exitCode (linkJob world { r with arguments := ds }).diagnostics)), text, log⟩
      else ⟨.unencodable text, "", log⟩ := by
  have made : (linkJob world { r with arguments := ds, json, explain }).result =
      .ok (c, linker, command) := made
  obtain ⟨ending, printed⟩ := runLink_of_ok made
  have runs := run_link_modeOptions unmarked asked none_taken plain unexplained json explain ds
  rw [written, runs, Outcome.written_of_single printed, ending]
  rfl

/-- All ways to show a link that is made show the same command: as data, and as a line that the
shell of the system reads, where the standard output takes that line. They end alike, they log alike,
and naming the rules adds to the log only. -/
theorem link_modes {world : World} {options : List String} (unmarked : "--" ∉ options) {r : Request}
    (asked : Invocation.ofArgs (Command.link.name :: options) world.keepsMark = .run .link r)
    (none_taken : r.arguments = []) (plain : r.json = false) (unexplained : r.explain = false)
    (ascii : ∀ text : String, (∀ c ∈ text.toList, c.toNat < 0x80) → world.encodes text = true)
    {ds : List String} {c : Config} {linker : Linker} {command : LinkCommand}
    (made : (linkJob world { r with arguments := ds }).result = .ok (c, linker, command)) :
    let shown (json explain : Bool) :=
      written world (Command.link.name :: options ++ modeOptions json explain ++ "--" :: ds)
    let close : Close :=
      .ended (.exit (exitCode (linkJob world { r with arguments := ds }).diagnostics))
    let line := (Shell.ofSystem world.system).line command.argv
    (∀ explain, (shown true explain).close = close ∧
      ((∀ name value, world.environment.get? name = some value → Text.Whole value.toList) →
        (∀ d ∈ ds, Text.Whole d.toList) → ∀ room : Json.Limits, 2 ≤ room.levels →
          Json.read (shown true explain).output.toList room =
            .ok (.object [("executable", .text command.executable),
              ("args", .array (command.args.map .text))]))) ∧
    (world.encodes (withLineEnd line) = true → ∀ explain,
      (shown false explain).close = close ∧ (shown false explain).output = withLineEnd line) ∧
    (world.system ≠ "Windows" →
      Shell.bashWords? line.toList = some (command.argv.map String.toList)) ∧
    (world.system = "Windows" →
      Shell.cmdWords? line.toList = some (command.argv.map String.toList)) ∧
    (∀ explain, (shown true explain).log = (shown false explain).log) ∧
    ∀ json, (shown json true).close = (shown json false).close ∧
      (shown json true).output = (shown json false).output ∧
      ∃ added, (shown json true).log = (shown json false).log ++ added := by
  intro shown close line
  have made (json explain : Bool) :
      (linkJob world { r with arguments := ds, json, explain }).result =
        .ok (c, linker, command) := made
  obtain ⟨names, fired⟩ := firedRules_ok_of_linkJob (made true true)
  have logs (json explain : Bool) := log_runLink_of_ok (made json explain) fired
  -- The printed text goes by the mode alone, and it decides whether the run comes to its ending.
  have shows (json explain : Bool) := written_link unmarked asked none_taken plain unexplained
    (made false false) json explain
  have log (json explain : Bool) : (shown json explain).log =
      (runLink world { r with arguments := ds, json, explain }).log := by
    simp only [shown, shows, apply_ite Written.log, ite_self]
  have words := words_line command.argv
  refine ⟨fun explain => ?_, fun taken explain => ?_, fun other => ?_, fun windows => ?_,
    fun explain => ?_, fun json => ?_⟩
  · have data := (shows true explain).trans (if_pos (ascii _ (ascii_commandData command)))
    simp only [shown, data]
    refine ⟨rfl, fun outside whole room roomy => ?_⟩
    exact read_commandData (whole_argv_of_linkJob outside whole (made true explain)) roomy
  · have shell := (shows false explain).trans (if_pos taken)
    simp only [shown, shell]
    exact ⟨rfl, rfl⟩
  · have bash : line = Shell.bash.line command.argv := by
      change (Shell.ofSystem world.system).line command.argv = _
      rw [Shell.ofSystem, if_neg other]
    exact bash ▸ words.1
  · have cmd : line = Shell.cmd.line command.argv := by
      change (Shell.ofSystem world.system).line command.argv = _
      rw [Shell.ofSystem, if_pos windows]
    exact cmd ▸ words.2
  · rw [log, log, logs, logs]
    rfl
  · -- The text that is printed does not depend on whether the rules are named.
    have same : (shown json true).close = (shown json false).close ∧
        (shown json true).output = (shown json false).output := by
      simp only [shown, shows, apply_ite Written.close, apply_ite Written.output, and_self]
    refine ⟨same.1, same.2, r.logText (linker.firedRules c).events ++ explanation names, ?_⟩
    rw [log, log, logs, logs, if_pos rfl, if_neg Bool.false_ne_true, String.append_empty]
    rfl

theorem link_modes_odd_tokens :
    let lone := String.ofList [Text.standIn 0xdcff]
    let world : World :=
      { files := fun _ => .missing
        environment := [("KUSHTC_LINKER", "/l d" ++ lone)]
        present := fun _ => false
        system := "Linux" }
    let ds := ["-flto=bogus", "-nodefaultlibs", "it's\n\"$x\"", "é😀" ++ lone, ""]
    let shown (json explain : Bool) :=
      written world (Command.link.name :: ["-v"] ++ modeOptions json explain ++ "--" :: ds)
    let command : LinkCommand := ⟨"/l d" ++ lone, ["-znorelro", "-dynamic-linker", "/sbin/ldyldo",
      "--enable-new-dtags", "-o", "a.out", "crt0.o", "it's\n\"$x\"", "é😀" ++ lone, ""]⟩
    Json.read (shown true true).output.toList =
      .ok (.object [("executable", .text command.executable),
        ("args", .array (command.args.map .text))]) ∧
    (∃ line, (shown false true).output = withLineEnd line ∧
      Shell.bashWords? line.toList = some (command.argv.map String.toList)) ∧
    (shown true true).output = (shown true false).output ∧
    (shown true false).log = (shown false false).log ∧
    ∀ json, (shown json true).close = .ended (.exit 1) := by
  intro lone world ds shown command
  have asked : Invocation.ofArgs (Command.link.name :: ["-v"]) world.keepsMark =
      .run .link { verbose := true } := rfl
  have lone_whole : Text.Whole lone.toList := by
    rw [String.toList_ofList]
    exact Text.whole_singleton _
  have outside : ∀ name value, world.environment.get? name = some value →
      Text.Whole value.toList := by
    intro name value found
    obtain ⟨-, rfl⟩ := Prod.mk.inj (List.mem_singleton.mp (Table.mem_of_get? found))
    exact lone_whole.behind (by decide)
  have whole : ∀ d ∈ ds, Text.Whole d.toList := by
    have proper {s : String} (plain : s.toList.all fun c => (Text.standsFor? c).isNone) :
        Text.Whole s.toList := Text.whole_literal plain
    simp only [ds, List.forall_mem_cons]
    exact ⟨proper (by decide), proper (by decide), proper (by decide), lone_whole.behind (by decide),
      proper (by decide), fun d mem => nomatch mem⟩
  obtain ⟨c, linker, made⟩ : ∃ c linker,
      (linkJob world { verbose := true, arguments := ds }).result = .ok (c, linker, command) := by
    have answer : (linkJob world { verbose := true, arguments := ds }).result.map (·.2.2) =
        .ok command := by
      dsimp only [lone, world, ds, command]
      decide +kernel
    obtain ⟨⟨c, linker, made⟩, same, rfl⟩ := exists_of_map_eq_ok answer
    exact ⟨c, linker, same⟩
  obtain ⟨data, line, bash, -, logs, explained⟩ :=
    link_modes (by decide) asked rfl rfl rfl (fun _ _ => rfl) made
  have failed : (linkJob world { verbose := true, arguments := ds }).diagnostics.hasErrors := by
    dsimp only [lone, world, ds]
    decide +kernel
  have code : exitCode (linkJob world { verbose := true, arguments := ds }).diagnostics = 1 := by
    rw [exitCode, if_pos failed]
  refine ⟨(data true).2 outside whole {} (by decide), ⟨_, (line rfl true).2, bash (by decide)⟩,
    (explained true).2.1, logs false, fun json => ?_⟩
  cases json with
  | true => exact (data true).1.trans (congrArg (Close.ended ∘ Ending.exit) code)
  | false => exact (line rfl true).1.trans (congrArg (Close.ended ∘ Ending.exit) code)

section
variable (system : String) (encodes : String → Bool)

/-- Nothing is set, and nothing is found. -/
def bare : World where
  files := fun _ => .missing
  environment := []
  present := fun _ => false
  system := system
  encodes := encodes

def bareArguments (input : String) : List String := ["-nodefaultlibs", input]

def bareRun (json : Bool) (input : String) : Written :=
  written (bare system encodes)
    ([Command.link.name] ++ modeOptions json false ++ "--" :: bareArguments input)

def bareCommand (input : String) : LinkCommand where
  executable := "ld.lld"
  args := ["-znorelro", "-dynamic-linker", "/sbin/ldyldo", "--enable-new-dtags", "-o", "a.out",
    "crt0.o", input]

def Links (input : String) : Prop :=
  ∃ c linker, (linkJob (bare system encodes) { arguments := bareArguments input }).result =
    .ok (c, linker, bareCommand input)

variable {system encodes}

theorem links_of_map {input : String}
    (answer : (linkJob (bare system encodes) { arguments := bareArguments input }).result.map
      (·.2.2) = .ok (bareCommand input)) : Links system encodes input := by
  obtain ⟨⟨c, linker, made⟩, same, rfl⟩ := exists_of_map_eq_ok answer
  exact ⟨c, linker, same⟩

variable {input : String} (links : Links system encodes input) (json : Bool)
include links

theorem bareRun_eq :
    let text := withLineEnd (if json then (commandData (bareCommand input)).write
      else (Shell.ofSystem system).line (bareCommand input).argv)
    let r : Request := { arguments := bareArguments input }
    let log := (runLink (bare system encodes) { r with json }).log
    bareRun system encodes json input =
      if encodes text = true then
        ⟨.ended (.exit (exitCode (linkJob (bare system encodes) r).diagnostics)), text, log⟩
      else ⟨.unencodable text, "", log⟩ := by
  obtain ⟨c, linker, made⟩ := links
  have asked : Invocation.ofArgs (Command.link.name :: []) (bare system encodes).keepsMark =
      .run .link {} := rfl
  exact written_link (by decide) asked rfl rfl rfl made json false

end

/-- A line that is written for `cmd` need not be one for `bash`, to which the apostrophe opens a
quotation. Two halves in a row become one character where data is read back. And a line with a lone
half is not taken by a standard output that goes by bytes, where data is. -/
theorem link_line_not_for_bash :
    let all : String → Bool := fun _ => true
    let torn := String.ofList [Text.standIn 0xd83d, Text.standIn 0xde00]
    let lone := String.ofList [Text.standIn 0xdcff]
    (Links "Windows" all "it's.o" ∧
      bareRun "Windows" all false "it's.o" =
        ⟨.ended (.exit 0), withLineEnd (Shell.cmd.line (bareCommand "it's.o").argv), ""⟩ ∧
      Shell.bashWords? (Shell.cmd.line (bareCommand "it's.o").argv).toList = none) ∧
    (Links "Linux" all torn ∧ torn ≠ "😀" ∧
      Json.read (bareRun "Linux" all true torn).output.toList =
        .ok (commandData (bareCommand "😀"))) ∧
    (Links "Linux" Text.isProper lone ∧
      (bareRun "Linux" Text.isProper true lone).close = .ended (.exit 0) ∧
      (bareRun "Linux" Text.isProper false lone).close =
        .unencodable (withLineEnd (Shell.bash.line (bareCommand lone).argv))) := by
  intro all torn lone
  have on_windows : Links "Windows" all "it's.o" := links_of_map (by decide +kernel)
  have on_linux : Links "Linux" all torn := links_of_map (by decide +kernel)
  have on_proper : Links "Linux" Text.isProper lone := links_of_map (by decide +kernel)
  refine ⟨⟨on_windows, ?_, by decide +kernel⟩, ⟨on_linux, by decide, ?_⟩, ⟨on_proper, ?_, ?_⟩⟩
  · rw [bareRun_eq on_windows, if_pos rfl]
    decide +kernel
  · have whole : ∀ token ∈ (bareCommand "😀").argv, Text.Whole token.toList :=
      Text.whole_literals (by decide)
    have joined : (commandData (bareCommand torn)).write = (commandData (bareCommand "😀")).write := by
      decide +kernel
    rw [bareRun_eq on_linux, if_pos rfl, if_pos rfl, joined]
    exact read_commandData whole (by decide)
  · rw [bareRun_eq on_proper, if_pos rfl,
      if_pos (Text.isProper_of_ascii (ascii_commandData (bareCommand lone)))]
    decide +kernel
  · have refused : Text.isProper (withLineEnd (Shell.bash.line (bareCommand lone).argv)) ≠ true := by
      decide +kernel
    rw [bareRun_eq on_proper, if_neg Bool.false_ne_true]
    exact congrArg Written.close (if_neg refused)

end CommandLine

end CrossDriver
