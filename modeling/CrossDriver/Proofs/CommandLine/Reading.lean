import CrossDriver.CommandLine.Request
import CrossDriver.Proofs.Traced

namespace CrossDriver.CommandLine

variable {α : Type}

/-! ## Single arguments -/

namespace Grammar

theorem classifyAll_cons {g : Grammar α} {arg : String} {rest : List String}
    {readings : List (String × Reading α)} (further : arg ≠ "--")
    (read : g.classifyAll (arg :: rest) = .ok readings) :
    ∃ reading later, g.classify arg = .ok reading ∧ g.classifyAll rest = .ok later ∧
      readings = (arg, reading) :: later := by
  rw [classifyAll, if_neg further] at read
  obtain ⟨reading, first, read⟩ := exists_of_bind_ok read
  obtain ⟨later, more, read⟩ := exists_of_bind_ok read
  exact ⟨reading, later, first, more, (Except.ok.inj read).symm⟩

theorem map_fst_of_classifyAll {g : Grammar α} {args : List String}
    {readings : List (String × Reading α)} (read : g.classifyAll args = .ok readings) :
    readings.map (·.1) = args := by
  induction args generalizing readings with
  | nil => cases read; rfl
  | cons arg rest ih =>
    by_cases terminates : arg = "--"
    · rw [terminates, classifyAll_terminator] at read
      cases read
      simp [terminates, Function.comp_def]
    · obtain ⟨reading, later, -, more, rfl⟩ := classifyAll_cons terminates read
      rw [List.map_cons, ih more]

theorem classifyAll_append {g : Grammar α} {args : List String} (unmarked : "--" ∉ args)
    {readings : List (String × Reading α)} (read : g.classifyAll args = .ok readings)
    (more : List String) :
    g.classifyAll (args ++ more) = (g.classifyAll more).map (readings ++ ·) := by
  induction args generalizing readings with
  | nil =>
    cases read
    rw [List.nil_append]
    cases g.classifyAll more <;> rfl
  | cons arg rest ih =>
    obtain ⟨further, later⟩ := List.ne_and_not_mem_of_not_mem_cons unmarked
    obtain ⟨reading, behind, first, second, rfl⟩ := classifyAll_cons (Ne.symm further) read
    rw [List.cons_append, classifyAll, if_neg (Ne.symm further), first, ih later second]
    cases g.classifyAll more <;> rfl

theorem classifyAll_append_terminator {g : Grammar α} {args : List String}
    (unmarked : "--" ∉ args) {readings : List (String × Reading α)}
    (read : g.classifyAll args = .ok readings) (tokens : List String) :
    g.classifyAll (args ++ "--" :: tokens) =
      .ok (readings ++ ("--", .terminator) :: tokens.map fun token => (token, .operand)) := by
  rw [classifyAll_append unmarked read, classifyAll_terminator]
  rfl

end Grammar

/-! ## Options -/

def Cluster.items : Cluster α → List (Item α)
  | .complete items | .awaiting items _ => items
  | .refused _ => []

theorem Cluster.mem_items_push {item other : Item α} {c : Cluster α}
    (mem : other ∈ (c.push item).items) : other = item ∨ other ∈ c.items := by
  cases c with
  | complete items | awaiting items o => exact List.mem_cons.mp mem
  | refused message => cases mem

namespace Grammar

theorem operands_not_mem_readJoined (g : Grammar α) (o : ProgramOption α) (more : List Char)
    (texts : List String) : .operands texts ∉ (g.readJoined o more).items := by
  induction more generalizing o with
  | nil => simp [readJoined, Cluster.items, ProgramOption.bare]
  | cons c more ih =>
    rw [readJoined]
    cases g.find? (String.ofList ['-', c]) with
    | none => simp [refuseValue, Cluster.items]
    | some next =>
      intro mem
      rcases Cluster.mem_items_push mem with same | inner
      · cases same
      · cases takes : next.placeholder with
        | some placeholder =>
          cases more <;> simp [takes, Cluster.items, Grammar.valued] at inner
        | none =>
          simp only [takes] at inner
          exact ih next inner

theorem operands_not_mem_cluster (g : Grammar α) (arg : String) (reading : Reading α)
    (texts : List String) : .operands texts ∉ (g.cluster arg reading).items := by
  cases reading with
  | option o =>
    cases takes : o.placeholder <;> simp [cluster, takes, Cluster.items, ProgramOption.bare]
  | assigned o value =>
    cases takes : o.placeholder <;>
      simp [cluster, takes, Cluster.items, Grammar.valued, refuseValue]
  | joined o more =>
    rw [cluster]
    split
    · simp [Cluster.items, Grammar.valued]
    · split
      · simp [Cluster.items, refuseValue]
      · exact operands_not_mem_readJoined g o more texts
  | operand | terminator | unknown => simp [cluster, Cluster.items]

theorem readMany_cons (g : Grammar α) {arg : String} {reading : Reading α}
    (not_operand : reading ≠ .operand) (not_terminator : reading ≠ .terminator)
    {phase next : Phase} {shut : List (Item α)} (passed : phase.behindOption = (shut, next))
    (rest : List (String × Reading α)) :
    g.readMany phase ((arg, reading) :: rest) = shut ++
      match g.cluster arg reading with
      | .complete items => items ++ g.readMany next rest
      | .refused message => [.misuse message]
      | .awaiting items o =>
        match rest with
        | (value, reading) :: rest =>
          if isValue reading then items ++ g.valued o value :: g.readMany next rest
          else [.misuse (complaint o "expected one argument")]
        | [] => [.misuse (complaint o "expected one argument")] := by
  cases reading with
  | operand => exact absurd rfl not_operand
  | terminator => exact absurd rfl not_terminator
  | option _ | assigned _ _ | joined _ _ | unknown =>
    rw [readMany]
    · exact passed ▸ rfl
    all_goals simp

theorem readMany_option (g : Grammar α) (arg : String) {reading : Reading α}
    (not_operand : reading ≠ .operand) (not_terminator : reading ≠ .terminator)
    (rest : List (String × Reading α)) :
    (∃ items behind, behind <:+ rest ∧ (∀ texts, .operands texts ∉ items) ∧
      ∀ {phase next : Phase} {shut : List (Item α)}, phase.behindOption = (shut, next) →
        ∀ later, g.readMany phase ((arg, reading) :: rest ++ later) =
          shut ++ (items ++ g.readMany next (behind ++ later))) ∨
    ∃ message, ∀ {phase next : Phase} {shut : List (Item α)}, phase.behindOption = (shut, next) →
      g.readMany phase ((arg, reading) :: rest) = shut ++ [.misuse message] := by
  have free := operands_not_mem_cluster g arg reading
  cases meant : g.cluster arg reading with
  | complete items =>
    rw [meant] at free
    exact .inl ⟨items, rest, List.suffix_rfl, free, fun passed later => by
      rw [List.cons_append, readMany_cons g not_operand not_terminator passed, meant]⟩
  | refused message =>
    exact .inr ⟨message, fun passed => by
      rw [readMany_cons g not_operand not_terminator passed, meant]⟩
  | awaiting items o =>
    rw [meant] at free
    cases rest with
    | nil =>
      exact .inr ⟨_, fun passed => by
        rw [readMany_cons g not_operand not_terminator passed, meant]⟩
    | cons value rest =>
      obtain ⟨value, reading⟩ := value
      by_cases taken : isValue reading
      · refine .inl ⟨items ++ [g.valued o value], rest, List.suffix_cons _ _, fun texts mem => ?_,
          fun passed later => ?_⟩
        · rcases List.mem_append.mp mem with inner | last
          · exact free texts inner
          · cases List.mem_singleton.mp last
        · rw [List.cons_append, readMany_cons g not_operand not_terminator passed, meant]
          simp [taken]
      · refine .inr ⟨complaint o "expected one argument", fun passed => ?_⟩
        rw [readMany_cons g not_operand not_terminator passed, meant]
        simp [taken]

/-- Induction over readings, with an option and what belongs to it as one step. -/
theorem readMany_induction (g : Grammar α) {motive : List (String × Reading α) → Prop}
    (nil : motive [])
    (operand : ∀ arg reading rest,
      (∀ (phase : Phase) {next : Phase} {shut : List (Item α)}, phase.take arg = (shut, next) →
        ∀ later, g.readMany phase ((arg, reading) :: rest ++ later) =
          shut ++ g.readMany next (rest ++ later)) →
      motive rest → motive ((arg, reading) :: rest))
    (option : ∀ arg reading rest items behind, behind <:+ rest →
      (∀ texts, .operands texts ∉ items) →
      (∀ (phase : Phase) {next : Phase} {shut : List (Item α)}, phase.behindOption = (shut, next) →
        ∀ later, g.readMany phase ((arg, reading) :: rest ++ later) =
          shut ++ (items ++ g.readMany next (behind ++ later))) →
      motive behind → motive ((arg, reading) :: rest))
    (misuse : ∀ arg reading rest message,
      (∀ (phase : Phase) {next : Phase} {shut : List (Item α)}, phase.behindOption = (shut, next) →
        g.readMany phase ((arg, reading) :: rest) = shut ++ [.misuse message]) →
      motive ((arg, reading) :: rest))
    (readings : List (String × Reading α)) : motive readings := by
  induction h : readings.length using Nat.strongRecOn generalizing readings with
  | _ n ih =>
    cases readings with
    | nil => exact nil
    | cons first rest =>
      obtain ⟨arg, reading⟩ := first
      rw [List.length_cons] at h
      by_cases taken : reading = .operand ∨ reading = .terminator
      · have shorter : rest.length < n := by omega
        refine operand arg reading rest (fun _ _ _ passed later => ?_) (ih _ shorter rest rfl)
        rcases taken with rfl | rfl <;> rw [List.cons_append, readMany, passed]
      · obtain ⟨not_operand, not_terminator⟩ := not_or.mp taken
        rcases g.readMany_option arg not_operand not_terminator rest with
          ⟨items, behind, suffix, free, read⟩ | ⟨message, read⟩
        · have shorter : behind.length < n := by have := suffix.length_le; omega
          exact option arg reading rest items behind suffix free (fun _ => read)
            (ih _ shorter behind rfl)
        · exact misuse arg reading rest message fun _ => read

theorem readMany_operands (g : Grammar α) (texts tokens : List String) :
    g.readMany (.taking texts) (tokens.map fun token => (token, .operand)) =
      [.operands ((texts ++ tokens).erase "--")] := by
  induction tokens generalizing texts with
  | nil => simp [readMany, Phase.close]
  | cons token rest ih =>
    rw [List.map_cons, readMany]
    simp [Phase.take, ih]

end Grammar

/-! ## What a command collects -/

namespace Command

theorem collect_append (command : Command) (r : Request) (leftOver : List String)
    (items more : List (Item Directive)) :
    command.collect r leftOver (items ++ more) =
      command.collect r leftOver items >>= fun (r, leftOver) =>
        command.collect r leftOver more := by
  induction items generalizing r leftOver with
  | nil => rfl
  | cons item rest ih =>
    cases item with
    | act directive =>
      cases directive with
      | help => rfl
      | version | verbose | debug | config _ | json | explain | cxx | sysroot _ | target _ =>
        simp only [List.cons_append, collect, ih]
    | operands texts => exact ih _ _
    | leftOver arg => exact ih _ _
    | misuse message => rfl

theorem arguments_add (r : Request) (directive : Directive) :
    (r.add directive).arguments = r.arguments := by
  cases directive <;> rfl

theorem arguments_of_collect {command : Command} {items : List (Item Directive)}
    (free : ∀ texts, .operands texts ∉ items) {r r' : Request} {leftOver leftOver' : List String}
    (collected : command.collect r leftOver items = .ok (r', leftOver')) :
    r'.arguments = r.arguments := by
  induction items generalizing r leftOver with
  | nil =>
    cases collected
    rfl
  | cons item rest ih =>
    have later (texts : List String) : .operands texts ∉ rest :=
      fun mem => free texts (.tail _ mem)
    cases item with
    | act directive =>
      by_cases helps : directive = .help
      · rw [helps] at collected
        cases collected
      · rw [collect.eq_3 _ _ _ _ _ helps] at collected
        rw [ih later collected, arguments_add]
    | operands texts => exact absurd (.head _) (free texts)
    | leftOver arg => exact ih later collected
    | misuse message => cases collected

theorem collect_misuse (command : Command) (r : Request) (leftOver : List String)
    (items : List (Item Directive)) (message : String) {answer : Request × List String} :
    command.collect r leftOver (items ++ [.misuse message]) ≠ .ok answer := by
  rw [collect_append]
  intro collected
  obtain ⟨⟨r', leftOver'⟩, -, last⟩ := exists_of_bind_ok collected
  cases last

theorem collect_ne_run {command : Command} {items : List (Item Directive)} {r : Request}
    {leftOver : List String} {invocation : Invocation}
    (collected : command.collect r leftOver items = .error invocation) (other : Command)
    (asked : Request) : invocation ≠ .run other asked := by
  induction items generalizing r leftOver with
  | nil => cases collected
  | cons item rest ih =>
    cases item with
    | act directive =>
      by_cases helps : directive = .help
      · rw [helps] at collected
        cases collected
        simp
      · rw [collect.eq_3 _ _ _ _ _ helps] at collected
        exact ih collected
    | operands texts => exact ih collected
    | leftOver arg => exact ih collected
    | misuse message =>
      cases collected
      simp [misuseOf]

theorem exists_phase_of_collect {command : Command} {g : Grammar Directive}
    {readings : List (String × Reading Directive)} {phase : Grammar.Phase} {r r' : Request}
    {leftOver leftOver' : List String}
    (collected : command.collect r leftOver (g.readMany phase readings) = .ok (r', leftOver')) :
    ∃ (inner : Request) (skipped : List String) (last : Grammar.Phase),
      command.collect inner skipped last.close = .ok (r', leftOver') ∧
      ∀ later, command.collect r leftOver (g.readMany phase (readings ++ later)) =
        command.collect inner skipped (g.readMany last later) := by
  induction readings using g.readMany_induction generalizing phase r leftOver with
  | nil => exact ⟨r, leftOver, phase, collected, fun later => rfl⟩
  | operand arg reading rest read ih =>
    have alone := read phase rfl []
    rw [List.append_nil, List.append_nil] at alone
    rw [alone, collect_append] at collected
    obtain ⟨⟨before, passed⟩, first, second⟩ := exists_of_bind_ok collected
    obtain ⟨inner, skipped, last, closed, behind⟩ := ih second
    refine ⟨inner, skipped, last, closed, fun later => ?_⟩
    rw [read phase rfl, collect_append, first]
    exact behind later
  | option arg reading rest items behind suffix free read ih =>
    have alone := read phase rfl []
    rw [List.append_nil, List.append_nil, ← List.append_assoc] at alone
    rw [alone, collect_append] at collected
    obtain ⟨⟨before, passed⟩, first, second⟩ := exists_of_bind_ok collected
    obtain ⟨inner, skipped, last, closed, behind⟩ := ih second
    refine ⟨inner, skipped, last, closed, fun later => ?_⟩
    rw [read phase rfl, ← List.append_assoc, collect_append, first]
    exact behind later
  | misuse arg reading rest message read =>
    rw [read phase rfl] at collected
    exact absurd collected (collect_misuse _ _ _ _ _)

theorem add_arguments (r : Request) (d : Directive) (texts : List String) :
    Request.add { r with arguments := texts } d = { r.add d with arguments := texts } := by
  cases d <;> rfl

theorem collect_append_option {command : Command} {g : Grammar Directive}
    {readings : List (String × Reading Directive)} {phase : Grammar.Phase} {r r' : Request}
    {leftOver leftOver' : List String}
    (collected : command.collect r leftOver (g.readMany phase readings) = .ok (r', leftOver'))
    {arg : String} {reading : Reading Directive} {d : Directive}
    (acts : g.cluster arg reading = .complete [.act d]) (works : d ≠ .help) :
    command.collect r leftOver (g.readMany phase (readings ++ [(arg, reading)])) =
      .ok (r'.add d, leftOver') := by
  obtain ⟨inner, skipped, last, closed, behind⟩ := exists_phase_of_collect collected
  have alone {next : Grammar.Phase} {shut : List (Item Directive)}
      (passed : last.behindOption = (shut, next)) :
      g.readMany last [(arg, reading)] = shut ++ .act d :: next.close := by
    have not_operand : reading ≠ .operand := by rintro rfl; cases acts
    have not_terminator : reading ≠ .terminator := by rintro rfl; cases acts
    rw [Grammar.readMany_cons g not_operand not_terminator passed, acts]
    rfl
  have act (r : Request) (skipped : List String) (rest : List (Item Directive)) :
      command.collect r skipped (.act d :: rest) = command.collect (r.add d) skipped rest :=
    collect.eq_3 _ _ _ _ _ works
  rw [behind]
  cases last with
  | before =>
    cases closed
    have settled := add_arguments inner d []
    rw [alone rfl, List.nil_append, act]
    exact congrArg (fun r => Except.ok (r, leftOver')) settled.symm
  | taking texts =>
    cases closed
    rw [alone rfl, List.singleton_append, collect, act]
    rfl
  | after =>
    cases closed
    rw [alone rfl, List.nil_append, act]
    rfl

/-! The phases, from the last to the first, each with what it says about the operands taken. -/

theorem operands_not_mem_after (g : Grammar α) (readings : List (String × Reading α))
    (texts : List String) : .operands texts ∉ g.readMany .after readings := by
  induction readings using g.readMany_induction with
  | nil => simp [Grammar.readMany, Grammar.Phase.close]
  | operand arg reading rest read ih =>
    have read := read .after rfl []
    rw [List.append_nil, List.append_nil] at read
    rw [read]
    simp [ih]
  | option arg reading rest items behind suffix free read ih =>
    have read := read .after rfl []
    rw [List.append_nil, List.append_nil] at read
    rw [read]
    simp [free, ih]
  | misuse arg reading rest message read =>
    rw [read .after rfl]
    simp

theorem arguments_of_taking {command : Command} {g : Grammar Directive}
    {readings : List (String × Reading Directive)} (unmarked : "--" ∉ readings.map (·.1))
    {texts : List String} (some_text : texts ≠ []) (unmarked_texts : "--" ∉ texts)
    {r r' : Request} {leftOver leftOver' : List String}
    (collected : command.collect r leftOver (g.readMany (.taking texts) readings) =
      .ok (r', leftOver')) : r'.arguments ≠ [] := by
  induction readings using g.readMany_induction generalizing texts with
  | nil =>
    rw [Grammar.readMany, Grammar.Phase.close, List.erase_of_not_mem unmarked_texts] at collected
    cases collected
    exact some_text
  | operand arg reading rest read ih =>
    obtain ⟨further, later⟩ := List.ne_and_not_mem_of_not_mem_cons unmarked
    have read := read (.taking texts) rfl []
    rw [List.append_nil, List.append_nil, List.nil_append] at read
    rw [read] at collected
    exact ih later (by simp) (by simpa [unmarked_texts] using further) collected
  | option arg reading rest items behind suffix free read ih =>
    have read := read (.taking texts) rfl []
    rw [List.append_nil, List.append_nil, List.erase_of_not_mem unmarked_texts] at read
    rw [read] at collected
    have kept : r'.arguments = texts := by
      have free (more : List String) :
          .operands more ∉ [] ++ (items ++ g.readMany .after behind) := by
        simp [free, operands_not_mem_after]
      exact arguments_of_collect free (r := { r with arguments := texts }) collected
    rwa [kept]
  | misuse arg reading rest message read =>
    rw [read (.taking texts) rfl] at collected
    exact absurd collected (collect_misuse _ _ _ _ _)

theorem collect_append_terminator {command : Command} {g : Grammar Directive}
    {readings : List (String × Reading Directive)} (unmarked : "--" ∉ readings.map (·.1))
    {r r' : Request} {leftOver leftOver' : List String}
    (collected : command.collect r leftOver (g.readMany .before readings) = .ok (r', leftOver'))
    (none_taken : r'.arguments = []) (tokens : List String) :
    command.collect r leftOver (g.readMany .before
        (readings ++ ("--", .terminator) :: tokens.map fun token => (token, .operand))) =
      .ok ({ r' with arguments := tokens }, leftOver') := by
  induction readings using g.readMany_induction generalizing r leftOver with
  | nil =>
    rw [Grammar.readMany, Grammar.Phase.close] at collected
    cases collected
    rw [List.nil_append, Grammar.readMany, Grammar.Phase.take]
    simp [Grammar.readMany_operands, collect]
  | operand arg reading rest read ih =>
    obtain ⟨further, later⟩ := List.ne_and_not_mem_of_not_mem_cons unmarked
    have read := read .before rfl []
    rw [List.append_nil, List.append_nil, List.nil_append] at read
    rw [read] at collected
    exact absurd none_taken
      (arguments_of_taking later (List.cons_ne_nil arg []) (by simpa using further) collected)
  | option arg reading rest items behind suffix free read ih =>
    have alone := read .before rfl []
    rw [List.append_nil, List.append_nil] at alone
    rw [alone, List.nil_append, collect_append] at collected
    obtain ⟨⟨inner, skipped⟩, first, second⟩ := exists_of_bind_ok collected
    rw [read .before rfl, List.nil_append, collect_append, first]
    refine ih (fun mem => unmarked ?_) second
    exact List.mem_cons_of_mem _ ((suffix.map _).mem mem)
  | misuse arg reading rest message read =>
    rw [read .before rfl] at collected
    exact absurd collected (collect_misuse _ _ _ _ _)

end Command

/-! ## Command lines -/

theorem classify_name (command : Command) : mainGrammar.classify command.name = .ok .operand := by
  cases command <;> rfl

theorem read_name {command : Command} {args : List String}
    {readings : List (String × Reading Directive)}
    (read : mainGrammar.classifyAll args = .ok readings) :
    mainGrammar.read (command.name :: args) = [.operands (command.name :: args)] := by
  have further : command.name ≠ "--" := by cases command <;> decide
  have whole : mainGrammar.classifyAll (command.name :: args) =
      .ok ((command.name, .operand) :: readings) := by
    rw [Grammar.classifyAll, if_neg further, classify_name, read]
    rfl
  have names := Grammar.map_fst_of_classifyAll read
  have behind : mainGrammar.readCommand ((command.name, .operand) :: readings) =
      [.operands (command.name :: args)] := by
    rw [Grammar.readCommand, names]
  rw [Grammar.read, whole]
  exact behind

section
variable {keepsMark : Bool} {command : Command}

theorem ofArgs_eq_run_iff {args : List String} {r : Request} :
    Invocation.ofArgs (command.name :: args) keepsMark = .run command r ↔
      (∃ readings, mainGrammar.classifyAll args = .ok readings) ∧
        command.request args keepsMark = .ok (r, []) := by
  cases read : mainGrammar.classifyAll args with
  | error message =>
    have further : command.name ≠ "--" := by cases command <;> decide
    have whole : mainGrammar.classifyAll (command.name :: args) = .error message := by
      rw [Grammar.classifyAll, if_neg further, classify_name, read]
      rfl
    simp [Invocation.ofArgs, Grammar.read, whole, Invocation.ofItems, misuseOf]
  | ok readings =>
    rw [Invocation.ofArgs, read_name read, Invocation.ofItems, chooseCommand, Command.ofName?_name]
    cases asked : command.request args keepsMark with
    | error invocation =>
      have stopped := Command.collect_ne_run asked command r
      simpa [asked, bind, Except.bind] using stopped
    | ok answer =>
      obtain ⟨request, leftOver⟩ := answer
      cases leftOver <;>
        simp [bind, Except.bind, pure, Except.pure, asked, Invocation.ofItems, conclude, misuseOf]

theorem ofArgs_append_option {options : List String} (unmarked : "--" ∉ options) {r : Request}
    (asked : Invocation.ofArgs (command.name :: options) keepsMark = .run command r)
    {arg : String} (further : arg ≠ "--") {reading : Reading Directive}
    (meant : (command.grammar keepsMark).classify arg = .ok reading) {d : Directive}
    (acts : (command.grammar keepsMark).cluster arg reading = .complete [.act d]) (works : d ≠ .help)
    (elsewhere : ∃ other, mainGrammar.classify arg = .ok other) :
    Invocation.ofArgs (command.name :: options ++ [arg]) keepsMark = .run command (r.add d) := by
  have alone {g : Grammar Directive} {reading : Reading Directive}
      (meant : g.classify arg = .ok reading) : g.classifyAll [arg] = .ok [(arg, reading)] := by
    rw [Grammar.classifyAll, if_neg further, meant]
    rfl
  obtain ⟨other, elsewhere⟩ := elsewhere
  obtain ⟨⟨readings, read⟩, collected⟩ := ofArgs_eq_run_iff.mp asked
  rw [List.cons_append]
  refine ofArgs_eq_run_iff.mpr ⟨⟨readings ++ [(arg, other)], ?_⟩, ?_⟩
  · rw [Grammar.classifyAll_append unmarked read, alone elsewhere]
    rfl
  · unfold Command.request Grammar.read at collected ⊢
    cases own : (command.grammar keepsMark).classifyAll options with
    | error message =>
      rw [own] at collected
      cases collected
    | ok readings =>
      rw [own] at collected
      rw [Grammar.classifyAll_append unmarked own, alone meant]
      cases command <;> exact Command.collect_append_option collected acts works

theorem ofArgs_append_terminator (driven : command ≠ .paths) {options : List String}
    (unmarked : "--" ∉ options) {r : Request}
    (asked : Invocation.ofArgs (command.name :: options) keepsMark = .run command r)
    (none_taken : r.arguments = []) (tokens : List String) :
    Invocation.ofArgs (command.name :: options ++ "--" :: tokens) keepsMark =
      .run command { r with arguments := tokens } := by
  obtain ⟨⟨readings, read⟩, collected⟩ := ofArgs_eq_run_iff.mp asked
  let g := command.grammar keepsMark
  have many (args : List String) : g.read args =
      match g.classifyAll args with
      | .error message => [.misuse message]
      | .ok readings => g.readMany .before readings := by
    rw [Grammar.read]
    cases g.classifyAll args with
    | error message => rfl
    | ok readings =>
      cases command with
      | link | cc1 => rfl
      | paths => exact absurd rfl driven
  rw [List.cons_append]
  refine ofArgs_eq_run_iff.mpr
    ⟨⟨_, Grammar.classifyAll_append_terminator unmarked read tokens⟩, ?_⟩
  unfold Command.request at collected ⊢
  rw [many] at collected ⊢
  cases own : (command.grammar keepsMark).classifyAll options with
  | error message =>
    rw [own] at collected
    cases collected
  | ok readings =>
    rw [own] at collected
    rw [Grammar.classifyAll_append_terminator unmarked own]
    have names := Grammar.map_fst_of_classifyAll own
    exact Command.collect_append_terminator (names ▸ unmarked) collected none_taken tokens

end

end CrossDriver.CommandLine
