import CrossDriver.DriverOption.Spelling
import CrossDriver.Proofs.DriverOption.Concatenation
import CrossDriver.Proofs.DriverOption.Target
import CrossDriver.Proofs.DriverOption.Updates
import CrossDriver.Proofs.Traced

namespace CrossDriver

namespace Assignment

theorem last?_eq_some {f : Field} {v : Field.Value} {as : List Assignment}
    (agree : ∀ a ∈ as, a.field = f → a.value = v) (given : ∃ a ∈ as, a.field = f) :
    last? f as = some v := by
  induction as with
  | nil => exact absurd given (by simp)
  | cons a rest ih =>
    have later := fun b mem => agree b (List.mem_cons_of_mem a mem)
    rw [last?]
    by_cases behind : ∃ b ∈ rest, b.field = f
    · rw [ih later behind]
      rfl
    · have none : last? f rest = none :=
        last?_eq_none fun b mem same => behind ⟨b, mem, same⟩
      obtain ⟨b, mem, own⟩ := given
      rcases List.mem_cons.mp mem with rfl | mem
      · rw [none, if_pos own, agree b (.head _) own]
        rfl
      · exact absurd ⟨b, mem, own⟩ behind

theorem exists_of_last? {f : Field} {v : Field.Value} {as : List Assignment}
    (last : last? f as = some v) : ∃ a ∈ as, a.field = f ∧ a.value = v := by
  induction as with
  | nil => cases last
  | cons a rest ih =>
    rw [last?, Option.or_eq_some_iff] at last
    rcases last with behind | ⟨-, here⟩
    · obtain ⟨b, mem, own⟩ := ih behind
      exact ⟨b, .tail _ mem, own⟩
    · split at here
      case isTrue own => exact ⟨a, .head _, own, Option.some.inj here⟩
      case isFalse => cases here

end Assignment

/-! ## Fields and their options -/

namespace Config
open OptionLookup

def switchSpelling : Switch → String
  | .shared => "-shared"
  | .pie => "-pie"
  | .strip => "-s"
  | .rdynamic => "-rdynamic"
  | .staticCxxStdlib => "-static-libstdc++"
  | .noStdlib => "-nostdlib"
  | .noStartFiles => "-nostartfiles"
  | .noDefaultLibs => "-nodefaultlibs"
  | .noLibc => "-nolibc"
  | .noStdInc => "-nostdinc"
  | .noBuiltinInc => "-nobuiltininc"
  | .noStdlibInc => "-nostdlibinc"
  | .noCxxInc => "-nostdinc++"
  | .noCxxStdlib => "-nostdlib++"
  | .debug => "-g"
  | .emitLlvm => "-emit-llvm"
  | .suppressWarnings => "-w"
  | .cxx | .pieDefault => ""

def wordSpelling : Word → String
  | .sysroot => "--sysroot="
  | .triple => "--target="
  | .ltoJobs => "-flto-jobs="
  | .optLevel => "-O"
  | .rtlib => "-rtlib="
  | .cxxStdlib => "-stdlib="
  | .fuseLd => "-fuse-ld="
  | .output => "-o"

def spellingOf (c : Config) : Field → List String
  | .switch field => flagIf (switchSpelling field) (c.isOn field)
  | .word .output => ["-o", c.output]
  | .word field => joinedValue (wordSpelling field) (c.wordOf field)
  | .linkMode => flagIf "-static" c.isStatic
  | .lto =>
    match c.lto with
    | .none => []
    | .thin => ["-flto=thin"]
    | .full => ["-flto=full"]
  | .useInitArray =>
    match c.useInitArray with
    | some true => ["-fuse-init-array"]
    | some false => ["-fno-use-init-array"]
    | none => []

/-- What is assigned to a field so that it holds its value; nothing where it holds it anyway. -/
def assignmentOf (c : Config) : Field → List Assignment
  | .switch field => if c.isOn field then [.switch field true] else []
  | .word field => (c.wordOf field).toList.map (.word field)
  | .linkMode => if c.isStatic then [.linkMode .static] else []
  | .lto => if c.usesLto then [.lto c.lto] else []
  | .useInitArray => c.useInitArray.toList.map .useInitArray

def spelledFields : List Field := [
  .linkMode, .switch .shared, .switch .pie, .switch .rdynamic, .switch .strip,
  .switch .staticCxxStdlib, .word .output, .word .sysroot, .word .triple, .lto, .word .ltoJobs,
  .word .optLevel, .word .rtlib, .word .cxxStdlib, .word .fuseLd, .useInitArray,
  .switch .noStdlib, .switch .noStartFiles, .switch .noDefaultLibs, .switch .noLibc,
  .switch .noStdInc, .switch .noBuiltinInc, .switch .noStdlibInc, .switch .noCxxInc,
  .switch .noCxxStdlib, .switch .debug, .switch .emitLlvm, .switch .suppressWarnings]

theorem spelling_eq_flatMap (c : Config) :
    c.spelling = spelledFields.flatMap c.spellingOf ++
      c.libraryPaths.flatMap (fun path => ["-L", path]) ++
      c.undefined.flatMap (fun symbol => ["-u", symbol]) ++ "--" :: c.inputs := by
  simp only [spelling, outputSpelling, choiceSpelling, omissionSpelling, spelledFields,
    List.flatMap_cons, List.flatMap_nil, List.append_nil, List.append_assoc]
  rfl

theorem spells_switch {field : Switch} (given : field ≠ .cxx ∧ field ≠ .pieDefault) :
    Spells [switchSpelling field] [.assign (.switch field true)] := by
  have flags : ∀ field, field ≠ .cxx → field ≠ .pieDefault → field ≠ .debug →
      DriverOption.switchOn (switchSpelling field) field ∈ DriverOption.table := by
    intro field
    cases field <;> decide +kernel
  by_cases debug : field = .debug
  · subst debug
    have listed : ⟨"-g", .joined, .assign (.switch .debug true)⟩ ∈ DriverOption.table := by
      decide +kernel
    have spelled : Spells ["-g" ++ ""] [.assign (.switch .debug true)] := .joined listed rfl rfl
    rwa [String.append_empty] at spelled
  · exact .flag (flags field given.1 given.2 debug) rfl rfl

theorem spells_word {field : Word} {value : String} (apart : field ≠ .output)
    (level : field = .optLevel → value ≠ "") :
    Spells [wordSpelling field ++ value] [.assign (.word field value)] := by
  by_cases optLevel : field = .optLevel
  · subst optLevel
    have listed : ⟨"-O", .joined, .optLevel⟩ ∈ DriverOption.table := by decide +kernel
    have applied : OptionAction.optLevel.apply value = [.edit (.assign (.word .optLevel value))] := by
      rw [OptionAction.apply, if_neg (level rfl)]
    exact .joined listed rfl applied
  · have others : ∀ field, field ≠ .output → field ≠ .optLevel →
        ⟨wordSpelling field, .joined, .word field⟩ ∈ DriverOption.table := by
      intro field
      cases field <;> decide +kernel
    exact .joined (others field apart optLevel) rfl rfl

theorem spells_flagIf {spelling : String} {a : Assignment} (on : Bool)
    (own : Spells [spelling] [.assign a]) :
    Spells (flagIf spelling on) ((if on then [a] else []).map .assign) := by
  cases on
  · exact .nil
  · exact own

theorem spells_assign {spelling : String} {a : Assignment}
    (listed : ⟨spelling, .flag, .assign a⟩ ∈ DriverOption.table) :
    Spells [spelling] [.assign a] :=
  .flag listed rfl rfl

theorem spells_spellingOf {c : Config} (level : c.optLevel ≠ some "") {f : Field}
    (given : f ∈ spelledFields) :
    Spells (c.spellingOf f) ((c.assignmentOf f).map .assign) := by
  cases f with
  | switch field =>
    refine spells_flagIf (c.isOn field) (spells_switch ?_)
    revert given
    cases field <;> decide
  | word field =>
    -- The output is the one value that stands in an argument of its own.
    by_cases output : field = .output
    · subst output
      have listed : ⟨"-o", .joinedOrSeparate, .word .output⟩ ∈ DriverOption.table := by
        decide +kernel
      exact .apart listed rfl rfl
    · have joined : c.spellingOf (.word field) =
          joinedValue (wordSpelling field) (c.wordOf field) := by
        cases field <;> first | rfl | exact absurd rfl output
      rw [joined, assignmentOf]
      cases held : c.wordOf field with
      | none => exact .nil
      | some value =>
        refine spells_word output ?_
        rintro rfl rfl
        exact level held
  | linkMode => exact spells_flagIf c.isStatic (spells_assign (by decide +kernel))
  | lto =>
    have listed : ⟨"-flto=", .joined, .lto⟩ ∈ DriverOption.table := by decide +kernel
    rw [spellingOf, assignmentOf, usesLto]
    cases c.lto with
    | none => exact .nil
    | thin => exact .joined listed rfl (show OptionAction.lto.apply "thin" = _ from rfl)
    | full => exact .joined listed rfl (show OptionAction.lto.apply "full" = _ from rfl)
  | useInitArray =>
    rw [spellingOf, assignmentOf]
    rcases c.useInitArray with _ | _ | _
    · exact .nil
    · exact spells_assign (by decide +kernel)
    · exact spells_assign (by decide +kernel)

def spelledEdits (c : Config) : List Edit :=
  (spelledFields.flatMap c.assignmentOf).map .assign ++ c.libraryPaths.map .libraryPath ++
    c.undefined.map .undefined

theorem spells_options {c : Config} (level : c.optLevel ≠ some "") :
    Spells (spelledFields.flatMap c.spellingOf ++
      c.libraryPaths.flatMap (fun path => ["-L", path]) ++
      c.undefined.flatMap (fun symbol => ["-u", symbol])) c.spelledEdits := by
  have paths : ⟨"-L", .joinedOrSeparate, .libraryPath⟩ ∈ DriverOption.table := by decide +kernel
  have symbols : ⟨"-u", .joinedOrSeparate, .undefined⟩ ∈ DriverOption.table := by decide +kernel
  have fields : Spells (spelledFields.flatMap c.spellingOf)
      ((spelledFields.flatMap c.assignmentOf).map .assign) := by
    rw [List.map_flatMap]
    exact .flatMap fun f => spells_spellingOf level
  exact (fields.append (.flatMap_singleton (fun _ => .apart paths rfl rfl) _)).append
    (.flatMap_singleton (fun _ => .apart symbols rfl rfl) _)

/-! ## The updates put to work -/

theorem field_of_mem_assignmentOf {c : Config} {f : Field} {a : Assignment}
    (mem : a ∈ c.assignmentOf f) : a.field = f ∧ a.value = c.get f := by
  cases f with
  | switch field =>
    rw [assignmentOf] at mem
    split at mem
    case isTrue on =>
      rw [List.mem_singleton.mp mem]
      exact ⟨rfl, by rw [get, on]; rfl⟩
    case isFalse => cases mem
  | word field =>
    obtain ⟨value, held, rfl⟩ := List.mem_map.mp mem
    exact ⟨rfl, by rw [get, Option.mem_toList.mp held]; rfl⟩
  | linkMode =>
    rw [assignmentOf] at mem
    split at mem
    case isTrue static =>
      rw [List.mem_singleton.mp mem]
      exact ⟨rfl, by rw [get, of_decide_eq_true static]; rfl⟩
    case isFalse => cases mem
  | lto =>
    rw [assignmentOf] at mem
    split at mem
    case isTrue =>
      rw [List.mem_singleton.mp mem]
      exact ⟨rfl, rfl⟩
    case isFalse => cases mem
  | useInitArray =>
    obtain ⟨on, held, rfl⟩ := List.mem_map.mp mem
    exact ⟨rfl, by rw [get, Option.mem_toList.mp held]; rfl⟩

theorem get_of_assignmentOf_nil {c : Config} (target : c.triple ≠ none) {f : Field}
    (given : f ∈ spelledFields) (unassigned : c.assignmentOf f = []) :
    c.get f = ({} : Config).get f := by
  cases f with
  | switch field =>
    have off : c.isOn field = false := by
      rw [assignmentOf] at unassigned
      split at unassigned
      case isTrue => cases unassigned
      case isFalse off => exact Bool.eq_false_iff.mpr off
    rw [get, off]
    cases field <;> rfl
  | word field =>
    have absent : c.wordOf field = none := by
      rw [assignmentOf] at unassigned
      simpa using unassigned
    rw [get, absent]
    cases field with
    | sysroot => cases absent
    | output => cases absent
    | triple => exact absurd absent target
    | ltoJobs | optLevel | rtlib | cxxStdlib | fuseLd => rfl
  | linkMode =>
    rw [assignmentOf, isStatic] at unassigned
    rw [get]
    cases mode : c.linkMode with
    | static => simp [mode] at unassigned
    | dynamic => rfl
  | lto =>
    rw [assignmentOf, usesLto] at unassigned
    rw [get]
    cases mode : c.lto with
    | none => rfl
    | thin => simp [mode] at unassigned
    | full => simp [mode] at unassigned
  | useInitArray =>
    rw [assignmentOf] at unassigned
    rw [get]
    cases held : c.useInitArray with
    | none => rfl
    | some on => simp [held] at unassigned

theorem last?_spelled {c : Config} (f : Field) :
    Assignment.last? f (spelledFields.flatMap c.assignmentOf) =
      if f ∈ spelledFields ∧ c.assignmentOf f ≠ [] then some (c.get f) else none := by
  have agree : ∀ a ∈ spelledFields.flatMap c.assignmentOf, a.field = f →
      a.value = c.get f := by
    intro a mem own
    obtain ⟨g, -, mem⟩ := List.mem_flatMap.mp mem
    obtain ⟨field, value⟩ := field_of_mem_assignmentOf mem
    rw [value, ← field, own]
  split
  case isTrue assigned =>
    obtain ⟨given, ne⟩ := assigned
    obtain ⟨a, mem⟩ := List.exists_mem_of_ne_nil _ ne
    exact Assignment.last?_eq_some agree
      ⟨a, List.mem_flatMap.mpr ⟨f, given, mem⟩, (field_of_mem_assignmentOf mem).1⟩
  case isFalse unassigned =>
    refine Assignment.last?_eq_none fun a mem own => unassigned ?_
    obtain ⟨g, given, mem⟩ := List.mem_flatMap.mp mem
    obtain rfl : g = f := (field_of_mem_assignmentOf mem).1.symm.trans own
    exact ⟨given, List.ne_nil_of_mem mem⟩

theorem mem_spelledFields_or (f : Field) :
    f ∈ spelledFields ∨ f = .switch .cxx ∨ f = .switch .pieDefault := by
  cases f with
  | switch field => cases field <;> decide
  | word field => cases field <;> decide
  | linkMode | lto | useInitArray => decide

def allEdits (c : Config) : List Edit :=
  (presets c.cxx c.pieDefault).map .assign ++ (c.spelledEdits ++ c.inputs.map .input)

theorem get_allEdits {c : Config} (target : c.triple ≠ none) (f : Field) :
    (({} : Config).edits c.allEdits).get f = c.get f := by
  have assigned : c.allEdits.filterMap Edit.assignment? =
      presets c.cxx c.pieDefault ++ spelledFields.flatMap c.assignmentOf := by
    simp [allEdits, spelledEdits, List.filterMap_map, Function.comp_def, Edit.assignment?]
  rw [get_edits, assigned, Assignment.last?_append, last?_spelled]
  rcases mem_spelledFields_or f with given | rfl | rfl
  · by_cases ne : c.assignmentOf f = []
    · have settled : Assignment.last? f (presets c.cxx c.pieDefault) = none := by
        refine Assignment.last?_eq_none fun a mem own => ?_
        rcases List.mem_pair.mp mem with rfl | rfl
        · obtain rfl : Field.switch .cxx = f := own
          exact absurd given (by decide)
        · obtain rfl : Field.switch .pieDefault = f := own
          exact absurd given (by decide)
      rw [if_neg (by simp [ne]), settled, get_of_assignmentOf_nil target given ne]
      rfl
    · rw [if_pos ⟨given, ne⟩]
      rfl
  · rw [if_neg fun both => absurd both.1 (by decide)]
    rfl
  · rw [if_neg fun both => absurd both.1 (by decide)]
    rfl

theorem entries_allEdits (c : Config) (list : Listing) :
    (({} : Config).edits c.allEdits).entries list = c.entries list := by
  rw [entries_edits, allEdits, List.filterMap_append, entry?_presets, spelledEdits]
  cases list <;>
    simp [entries, List.filterMap_map, Function.comp_def, Edit.entry?]

theorem edits_allEdits {c : Config} (target : c.triple ≠ none) :
    ({} : Config).edits c.allEdits = c :=
  ext_get (get_allEdits target) (entries_allEdits c)

theorem outcome_parse_of_scan {argv : List String} {es : List Edit}
    (read : standard.scan argv = es.map .edit) (cxx pieDefault : Bool) :
    (parse argv cxx pieDefault).outcome =
      (.ok (({} : Config).edits ((presets cxx pieDefault).map .assign ++ es)), []) := by
  have complete : (standard.scan argv).findSome? ArgItem.missingValue? = none := by
    rw [read, List.findSome?_map, List.findSome?_eq_none_iff]
    exact fun _ _ => rfl
  have updated : argEdits argv = es := by
    rw [argEdits, read, List.filterMap_map]
    exact List.filterMap_some
  have reports : (parse argv cxx pieDefault).diagnostics = [] := by
    rw [diagnostics_parse, read, List.filterMap_map, List.filterMap_eq_nil_iff]
    exact fun _ _ => rfl
  rw [Traced.outcome, reports, result_parse_eq_ok_iff.mpr ⟨complete, rfl⟩, updates, updated]

theorem parse_spelling {c : Config} (target : c.triple ≠ none) (level : c.optLevel ≠ some "") :
    (parse c.spelling c.cxx c.pieDefault).outcome = (.ok c, []) := by
  have options := spells_options level
  have read : standard.scan c.spelling = (c.spelledEdits ++ c.inputs.map Edit.input).map .edit := by
    rw [spelling_eq_flatMap, scan_append _ options.place, options.read, scan_terminator,
      List.map_append, List.map_map]
    rfl
  have edited : ({} : Config).edits c.allEdits = c := edits_allEdits target
  rw [outcome_parse_of_scan read]
  exact congrArg (fun c => (Except.ok c, [])) edited

/-! ## What no arguments give -/

theorem optLevel_of_action {o : DriverOption} (listed : o ∈ DriverOption.table) :
    o.action ≠ .word .optLevel ∧ ∀ a, o.action = .assign a → a.field ≠ .word .optLevel := by
  have all : DriverOption.table.all (fun o => match o.action with
      | .assign a => a.field ≠ .word .optLevel
      | .word field => field ≠ .optLevel
      | _ => true) = true := by
    decide +kernel
  have own := List.all_eq_true.mp all o listed
  constructor
  · intro action
    simp [action] at own
  · intro a action
    simpa [action] using own

theorem empty_optLevel_not_mem_apply {o : DriverOption} (listed : o ∈ DriverOption.table)
    (value : String) : .edit (.assign (.word .optLevel "")) ∉ o.action.apply value := by
  obtain ⟨word, assign⟩ := optLevel_of_action listed
  intro mem
  cases action : o.action with
  | assign a =>
    rw [action] at mem
    cases List.mem_singleton.mp mem
    exact assign _ action rfl
  | word field =>
    rw [action] at mem
    cases List.mem_singleton.mp mem
    exact word action
  | optLevel =>
    rw [action, OptionAction.apply] at mem
    split at mem
    · simp at mem
    case isFalse ne =>
      cases List.mem_singleton.mp mem
      exact ne rfl
  | lto =>
    rw [action, OptionAction.apply] at mem
    split at mem <;> cases List.mem_singleton.mp mem
  | linkerArgs =>
    rw [action] at mem
    obtain ⟨piece, -, equal⟩ := List.mem_map.mp mem
    cases equal
  | input | library | libraryPath | undefined =>
    rw [action] at mem
    cases List.mem_singleton.mp mem

theorem empty_optLevel_not_mem_scan (argv : List String) :
    .edit (.assign (.word .optLevel "")) ∉ standard.scan argv := by
  intro mem
  obtain ⟨token, equal⟩ | ⟨d, equal⟩ | ⟨spelling, equal⟩ | ⟨o, known, value, mem⟩ := mem_scan mem
  · cases equal
  · cases equal
  · cases equal
  · exact empty_optLevel_not_mem_apply (mem_table_of_standard known) value mem

theorem optLevel_ne_empty {argv : List String} {cxx pieDefault : Bool} {c : Config}
    (parsed : (parse argv cxx pieDefault).result = .ok c) : c.optLevel ≠ some "" := by
  obtain ⟨-, rfl⟩ := result_parse_eq_ok_iff.mp parsed
  intro empty
  have got := congrArg Field.Value.text empty
  change (({} : Config).edits (updates argv cxx pieDefault)).get (.word .optLevel) = _ at got
  rw [get_edits, filterMap_assignment?_updates] at got
  cases last : Assignment.last? (.word .optLevel) (assigned argv cxx pieDefault) with
  | none =>
    rw [last] at got
    cases got
  | some value =>
    rw [last, Option.getD_some] at got
    obtain ⟨a, mem, field, held⟩ := Assignment.exists_of_last? last
    obtain rfl : a = .word .optLevel "" := by
      rw [got] at held
      cases a with
      | word own text =>
        cases field
        cases held
        rfl
      | switch _ _ | linkMode _ | lto _ | useInitArray _ => cases field
    rcases List.mem_append.mp mem with preset | read
    · simp [presets] at preset
    · exact empty_optLevel_not_mem_scan argv (edit_mem_scan read)

/-- Just the configurations with a target, and with a level of optimisation that is not empty if
there is one, have arguments; their own are among them, and nothing is reported of those. -/
theorem spelled_iff (c : Config) :
    ((parse c.spelling c.cxx c.pieDefault).outcome = (.ok c, []) ↔
      c.triple ≠ none ∧ c.optLevel ≠ some "") ∧
    ((∃ argv, (parse argv c.cxx c.pieDefault).outcome = (.ok c, [])) ↔
      c.triple ≠ none ∧ c.optLevel ≠ some "") := by
  have necessary {argv : List String}
      (given : (parse argv c.cxx c.pieDefault).outcome = (.ok c, [])) :
      c.triple ≠ none ∧ c.optLevel ≠ some "" := by
    have parsed : (parse argv c.cxx c.pieDefault).result = .ok c := congrArg Prod.fst given
    refine ⟨?_, optLevel_ne_empty parsed⟩
    rw [triple_parse parsed]
    exact Option.some_ne_none _
  have sufficient := fun given : c.triple ≠ none ∧ c.optLevel ≠ some "" =>
    parse_spelling given.1 given.2
  exact ⟨⟨necessary, sufficient⟩, fun ⟨_, given⟩ => necessary given,
    fun given => ⟨c.spelling, sufficient given⟩⟩

end Config

end CrossDriver
