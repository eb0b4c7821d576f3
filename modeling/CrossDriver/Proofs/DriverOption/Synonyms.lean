import CrossDriver.Proofs.DriverOption.Updates
import CrossDriver.Proofs.Traced

namespace CrossDriver

namespace Config
open OptionLookup

def linkerParts (value : String) : List String :=
  ((Text.pieces ',' value.toList).filter (· ≠ [])).map String.ofList

/-- Spellings of one and the same, each with all the arguments that belong to it. -/
inductive Synonyms : List (List String) → Prop where
  | glued {spelling : String} (short : spelling ∈ ["-o", "-L", "-u", "-l"]) {value : String}
      (ne : value ≠ "") : Synonyms [[spelling ++ value], [spelling, value]]
  | sysroot (value : String) : Synonyms [["--sysroot=" ++ value], ["--sysroot", value]]
  | target (value : String) : Synonyms [["--target=" ++ value], ["-target", value]]
  | runtime (value : String) :
      Synonyms [["-rtlib=" ++ value], ["--rtlib=" ++ value], ["--rtlib", value]]
  | cxxLibrary (value : String) :
      Synonyms [["-stdlib=" ++ value], ["--stdlib=" ++ value], ["--stdlib", value]]
  | noPie : Synonyms [["-no-pie"], ["-nopie"]]
  | lto : Synonyms [["-flto"], ["-flto=full"]]
  | level : Synonyms [["-O"], ["-O1"]]
  | linkerList (value : String) : Synonyms [["-Wl," ++ value],
      (linkerParts value).flatMap fun part => ["-Xlinker", part]]

theorem spells_glued {spelling : String} (short : spelling ∈ ["-o", "-L", "-u", "-l"])
    {value : String} (ne : value ≠ "") :
    ∃ es, Spells [spelling ++ value] es ∧ Spells [spelling, value] es := by
  have both (action : OptionAction) {e : Edit}
      (listed : ⟨spelling, .joinedOrSeparate, action⟩ ∈ DriverOption.table)
      (applied : action.apply value = [.edit e]) :
      ∃ es, Spells [spelling ++ value] es ∧ Spells [spelling, value] es :=
    ⟨[e], .glued listed rfl ne applied, .apart listed rfl applied⟩
  simp only [List.mem_cons, List.not_mem_nil, or_false] at short
  rcases short with rfl | rfl | rfl | rfl
  · exact both (.word .output) (by decide +kernel) rfl
  · exact both .libraryPath (by decide +kernel) rfl
  · exact both .undefined (by decide +kernel) rfl
  · exact both .library (by decide +kernel) rfl

theorem spells_joined_word {spelling : String} {field : Word}
    (listed : ⟨spelling, .joined, .word field⟩ ∈ DriverOption.table) (value : String) :
    Spells [spelling ++ value] [.assign (.word field value)] :=
  .joined listed rfl rfl

theorem spells_separate_word {spelling : String} {field : Word}
    (listed : ⟨spelling, .separate, .word field⟩ ∈ DriverOption.table) (value : String) :
    Spells [spelling, value] [.assign (.word field value)] :=
  .apart listed rfl rfl

theorem spells_level {level : String} {value : String} (applied :
    OptionAction.optLevel.apply value = [.edit (.assign (.word .optLevel level))]) :
    Spells ["-O" ++ value] [.assign (.word .optLevel level)] := by
  have listed : ⟨"-O", .joined, .optLevel⟩ ∈ DriverOption.table := by decide +kernel
  exact .joined listed rfl applied

theorem spells_linkerList (value : String) :
    Spells ["-Wl," ++ value] ((linkerParts value).map .input) := by
  have listed : ⟨"-Wl,", .joined, .linkerArgs⟩ ∈ DriverOption.table := by decide +kernel
  refine .joined listed rfl ?_
  rw [OptionAction.apply, linkerParts, List.map_map, List.map_map]
  rfl

theorem spells_linkerParts (value : String) :
    Spells ((linkerParts value).flatMap fun part => ["-Xlinker", part])
      ((linkerParts value).map .input) := by
  have listed : ⟨"-Xlinker", .separate, .input⟩ ∈ DriverOption.table := by decide +kernel
  exact .flatMap_singleton (fun _ => .apart listed rfl rfl) _

theorem spells_synonyms {ways : List (List String)} (synonyms : Synonyms ways) :
    ∃ es, ∀ item ∈ ways, Spells item es := by
  cases synonyms with
  | glued short ne =>
    obtain ⟨es, glued, apart⟩ := spells_glued short ne
    exact ⟨es, by simp [glued, apart]⟩
  | sysroot value =>
    refine ⟨[.assign (.word .sysroot value)], ?_⟩
    rw [List.forall_mem_cons, List.forall_mem_singleton]
    exact ⟨spells_joined_word (by decide +kernel) value,
      spells_separate_word (by decide +kernel) value⟩
  | target value =>
    refine ⟨[.assign (.word .triple value)], ?_⟩
    rw [List.forall_mem_cons, List.forall_mem_singleton]
    exact ⟨spells_joined_word (by decide +kernel) value,
      spells_separate_word (by decide +kernel) value⟩
  | runtime value =>
    refine ⟨[.assign (.word .rtlib value)], ?_⟩
    rw [List.forall_mem_cons, List.forall_mem_cons, List.forall_mem_singleton]
    exact ⟨spells_joined_word (by decide +kernel) value,
      spells_joined_word (by decide +kernel) value, spells_separate_word (by decide +kernel) value⟩
  | cxxLibrary value =>
    refine ⟨[.assign (.word .cxxStdlib value)], ?_⟩
    rw [List.forall_mem_cons, List.forall_mem_cons, List.forall_mem_singleton]
    exact ⟨spells_joined_word (by decide +kernel) value,
      spells_joined_word (by decide +kernel) value, spells_separate_word (by decide +kernel) value⟩
  | noPie =>
    have spelled {spelling : String}
        (listed : ⟨spelling, .flag, .assign (.switch .pie false)⟩ ∈ DriverOption.table) :
        Spells [spelling] [.assign (.switch .pie false)] := .flag listed rfl rfl
    refine ⟨[.assign (.switch .pie false)], ?_⟩
    rw [List.forall_mem_cons, List.forall_mem_singleton]
    exact ⟨spelled (by decide +kernel), spelled (by decide +kernel)⟩
  | lto =>
    have bare : ⟨"-flto", .flag, .assign (.lto .full)⟩ ∈ DriverOption.table := by decide +kernel
    have named : ⟨"-flto=", .joined, .lto⟩ ∈ DriverOption.table := by decide +kernel
    have full : Spells ["-flto=" ++ "full"] [.assign (.lto .full)] := .joined named rfl rfl
    refine ⟨[.assign (.lto .full)], ?_⟩
    rw [List.forall_mem_cons, List.forall_mem_singleton]
    exact ⟨.flag bare rfl rfl, full⟩
  | level =>
    have bare : Spells ["-O" ++ ""] [.assign (.word .optLevel "1")] := spells_level rfl
    have first : Spells ["-O" ++ "1"] [.assign (.word .optLevel "1")] := spells_level rfl
    rw [String.append_empty] at bare
    refine ⟨[.assign (.word .optLevel "1")], ?_⟩
    rw [List.forall_mem_cons, List.forall_mem_singleton]
    exact ⟨bare, first⟩
  | linkerList value =>
    refine ⟨(linkerParts value).map .input, ?_⟩
    rw [List.forall_mem_cons, List.forall_mem_singleton]
    exact ⟨spells_linkerList value, spells_linkerParts value⟩

theorem outcome_parse_congr {argv others : List String}
    (same : standard.scan argv = standard.scan others) (cxx pieDefault : Bool) :
    (parse argv cxx pieDefault).outcome = (parse others cxx pieDefault).outcome := by
  apply Traced.outcome_eq_iff.mpr
  constructor
  · apply result_parse_congr
    · rw [same]
    · rw [argEdits, argEdits, same]
  · rw [diagnostics_parse, diagnostics_parse, same]

/-- Where an option can stand, one spelling may stand for another: the configuration or the fault,
and what is reported, stay the same. -/
theorem outcome_parse_synonyms {ways : List (List String)} (synonyms : Synonyms ways)
    {item other : List String} (one : item ∈ ways) (another : other ∈ ways) {before : List String}
    (place : standard.openAfter before = true) (behind : List String) (cxx pieDefault : Bool) :
    (parse (before ++ item ++ behind) cxx pieDefault).outcome =
      (parse (before ++ other ++ behind) cxx pieDefault).outcome := by
  obtain ⟨es, spelled⟩ := spells_synonyms synonyms
  apply outcome_parse_congr
  rw [Spells.scan_between place (spelled item one), Spells.scan_between place (spelled other another)]

theorem outcome_parse_synonyms_list :
    Synonyms [["-Wl," ++ ",a,,-o"], ["-Xlinker", "a", "-Xlinker", "-o"]] ∧
      standard.openAfter ["-o", "--"] = true ∧
      (parse (["-o", "--"] ++ ["-Wl," ++ ",a,,-o"] ++ ["-x", "-u"]) true false).outcome =
        (parse (["-o", "--"] ++ ["-Xlinker", "a", "-Xlinker", "-o"] ++ ["-x", "-u"]) true
          false).outcome := by
  have synonyms : Synonyms [["-Wl," ++ ",a,,-o"], ["-Xlinker", "a", "-Xlinker", "-o"]] :=
    .linkerList ",a,,-o"
  have place : standard.openAfter ["-o", "--"] = true := rfl
  exact ⟨synonyms, place,
    outcome_parse_synonyms synonyms (.head _) (.tail _ (.head _)) place ["-x", "-u"] true false⟩

end Config

end CrossDriver
