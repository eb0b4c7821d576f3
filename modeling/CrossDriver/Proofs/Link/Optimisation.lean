import CrossDriver.Proofs.Link.Executable
import CrossDriver.Proofs.Path.LastName
import CrossDriver.Proofs.Path.Written
import CrossDriver.Proofs.Toolchain.Directories

namespace CrossDriver

/-! ## Last names -/

theorem SearchPaths.name_candidate (directory : String) {program : String}
    (named : (Path.ofString program).name ≠ "") :
    (Path.ofString (candidate directory program)).name = (Path.ofString program).name := by
  have clean := Path.clean_join (Path.clean_ofString directory) program
  rw [candidate, Path.ofString_text clean, Path.name_join _ named]

namespace LinkRule

theorem isLld_iff (linker : String) :
    isLld linker = true ↔ (Path.ofString linker).name = "lld" ∨
      "ld.lld".toList <+: (Path.ofString linker).name.toList := by
  have start : (Text.dropStart? "ld.lld".toList (Path.ofString linker).name.toList).isSome ↔
      "ld.lld".toList <+: (Path.ofString linker).name.toList := by
    rw [Option.isSome_iff_exists]
    simp only [Text.dropStart?_eq_some_iff]
    exact exists_congr fun rest => eq_comm
  rw [isLld, Bool.or_eq_true, decide_eq_true_eq, start]

/-! ## Levels -/

theorem ltoLevel_mem (level : Option String) : ltoLevel level ∈ ["0", "1", "2", "3"] := by
  cases level with
  | none => decide
  | some level =>
    rw [ltoLevel]
    split
    · next listed => simpa using listed
    · split <;> decide

theorem repr_ne_singleton (n : Nat) {c : Char} (text : c.isDigit = false) :
    n.repr ≠ String.singleton c := by
  intro same
  have mem : c ∈ Nat.toDigits 10 n := by
    rw [← Nat.toList_repr, same, String.toList_singleton]
    exact List.mem_singleton_self c
  have digit : c.isDigit = true := Nat.isDigit_of_mem_toDigits (by decide) (by decide) mem
  exact Bool.false_ne_true (text.symm.trans digit)

theorem ltoLevel_repr (n : Nat) : ltoLevel (some n.repr) = (min n 3).repr := by
  by_cases low : n ≤ 3
  · have levels : n = 0 ∨ n = 1 ∨ n = 2 ∨ n = 3 := by omega
    rcases levels with rfl | rfl | rfl | rfl <;> decide +kernel
  · have other {k : Nat} (listed : k ≤ 3) : n.repr ≠ k.repr := by
      intro same
      have digits : Nat.toDigits 10 n = Nat.toDigits 10 k := by
        rw [← Nat.toList_repr, same, Nat.toList_repr]
      have value (m : Nat) : Nat.ofDigitChars 10 (Nat.toDigits 10 m) 0 = m :=
        Nat.ofDigitChars_toDigits (by decide) (by decide)
      have equal : n = k := (value n).symm.trans (digits ▸ value k)
      exact low (equal ▸ listed)
    have number : ¬(n.repr = "0" ∨ n.repr = "1" ∨ n.repr = "2" ∨ n.repr = "3") := by
      rintro (same | same | same | same)
      · exact other (k := 0) (by decide) same
      · exact other (k := 1) (by decide) same
      · exact other (k := 2) (by decide) same
      · exact other (k := 3) (by decide) same
    have letter : ¬(n.repr = "s" ∨ n.repr = "z" ∨ n.repr = "g") := by
      rintro (same | same | same)
      · exact repr_ne_singleton n (c := 's') (by decide) same
      · exact repr_ne_singleton n (c := 'z') (by decide) same
      · exact repr_ne_singleton n (c := 'g') (by decide) same
    have highest : min n 3 = 3 := by omega
    rw [ltoLevel, if_neg number, if_neg letter, highest]
    rfl

def thinOptions (c : Config) : List String :=
  if c.lto = .thin then
    "-plugin-opt=thinlto" ::
      ((Settings.nonEmpty? c.ltoJobs).map ("-plugin-opt=jobs=" ++ ·)).toList
  else []

theorem ltoOptions_eq_cons (c : Config) :
    ltoOptions c = ("-plugin-opt=O" ++ ltoLevel c.optLevel) :: thinOptions c := by
  rw [ltoOptions, thinOptions]
  cases Settings.nonEmpty? c.ltoJobs <;> rfl

end LinkRule

namespace Toolchain
open LinkRule

/-! ## Linkers as they were found -/

theorem isLld_of_findLinker {t : Toolchain} {c : Config} {linker : String} {found : ProgramSearch}
    (requested : t.requestedLinker c = some linker) (named : (Path.ofString linker).name ≠ "")
    (search : t.findLinker c = .ok found) : isLld found.path = isLld linker := by
  obtain ⟨asked, same, place⟩ := path_of_findLinker search
  cases requested.symm.trans same
  have final : (Path.ofString found.path).name = (Path.ofString linker).name := by
    rcases place with bare | ⟨directory, -, below⟩
    · rw [bare]
    · rw [below, SearchPaths.name_candidate directory named]
  rw [isLld, isLld, final]

theorem plugin_eq_nil_iff {ctx : LinkContext} {plugin : List String}
    (given : pluginTokens ctx = .ok plugin) : plugin = [] ↔ isLld ctx.linker = true := by
  rw [pluginTokens] at given
  split at given
  · next lld =>
    cases given
    exact iff_of_true rfl lld
  · next foreign =>
    obtain ⟨base, -, made⟩ := exists_of_bind_ok given
    cases made
    exact iff_of_false (List.cons_ne_nil _ _) foreign

/-! ## Links -/

def tokensBefore (t : Toolchain) (c : Config) : List String :=
  frontTokens c ++ ["-o", c.output] ++ startSection c (t.relocated c) ++ searchTokens c ++
    directoryTokens (t.relocated c)

def optimisation (t : Toolchain) (c : Config) : Except Fault (List String) := do
  let found ← (t.relocated c).findLinker c
  (contribution (t.linkContext c found) .lto).result

theorem exists_of_optimised_link {t : Toolchain} {c : Config} {command : LinkCommand}
    (optimises : c.lto ≠ .none) (linked : (t.link c).result = .ok command) :
    ∃ found plugin libraries, (t.relocated c).findLinker c = .ok found ∧
      pluginTokens (t.linkContext c found) = .ok plugin ∧
      t.optimisation c = .ok (plugin ++ ltoOptions c) ∧
      command = ⟨found.path,
        t.tokensBefore c ++ (plugin ++ ltoOptions c) ++ c.inputs ++ libraries⟩ := by
  obtain ⟨found, optimised, libraries, search, given, -, rfl⟩ := exists_of_link linked
  have uses : (t.linkContext c found).config.usesLto = true := decide_eq_true optimises
  have whole : t.optimisation c = .ok optimised := by
    rw [optimisation, search]
    exact given
  rw [result_contribution_lto, if_pos uses] at given
  obtain ⟨plugin, made, rfl⟩ := exists_of_map_eq_ok given
  exact ⟨found, plugin, libraries, search, made, whole, rfl⟩

theorem plain_of_link {t : Toolchain} {c : Config} {command : LinkCommand} (plain : c.lto = .none)
    (linked : (t.link c).result = .ok command) :
    ∃ libraries, t.optimisation c = .ok [] ∧
      command.args = t.tokensBefore c ++ [] ++ c.inputs ++ libraries := by
  obtain ⟨found, optimised, libraries, search, given, -, rfl⟩ := exists_of_link linked
  have unused : (t.linkContext c found).config.usesLto = false :=
    decide_eq_false (not_not_intro plain)
  have none : (contribution (t.linkContext c found) .lto).result = .ok [] :=
    result_contribution_lto_of_plain unused
  cases given.symm.trans none
  refine ⟨libraries, ?_, rfl⟩
  rw [optimisation, search]
  exact none

/-- The options for optimisation stand between the directories and the inputs of a link command:
behind a pair for a plugin one option for the level, one of four whatever level was asked for, and
those of the thin mode. A linker is given the pair unless its last name is that of `lld`, wherever
it was found. -/
theorem link_optimisation {t : Toolchain} {c : Config} {command : LinkCommand}
    (linked : (t.link c).result = .ok command) :
    ∃ plugin options libraries, t.optimisation c = .ok (plugin ++ options) ∧
      command.args = t.tokensBefore c ++ (plugin ++ options) ++ c.inputs ++ libraries ∧
      (c.lto = .none → plugin = [] ∧ options = []) ∧
      (c.lto ≠ .none →
        (plugin = [] ∨ ∃ path, plugin = ["-plugin", path]) ∧
        (∃ level ∈ ["0", "1", "2", "3"],
          options = ("-plugin-opt=O" ++ level) :: thinOptions c ∧
            ∀ n : Nat, c.optLevel = some (toString n) → level = toString (min n 3)) ∧
        ∀ linker, t.requestedLinker c = some linker → (Path.ofString linker).name ≠ "" →
          (plugin = [] ↔ (Path.ofString linker).name = "lld" ∨
            "ld.lld".toList <+: (Path.ofString linker).name.toList) ∧
          ∀ (other : Toolchain) (made : LinkCommand),
            other.settings.linker = t.settings.linker → (other.link c).result = .ok made →
            ∃ pair further, other.optimisation c = .ok (pair ++ options) ∧
              made.args = other.tokensBefore c ++ (pair ++ options) ++ c.inputs ++ further ∧
              (pair = [] ∨ ∃ path, pair = ["-plugin", path]) ∧ (pair = [] ↔ plugin = [])) := by
  by_cases plain : c.lto = .none
  · obtain ⟨libraries, none, args⟩ := plain_of_link plain linked
    exact ⟨[], [], libraries, none, args, fun _ => ⟨rfl, rfl⟩, fun uses => absurd plain uses⟩
  · obtain ⟨found, plugin, libraries, search, given, whole, rfl⟩ :=
      exists_of_optimised_link plain linked
    refine ⟨plugin, ltoOptions c, libraries, whole, rfl, fun none => absurd none plain,
      fun _ => ⟨plugin_shape given, ?_, fun linker requested named => ?_⟩⟩
    · refine ⟨ltoLevel c.optLevel, ltoLevel_mem _, ltoOptions_eq_cons c, fun n level => ?_⟩
      rw [level]
      exact ltoLevel_repr n
    · have own : plugin = [] ↔ isLld linker = true := by
        rw [plugin_eq_nil_iff given, linkContext,
          isLld_of_findLinker (t := t.relocated c) requested named search]
      refine ⟨own.trans (isLld_iff linker), fun other made same built => ?_⟩
      obtain ⟨also, pair, further, again, loaded, rest, rfl⟩ :=
        exists_of_optimised_link plain built
      have requested : (other.relocated c).requestedLinker c = some linker := by
        rw [← requested, requestedLinker, requestedLinker]
        simp only [relocated, same]
      refine ⟨pair, further, rest, rfl, plugin_shape loaded, ?_⟩
      rw [own, plugin_eq_nil_iff loaded, linkContext, isLld_of_findLinker requested named again]

theorem link_optimisation_gold :
    let c : Config :=
      { lto := .thin, ltoJobs := some "4", optLevel := some "12", fuseLd := some "lld/./gold"
        inputs := ["a.o"] }
    let t : Toolchain := ⟨{}, ⟨"x86_64", "unknown", "kush", ""⟩, "", fun _ => false, 0⟩
    let other : Toolchain :=
      { t with settings.installDir := some "/opt/lld", present := fun _ => true }
    ∃ command made, (t.link c).result = .ok command ∧ (other.link c).result = .ok made ∧
      ∃ path away libraries further,
        command.args = t.tokensBefore c ++ (["-plugin", path] ++ ["-plugin-opt=O3",
          "-plugin-opt=thinlto", "-plugin-opt=jobs=4"]) ++ ["a.o"] ++ libraries ∧
        made.args = other.tokensBefore c ++ (["-plugin", away] ++ ["-plugin-opt=O3",
          "-plugin-opt=thinlto", "-plugin-opt=jobs=4"]) ++ ["a.o"] ++ further := by
  intro c t other
  have worth : ¬c.OptimisesNothing := fun vain => List.cons_ne_nil _ _ vain.2
  have accepts : ¬c.AsksForLibstdcxx := fun asks => Bool.false_ne_true asks.1.1
  obtain ⟨command, linked⟩ := (link_ok_iff (t := t) ⟨rfl, rfl, rfl⟩ c).mpr ⟨worth, accepts⟩
  obtain ⟨made, built⟩ := (link_ok_iff (t := other) ⟨rfl, rfl, rfl⟩ c).mpr ⟨worth, accepts⟩
  obtain ⟨plugin, options, libraries, -, args, -, uses⟩ := link_optimisation linked
  obtain ⟨shape, ⟨level, -, rfl, highest⟩, elsewhere⟩ := uses (by decide)
  obtain ⟨own, alike⟩ := elsewhere "lld/./gold" rfl (by decide +kernel)
  obtain ⟨pair, further, -, tokens, form, same⟩ := alike other made rfl built
  have foreign : plugin ≠ [] := mt own.mp (by decide +kernel)
  obtain ⟨path, rfl⟩ := shape.resolve_left foreign
  obtain ⟨away, rfl⟩ := form.resolve_left (mt same.mp foreign)
  obtain rfl : level = "3" := highest 12 rfl
  exact ⟨command, made, linked, built, path, away, libraries, further, args, tokens⟩

end Toolchain

end CrossDriver
