import CrossDriver.Proofs.Link.Optimisation
import CrossDriver.Proofs.Path.Beside

namespace CrossDriver
open CrossDriver.Path

theorem Settings.resourceDirectory_eq {s : Settings} {dir version : String}
    (installed : s.installDir = some dir) (known : s.clangVersion = some version)
    (unset : nonEmpty? s.resourceDir = none) :
    s.resourceDirectory = .ok (inParent dir ["lib", "clang", version]).text := by
  rw [resourceDirectory, unset, besideInstallation, installed, known]
  rfl

namespace Toolchain
open LinkRule

theorem pluginTokens_eq {ctx : LinkContext} {dir : String}
    (installed : ctx.toolchain.settings.installDir = some dir)
    (foreign : isLld ctx.linker = false) :
    pluginTokens ctx = .ok ["-plugin", (inParent dir ["lib", "LLVMgold.so"]).text] := by
  rw [pluginTokens, if_neg (ne_true_of_eq_false foreign), Settings.besideInstallation, installed]
  rfl

/-- The default directories are those in the parent of the installation. They are where a step up
from it leads exactly if it ends in a name, or if there is nothing above its parent. In writing the
step up stands behind the directory; a slash behind a bare start would be part of another one. -/
theorem default_directories {s : Settings} {dir : String} (installed : s.installDir = some dir) :
    (∀ version, s.clangVersion = some version → Ordinary version →
      Settings.nonEmpty? s.resourceDir = none →
      ∃ resources, s.resourceDirectory = .ok resources ∧
        (SamePlace (ofString resources) (beside dir ["lib", "clang", version]) ↔
          (ofString dir).EndsInName ∨ (ofString dir).parent.LeadsToRoot)) ∧
    (∀ (t : Toolchain) (c : Config) (command : LinkCommand), t.settings = s → c.lto ≠ .none →
      (t.link c).result = .ok command → isLld command.executable = false →
      ∃ plugin libraries,
        command.args = t.tokensBefore c ++ (["-plugin", plugin] ++ ltoOptions c) ++ c.inputs ++
          libraries ∧
        (SamePlace (ofString plugin) (beside dir ["lib", "LLVMgold.so"]) ↔
          (ofString dir).EndsInName ∨ (ofString dir).parent.LeadsToRoot)) ∧
    (dir ∉ ["", "/", "//"] →
      beside dir ["lib", "LLVMgold.so"] = ofString (dir ++ "/../lib/LLVMgold.so") ∧
      ∀ version, Ordinary version →
        beside dir ["lib", "clang", version] = ofString (dir ++ "/../lib/clang/" ++ version)) := by
  have library : ∀ name ∈ ["lib", "LLVMgold.so"], Ordinary name := by decide
  have resources {version : String} (ordinary : Ordinary version) :
      ∀ name ∈ ["lib", "clang", version], Ordinary name := by
    have names : Ordinary "lib" ∧ Ordinary "clang" := by decide
    simp [names, ordinary]
  refine ⟨fun version known ordinary unset => ?_,
    fun t c command same optimises linked foreign => ?_, fun named => ⟨?_, fun version own => ?_⟩⟩
  · refine ⟨_, Settings.resourceDirectory_eq installed known unset, ?_⟩
    rw [ofString_text_inParent, samePlace_beside_iff dir (resources ordinary)]
  · obtain ⟨found, plugin, libraries, -, given, -, rfl⟩ := exists_of_optimised_link optimises linked
    have settings : (t.linkContext c found).toolchain.settings.installDir = some dir := by
      rw [← installed, ← same]
      rfl
    cases given.symm.trans (pluginTokens_eq settings foreign)
    refine ⟨_, libraries, rfl, ?_⟩
    rw [ofString_text_inParent, samePlace_beside_iff dir library]
  · rw [beside_eq_ofString named library, String.append_assoc]
    rfl
  · rw [beside_eq_ofString named (resources own)]
    congr 1
    rw [← String.toList_inj]
    simp [Text.join, Text.joined]

theorem default_directories_sdk :
    let s : Settings := { installDir := some "sdk/../bin/", linker := some "gold" }
    let t : Toolchain := ⟨s, ⟨"x86_64", "unknown", "kush", ""⟩, "", fun _ => false, 0⟩
    let c : Config := { lto := .full, inputs := ["a.o"] }
    (∃ resources, s.resourceDirectory = .ok resources ∧
      SamePlace (ofString resources) (ofString "sdk/../bin//../lib/clang/17")) ∧
    ∃ command plugin libraries, (t.link c).result = .ok command ∧
      command.args = t.tokensBefore c ++ (["-plugin", plugin] ++ ltoOptions c) ++ ["a.o"] ++
        libraries ∧
      SamePlace (ofString plugin) (ofString "sdk/../bin//../lib/LLVMgold.so") := by
  intro s t c
  have ends : (ofString "sdk/../bin/").EndsInName := ⟨"bin", by decide +kernel, by decide⟩
  obtain ⟨directories, plugins, written⟩ := default_directories (s := s) rfl
  obtain ⟨library, version⟩ := written (by decide)
  obtain ⟨resources, given, resources_place⟩ := directories "17" rfl (by decide) rfl
  rw [version "17" (by decide)] at resources_place
  refine ⟨⟨resources, given, resources_place.mpr (.inl ends)⟩, ?_⟩
  have worth : ¬c.OptimisesNothing := fun vain => List.cons_ne_nil _ _ vain.2
  have accepts : ¬c.AsksForLibstdcxx := fun asks => Bool.false_ne_true asks.1.1
  obtain ⟨command, linked⟩ := (link_ok_iff (t := t) ⟨rfl, rfl, rfl⟩ c).mpr ⟨worth, accepts⟩
  have foreign : isLld command.executable = false := by
    have requested : (t.relocated c).requestedLinker c = some "gold" := rfl
    obtain ⟨found, -, -, search, -, -, rfl⟩ := exists_of_link linked
    rw [isLld_of_findLinker requested (by decide +kernel) search]
    decide +kernel
  obtain ⟨plugin, libraries, args, plugin_place⟩ :=
    plugins t c command rfl (by decide) linked foreign
  rw [library] at plugin_place
  exact ⟨command, plugin, libraries, linked, args, plugin_place.mpr (.inl ends)⟩

/-- The directory where one stands has itself for its parent, and a step up that is written is lost
with the last name of a path. -/
theorem default_directories_of_no_name :
    let here : Settings := { installDir := some "." }
    let above : Settings := { installDir := some "/opt/kush/tools/.." }
    (here.resourceDirectory = .ok "lib/clang/17" ∧
      ¬SamePlace (ofString "lib/clang/17") (ofString "./../lib/clang/17")) ∧
    above.resourceDirectory = .ok "/opt/kush/tools/lib/clang/17" ∧
      ¬SamePlace (ofString "/opt/kush/tools/lib/clang/17")
        (ofString "/opt/kush/tools/../../lib/clang/17") := by
  intro here above
  refine ⟨⟨?_, by decide +kernel⟩, ?_, by decide +kernel⟩
  · rw [Settings.resourceDirectory_eq (s := here) rfl rfl rfl]
    exact congrArg Except.ok (by decide +kernel)
  · rw [Settings.resourceDirectory_eq (s := above) rfl rfl rfl]
    exact congrArg Except.ok (by decide +kernel)

end Toolchain

end CrossDriver
