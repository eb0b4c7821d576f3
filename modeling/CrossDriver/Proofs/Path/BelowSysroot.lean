import CrossDriver.Proofs.Path.Written
import CrossDriver.SearchPaths

namespace CrossDriver

theorem underSysroot_of_ne {sysroot : String} (ne : sysroot ≠ "") (parts : List String) :
    underSysroot sysroot parts = (Path.ofParts sysroot parts).text :=
  if_neg ne

theorem underSysroot_eq_empty_iff {sysroot : String} {parts : List String} :
    underSysroot sysroot parts = "" ↔ sysroot = "" := by
  by_cases empty : sysroot = ""
  · simp only [empty, underSysroot_empty]
  · have written : (Path.ofParts sysroot parts).text ≠ "" :=
      Path.text_ne_empty (Path.clean_ofParts sysroot parts)
    simp only [underSysroot_of_ne empty, written, empty]

theorem ofString_underSysroot {sysroot : String} (ne : sysroot ≠ "") (parts : List String) :
    Path.ofString (underSysroot sysroot parts) = Path.ofParts sysroot parts := by
  rw [underSysroot_of_ne ne, Path.ofString_text (Path.clean_ofParts sysroot parts)]

theorem underSysroot_append (sysroot : String) (parts more : List String) :
    underSysroot (underSysroot sysroot parts) more = underSysroot sysroot (parts ++ more) := by
  by_cases empty : sysroot = ""
  · subst empty
    rfl
  · have below : underSysroot sysroot parts ≠ "" := mt underSysroot_eq_empty_iff.mp empty
    calc underSysroot (underSysroot sysroot parts) more
        = (Path.ofParts (underSysroot sysroot parts) more).text := underSysroot_of_ne below more
      _ = (more.foldl Path.join (Path.ofParts sysroot parts)).text := by
        rw [Path.ofParts, ofString_underSysroot empty]
      _ = underSysroot sysroot (parts ++ more) := by
        rw [underSysroot_of_ne empty, Path.ofParts, Path.ofParts, List.foldl_append]

theorem SearchPaths.file_resolve (installDir driverDir : Option String) (sysroot name : String) :
    (resolve installDir driverDir sysroot).file name =
      if sysroot = "" then name else underSysroot sysroot (systemLibraries ++ [name]) := by
  by_cases empty : sysroot = ""
  · simp only [file, resolve, if_pos empty]
  · have below : underSysroot sysroot systemLibraries ≠ "" := mt underSysroot_eq_empty_iff.mp empty
    rw [if_neg empty, ← underSysroot_append, underSysroot_of_ne below]
    simp only [file, resolve, if_neg empty]
    rfl

/-- Steps below a sysroot may be taken at once or one after the other; without a sysroot there are
none. Unless a part starts anew, its names come behind those of the sysroot, and files are looked
for with such steps. -/
theorem underSysroot_composes (sysroot : String) (parts more : List String) :
    underSysroot (underSysroot sysroot parts) more = underSysroot sysroot (parts ++ more) ∧
    (underSysroot sysroot parts = "" ↔ sysroot = "") ∧
    (sysroot ≠ "" →
      ((∀ part ∈ parts, Path.isAbsolute part = false) →
        Path.ofString (underSysroot sysroot parts) =
          ⟨(Path.ofString sysroot).start,
            (Path.ofString sysroot).names ++
              parts.flatMap fun part => (Path.ofString part).names⟩) ∧
      ∀ installDir driverDir name,
        (SearchPaths.resolve installDir driverDir sysroot).file name =
          underSysroot sysroot ["System", "Libraries", name]) := by
  refine ⟨underSysroot_append sysroot parts more, underSysroot_eq_empty_iff, fun ne => ⟨?_, ?_⟩⟩
  · intro relative
    rw [ofString_underSysroot ne, Path.ofParts, Path.foldl_join_of_relative _ relative]
  · intro installDir driverDir name
    rw [SearchPaths.file_resolve, if_neg ne]
    rfl

theorem underSysroot_composes_odd_parts :
    let sysroot := "//sdk/./"
    let parts := ["a//b/", "", ".", "../c"]
    let more := ["x", "///y", "z"]
    underSysroot sysroot parts = "//sdk/a/b/../c" ∧
      underSysroot (underSysroot sysroot parts) more = underSysroot sysroot (parts ++ more) ∧
      underSysroot sysroot (parts ++ more) = "/y/z" ∧
      Path.ofString (underSysroot sysroot parts) = ⟨.doubleRoot, ["sdk", "a", "b", "..", "c"]⟩ ∧
      (SearchPaths.resolve none none sysroot).file "/crt0.o" = "/crt0.o" := by
  intro sysroot parts more
  obtain ⟨steps, -, lead⟩ := underSysroot_composes sysroot parts more
  obtain ⟨below, files⟩ := lead (by decide)
  refine ⟨by decide +kernel, steps, by decide +kernel, ?_, ?_⟩
  · exact (below (by decide)).trans (by decide)
  · exact (files none none "/crt0.o").trans (by decide +kernel)

/-- Without a sysroot the names of the parts are not kept. -/
theorem ofString_underSysroot_of_empty :
    Path.isAbsolute "a" = false ∧
      Path.ofString (underSysroot "" ["a"]) ≠
        ⟨(Path.ofString "").start,
          (Path.ofString "").names ++ ["a"].flatMap fun part => (Path.ofString part).names⟩ := by
  decide

end CrossDriver
