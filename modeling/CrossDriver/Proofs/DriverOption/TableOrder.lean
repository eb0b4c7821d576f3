import CrossDriver.Proofs.DriverOption.Unambiguous
import CrossDriver.Proofs.Traced
import Mathlib.Data.List.Pairwise

namespace CrossDriver

namespace DriverOption

variable {options others : List DriverOption}

/-- No argument is recognised by two entries of the table. -/
def Unambiguous (options : List DriverOption) : Prop :=
  ∀ arg, options.Pairwise fun o p => ¬(o.Recognises arg ∧ p.Recognises arg)

theorem Unambiguous.of_perm (unambiguous : Unambiguous options) (perm : options.Perm others) :
    Unambiguous others :=
  fun arg => (perm.pairwise_iff fun apart both => apart both.symm).mp (unambiguous arg)

theorem Unambiguous.eq_of_recognises (unambiguous : Unambiguous options) {o p : DriverOption}
    (memo : o ∈ options) (memp : p ∈ options) {arg : String} (first : o.Recognises arg)
    (second : p.Recognises arg) : o = p := by
  by_contra differ
  have : Std.Symm fun o p : DriverOption => ¬(o.Recognises arg ∧ p.Recognises arg) :=
    ⟨fun _ _ apart both => apart both.symm⟩
  exact (unambiguous arg).forall memo memp differ ⟨first, second⟩

theorem Unambiguous.lookUp?_eq_some_iff (unambiguous : Unambiguous options) {arg : String}
    {o : DriverOption} : lookUp? options arg = some o ↔ o ∈ options ∧ o.Recognises arg := by
  constructor
  · exact recognises_of_lookUp?
  · rintro ⟨mem, known⟩
    cases found : lookUp? options arg with
    | none => exact absurd known (lookUp?_eq_none_iff.mp found o mem)
    | some p =>
      obtain ⟨memp, also⟩ := recognises_of_lookUp? found
      rw [unambiguous.eq_of_recognises mem memp known also]

theorem Unambiguous.lookUp?_perm (unambiguous : Unambiguous options)
    (perm : options.Perm others) (arg : String) :
    lookUp? options arg = lookUp? others arg := by
  apply Option.ext
  intro o
  rw [unambiguous.lookUp?_eq_some_iff, (unambiguous.of_perm perm).lookUp?_eq_some_iff,
    perm.mem_iff]

theorem unambiguous_table : Unambiguous table := by
  intro arg
  have distinct := List.pairwise_map.mp spellings_nodup
  refine distinct.imp_of_mem fun memo memp differ both => differ ?_
  rw [eq_of_recognises memo memp both.1 both.2]

-- An option that begins like one that carries its value along makes the table ambiguous.
example : ¬Unambiguous (switchOn "-Og" .debug :: table) := by
  intro unambiguous
  have level : ⟨"-O", .joined, .optLevel⟩ ∈ table := by decide +kernel
  have apart := (List.pairwise_cons.mp (unambiguous "-Og")).1 _ level
  exact apart ⟨rfl, leads_iff.mp rfl⟩

end DriverOption

namespace OptionLookup
open DriverOption

theorem scan_congr {l m : OptionLookup} (same : ∀ arg, l.matchArg arg = m.matchArg arg)
    (argv : List String) : l.scan argv = m.scan argv := by
  fun_induction scan l argv with
  | case1 => rfl
  | case2 rest => rw [scan_terminator]
  | case3 arg rest further o value matched ih =>
    rw [scan, if_neg further, ← same, matched, ih]
  | case4 arg further o matched =>
    rw [scan, if_neg further, ← same, matched]
  | case5 arg further o matched value rest ih =>
    rw [scan, if_neg further, ← same, matched, ih]
  | case6 arg rest further matched ih =>
    rw [scan, if_neg further, ← same, matched, ih]
  | case7 arg rest further matched ih =>
    rw [scan, if_neg further, ← same, matched, ih]

theorem scan_ofTable_perm {options others : List DriverOption}
    (unambiguous : Unambiguous options) (perm : options.Perm others) (argv : List String) :
    (ofTable options).scan argv = (ofTable others).scan argv := by
  apply scan_congr
  intro arg
  rw [matchArg_ofTable, matchArg_ofTable, unambiguous.lookUp?_perm perm]

end OptionLookup

namespace Config
open DriverOption OptionLookup

/-- No argument is recognised by two options of the driver. With the options in any other order each
argument leads to the same one, and parsing comes to the same configuration or the same fault, with
the same events, reports included. -/
theorem parse_reordered :
    Unambiguous table ∧
      ∀ options : List DriverOption, options.Perm table →
        (∀ arg, lookUp? options arg = lookUp? table arg) ∧
          ∀ (argv : List String) (cxx pieDefault : Bool),
            parseWith (.ofTable options) argv cxx pieDefault = parse argv cxx pieDefault := by
  refine ⟨unambiguous_table, fun options perm => ?_⟩
  have unambiguous := unambiguous_table.of_perm perm.symm
  constructor
  · exact unambiguous.lookUp?_perm perm
  · intro argv cxx pieDefault
    rw [parse, standard, parseWith, parseWith, scan_ofTable_perm unambiguous perm]

theorem parse_reordered_reverse :
    table.reverse.Perm table ∧
      lookUp? table.reverse "-flto-jobs=2" = some ⟨"-flto-jobs=", .joined, .word .ltoJobs⟩ ∧
      (parseWith (.ofTable table.reverse) ["-flto-jobs=2", "-flto=fat", "-static-libstdc++", "-Og",
        "--sysroot", "--", "-shared-lib", "-lto=x", "-o", "-o", "--", "-s"] true false).outcome =
        (.ok { cxx := true, ltoJobs := some "2", staticCxxStdlib := true, optLevel := some "g",
               sysroot := "--", output := "-o", inputs := ["-lto=x", "-s"] },
          [⟨.error, "unsupported argument 'fat' to option '-flto='"⟩,
            ⟨.warning, "argument unused during compilation: '-shared-lib'"⟩]) := by
  have perm : table.reverse.Perm table := List.reverse_perm table
  obtain ⟨looked, parsed⟩ := parse_reordered.2 table.reverse perm
  refine ⟨perm, ?_, ?_⟩
  · rw [looked, unambiguous_table.lookUp?_eq_some_iff]
    exact ⟨by decide +kernel, leads_iff.mp rfl⟩
  · rw [parsed]
    rfl

end Config

end CrossDriver
