import CrossDriver.Proofs.CommandLine.Preparation
import CrossDriver.Proofs.DriverOption.Target

namespace CrossDriver.CommandLine
open Config

theorem triple_withTarget (settings : Settings) {argv : List String} {cxx pieDefault : Bool}
    {parsed : Config} (read : (parse argv cxx pieDefault).result = .ok parsed) :
    (withTarget settings parsed).triple =
      if (targets argv).getLast?.getD Triple.defaultText = Triple.defaultText then settings.triple
      else (targets argv).getLast? := by
  have named := triple_parse read
  unfold withTarget
  by_cases built_in : (targets argv).getLast?.getD Triple.defaultText = Triple.defaultText
  · rw [built_in] at named
    rw [if_pos built_in, named]
    by_cases same : settings.triple = some Triple.defaultText
    · rw [if_neg (by simp [same]), same, named]
    · rw [if_pos ⟨rfl, same⟩]
  · rw [if_neg built_in, named]
    cases last : (targets argv).getLast? with
    | none => simp [last] at built_in
    | some target =>
      rw [last, Option.getD_some] at named built_in
      rw [if_neg (by simp [built_in]), named]

/-- What there is a toolchain for, of the targets that a text can mean. -/
def served (text : String) : Except Fault Triple :=
  if (Triple.parse text).os = "kush" then .ok (Triple.parse text)
  else .error (.unsupportedTarget (Triple.parse text))

theorem served_of_prepare_eq {world : World} {r : Request} {settings : Settings}
    (loaded : (loadSettings world r).result = .ok settings) {parsed : Config}
    (read : (parse r.arguments r.cxx false).result = .ok parsed) {target : String}
    (settled : (withTarget settings parsed).triple = some target) :
    (prepare world r).result.map (·.2.triple) = served target := by
  rw [result_prepare, loaded]
  change ((parse r.arguments r.cxx false).result >>= _).map _ = _
  rw [read]
  change ((Toolchain.find (withTarget settings parsed) settings world.present).result >>= _).map _
    = _
  rw [Toolchain.result_find, Config.target, settled, served]
  by_cases known : (Triple.parse target).os = "kush" <;>
    simp [bind, Except.bind, pure, Except.pure, Except.map, known]

theorem served_of_prepare {world : World} {r : Request} {settings : Settings}
    (loaded : (loadSettings world r).result = .ok settings) {fallback : String}
    (given : settings.triple = some fallback) {parsed : Config}
    (read : (parse r.arguments r.cxx false).result = .ok parsed) :
    (∀ before target behind, LastNamesTarget r.arguments before target behind →
      (prepare world r).result.map (·.2.triple) =
        served (if target = Triple.defaultText then fallback else target)) ∧
    ((∀ before target behind, ¬NamesTarget r.arguments before target behind) →
      (prepare world r).result.map (·.2.triple) = served fallback) := by
  have settled := triple_withTarget settings read
  constructor
  · intro before target behind last
    rw [getLast?_targets last, Option.getD_some, given] at settled
    refine served_of_prepare_eq loaded read ?_
    rw [settled]
    split <;> rfl
  · intro none
    rw [targets_eq_nil_iff.mpr none, given] at settled
    exact served_of_prepare_eq loaded read settled

theorem lastNamesTarget_first (target : String) {behind : List String}
    (others : ∀ arg ∈ behind, arg ≠ "-target" ∧ ¬"--target=".toList <+: arg.toList) :
    LastNamesTarget ("-target" :: target :: behind) [] target behind := by
  refine ⟨.separate ⟨rfl, rfl⟩, fun before other rest names => ?_⟩
  have stands : ∃ arg after,
      OptionLookup.standard.StandsAt ("-target" :: target :: behind) before arg after ∧
        (arg = "-target" ∨ "--target=".toList <+: arg.toList) := by
    cases names with
    | joined stands => exact ⟨_, _, stands, .inr (by simp)⟩
    | separate stands => exact ⟨_, _, stands, .inl rfl⟩
  obtain ⟨arg, after, ⟨split, place⟩, shape⟩ := stands
  match before with
  | [] => exact Nat.le_refl 0
  | [first] =>
    obtain ⟨rfl, -⟩ := List.cons.inj split
    exact absurd place (by decide +kernel)
  | first :: value :: more =>
    obtain ⟨-, split⟩ := List.cons.inj split
    obtain ⟨-, split⟩ := List.cons.inj split
    have mem : arg ∈ behind := split ▸ List.mem_append_right more List.mem_cons_self
    obtain ⟨other, apart⟩ := others arg mem
    exact absurd shape (not_or.mpr ⟨other, apart⟩)

def targeting (target : String) : World where
  files := fun _ => .missing
  environment := [("KUSHTC_TRIPLE", target)]
  present := fun _ => false
  system := "Linux"

theorem served_of_prepare_arm :
    LastNamesTarget ["-target", "arm-kush", "a.o"] [] "arm-kush" ["a.o"] ∧
      (prepare (targeting "i686-unknown-kush")
        { arguments := ["-target", "arm-kush", "a.o"] }).result.map (·.2.triple) =
        .ok ⟨"arm", "unknown", "kush", ""⟩ := by
  have last : LastNamesTarget ["-target", "arm-kush", "a.o"] [] "arm-kush" ["a.o"] :=
    lastNamesTarget_first "arm-kush" (by decide +kernel)
  have loaded : (loadSettings (targeting "i686-unknown-kush")
      { arguments := ["-target", "arm-kush", "a.o"] }).result =
      .ok { triple := some "i686-unknown-kush" } := rfl
  have read : (parse ["-target", "arm-kush", "a.o"] false false).result =
      .ok { triple := some "arm-kush", inputs := ["a.o"] } := rfl
  have works := (served_of_prepare loaded rfl read).1 [] "arm-kush" ["a.o"] last
  rw [if_neg (by decide)] at works
  exact ⟨last, works.trans (by decide +kernel)⟩

/-- A default wins over a target that is named in the words of the built-in one. -/
theorem prepare_default_over_named :
    LastNamesTarget ["-target", "x86_64-unknown-kush", "a.o"] [] "x86_64-unknown-kush" ["a.o"] ∧
      (prepare (targeting "i686-unknown-kush")
        { arguments := ["-target", "x86_64-unknown-kush", "a.o"] }).result.map (·.2.triple) =
        .ok ⟨"i686", "unknown", "kush", ""⟩ ∧
      (prepare (targeting "i686-unknown-kush")
        { arguments := ["-target", "x86_64-unknown-kush", "a.o"] }).result.map (·.2.triple) ≠
        served "x86_64-unknown-kush" := by
  have settles : (prepare (targeting "i686-unknown-kush")
      { arguments := ["-target", "x86_64-unknown-kush", "a.o"] }).result.map (·.2.triple) =
      .ok ⟨"i686", "unknown", "kush", ""⟩ := by
    rfl
  refine ⟨lastNamesTarget_first "x86_64-unknown-kush" (by decide +kernel), settles, ?_⟩
  rw [settles]
  decide +kernel

end CrossDriver.CommandLine
