import CrossDriver.Proofs.Link.Outcome
import Mathlib.Data.List.Forall2

namespace CrossDriver

theorem LinkRule.name_injective : Function.Injective LinkRule.name := by
  intro rule other same
  have named := LinkRule.ofName?_name rule
  rw [same, LinkRule.ofName?_name] at named
  exact (Option.some.inj named).symm

namespace Linker
open LinkRule

/-! ## Tokens -/

section
variable (ctx : LinkContext)

theorem result_tokens_append (first second : List LinkRule) :
    (tokens ctx (first ++ second)).result = do
      let before ← (tokens ctx first).result
      let behind ← (tokens ctx second).result
      return before ++ behind := by
  rw [tokens_append]
  simp only [Traced.result_bind]
  rfl

theorem diagnostics_tokens_append (first second : List LinkRule) :
    (tokens ctx (first ++ second)).diagnostics = (tokens ctx first).diagnostics ++
      match (tokens ctx first).result with
      | .ok _ => (tokens ctx second).diagnostics
      | .error _ => [] := by
  rw [tokens_append, Traced.diagnostics_bind]
  cases (tokens ctx first).result with
  | error fault => rfl
  | ok before =>
    dsimp only
    rw [Traced.diagnostics_bind]
    cases (tokens ctx second).result <;> simp

theorem tokens_cons_of_not_applies {rule : LinkRule} (idle : ¬rule.applies ctx.config = true)
    (rest : List LinkRule) : tokens ctx (rule :: rest) = tokens ctx rest := by
  rw [tokens, if_neg idle]

theorem result_tokens_eq_ok_iff (rules : List LinkRule) (args : List String) :
    (tokens ctx rules).result = .ok args ↔
      ∃ parts, List.Forall₂ (fun rule part => (tokens ctx [rule]).result = .ok part)
        (rules.filter (·.applies ctx.config)) parts ∧ args = parts.flatten := by
  induction rules generalizing args with
  | nil =>
    constructor
    · rintro ⟨⟩
      exact ⟨[], .nil, rfl⟩
    · rintro ⟨parts, none, rfl⟩
      cases none
      rfl
  | cons rule rest ih =>
    by_cases applies : rule.applies ctx.config = true
    · rw [List.filter_cons_of_pos applies]
      have cut := result_tokens_append ctx [rule] rest
      rw [List.singleton_append] at cut
      constructor
      · intro given
        rw [cut] at given
        obtain ⟨part, here, given⟩ := exists_of_bind_ok given
        obtain ⟨others, later, built⟩ := exists_of_bind_ok given
        cases built
        obtain ⟨parts, each, rfl⟩ := (ih others).mp later
        exact ⟨part :: parts, .cons here each, rfl⟩
      · rintro ⟨parts, each, rfl⟩
        obtain ⟨part, more, here, later, rfl⟩ := List.forall₂_cons_left_iff.mp each
        rw [cut, here, (ih more.flatten).mpr ⟨more, later, rfl⟩]
        rfl
    · rw [List.filter_cons_of_neg applies, tokens_cons_of_not_applies ctx applies]
      exact ih args

end

/-! ## Links -/

section
variable (t : Toolchain) (c : Config)

theorem command_cases :
    (∃ fault, ∀ rules, (command ⟨t, rules⟩ c).result = .error fault ∧
      (firedRules ⟨t, rules⟩ c).result = .error fault) ∨
    ∃ ctx : LinkContext, ∀ rules,
      (command ⟨t, rules⟩ c).result = (tokens ctx rules).result.map (⟨ctx.linker, ·⟩) ∧
      (command ⟨t, rules⟩ c).diagnostics = (tokens ctx rules).diagnostics ∧
      (firedRules ⟨t, rules⟩ c).result =
        .ok ((rules.filter (·.applies ctx.config)).map LinkRule.name) := by
  -- The context is had before any rule is looked at.
  cases given : (context { toolchain := t } c).result with
  | error fault =>
    refine .inl ⟨fault, fun rules => ?_⟩
    have fails : (context ⟨t, rules⟩ c).result = .error fault := given
    rw [result_command, result_firedRules, fails]
    exact ⟨rfl, rfl⟩
  | ok ctx =>
    refine .inr ⟨ctx, fun rules => ?_⟩
    have opens : (context ⟨t, rules⟩ c).result = .ok ctx := given
    rw [result_command, diagnostics_command, result_firedRules, opens]
    refine ⟨?_, rfl, rfl⟩
    change ((tokens ctx rules).result >>= _) = _
    cases (tokens ctx rules).result <;> rfl

theorem firedRules_append (first second : List LinkRule) :
    (∃ fault, (firedRules ⟨t, first⟩ c).result = .error fault ∧
      (firedRules ⟨t, second⟩ c).result = .error fault ∧
      (firedRules ⟨t, first ++ second⟩ c).result = .error fault) ∨
    ∃ names others, (firedRules ⟨t, first⟩ c).result = .ok names ∧
      (firedRules ⟨t, second⟩ c).result = .ok others ∧
      (firedRules ⟨t, first ++ second⟩ c).result = .ok (names ++ others) := by
  rcases command_cases t c with ⟨fault, fails⟩ | ⟨ctx, opens⟩
  · exact .inl ⟨fault, (fails first).2, (fails second).2, (fails _).2⟩
  · refine .inr ⟨_, _, (opens first).2.2, (opens second).2.2, ?_⟩
    rw [(opens _).2.2, List.filter_append, List.map_append]

variable {t} {c}

theorem command_append_of_ok {first second : List LinkRule} {before behind : LinkCommand}
    (leading : (command ⟨t, first⟩ c).result = .ok before)
    (following : (command ⟨t, second⟩ c).result = .ok behind) :
    before.executable = behind.executable ∧
      (command ⟨t, first ++ second⟩ c).result =
        .ok ⟨before.executable, before.args ++ behind.args⟩ ∧
      (command ⟨t, first ++ second⟩ c).diagnostics =
        (command ⟨t, first⟩ c).diagnostics ++ (command ⟨t, second⟩ c).diagnostics := by
  rcases command_cases t c with ⟨fault, fails⟩ | ⟨ctx, opens⟩
  · cases (fails first).1.symm.trans leading
  · obtain ⟨args, tokens, rfl⟩ := exists_of_map_eq_ok ((opens first).1.symm.trans leading)
    obtain ⟨others, more, rfl⟩ := exists_of_map_eq_ok ((opens second).1.symm.trans following)
    obtain ⟨links, reports, -⟩ := opens (first ++ second)
    refine ⟨rfl, ?_, ?_⟩
    · rw [links, result_tokens_append, tokens, more]
      rfl
    · rw [reports, diagnostics_tokens_append, tokens, (opens first).2.1, (opens second).2.1]

variable (t) (c)

theorem command_append_error_iff (first second : List LinkRule) :
    (∃ fault, (command ⟨t, first ++ second⟩ c).result = .error fault) ↔
      (∃ fault, (command ⟨t, first⟩ c).result = .error fault) ∨
        ∃ fault, (command ⟨t, second⟩ c).result = .error fault := by
  rcases command_cases t c with ⟨fault, fails⟩ | ⟨ctx, opens⟩
  · exact iff_of_true ⟨fault, (fails _).1⟩ (.inl ⟨fault, (fails first).1⟩)
  · rw [(opens _).1, (opens first).1, (opens second).1, result_tokens_append]
    cases (tokens ctx first).result with
    | error fault => exact iff_of_true ⟨fault, rfl⟩ (.inl ⟨fault, rfl⟩)
    | ok before =>
      cases (tokens ctx second).result with
      | error fault => exact iff_of_true ⟨fault, rfl⟩ (.inr ⟨fault, rfl⟩)
      | ok behind => simp [bind, Except.bind, pure, Except.pure, Except.map]

/-- The names of the rules that apply are enough to put a command together from links by single
rules. -/
theorem command_eq_ok_iff (rules : List LinkRule) (made : LinkCommand) :
    (command ⟨t, rules⟩ c).result = .ok made ↔
      ∃ fired parts, (firedRules ⟨t, rules⟩ c).result = .ok (fired.map LinkRule.name) ∧
        (command ⟨t, []⟩ c).result = .ok ⟨made.executable, []⟩ ∧
        List.Forall₂ (fun rule part =>
          (command ⟨t, [rule]⟩ c).result = .ok ⟨made.executable, part⟩) fired parts ∧
        made.args = parts.flatten := by
  rcases command_cases t c with ⟨fault, fails⟩ | ⟨ctx, opens⟩
  · rw [(fails rules).1, (fails rules).2]
    constructor
    · rintro ⟨⟩
    · rintro ⟨_, _, ⟨⟩, -⟩
  · rw [(opens rules).1, (opens rules).2.2, (opens []).1]
    constructor
    · intro given
      obtain ⟨args, built, rfl⟩ := exists_of_map_eq_ok given
      obtain ⟨parts, each, rfl⟩ := (result_tokens_eq_ok_iff ctx rules args).mp built
      refine ⟨_, parts, rfl, rfl, each.imp fun rule part own => ?_, rfl⟩
      rw [(opens [rule]).1, own]
      rfl
    · obtain ⟨executable, args⟩ := made
      rintro ⟨fired, parts, named, ⟨⟩, each, rfl⟩
      obtain rfl := LinkRule.name_injective.list_map (Except.ok.inj named)
      have built : (tokens ctx rules).result = .ok parts.flatten := by
        refine (result_tokens_eq_ok_iff ctx rules _).mpr ⟨parts, each.imp ?_, rfl⟩
        intro rule part link
        obtain ⟨own, single, ⟨⟩⟩ := exists_of_map_eq_ok ((opens [rule]).1.symm.trans link)
        exact single
      rw [built]
      rfl

/-- Two tables of rules one behind the other. The rules that apply, the tokens and the reports are
those of the first table and then those of the second, for one and the same program, and a link
fails where one of the two does. So a command is put together from the commands of single rules, of
just those that are named as applying. -/
theorem outcome_joined_rules (first second : List LinkRule) :
    ((∃ fault, (firedRules ⟨t, first⟩ c).result = .error fault ∧
        (firedRules ⟨t, second⟩ c).result = .error fault ∧
        (firedRules ⟨t, first ++ second⟩ c).result = .error fault) ∨
      ∃ names others, (firedRules ⟨t, first⟩ c).result = .ok names ∧
        (firedRules ⟨t, second⟩ c).result = .ok others ∧
        (firedRules ⟨t, first ++ second⟩ c).result = .ok (names ++ others)) ∧
    (∀ before behind, (command ⟨t, first⟩ c).result = .ok before →
      (command ⟨t, second⟩ c).result = .ok behind →
      before.executable = behind.executable ∧
      (command ⟨t, first ++ second⟩ c).result =
        .ok ⟨before.executable, before.args ++ behind.args⟩ ∧
      (command ⟨t, first ++ second⟩ c).diagnostics =
        (command ⟨t, first⟩ c).diagnostics ++ (command ⟨t, second⟩ c).diagnostics) ∧
    ((∃ fault, (command ⟨t, first ++ second⟩ c).result = .error fault) ↔
      (∃ fault, (command ⟨t, first⟩ c).result = .error fault) ∨
        ∃ fault, (command ⟨t, second⟩ c).result = .error fault) ∧
    ∀ rules made, (command ⟨t, rules⟩ c).result = .ok made ↔
      ∃ fired parts, (firedRules ⟨t, rules⟩ c).result = .ok (fired.map LinkRule.name) ∧
        (command ⟨t, []⟩ c).result = .ok ⟨made.executable, []⟩ ∧
        List.Forall₂ (fun rule part =>
          (command ⟨t, [rule]⟩ c).result = .ok ⟨made.executable, part⟩) fired parts ∧
        made.args = parts.flatten := by
  refine ⟨firedRules_append t c first second, fun before behind leading following => ?_,
    command_append_error_iff t c first second, command_eq_ok_iff t c⟩
  exact command_append_of_ok leading following

end

theorem outcome_joined_rules_twice :
    let t : Toolchain := ⟨{}, ⟨"x86_64", "unknown", "kush", ""⟩, "/sdk", fun _ => false, 0⟩
    let c : Config := { rtlib := some "libgcc", noLibc := true, inputs := ["a.o"] }
    let archive := "/usr/lib/clang/17/lib/kush/libclang_rt.builtins-x86_64.a"
    let report : Diagnostic :=
      ⟨.error, "invalid runtime library name in argument '-rtlib=libgcc'"⟩
    let first : List LinkRule := [.inputs, .defaultLibs]
    let second : List LinkRule := [.defaultLibs, .pie, .relro]
    (command ⟨t, first⟩ c).result = .ok ⟨"ld.lld", ["a.o", archive]⟩ ∧
      (command ⟨t, second⟩ c).result = .ok ⟨"ld.lld", [archive, "-znorelro"]⟩ ∧
      (command ⟨t, first ++ second⟩ c).result =
        .ok ⟨"ld.lld", ["a.o", archive, archive, "-znorelro"]⟩ ∧
      (command ⟨t, first ++ second⟩ c).diagnostics = [report, report] := by
  intro t c archive report first second
  have leading : (command ⟨t, first⟩ c).result = .ok ⟨"ld.lld", ["a.o", archive]⟩ := by
    decide +kernel
  have following : (command ⟨t, second⟩ c).result = .ok ⟨"ld.lld", [archive, "-znorelro"]⟩ := by
    decide +kernel
  obtain ⟨-, joined, -⟩ := outcome_joined_rules t c first second
  obtain ⟨-, whole, reports⟩ := joined _ _ leading following
  have once : (command ⟨t, first⟩ c).diagnostics = [report] := by decide +kernel
  have again : (command ⟨t, second⟩ c).diagnostics = [report] := by decide +kernel
  rw [once, again] at reports
  exact ⟨leading, following, whole, reports⟩

end Linker

end CrossDriver
