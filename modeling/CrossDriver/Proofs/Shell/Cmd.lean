import CrossDriver.Proofs.Shell.Reading
import CrossDriver.Shell.Words

namespace CrossDriver.Shell
open WordReader

def doubled (cs : List Char) : List Char :=
  Text.replaceChar '"' ['"', '"'] cs

theorem doubled_cons (c : Char) (rest : List Char) :
    doubled (c :: rest) = (if c = '"' then ['"', '"'] else [c]) ++ doubled rest := by
  simp only [doubled, Text.replaceChar, List.flatMap_cons]

theorem quoteCmd_cases (cs : List Char) :
    (cs ≠ [] ∧ (∀ c ∈ cs, c ∉ cmdSpecial) ∧ quoteCmd cs = cs) ∨
      ((cs = [] ∨ cs.any cmdSpecial.contains = true) ∧
        quoteCmd cs = '"' :: (doubled cs ++ ['"'])) := by
  rw [quoteCmd]
  split
  case isTrue bare => exact .inl ⟨bare.1, by simpa using bare.2, rfl⟩
  case isFalse written =>
    refine .inr ⟨?_, rfl⟩
    by_cases empty : cs = []
    · exact .inl empty
    · exact .inr (by simpa [empty] using written)

theorem cmdOutside_of_plain {c : Char} (h : c ∉ cmdSpecial) : cmdOutside c = (.bare, [c]) := by
  simp only [cmdSpecial, List.mem_cons, List.not_mem_nil, or_false, not_or] at h
  simp [cmdOutside, isGap, h]

theorem within_cmdBare {cs : List Char} (plain : ∀ c ∈ cs, c ∉ cmdSpecial) :
    Within cmdReader .bare cs .bare cs := by
  induction cs with
  | nil => exact .nil _
  | cons c rest ih =>
    have next : cmdReader.next? .bare c = some (.bare, [c]) :=
      congrArg some (cmdOutside_of_plain (plain c List.mem_cons_self))
    exact .cons next rfl (ih fun d hd => plain d (List.mem_cons_of_mem c hd))

theorem within_cmdPlain {cs : List Char} (ne : cs ≠ []) (plain : ∀ c ∈ cs, c ∉ cmdSpecial) :
    Within cmdReader .betweenWords cs .bare cs := by
  cases cs with
  | nil => exact absurd rfl ne
  | cons c rest =>
    have next : cmdReader.next? .betweenWords c = some (.bare, [c]) :=
      congrArg some (cmdOutside_of_plain (plain c List.mem_cons_self))
    exact .cons next rfl (within_cmdBare fun d hd => plain d (List.mem_cons_of_mem c hd))

theorem within_cmdQuoted_char (c : Char) :
    Within cmdReader .quoted (if c = '"' then ['"', '"'] else [c]) .quoted [c] := by
  by_cases mark : c = '"'
  · have text : cmdReader.next? .closing '"' = some (.quoted, ['"']) := rfl
    rw [if_pos mark, mark]
    exact .mark rfl rfl (.cons text rfl (.nil _))
  · have next : cmdReader.next? .quoted c = some (.quoted, [c]) := by
      simp [cmdReader, cmdNext, mark]
    rw [if_neg mark]
    exact .cons next rfl (.nil _)

theorem within_cmdQuoted (cs : List Char) : Within cmdReader .quoted (doubled cs) .quoted cs := by
  induction cs with
  | nil => exact .nil _
  | cons c rest ih => exact (within_cmdQuoted_char c).append ih

theorem spells_quoteCmd (cs : List Char) : cmdReader.Spells (quoteCmd cs) cs := by
  rcases quoteCmd_cases cs with ⟨ne, plain, bare⟩ | ⟨-, quoted⟩
  · rw [bare]
    exact ⟨.bare, within_cmdPlain ne plain, rfl, rfl, rfl⟩
  · have close : Within cmdReader .quoted ['"'] .closing [] := .mark rfl rfl (.nil _)
    have read := (within_cmdQuoted cs).append close
    rw [List.append_nil] at read
    rw [quoted]
    exact ⟨.closing, .mark rfl rfl read, rfl, rfl, rfl⟩

theorem lineChars_cons_cons (token next : String) (more : List String) :
    cmd.lineChars (token :: next :: more) =
      quoteCmd token.toList ++ ' ' :: cmd.lineChars (next :: more) := by
  simp [lineChars, quote, Text.joined]

theorem cmdWords?_lineChars (tokens : List String) :
    cmdWords? (cmd.lineChars tokens) = some (tokens.map String.toList) := by
  have spells (token : String) := spells_quoteCmd token.toList
  exact words?_joined (r := cmdReader) rfl rfl _ _ spells tokens

end CrossDriver.Shell
