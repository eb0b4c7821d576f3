import CrossDriver.Shell.WordReader
import CrossDriver.Text.Split

namespace CrossDriver.WordReader

variable {State Letter : Type} {r : WordReader State Letter}

/-- Characters of one word: the state before them, the state behind them, and the letters that
they add to the word. -/
inductive Within (r : WordReader State Letter) :
    State → List Char → State → List Letter → Prop where
  | nil (s : State) : Within r s [] s []
  | cons {s t u : State} {c : Char} {rest : List Char} {letters more : List Letter}
    (next : r.next? s c = some (t, letters)) (inside : r.inWord t = true)
    (further : Within r t rest u more) : Within r s (c :: rest) u (letters ++ more)

theorem Within.mark {s t u : State} {c : Char} {rest : List Char} {letters : List Letter}
    (next : r.next? s c = some (t, [])) (inside : r.inWord t = true)
    (further : Within r t rest u letters) : Within r s (c :: rest) u letters :=
  .cons next inside further

theorem Within.append {s t u : State} {first second : List Char} {letters more : List Letter}
    (before : Within r s first t letters) (behind : Within r t second u more) :
    Within r s (first ++ second) u (letters ++ more) := by
  induction before with
  | nil s => exact behind
  | cons next inside further ih =>
    rw [List.cons_append, List.append_assoc]
    exact .cons next inside (ih behind)

theorem extend_extend (letters more : List Letter) (words : List (List Letter)) :
    extend letters (extend more words) = extend (letters ++ more) words := by
  cases words <;> simp [extend]

theorem extend_nil {words : List (List Letter)} (h : words ≠ []) : extend [] words = words := by
  cases words with
  | nil => exact absurd rfl h
  | cons word others => rfl

theorem wordsFrom?_of_within {s u : State} {cs : List Char} {letters : List Letter}
    (within : Within r s cs u letters) (inside : r.inWord u = true) (rest : List Char) :
    r.wordsFrom? s (cs ++ rest) = (r.wordsFrom? u rest).map (extend letters) := by
  induction within with
  | nil s =>
    rw [List.nil_append]
    cases read : r.wordsFrom? s rest with
    | none => rfl
    | some words => rw [Option.map_some, extend_nil (ne_nil_of_inWord r inside read)]
  | cons next inWord further ih =>
    rw [List.cons_append, wordsFrom?]
    simp only [next, Option.bind_eq_bind, Option.bind_some, ih inside, inWord, if_true]
    cases r.wordsFrom? _ rest <;> simp [extend_extend]

def Spells (r : WordReader State Letter) (cs : List Char) (word : List Letter) : Prop :=
  ∃ u, Within r r.start cs u word ∧ r.inWord u = true ∧ r.next? u ' ' = some (r.start, []) ∧
    r.finish? u = some []

theorem Spells.words?_append_blank {cs : List Char} {word : List Letter} (spells : r.Spells cs word)
    (start : r.inWord r.start = false) (rest : List Char) :
    r.words? (cs ++ ' ' :: rest) = (r.words? rest).map (word :: ·) := by
  obtain ⟨u, within, inside, blank, -⟩ := spells
  rw [words?, wordsFrom?_of_within within inside, wordsFrom?, blank]
  cases read : r.wordsFrom? r.start rest with
  | none => simp [words?, read]
  | some words => simp [words?, read, start, inside, extend]

theorem Spells.words?_eq {cs : List Char} {word : List Letter} (spells : r.Spells cs word) :
    r.words? cs = some [word] := by
  obtain ⟨u, within, inside, -, finish⟩ := spells
  have read := wordsFrom?_of_within within inside []
  rw [List.append_nil] at read
  simp [words?, read, wordsFrom?, finish, inside, extend]

theorem words?_joined {α : Type} (start : r.inWord r.start = false)
    (finish : r.finish? r.start = some []) (piece : α → List Char) (word : α → List Letter)
    (spells : ∀ a, r.Spells (piece a) (word a)) (as : List α) :
    r.words? (Text.joined [' '] (as.map piece)) = some (as.map word) := by
  induction as with
  | nil => simp [Text.joined, words?, wordsFrom?, finish, start]
  | cons a others ih =>
    cases others with
    | nil => exact (spells a).words?_eq
    | cons b more =>
      have line : Text.joined [' '] ((a :: b :: more).map piece) =
          piece a ++ ' ' :: Text.joined [' '] ((b :: more).map piece) := by
        simp [Text.joined]
      rw [line, (spells a).words?_append_blank start, ih]
      rfl

end CrossDriver.WordReader
