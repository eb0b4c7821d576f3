namespace CrossDriver

structure WordReader (State Letter : Type) where
  start : State
  inWord : State → Bool
  /-- The state behind a character and what the character adds to its word, if the line can be
  read. -/
  next? : State → Char → Option (State × List Letter)
  /-- What the end of the line adds to the last word, if the line can end. -/
  finish? : State → Option (List Letter)

namespace WordReader

variable {State Letter : Type}

def extend (letters : List Letter) : List (List Letter) → List (List Letter)
  | [] => [letters]
  | word :: others => (letters ++ word) :: others

def wordsFrom? (r : WordReader State Letter) :
    State → List Char → Option (List (List Letter))
  | s, [] => do
    let letters ← r.finish? s
    return if r.inWord s then [letters] else []
  | s, c :: rest => do
    let (t, letters) ← r.next? s c
    let words ← wordsFrom? r t rest
    return if r.inWord t then extend letters words
      else if r.inWord s then letters :: words
      else words

def words? (r : WordReader State Letter) (cs : List Char) : Option (List (List Letter)) :=
  r.wordsFrom? r.start cs

theorem extend_ne_nil (letters : List Letter) (words : List (List Letter)) :
    extend letters words ≠ [] := by
  cases words <;> simp [extend]

theorem ne_nil_of_inWord (r : WordReader State Letter) {s : State} (h : r.inWord s = true)
    {cs : List Char} {words : List (List Letter)} (read : r.wordsFrom? s cs = some words) :
    words ≠ [] := by
  cases cs with
  | nil =>
    simp only [wordsFrom?, h, if_true, Option.bind_eq_bind, Option.bind_eq_some_iff] at read
    obtain ⟨letters, -, read⟩ := read
    cases read
    simp
  | cons c rest =>
    simp only [wordsFrom?, h, if_true, Option.bind_eq_bind, Option.bind_eq_some_iff] at read
    obtain ⟨⟨t, letters⟩, -, others, -, read⟩ := read
    cases read
    split
    · exact extend_ne_nil letters others
    · simp

end WordReader

end CrossDriver
