import CrossDriver.Json.Reader
import CrossDriver.Proofs.Traced

namespace CrossDriver.Json

def isOpener (c : Char) : Bool :=
  c = '[' || c = '\x7b'

/-- The text goes beyond the limit at which reading stops, with `room` more levels to open. -/
def Stop.Founded (room : Limits) (cs : List Char) : Stop → Prop
  | .found .. => True
  | .longInteger excess => excess.limit = room.digits ∧ room.digits < excess.digits ∧
      ∃ run, run <:+: cs ∧ run.length = excess.digits ∧ ∀ d ∈ run, d.isDigit
  | .tooDeep => room.levels < cs.countP isOpener

theorem Stop.Founded.mono {room : Limits} {cs ds : List Char} {s : Stop}
    (founded : s.Founded room cs) (behind : cs <:+ ds) : s.Founded room ds := by
  cases s with
  | found _ _ => trivial
  | longInteger excess =>
    obtain ⟨limit, beyond, run, inside, length, digits⟩ := founded
    exact ⟨limit, beyond, run, inside.trans behind.isInfix, length, digits⟩
  | tooDeep => exact Nat.lt_of_lt_of_le founded (behind.sublist.countP_le)

theorem Stop.Founded.opened {room : Limits} {c : Char} (opens : isOpener c)
    {cs : List Char} {s : Stop} (founded : s.Founded room.inner cs) : s.Founded room (c :: cs) := by
  cases s with
  | found _ _ => trivial
  | longInteger excess =>
    exact Founded.mono (s := .longInteger excess) founded (List.suffix_cons c cs)
  | tooDeep =>
    rw [Founded, Limits.levels_inner] at founded
    rw [Founded, List.countP_cons_of_pos opens]
    omega

structure Reads {α : Type} (room : Limits) (cs : List Char) (result : Except Stop (α × List Char)) :
    Prop where
  rest : ∀ {a rest}, result = .ok (a, rest) → rest <:+ cs
  stop : ∀ {s}, result = .error s → s.Founded room cs

namespace Reads

variable {α β : Type} {room : Limits} {cs ds : List Char}

theorem ok {a : α} {rest : List Char} (behind : rest <:+ cs) : Reads room cs (.ok (a, rest)) where
  rest := by rintro _ _ ⟨⟩; exact behind
  stop := by rintro _ ⟨⟩

theorem error {s : Stop} (founded : s.Founded room cs) : Reads (α := α) room cs (.error s) where
  rest := by rintro _ _ ⟨⟩
  stop := by rintro _ ⟨⟩; exact founded

theorem found {problem : Problem} {remaining : Nat} :
    Reads (α := α) room cs (.error (.found problem remaining)) :=
  .error trivial

theorem mono {result : Except Stop (α × List Char)} (reads : Reads room cs result)
    (behind : cs <:+ ds) : Reads room ds result where
  rest given := (reads.rest given).trans behind
  stop stopped := (reads.stop stopped).mono behind

theorem bind {first : Except Stop (α × List Char)}
    {next : α × List Char → Except Stop (β × List Char)}
    (reads : Reads room cs first)
    (later : ∀ {a rest}, rest <:+ cs → Reads room rest (next (a, rest))) :
    Reads room cs (first >>= next) := by
  cases given : first with
  | error s => exact .error (reads.stop given)
  | ok answer =>
    obtain ⟨a, rest⟩ := answer
    exact (later (reads.rest given)).mono (reads.rest given)

end Reads

/-! ## Texts -/

theorem reads_codeEscape (room : Limits) (cs : List Char) : Reads room cs (codeEscape cs) := by
  unfold codeEscape
  split
  case h_1 a b c d next more =>
    have behind : next :: more <:+ a :: b :: c :: d :: next :: more := ⟨[a, b, c, d], rfl⟩
    split
    · exact .found
    · split
      · split
        case h_1 e f g h last rest =>
          split
          · exact .found
          · split
            · exact .ok ⟨[a, b, c, d, '\\', 'u', e, f, g, h], rfl⟩
            · exact .ok behind
        case h_2 => exact .ok behind
      · exact .ok behind
  case h_2 => exact .found

theorem reads_readText (room : Limits) (opened fuel : Nat) (cs : List Char) :
    Reads room cs (readText opened fuel cs) := by
  induction fuel generalizing cs with
  | zero => exact .found
  | succ fuel ih =>
    cases cs with
    | nil => exact .found
    | cons c rest =>
      have behind : rest <:+ c :: rest := List.suffix_cons c rest
      rw [readText.eq_def]
      dsimp only
      split
      · exact .ok behind
      · split
        · split
          case h_1 => exact .found
          case h_2 more =>
            refine ((reads_codeEscape room more).bind fun _ => ?_).mono
              ((List.suffix_cons _ more).trans behind)
            exact (ih _).bind fun _ => .ok List.suffix_rfl
          case h_3 mark more _ =>
            split
            · exact .found
            · refine Reads.mono ?_ ((List.suffix_cons mark more).trans behind)
              exact (ih more).bind fun _ => .ok List.suffix_rfl
        · split
          · exact .found
          · refine Reads.mono ?_ behind
            exact (ih rest).bind fun _ => .ok List.suffix_rfl

theorem reads_readTextBehind (room : Limits) (cs : List Char) :
    Reads room cs (readTextBehind cs) :=
  (reads_readText room _ _ cs).bind fun _ => .ok List.suffix_rfl

/-! ## Words and numbers -/

theorem suffix_of_readWord {cs rest : List Char} {value : Json}
    (read : readWord cs = some (value, rest)) : rest <:+ cs := by
  obtain ⟨⟨word, meant⟩, -, found⟩ := List.exists_of_findSome?_eq_some read
  dsimp only at found
  split at found
  · cases found
    exact List.drop_suffix _ _
  · cases found

theorem suffix_digits (cs : List Char) : (digits cs).2 <:+ cs :=
  List.dropWhile_suffix _

theorem suffix_skipSpace (cs : List Char) : skipSpace cs <:+ cs :=
  List.dropWhile_suffix _

theorem wholeDigits_spec (cs : List Char) :
    (wholeDigits cs).1 <+: cs ∧ (wholeDigits cs).2 <:+ cs ∧
      ∀ d ∈ (wholeDigits cs).1, d.isDigit := by
  unfold wholeDigits
  split
  · refine ⟨⟨_, rfl⟩, List.suffix_cons _ _, fun d mem => ?_⟩
    rw [List.mem_singleton.mp mem]
    rfl
  · exact ⟨List.takeWhile_prefix _, suffix_digits _,
      List.all_eq_true.mp List.all_takeWhile⟩

theorem suffix_of_fractionDigits {cs ds rest : List Char}
    (taken : fractionDigits cs = some (ds, rest)) : rest <:+ cs := by
  unfold fractionDigits at taken
  split at taken
  · split at taken
    · cases taken
    · cases taken
      exact (suffix_digits _).trans (List.suffix_cons _ _)
  · cases taken

theorem suffix_of_exponentPart {cs rest : List Char} {power : Int}
    (taken : exponentPart cs = some (power, rest)) : rest <:+ cs := by
  unfold exponentPart at taken
  split at taken
  case h_1 mark more =>
    split at taken
    · split at taken
      case h_1 negative unsigned signed =>
        have behind : unsigned <:+ more := by
          split at signed <;> cases signed
          · exact List.suffix_cons _ _
          · exact List.suffix_cons _ _
          · exact List.suffix_rfl
        split at taken
        · cases taken
        · cases taken
          exact ((suffix_digits _).trans behind).trans (List.suffix_cons _ _)
    · cases taken
  case h_2 => cases taken

theorem suffix_getD {α : Type} {found : Option (α × List Char)} {cs : List Char}
    (behind : ∀ {a rest}, found = some (a, rest) → rest <:+ cs) :
    (found.map Prod.snd).getD cs <:+ cs := by
  cases found with
  | none => exact List.suffix_rfl
  | some answer => exact behind rfl

theorem suffix_behind_number (cs : List Char) :
    let rest := (wholeDigits cs).2
    let rest := ((fractionDigits rest).map Prod.snd).getD rest
    ((exponentPart rest).map Prod.snd).getD rest <:+ cs := by
  intro whole rest
  have powered : ((exponentPart rest).map Prod.snd).getD rest <:+ rest :=
    suffix_getD suffix_of_exponentPart
  have pointed : rest <:+ whole := suffix_getD suffix_of_fractionDigits
  exact (powered.trans pointed).trans (wholeDigits_spec cs).2.1

theorem Reads.longInteger {α : Type} {room : Limits} {unsigned cs : List Char}
    (behind : unsigned <:+ cs) (beyond : room.digits < (wholeDigits unsigned).1.length) :
    Reads (α := α) room cs
      (.error (.longInteger ⟨(wholeDigits unsigned).1.length, room.digits⟩)) := by
  obtain ⟨front, -, digits⟩ := wholeDigits_spec unsigned
  exact .error ⟨rfl, beyond, _, front.isInfix.trans behind.isInfix, rfl, digits⟩

theorem reads_readNumber (room : Limits) (cs : List Char) : Reads room cs (readNumber room cs) := by
  unfold readNumber
  split
  case h_1 negative unsigned signed =>
    have behind : unsigned <:+ cs := by
      split at signed <;> cases signed
      · exact List.suffix_cons _ _
      · exact List.suffix_rfl
    dsimp only
    split
    · exact .found
    · split
      · split
        case isTrue beyond => exact .longInteger behind beyond
        case isFalse => exact .ok ((suffix_behind_number unsigned).trans behind)
      · exact .ok ((suffix_behind_number unsigned).trans behind)

/-! ## Values -/

theorem Reads.opened {α : Type} {room : Limits} {c : Char} (opens : isOpener c) {cs : List Char}
    {result : Except Stop (α × List Char)} (reads : Reads room.inner cs result) :
    Reads room (c :: cs) result where
  rest given := (reads.rest given).trans (List.suffix_cons c cs)
  stop stopped := (reads.stop stopped).opened opens

theorem Reads.tooDeep {α : Type} {room : Limits} (full : room.levels = 0) {c : Char}
    (opens : isOpener c) (cs : List Char) : Reads (α := α) room (c :: cs) (.error .tooDeep) := by
  refine .error ?_
  rw [Stop.Founded, full, List.countP_cons_of_pos opens]
  exact Nat.succ_pos _

theorem suffix_of_skipSpace {cs rest : List Char} {c : Char} (next : skipSpace cs = c :: rest) :
    rest <:+ cs :=
  (List.suffix_cons c rest).trans (next ▸ suffix_skipSpace cs)

section
variable {fuel : Nat} (value : ∀ room cs, Reads room cs (readValue room fuel cs))
  (items : ∀ room cs, Reads room cs (readItems room fuel cs))
  (members : ∀ room cs, Reads room cs (readMembers room fuel cs))

include items members in
theorem reads_readValue_succ (room : Limits) (cs : List Char) :
    Reads room cs (readValue room (fuel + 1) cs) := by
  rw [readValue.eq_def]
  dsimp only
  split
  case h_1 rest =>
    refine Reads.mono ?_ (List.suffix_cons _ rest)
    exact (reads_readTextBehind room rest).bind fun _ => .ok List.suffix_rfl
  case h_2 rest =>
    split
    case isTrue full => exact .tooDeep full (by decide) rest
    case isFalse =>
      split
      case h_1 next => exact .ok ((suffix_of_skipSpace next).trans (List.suffix_cons _ rest))
      case h_2 =>
        refine Reads.opened (by decide) (Reads.mono ?_ (suffix_skipSpace rest))
        exact (members room.inner _).bind fun _ => .ok List.suffix_rfl
  case h_3 rest =>
    split
    case isTrue full => exact .tooDeep full (by decide) rest
    case isFalse =>
      split
      case h_1 next => exact .ok ((suffix_of_skipSpace next).trans (List.suffix_cons _ rest))
      case h_2 =>
        refine Reads.opened (by decide) (Reads.mono ?_ (suffix_skipSpace rest))
        exact (items room.inner _).bind fun _ => .ok List.suffix_rfl
  case h_4 =>
    split
    case h_1 read => exact .ok (suffix_of_readWord read)
    case h_2 => exact reads_readNumber room cs

include value items in
theorem reads_readItems_succ (room : Limits) (cs : List Char) :
    Reads room cs (readItems room (fuel + 1) cs) := by
  rw [readItems.eq_def]
  dsimp only
  refine (value room cs).bind fun {item rest} _ => ?_
  dsimp only
  split
  case h_1 next => exact .ok (suffix_of_skipSpace next)
  case h_2 next =>
    refine Reads.mono ?_ ((suffix_skipSpace _).trans (suffix_of_skipSpace next))
    exact (items room _).bind fun _ => .ok List.suffix_rfl
  case h_3 => exact .found

include value members in
theorem reads_readMembers_succ (room : Limits) (cs : List Char) :
    Reads room cs (readMembers room (fuel + 1) cs) := by
  rw [readMembers.eq_def]
  dsimp only
  split
  case h_1 rest =>
    refine Reads.mono ?_ (List.suffix_cons _ rest)
    refine (reads_readTextBehind room rest).bind fun {key rest} _ => ?_
    dsimp only
    split
    case h_1 colon =>
      refine Reads.mono ?_ ((suffix_skipSpace _).trans (suffix_of_skipSpace colon))
      refine (value room _).bind fun {item rest} _ => ?_
      dsimp only
      split
      case h_1 next => exact .ok (suffix_of_skipSpace next)
      case h_2 next =>
        refine Reads.mono ?_ ((suffix_skipSpace _).trans (suffix_of_skipSpace next))
        exact (members room _).bind fun _ => .ok List.suffix_rfl
      case h_3 => exact .found
    case h_2 => exact .found
  case h_2 => exact .found

end

theorem reads_of_fuel (fuel : Nat) :
    (∀ room cs, Reads room cs (readValue room fuel cs)) ∧
    (∀ room cs, Reads room cs (readItems room fuel cs)) ∧
    ∀ room cs, Reads room cs (readMembers room fuel cs) := by
  -- The three readers call each other, each with less fuel.
  induction fuel with
  | zero => exact ⟨fun _ _ => .found, fun _ _ => .found, fun _ _ => .found⟩
  | succ fuel ih =>
    obtain ⟨value, items, members⟩ := ih
    exact ⟨reads_readValue_succ items members, reads_readItems_succ value items,
      reads_readMembers_succ value members⟩

/-! ## Whole texts -/

structure WithinLimits (room : Limits) (cs : List Char) : Prop where
  brackets : cs.countP isOpener ≤ room.levels
  digits : ∀ run, run <:+: cs → (∀ d ∈ run, d.isDigit) → run.length ≤ room.digits

theorem founded_readWhole {room : Limits} {cs : List Char} {s : Stop}
    (stopped : readWhole room cs = .error s) : s.Founded room cs := by
  rw [readWhole] at stopped
  split at stopped
  · cases stopped
    trivial
  · have reads := (reads_of_fuel (2 * cs.length + 1)).1 room (skipSpace cs)
    cases given : readValue room (2 * cs.length + 1) (skipSpace cs) with
    | error stop =>
      rw [given] at stopped
      cases stopped
      exact (reads.stop given).mono (suffix_skipSpace cs)
    | ok answer =>
      obtain ⟨value, rest⟩ := answer
      rw [given] at stopped
      change (if (skipSpace rest).isEmpty then .ok value else stopAt .extraData (skipSpace rest)) =
        Except.error s at stopped
      split at stopped <;> cases stopped
      trivial

theorem malformed_of_withinLimits {room : Limits} {cs : List Char} (within : WithinLimits room cs)
    {e : ReadError} (stopped : read cs room = .error e) :
    ∃ problem offset line column, e = .malformed problem offset line column := by
  rw [read] at stopped
  cases given : readWhole room cs with
  | ok value =>
    rw [given] at stopped
    cases stopped
  | error s =>
    have founded := founded_readWhole given
    rw [given] at stopped
    obtain rfl : s.toError cs = e := Except.error.inj stopped
    cases s with
    | found problem remaining => exact ⟨_, _, _, _, rfl⟩
    | longInteger excess =>
      obtain ⟨-, beyond, run, inside, length, digits⟩ := founded
      have short := within.digits run inside digits
      omega
    | tooDeep => exact absurd within.brackets (Nat.not_le.mpr founded)

/-! ## Other limits -/

def Stop.IsLimit : Stop → Prop
  | .found .. => False
  | .longInteger _ | .tooDeep => True

/-- Where the one reads something, the other reads the same or stops at a limit. -/
def UpToLimits {α : Type} (one other : Except Stop α) : Prop :=
  ∀ a, one = .ok a → other = .ok a ∨ ∃ s, other = .error s ∧ s.IsLimit

namespace UpToLimits

variable {α β : Type}

theorem same (one : Except Stop α) : UpToLimits one one :=
  fun _ given => .inl given

theorem guard {first second : Prop} [Decidable first] [Decidable second] {one other : Except Stop α}
    {s t : Stop} (limit : t.IsLimit) (further : UpToLimits one other) :
    UpToLimits (if first then .error s else one) (if second then .error t else other) := by
  intro a given
  by_cases stops : first
  · rw [if_pos stops] at given
    cases given
  · rw [if_neg stops] at given
    by_cases limits : second
    · exact .inr ⟨t, if_pos limits, limit⟩
    · rw [if_neg limits]
      exact further a given

theorem bind {one other : Except Stop α} {next further : α → Except Stop β}
    (start : UpToLimits one other) (rest : ∀ a, UpToLimits (next a) (further a)) :
    UpToLimits (one >>= next) (other >>= further) := by
  intro b given
  obtain ⟨a, first, later⟩ := exists_of_bind_ok given
  rcases start a first with also | ⟨s, stopped, limit⟩
  · rw [also]
    exact rest a b later
  · rw [stopped]
    exact .inr ⟨s, rfl, limit⟩

end UpToLimits

theorem readNumber_upToLimits (room wide : Limits) (cs : List Char) :
    UpToLimits (readNumber room cs) (readNumber wide cs) := by
  unfold readNumber
  split
  dsimp only
  split
  · exact .same _
  · split
    · exact .guard trivial (.same _)
    · exact .same _

section
variable {fuel : Nat}
  (value : ∀ room wide cs, UpToLimits (readValue room fuel cs) (readValue wide fuel cs))
  (items : ∀ room wide cs, UpToLimits (readItems room fuel cs) (readItems wide fuel cs))
  (members : ∀ room wide cs, UpToLimits (readMembers room fuel cs) (readMembers wide fuel cs))

include items members in
theorem readValue_upToLimits_succ (room wide : Limits) (cs : List Char) :
    UpToLimits (readValue room (fuel + 1) cs) (readValue wide (fuel + 1) cs) := by
  rw [readValue.eq_def, readValue.eq_def]
  dsimp only
  split
  case h_1 => exact .same _
  case h_2 rest =>
    refine .guard trivial ?_
    split
    · exact .same _
    · exact (members _ _ _).bind fun _ => .same _
  case h_3 rest =>
    refine .guard trivial ?_
    split
    · exact .same _
    · exact (items _ _ _).bind fun _ => .same _
  case h_4 =>
    split
    · exact .same _
    · exact readNumber_upToLimits room wide cs

include value items in
theorem readItems_upToLimits_succ (room wide : Limits) (cs : List Char) :
    UpToLimits (readItems room (fuel + 1) cs) (readItems wide (fuel + 1) cs) := by
  rw [readItems.eq_def, readItems.eq_def]
  dsimp only
  refine (value room wide cs).bind fun (item, rest) => ?_
  dsimp only
  split
  · exact .same _
  · exact (items _ _ _).bind fun _ => .same _
  · exact .same _

include value members in
theorem readMembers_upToLimits_succ (room wide : Limits) (cs : List Char) :
    UpToLimits (readMembers room (fuel + 1) cs) (readMembers wide (fuel + 1) cs) := by
  rw [readMembers.eq_def, readMembers.eq_def]
  dsimp only
  split
  · refine (UpToLimits.same _).bind fun (key, rest) => ?_
    dsimp only
    split
    · refine (value _ _ _).bind fun (item, rest) => ?_
      dsimp only
      split
      · exact .same _
      · exact (members _ _ _).bind fun _ => .same _
      · exact .same _
    · exact .same _
  · exact .same _

end

theorem upToLimits_of_fuel (fuel : Nat) :
    (∀ room wide cs, UpToLimits (readValue room fuel cs) (readValue wide fuel cs)) ∧
    (∀ room wide cs, UpToLimits (readItems room fuel cs) (readItems wide fuel cs)) ∧
    ∀ room wide cs, UpToLimits (readMembers room fuel cs) (readMembers wide fuel cs) := by
  induction fuel with
  | zero => exact ⟨fun _ _ _ => .same _, fun _ _ _ => .same _, fun _ _ _ => .same _⟩
  | succ fuel ih =>
    obtain ⟨value, items, members⟩ := ih
    exact ⟨readValue_upToLimits_succ items members, readItems_upToLimits_succ value items,
      readMembers_upToLimits_succ value members⟩

theorem read_cases_of_ok {room : Limits} {cs : List Char} {value : Json}
    (given : read cs room = .ok value) (wide : Limits) :
    read cs wide = .ok value ∨ read cs wide = .error .tooDeep ∨
      ∃ excess, read cs wide = .error (.longInteger excess) := by
  have whole : UpToLimits (readWhole room cs) (readWhole wide cs) := by
    unfold readWhole
    split
    · exact .same _
    · exact ((upToLimits_of_fuel _).1 room wide _).bind fun _ => .same _
  rw [read] at given ⊢
  cases read_whole : readWhole room cs with
  | error s =>
    rw [read_whole] at given
    cases given
  | ok found =>
    rw [read_whole] at given
    cases given
    rcases whole _ read_whole with same | ⟨s, stopped, limit⟩
    · exact .inl (by rw [same]; rfl)
    · rw [stopped]
      cases s with
      | found problem remaining => exact limit.elim
      | longInteger excess => exact .inr (.inr ⟨excess, rfl⟩)
      | tooDeep => exact .inr (.inl rfl)

end CrossDriver.Json
