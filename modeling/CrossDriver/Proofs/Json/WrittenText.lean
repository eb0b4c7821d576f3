import CrossDriver.Json.Reader
import CrossDriver.Json.Writer
import CrossDriver.Proofs.Text.Whole
import CrossDriver.Proofs.Traced

/-!
# Written texts read back

A text is written character by character, and the reader takes the same characters from it. Only
halves are not read one by one: two escapes in a row can come back as one character. A text without
torn characters is held the way in which they come back.
-/

namespace CrossDriver.Json

open Text (Whole Joins standsFor? isHighHalf isLowHalf codeOf halves pairCode unitText holdChar)

/-! ## Units -/

theorem codeUnit?_hex {n : Nat} (small : n < 0x10000) :
    ∃ a b c d, Text.hex 4 n = [a, b, c, d] ∧ codeUnit? a b c d = some n := by
  have digit (k : Nat) : Text.hexValue? (Text.hexDigit (k % 16)) = some (k % 16) :=
    Text.hexValue?_hexDigit ⟨k % 16, Nat.mod_lt k (by omega)⟩
  refine ⟨_, _, _, _, rfl, ?_⟩
  rw [codeUnit?]
  simp only [digit, Option.some.injEq]
  omega

inductive Apart : List Char → Prop where
  | plain {next : Char} {more : List Char} (other : ∀ tail, next :: more ≠ '\\' :: 'u' :: tail) :
    Apart (next :: more)
  | unit {n : Nat} {last : Char} {more : List Char} (small : n < 0x10000)
    (notLow : isLowHalf n = false) : Apart (unitEscape n ++ last :: more)

theorem codeEscape_of_not_high {n : Nat} (small : n < 0x10000) (notHigh : isHighHalf n = false)
    (next : Char) (more : List Char) :
    codeEscape (Text.hex 4 n ++ next :: more) = .ok (unitText n, next :: more) := by
  obtain ⟨a, b, c, d, digits, value⟩ := codeUnit?_hex small
  rw [digits]
  simp [codeEscape, value, notHigh]

theorem codeEscape_pair {high low : Nat} (isHigh : isHighHalf high = true)
    (isLow : isLowHalf low = true) (last : Char) (rest : List Char) :
    codeEscape (Text.hex 4 high ++ unitEscape low ++ last :: rest) =
      .ok (holdChar (Char.ofNat (pairCode high low)), last :: rest) := by
  have highBounds := Text.isHighHalf_iff.mp isHigh
  have lowBounds := Text.isLowHalf_iff.mp isLow
  obtain ⟨a, b, c, d, digits, value⟩ := codeUnit?_hex (n := high) (by omega)
  obtain ⟨e, f, g, h, others, second⟩ := codeUnit?_hex (n := low) (by omega)
  rw [unitEscape, digits, others]
  simp [codeEscape, value, second, isHigh, isLow]

theorem codeEscape_of_apart {high : Nat} (isHigh : isHighHalf high = true) {rest : List Char}
    (apart : Apart rest) :
    codeEscape (Text.hex 4 high ++ rest) = .ok (unitText high, rest) := by
  have bounds := Text.isHighHalf_iff.mp isHigh
  obtain ⟨a, b, c, d, digits, value⟩ := codeUnit?_hex (n := high) (by omega)
  rw [digits]
  cases apart with
  | plain other =>
    simp only [List.cons_append, List.nil_append, codeEscape, value, isHigh, if_true]
    split
    case h_1 => exact absurd rfl (other _)
    case h_2 => rfl
  | unit small notLow =>
    obtain ⟨e, f, g, h, others, second⟩ := codeUnit?_hex small
    rw [unitEscape, others]
    simp [codeEscape, value, second, isHigh, notLow]

/-! ## Characters -/

theorem toNat_lt_of_plainEscape {mark c : Char} (meant : plainEscape mark = some c) :
    c.toNat < 0x80 := by
  unfold plainEscape at meant
  split at meant <;> cases meant <;> decide

def Visible (c : Char) : Prop :=
  0x20 ≤ c.toNat ∧ c.toNat ≤ 0x7e

inductive Written (c : Char) : List Char → Prop where
  | plain (visible : Visible c) (no_quote : c ≠ '"') (no_backslash : c ≠ '\\') : Written c [c]
  | named {mark : Char} (visible : Visible mark) (no_code : mark ≠ 'u')
    (meant : plainEscape mark = some c) : Written c ['\\', mark]
  | unit (small : codeOf c < 0x10000) : Written c (unitEscape (codeOf c))
  | pair (real : standsFor? c = none) (beyond : 0x10000 ≤ c.toNat) :
    Written c (unitEscape (halves c.toNat).1 ++ unitEscape (halves c.toNat).2)

theorem written_writeChar (c : Char) : Written c (writeChar c) := by
  unfold writeChar
  split
  case isTrue special =>
    rcases special with rfl | rfl
    · exact .named (by simp [Visible]) (by decide) rfl
    · exact .named (by simp [Visible]) (by decide) rfl
  case isFalse ordinary =>
    obtain ⟨no_quote, no_backslash⟩ := not_or.mp ordinary
    split_ifs with newline return_ tab feed back visible small
    · exact newline ▸ .named (by simp [Visible]) (by decide) rfl
    · exact return_ ▸ .named (by simp [Visible]) (by decide) rfl
    · exact tab ▸ .named (by simp [Visible]) (by decide) rfl
    · exact feed ▸ .named (by simp [Visible]) (by decide) rfl
    · exact back ▸ .named (by simp [Visible]) (by decide) rfl
    · exact .plain visible no_quote no_backslash
    · exact .unit small
    · have real : standsFor? c = none := by
        cases stands : standsFor? c with
        | none => rfl
        | some half =>
          have bounds := Text.isHalf_iff.mp (Text.isHalf_of_standsFor? stands)
          rw [Text.codeOf_of_standsFor? stands] at small
          omega
      rw [Text.codeOf_of_none real] at small
      exact .pair real (Nat.le_of_not_lt small)

theorem exists_written (c : Char) : ∃ chars, writeChar c = chars ∧ Written c chars :=
  ⟨writeChar c, rfl, written_writeChar c⟩

theorem Written.apart {c : Char} {cs : List Char} (written : Written c cs)
    (notLow : ∀ low, standsFor? c = some low → isLowHalf low = false) (last : Char)
    (rest : List Char) : Apart (cs ++ last :: rest) := by
  cases written with
  | plain visible no_quote no_backslash =>
    refine .plain fun tail same => no_backslash ?_
    exact (List.cons.inj same).1
  | named visible no_code meant =>
    refine .plain fun tail same => no_code ?_
    exact (List.cons.inj (List.cons.inj same).2).1
  | unit small =>
    refine .unit small ?_
    cases stands : standsFor? c with
    | some low => exact Text.codeOf_of_standsFor? stands ▸ notLow low stands
    | none =>
      rw [Text.codeOf_of_none stands]
      exact Text.not_isLowHalf_of_not_isHalf (Text.isHalf_toNat c)
  | pair real beyond =>
    obtain ⟨isHigh, -⟩ := Text.isHalf_halves beyond
    rw [List.append_assoc]
    refine .unit ?_ (Text.not_isLowHalf_of_isHighHalf isHigh)
    have bounds := Text.isHighHalf_iff.mp isHigh
    omega

theorem writeChar_of_standsFor? {c : Char} {half : Nat} (stands : standsFor? c = some half) :
    writeChar c = unitEscape half := by
  have bounds := Text.toNat_of_standsFor? stands
  obtain ⟨chars, same, written⟩ := exists_written c
  rw [same]
  cases written with
  | plain visible =>
    have := visible.2
    omega
  | named visible no_code meant =>
    have small := toNat_lt_of_plainEscape meant
    omega
  | unit small => rw [Text.codeOf_of_standsFor? stands]
  | pair real => simp [stands] at real

/-! ## Texts -/

section
variable {opened fuel : Nat} {cs rest tail : List Char}

theorem readText_escape {digits first : List Char}
    (code : codeEscape (digits ++ rest) = .ok (first, rest))
    (later : readText opened fuel rest = .ok (cs, tail)) :
    readText opened (fuel + 1) ('\\' :: 'u' :: digits ++ rest) = .ok (first ++ cs, tail) := by
  change readText opened (fuel + 1) ('\\' :: 'u' :: (digits ++ rest)) = _
  rw [readText, code]
  simp only [bind, Except.bind, later]
  rfl

theorem readText_named {mark c : Char} (no_code : mark ≠ 'u') (meant : plainEscape mark = some c)
    (later : readText opened fuel rest = .ok (cs, tail)) :
    readText opened (fuel + 1) ('\\' :: mark :: rest) = .ok (c :: cs, tail) := by
  rw [readText]
  · rw [if_neg (by decide), if_pos rfl, meant]
    simp only [bind, Except.bind, later]
    rfl
  · exact no_code

theorem readText_plain {c : Char} (no_quote : c ≠ '"') (no_backslash : c ≠ '\\')
    (visible : 0x1f < c.toNat) (later : readText opened fuel rest = .ok (cs, tail)) :
    readText opened (fuel + 1) (c :: rest) = .ok (holdChar c ++ cs, tail) := by
  rw [readText.eq_def]
  simp only [if_neg no_quote, if_neg no_backslash, if_neg (Nat.not_le.mpr visible), bind,
    Except.bind, later]
  rfl

theorem readText_writeChar {c : Char} (ne : rest ≠ [])
    (apart : ∀ high, standsFor? c = some high → isHighHalf high = true → Apart rest)
    (later : readText opened fuel rest = .ok (cs, tail)) :
    readText opened (fuel + 1) (writeChar c ++ rest) = .ok (c :: cs, tail) := by
  obtain ⟨next, more, rfl⟩ := List.exists_cons_of_ne_nil ne
  obtain ⟨chars, same, written⟩ := exists_written c
  rw [same]
  cases written with
  | plain visible no_quote no_backslash =>
    have read := readText_plain no_quote no_backslash visible.1 later
    rw [Text.holdChar_of_none (Text.standsFor?_eq_none_of_lt (by have := visible.2; omega))] at read
    exact read
  | named visible no_code meant => exact readText_named no_code meant later
  | unit small =>
    change _ = Except.ok ([c] ++ cs, tail)
    refine readText_escape ?_ later
    rw [← Text.unitText_codeOf c]
    cases isHigh : isHighHalf (codeOf c) with
    | false => exact codeEscape_of_not_high small isHigh next more
    | true =>
      cases stands : standsFor? c with
      | some high =>
        rw [Text.codeOf_of_standsFor? stands] at isHigh ⊢
        exact codeEscape_of_apart isHigh (apart high stands isHigh)
      | none =>
        have half := Text.isHalf_of_isHighHalf isHigh
        rw [Text.codeOf_of_none stands, Text.isHalf_toNat] at half
        cases half
  | pair real beyond =>
    obtain ⟨isHigh, isLow⟩ := Text.isHalf_halves beyond
    have joined := codeEscape_pair isHigh isLow next more
    rw [Text.pairCode_halves beyond, Char.ofNat_toNat, Text.holdChar_of_none real] at joined
    exact readText_escape joined later

theorem readText_writePair {c d : Char} {code : Nat} (ne : rest ≠ [])
    (held : Text.heldPair? c d = some code)
    (later : readText opened fuel rest = .ok (cs, tail)) :
    readText opened (fuel + 1) (writeChar c ++ (writeChar d ++ rest)) = .ok (c :: d :: cs, tail) := by
  obtain ⟨next, more, rfl⟩ := List.exists_cons_of_ne_nil ne
  obtain ⟨pair, -⟩ := Text.heldPair?_eq_some_iff.mp held
  obtain ⟨high, low, stands, follows, isHigh, isLow, rfl⟩ := Text.pairOf?_eq_some_iff.mp pair
  have joined := codeEscape_pair isHigh isLow next more
  rw [Text.holdChar_of_heldPair? held] at joined
  rw [writeChar_of_standsFor? stands, writeChar_of_standsFor? follows, ← List.append_assoc]
  exact readText_escape joined later

end

theorem readText_written {cs : List Char} (whole : Whole cs) (opened : Nat) (rest : List Char)
    {fuel : Nat} (enough : cs.length < fuel) :
    readText opened fuel (cs.flatMap writeChar ++ '"' :: rest) = .ok (cs, rest) := by
  -- The recursion of `codePoints` takes halves two at a time where they belong together.
  fun_induction Text.codePoints cs generalizing fuel with
  | case1 =>
    cases fuel with
    | zero => omega
    | succ fuel => rfl
  | case2 c =>
    obtain ⟨fuel, rfl⟩ : ∃ k, fuel = k + 2 := ⟨fuel - 2, by simp at enough; omega⟩
    rw [List.flatMap_singleton]
    refine readText_writeChar (List.cons_ne_nil _ _) (fun _ _ _ => ?_) rfl
    exact .plain fun tail same => by cases same
  | case3 c d more code pair ih =>
    obtain ⟨fuel, rfl⟩ : ∃ k, fuel = k + 1 := ⟨fuel - 1, by omega⟩
    rw [List.length_cons, List.length_cons] at enough
    have shorter : more.length < fuel := by omega
    have later := ih whole.tail.tail shorter
    rw [List.flatMap_cons, List.flatMap_cons, List.append_assoc, List.append_assoc]
    exact readText_writePair (by simp) pair later
  | case4 c d more alone ih =>
    obtain ⟨fuel, rfl⟩ : ∃ k, fuel = k + 1 := ⟨fuel - 1, by omega⟩
    rw [List.length_cons] at enough
    have shorter : (d :: more).length < fuel := by omega
    have later := ih whole.tail shorter
    rw [List.flatMap_cons, List.append_assoc]
    refine readText_writeChar (by simp) (fun high stands isHigh => ?_) later
    have notLow : ∀ low, standsFor? d = some low → isLowHalf low = false := by
      intro low follows
      apply Bool.eq_false_iff.mpr
      intro isLow
      have pair := Text.pairOf?_eq_some_iff.mpr ⟨high, low, stands, follows, isHigh, isLow, rfl⟩
      have held := Text.heldPair?_eq_some_iff.mpr ⟨pair, whole.joins _ pair⟩
      rw [alone] at held
      cases held
    obtain ⟨next, tail, behind⟩ : ∃ next tail, more.flatMap writeChar ++ '"' :: rest = next :: tail :=
      List.exists_cons_of_ne_nil (by simp)
    rw [List.flatMap_cons, List.append_assoc, behind]
    exact (written_writeChar d).apart notLow next tail

theorem length_le_flatMap_writeChar (cs : List Char) :
    cs.length ≤ (cs.flatMap writeChar).length := by
  induction cs with
  | nil => exact Nat.le_refl 0
  | cons c rest ih =>
    obtain ⟨chars, same, written⟩ := exists_written c
    have long : 1 ≤ chars.length := by cases written <;> simp [unitEscape]
    rw [List.flatMap_cons, List.length_append, List.length_cons, same]
    omega

theorem readTextBehind_written {s : String} (whole : Whole s.toList) (rest : List Char) :
    readTextBehind (s.toList.flatMap writeChar ++ '"' :: rest) = .ok (s, rest) := by
  have enough : s.toList.length < (s.toList.flatMap writeChar ++ '"' :: rest).length + 1 := by
    have long := length_le_flatMap_writeChar s.toList
    rw [List.length_append]
    omega
  rw [readTextBehind, readText_written whole _ rest enough]
  simp [bind, Except.bind, pure, Except.pure]

/-! ## Written characters show -/

theorem visible_hexDigit (n : Fin 16) : Visible (Text.hexDigit n) := by
  revert n
  unfold Visible
  decide

theorem visible_of_mem_hex {width n : Nat} {c : Char} (mem : c ∈ Text.hex width n) : Visible c := by
  induction width generalizing n with
  | zero => cases mem
  | succ width ih =>
    rcases List.mem_append.mp mem with before | last
    · exact ih before
    · rw [List.mem_singleton.mp last]
      exact visible_hexDigit ⟨n % 16, Nat.mod_lt n (by omega)⟩

theorem visible_of_mem_unitEscape {n : Nat} {c : Char} (mem : c ∈ unitEscape n) : Visible c := by
  rcases List.mem_cons.mp mem with rfl | mem
  · simp [Visible]
  · rcases List.mem_cons.mp mem with rfl | mem
    · simp [Visible]
    · exact visible_of_mem_hex mem

theorem visible_of_mem_writeChar {c d : Char} (mem : d ∈ writeChar c) : Visible d := by
  obtain ⟨chars, same, written⟩ := exists_written c
  rw [same] at mem
  cases written with
  | plain visible => exact List.mem_singleton.mp mem ▸ visible
  | named visible =>
    rcases List.mem_pair.mp mem with rfl | rfl
    · simp [Visible]
    · exact visible
  | unit => exact visible_of_mem_unitEscape mem
  | pair => exact (List.mem_append.mp mem).elim visible_of_mem_unitEscape visible_of_mem_unitEscape

theorem visible_of_mem_writeText {s : String} {c : Char} (mem : c ∈ writeText s) : Visible c := by
  simp only [writeText, List.cons_append, List.mem_cons, List.mem_append, List.mem_flatMap,
    List.not_mem_nil, or_false] at mem
  rcases mem with rfl | ⟨d, -, written⟩ | rfl
  · simp [Visible]
  · exact visible_of_mem_writeChar written
  · simp [Visible]

/-! ## Texts that are read -/

theorem codeUnit?_lt {a b c d : Char} {unit : Nat} (value : codeUnit? a b c d = some unit) :
    unit < 0x10000 := by
  have digit {x : Char} {n : Nat} (read : Text.hexValue? x = some n) : n < 16 := by
    unfold Text.hexValue? at read
    dsimp only at read
    split_ifs at read <;> cases read <;> omega
  unfold codeUnit? at value
  split at value
  case h_1 first second third fourth =>
    cases value
    have := digit first
    have := digit second
    have := digit third
    have := digit fourth
    omega
  case h_2 => cases value

def OpensLow (cs : List Char) : Prop :=
  ∃ e f g h last tail low, cs = '\\' :: 'u' :: e :: f :: g :: h :: last :: tail ∧
    codeUnit? e f g h = some low ∧ isLowHalf low = true

theorem codeEscape_cases {cs first rest : List Char} (read : codeEscape cs = .ok (first, rest)) :
    (∃ char, first = holdChar char) ∨
      ∃ a b c d unit next more, cs = a :: b :: c :: d :: next :: more ∧
        codeUnit? a b c d = some unit ∧ first = unitText unit ∧ rest = next :: more ∧
        (isHighHalf unit = true → ¬OpensLow rest) := by
  unfold codeEscape at read
  split at read
  case h_1 a b c d next more =>
    split at read
    · cases read
    · rename_i unit value
      split at read
      case isTrue isHigh =>
        split at read
        case h_1 e f g h last tail =>
          split at read
          · cases read
          · rename_i low second
            split at read
            case isTrue isLow =>
              cases read
              exact .inl ⟨_, rfl⟩
            case isFalse notLow =>
              cases read
              refine .inr ⟨a, b, c, d, unit, _, _, rfl, value, rfl, rfl, fun _ opens => ?_⟩
              obtain ⟨e', f', g', h', last', tail', low', same, other, isLow⟩ := opens
              cases same
              rw [second] at other
              cases other
              exact notLow isLow
        case h_2 no_escape =>
          cases read
          refine .inr ⟨a, b, c, d, unit, _, _, rfl, value, rfl, rfl, fun _ opens => ?_⟩
          obtain ⟨e, f, g, h, last, tail, low, same, -, -⟩ := opens
          cases same
          exact no_escape e f g h last tail rfl rfl
      case isFalse notHigh =>
        cases read
        exact .inr ⟨a, b, c, d, unit, _, _, rfl, value, rfl, rfl, fun isHigh => absurd isHigh notHigh⟩
  case h_2 => cases read

/-- The characters are whole, and start with a second half only where it is escaped. -/
structure Sound (cs chars : List Char) : Prop where
  whole : Whole chars
  opens : ∀ c ∈ chars.head?, ∀ low, standsFor? c = some low → isLowHalf low = true → OpensLow cs

theorem sound_holdChar (cs : List Char) (char : Char) {chars : List Char} (later : Whole chars) :
    Sound cs (holdChar char ++ chars) where
  whole := (Text.whole_holdChar char).append later fun _ last d _ =>
    Text.joins_of_mem_getLast?_holdChar last d
  opens c first low stands isLow := by
    have ne : holdChar char ≠ [] := by
      rw [holdChar]
      split <;> simp
    rw [List.head?_append_of_ne_nil _ ne] at first
    rw [Text.not_low_of_mem_head?_holdChar first stands] at isLow
    cases isLow

theorem sound_unitText {unit : Nat} (small : unit < 0x10000) {cs rest chars : List Char}
    (own : isLowHalf unit = true → OpensLow cs) (apart : isHighHalf unit = true → ¬OpensLow rest)
    (later : Sound rest chars) : Sound cs (unitText unit ++ chars) := by
  obtain ⟨c, single, meant⟩ := Text.exists_unitText small
  rw [single]
  constructor
  · refine (Text.whole_singleton c).append later.whole fun last mem d next => ?_
    obtain rfl : c = last := by simpa using mem
    cases isHigh : isHighHalf unit with
    | true =>
      refine Text.joins_of_right fun low follows => Bool.eq_false_iff.mpr fun isLow => ?_
      exact apart isHigh (later.opens d next low follows isLow)
    | false => exact Text.joins_of_left fun high stands => meant high stands ▸ isHigh
  · intro d first low stands isLow
    obtain rfl : c = d := by simpa using first
    exact own (meant low stands ▸ isLow)

theorem sound_readText {opened fuel : Nat} {cs chars rest : List Char}
    (read : readText opened fuel cs = .ok (chars, rest)) : Sound cs chars := by
  induction fuel generalizing cs chars rest with
  | zero => cases read
  | succ fuel ih =>
    cases cs with
    | nil => cases read
    | cons c more =>
      rw [readText.eq_def] at read
      dsimp only at read
      split_ifs at read with quote backslash control
      · cases read
        exact ⟨Text.whole_nil, by simp⟩
      · split at read
        case h_1 => cases read
        case h_2 more =>
          obtain ⟨⟨first, behind⟩, code, read⟩ := exists_of_bind_ok read
          obtain ⟨⟨chars, rest⟩, later, read⟩ := exists_of_bind_ok read
          cases read
          rcases codeEscape_cases code with ⟨char, rfl⟩ | ⟨a, b, c', d, unit, next, tail, rfl, value,
            rfl, rfl, apart⟩
          · exact sound_holdChar _ char (ih later).whole
          · refine sound_unitText (codeUnit?_lt value) (fun isLow => ?_) apart (ih later)
            exact ⟨a, b, c', d, next, tail, unit, by rw [backslash], value, isLow⟩
        case h_3 mark more no_code =>
          split at read
          case h_1 => cases read
          case h_2 char meant =>
            obtain ⟨⟨chars, rest⟩, later, read⟩ := exists_of_bind_ok read
            cases read
            have small := toNat_lt_of_plainEscape meant
            have single := Text.holdChar_of_none (Text.standsFor?_eq_none_of_lt (c := char) (by omega))
            have sound := sound_holdChar (c :: mark :: more) char (ih later).whole
            rw [single] at sound
            exact sound
      · cases read
      · obtain ⟨⟨chars, rest⟩, later, read⟩ := exists_of_bind_ok read
        cases read
        exact sound_holdChar _ c (ih later).whole

theorem whole_of_readTextBehind {cs rest : List Char} {s : String}
    (read : readTextBehind cs = .ok (s, rest)) : Whole s.toList := by
  obtain ⟨⟨chars, behind⟩, inner, read⟩ := exists_of_bind_ok read
  cases read
  rw [String.toList_ofList]
  exact (sound_readText inner).whole

end CrossDriver.Json
