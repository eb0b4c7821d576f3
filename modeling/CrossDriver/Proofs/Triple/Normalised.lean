import CrossDriver.Proofs.CommandLine.Preparation
import CrossDriver.Proofs.Path.LastName
import CrossDriver.Proofs.Text.SmallLetters
import CrossDriver.Proofs.Text.WholeParts
import CrossDriver.Proofs.Toolchain.CompileArgs
import CrossDriver.Proofs.Triple.Components

namespace CrossDriver

namespace Triple
open Text

/-! ## Targets that were read -/

/-- A target in small letters, without a blank where its text began and ended. -/
structure Lowered (t : Triple) : Prop extends t.Regular where
  small : ∀ component ∈ [t.arch, t.vendor, t.os, t.environment], ∀ c ∈ component.toList, Small c
  front : ∀ c ∈ t.arch.toList.head?, isBlank c = false
  back : ∀ c ∈ t.environment.toList.getLast?, isBlank c = false

theorem small_unknown : ∀ c ∈ "unknown".toList, Small c := by
  have small : ("unknown".toList.all fun c => Small c) = true := by decide +kernel
  exact fun c mem => of_decide_eq_true (List.all_eq_true.mp small c mem)

theorem small_orUnknown {component : List Char} (small : ∀ c ∈ component, Small c) :
    ∀ c ∈ (orUnknown component).toList, Small c := by
  rw [orUnknown]
  split
  · exact small_unknown
  · rwa [String.toList_ofList]

section
variable {components : List (List Char)}

theorem small_ofComponents (small : ∀ component ∈ components, ∀ c ∈ component, Small c) :
    ∀ component ∈ [(ofComponents components).arch, (ofComponents components).vendor,
      (ofComponents components).os, (ofComponents components).environment],
      ∀ c ∈ component.toList, Small c := by
  have known (component : List Char) (mem : component ∈ components) :
      ∀ c ∈ (orUnknown component).toList, Small c := small_orUnknown (small component mem)
  have unknown := small_unknown
  have none : ∀ c ∈ "".toList, Small c := fun _ mem => nomatch mem
  simp only [List.forall_mem_cons, List.not_mem_nil, false_implies, implies_true, and_true]
  match components, known, small with
  | [], _, _ => exact ⟨unknown, unknown, unknown, none⟩
  | [arch], known, _ => exact ⟨known arch (by simp), unknown, unknown, none⟩
  | [arch, os], known, _ =>
    exact ⟨known arch (by simp), unknown, known os (by simp), none⟩
  | [arch, vendor, os], known, _ =>
    exact ⟨known arch (by simp), known vendor (by simp), known os (by simp), none⟩
  | arch :: vendor :: os :: environment :: _, known, small =>
    refine ⟨known arch (by simp), known vendor (by simp), known os (by simp), ?_⟩
    rw [ofComponents, String.toList_ofList]
    exact small environment (by simp)

theorem arch_ofComponents_cons (arch : List Char) (more : List (List Char)) :
    (ofComponents (arch :: more)).arch = orUnknown arch := by
  match more with
  | [] | [_] | [_, _] | _ :: _ :: _ :: _ => rfl

theorem head?_arch_filled (front : ∀ c ∈ (joined ['-'] components).head?, isBlank c = false) :
    ∀ c ∈ (ofComponents components).arch.toList.head?, isBlank c = false := by
  have unknown : ∀ c ∈ "unknown".toList.head?, isBlank c = false :=
    isBlank_of_eq_some (c := 'u') rfl (by decide +kernel)
  match components, front with
  | [], _ => exact unknown
  | [] :: more, _ =>
    rw [arch_ofComponents_cons]
    exact unknown
  | (c :: rest) :: more, front =>
    rw [arch_ofComponents_cons, orUnknown, if_neg (by simp), String.toList_ofList]
    have first : (joined ['-'] ((c :: rest) :: more)).head? = some c := by
      cases more <;> rfl
    rwa [first] at front

theorem getLast?_filled_of_joined (before : List (List Char)) {last : List Char}
    (back : ∀ c ∈ (joined ['-'] (before ++ [last])).getLast?, isBlank c = false) :
    ∀ c ∈ last.getLast?, isBlank c = false := by
  obtain ⟨front, line⟩ := joined_append_singleton ['-'] before last
  intro c ends
  refine back c ?_
  rw [line, List.getLast?_append, Option.mem_def.mp ends]
  rfl

theorem getLast?_environment_filled (few : components.length ≤ 4)
    (back : ∀ c ∈ (joined ['-'] components).getLast?, isBlank c = false) :
    ∀ c ∈ (ofComponents components).environment.toList.getLast?, isBlank c = false := by
  match components, few, back with
  | [], _, _ | [_], _, _ | [_, _], _, _ | [_, _, _], _, _ => exact fun _ mem => nomatch mem
  | [arch, vendor, os, environment], _, back =>
    rw [ofComponents, String.toList_ofList]
    exact getLast?_filled_of_joined [arch, vendor, os] back

end

theorem trimmed_lower_strip (s : String) : Trimmed (lower (strip s)).toList := by
  rw [lower, strip, String.toList_ofList, String.toList_ofList]
  exact (trimmed_trimBlank s.toList).lowerAfter []

theorem joined_components (s : String) :
    joined ['-'] (components s) = (lower (strip s)).toList :=
  joined_firstPieces '-' 3 _

theorem lowered_parse (s : String) : (parse s).Lowered where
  toRegular := regular_parse s
  small := by
    refine small_ofComponents fun component mem c inside => ?_
    have whole := (infix_of_mem_firstPieces mem).mem inside
    rw [lower, String.toList_ofList] at whole
    exact small_of_mem_lowerAfter whole
  front := by
    apply head?_arch_filled
    rw [joined_components]
    exact (trimmed_lower_strip s).front
  back := by
    apply getLast?_environment_filled (length_firstPieces_le '-' 3 _)
    have back := (trimmed_lower_strip s).back
    rwa [← joined_components] at back

/-! ## Their normalised texts -/

def withoutBlank (t : Triple) : Triple :=
  if t.environment = "" then { t with os := orUnknown (t.os.toList.rdropWhile isBlank) } else t

theorem arch_withoutBlank (t : Triple) : t.withoutBlank.arch = t.arch := by
  rw [withoutBlank]
  split <;> rfl

theorem small_joined {texts : List (List Char)} (small : ∀ piece ∈ texts, ∀ c ∈ piece, Small c) :
    ∀ c ∈ joined ['-'] texts, Small c := by
  fun_induction joined ['-'] texts with
  | case1 => exact fun _ mem => nomatch mem
  | case2 piece => exact small piece (.head _)
  | case3 piece more ne ih =>
    have dash : Small '-' := by decide +kernel
    obtain ⟨here, behind⟩ := List.forall_mem_cons.mp small
    simp only [List.forall_mem_append]
    exact ⟨⟨here, by simpa using dash⟩, ih behind⟩

theorem rdropWhile_append_of_filled {c : Char} (filled : isBlank c = false) (front cs : List Char) :
    (front ++ c :: cs).rdropWhile isBlank = front ++ c :: cs.rdropWhile isBlank := by
  induction cs using List.reverseRecOn with
  | nil => exact List.rdropWhile_concat_neg isBlank front c (by simp [filled])
  | append_singleton more d ih =>
    rw [← List.cons_append, ← List.append_assoc, List.rdropWhile_concat, List.rdropWhile_concat, ih]
    split
    · rfl
    · simp

theorem toList_text_eq (t : Triple) :
    t.text.toList = t.arch.toList ++ '-' :: (t.vendor.toList ++ '-' :: (t.os.toList ++
      if t.environment = "" then [] else '-' :: t.environment.toList)) := by
  rw [text]
  split <;> simp

theorem head?_text {t : Triple} (lowered : t.Lowered) :
    ∀ c ∈ t.text.toList.head?, isBlank c = false := by
  have some_char : t.arch.toList ≠ [] := mt String.toList_eq_nil_iff.mp lowered.arch.1
  rw [toList_text_eq, List.head?_append_of_ne_nil _ some_char]
  exact lowered.front

theorem trimBlank_text {t : Triple} (lowered : t.Lowered) :
    trimBlank t.text.toList = joined ['-'] (if t.environment = "" then
      [t.arch.toList, t.vendor.toList, t.os.toList.rdropWhile isBlank]
      else t.written.map String.toList) := by
  rw [trimBlank_eq, dropWhile_of_front (head?_text lowered)]
  split
  · next none =>
    -- The dash in front of the system keeps what stands before it.
    have dash : isBlank '-' = false := by decide +kernel
    rw [toList_text_eq, if_pos none, List.append_nil]
    have front := rdropWhile_append_of_filled dash
      (t.arch.toList ++ '-' :: t.vendor.toList) t.os.toList
    simpa [joined] using front
  · next some_char =>
    rw [← toList_text]
    refine rdropWhile_of_back ?_
    have ne : t.environment.toList ≠ [] := mt String.toList_eq_nil_iff.mp some_char
    obtain ⟨front, line⟩ :=
      joined_append_singleton ['-'] ([t.arch, t.vendor, t.os].map String.toList) t.environment.toList
    have whole : t.text.toList = front ++ t.environment.toList := by
      rw [toList_text, written, if_neg some_char, ← line]
      rfl
    rw [whole, List.getLast?_append_of_ne_nil _ ne]
    exact lowered.back

theorem components_text {t : Triple} (lowered : t.Lowered) :
    components t.text = if t.environment = "" then
      [t.arch.toList, t.vendor.toList, t.os.toList.rdropWhile isBlank]
      else t.written.map String.toList := by
  have kept : t.os.toList.rdropWhile isBlank <+: t.os.toList :=
    List.rdropWhile_prefix isBlank _
  have small := lowered.small
  have regular := lowered.toRegular
  rw [components, lower, strip, String.toList_ofList, String.toList_ofList, trimBlank_text lowered]
  split
  · next none =>
    simp only [List.forall_mem_cons, List.not_mem_nil, false_implies, implies_true,
      and_true] at small
    have free : '-' ∉ t.os.toList.rdropWhile isBlank := mt (kept.subset ·) regular.os.2
    rw [lowerAfter_of_small (small_joined ?_), firstPieces_joined (List.cons_ne_nil _ _) (by simp)]
    · simp [regular.arch.2, regular.vendor.2, free]
    · simp only [List.forall_mem_cons, List.not_mem_nil, false_implies, implies_true, and_true]
      exact ⟨small.1, small.2.1, fun c mem => small.2.2.1 c (kept.subset mem)⟩
  · next some_char =>
    rw [← toList_text, lowerAfter_of_small, firstPieces_text regular]
    rw [toList_text]
    apply small_joined
    simpa [written, some_char] using small

theorem parse_text_of_lowered {t : Triple} (lowered : t.Lowered) :
    parse t.text = t.withoutBlank := by
  rw [parse, components_text lowered, withoutBlank]
  split
  · next none =>
    simp [ofComponents, orUnknown_toList lowered.arch.1, orUnknown_toList lowered.vendor.1, none]
  · exact ofComponents_written lowered.toRegular

/-! ## Blanks that are left -/

theorem getLast?_orUnknown_filled {component : List Char}
    (back : ∀ c ∈ component.getLast?, isBlank c = false) :
    ∀ c ∈ (orUnknown component).toList.getLast?, isBlank c = false := by
  rw [orUnknown]
  split
  · exact isBlank_of_eq_some (c := 'n') rfl (by decide +kernel)
  · rwa [String.toList_ofList]

theorem getLast?_rdropWhile_filled (cs : List Char) :
    ∀ c ∈ (cs.rdropWhile isBlank).getLast?, isBlank c = false := by
  intro c last
  obtain ⟨ne, rfl⟩ := List.mem_getLast?_eq_getLast last
  simpa using List.rdropWhile_last_not isBlank cs ne

def Filled (t : Triple) : Prop :=
  t.environment = "" → ∀ c ∈ t.os.toList.getLast?, isBlank c = false

theorem filled_withoutBlank (t : Triple) : t.withoutBlank.Filled := by
  rw [withoutBlank]
  split
  · exact fun _ => getLast?_orUnknown_filled (getLast?_rdropWhile_filled t.os.toList)
  · next some_char => exact fun none => absurd none some_char

theorem withoutBlank_eq_self_iff {t : Triple} (regular : t.Regular) :
    t.withoutBlank = t ↔ t.Filled := by
  constructor
  · intro same
    rw [← same]
    exact filled_withoutBlank t
  · intro filled
    rw [withoutBlank]
    split
    · next none => rw [rdropWhile_of_back (filled none), orUnknown_toList regular.os.1]
    · rfl

/-- A text with nothing behind its third dash and a blank in front of it. -/
def LeavesBlank (s : String) : Prop :=
  ∃ arch vendor os : List Char, ∃ c : Char,
    '-' ∉ arch ∧ '-' ∉ vendor ∧ '-' ∉ os ∧ isBlank c = true ∧
      (lower (strip s)).toList = joined ['-'] [arch, vendor, os ++ [c], []]

theorem filled_ofComponents {components : List (List Char)} (few : components.length ≤ 4)
    (back : ∀ c ∈ (joined ['-'] components).getLast?, isBlank c = false)
    (other : ∀ arch vendor os c, isBlank c = true → components ≠ [arch, vendor, os ++ [c], []]) :
    (ofComponents components).Filled := by
  match components, few, back, other with
  | [], _, _, _ | [_], _, _, _ => exact fun _ => @getLast?_orUnknown_filled [] nofun
  | [arch, os], _, back, _ =>
    exact fun _ => getLast?_orUnknown_filled (getLast?_filled_of_joined [arch] back)
  | [arch, vendor, os], _, back, _ =>
    exact fun _ => getLast?_orUnknown_filled (getLast?_filled_of_joined [arch, vendor] back)
  | [arch, vendor, os, environment], _, _, other =>
    intro none
    obtain rfl : environment = [] := by simpa [ofComponents] using none
    refine getLast?_orUnknown_filled fun c ends => Bool.eq_false_iff.mpr fun blank => ?_
    obtain ⟨front, rfl⟩ := List.getLast?_eq_some_iff.mp ends
    exact other arch vendor front c blank rfl

theorem leavesBlank_iff (s : String) : LeavesBlank s ↔ ¬ (parse s).Filled := by
  constructor
  · rintro ⟨arch, vendor, os, c, archFree, vendorFree, osFree, blank, whole⟩ filled
    have other : c ≠ '-' := by
      rintro rfl
      exact absurd blank (by decide +kernel)
    have read : components s = [arch, vendor, os ++ [c], []] := by
      rw [components, whole, firstPieces_joined (List.cons_ne_nil _ _) (by simp)]
      simp [archFree, vendorFree, osFree, other.symm]
    have target : parse s = ofComponents [arch, vendor, os ++ [c], []] := congrArg ofComponents read
    have last : c ∈ (parse s).os.toList.getLast? := by simp [target, ofComponents, orUnknown]
    have ends := filled (by rw [target]; rfl) c last
    exact absurd blank (Bool.eq_false_iff.mp ends)
  · refine not_imp_comm.mp fun none => ?_
    have back := (trimmed_lower_strip s).back
    have free : ∀ piece ∈ (components s).take 3, '-' ∉ piece :=
      fun piece mem => not_mem_of_mem_take_firstPieces mem
    rw [← joined_components] at back
    refine filled_ofComponents (length_firstPieces_le '-' 3 _) back ?_
    intro arch vendor os c blank read
    rw [read] at free
    simp only [List.take_succ_cons, List.take_zero, List.forall_mem_cons, List.mem_append,
      not_or] at free
    refine none ⟨arch, vendor, os, c, free.1, free.2.1, free.2.2.1.1, blank, ?_⟩
    rw [← joined_components, read]

/-! ## All texts -/

theorem triple_of_find {c : Config} {settings : Settings} {present : String → Bool}
    {given : Option Engine} {fresh : Engine} {t : Toolchain}
    (found : (Toolchain.find c settings present given fresh).result = .ok t) :
    t.triple.os = "kush" ∧ ∃ s, t.triple = parse s := by
  rw [Toolchain.result_find] at found
  obtain ⟨triple, target, found⟩ := exists_of_bind_ok found
  split at found
  case isFalse => cases found
  case isTrue served =>
    cases found
    refine ⟨served, ?_⟩
    cases named : c.triple <;> rw [Config.target, named] at target
    case none => cases target
    case some text => exact ⟨text, (Except.ok.inj target).symm⟩

/-- What a normalised text means, and that reading it changes nothing but a blank that was left. The
architecture of the archives is the same in any case, and a target that there is a toolchain for is
the one that the compiler reads. -/
theorem parse_text (s : String) :
    parse (parse s).text = (parse s).withoutBlank ∧
      (parse (parse s).text = parse s ↔ ¬ LeavesBlank s) ∧
      (parse (parse s).text).archiveArch = (parse s).archiveArch ∧
      parse (parse (parse s).text).text = parse (parse s).text ∧
      ∀ c settings present given fresh t d args,
        (Toolchain.find c settings present given fresh).result = .ok t →
        (t.compileArgs d).result = .ok args →
          ∃ more, args = "-triple" :: t.triple.text :: more ∧ parse t.triple.text = t.triple := by
  have again (text : String) : parse (parse text).text = (parse text).withoutBlank :=
    parse_text_of_lowered (lowered_parse text)
  have filled (text : String) : (parse text).Filled → (parse text).withoutBlank = parse text :=
    (withoutBlank_eq_self_iff (regular_parse text)).mpr
  refine ⟨again s, ?_, ?_, ?_, ?_⟩
  · rw [again, leavesBlank_iff, not_not, withoutBlank_eq_self_iff (regular_parse s)]
  · rw [again, archiveArch, archiveArch, arch_withoutBlank]
  · rw [again, filled (parse s).text]
    rw [again]
    exact filled_withoutBlank (parse s)
  · intro c settings present given fresh t d args found arguments
    obtain ⟨served, text, read⟩ := triple_of_find found
    have kush : t.triple.Filled := by
      rw [Filled, served]
      exact fun _ => isBlank_of_eq_some (c := 'h') rfl (by decide +kernel)
    rw [Toolchain.result_compileArgs] at arguments
    obtain ⟨cxx, -, arguments⟩ := exists_of_bind_ok arguments
    obtain ⟨system, -, arguments⟩ := exists_of_bind_ok arguments
    cases arguments
    refine ⟨_, rfl, ?_⟩
    rw [read, again]
    exact filled text (read ▸ kush)

theorem parse_text_arm :
    (Toolchain.find { triple := some " ARM-kush" } {} fun _ => false).result =
        .ok ⟨{}, ⟨"arm", "unknown", "kush", ""⟩, "", fun _ => false, 0⟩ ∧
      parse "arm-unknown-kush" = ⟨"arm", "unknown", "kush", ""⟩ := by
  have triple : parse " ARM-kush" = ⟨"arm", "unknown", "kush", ""⟩ := by decide +kernel
  have found : (Toolchain.find { triple := some " ARM-kush" } {} fun _ => false).result =
      .ok ⟨{}, ⟨"arm", "unknown", "kush", ""⟩, "", fun _ => false, 0⟩ := by
    rw [Toolchain.result_find_of_target _ _ _ _ rfl, triple]
    rfl
  obtain ⟨more, -, same⟩ := (parse_text " ARM-kush").2.2.2.2 _ _ _ _ _ _ {} _ found rfl
  exact ⟨found, same⟩

/-- A blank in front of the last dash is a part of the operating system, until the normalised text
is read. -/
theorem parse_text_blank :
    LeavesBlank "x86_64-unknown-kush -" ∧
      parse "x86_64-unknown-kush -" = { arch := "x86_64", os := "kush " } ∧
      parse (parse "x86_64-unknown-kush -").text = { arch := "x86_64", os := "kush" } := by
  refine ⟨⟨"x86_64".toList, "unknown".toList, "kush".toList, ' ', ?_⟩, ?_⟩
  · decide +kernel
  · decide +kernel

end Triple

end CrossDriver
