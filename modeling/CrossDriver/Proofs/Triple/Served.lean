import CrossDriver.Proofs.CommandLine.Preparation
import CrossDriver.Proofs.Text.FirstPieces

namespace CrossDriver.Triple
open Text

/-- A text that names the platform, and its normalised form. Architecture and vendor hold no dash
and may be empty; what stands behind the platform may be any text. -/
inductive NamesKush : List Char → String → Prop where
  | short {arch : List Char} (archFree : '-' ∉ arch) :
      NamesKush (joined ['-'] [arch, "kush".toList]) (orUnknown arch ++ "-unknown-kush")
  | plain {arch vendor : List Char} (archFree : '-' ∉ arch) (vendorFree : '-' ∉ vendor) :
      NamesKush (joined ['-'] [arch, vendor, "kush".toList])
        (orUnknown arch ++ "-" ++ orUnknown vendor ++ "-kush")
  | further {arch vendor : List Char} (archFree : '-' ∉ arch) (vendorFree : '-' ∉ vendor)
      (environment : List Char) :
      NamesKush (joined ['-'] [arch, vendor, "kush".toList, environment])
        (orUnknown arch ++ "-" ++ orUnknown vendor ++ "-kush" ++
          if environment = [] then "" else "-" ++ String.ofList environment)

theorem orUnknown_eq_kush_iff {component : List Char} :
    orUnknown component = "kush" ↔ component = "kush".toList := by
  constructor
  · intro named
    rw [orUnknown] at named
    split at named
    · exact absurd named (by decide)
    · rw [← named, String.toList_ofList]
  · rintro rfl
    rfl

theorem text_kush (arch vendor environment : String) :
    (⟨arch, vendor, "kush", environment⟩ : Triple).text =
      arch ++ "-" ++ vendor ++ "-kush" ++ if environment = "" then "" else "-" ++ environment := by
  have name : "-kush" = "-" ++ "kush" := rfl
  rw [text, name]
  split <;> simp only [String.append_assoc, String.append_empty]

theorem ofComponents_of_namesKush {u : List Char} {normalised : String}
    (names : NamesKush u normalised) :
    (ofComponents (firstPieces '-' 3 u)).os = "kush" ∧
      (ofComponents (firstPieces '-' 3 u)).text = normalised := by
  cases names with
  | @short arch archFree =>
    rw [firstPieces_joined (List.cons_ne_nil _ _) (by simp) (by simp [archFree])]
    refine ⟨rfl, (text_kush _ _ _).trans ?_⟩
    have vendor : "-unknown-kush" = "-" ++ ("unknown" ++ "-kush") := rfl
    simp [String.append_assoc, vendor]
  | @plain arch vendor archFree vendorFree =>
    rw [firstPieces_joined (List.cons_ne_nil _ _) (by simp) (by simp [archFree, vendorFree])]
    exact ⟨rfl, (text_kush _ _ _).trans (String.append_empty)⟩
  | @further arch vendor archFree vendorFree environment =>
    rw [firstPieces_joined (List.cons_ne_nil _ _) (by simp) (by simp [archFree, vendorFree])]
    refine ⟨rfl, (text_kush _ _ _).trans ?_⟩
    simp

theorem namesKush_of_os {u : List Char}
    (served : (ofComponents (firstPieces '-' 3 u)).os = "kush") :
    ∃ normalised, NamesKush u normalised := by
  -- A text is cut at three dashes at most, and only behind the third may there be more of them.
  have few : (firstPieces '-' 3 u).length ≤ 4 := length_firstPieces_le '-' 3 u
  have free : ∀ piece ∈ (firstPieces '-' 3 u).take 3, '-' ∉ piece :=
    fun _ mem => not_mem_of_mem_take_firstPieces mem
  have whole := joined_firstPieces '-' 3 u
  generalize firstPieces '-' 3 u = pieces at few free whole served
  subst whole
  match pieces, few, free, served with
  | [], _, _, served => exact absurd served (by decide)
  | [_], _, _, served => exact absurd served (by simp [ofComponents])
  | [arch, os], _, free, served =>
    obtain rfl := orUnknown_eq_kush_iff.mp served
    exact ⟨_, .short (free arch (by simp))⟩
  | [arch, vendor, os], _, free, served =>
    obtain rfl := orUnknown_eq_kush_iff.mp served
    exact ⟨_, .plain (free arch (by simp)) (free vendor (by simp))⟩
  | [arch, vendor, os, environment], _, free, served =>
    obtain rfl := orUnknown_eq_kush_iff.mp served
    exact ⟨_, .further (free arch (by simp)) (free vendor (by simp)) environment⟩

/-- There is a toolchain exactly for the texts that name the platform. It is made for the target
with the normalised form of the text; for any other text the fault tells the normalised form. -/
theorem find_iff_namesKush (c : Config) (s : String) (settings : Settings)
    (present : String → Bool) (given : Option Engine) (fresh : Engine) :
    let u := (lower (strip s)).toList
    let found := (Toolchain.find { c with triple := some s } settings present given fresh).result
    ((∃ t, found = .ok t) ↔ ∃ normalised, NamesKush u normalised) ∧
      (∀ normalised, NamesKush u normalised →
        found = .ok ⟨settings, parse s, c.sysroot, present, given.getD fresh⟩ ∧
          (parse s).os = "kush" ∧ (parse s).text = normalised) ∧
      ((¬∃ normalised, NamesKush u normalised) →
        found = .error (.unsupportedTarget (parse s)) ∧
          (Fault.unsupportedTarget (parse s)).message =
            "unsupported target triple: " ++ (parse s).text) := by
  intro u found
  have search : found =
      if (parse s).os = "kush" then .ok ⟨settings, parse s, c.sysroot, present, given.getD fresh⟩
      else .error (.unsupportedTarget (parse s)) :=
    Toolchain.result_find_of_target settings present given fresh rfl
  have named (normalised : String) (names : NamesKush u normalised) :
      (parse s).os = "kush" ∧ (parse s).text = normalised :=
    ofComponents_of_namesKush names
  have unnamed (none : ¬∃ normalised, NamesKush u normalised) : (parse s).os ≠ "kush" :=
    mt namesKush_of_os none
  refine ⟨⟨?_, ?_⟩, ?_, ?_⟩
  · rintro ⟨t, given⟩
    by_cases served : (parse s).os = "kush"
    · exact namesKush_of_os served
    · rw [search, if_neg served] at given
      cases given
  · rintro ⟨normalised, names⟩
    exact ⟨_, search.trans (if_pos (named normalised names).1)⟩
  · intro normalised names
    exact ⟨search.trans (if_pos (named normalised names).1), named normalised names⟩
  · intro none
    exact ⟨search.trans (if_neg (unnamed none)), rfl⟩

theorem find_iff_namesKush_four :
    (Toolchain.find { triple := some " ARM--Kush-a-B" } {} fun _ => false).result =
        .ok ⟨{}, ⟨"arm", "unknown", "kush", "a-b"⟩, "", fun _ => false, 0⟩ ∧
      (parse " ARM--Kush-a-B").text = "arm-unknown-kush-a-b" := by
  have four : NamesKush (lower (strip " ARM--Kush-a-B")).toList "arm-unknown-kush-a-b" := by
    have small : (lower (strip " ARM--Kush-a-B")).toList =
        joined ['-'] ["arm".toList, [], "kush".toList, "a-b".toList] := by decide +kernel
    rw [small]
    exact .further (by decide) (by decide) "a-b".toList
  have read : parse " ARM--Kush-a-B" = ⟨"arm", "unknown", "kush", "a-b"⟩ := by decide +kernel
  obtain ⟨-, served, -⟩ := find_iff_namesKush {} " ARM--Kush-a-B" {} (fun _ => false) none 0
  obtain ⟨found, -, normalised⟩ := served _ four
  exact ⟨read ▸ found, normalised⟩

end CrossDriver.Triple
