import CrossDriver.Proofs.FileTree.Write
import CrossDriver.Proofs.Json.RoundTrip
import CrossDriver.Proofs.Json.WholeTexts
import CrossDriver.Proofs.Settings.Load
import CrossDriver.Proofs.Settings.LookUp

namespace CrossDriver

namespace Settings

def Whole (s : Settings) : Prop :=
  ∀ key value, s.get key = some value → Text.Whole value.toList

def held (s : Settings) : Settings :=
  ⟨s.installDir.map Text.held, s.driverDir.map Text.held, s.resourceDir.map Text.held,
    s.clangVersion.map Text.held, s.linker.map Text.held, s.triple.map Text.held⟩

theorem get_held (s : Settings) (key : Key) : s.held.get key = (s.get key).map Text.held := by
  cases key <;> rfl

theorem whole_held (s : Settings) : s.held.Whole := by
  intro key value given
  rw [get_held] at given
  obtain ⟨plain, -, rfl⟩ := Option.map_eq_some_iff.mp given
  rw [Text.held, String.toList_ofList]
  exact Text.whole_hold plain.toList

/-! ## What is written -/

def member (s : Settings) (key : Key) : String × Json :=
  (key.name, match s.get key with
    | some value => .text value
    | none => .null)

theorem toTable_eq_map (s : Settings) : s.toTable = Key.all.map s.member := rfl

theorem nodup_keys_toTable (s : Settings) : s.toTable.keys.Nodup := by
  have names : s.toTable.keys = Key.all.map Key.name := by
    rw [toTable_eq_map, Table.keys, List.map_map]
    rfl
  rw [names]
  decide

theorem get?_toTable (s : Settings) (key : Key) :
    s.toTable.get? key.name = some (s.member key).2 := by
  cases key <;> rfl

theorem valueText_member (s : Settings) (key : Key) : valueText (s.member key).2 = s.get key := by
  unfold member
  cases s.get key <;> rfl

theorem textual_member {s : Settings} (whole : s.Whole) (key : Key) :
    (s.member key).2.Textual := by
  have own := whole key
  unfold member
  cases given : s.get key with
  | none => trivial
  | some value => exact own value given

theorem textual_toTable {s : Settings} (whole : s.Whole) : (Json.object s.toTable).Textual := by
  refine ⟨nodup_keys_toTable s, ?_⟩
  have name_whole (key : Key) : Text.Whole key.name.toList := by
    cases key <;> exact Text.whole_literal (by decide)
  have keys (keys : List Key) : Json.TextualMembers (keys.map s.member) := by
    induction keys with
    | nil => trivial
    | cons key rest ih => exact ⟨name_whole key, textual_member whole key, ih⟩
  exact keys Key.all

theorem depth_toTable (s : Settings) : (Json.object s.toTable).depth = 1 := by
  have flat (keys : List Key) : Json.depthMembers (keys.map s.member) = 0 := by
    induction keys with
    | nil => rfl
    | cons key rest ih =>
      rw [List.map_cons, Json.depthMembers, ih]
      unfold member
      cases s.get key <;> rfl
  rw [Json.depth, toTable_eq_map, flat]

theorem toList_fileText (s : Settings) :
    s.fileText.toList = Json.writeAt 0 (.object s.toTable) ++ ['\n'] := by
  rw [fileText, Json.write, String.toList_append, String.toList_ofList]
  rfl

theorem plain_fileText {s : Settings} (whole : s.Whole) : ∀ c ∈ s.fileText.toList, Json.Plain c := by
  rw [toList_fileText]
  refine Json.plain_append (Json.plain_writeAt 0 (textual_toTable whole)) fun c mem => ?_
  exact .inr (List.mem_singleton.mp mem)

theorem read_fileText {s : Settings} (whole : s.Whole) {limits : Json.Limits}
    (roomy : 0 < limits.levels) :
    Json.read s.fileText.toList limits = .ok (.object s.toTable) := by
  apply Json.read_write_line (textual_toTable whole)
  rw [depth_toTable]
  exact roomy

/-! ## Saving and loading -/

theorem settled_toTable (s : Settings) : settled [] s.toTable = s := by
  apply eq_of_get
  intro key
  have silent : fromEnvironment? [] key = none := by cases key <;> rfl
  rw [get_settled [] (nodup_keys_toTable s), silent, get?_toTable]
  exact valueText_member s key

theorem lookUp_of_plain {files : FileView} {limits : Json.Limits} {path text : String}
    {members : Table Json} (found : files (.ofString path) = .file text.toUTF8)
    (plain : ∀ c ∈ text.toList, Json.Plain c)
    (read : Json.read text.toList limits = .ok (.object members)) :
    lookUp files path limits = .ok members := by
  have unified : Text.unifyLineEnds text.toList = text.toList := by
    apply Text.unifyLineEnds_of_no_return
    intro mem
    rcases plain _ mem with visible | line
    · exact absurd visible.1 (by decide)
    · cases line
  have holds : Holds files path text.toList := ⟨_, _, found, fromUTF8?_toUTF8 text, unified⟩
  rw [lookUp_of_holds holds, read]

theorem load_saved {s : Settings} (whole : s.Whole) {limits : Json.Limits} (roomy : 0 < limits.levels)
    {tree saved : FileTree} {path : String} (given : s.save tree path = .ok saved) :
    (load saved.find (some path) [] limits).result = .ok s := by
  have found : lookUp saved.find path limits = .ok s.toTable :=
    lookUp_of_plain (FileTree.find_write given) (plain_fileText whole) (read_fileText whole roomy)
  rw [result_load_of_lookUp found, settled_toTable]

/-! ## Settings that were loaded -/

theorem whole_valueText {json : Json} (whole : json.WholeText) {value : String}
    (given : valueText json = some value) : Text.Whole value.toList := by
  cases json <;> cases given <;> exact Json.whole_asText whole

theorem whole_settled {environment : Table String} {members : Table Json}
    (unique : members.keys.Nodup)
    (outside : ∀ name value, environment.get? name = some value → Text.Whole value.toList)
    (inside : ∀ member ∈ members, member.2.WholeText) : (settled environment members).Whole := by
  intro key value given
  rw [get_settled environment unique] at given
  split at given
  case h_1 told =>
    cases given
    obtain ⟨name, -, set⟩ := Option.bind_eq_some_iff.mp told
    exact outside name value (Option.filter_eq_some_iff.mp set).1
  case h_2 found =>
    exact whole_valueText (inside _ (Table.mem_of_get? found)) given
  case h_3 =>
    cases key <;> cases given <;> exact Text.whole_literal (by decide)

theorem whole_of_load {files : FileView} {path : Option String} {environment : Table String}
    {limits : Json.Limits}
    (outside : ∀ name value, environment.get? name = some value → Text.Whole value.toList)
    {s : Settings} (loaded : (load files path environment limits).result = .ok s) : s.Whole := by
  rw [result_load, result_loadMembers] at loaded
  cases path with
  | none =>
    obtain rfl : settled environment [] = s := Except.ok.inj loaded
    exact whole_settled List.nodup_nil outside fun _ mem => nomatch mem
  | some path =>
    dsimp only at loaded
    cases found : lookUp files path limits with
    | error fault =>
      rw [found] at loaded
      cases loaded
    | ok members =>
      rw [found] at loaded
      obtain rfl : settled environment members = s := Except.ok.inj loaded
      obtain ⟨cs, -, read⟩ := ((lookUp_outcome files limits path).1 members).mp found
      exact whole_settled (Json.nodup_keys_of_read read) outside (Json.wholeText_of_read read)

/-- Settings survive saving, whatever characters they are made of and wherever they are written: the
file is an ASCII text with an object, and loading it gives the settings back. That goes for all
settings that are ever loaded. The reader only has to get through one level. -/
theorem settings_survive_saving {limits : Json.Limits} (roomy : 0 < limits.levels) :
    (∀ plain : Settings, plain.held.Whole) ∧
    (∀ s : Settings, s.Whole →
      (∀ c ∈ s.fileText.toList, c.toNat < 0x80) ∧
      Json.read s.fileText.toList limits = .ok (.object s.toTable) ∧
      ∀ tree path saved, s.save tree path = .ok saved →
        saved.find (.ofString path) = .file s.fileText.toUTF8 ∧
        (load saved.find (some path) [] limits).result = .ok s) ∧
    ∀ files source environment deep s,
      (∀ name value, Table.get? environment name = some value → Text.Whole value.toList) →
      (load files source environment deep).result = .ok s → s.Whole ∧
        ∀ tree path saved, s.save tree path = .ok saved →
          (load saved.find (some path) [] limits).result = .ok s := by
  refine ⟨whole_held, fun s whole => ⟨fun c mem => ?_, read_fileText whole roomy, ?_⟩, ?_⟩
  · rcases plain_fileText whole c mem with visible | rfl
    · have high := visible.2
      omega
    · decide
  · exact fun tree path saved given =>
      ⟨FileTree.find_write given, load_saved whole roomy given⟩
  · intro files source environment deep s outside loaded
    have whole := whole_of_load outside loaded
    exact ⟨whole, fun tree path saved given => load_saved whole roomy given⟩

theorem odd_settings_survive_saving :
    let plain : Settings := {
      installDir := some ("\"\\\r\n\t\x00é".push (Char.ofNat 0xDD800)), linker := none }
    let tree : FileTree := ⟨[], [], ["work", "dir"]⟩
    let saved : FileTree :=
      ⟨[(["etc", "s.json"], plain.held.fileText.toUTF8)], [["etc"]], ["work", "dir"]⟩
    let lone := String.ofList [Text.standIn 0xd800]
    let source : Table Json :=
      [("linker", .array [.bool true, .text "a"]), ("triple", .text lone), ("driver_dir", .null)]
    let s : Settings := {
      driverDir := some "/d", linker := some "[True, 'a']", triple := some lone }
    let again : FileTree := ⟨[(["work", "s.json"], s.fileText.toUTF8)], [], ["work", "dir"]⟩
    plain.held.save tree "/etc/s.json" = .ok saved ∧
      (load saved.find (some "/etc/s.json") []).result = .ok plain.held ∧
      (load (fun _ => .file (Json.write (.object source)).toUTF8) (some "in.json")
        [("KUSHTC_DRIVER_DIR", "/d")]).result = .ok s ∧
      s.save tree "../s.json" = .ok again ∧
      (load again.find (some "../s.json") []).result = .ok s := by
  intro plain tree saved lone source s again
  have first : plain.held.save tree "/etc/s.json" = .ok saved := rfl
  have second : s.save tree "../s.json" = .ok again := rfl
  have loaded : (load (fun _ => .file (Json.write (.object source)).toUTF8) (some "in.json")
      [("KUSHTC_DRIVER_DIR", "/d")]).result = .ok s := by
    have lone_whole : Text.Whole lone.toList := by
      rw [String.toList_ofList]
      exact Text.whole_singleton _
    have proper {s : String} (plain : s.toList.all fun c => (Text.standsFor? c).isNone) :
        Text.Whole s.toList :=
      Text.whole_of_no_standIn (Text.standsFor?_eq_none_of_all plain)
    have textual : (Json.object source).Textual :=
      ⟨by decide, proper (by decide), ⟨trivial, proper (by decide), trivial⟩,
        proper (by decide), lone_whole, proper (by decide), trivial, trivial⟩
    have written : (Json.write (.object source)).toList = Json.writeAt 0 (.object source) ++ [] := by
      rw [Json.write, String.toList_ofList, List.append_nil]
    have plain := Json.plain_writeAt 0 textual
    rw [← List.append_nil (Json.writeAt 0 _), ← written] at plain
    have no_blanks : ∀ c ∈ ([] : List Char), Json.isSpace c := by simp
    have shallow : (Json.object source).depth ≤ ({} : Json.Limits).levels := by decide
    have read := Json.read_write textual shallow no_blanks
    rw [← written] at read
    exact result_load_of_lookUp (lookUp_of_plain rfl plain read) _
  have outside : ∀ name value, Table.get? [("KUSHTC_DRIVER_DIR", "/d")] name = some value →
      Text.Whole value.toList := by
    intro name value found
    obtain ⟨-, rfl⟩ := Prod.mk.inj (List.mem_singleton.mp (Table.mem_of_get? found))
    exact Text.whole_of_no_standIn (Text.standsFor?_eq_none_of_all (by decide))
  have roomy : 0 < ({} : Json.Limits).levels := by decide
  obtain ⟨whole, each, later⟩ := settings_survive_saving roomy
  exact ⟨first, ((each plain.held (whole plain)).2.2 _ _ _ first).2, loaded, second,
    (later _ _ _ _ s outside loaded).2 _ _ _ second⟩

end Settings

end CrossDriver
