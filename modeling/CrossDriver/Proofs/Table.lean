import CrossDriver.Table

namespace CrossDriver.Table

variable {α : Type}

theorem get?_eq_none_iff {t : Table α} {key : String} :
    t.get? key = none ↔ key ∉ t.keys := by
  induction t with
  | nil => simp [get?, keys]
  | cons entry rest ih =>
    obtain ⟨name, value⟩ := entry
    rw [get?]
    by_cases own : name = key
    · simp [own, keys]
    · rw [if_neg own, ih]
      simp [keys, Ne.symm own]

theorem mem_of_get? {t : Table α} {key : String} {value : α} (found : t.get? key = some value) :
    (key, value) ∈ t := by
  induction t with
  | nil => cases found
  | cons entry rest ih =>
    obtain ⟨name, old⟩ := entry
    rw [get?] at found
    split at found
    case isTrue own =>
      cases found
      exact own ▸ .head _
    case isFalse => exact .tail _ (ih found)

theorem get?_append (t u : Table α) (key : String) :
    get? (t ++ u) key = (t.get? key).or (u.get? key) := by
  induction t with
  | nil => rfl
  | cons entry rest ih =>
    obtain ⟨name, value⟩ := entry
    rw [List.cons_append, get?, get?, ih]
    split <;> rfl

theorem mem_keys_put {t : Table α} {key name : String} {value : α} :
    name ∈ (t.put key value).keys ↔ name = key ∨ name ∈ t.keys := by
  induction t with
  | nil => simp [put, keys]
  | cons entry rest ih => grind [put, keys]

theorem nodup_keys_put {t : Table α} (unique : t.keys.Nodup) (key : String)
    (value : α) : (t.put key value).keys.Nodup := by
  induction t with
  | nil => simp [put, keys]
  | cons entry rest ih =>
    obtain ⟨name, old⟩ := entry
    obtain ⟨fresh, later⟩ := List.nodup_cons.mp unique
    rw [put]
    split
    case isTrue own => exact own ▸ unique
    case isFalse other =>
      refine List.nodup_cons.mpr ⟨fun mem => ?_, ih later⟩
      rcases mem_keys_put.mp mem with same | old
      · exact other same
      · exact fresh old

theorem mem_or_of_mem_put {t : Table α} {entry : String × α} {key : String} {value : α}
    (mem : entry ∈ t.put key value) : entry ∈ t ∨ value = entry.2 := by
  induction t with
  | nil => exact .inr (by rw [List.mem_singleton.mp mem])
  | cons first rest ih => grind [put]

theorem put_of_fresh {t : Table α} {key : String} (fresh : key ∉ t.keys) (value : α) :
    t.put key value = t ++ [(key, value)] := by
  induction t with
  | nil => rfl
  | cons entry rest ih =>
    obtain ⟨name, old⟩ := entry
    obtain ⟨other, later⟩ := not_or.mp (mt List.mem_cons.mpr fresh)
    rw [put, if_neg (Ne.symm other), ih later]
    rfl

def last? (entries : List (String × α)) (key : String) : Option α :=
  get? entries.reverse key

theorem last?_cons (entry : String × α) (rest : List (String × α)) (key : String) :
    last? (entry :: rest) key =
      (last? rest key).or (if entry.1 = key then some entry.2 else none) := by
  rw [last?, List.reverse_cons, get?_append]
  rfl

theorem get?_foldl_put (entries : List (String × α)) (t : Table α) (key : String) :
    (entries.foldl (fun t e => t.put e.1 e.2) t).get? key = (last? entries key).or (t.get? key) := by
  induction entries generalizing t with
  | nil => rfl
  | cons entry rest ih =>
    rw [List.foldl_cons, ih, get?_put, last?_cons, Option.or_assoc]
    split <;> rfl

theorem get?_ofList (entries : List (String × α)) (key : String) :
    (ofList entries).get? key = last? entries key := by
  rw [ofList, get?_foldl_put]
  exact Option.or_none

theorem nodup_keys_ofList (entries : List (String × α)) :
    (Table.ofList entries).keys.Nodup := by
  have step (t : Table α) (unique : t.keys.Nodup) :
      (entries.foldl (fun t e => t.put e.1 e.2) t).keys.Nodup := by
    induction entries generalizing t with
    | nil => exact unique
    | cons entry rest ih => exact ih _ (nodup_keys_put unique _ _)
  exact step [] List.nodup_nil

theorem exists_of_mem_foldl_put {entries : List (String × α)} {entry : String × α} {t : Table α}
    (mem : entry ∈ entries.foldl (fun t e => t.put e.1 e.2) t) :
    entry ∈ t ∨ ∃ other ∈ entries, other.2 = entry.2 := by
  induction entries generalizing t with
  | nil => exact .inl mem
  | cons first rest ih =>
    rcases ih mem with before | ⟨other, among, same⟩
    · rcases mem_or_of_mem_put before with old | own
      · exact .inl old
      · exact .inr ⟨first, .head _, own⟩
    · exact .inr ⟨other, .tail _ among, same⟩

theorem exists_of_mem_ofList {entries : List (String × α)} {entry : String × α}
    (mem : entry ∈ ofList entries) : ∃ other ∈ entries, other.2 = entry.2 :=
  (exists_of_mem_foldl_put mem).resolve_left List.not_mem_nil

theorem ofList_of_nodup {entries : List (String × α)} (distinct : (entries.map Prod.fst).Nodup) :
    ofList entries = entries := by
  have step (t : Table α) (unique : (t.keys ++ entries.map Prod.fst).Nodup) :
      entries.foldl (fun t e => t.put e.1 e.2) t = t ++ entries := by
    induction entries generalizing t with
    | nil => exact (List.append_nil t).symm
    | cons entry rest ih =>
      have fresh : entry.1 ∉ t.keys := fun mem =>
        (List.nodup_append.mp unique).2.2 _ mem _ (.head _) rfl
      rw [List.foldl_cons, put_of_fresh fresh, ih (List.nodup_cons.mp distinct).2,
        List.append_assoc, List.singleton_append]
      simpa [keys] using unique
  exact step [] distinct

end CrossDriver.Table
