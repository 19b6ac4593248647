import Mathlib.Data.List.Induction
import FindQuery.Json.Basic

namespace FindQuery

theorem eraseDups_concat (names : List String) (name : String) :
    (names ++ [name]).eraseDups = if name ∈ names then names.eraseDups else names.eraseDups ++ [name] := by
  rw [List.eraseDups_append]
  split <;> simp [List.removeAll, List.eraseDups_cons, *]

theorem nodup_eraseDups (names : List String) : names.eraseDups.Nodup := by
  induction names using List.reverseRecOn with
  | nil => simp
  | append_singleton names name ih =>
    rw [eraseDups_concat]
    split
    · exact ih
    · next fresh =>
      rw [List.nodup_append]
      refine ⟨ih, by simp, ?_⟩
      intro found member last single same
      rw [List.mem_singleton] at single
      rw [same, single, List.mem_eraseDups] at member
      exact fresh member

namespace Fields

theorem hasKey_eq_isSome (fields : Fields) (key : String) : hasKey fields key = (get? key fields).isSome := by
  induction fields with
  | nil => rfl
  | cons field rest ih =>
    simp only [hasKey, keys, List.map_cons, List.contains_cons, get?] at ih ⊢
    rw [ih]
    by_cases same : field.1 = key
    · rw [if_pos same, beq_iff_eq.mpr same.symm]
      rfl
    · rw [if_neg same, beq_eq_false_iff_ne.mpr (Ne.symm same)]
      rfl

theorem mem_keys_iff {key : String} {fields : Fields} : key ∈ keys fields ↔ (get? key fields).isSome = true := by
  rw [← hasKey_eq_isSome, hasKey, List.contains_iff_mem]

theorem mem_iff_get? {fields : Fields} (distinct : (keys fields).Nodup) (key : String) (value : Json) :
    (key, value) ∈ fields ↔ get? key fields = some value := by
  induction fields with
  | nil => simp [get?]
  | cons field rest ih =>
    obtain ⟨k, old⟩ := field
    simp only [keys, List.map_cons, List.nodup_cons] at distinct ih
    rw [List.mem_cons, get?, ih distinct.2]
    by_cases same : k = key
    · subst same
      have absent : get? k rest ≠ some value := by
        intro found
        apply distinct.1
        have member := (ih distinct.2).mpr found
        exact List.mem_map.mpr ⟨_, member, rfl⟩
      simp [absent, eq_comm]
    · simp [same, Ne.symm same]

theorem get?_filter {keep : String → Bool} {key : String} (kept : keep key = true) (fields : Fields) :
    get? key (fields.filter fun field => keep field.1) = get? key fields := by
  induction fields with
  | nil => rfl
  | cons field rest ih =>
    rw [List.filter_cons, get?]
    by_cases same : field.1 = key
    · rw [if_pos same, same, if_pos kept, get?, if_pos same]
    · rw [if_neg same]
      split
      · rw [get?, if_neg same, ih]
      · exact ih

theorem get?_extend (fields writes : Fields) (key : String) :
    get? key (extend fields writes) = (writes.reverse.lookup key).or (get? key fields) := by
  induction writes generalizing fields with
  | nil => rfl
  | cons write rest ih =>
    have others := ih (fields.insert write.1 write.2)
    rw [get?_insert] at others
    simp only [extend, List.foldl_cons] at others ⊢
    rw [others, List.reverse_cons, List.lookup_append, Option.or_assoc]
    congr 1
    rw [List.lookup_cons, List.lookup_nil]
    by_cases same : key = write.1
    · rw [if_pos same, beq_iff_eq.mpr same]
      rfl
    · rw [if_neg same, beq_eq_false_iff_ne.mpr same]
      rfl

theorem get?_ofList (writes : Fields) (key : String) : get? key (ofList writes) = writes.reverse.lookup key := by
  rw [ofList, get?_extend, get?, Option.or_none]

theorem get?_ofList_of_last {before after : Fields} {key : String} {value : Json} (last : key ∉ keys after) :
    get? key (ofList (before ++ (key, value) :: after)) = some value := by
  have later : after.reverse.lookup key = none := by
    rw [List.lookup_eq_none_iff]
    intro field member
    rw [bne_iff_ne]
    rintro rfl
    exact last (List.mem_map_of_mem (List.mem_reverse.mp member))
  rw [get?_ofList, List.reverse_append, List.reverse_cons, List.append_assoc, List.lookup_append, later]
  simp

theorem insert_of_not_mem {key : String} {value : Json} {fields : Fields} (fresh : key ∉ keys fields) :
    insert key value fields = fields ++ [(key, value)] := by
  induction fields with
  | nil => rfl
  | cons field rest ih =>
    obtain ⟨k, old⟩ := field
    simp only [keys, List.map_cons, List.mem_cons, not_or] at fresh ih
    rw [insert, if_neg (fun same => fresh.1 same.symm), ih fresh.2, List.cons_append]

theorem extend_of_nodup {fields writes : Fields} (distinct : (keys (fields ++ writes)).Nodup) :
    extend fields writes = fields ++ writes := by
  induction writes generalizing fields with
  | nil => exact (List.append_nil fields).symm
  | cons write rest ih =>
    obtain ⟨key, value⟩ := write
    have fresh : key ∉ keys fields := by
      intro member
      simp only [keys, List.map_append, List.map_cons] at distinct member
      exact (List.nodup_append.mp distinct).2.2 key member key (by simp) rfl
    have grouped : fields ++ (key, value) :: rest = (fields ++ [(key, value)]) ++ rest := by simp
    rw [grouped] at distinct ⊢
    have others := ih distinct
    rw [← insert_of_not_mem fresh] at others ⊢
    exact others

theorem ofList_of_nodup {fields : Fields} (distinct : (keys fields).Nodup) : ofList fields = fields :=
  extend_of_nodup distinct

theorem keys_insert_of_mem {key : String} {value : Json} {fields : Fields} (there : key ∈ keys fields) :
    keys (insert key value fields) = keys fields := by
  induction fields with
  | nil => cases there
  | cons field rest ih =>
    unfold insert
    split
    · rfl
    · next other =>
      simp only [keys, List.map_cons, List.mem_cons] at there ih ⊢
      rw [ih (there.resolve_left (Ne.symm other))]

theorem ofList_concat (writes : Fields) (write : String × Json) :
    ofList (writes ++ [write]) = (ofList writes).insert write.1 write.2 := by
  rw [ofList, extend, List.foldl_append]
  rfl

theorem keys_ofList (writes : Fields) : keys (ofList writes) = (keys writes).eraseDups := by
  induction writes using List.reverseRecOn with
  | nil => rfl
  | append_singleton writes write ih =>
    have names : keys (writes ++ [write]) = keys writes ++ [write.1] := by simp [keys]
    rw [ofList_concat, names, eraseDups_concat]
    split
    · next there => rw [keys_insert_of_mem (by simpa [ih] using there), ih]
    · next fresh =>
      rw [insert_of_not_mem (by simpa [ih] using fresh)]
      simp [keys] at ih ⊢
      exact ih

theorem mem_of_mem_insert {key : String} {value : Json} {fields : Fields} {field : String × Json}
    (member : field ∈ fields.insert key value) : field = (key, value) ∨ field ∈ fields := by
  induction fields with
  | nil => exact .inl (List.mem_singleton.mp member)
  | cons first rest ih =>
    unfold insert at member
    split at member
    · next same =>
      rcases List.mem_cons.mp member with rfl | member
      · exact .inl (by rw [same])
      · exact .inr (List.mem_cons_of_mem _ member)
    · rcases List.mem_cons.mp member with rfl | member
      · exact .inr List.mem_cons_self
      · exact (ih member).imp_right (List.mem_cons_of_mem _)

theorem mem_of_mem_extend {fields writes : Fields} {field : String × Json} (member : field ∈ fields.extend writes) :
    field ∈ fields ∨ field ∈ writes := by
  induction writes generalizing fields with
  | nil => exact .inl member
  | cons write rest ih =>
    rcases ih member with there | later
    · rcases mem_of_mem_insert there with rfl | there
      · exact .inr List.mem_cons_self
      · exact .inl there
    · exact .inr (List.mem_cons_of_mem _ later)

theorem mem_of_mem_ofList {writes : Fields} {field : String × Json} (member : field ∈ ofList writes) :
    field ∈ writes := (mem_of_mem_extend member).resolve_left List.not_mem_nil

theorem insert_ne_nil (key : String) (value : Json) (fields : Fields) : insert key value fields ≠ [] := by
  cases fields with
  | nil => simp [insert]
  | cons field rest =>
    unfold insert
    split <;> simp

theorem extend_ne_nil {fields : Fields} (some : fields ≠ []) (writes : Fields) : extend fields writes ≠ [] := by
  induction writes generalizing fields with
  | nil => exact some
  | cons write rest ih => exact ih (insert_ne_nil write.1 write.2 fields)

theorem ofList_ne_nil {writes : Fields} (some : writes ≠ []) : ofList writes ≠ [] := by
  cases writes with
  | nil => exact absurd rfl some
  | cons write rest => exact extend_ne_nil (insert_ne_nil write.1 write.2 []) rest

end Fields

end FindQuery
