import Mathlib.Data.List.Count
import Mathlib.Data.List.Nodup
import SpriteStage.Proofs.Json.Records

/-! # Fields among other members

A record whose fields have defaults is read from an object with any of them, wherever they stand and
whatever else is there. What spoils the object is a field that is given twice, or a value of a kind that
no field has.

* `HasChosen` — of some names, the members have those that have been chosen, once each
* `record?_of_hasChosen`, `default?_knownFields` — what is then read
* `Spoils`, `record?_obj_eq_some` — members that no record is read from
-/

namespace SpriteStage.Json

set_option autoImplicit false

variable {α : Type} {names : List String} {chosen : String → Bool}
  {members : List (String × Json)} {name : String} {value : Json}

/-- The members with known names, as the fields of a record. -/
def knownFields (names : List String) (members : List (String × Json)) : Record :=
  ⟨true, members.filter fun member => names.contains member.1⟩

theorem mem_knownFields (known : name ∈ names) :
    (name, value) ∈ (knownFields names members).fields ↔ (name, value) ∈ members := by
  rw [knownFields, List.mem_filter, List.contains_iff_mem]
  exact and_iff_left known

theorem map_fst_knownFields (names : List String) (members : List (String × Json)) :
    (knownFields names members).fields.map Prod.fst =
      (members.map Prod.fst).filter fun name => names.contains name := by
  rw [List.filter_map]
  rfl

theorem selectFields?_eq (names : List String) (members : List (String × Json)) :
    selectFields? names members =
      if ((knownFields names members).fields.map Prod.fst).Nodup then
        some (knownFields names members).fields
      else none :=
  rfl

/-- A field whose name stands there only once is found by it. -/
theorem find?_of_mem {r : Record} (distinct : (r.fields.map Prod.fst).Nodup)
    (member : (name, value) ∈ r.fields) : r.find? name = some value := by
  unfold Record.find?
  cases found : r.fields.find? fun field => field.1 == name with
  | none => exact absurd (beq_self_eq_true name) (List.find?_eq_none.mp found _ member)
  | some field =>
    have same := List.find?_some found
    have one := List.inj_on_of_nodup_map distinct (List.mem_of_find?_eq_some found) member
    rw [one (eq_of_beq same)]
    rfl

/-! ## The chosen fields -/

/-- Of the known names, the members have exactly those that are chosen, once each. -/
def HasChosen (names : List String) (chosen : String → Bool) (members : List (String × Json)) :
    Prop :=
  ∀ name ∈ names, (members.map Prod.fst).count name = if chosen name then 1 else 0

instance : Decidable (HasChosen names chosen members) :=
  inferInstanceAs (Decidable (∀ name ∈ names, _))

theorem HasChosen.chosen_iff (has : HasChosen names chosen members) (known : name ∈ names) :
    chosen name = true ↔ ∃ value, (name, value) ∈ members := by
  have there : name ∈ members.map Prod.fst ↔ ∃ value, (name, value) ∈ members := by
    simp only [List.mem_map, Prod.exists, exists_and_right, exists_eq_right]
  rw [← there, ← List.count_pos_iff, has name known]
  cases chosen name <;> decide

theorem nodup_knownFields (has : HasChosen names chosen members) :
    ((knownFields names members).fields.map Prod.fst).Nodup := by
  rw [map_fst_knownFields]
  refine List.nodup_iff_count_le_one.mpr fun name => ?_
  by_cases known : name ∈ names
  · rw [List.count_filter (List.contains_iff_mem.mpr known), has name known]
    split <;> decide
  · have absent : name ∉ (members.map Prod.fst).filter fun name => names.contains name :=
      fun kept => known (List.contains_iff_mem.mp (List.mem_filter.mp kept).2)
    rw [List.count_eq_zero_of_not_mem absent]
    exact Nat.zero_le 1

theorem record?_of_hasChosen (has : HasChosen names chosen members) :
    (ofMembers members).record? names = some (knownFields names members) := by
  rw [ofMembers, record?, keys?_ofMembers]
  change (selectFields? names members >>= _) = _
  rw [selectFields?_eq, if_pos (nodup_knownFields has)]
  rfl

/-- A chosen field is read from the only member with its name, and the others are the default. -/
theorem default?_knownFields {read : Json → Option α} {a : α}
    (has : HasChosen names chosen members) (known : name ∈ names)
    (reads : ∀ value, (name, value) ∈ members → read value = some a) (default : α) :
    (knownFields names members).default? name default read =
      some (if chosen name then a else default) := by
  by_cases there : chosen name = true
  · obtain ⟨value, member⟩ := (has.chosen_iff known).mp there
    have found := find?_of_mem (nodup_knownFields has) ((mem_knownFields known).mpr member)
    rw [Record.default?, found, if_pos there]
    exact reads value member
  · have missing : (knownFields names members).find? name = none := by
      rw [Record.find?, Option.map_eq_none_iff, List.find?_eq_none]
      intro field kept same
      obtain rfl : field.1 = name := eq_of_beq same
      exact there ((has.chosen_iff known).mpr ⟨field.2, (mem_knownFields known).mp kept⟩)
    rw [Record.default?, missing, if_neg there]

/-! ## What spoils a record -/

/-- Null, a boolean or a string. -/
def isBare : Json → Bool
  | .null | .bool _ | .str _ => true
  | _ => false

/-- A known name stands there twice, or has a value that is bare. -/
def Spoils (names : List String) (members : List (Literal × Json)) : Prop :=
  ∃ name ∈ names, 2 ≤ (members.map Prod.fst).count (some name) ∨
    ∃ value, (some name, value) ∈ members ∧ value.isBare = true

theorem members_of_keys? {members : List (Literal × Json)} {named : List (String × Json)}
    (found : keys? members = some named) :
    members = named.map fun (key, value) => (some key, value) := by
  induction members generalizing named with
  | nil =>
    cases found
    rfl
  | cons member members ih =>
    rw [keys?, List.mapM_cons] at found
    obtain ⟨first, head, found⟩ := Option.bind_eq_some_iff.mp found
    obtain ⟨rest, later, found⟩ := Option.bind_eq_some_iff.mp found
    cases found
    obtain ⟨key, same, rfl⟩ := Option.map_eq_some_iff.mp head
    rw [List.map_cons, ← ih later]
    exact congrArg (· :: members) (Prod.ext same rfl)

/-- If a record is read at all, a known name stands there at most once, and its value is found. -/
theorem record?_obj_eq_some {members : List (Literal × Json)} {r : Record}
    (found : record? names (.obj members) = some r) (known : name ∈ names) :
    (members.map Prod.fst).count (some name) ≤ 1 ∧
      ∀ value, (some name, value) ∈ members → r.find? name = some value := by
  obtain ⟨named, keys, selected⟩ := Option.bind_eq_some_iff.mp found
  obtain ⟨fields, selected, same⟩ := Option.bind_eq_some_iff.mp selected
  obtain rfl := members_of_keys? keys
  rw [selectFields?_eq, Option.ite_none_right_eq_some] at selected
  obtain ⟨distinct, selected⟩ := selected
  obtain rfl : knownFields names named = r := by
    cases selected
    exact Option.some.inj same
  refine ⟨?_, fun value member => find?_of_mem distinct ?_⟩
  · have once := List.nodup_iff_count_le_one.mp distinct name
    rw [map_fst_knownFields, List.count_filter (List.contains_iff_mem.mpr known)] at once
    have keys : (named.map fun (key, value) => ((some key : Literal), value)).map Prod.fst =
        (named.map Prod.fst).map some := by
      rw [List.map_map, List.map_map]
      rfl
    rwa [keys, List.count_map_of_injective _ _ (Option.some_injective _)]
  · obtain ⟨field, there, same⟩ := List.mem_map.mp member
    have key : field.1 = name := Option.some.inj (congrArg Prod.fst same)
    have content : field.2 = value := congrArg Prod.snd same
    rw [mem_knownFields known, ← key, ← content]
    exact there

/-- A record whose known fields all are read from values that are not bare was not spoilt. -/
theorem not_spoils_of_record? {members : List (Literal × Json)} {r : Record}
    (found : record? names (.obj members) = some r)
    (reads : ∀ name ∈ names, ∀ value, r.find? name = some value → value.isBare = false) :
    ¬ Spoils names members := by
  rintro ⟨name, known, twice | ⟨value, member, bare⟩⟩
  · exact Nat.lt_irrefl 1 (Nat.le_trans twice (record?_obj_eq_some found known).1)
  · have there := (record?_obj_eq_some found known).2 value member
    rw [reads name known value there] at bare
    cases bare

/-- A reader that takes no bare value. -/
def Refuses (read : Json → Option α) : Prop :=
  ∀ j : Json, j.isBare = true → read j = none

theorem Refuses.not_bare {read : Json → Option α} (refuses : Refuses read) {r : Record}
    {default a : α} (found : r.default? name default read = some a)
    (there : r.find? name = some value) : value.isBare = false := by
  have got : read value = some a := by rwa [Record.default?, there] at found
  by_contra bare
  rw [refuses value (Bool.eq_true_of_not_eq_false bare)] at got
  cases got

theorem refuses_toFloat? : Refuses toFloat? := by
  intro j bare
  cases j <;> first | rfl | cases bare

theorem refuses_toInt64? : Refuses toInt64? := by
  intro j bare
  cases j <;> first | rfl | cases bare

theorem refuses_toUInt64? : Refuses toUInt64? := by
  intro j bare
  cases j <;> first | rfl | cases bare

theorem refuses_record? (names : List String) : Refuses (record? names) := by
  intro j bare
  cases j <;> first | rfl | cases bare

end SpriteStage.Json
