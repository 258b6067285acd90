import SpriteStage.Json.Record
import SpriteStage.Proofs.Number.Finite

/-! # Records, written and read

A record that is written as an object with all its fields is found again field by field. Types of
values are put together from this: what each of them needs is that its parts read back.

* `record?_ofMembers`, `tagged?_ofMembers` — the fields of a written record
* `Kept` — a double that the digits written for it denote
* `Faithful` — values read back, and reading yields finite doubles only
* `Faithful.list`, `Faithful.nullable` — lists, and values that may be missing
-/

namespace SpriteStage.Json

set_option autoImplicit false

/-! ## Fields of a written record -/

theorem mapM_map_of_back {α β : Type} {write : α → β} {read : β → Option α} {items : List α}
    (back : ∀ a ∈ items, read (write a) = some a) : (items.map write).mapM read = some items := by
  rw [List.mapM_map]
  induction items with
  | nil => rfl
  | cons a items ih =>
    rw [List.mapM_cons, ih fun b member => back b (List.mem_cons_of_mem a member)]
    show (read (write a) >>= _) = _
    rw [back a List.mem_cons_self]
    rfl

theorem exists_of_mem_mapM {α β : Type} {read : α → Option β} {items : List α} {values : List β}
    (found : items.mapM read = some values) {b : β} (member : b ∈ values) :
    ∃ a ∈ items, read a = some b := by
  induction items generalizing values with
  | nil =>
    cases found
    cases member
  | cons a items ih =>
    rw [List.mapM_cons] at found
    obtain ⟨value, first, found⟩ := Option.bind_eq_some_iff.mp found
    obtain ⟨rest, later, found⟩ := Option.bind_eq_some_iff.mp found
    cases found
    rcases List.mem_cons.mp member with rfl | member
    · exact ⟨a, List.mem_cons_self, first⟩
    · obtain ⟨c, among, read⟩ := ih later member
      exact ⟨c, List.mem_cons_of_mem a among, read⟩

theorem keys?_ofMembers (members : List (String × Json)) :
    keys? (members.map fun (key, value) => (some key, value)) = some members :=
  mapM_map_of_back fun _ _ => rfl

theorem selectFields?_all {names : List String} {members : List (String × Json)}
    (same : members.map Prod.fst = names) (distinct : names.Nodup) :
    selectFields? names members = some members := by
  have known : (members.filter fun member => names.contains member.1) = members := by
    refine List.filter_eq_self.mpr fun member found => ?_
    rw [List.contains_iff_mem, ← same]
    exact List.mem_map_of_mem found
  rw [selectFields?, known]
  exact if_pos (same ▸ distinct)

theorem record?_ofMembers {names : List String} {members : List (String × Json)}
    (same : members.map Prod.fst = names) (distinct : names.Nodup) :
    (ofMembers members).record? names = some ⟨true, members⟩ := by
  rw [ofMembers, record?, keys?_ofMembers]
  show (selectFields? names members >>= _) = _
  rw [selectFields?_all same distinct]
  rfl

theorem strictRecord?_ofMembers {names : List String} {members : List (String × Json)}
    (same : members.map Prod.fst = names) (distinct : names.Nodup) :
    (ofMembers members).strictRecord? names = some ⟨true, members⟩ := by
  have known : (members.all fun field => names.contains field.1) = true := by
    refine List.all_eq_true.mpr fun member found => ?_
    rw [List.contains_iff_mem, ← same]
    exact List.mem_map_of_mem found
  rw [ofMembers, strictRecord?, keys?_ofMembers]
  show (if members.all fun field => names.contains field.1 then _ else none) = _
  rw [if_pos known]
  exact record?_ofMembers same distinct

theorem membersDefinite_ofMembers (room : Nat) (members : List (String × Json)) :
    membersDefinite room (members.map fun (key, value) => (some key, value)) =
      members.all fun member => member.2.isDefinite room := by
  induction members with
  | nil => rfl
  | cons member members ih =>
    rw [List.map_cons, membersDefinite, ih]
    rfl

theorem isDefinite_ofMembers (room : Nat) (members : List (String × Json)) :
    (ofMembers members).isDefinite (room + 1) =
      members.all fun member => member.2.isDefinite room := by
  rw [ofMembers, isDefinite, membersDefinite_ofMembers]

theorem isDefinite_ofString (room : Nat) (s : String) : (ofString s).isDefinite room = true := by
  cases room <;> rfl

/-- Integers of 64 bits denote doubles, not all of them exactly. -/
theorem isDefinite_ofInt (room : Nat) {n : Int} (small : n.natAbs < 2 ^ 64) :
    (ofInt n).isDefinite room = true := by
  rw [ofInt, isDefinite]
  exact Numeral.isSome_toFloat?_ofInt small

theorem isDefinite_ofInt64 (room : Nat) (n : Int64) : (ofInt64 n).isDefinite room = true := by
  have low : leastInt64 ≤ n.toInt := n.minValue_le_toInt
  have high : n.toInt ≤ greatestInt64 := n.toInt_le
  rw [leastInt64] at low
  rw [greatestInt64] at high
  exact isDefinite_ofInt room (by omega)

theorem isDefinite_ofUInt64 (room : Nat) (n : UInt64) : (ofUInt64 n).isDefinite room = true :=
  isDefinite_ofInt room n.toNat_lt

/-- The first member of a record that is written with its tag first, and all the others. -/
theorem partition_members {tag : String} {value : Json} {fields : List (String × Json)}
    (other : tag ∉ fields.map Prod.fst) :
    (((tag, value) :: fields).map fun (key, value) => ((some key : Literal), value)).partition
        (fun member => member.1 == some tag) =
      ([(some tag, value)], fields.map fun (key, value) => (some key, value)) := by
  have apart : ∀ member ∈ fields.map fun (key, value) => ((some key : Literal), value),
      (member.1 == some tag) = false := by
    intro member found
    obtain ⟨field, among, rfl⟩ := List.mem_map.mp found
    refine beq_eq_false_iff_ne.mpr fun same => other ?_
    exact Option.some.inj same ▸ List.mem_map_of_mem among
  have tagged : (fields.map fun (key, value) => ((some key : Literal), value)).filter
      (fun member => member.1 == some tag) = [] :=
    List.filter_eq_nil_iff.mpr fun member found => Bool.eq_false_iff.mp (apart member found)
  have rest : (fields.map fun (key, value) => ((some key : Literal), value)).filter
      (fun member => !(member.1 == some tag)) = fields.map fun (key, value) => (some key, value) :=
    List.filter_eq_self.mpr fun member found => by rw [apart member found]; rfl
  simp [List.partition_eq_filter_filter, Function.comp_def, tagged, rest]

/-- A written record gives its tag and its other fields, provided all of them are definite. -/
theorem tagged?_ofMembers {tag name : String} {room : Nat} {fields : List (String × Json)}
    (definite : ∀ field ∈ fields, field.2.isDefinite room = true)
    (other : tag ∉ fields.map Prod.fst) :
    (ofMembers ((tag, .ofString name) :: fields)).tagged? tag (room + 1) =
      some (name, ofMembers fields) := by
  have all : (ofMembers ((tag, .ofString name) :: fields)).isDefinite (room + 1) = true := by
    rw [isDefinite_ofMembers, List.all_cons, Bool.and_eq_true]
    refine ⟨?_, List.all_eq_true.mpr definite⟩
    cases room <;> rfl
  unfold tagged?
  rw [if_pos all]
  simp only [ofMembers, partition_members other]
  rfl

/-! ## Reading single fields -/

namespace Record

variable {α : Type} {P : α → Prop} {read : Json → Option α} {r : Record} {name : String} {a : α}

theorem holds_require? (holds : ∀ j a, read j = some a → P a)
    (found : r.require? name read = some a) : P a := by
  obtain ⟨j, -, value⟩ := Option.bind_eq_some_iff.mp found
  exact holds j a value

theorem holds_default? {default : α} (standard : P default)
    (holds : ∀ j a, read j = some a → P a) (found : r.default? name default read = some a) :
    P a := by
  unfold default? at found
  split at found
  · next j _ => exact holds j a found
  · cases found
    exact standard

end Record

/-! ## Values and their doubles -/

/-- The digits that are written for a finite double denote it again. -/
structure Kept (x : Float) : Prop where
  finite : x.isFinite = true
  back : (Numeral.ofFloat x).toFloat? = some x

theorem isDefinite_ofFloat {x : Float} (kept : Kept x) (room : Nat) :
    (ofFloat x).isDefinite room = true := by
  rw [ofFloat, if_pos kept.finite, isDefinite, kept.back]
  rfl

/--
Values of a type are faithful to JSON when one whose doubles are kept reads back as it was written,
and the doubles of whatever has been read are finite.
-/
structure Faithful {α : Type} (write : α → Json) (read? : Json → Option α)
    (floats : α → List Float) : Prop where
  back : ∀ a, (∀ x ∈ floats a, Kept x) → read? (write a) = some a
  finite : ∀ j a, read? j = some a → ∀ x ∈ floats a, x.isFinite = true

theorem faithful_float : Faithful ofFloat toFloat? fun x => [x] where
  back x kept := by
    have ⟨finite, back⟩ := kept x List.mem_cons_self
    rw [ofFloat, if_pos finite]
    exact back
  finite j x found y member := by
    obtain rfl := List.mem_singleton.mp member
    cases j with
    | num n => exact Numeral.isFinite_toFloat? found
    | _ => cases found

theorem Faithful.of_back {α : Type} {write : α → Json} {read? : Json → Option α}
    (back : ∀ a, read? (write a) = some a) : Faithful write read? fun _ => [] where
  back a _ := back a
  finite _ _ _ _ member := by cases member

theorem toString?_ofString (s : String) : (ofString s).toString? = some s :=
  rfl

theorem toIntWithin?_ofInt {least greatest n : Int} (low : least ≤ n) (high : n ≤ greatest) :
    (ofInt n).toIntWithin? least greatest = some n := by
  have value : (Numeral.ofInt n).toInt? = some n := by
    unfold Numeral.toInt? Numeral.ofInt
    dsimp only
    rw [if_pos ⟨rfl, rfl⟩]
    split
    · next negative =>
      have := of_decide_eq_true negative
      rw [if_neg (by omega)]
      congr 1
      omega
    · next positive =>
      have : ¬ n < 0 := fun negative => positive (decide_eq_true negative)
      congr 1
      omega
  show (Numeral.ofInt n).toInt?.filter _ = _
  rw [value]
  simp [low, high]

theorem toInt64?_ofInt64 (n : Int64) : (ofInt64 n).toInt64? = some n := by
  have low : leastInt64 ≤ n.toInt := n.minValue_le_toInt
  have high : n.toInt ≤ greatestInt64 := n.toInt_le
  rw [toInt64?, ofInt64, toIntWithin?_ofInt low high]
  simp

theorem toUInt64?_ofUInt64 (n : UInt64) : (ofUInt64 n).toUInt64? = some n := by
  have high : (n.toNat : Int) ≤ greatestUInt64 := Int.ofNat_le.mpr (Nat.le_of_lt_succ n.toNat_lt)
  rw [toUInt64?, ofUInt64, toIntWithin?_ofInt (Int.natCast_nonneg _) high]
  simp

theorem Faithful.list {α : Type} {write : α → Json} {read? : Json → Option α}
    {floats : α → List Float} (item : Faithful write read? floats) :
    Faithful (fun items => .arr (items.map write)) (toList? read?)
      (fun items => items.flatMap floats) where
  back items kept := by
    refine mapM_map_of_back fun a member => item.back a fun x inside => ?_
    exact kept x (List.mem_flatMap.mpr ⟨a, member, inside⟩)
  finite j items found x member := by
    obtain ⟨a, among, inside⟩ := List.mem_flatMap.mp member
    cases j with
    | arr js =>
      obtain ⟨j, -, value⟩ := exists_of_mem_mapM found among
      exact item.finite j a value x inside
    | _ => cases found

theorem Faithful.nullable {α : Type} {write : α → Json} {read? : Json → Option α}
    {floats : α → List Float} (value : Faithful write read? floats)
    (present : ∀ a, write a ≠ .null) :
    Faithful (ofOption write) (Record.nullable? read?) (fun a => a.toList.flatMap floats) where
  back a kept := by
    cases a with
    | none => rfl
    | some a =>
      have read := value.back a fun x member => kept x (by simpa using member)
      rw [ofOption, Record.nullable?, read]
      · rfl
      · exact present a
  finite j a found x member := by
    obtain ⟨b, among, inside⟩ := List.mem_flatMap.mp member
    unfold Record.nullable? at found
    split at found
    · cases found
      cases among
    · obtain ⟨c, read, rfl⟩ := Option.map_eq_some_iff.mp found
      obtain rfl := List.mem_singleton.mp among
      exact value.finite _ _ read x inside

end SpriteStage.Json
