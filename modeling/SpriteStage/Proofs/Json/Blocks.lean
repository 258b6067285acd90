import SpriteStage.Block.Basic
import SpriteStage.Proofs.Json.Records

/-! # Blocks, written and read

Programs and blocks ready to be performed read back as they were written. Numbers and texts of
parameters are told apart by their JSON alone, and values by name are listed in order already.

* `Param.faithful`, `Values.faithful` — parameters
* `ActionList.faithful` — programs
* `Block.faithful_list` — lists of blocks ready to be performed
-/

namespace SpriteStage

set_option autoImplicit false

open Json (Record Kept Faithful mapM_map_of_back exists_of_mem_mapM record?_ofMembers
  tagged?_ofMembers toInt64?_ofInt64 toString?_ofString isDefinite_ofInt64 isDefinite_ofString)

/-! ## Parameters -/

namespace Param

/-- The double in a parameter. -/
def floats : Param → List Float
  | number x => [x]
  | text _ => []

theorem ofJson?_eq_number {j : Json} {x : Float} :
    ofJson? j = some (.number x) ↔ ∃ n, j = .num n ∧ n.toFloat? = some x := by
  constructor
  · intro found
    cases j with
    | num n =>
      obtain ⟨y, value, same⟩ := Option.map_eq_some_iff.mp found
      cases same
      exact ⟨n, rfl, value⟩
    | str s =>
      obtain ⟨_, -, same⟩ := Option.map_eq_some_iff.mp found
      cases same
    | _ => cases found
  · rintro ⟨n, rfl, value⟩
    rw [ofJson?, value]
    rfl

theorem ofJson?_eq_text {j : Json} {s : String} :
    ofJson? j = some (.text s) ↔ j = .ofString s := by
  constructor
  · intro found
    cases j with
    | num n =>
      obtain ⟨_, -, same⟩ := Option.map_eq_some_iff.mp found
      cases same
    | str literal =>
      obtain ⟨t, rfl, same⟩ := Option.map_eq_some_iff.mp found
      cases same
      rfl
    | _ => cases found
  · rintro rfl
    rfl

theorem faithful : Faithful toJson ofJson? floats where
  back param kept := by
    cases param with
    | number x =>
      have ⟨finite, back⟩ := kept x List.mem_cons_self
      exact ofJson?_eq_number.mpr ⟨_, if_pos finite, back⟩
    | text s => rfl
  finite j param found x member := by
    cases param with
    | number y =>
      obtain rfl := List.mem_singleton.mp member
      obtain ⟨n, -, value⟩ := ofJson?_eq_number.mp found
      exact Numeral.isFinite_toFloat? value
    | text s => cases member

end Param

/-! ## Values by name -/

namespace Values

theorem mem_insertEntry {name : String} {value : Param} {entries : List (String × Param)}
    {e : String × Param} (found : e ∈ insertEntry name value entries) :
    e = (name, value) ∨ e ∈ entries := by
  induction entries with
  | nil => exact .inl (List.mem_singleton.mp found)
  | cons entry rest ih =>
    unfold insertEntry at found
    split at found
    · exact List.mem_cons.mp found
    split at found
    · exact (List.mem_cons.mp found).imp_right (List.mem_cons_of_mem entry)
    · rcases List.mem_cons.mp found with rfl | found
      · exact .inr List.mem_cons_self
      · exact (ih found).imp_right (List.mem_cons_of_mem entry)

theorem insertEntry_last {name : String} (value : Param) {entries : List (String × Param)}
    (last : ∀ e ∈ entries, e.1 < name) :
    insertEntry name value entries = entries ++ [(name, value)] := by
  induction entries with
  | nil => rfl
  | cons entry rest ih =>
    have before : entry.1 < name := last entry List.mem_cons_self
    have other : name ≠ entry.1 := fun same => String.lt_irrefl name (by rwa [← same] at before)
    rw [insertEntry, if_neg (fun after => String.lt_irrefl name (String.lt_trans after before)),
      if_neg other, ih fun e member => last e (List.mem_cons_of_mem entry member)]
    rfl

/-- Puts all entries under their names, one after the other. -/
def insertAll (values : Values) (entries : List (String × Param)) : Values :=
  entries.foldl (fun values entry => values.insert entry.1 entry.2) values

theorem mem_insertAll {entries : List (String × Param)} {values : Values} {e : String × Param}
    (found : e ∈ (values.insertAll entries).entries) : e ∈ values.entries ∨ e ∈ entries := by
  induction entries generalizing values with
  | nil => exact .inl found
  | cons entry rest ih =>
    rcases ih found with before | later
    · rcases mem_insertEntry before with rfl | before
      · exact .inr List.mem_cons_self
      · exact .inl before
    · exact .inr (List.mem_cons_of_mem entry later)

theorem entries_insertAll {entries : List (String × Param)} {values : Values}
    (ordered : (values.entries ++ entries).Pairwise fun a b => a.1 < b.1) :
    (values.insertAll entries).entries = values.entries ++ entries := by
  induction entries generalizing values with
  | nil => exact (List.append_nil _).symm
  | cons entry rest ih =>
    have inserted : (values.insert entry.1 entry.2).entries = values.entries ++ [entry] :=
      insertEntry_last entry.2 fun e member =>
        (List.pairwise_append.mp ordered).2.2 e member entry List.mem_cons_self
    rw [List.append_cons, ← inserted] at ordered
    rw [insertAll, List.foldl_cons]
    refine (ih ordered).trans ?_
    rw [inserted, List.append_assoc]
    rfl

theorem ofList_entries (values : Values) : ofList values.entries = values := by
  have same : (ofList values.entries).entries = values.entries := by
    refine entries_insertAll ?_
    exact values.ordered
  cases h : ofList values.entries
  cases values
  rw [h] at same
  cases same
  rfl

/-- The doubles among the values. -/
def floats (values : Values) : List Float :=
  values.entries.flatMap fun entry => entry.2.floats

theorem faithful : Faithful toJson ofJson? floats where
  back values kept := by
    refine Option.bind_eq_some_iff.mpr ⟨values.entries, ?_, congrArg some (ofList_entries values)⟩
    rw [List.map_map]
    refine mapM_map_of_back fun entry member => ?_
    show (do return (entry.1, ← Param.ofJson? entry.2.toJson)) = some entry
    rw [Param.faithful.back entry.2 fun x inside =>
      kept x (List.mem_flatMap.mpr ⟨entry, member, inside⟩)]
    rfl
  finite j values found x member := by
    cases j with
    | obj members =>
      obtain ⟨entries, read, found⟩ := Option.bind_eq_some_iff.mp found
      cases found
      obtain ⟨entry, among, inside⟩ := List.mem_flatMap.mp member
      have listed : entry ∈ entries := (mem_insertAll among).resolve_left List.not_mem_nil
      obtain ⟨⟨key, value⟩, -, read⟩ := exists_of_mem_mapM read listed
      obtain ⟨name, -, read⟩ := Option.bind_eq_some_iff.mp read
      obtain ⟨param, value, read⟩ := Option.bind_eq_some_iff.mp read
      cases read
      exact Param.faithful.finite _ _ value x inside
    | _ => cases found

end Values

/-! ## Programs -/

theorem BlockKind.ofName?_name (kind : BlockKind) : ofName? kind.name = some kind := by
  cases kind <;> rfl

theorem BlockKind.ofJson?_toJson (kind : BlockKind) : ofJson? kind.toJson = some kind :=
  ofName?_name kind

namespace BlockInstance

/-- The doubles among the values of a block. -/
def floats (block : BlockInstance) : List Float :=
  block.values.floats

theorem faithful : Faithful toJson ofJson? floats where
  back block kept := by
    have values := Values.faithful.back block.values kept
    simp [ofJson?, toJson, record?_ofMembers, Record.require?, Record.default?, Record.find?,
      BlockKind.ofJson?_toJson, values]
  finite j block found := by
    obtain ⟨r, -, found⟩ := Option.bind_eq_some_iff.mp found
    obtain ⟨kind, -, found⟩ := Option.bind_eq_some_iff.mp found
    obtain ⟨values, read, found⟩ := Option.bind_eq_some_iff.mp found
    cases found
    exact Record.holds_default? (P := fun values => ∀ x ∈ values.floats, x.isFinite = true)
      (fun x member => by cases member) Values.faithful.finite read

end BlockInstance

namespace ActionList

/-- The doubles in a program. -/
def floats (list : ActionList) : List Float :=
  list.blocks.flatMap BlockInstance.floats

theorem faithful : Faithful toJson ofJson? floats where
  back list kept := by
    rw [ofJson?, toJson, BlockInstance.faithful.list.back list.blocks kept]
    rfl
  finite j list found := by
    obtain ⟨blocks, read, rfl⟩ := Option.map_eq_some_iff.mp found
    exact BlockInstance.faithful.list.finite j blocks read

end ActionList

/-! ## Blocks ready to be performed -/

namespace Block

theorem unaryOfJson?_ofMembers (name : String) (make : Int64 → Block) (n : Int64) :
    unaryOfJson? name make (.ofMembers [(name, .ofInt64 n)]) = some (make n) := by
  simp [unaryOfJson?, record?_ofMembers, Record.require?, Record.find?, toInt64?_ofInt64]

theorem bubbleOfJson?_ofMembers (kind : BubbleKind) (text : String) (time : Int64) :
    bubbleOfJson? kind (.ofMembers [("text", .ofString text), ("time", .ofInt64 time)]) =
      some (.bubble kind text time) := by
  simp [bubbleOfJson?, record?_ofMembers, Record.require?, Record.find?, toInt64?_ofInt64,
    toString?_ofString]

theorem ofParameters?_parametersJson (block : Block) :
    ofParameters? block.kind (.ofMembers block.parametersJson) = some block := by
  cases block with
  | move steps => exact unaryOfJson?_ofMembers "steps" .move steps
  | turn degrees => exact unaryOfJson?_ofMembers "degrees" .turn degrees
  | goTo x y =>
    simp [kind, parametersJson, ofParameters?, record?_ofMembers, Record.require?, Record.find?,
      toInt64?_ofInt64]
  | again times => exact unaryOfJson?_ofMembers "times" .again times
  | bubble kind text time => cases kind <;> exact bubbleOfJson?_ofMembers _ text time

theorem ofJsonWithin?_toJson (block : Block) (room : Nat) :
    ofJsonWithin? (room + 1) block.toJson = some block := by
  have definite : ∀ field ∈ block.parametersJson, field.2.isDefinite room = true := by
    cases block <;> simp [parametersJson, isDefinite_ofInt64, isDefinite_ofString]
  have other : "kind" ∉ block.parametersJson.map Prod.fst := by
    cases block <;> simp [parametersJson]
  rw [ofJsonWithin?, toJson, BlockKind.toJson, tagged?_ofMembers definite other]
  show (BlockKind.ofName? block.kind.name >>= _) = _
  rw [BlockKind.ofName?_name]
  exact ofParameters?_parametersJson block

theorem faithful_list : Faithful listToJson listOfJson? fun _ => [] :=
  .of_back fun _ => mapM_map_of_back fun block _ => ofJsonWithin?_toJson block _

end Block

end SpriteStage
