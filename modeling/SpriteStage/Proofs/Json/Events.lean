import SpriteStage.Event.Json
import SpriteStage.Proofs.Json.Literals
import SpriteStage.Proofs.Json.Scenes

/-! # Events, written and read

Events read back as they were written. The tag decides which fields there are; it is found because
no field of an event is called like the tag itself, and because all fields are definite.

* `RunId.ofText?_text` — ids of plays
* `Duration.ofJson?_toJson` — durations, as far as their seconds fit into 64 bits
* `Event.ofJson?_toJson` — events
* `Event.held_of_ofJson?` — what all events have in common that have been read
-/

namespace SpriteStage

set_option autoImplicit false

open Json (Record Kept Faithful faithful_float record?_ofMembers strictRecord?_ofMembers
  tagged?_ofMembers isDefinite_ofMembers isDefinite_ofString isDefinite_ofInt isDefinite_ofUInt64
  isDefinite_ofFloat toIntWithin?_ofInt toUInt64?_ofUInt64 toString?_ofString hexValue?_digitChar)

/-! ## Ids of plays -/

theorem length_hexDigits (count n : Nat) : (hexDigits count n).length = count := by
  induction count generalizing n with
  | zero => rfl
  | succ count ih => rw [hexDigits, List.length_append, ih, List.length_singleton]

/-- The last digits of a number are those of its remainder. -/
theorem mapM_hexDigits (count n : Nat) :
    ∃ values, (hexDigits count n).mapM hexValue? = some values ∧ values.length = count ∧
      values.foldl (fun n v => 16 * n + v) 0 = n % 16 ^ count := by
  induction count generalizing n with
  | zero => exact ⟨[], rfl, rfl, (Nat.mod_one n).symm⟩
  | succ count ih =>
    obtain ⟨values, read, length, value⟩ := ih (n / 16)
    have digit := hexValue?_digitChar (Nat.mod_lt n (show 0 < 16 by decide))
    refine ⟨values ++ [n % 16], ?_, by rw [List.length_append, length]; rfl, ?_⟩
    · rw [hexDigits, List.mapM_append, read]
      simp [digit]
    · rw [List.foldl_append, value, List.foldl_cons, List.foldl_nil, Nat.pow_succ,
        Nat.mul_comm _ 16, Nat.mod_mul]
      omega

namespace RunId

theorem ofDigits?_hexDigits (id : RunId) : ofDigits? (hexDigits 32 id.bits.toNat) = some id := by
  obtain ⟨values, read, length, value⟩ := mapM_hexDigits 32 id.bits.toNat
  have small : id.bits.toNat % 16 ^ 32 = id.bits.toNat := Nat.mod_eq_of_lt id.bits.isLt
  rw [ofDigits?, read]
  show (if values.length = 32 then some (RunId.mk (BitVec.ofNat 128 _)) else none) = _
  rw [if_pos length, value, small, BitVec.ofNat_toNat, BitVec.setWidth_eq]

/-- Five groups of digits with hyphens between them. -/
def grouped (digits : List Char) : List Char :=
  digits.take 8 ++ '-' :: ((digits.drop 8).take 4 ++ '-' :: ((digits.drop 12).take 4 ++
    '-' :: ((digits.drop 16).take 4 ++ '-' :: (digits.drop 20).take 12)))

theorem toList_text (id : RunId) : id.text.toList = grouped (hexDigits 32 id.bits.toNat) := by
  simp [text, grouped]

theorem length_grouped {digits : List Char} (length : digits.length = 32) :
    (grouped digits).length = 36 := by
  simp [grouped, length]

theorem ofGroups?_grouped {digits : List Char} (length : digits.length = 32) :
    ofGroups? (grouped digits) = ofDigits? digits := by
  have parts : digits.take 8 ++ (digits.drop 8).take 4 ++ (digits.drop 12).take 4 ++
      (digits.drop 16).take 4 ++ (digits.drop 20).take 12 = digits := by
    rw [← List.take_add, ← List.take_add, ← List.take_add, ← List.take_add]
    exact List.take_of_length_le (Nat.le_of_eq length)
  have hyphens : (grouped digits).length = 36 ∧ (grouped digits)[8]? = some '-' ∧
      (grouped digits)[13]? = some '-' ∧ (grouped digits)[18]? = some '-' ∧
      (grouped digits)[23]? = some '-' :=
    ⟨length_grouped length, by simp [grouped, length]⟩
  rw [ofGroups?, if_pos hyphens]
  congr 1
  refine Eq.trans ?_ parts
  simp [grouped, List.drop_append, List.drop_take, length]

theorem ofText?_text (id : RunId) : ofText? id.text = some id := by
  have length := length_hexDigits 32 id.bits.toNat
  have whole := length_grouped length
  unfold ofText?
  dsimp only
  rw [toList_text, whole, if_neg (by decide), if_neg (by omega), if_neg (by omega),
    ofGroups?_grouped length, ofDigits?_hexDigits]

theorem ofJson?_toJson (id : RunId) : ofJson? id.toJson = some id := by
  rw [ofJson?, toJson, toString?_ofString, Option.bind_eq_bind, Option.bind_some, ofText?_text]

end RunId

/-! ## Durations -/

namespace Duration

/-- The seconds of a duration fit into 64 bits. -/
def Fits (d : Duration) : Prop :=
  d.nanos / 1000000000 ≤ greatestUInt64

theorem ofJson?_parts {secs nanos : Nat} (long : secs ≤ greatestUInt64)
    (short : nanos < 1000000000) :
    ofJson? (.ofMembers [("secs", .ofInt secs), ("nanos", .ofInt nanos)]) =
      some ⟨secs * 1000000000 + nanos⟩ := by
  have first := toIntWithin?_ofInt (Int.natCast_nonneg secs) long
  have second : (Json.ofInt nanos).toIntWithin? 0 4294967295 = some (nanos : Int) :=
    toIntWithin?_ofInt (Int.natCast_nonneg nanos) (by omega)
  simp [ofJson?, strictRecord?_ofMembers, Record.require?, Record.find?, first, second]
  omega

theorem ofJson?_toJson {d : Duration} (fits : d.Fits) : ofJson? d.toJson = some d := by
  rw [toJson, ofJson?_parts fits (Nat.mod_lt _ (by decide)), Nat.div_add_mod']

theorem fits_of_ofJson? (j : Json) (d : Duration) (found : ofJson? j = some d) : d.Fits := by
  obtain ⟨r, -, found⟩ := Option.bind_eq_some_iff.mp found
  obtain ⟨secs, -, found⟩ := Option.bind_eq_some_iff.mp found
  obtain ⟨nanos, -, found⟩ := Option.bind_eq_some_iff.mp found
  dsimp only at found
  split at found
  · next fits =>
    cases found
    exact fits
  · cases found

theorem isDefinite_toJson {d : Duration} (fits : d.Fits) (room : Nat) :
    d.toJson.isDefinite (room + 1) = true := by
  rw [Fits, greatestUInt64] at fits
  have secs := isDefinite_ofInt room (n := ((d.nanos / 1000000000 : Nat) : Int)) (by omega)
  have nanos := isDefinite_ofInt room (n := ((d.nanos % 1000000000 : Nat) : Int)) (by omega)
  rw [toJson, isDefinite_ofMembers, List.all_cons, List.all_cons, secs, nanos]
  rfl

end Duration

/-! ## Poses and kinds of bubbles -/

theorem Position.isDefinite_toJson {p : Position} (kept : ∀ x ∈ p.floats, Kept x) (room : Nat) :
    p.toJson.isDefinite (room + 1) = true := by
  have x := isDefinite_ofFloat (kept p.x (by simp [floats])) room
  have y := isDefinite_ofFloat (kept p.y (by simp [floats])) room
  rw [toJson, isDefinite_ofMembers, List.all_cons, List.all_cons, x, y]
  rfl

namespace Pose

/-- The doubles of a pose. -/
def floats (pose : Pose) : List Float :=
  pose.position.floats ++ [pose.angle]

theorem faithful : Faithful toJson ofJson? floats where
  back pose kept := by
    simp only [floats, List.forall_mem_append] at kept
    have position := Position.faithful.back pose.position kept.1
    have angle := faithful_float.back pose.angle kept.2
    simp [ofJson?, toJson, record?_ofMembers, Record.require?, Record.find?, position, angle]
  finite j pose found := by
    obtain ⟨r, -, found⟩ := Option.bind_eq_some_iff.mp found
    obtain ⟨position, first, found⟩ := Option.bind_eq_some_iff.mp found
    obtain ⟨angle, second, found⟩ := Option.bind_eq_some_iff.mp found
    cases found
    exact List.forall_mem_append.mpr ⟨Record.holds_require? Position.faithful.finite first,
      Record.holds_require? faithful_float.finite second⟩

theorem isDefinite_toJson {pose : Pose} (kept : ∀ x ∈ pose.floats, Kept x) (room : Nat) :
    pose.toJson.isDefinite (room + 2) = true := by
  simp only [floats, List.forall_mem_append] at kept
  have position := Position.isDefinite_toJson kept.1 room
  have angle := isDefinite_ofFloat (kept.2 pose.angle (by simp)) (room + 1)
  rw [toJson, isDefinite_ofMembers, List.all_cons, List.all_cons, position, angle]
  rfl

end Pose

theorem BubbleKind.ofEventJson?_toJson (kind : BubbleKind) :
    ofEventJson? kind.toJson = some kind := by
  cases kind <;> rfl

/-! ## Events -/

namespace Event

/-- The doubles of an event. -/
def floats : Event → List Float
  | poseCommitted _ pose _ => pose.floats
  | markerShown position _ => position.floats
  | _ => []

/-- The durations of an event. -/
def durations : Event → List Duration
  | playStarted _ _ => []
  | messageShown _ _ _ time duration => [time, duration]
  | messageCleared _ time => [time]
  | poseCommitted _ _ time => [time]
  | collisionResolved _ _ time => [time]
  | markerShown _ time => [time]
  | markerCleared time => [time]
  | playFinished _ time => [time]

theorem ofFields?_fieldsJson {event : Event} (kept : ∀ x ∈ event.floats, Kept x)
    (fits : ∀ d ∈ event.durations, d.Fits) :
    ofFields? event.tag (.ofMembers event.fieldsJson) = some event := by
  cases event with
  | playStarted run sprites =>
    simp [ofFields?, tag, fieldsJson, record?_ofMembers, Record.require?, Record.find?,
      RunId.ofJson?_toJson, toUInt64?_ofUInt64]
  | messageShown sprite kind text time duration =>
    have time := Duration.ofJson?_toJson (fits time (by simp [durations]))
    have duration := Duration.ofJson?_toJson (fits duration (by simp [durations]))
    simp [ofFields?, tag, fieldsJson, record?_ofMembers, Record.require?, Record.find?,
      SpriteId.ofJson?_toJson, BubbleKind.ofEventJson?_toJson, toString?_ofString, time, duration]
  | messageCleared sprite time =>
    have time := Duration.ofJson?_toJson (fits time List.mem_cons_self)
    simp [ofFields?, tag, fieldsJson, record?_ofMembers, Record.require?, Record.find?,
      SpriteId.ofJson?_toJson, time]
  | poseCommitted sprite pose time =>
    have pose := Pose.faithful.back pose kept
    have time := Duration.ofJson?_toJson (fits time List.mem_cons_self)
    simp [ofFields?, tag, fieldsJson, record?_ofMembers, Record.require?, Record.find?,
      SpriteId.ofJson?_toJson, pose, time]
  | collisionResolved first second time =>
    have time := Duration.ofJson?_toJson (fits time List.mem_cons_self)
    simp [ofFields?, tag, fieldsJson, record?_ofMembers, Record.require?, Record.find?,
      SpriteId.ofJson?_toJson, time]
  | markerShown position time =>
    have position := Position.faithful.back position kept
    have time := Duration.ofJson?_toJson (fits time List.mem_cons_self)
    simp [ofFields?, tag, fieldsJson, record?_ofMembers, Record.require?, Record.find?, position,
      time]
  | markerCleared time =>
    have time := Duration.ofJson?_toJson (fits time List.mem_cons_self)
    simp [ofFields?, tag, fieldsJson, record?_ofMembers, Record.require?, Record.find?, time]
  | playFinished run time =>
    have time := Duration.ofJson?_toJson (fits time List.mem_cons_self)
    simp [ofFields?, tag, fieldsJson, record?_ofMembers, Record.require?, Record.find?,
      RunId.ofJson?_toJson, time]

theorem isDefinite_fieldsJson {event : Event} (kept : ∀ x ∈ event.floats, Kept x)
    (fits : ∀ d ∈ event.durations, d.Fits) (room : Nat) :
    ∀ field ∈ event.fieldsJson, field.2.isDefinite (room + 2) = true := by
  have time : ∀ d ∈ event.durations, d.toJson.isDefinite (room + 2) = true :=
    fun d member => Duration.isDefinite_toJson (fits d member) (room + 1)
  cases event with
  | poseCommitted sprite pose moment =>
    have pose := Pose.isDefinite_toJson kept room
    simp only [durations, List.forall_mem_cons] at time
    simp [fieldsJson, SpriteId.toJson, isDefinite_ofUInt64, pose, time]
  | markerShown position moment =>
    have position := Position.isDefinite_toJson kept (room + 1)
    simp only [durations, List.forall_mem_cons] at time
    simp [fieldsJson, position, time]
  | _ =>
    simp only [durations, List.forall_mem_cons] at time
    simp [fieldsJson, SpriteId.toJson, RunId.toJson, BubbleKind.toJson, isDefinite_ofUInt64,
      isDefinite_ofString, time]

theorem ofJson?_toJson {event : Event} (kept : ∀ x ∈ event.floats, Kept x)
    (fits : ∀ d ∈ event.durations, d.Fits) : ofJson? event.toJson = some event := by
  have other : "event" ∉ event.fieldsJson.map Prod.fst := by
    cases event <;> simp [fieldsJson]
  rw [ofJson?, toJson]
  -- of the levels that may be nested in each other an event needs three
  show (Json.tagged? "event" (126 + 1) _ >>= _) = _
  rw [tagged?_ofMembers (isDefinite_fieldsJson kept fits 124) other]
  exact ofFields?_fieldsJson kept fits

theorem held_of_ofFields? (tag : String) (j : Json) (event : Event)
    (found : ofFields? tag j = some event) :
    (∀ x ∈ event.floats, x.isFinite = true) ∧ ∀ d ∈ event.durations, d.Fits := by
  have fits {r : Record} {name : String} {d : Duration}
      (read : r.require? name Duration.ofJson? = some d) : d.Fits :=
    Record.holds_require? Duration.fits_of_ofJson? read
  unfold ofFields? at found
  split at found <;> simp only [Option.bind_eq_bind, Option.bind_eq_some_iff, Option.pure_def,
    Option.some.injEq, reduceCtorEq] at found
  · obtain ⟨_, -, _, -, _, -, rfl⟩ := found
    simp [floats, durations]
  · obtain ⟨_, -, _, -, _, -, _, -, time, readTime, duration, readDuration, rfl⟩ := found
    simp [floats, durations, fits readTime, fits readDuration]
  · obtain ⟨_, -, _, -, time, readTime, rfl⟩ := found
    simp [floats, durations, fits readTime]
  · obtain ⟨_, -, _, -, pose, readPose, time, readTime, rfl⟩ := found
    refine ⟨Record.holds_require? Pose.faithful.finite readPose, ?_⟩
    simp [durations, fits readTime]
  · obtain ⟨_, -, _, -, _, -, time, readTime, rfl⟩ := found
    simp [floats, durations, fits readTime]
  · obtain ⟨_, -, position, readPosition, time, readTime, rfl⟩ := found
    refine ⟨Record.holds_require? Position.faithful.finite readPosition, ?_⟩
    simp [durations, fits readTime]
  · obtain ⟨_, -, time, readTime, rfl⟩ := found
    simp [floats, durations, fits readTime]
  · obtain ⟨_, -, _, -, time, readTime, rfl⟩ := found
    simp [floats, durations, fits readTime]

theorem held_of_ofJson? (j : Json) (event : Event) (found : ofJson? j = some event) :
    (∀ x ∈ event.floats, x.isFinite = true) ∧ ∀ d ∈ event.durations, d.Fits := by
  obtain ⟨⟨tag, fields⟩, -, found⟩ := Option.bind_eq_some_iff.mp found
  exact held_of_ofFields? tag fields event found

end Event

end SpriteStage
