import SpriteStage.Proofs.Json.Events
import SpriteStage.Proofs.Json.Texts

/-! # Texts of scenes, blocks and events

Writing a value and reading the text gives back the value, in either layout. Whatever else a text
may look like from which a value was read, with other fields, fields in another order, fields left
out or arrays for objects, writing that value and reading again changes nothing more.

The digits of a double are the one thing taken for granted, double by double: reading rounds more
than once, so that not every double is denoted by the digits printed for it.

* `RoundTrip` — both directions, for the values of one type
* `texts_read_back` — scenes, lists of blocks, and events
-/

namespace SpriteStage

set_option autoImplicit false

open Json (Record Kept Faithful record?_ofMembers parse? parse?_compact parse?_pretty)

/-- The two texts of a value. -/
def Json.layouts (j : Json) : List String :=
  [j.compact, j.pretty]

/-- The value that a text holds. -/
def readText {α : Type} (read? : Json → Option α) (text : String) : Option α :=
  parse? text >>= read?

/-- The digits printed for a finite double read back as that double. -/
def DigitsReadBack (x : Float) : Prop :=
  x.isFinite = true → (Numeral.ofFloat x).toFloat? = some x

/-- Values keep what they are when they are written and read, and read and written. -/
structure RoundTrip {α : Type} (write : α → Json) (read? : Json → Option α)
    (floats : α → List Float) (fits : α → Prop) : Prop where
  /-- Both texts of a value with finite doubles read back as that value. -/
  written : ∀ a, fits a → (∀ x ∈ floats a, x.isFinite = true) →
    (∀ x ∈ floats a, DigitsReadBack x) →
    ∀ text ∈ (write a).layouts, readText read? text = some a
  /-- A value that was read from any text at all is read again from both its own texts. -/
  accepted : ∀ text a, readText read? text = some a → (∀ x ∈ floats a, DigitsReadBack x) →
    ∀ copy ∈ (write a).layouts, readText read? copy = some a

theorem readText_layouts {α : Type} (read? : Json → Option α) {j : Json} {text : String}
    (layout : text ∈ j.layouts) : readText read? text = read? j := by
  have parsed : parse? text = some j := by
    rcases List.mem_cons.mp layout with rfl | layout
    · exact parse?_compact j
    · rw [List.mem_singleton.mp layout]
      exact parse?_pretty j
  rw [readText, parsed]
  rfl

/-- What holds of JSON values holds of their texts. -/
theorem RoundTrip.of_json {α : Type} {write : α → Json} {read? : Json → Option α}
    {floats : α → List Float} {fits : α → Prop}
    (back : ∀ a, fits a → (∀ x ∈ floats a, Kept x) → read? (write a) = some a)
    (held : ∀ j a, read? j = some a → fits a ∧ ∀ x ∈ floats a, x.isFinite = true) :
    RoundTrip write read? floats fits where
  written a fit finite digits text layout := by
    rw [readText_layouts read? layout]
    exact back a fit fun x member => ⟨finite x member, digits x member (finite x member)⟩
  accepted text a found digits copy layout := by
    obtain ⟨j, -, found⟩ := Option.bind_eq_some_iff.mp found
    have ⟨fit, finite⟩ := held j a found
    rw [readText_layouts read? layout]
    exact back a fit fun x member => ⟨finite x member, digits x member (finite x member)⟩

theorem RoundTrip.of_faithful {α : Type} {write : α → Json} {read? : Json → Option α}
    {floats : α → List Float} (faithful : Faithful write read? floats) :
    RoundTrip write read? floats fun _ => True :=
  .of_json (fun a _ => faithful.back a) fun j a found => ⟨trivial, faithful.finite j a found⟩

/-- Whatever its angle and its program become, a sprite without a position has none again. -/
theorem SceneSprite.position_of_ofJson? {sprite copy : SceneSprite}
    (absent : sprite.position = none) (found : ofJson? sprite.toJson = some copy) :
    copy.position = none := by
  simp only [ofJson?, Option.bind_eq_bind, Option.bind_eq_some_iff, Option.pure_def,
    Option.some.injEq] at found
  obtain ⟨r, fields, _, -, position, read, _, -, _, -, rfl⟩ := found
  rw [toJson, record?_ofMembers (by rfl) (by decide), absent] at fields
  cases fields
  simpa [Record.default?, Record.find?, Json.ofOption, Record.nullable?] using read.symm

theorem texts_read_back :
    RoundTrip Scene.toJson Scene.ofJson? Scene.floats (fun _ => True) ∧
    RoundTrip Block.listToJson Block.listOfJson? (fun _ => []) (fun _ => True) ∧
    RoundTrip Event.toJson Event.ofJson? Event.floats (fun event => ∀ d ∈ event.durations, d.Fits) ∧
    (∀ s, ∀ text ∈ (Param.text s).toJson.layouts, readText Param.ofJson? text = some (.text s)) ∧
    (∀ x s, ∀ text ∈ (Param.number x).toJson.layouts,
      readText Param.ofJson? text ≠ some (.text s)) ∧
    ∀ sprite copy : SceneSprite, sprite.position = none → ∀ text ∈ sprite.toJson.layouts,
      readText SceneSprite.ofJson? text = some copy → copy.position = none := by
  refine ⟨.of_faithful Scene.faithful, .of_faithful Block.faithful_list,
    .of_json (fun event fits kept => Event.ofJson?_toJson kept fits)
      (fun j event found => (Event.held_of_ofJson? j event found).symm), ?_, ?_, ?_⟩
  · intro s text layout
    exact readText_layouts Param.ofJson? layout
  · intro x s text layout found
    rw [readText_layouts Param.ofJson? layout, Param.ofJson?_eq_text, Param.toJson,
      Json.ofFloat] at found
    split at found <;> cases found
  · intro sprite copy absent text layout found
    rw [readText_layouts SceneSprite.ofJson? layout] at found
    exact SceneSprite.position_of_ofJson? absent found

/-- A sprite without a position, facing minus zero, that says what looks like a number. -/
def twelveScene : Scene :=
  ⟨.standard, [⟨"Ada \"Ω\"\n", none, -0.0, ⟨[.speak (.text "12") (.number 2.5)]⟩⟩]⟩

/-- A scene whose only sprite has nothing but a name. -/
def plainScene : Scene :=
  ⟨.standard, [⟨"Ada", none, 0, .empty⟩]⟩

/-- A text of that scene with a field of no meaning, no settings, and its sprite as an array. -/
def plainSceneText : String :=
  "\x7b\"extra\": 1, \"sprites\": [[\"Ada\", null]]\x7d"

/-- A pose on the way down the stage. -/
def poseEvent : Event :=
  .poseCommitted ⟨3⟩ ⟨⟨1.5, -0.0⟩, 720⟩ ⟨1500000000⟩

theorem texts_read_back_twelve :
    ((∀ x ∈ twelveScene.floats, x.isFinite = true) ∧
      (∀ x ∈ twelveScene.floats, DigitsReadBack x) ∧
      readText Scene.ofJson? twelveScene.toJson.pretty = some twelveScene) ∧
    (readText Scene.ofJson? plainSceneText = some plainScene ∧
      (∀ x ∈ plainScene.floats, DigitsReadBack x) ∧
      readText Scene.ofJson? plainScene.toJson.compact = some plainScene) ∧
    ((∀ d ∈ poseEvent.durations, d.Fits) ∧ (∀ x ∈ poseEvent.floats, x.isFinite = true) ∧
      (∀ x ∈ poseEvent.floats, DigitsReadBack x) ∧
      readText Event.ofJson? poseEvent.toJson.compact = some poseEvent) := by
  have twelveFinite : ∀ x ∈ twelveScene.floats, x.isFinite = true := by decide +kernel
  have twelveDigits : ∀ x ∈ twelveScene.floats, DigitsReadBack x := by
    unfold DigitsReadBack
    decide +kernel
  have plainRead : readText Scene.ofJson? plainSceneText = some plainScene := by rfl
  have plainDigits : ∀ x ∈ plainScene.floats, DigitsReadBack x := by
    unfold DigitsReadBack
    decide +kernel
  have poseFits : ∀ d ∈ poseEvent.durations, d.Fits := by
    unfold Duration.Fits
    decide
  have poseFinite : ∀ x ∈ poseEvent.floats, x.isFinite = true := by decide +kernel
  have poseDigits : ∀ x ∈ poseEvent.floats, DigitsReadBack x := by
    unfold DigitsReadBack
    decide +kernel
  have ⟨scenes, _, events, _⟩ := texts_read_back
  exact ⟨⟨twelveFinite, twelveDigits, scenes.written twelveScene trivial twelveFinite twelveDigits _
      (List.mem_cons_of_mem _ List.mem_cons_self)⟩,
    ⟨plainRead, plainDigits, scenes.accepted _ plainScene plainRead plainDigits _
      List.mem_cons_self⟩,
    poseFits, poseFinite, poseDigits, events.written poseEvent poseFits poseFinite poseDigits _
      List.mem_cons_self⟩

end SpriteStage
