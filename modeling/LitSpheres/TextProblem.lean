/-
  What can be wrong with a scene text.

  1. **Three families** — a character that starts no token; tokens that do not follow the grammar; and
     a block that follows the grammar but means nothing.

  2. **Specification** — a problem is a cause with its data; the wording is given once, in `message`.
-/
import LitSpheres.Block
import LitSpheres.Token

namespace LitSpheres

/-- Tokens that do not follow the grammar. -/
inductive GrammarProblem where
  /-- The text ends before its first definition. -/
  | noDefinition
  /-- The text ends inside a block of this kind. -/
  | unclosed (kind : String)
  /-- A block holds something that is neither an assignment nor its closing brace. -/
  | strayInBlock (token : Token)
  /-- The text ends where a value is due. -/
  | noValue
  /-- A token that starts no value stands where one is due. -/
  | notAValue (token : Token)
  /-- The text ends where a token of this kind is due. -/
  | missing (kind : TokenKind)
  /-- Another token stands where a certain kind is due. -/
  | unexpected (demand : String) (token : Token)

namespace GrammarProblem

def message : GrammarProblem → String
  | noDefinition => "A scene needs at least one definition"
  | unclosed kind => s!"Unexpected EOF when parsing {kind} definition"
  | strayInBlock t =>
    s!"Unexpected {t.describe} when parsing definition; expected assignment or closing brace"
  | noValue => "Unexpected EOF when parsing a value"
  | notAValue t => s!"Invalid value: {t.describe}"
  | missing kind => s!"Expected {kind.name} but got EOF"
  | unexpected demand t => s!"Error: {demand} on {t.describe}"

end GrammarProblem

/-- A block that is no definition. -/
inductive MeaningProblem where
  /-- There is no definition of this kind. -/
  | unknownKind (kind : String) (line : Int)
  /-- The block assigns a name that its kind does not have. -/
  | unknownProperty (allowed : List String) (name : String) (line : Int)
  /-- A property needs another kind of value. -/
  | wrongKind (wanted : ValueKind) (name : String) (value : Value)
  /-- A property's number is infinite or no number. -/
  | notFinite (name : String)
  /-- A window side is less than one pixel. -/
  | windowSide (name : String) (size : Float)
  /-- A light without a type or an intensity. -/
  | lightIncomplete (line : Int)
  /-- A light that takes light away. -/
  | negativeIntensity (intensity : Float)
  /-- An ambient light with a position or direction. -/
  | ambientPlaced
  /-- A light that misses the property that its type needs. -/
  | lightLacks (type name : String)
  /-- A light with a property that belongs to another type. -/
  | lightRefuses (type name : String)
  /-- There is no light of this type. -/
  | unknownLight (type : String)
  /-- A sphere without some of its properties. -/
  | sphereLacks (names : List String)
  /-- A sphere whose radius is not positive. -/
  | flatSphere (radius : Float)

namespace MeaningProblem

def message : MeaningProblem → String
  | unknownKind kind line =>
    s!"Unsupported definition type: {kind} (line {line}); expected one of [window, light, sphere]"
  | unknownProperty allowed name line =>
    let names := ", ".intercalate allowed
    s!"Expected properties: [{names}] but got: '{name}' (line {line})"
  | wrongKind wanted name value =>
    s!"Expected {wanted.name} for property {name} but got {value.display}"
  | notFinite name => s!"Property {name} must be finite"
  | windowSide name size =>
    s!"Window {name} must be at least 1 but got {NumberLayout.scene.write size}"
  | lightIncomplete line => s!"light definitions require a type and an intensity (line {line})"
  | negativeIntensity intensity =>
    s!"Light intensity must not be negative but got {NumberLayout.scene.write intensity}"
  | ambientPlaced => "Only type and intensity are supported for ambient lights"
  | lightLacks type name => s!"{type} lights require a {name}"
  | lightRefuses type name => s!"{type} lights do not support the {name} property"
  | unknownLight type =>
    s!"Unsupported light type: {type}; expected one of [ambient, point, directional]"
  | sphereLacks names =>
    let missing := ", ".intercalate names
    let verb := if names.length = 1 then "is" else "are"
    s!"Sphere definitions require [color, center, radius] but {missing} {verb} missing"
  | flatSphere radius => s!"Sphere radius must be positive but got {NumberLayout.scene.write radius}"

end MeaningProblem

/-- What is wrong with a scene text. -/
inductive TextProblem where
  /-- An error token was reached. -/
  | character (token : Token)
  | grammar (problem : GrammarProblem)
  | meaning (problem : MeaningProblem)

namespace TextProblem

def message : TextProblem → String
  | character t => s!"Unrecognized character '{t.text}' at line {t.place.line}, column {t.place.column}"
  | grammar p => p.message
  | meaning p => p.message

end TextProblem
end LitSpheres
