import Mathlib

/-!
# JSON values and the encodings that serde derives

A JSON value is what `serde_json::to_value` produces; objects are lists of
fields and numbers are integers, the only ones that the messages carry. An
enumeration without data is a word, an enumeration with an internal tag is an
object that holds the tag beside the fields, and one with an adjacent tag is
an object of the tag and the content.
-/

namespace Wareboxes.JsonValues

/-- A JSON value. -/
inductive Json where
  | null
  | bool (value : Bool)
  | number (value : ℤ)
  | string (value : String)
  | object (fields : List (String × Json))

namespace Json

variable {α : Type}

/-- The field of an object. -/
def field? (name : String) : Json → Option Json
  | .object fields => fields.lookup name
  | _ => none

/-- A text. -/
def text? : Json → Option String
  | .string value => some value
  | _ => none

/-- A truth value. -/
def bool? : Json → Option Bool
  | .bool value => some value
  | _ => none

/-- An integer. -/
def integer? : Json → Option ℤ
  | .number value => some value
  | _ => none

/-- The value that a word stands for. -/
def word? (words : List (String × α)) : Json → Option α
  | .string word => words.lookup word
  | _ => none

/-- A field that has to be there. -/
def required (decode : Json → Option α) (name : String) (json : Json) : Option α :=
  (json.field? name).bind decode

/-- A field of type `Option`, which may be absent or null. -/
def optional (decode : Json → Option α) (name : String) (json : Json) : Option (Option α) :=
  match json.field? name with
  | none | some .null => some none
  | some value => (decode value).map some

/-- A value of type `Option` as a field. -/
def nullable (encode : α → Json) : Option α → Json
  | some value => encode value
  | none => .null

/-- `deny_unknown_fields`: every field of the object is expected. -/
def denyUnknownFields (names : List String) : Json → Option Unit
  | .object fields => if fields.all fun entry => names.contains entry.1 then some () else none
  | _ => none

/-- An adjacently tagged value. -/
def tagged (tag : String) (word : String) (content : String) (value : Json) : Json :=
  .object [(tag, .string word), (content, value)]

end Json

end Wareboxes.JsonValues
