/-
A pin request is read as it was written.

A request is an object of three members. Its target is an object of one
string and its attributes are an array of strings, which is empty where
every attribute is wanted. So its document holds the value that
`asRead` writes down, and what is left is that this value builds the
request again.
-/
import CellSync.Pin.Request
import CellSync.Proofs.Json

namespace CellSync.PinRequest

-- ============================================================= documents

/-- A target as its object is read. -/
def targetAsRead : Target → Json.Value
  | .tag name => .object [(some "tag", .string (some name))]
  | .url locator => .object [(some "url", .string (some locator))]

/-- A request as its document is read. -/
def asRead (r : PinRequest) : Json.Value :=
  .object [(some "target", targetAsRead r.target),
    (some "attrs", .array (r.attrs.map fun name => .string (some name))),
    (some "mode", .string (some r.mode.name))]

/-- A target is an object of one string. -/
theorem reads_target (target : Target) : Json.Reads (targetJson target) (targetAsRead target) := by
  cases target with
  | tag name => exact Json.reads_object (.cons ⟨rfl, Json.reads_string name⟩ .nil)
  | url locator => exact Json.reads_object (.cons ⟨rfl, Json.reads_string locator⟩ .nil)

/-- Attributes are an array of strings, which may have none. -/
theorem reads_attrs (attrs : List String) :
    Json.Reads (Json.array (attrs.map Json.string))
      (.array (attrs.map fun name => .string (some name))) := by
  apply Json.reads_array
  rw [List.forall₂_map_left_iff, List.forall₂_map_right_iff, List.forall₂_same]
  exact fun name _ => Json.reads_string name

/-- A request is an object of those two and the name of its mode. -/
theorem parse_toJson (r : PinRequest) : Json.parse r.toJson = some r.asRead :=
  Json.parse_of_reads <| Json.reads_object <|
    .cons ⟨rfl, reads_target r.target⟩ <|
    .cons ⟨rfl, reads_attrs r.attrs⟩ <|
    .cons ⟨rfl, Json.reads_string r.mode.name⟩ .nil

-- =============================================================== members

/-- Strings in a row are taken as texts. -/
theorem mapM_text?_strings (texts : List String) :
    (texts.map fun text => Json.Value.string (some text)).mapM Json.Value.text? = some texts := by
  induction texts with
  | nil => rfl
  | cons text texts ih =>
      simp only [List.map_cons, List.mapM_cons, Json.Value.text?, ih, Option.bind_eq_bind,
        Option.bind_some, Option.pure_def]

/-- The array of a request's attributes gives the attributes. -/
theorem attrsOf?_strings (attrs : List String) :
    attrsOf? (.array (attrs.map fun name => .string (some name))) = some attrs := by
  rw [attrsOf?, Json.Value.items?, Option.bind_eq_bind, Option.bind_some, mapM_text?_strings]

theorem targetOf?_targetAsRead (target : Target) :
    targetOf? (targetAsRead target) = some target := by
  cases target <;> rfl

/-- A mode is the member of the vocabulary that its name is. -/
theorem member?_name (mode : SyncMode) :
    (Json.Value.string (some mode.name)).member? SyncMode.ofName? = some mode := by
  cases mode <;> rfl

/-- The value of a request builds the request. -/
theorem ofValue?_asRead (r : PinRequest) : ofValue? r.asRead = some r := by
  have hmembers : ofValue? r.asRead
      = build (targetAsRead r.target)
          (some (.array (r.attrs.map fun name => .string (some name))))
          (some (.string (some r.mode.name))) := rfl
  rw [hmembers, build, targetOf?_targetAsRead]
  simp only [attrsOf?_strings, member?_name, Option.bind_eq_bind, Option.bind_some]
  rfl

/-- The document of a request holds that request. -/
theorem ofJson?_toJson (r : PinRequest) : ofJson? r.toJson = some r := by
  rw [ofJson?, parse_toJson, Option.bind_some, ofValue?_asRead]

end CellSync.PinRequest
