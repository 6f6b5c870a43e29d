import AtlasManifests.Encoding.Base64
import AtlasManifests.Shape.Datum
import AtlasManifests.Time.Instant

/-! # Shapes

A shape says which values may stand in a place: texts, numbers, lists, records of
known fields. Reading a datum by a shape gives its typed form, a JSON value in which
unknown fields are gone, the fields of a record are in order and every plain field
has a value; it fails if the datum does not fit.
-/
namespace AtlasManifests

/-- What the field of a record may hold besides a value of its shape. -/
inductive Presence where
  /-- Left out if it is absent or null. -/
  | optional
  /-- Left out if it is absent. -/
  | kept
  /-- Given a default if it is absent or null. -/
  | plain (default : Json)
  /-- A text that may only be what it is. -/
  | constant (text : String)

/-- The values that may stand in a place. A schema is a record whose fields may hold
schemas again. -/
inductive Shape where
  | text
  | flag
  | int32
  | int64
  | uint32
  | real
  | free
  | instant
  | bytes
  | choice (names : List String)
  | list (item : Shape)
  | table (value : Shape)
  | record (distinct : Bool) (fields : List (String × Presence × Shape))
  | schema
  | schemaOrFlag
  | schemaOrSchemas
  | schemaOrTexts

namespace Shape

/-- The fields of a rule on the values of a schema. -/
def ruleFields : List (String × Presence × Shape) :=
  [("fieldPath", .optional, .text), ("message", .optional, .text),
    ("messageExpression", .optional, .text), ("optionalOldSelf", .optional, .flag),
    ("reason", .optional, .text), ("rule", .plain (.str ""), .text)]

/-- The fields of a schema. -/
def schemaFields : List (String × Presence × Shape) :=
  [("$ref", .optional, .text), ("$schema", .optional, .text),
    ("additionalItems", .optional, .schemaOrFlag),
    ("additionalProperties", .optional, .schemaOrFlag), ("allOf", .optional, .list .schema),
    ("anyOf", .optional, .list .schema), ("default", .optional, .free),
    ("definitions", .optional, .table .schema), ("dependencies", .optional, .table .schemaOrTexts),
    ("description", .optional, .text), ("enum", .optional, .list .free),
    ("example", .optional, .free), ("exclusiveMaximum", .optional, .flag),
    ("exclusiveMinimum", .optional, .flag),
    ("externalDocs", .optional,
      .record false [("description", .optional, .text), ("url", .optional, .text)]),
    ("format", .optional, .text), ("id", .optional, .text),
    ("items", .optional, .schemaOrSchemas), ("maxItems", .optional, .int64),
    ("maxLength", .optional, .int64), ("maxProperties", .optional, .int64),
    ("maximum", .optional, .real), ("minItems", .optional, .int64),
    ("minLength", .optional, .int64), ("minProperties", .optional, .int64),
    ("minimum", .optional, .real), ("multipleOf", .optional, .real), ("not", .optional, .schema),
    ("nullable", .optional, .flag), ("oneOf", .optional, .list .schema),
    ("pattern", .optional, .text), ("patternProperties", .optional, .table .schema),
    ("properties", .optional, .table .schema), ("required", .optional, .list .text),
    ("title", .optional, .text), ("type", .optional, .text), ("uniqueItems", .optional, .flag),
    ("x-kubernetes-embedded-resource", .optional, .flag),
    ("x-kubernetes-int-or-string", .optional, .flag),
    ("x-kubernetes-list-map-keys", .optional, .list .text),
    ("x-kubernetes-list-type", .optional, .text), ("x-kubernetes-map-type", .optional, .text),
    ("x-kubernetes-preserve-unknown-fields", .optional, .flag),
    ("x-kubernetes-validations", .optional, .list (.record false ruleFields))]

/-- What stands for a field that holds no value. -/
def Presence.default? : Presence → Option Json
  | .optional => none
  | .kept => none
  | .plain default => some default
  | .constant fixed => some (.str fixed)

/-- The typed form of a record from the fields that hold values. -/
def assemble (fields : List (String × Presence × Shape)) (held : List (String × Option Json)) :
    Json :=
  .obj (fields.filterMap fun (name, presence, _) =>
    match held.lookup name with
    | some (some value) => some (name, value)
    | _ => (Presence.default? presence).map (name, ·))

/-- The whole number of a value, within bounds. -/
def bounded? (low high : Int) (n : Option Int) : Option Json :=
  n.bind fun n => if low ≤ n ∧ n ≤ high then some (.int n) else none

/-- The typed form of a single value. -/
def ofLeaf? (shape : Shape) (f : Facets) : Option Json :=
  match shape with
  | .text => f.text.map .str
  | .flag => f.truth.map .bool
  | .int32 => bounded? (-2147483648) 2147483647 f.whole
  | .int64 => bounded? (-9223372036854775808) 9223372036854775807 f.whole
  | .uint32 => bounded? 0 4294967295 (f.natural.map Int.ofNat)
  | .real => f.real.map fun x => x.elim .null .float
  | .free => f.free
  | .instant => (f.text.bind Instant.ofText?).map fun t => .str t.wholeText
  | .bytes =>
    (f.text.bind fun s => Base64.decode s.toList).map fun bytes =>
      .str (String.ofList (Base64.encode bytes))
  | .choice names => f.text.bind fun s => if names.contains s then some (.str s) else none
  | .list _ => if f.void then some (.arr []) else none
  | .table _ => if f.void then some (.obj []) else none
  | .record _ fields => if f.void then some (assemble fields []) else none
  | .schema => if f.void then some (assemble schemaFields []) else none
  | .schemaOrFlag =>
    match f.free with
    | some (.bool b) => some (.bool b)
    | _ => none
  | .schemaOrSchemas => none
  | .schemaOrTexts => none

/-- The alternative of a tag, whose value has to be without content. -/
def ofTag? (shape : Shape) (tag : String) (value : Datum) : Option Json :=
  match shape, value with
  | .choice names, .leaf f =>
    if names.contains tag && (f.absent || f.void) then some (.str tag) else none
  | _, _ => none

mutual

/-- The typed form of a datum. -/
def read (shape : Shape) : Datum → Option Json
  | .leaf f => ofLeaf? shape f
  | .list items =>
    match shape with
    | .list item => (readItems item items).map .arr
    | .schemaOrSchemas => (readItems .schema items).map .arr
    | .schemaOrTexts => (readItems .text items).map .arr
    | .free => (Datum.freeItems? items).map .arr
    | _ => none
  | .map members =>
    match shape with
    | .record distinct fields => (readMembers distinct fields members).map (assemble fields)
    | .schema => (readMembers false schemaFields members).map (assemble schemaFields)
    | .schemaOrFlag => (readMembers false schemaFields members).map (assemble schemaFields)
    | .schemaOrSchemas => (readMembers false schemaFields members).map (assemble schemaFields)
    | .schemaOrTexts => (readMembers false schemaFields members).map (assemble schemaFields)
    | .table value => (readTable value members).map .obj
    | .free => (Datum.freeMembers? members).map .obj
    | _ => none
  | .tagged tag value =>
    match shape with
    | .choice names => ofTag? (.choice names) tag value
    | .free => none
    | .schemaOrFlag => none
    | .schemaOrSchemas => none
    | .schemaOrTexts => none
    | shape => read shape value

/-- The typed forms of the items of a list. -/
def readItems (shape : Shape) : List Datum → Option (List Json)
  | [] => some []
  | item :: rest => do
    let value ← read shape item
    let values ← readItems shape rest
    return value :: values

/-- The typed form of a table: sorted by keys, of members with one key the last. -/
def readTable (shape : Shape) : List (Option String × Datum) → Option (List (String × Json))
  | [] => some []
  | (none, _) :: _ => none
  | (some key, datum) :: rest => do
    let value ← read shape datum
    let later ← readTable shape rest
    return if (later.lookup key).isSome then later else Assoc.insert key value later

/-- The values that the members of a record hold, by field: the last one of a field,
unless fields have to be distinct. Members that are no field do not count. -/
def readMembers (distinct : Bool) (fields : List (String × Presence × Shape)) :
    List (Option String × Datum) → Option (List (String × Option Json))
  | [] => some []
  | (none, _) :: _ => none
  | (some key, datum) :: rest => do
    let later ← readMembers distinct fields rest
    match fields.lookup key with
    | none => return later
    | some (presence, shape) =>
      let value ← match presence with
        | .optional => if datum.isAbsent then some none else (read shape datum).map some
        | .plain _ => if datum.isAbsent then some none else (read shape datum).map some
        | .kept => (read shape datum).map some
        | .constant fixed =>
          if datum.text? = some fixed then some (some (.str fixed)) else none
      if (later.lookup key).isSome then
        if distinct then none else return later
      else return (key, value) :: later

end

end Shape

end AtlasManifests
