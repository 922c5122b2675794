import Operly.Kernel.Contracts

/-! The deterministic validator of capability contracts: a subset of JSON Schema. -/

namespace Operly.Kernel
open Python

def matchesType (value : Json) (expected : String) : Bool :=
  match expected with
  | "object" => match value with | .obj _ => true | _ => false
  | "array" => match value with | .arr _ => true | _ => false
  | "string" => match value with | .str _ => true | _ => false
  | "integer" => match value with | .int _ => true | _ => false
  | "number" => match value with | .int _ | .float _ => true | _ => false
  | "boolean" => match value with | .bool _ => true | _ => false
  | "null" => match value with | .null => true | _ => false
  | _ => true

/-- `str(item)` of an entry of a type list; an entry that is not a text names no type. -/
def typeName : Json → String
  | .str name => name
  | _ => ""

/-- A bound counts only when it is an `int`; `True` and `False` are integers. -/
def intBound (schema : Fields) (key : String) : Option Int :=
  match Fields.get schema key with
  | some (.int bound) => some bound
  | some (.bool bound) => some (if bound then 1 else 0)
  | _ => none

def numberBound (schema : Fields) (key : String) : Option Double :=
  (Fields.get schema key).bind Json.number?

def properNumber : Json → Option Double
  | .int value => some (.finite value)
  | .float value => some value
  | _ => none

/-- `value not in schema["enum"]`; `none` when the membership test itself fails. -/
def outsideEnum (value : Json) : Json → Option Bool
  | .arr items => some (!items.any (Json.sameItem value))
  | .obj fields =>
      match value with
      | .arr _ | .obj _ => none
      | _ => some (!fields.any fun entry => Json.same value (.str entry.1))
  | .str text =>
      match value with
      | .str part => some (!contains text part)
      | _ => none
  | _ => none

/-- `key not in value` for the keys of a `required` list. -/
def missingKey (fields : Fields) : Json → Option Bool
  | .str key => some (!Fields.has fields key)
  | .arr _ | .obj _ => none
  | _ => some true

def keyText : Json → String
  | .str key => key
  | _ => ""

def checkType (value : Json) (schema : Fields) (path : String) : Except KernelError Unit :=
  match Fields.get schema "type" with
  | some (.arr expected) =>
      if expected.any fun item => matchesType value (typeName item) then .ok ()
      else .error (.schemaValidation s!"{path} has an invalid type")
  | some (.str expected) =>
      if matchesType value expected then .ok ()
      else .error (.schemaValidation s!"{path} must be {expected}")
  | _ => .ok ()

def checkEnum (value : Json) (schema : Fields) (path : String) : Except KernelError Unit :=
  match Fields.get schema "enum" with
  | none => .ok ()
  | some allowed =>
      match outsideEnum value allowed with
      | none => .error (.other "TypeError")
      | some true => .error (.schemaValidation s!"{path} is not an allowed value")
      | some false => .ok ()

def checkRequired (fields : Fields) (schema : Fields) (path : String) : Except KernelError Unit :=
  match Fields.get schema "required" with
  | some (.arr required) => required.forM fun key =>
      match missingKey fields key with
      | none => .error (.other "TypeError")
      | some true => .error (.schemaValidation s!"{path}.{keyText key} is required")
      | some false => .ok ()
  | _ => .ok ()

def properties (schema : Fields) : Fields :=
  match Fields.get schema "properties" with
  | some (.obj declared) => declared
  | _ => []

def checkUnknown (fields : Fields) (schema : Fields) (path : String) : Except KernelError Unit :=
  if Fields.get schema "additionalProperties" = some (.bool false) then
    let unknown := (fields.map (·.1)).filter fun key => !Fields.has (properties schema) key
    let listed := ", ".intercalate (unknown.insertionSort (· ≤ ·))
    if unknown.isEmpty then .ok ()
    else .error (.schemaValidation s!"{path} contains unsupported fields: {listed}")
  else .ok ()

def checkLength (length : Nat) (schema : Fields) (minimum maximum : String)
    (short long : Int → String) : Except KernelError Unit := do
  match intBound schema minimum with
  | some bound => if (length : Int) < bound then throw (.schemaValidation (short bound))
  | none => pure ()
  match intBound schema maximum with
  | some bound => if bound < (length : Int) then throw (.schemaValidation (long bound))
  | none => pure ()

def checkNumber (value : Double) (schema : Fields) (path : String) : Except KernelError Unit := do
  match numberBound schema "minimum" with
  | some bound => if value.lt bound then throw (.schemaValidation s!"{path} is below the minimum")
  | none => pure ()
  match numberBound schema "maximum" with
  | some bound => if bound.lt value then throw (.schemaValidation s!"{path} is above the maximum")
  | none => pure ()

/-- One level of the validator; `child` validates what lies below it. -/
def validateLevel (child : Json → Fields → String → Except KernelError Unit)
    (value : Json) (schema : Fields) (path : String) : Except KernelError Unit := do
  checkType value schema path
  checkEnum value schema path
  match value with
  | .obj fields =>
      checkRequired fields schema path
      checkUnknown fields schema path
      (properties schema).forM (fun entry =>
        match Fields.get fields entry.1, entry.2 with
        | some item, .obj declared => child item declared s!"{path}.{entry.1}"
        | _, _ => pure ())
  | .arr items =>
      checkLength items.length schema "minItems" "maxItems"
        (fun bound => s!"{path} must contain at least {bound} items")
        (fun bound => s!"{path} must contain at most {bound} items")
      match Fields.get schema "items" with
      | some (.obj declared) => items.zipIdx.forM (fun entry =>
          child entry.1 declared s!"{path}[{entry.2}]")
      | _ => pure ()
  | .str text =>
      checkLength text.length schema "minLength" "maxLength"
        (fun _ => s!"{path} is too short") (fun _ => s!"{path} is too long")
  | _ => pure ()
  match properNumber value with
  | some number => checkNumber number schema path
  | none => pure ()

def validateProperty (child : Json → Fields → String → Except KernelError Unit) (fields : Fields) (path : String)
    (entry : String × Json) : Except KernelError Unit :=
  match Fields.get fields entry.1, entry.2 with
  | some item, .obj declared => child item declared s!"{path}.{entry.1}"
  | _, _ => pure ()

mutual
/-- The nesting depth of a value, which bounds the recursion of the validator. -/
def depthJson : Json → Nat
  | .arr items => depthItems items + 1
  | .obj fields => depthFields fields + 1
  | _ => 0
def depthItems : List Json → Nat
  | [] => 0
  | item :: rest => max (depthJson item) (depthItems rest)
def depthFields : Fields → Nat
  | [] => 0
  | (_, item) :: rest => max (depthJson item) (depthFields rest)
end

def validateAt : Nat → Json → Fields → String → Except KernelError Unit
  | 0 => validateLevel fun _ _ _ => .ok ()
  | fuel + 1 => validateLevel (validateAt fuel)

/-- `validate_schema(value, schema, path)`. Every level of the schema below the top is one
level less deep, so the depth of the schema is enough. -/
def validateSchema (value : Json) (schema : Fields) (path : String := "$") : Except KernelError Unit :=
  validateAt (depthFields schema) value schema path

example : validateSchema (.obj [("n", .int 3)])
    [("type", .str "object"), ("properties", .obj [("n", .obj [("maximum", .int 2)])])] =
    .error (.schemaValidation "$.n is above the maximum") := by decide

end Operly.Kernel
