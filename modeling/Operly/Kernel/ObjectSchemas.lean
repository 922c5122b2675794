import Operly.Kernel.SchemaValidation
import Operly.Python.Exceptions

/-! Schemas of objects that know their properties, as the contracts of records declare them, and what the
validator says about them. -/

namespace Operly.Kernel
open Python

def objectSchema (declared : Fields) (required : List String) : Fields :=
  [("type", .str "object"), ("properties", .obj declared), ("required", .arr (required.map .str)),
    ("additionalProperties", .bool false)]

def arraySchema (items : Fields) : Fields := [("type", .str "array"), ("items", .obj items)]

def Admits (schema : Fields) (value : Json) : Prop := ∀ fuel path, validateAt fuel value schema path = .ok ()

theorem Admits.validateSchema {schema : Fields} {value : Json} (admits : Admits schema value) :
    validateSchema value schema = .ok () := admits _ _

theorem admits_of_level {schema : Fields} {value : Json}
    (level : ∀ child path, (∀ item declared path, (∀ fuel path, validateAt fuel item declared path = .ok ()) →
      child item declared path = .ok ()) → validateLevel child value schema path = .ok ()) : Admits schema value := by
  intro fuel path
  cases fuel with
  | zero => exact level _ path fun _ _ _ _ => rfl
  | succ fuel => exact level _ path fun _ _ path admits => admits fuel path

section Objects
variable {declared fields : Fields} {required : List String}

theorem admits_object (complete : ∀ key ∈ required, Fields.has fields key = true)
    (known : ∀ entry ∈ fields, Fields.has declared entry.1 = true)
    (each : ∀ entry ∈ declared, ∀ schema, entry.2 = .obj schema → ∀ item, Fields.get fields entry.1 = some item →
      Admits schema item) : Admits (objectSchema declared required) (.obj fields) := by
  apply admits_of_level
  intro child path below
  have present : checkRequired fields (objectSchema declared required) path = .ok () := by
    change (required.map Json.str).forM _ = _
    rw [forM_eq_ok]
    intro item member
    obtain ⟨key, listed, rfl⟩ := List.mem_map.mp member
    simp [missingKey, complete key listed]
  have noOthers : checkUnknown fields (objectSchema declared required) path = .ok () := by
    have unknown : (fields.map (·.1)).filter (fun key => !Fields.has declared key) = [] := by
      simpa using fun key value member => known (key, value) member
    have closed : Fields.get (objectSchema declared required) "additionalProperties" = some (.bool false) := rfl
    have names : properties (objectSchema declared required) = declared := rfl
    rw [checkUnknown, if_pos closed, names]
    simp only [unknown]
    rfl
  have children : declared.forM (validateProperty child fields path) = .ok () := by
    rw [forM_eq_ok]
    intro entry member
    unfold validateProperty
    split
    · next item schema found shape => exact below item schema _ (each entry member schema shape item found)
    · rfl
  have typed : checkType (.obj fields) (objectSchema declared required) path = .ok () := rfl
  have free : checkEnum (.obj fields) (objectSchema declared required) path = .ok () := rfl
  refine bind_eq_ok.mpr ⟨(), typed, bind_eq_ok.mpr ⟨(), free, ?_⟩⟩
  exact bind_eq_ok.mpr ⟨(), present, bind_eq_ok.mpr ⟨(), noOthers, bind_eq_ok.mpr ⟨(), children, rfl⟩⟩⟩

theorem property_checked {fuel : Nat} {path : String}
    (accepted : validateAt (fuel + 1) (.obj fields) (objectSchema declared required) path = .ok ())
    {entry : String × Json} (member : entry ∈ declared) {schema : Fields} (shape : entry.2 = .obj schema) {item : Json}
    (found : Fields.get fields entry.1 = some item) : ∃ path, validateAt fuel item schema path = .ok () := by
  obtain ⟨_, -, rest⟩ := bind_eq_ok.mp accepted
  obtain ⟨_, -, rest⟩ := bind_eq_ok.mp rest
  obtain ⟨_, -, rest⟩ := bind_eq_ok.mp rest
  obtain ⟨_, -, rest⟩ := bind_eq_ok.mp rest
  obtain ⟨_, children, -⟩ := bind_eq_ok.mp rest
  have checked := forM_eq_ok.mp children entry member
  simp only [found, shape] at checked
  exact ⟨_, checked⟩

theorem depth_objectSchema (declared : Fields) (required : List String) :
    depthFields declared + 1 ≤ depthFields (objectSchema declared required) := by
  simp only [objectSchema, depthFields, depthJson]
  omega

theorem depth_declared {entry : String × Json} (member : entry ∈ declared) : depthJson entry.2 ≤ depthFields declared := by
  induction declared with
  | nil => cases member
  | cons first rest ih =>
    rw [depthFields]
    rcases List.mem_cons.mp member with rfl | later
    · exact Nat.le_max_left ..
    · exact (ih later).trans (Nat.le_max_right ..)

end Objects

theorem enum_checked {fuel : Nat} {value : Json} {schema : Fields} {path : String}
    (accepted : validateAt fuel value schema path = .ok ()) : checkEnum value schema path = .ok () := by
  cases fuel with
  | zero =>
    obtain ⟨_, -, rest⟩ := bind_eq_ok.mp accepted
    obtain ⟨_, allowed, -⟩ := bind_eq_ok.mp rest
    exact allowed
  | succ fuel =>
    obtain ⟨_, -, rest⟩ := bind_eq_ok.mp accepted
    obtain ⟨_, allowed, -⟩ := bind_eq_ok.mp rest
    exact allowed

section Values
variable {schema : Fields}

theorem admits_array {items : List Json} (each : ∀ item ∈ items, Admits schema item) :
    Admits (arraySchema schema) (.arr items) := by
  apply admits_of_level
  intro child path below
  have typed : checkType (.arr items) (arraySchema schema) path = .ok () := rfl
  have free : checkEnum (.arr items) (arraySchema schema) path = .ok () := rfl
  have children : items.zipIdx.forM (fun entry => child entry.1 schema s!"{path}[{entry.2}]") = .ok () := by
    rw [forM_eq_ok]
    intro entry member
    exact below entry.1 schema _ (each entry.1 (List.fst_mem_of_mem_zipIdx member))
  refine bind_eq_ok.mpr ⟨(), typed, bind_eq_ok.mpr ⟨(), free, ?_⟩⟩
  exact bind_eq_ok.mpr ⟨(), rfl, bind_eq_ok.mpr ⟨(), children, rfl⟩⟩

theorem admits_text {text : String} (typed : ∀ path, checkType (.str text) schema path = .ok ())
    (allowed : ∀ path, checkEnum (.str text) schema path = .ok ()) (atLeast : intBound schema "minLength" = none)
    (atMost : ∀ bound ∈ intBound schema "maxLength", (text.length : Int) ≤ bound) : Admits schema (.str text) := by
  apply admits_of_level
  intro child path _
  have short : checkLength text.length schema "minLength" "maxLength" (fun _ => s!"{path} is too short")
      (fun _ => s!"{path} is too long") = .ok () := by
    unfold checkLength
    rw [atLeast]
    cases bound : intBound schema "maxLength" with
    | none => rfl
    | some limit =>
      have fits := atMost limit bound
      exact if_neg (not_lt.mpr fits)
  exact bind_eq_ok.mpr ⟨(), typed path, bind_eq_ok.mpr ⟨(), allowed path, bind_eq_ok.mpr ⟨(), short, rfl⟩⟩⟩

theorem admits_number {value : Json} {number : Double} (proper : properNumber value = some number)
    (typed : ∀ path, checkType value schema path = .ok ()) (allowed : ∀ path, checkEnum value schema path = .ok ())
    (atLeast : numberBound schema "minimum" = none) (atMost : numberBound schema "maximum" = none) : Admits schema value := by
  apply admits_of_level
  intro child path _
  have bounded : checkNumber number schema path = .ok () := by
    unfold checkNumber
    rw [atLeast, atMost]
    rfl
  cases value with
  | int value =>
    cases proper
    exact bind_eq_ok.mpr ⟨(), typed path, bind_eq_ok.mpr ⟨(), allowed path, bounded⟩⟩
  | float value =>
    cases proper
    exact bind_eq_ok.mpr ⟨(), typed path, bind_eq_ok.mpr ⟨(), allowed path, bounded⟩⟩
  | _ => cases proper

theorem admits_plain {value : Json} (plain : value = .null ∨ ∃ flag, value = .bool flag)
    (typed : ∀ path, checkType value schema path = .ok ()) (allowed : ∀ path, checkEnum value schema path = .ok ()) :
    Admits schema value := by
  apply admits_of_level
  intro child path _
  rcases plain with rfl | ⟨flag, rfl⟩
  · exact bind_eq_ok.mpr ⟨(), typed path, bind_eq_ok.mpr ⟨(), allowed path, rfl⟩⟩
  · exact bind_eq_ok.mpr ⟨(), typed path, bind_eq_ok.mpr ⟨(), allowed path, rfl⟩⟩

end Values

end Operly.Kernel
