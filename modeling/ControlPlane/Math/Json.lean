/-
# JSON values

The value type shared by the service's payloads, receipts and route
projections. Objects are lists of fields in key order, the order a sorted map
iterates in, so two objects with the same fields are the same value. Numbers are
integers: no modelled code reads a fraction.
-/

import Mathlib.Algebra.Ring.Int.Defs

namespace ControlPlane.Math

/-- A JSON value. -/
inductive Json
  | null
  | bool (value : Bool)
  | number (value : Int)
  | string (value : String)
  | array (items : List Json)
  | object (fields : List (String × Json))

namespace Json

mutual

/-- Equality of values is decided by walking both trees. -/
def decEq : (first second : Json) → Decidable (first = second)
  | .null, .null => isTrue rfl
  | .bool a, .bool b =>
    if h : a = b then isTrue (by rw [h]) else isFalse (by simpa using h)
  | .number a, .number b =>
    if h : a = b then isTrue (by rw [h]) else isFalse (by simpa using h)
  | .string a, .string b =>
    if h : a = b then isTrue (by rw [h]) else isFalse (by simpa using h)
  | .array a, .array b =>
    match decEqItems a b with
    | isTrue h => isTrue (by rw [h])
    | isFalse h => isFalse (by simpa using h)
  | .object a, .object b =>
    match decEqFields a b with
    | isTrue h => isTrue (by rw [h])
    | isFalse h => isFalse (by simpa using h)
  | .null, .bool _ | .null, .number _ | .null, .string _ | .null, .array _
  | .null, .object _ | .bool _, .null | .bool _, .number _ | .bool _, .string _
  | .bool _, .array _ | .bool _, .object _ | .number _, .null | .number _, .bool _
  | .number _, .string _ | .number _, .array _ | .number _, .object _
  | .string _, .null | .string _, .bool _ | .string _, .number _ | .string _, .array _
  | .string _, .object _ | .array _, .null | .array _, .bool _ | .array _, .number _
  | .array _, .string _ | .array _, .object _ | .object _, .null | .object _, .bool _
  | .object _, .number _ | .object _, .string _ | .object _, .array _ =>
    isFalse (by simp)

/-- Item lists are compared pairwise. -/
def decEqItems : (first second : List Json) → Decidable (first = second)
  | [], [] => isTrue rfl
  | [], _ :: _ | _ :: _, [] => isFalse (by simp)
  | a :: as, b :: bs =>
    match decEq a b, decEqItems as bs with
    | isTrue h, isTrue hs => isTrue (by rw [h, hs])
    | isFalse h, _ => isFalse (by simp [h])
    | _, isFalse hs => isFalse (by simp [hs])

/-- Field lists are compared name by name and value by value. -/
def decEqFields : (first second : List (String × Json)) → Decidable (first = second)
  | [], [] => isTrue rfl
  | [], _ :: _ | _ :: _, [] => isFalse (by simp)
  | (name, a) :: as, (other, b) :: bs =>
    if hname : name = other then
      match decEq a b, decEqFields as bs with
      | isTrue h, isTrue hs => isTrue (by rw [hname, h, hs])
      | isFalse h, _ => isFalse (by simp [h])
      | _, isFalse hs => isFalse (by simp [hs])
    else isFalse (by simp [hname])

end

instance : DecidableEq Json := decEq

/-- The field `key` of an object, as `Value::get` reads it. -/
def get (value : Json) (key : String) : Option Json :=
  match value with
  | .object fields => (fields.find? fun field => field.1 = key).map Prod.snd
  | _ => none

def asStr : Json → Option String
  | .string value => some value
  | _ => none

def asBool : Json → Option Bool
  | .bool value => some value
  | _ => none

/-- Integers outside the signed 64-bit range are not read as `i64`. -/
def asI64 : Json → Option Int
  | .number value => if -2 ^ 63 ≤ value ∧ value < 2 ^ 63 then some value else none
  | _ => none

def asArray : Json → Option (List Json)
  | .array items => some items
  | _ => none

def asObject : Json → Option (List (String × Json))
  | .object fields => some fields
  | _ => none

def isNull : Json → Bool
  | .null => true
  | _ => false

/-- Whether the field's text is `expected`, as the database extracts it: scalars by
their own text, a missing or null field by none. The texts of arrays and objects start
with a bracket, which no expected text does. -/
def textIs (field : Option Json) (expected : String) : Bool :=
  match field with
  | some (.string value) => decide (value = expected)
  | some (.number value) => decide (toString value = expected)
  | some (.bool value) => decide (toString value = expected)
  | _ => false

/-- Put a field into a list in key order, replacing one of the same name. -/
def insertField (key : String) (value : Json) : List (String × Json) → List (String × Json)
  | [] => [(key, value)]
  | (name, other) :: rest =>
    if key < name then (key, value) :: (name, other) :: rest
    else if key = name then (key, value) :: rest
    else (name, other) :: insertField key value rest

/-- Set a field of an object; other values stay as they are. -/
def insert (object : Json) (key : String) (value : Json) : Json :=
  match object with
  | .object fields => .object (insertField key value fields)
  | other => other

/-- Remove a field of an object. -/
def remove (object : Json) (key : String) : Json :=
  match object with
  | .object fields => .object (fields.filter fun field => field.1 ≠ key)
  | other => other

end Json

end ControlPlane.Math
