import InlineIps.Library.Fallible
import InlineIps.Library.FloatSign
import InlineIps.Library.Json

/-!
# The JSON library of the C++ side

`nlohmann::json` keeps a number as a signed or unsigned 64-bit integer or as a double,
and its accessors convert with `static_cast` or throw.
-/

namespace InlineIps

open Library FloatSign

/-- A JSON number as the C++ library holds it. -/
inductive JsonNumber where
  | integer (n : Int64)
  | unsigned (n : UInt64)
  | float (x : Float)
  deriving DecidableEq

namespace JsonNumber

/-- The value of an integer, `none` for a double. -/
def toInt? : JsonNumber → Option Int
  | .integer n => some n.toInt
  | .unsigned n => some n.toNat
  | .float _ => none

/-- `static_cast<double>`. -/
def toDouble : JsonNumber → Float
  | .integer n => FloatSign.toDouble n.toInt
  | .unsigned n => FloatSign.toDouble n.toNat
  | .float x => x

/-- `static_cast<int>`. -/
def toInt32 : JsonNumber → Int32
  | .integer n => n.toInt32
  | .unsigned n => n.toUInt32.toInt32
  | .float x => x.toModel.toInt32

def IsFinite : JsonNumber → Prop
  | .float x => x.isFinite
  | _ => True

def Nonneg : JsonNumber → Prop
  | .integer n => 0 ≤ n.toInt
  | .unsigned _ => True
  | .float x => 0 ≤ x

theorem toInt?_natAbs_lt {n : JsonNumber} {k : Int} (h : n.toInt? = some k) :
    k.natAbs < 2 ^ 64 := by
  cases n with
  | integer n =>
    cases h
    have hlow := n.le_toInt
    have hhigh := n.toInt_lt
    omega
  | unsigned n =>
    cases h
    have hhigh := n.toNat_lt
    omega
  | float x => cases h

/-- The conversion to a double tells the finite numbers that are not negative. -/
theorem finite_and_nonneg_iff (n : JsonNumber) :
    n.toDouble.isFinite = true ∧ ¬ n.toDouble < 0 ↔ n.IsFinite ∧ n.Nonneg := by
  have hinteger : ∀ k : Int, k.natAbs < 2 ^ 64 →
      ((FloatSign.toDouble k).isFinite = true ∧ ¬ FloatSign.toDouble k < 0 ↔ 0 ≤ k) := by
    intro k hk
    rw [toDouble_lt_zero hk, not_lt]
    exact and_iff_right (isFinite_toDouble hk)
  cases n with
  | integer n =>
    have hbits : n.toInt.natAbs < 2 ^ 64 := toInt?_natAbs_lt (n := .integer n) rfl
    exact (hinteger _ hbits).trans (by simp [IsFinite, Nonneg])
  | unsigned n =>
    have hbits : (n.toNat : Int).natAbs < 2 ^ 64 := toInt?_natAbs_lt (n := .unsigned n) rfl
    exact (hinteger _ hbits).trans (by simp [IsFinite, Nonneg])
  | float x =>
    simp only [toDouble, IsFinite, Nonneg]
    exact and_congr_right fun hx => (zero_le_iff hx).symm

/-- Narrowing keeps the low 32 bits. -/
theorem toInt32_eq_one_iff {n : JsonNumber} {k : Int} (h : n.toInt? = some k) :
    n.toInt32 = 1 ↔ k % 2 ^ 32 = 1 := by
  have hone : ∀ i : Int32, i = 1 ↔ i.toInt = 1 := fun i => by
    rw [← Int32.toInt_inj]
    rfl
  cases n with
  | integer n =>
    cases h
    rw [hone, toInt32, Int64.toInt_toInt32, Int.bmod_def]
    split <;> omega
  | unsigned n =>
    cases h
    have htoInt : n.toUInt32.toInt32.toInt = (n.toUInt32.toNat : Int).bmod (2 ^ 32) :=
      BitVec.toInt_eq_toNat_bmod _
    rw [hone, toInt32, htoInt, UInt64.toNat_toUInt32, Int.bmod_def]
    split <;> omega
  | float x => cases h

end JsonNumber

/-- What a `catch` sees: an exception of the JSON library or another `std::exception`. -/
inductive Exception where
  | json (what : String)
  | std (what : String)
  deriving DecidableEq

namespace Nlohmann

abbrev Value := Json JsonNumber

def typeName : Value → String
  | .null => "null"
  | .bool _ => "boolean"
  | .number _ => "number"
  | .string _ => "string"
  | .array _ => "array"
  | .object _ => "object"

def isObject : Value → Bool
  | .object _ => true
  | _ => false

def isString : Value → Bool
  | .string _ => true
  | _ => false

def isBoolean : Value → Bool
  | .bool _ => true
  | _ => false

def isNumber : Value → Bool
  | .number _ => true
  | _ => false

def isNumberInteger : Value → Bool
  | .number n => n.toInt?.isSome
  | _ => false

def contains (v : Value) (key : String) : Bool := (v.member? key).isSome

/-- `at(key)`. -/
def at_ (v : Value) (key : String) : Except Exception Value :=
  match v with
  | .object members =>
    match members.lookup key with
    | some member => .ok member
    | none => .error (.json s!"[json.exception.out_of_range.403] key '{key}' not found")
  | _ => .error (.json s!"[json.exception.type_error.304] cannot use at() with {typeName v}")

def typeError (expected : String) (v : Value) : Exception :=
  .json s!"[json.exception.type_error.302] type must be {expected}, but is {typeName v}"

/-- `get<int>()`. -/
def getInt : Value → Except Exception Int32
  | .number n => .ok n.toInt32
  | .bool b => .ok (if b then 1 else 0)
  | v => .error (typeError "number" v)

/-- `get<double>()`. -/
def getDouble : Value → Except Exception Float
  | .number n => .ok n.toDouble
  | v => .error (typeError "number" v)

/-- `get<bool>()`. -/
def getBool : Value → Except Exception Bool
  | .bool b => .ok b
  | v => .error (typeError "boolean" v)

/-- `get<std::string>()`. -/
def getString : Value → Except Exception String
  | .string s => .ok s
  | v => .error (typeError "string" v)

/-- `get<std::vector<std::string>>()`. -/
def getStrings : Value → Except Exception (List String)
  | .array elements => elements.mapM getString
  | v => .error (typeError "array" v)

/-- `value(key, default)`, with the accessor of the type of the default. -/
def value {A : Type} (get : Value → Except Exception A) (v : Value) (key : String)
    (defaultValue : A) : Except Exception A :=
  match v with
  | .object members =>
    match members.lookup key with
    | some member => get member
    | none => .ok defaultValue
  | _ => .error (.json s!"[json.exception.type_error.306] cannot use value() with {typeName v}")

@[simp] theorem contains_eq (v : Value) (key : String) :
    contains v key = (v.member? key).isSome := rfl

theorem at_of_member {v w : Value} {key : String} (h : v.member? key = some w) :
    at_ v key = .ok w := by
  cases v with
  | object members => simp only [at_, show members.lookup key = some w from h]
  | _ => cases h

end Nlohmann

end InlineIps
