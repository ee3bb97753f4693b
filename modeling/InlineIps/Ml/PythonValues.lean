import InlineIps.Library.Fallible
import InlineIps.Library.FloatSign
import InlineIps.Library.Json
import InlineIps.Common.FiveTuple

/-!
# Python values

The values of `json.loads`: integers have no size limit, and a number and a boolean may
compare equal. `ipv4Address` is the IPv4 part of the `ipaddress` module.

* `ipv4Address_ipToString`: the sensor's dotted notation is a valid address.
-/

namespace InlineIps

open Library FloatSign

/-- A JSON number as Python holds it. -/
inductive PyNumber where
  | int (n : Int)
  | float (x : Float)
  deriving DecidableEq

abbrev PyValue := Json PyNumber

/-- The exceptions of the server. `requestError` is the one that becomes an error
response. -/
inductive PyException where
  | requestError (code message : String)
  | jsonDecodeError (message : String)
  | unicodeDecodeError
  | typeError (message : String)
  | runtimeError (message : String)
  deriving DecidableEq

namespace Python

/-- The integer that a double equals. -/
def integer? (x : Float) : Option Int :=
  match x.toModel.unpack with
  | .zero _ => some 0
  | .finite s m e _ =>
    if 0 ≤ e then some (s.apply (m * 2 ^ e.toNat))
    else if m % 2 ^ (-e).toNat = 0 then some (s.apply (m / 2 ^ (-e).toNat : Nat))
    else none
  | _ => none

/-- `value == k`. -/
def equalsInt : PyValue → Int → Bool
  | .number (.int n), k => n == k
  | .number (.float x), k => integer? x == some k
  | .bool b, k => (if b then 1 else 0) == k
  | _, _ => false

def isBool : PyValue → Bool
  | .bool _ => true
  | _ => false

/-- `value in {…}` for a set of strings. -/
def inSet : PyValue → List String → Except PyException Bool
  | .string s, set => .ok (set.contains s)
  | .array _, _ => .error (.typeError "unhashable type: 'list'")
  | .object _, _ => .error (.typeError "unhashable type: 'dict'")
  | _, _ => .ok false

/-- `request.get(key)`. -/
def get (request : PyValue) (key : String) : PyValue := (request.member? key).getD .null

/-- The conversion to `float64`, `none` on an `OverflowError`. -/
def toFloat64? : PyNumber → Option Float
  | .int n => if (toDouble n).isFinite then some (toDouble n) else none
  | .float x => some x

/-! ## IPv4 addresses -/

def parseOctet (octet : List Char) : Option Nat :=
  if octet.isEmpty then none
  else if !octet.all fun c => '0' ≤ c && c ≤ '9' then none
  else if 3 < octet.length then none
  else if octet ≠ ['0'] ∧ octet.head? = some '0' then none
  else
    let value := octet.foldl (fun value c => value * 10 + (c.toNat - '0'.toNat)) 0
    if 255 < value then none else some value

/-- `ipaddress.IPv4Address`: the four octets, `none` on a `ValueError`. -/
def ipv4Address (address : String) : Option (List Nat) :=
  if address.toList.contains '/' then none
  else
    let octets := address.toList.splitOn '.'
    if octets.length ≠ 4 then none else octets.mapM parseOctet

theorem parseOctet_toDigits : ∀ n < 256, parseOctet (Nat.toDigits 10 n) = some n := by
  decide +kernel

theorem octet_chars : ∀ n < 256, '.' ∉ Nat.toDigits 10 n ∧ '/' ∉ Nat.toDigits 10 n := by
  decide +kernel

theorem addressByte_lt (ip : UInt32) (i : Nat) : addressByte ip i < 256 :=
  Nat.mod_lt _ (by decide)

theorem toList_ipToString (ip : UInt32) :
    (ipToString ip).toList = List.intercalate ['.']
      ((List.range 4).map fun i => Nat.toDigits 10 (addressByte ip i)) := by
  simp [ipToString, List.intercalate, List.range_succ]

/-- **The dotted notation is read back octet by octet.** -/
theorem ipv4Address_ipToString (ip : UInt32) :
    ipv4Address (ipToString ip) = some ((List.range 4).map (addressByte ip)) := by
  have hslash : '/' ∉ (ipToString ip).toList := by
    have hoctet := fun i => (octet_chars _ (addressByte_lt ip i)).2
    simp [ipToString, hoctet]
  have hsplit : (ipToString ip).toList.splitOn '.'
      = (List.range 4).map fun i => Nat.toDigits 10 (addressByte ip i) := by
    rw [toList_ipToString]
    refine List.splitOn_intercalate '.' (fun octet hoctet => ?_) (by simp [List.range_succ])
    obtain ⟨i, -, rfl⟩ := List.mem_map.mp hoctet
    exact (octet_chars _ (addressByte_lt ip i)).1
  have hoctets : ((List.range 4).map fun i => Nat.toDigits 10 (addressByte ip i)).mapM parseOctet
      = some ((List.range 4).map (addressByte ip)) := by
    simp [List.range_succ, parseOctet_toDigits _ (addressByte_lt ip _)]
  simp only [ipv4Address, hsplit, hoctets]
  simp [hslash]

end Python

end InlineIps
