import Mathlib.Data.List.Basic

/-!
# JSON values

A JSON value over any type of numbers `N`. The members of an object are a list of keys and
values; a key that occurs twice has the value of its first occurrence.

`bind` replaces every number by a value. It is how the value that one library writes is
read by another one with other numbers.
-/

namespace Library

inductive Json (N : Type) where
  | null
  | bool (b : Bool)
  | number (n : N)
  | string (s : String)
  | array (elements : List (Json N))
  | object (members : List (String × Json N))

namespace Json

variable {N M : Type}

/-- The member of an object under a key. -/
def member? : Json N → String → Option (Json N)
  | .object members, key => members.lookup key
  | _, _ => none

mutual

/-- Every number replaced by a value. -/
def bind (f : N → Json M) : Json N → Json M
  | .null => .null
  | .bool b => .bool b
  | .number n => f n
  | .string s => .string s
  | .array elements => .array (bindElements f elements)
  | .object members => .object (bindMembers f members)

def bindElements (f : N → Json M) : List (Json N) → List (Json M)
  | [] => []
  | v :: vs => bind f v :: bindElements f vs

def bindMembers (f : N → Json M) : List (String × Json N) → List (String × Json M)
  | [] => []
  | (key, v) :: members => (key, bind f v) :: bindMembers f members

end

mutual

/-- The numbers of a value. -/
def numbers : Json N → List N
  | .number n => [n]
  | .array elements => numbersOfElements elements
  | .object members => numbersOfMembers members
  | _ => []

def numbersOfElements : List (Json N) → List N
  | [] => []
  | v :: vs => numbers v ++ numbersOfElements vs

def numbersOfMembers : List (String × Json N) → List N
  | [] => []
  | (_, v) :: members => numbers v ++ numbersOfMembers members

end

@[simp] theorem member?_object (members : List (String × Json N)) (key : String) :
    (object members).member? key = members.lookup key := rfl

@[simp] theorem bind_string (f : N → Json M) (s : String) : (string s).bind f = .string s := rfl

@[simp] theorem bind_bool (f : N → Json M) (b : Bool) : (bool b).bind f = .bool b := rfl

@[simp] theorem bind_number (f : N → Json M) (n : N) : (number n).bind f = f n := rfl

theorem bindElements_eq_map (f : N → Json M) (vs : List (Json N)) :
    bindElements f vs = vs.map (bind f) := by
  induction vs with
  | nil => rfl
  | cons v vs ih => rw [bindElements, ih, List.map_cons]

theorem bindMembers_eq_map (f : N → Json M) (members : List (String × Json N)) :
    bindMembers f members = members.map fun m => (m.1, m.2.bind f) := by
  induction members with
  | nil => rfl
  | cons m members ih => rw [bindMembers, ih, List.map_cons]

@[simp] theorem bind_array (f : N → Json M) (vs : List (Json N)) :
    (array vs).bind f = .array (vs.map (bind f)) := by
  rw [bind, bindElements_eq_map]

@[simp] theorem bind_object (f : N → Json M) (members : List (String × Json N)) :
    (object members).bind f = .object (members.map fun m => (m.1, m.2.bind f)) := by
  rw [bind, bindMembers_eq_map]

theorem lookup_map_snd (g : Json N → Json M) (members : List (String × Json N)) (key : String) :
    (members.map fun m => (m.1, g m.2)).lookup key = (members.lookup key).map g := by
  induction members with
  | nil => rfl
  | cons m members ih =>
    rw [List.map_cons, List.lookup_cons, List.lookup_cons, ih]
    cases key == m.1 <;> rfl

/-- Reading an object's member commutes with replacing the numbers. -/
theorem member?_bind (f : N → Json M) (members : List (String × Json N)) (key : String) :
    ((object members).bind f).member? key = ((object members).member? key).map (bind f) := by
  rw [bind_object, member?_object, member?_object]
  exact lookup_map_snd (bind f) members key

end Json

end Library
