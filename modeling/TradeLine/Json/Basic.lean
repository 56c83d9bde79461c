import TradeLine.Decimal.Layout

/-!
# JSON values

A `Json` value keeps apart whole numbers and floating-point ones, since they are written and read
differently. The members of an object stand in the order in which they are written: a **record**
keeps the order of its fields (`Json.obj`), an **object** as a general value has its members in
key order, each key once (`Json.object`).

The views (`member`, `text?`, `nat?`, `number?`, `isTrue`) ask a value for what a table row needs
and never fail.
-/

namespace TradeLine

/-- A JSON value. -/
inductive Json
  | null
  | bool (b : Bool)
  | int (n : Int)
  | float (x : Binary64)
  | str (s : Text)
  | arr (items : List Json)
  | obj (members : List (Text × Json))

namespace Json

instance : Inhabited Json := ⟨.null⟩

/-! ## Members in key order -/

/-- Puts a member among members in key order, in place of one with the same key. -/
def insertMember (key : Text) (value : Json) : List (Text × Json) → List (Text × Json)
  | [] => [(key, value)]
  | (k, v) :: rest =>
    if key < k then (key, value) :: (k, v) :: rest
    else if key = k then (key, value) :: rest
    else (k, v) :: insertMember key value rest

/-- The members in key order; of two with the same key the later one stays. -/
def ordered (members : List (Text × Json)) : List (Text × Json) :=
  members.foldl (fun sofar m => insertMember m.1 m.2 sofar) []

/-- An object as a general value: its members in key order. -/
def object (members : List (Text × Json)) : Json :=
  .obj (ordered members)

/-! ## Views -/

/-- The first of the members with the given key. -/
def lookup (key : Text) : List (Text × Json) → Option Json
  | [] => none
  | (k, v) :: rest => if k = key then some v else lookup key rest

/-- The member of an object with the given key, and `null` where there is none. -/
def member (key : Text) : Json → Json
  | .obj members => (lookup key members).getD .null
  | _ => .null

/-- The text of a string. -/
def text? : Json → Option Text
  | .str s => some s
  | _ => none

/-- A whole number that is not below zero. -/
def nat? : Json → Option Nat
  | .int n => n.toNat?
  | _ => none

/-- A number, as the nearest one of the floating-point format. -/
def number? : Json → Option Binary64
  | .int n => some (Binary64.ofInt n)
  | .float x => some x
  | _ => none

/-- Whether the value is `null`. -/
def isNull : Json → Bool
  | .null => true
  | _ => false

/-- Whether the value is `true`. -/
def isTrue : Json → Bool
  | .bool b => b
  | _ => false

@[simp] theorem member_obj_cons_self (key : Text) (v : Json) (rest : List (Text × Json)) :
    member key (.obj ((key, v) :: rest)) = v := by
  simp [member, lookup]

end Json

end TradeLine
