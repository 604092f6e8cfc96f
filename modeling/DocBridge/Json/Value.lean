import DocBridge.Decimal.Binary64
import DocBridge.Dictionary

/-!
# JSON values

A number is an integer or a double, and the two are never equal, not even `1` and `1.0`. The members
of an object are a dictionary. The type allows members in any order; `WellFormed` says that every
object in a value is sorted, which holds of every value that is read or built with `ofMembers`.
-/

namespace DocBridge.Json

inductive Number where
  | integer (n : Int)
  | real (x : Binary64)
deriving DecidableEq, Repr

namespace Number

def same : Number → Number → Bool
  | integer m, integer n => m == n
  | real x, real y => x.same y
  | _, _ => false

/-- A natural number of at most 64 bits. A double is none, whatever its value. -/
def natural? : Number → Option Nat
  | integer n => if 0 ≤ n ∧ n < UInt64.size then some n.toNat else none
  | real _ => none

end Number

inductive Value where
  | null
  | boolean (b : Bool)
  | number (n : Number)
  | string (s : String)
  | array (items : List Value)
  | object (members : List (String × Value))
deriving Repr, Inhabited

namespace Value

def natural (n : Nat) : Value := number (.integer n)

/-- The object with these members, the last of those with one key. -/
def ofMembers (members : List (String × Value)) : Value := object (Dictionary.ofEntries members)

def string? : Value → Option String
  | string s => some s
  | _ => none

def array? : Value → Option (List Value)
  | array items => some items
  | _ => none

def object? : Value → Option (Dictionary Value)
  | object members => some members
  | _ => none

def boolean? : Value → Option Bool
  | boolean b => some b
  | _ => none

def natural? : Value → Option Nat
  | number n => n.natural?
  | _ => none

/-- The member of an object; nothing for other values. -/
def member? (v : Value) (key : String) : Option Value := v.object?.bind (Dictionary.find? · key)

/-- The item of an array; nothing for other values. -/
def item? (v : Value) (index : Nat) : Option Value := v.array?.bind (·[index]?)

mutual

/-- Every object in the value has its keys in strictly increasing order. -/
def WellFormed : Value → Prop
  | array items => AllWellFormed items
  | object members => Dictionary.Sorted members ∧ MembersWellFormed members
  | _ => True

def AllWellFormed : List Value → Prop
  | [] => True
  | v :: rest => WellFormed v ∧ AllWellFormed rest

def MembersWellFormed : List (String × Value) → Prop
  | [] => True
  | (_, v) :: rest => WellFormed v ∧ MembersWellFormed rest

end

mutual

/-- Equality of JSON values, numbers being compared as numbers. -/
def same : Value → Value → Bool
  | null, null => true
  | boolean a, boolean b => a == b
  | number m, number n => m.same n
  | string s, string t => s == t
  | array xs, array ys => allSame xs ys
  | object xs, object ys => membersSame xs ys
  | _, _ => false

def allSame : List Value → List Value → Bool
  | [], [] => true
  | x :: xs, y :: ys => same x y && allSame xs ys
  | _, _ => false

def membersSame : List (String × Value) → List (String × Value) → Bool
  | [], [] => true
  | (j, x) :: xs, (k, y) :: ys => j == k && same x y && membersSame xs ys
  | _, _ => false

end

end Value

end DocBridge.Json
