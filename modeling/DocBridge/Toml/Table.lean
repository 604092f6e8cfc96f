import DocBridge.Entries
import DocBridge.Toml.Value

/-!
# Building tables

A table can come to be in four ways, and how it did decides what may be added to it. One in braces
is closed. One that a header names is closed to dotted keys. One that is only on the way of a header
may still get a header of its own. One made by a dotted key may not, but may get more dotted keys. A
list of tables is added to by headers of list elements, and what stands below its name means its
last element.

While tables are built their entries stay in the order in which their keys appear. A table that gets
its header later counts as appearing there.
-/

namespace DocBridge.Toml

inductive Origin where
  | braces
  | header
  | onTheWay
  | dotted
deriving DecidableEq, Repr

inductive Item where
  | value (v : Value)
  | array (items : List Item)
  | table (origin : Origin) (items : List (String × Item))
  /-- The elements of a list of tables, the last first. -/
  | tables (elements : List (List (String × Item)))

abbrev Items := Entries String Item

namespace Items

/-- Changes the table that keys lead to from a table of some origin. Tables that are missing are
made, as by a dotted key or by a header. -/
def change (dotted : Bool) (f : Origin → Items → Option Items) :
    Origin → List String → Items → Option Items
  | origin, [], items => f origin items
  | _, key :: rest, items => do
    let item ← match items.find? key with
      | none =>
        let origin : Origin := if dotted then .dotted else .onTheWay
        (change dotted f origin rest []).map (Item.table origin)
      | some (.table origin inner) =>
        if origin = .braces ∨ (dotted ∧ origin = .header) then none
        else (change dotted f origin rest inner).map (Item.table origin)
      | some (.tables (last :: earlier)) =>
        (change dotted f .header rest last).map fun last => .tables (last :: earlier)
      | some _ => none
    return items.put key item

/-- Adds an entry under a dotted key. It may be new in a table that a dotted key has made, or in the
very table if the key has no dots. -/
def define (path : List String) (key : String) (item : Item) : Items → Option Items :=
  change true (fun origin items => do
    guard ((origin = .dotted) = (path ≠ []) ∧ (items.find? key).isNone)
    return items.put key item) .header path

/-- Adds an entry in the table of a header. -/
def defineBelow (header path : List String) (key : String) (item : Item) :
    Items → Option Items :=
  change false (fun _ items => define path key item items) .header header

def openTable (path : List String) (key : String) : Items → Option Items :=
  change false (fun _ items =>
    match items.find? key with
    | none => some (items.put key (.table .header []))
    | some (.table .onTheWay inner) =>
      some (items.remove key ++ [(key, .table .header inner)])
    | some _ => none) .header path

/-- Opens a new element of a list of tables. -/
def openElement (path : List String) (key : String) : Items → Option Items :=
  change false (fun _ items =>
    match items.find? key with
    | none => some (items.put key (.tables [[]]))
    | some (.tables elements) => some (items.put key (.tables ([] :: elements)))
    | some _ => none) .header path

end Items

/-! ## Values -/

/-- A table whose first key is this one is the moment that the text under it spells. -/
def momentKey : String := "$__toml_private_datetime"

/-- The moment that an item spells. -/
def Item.moment? : Item → Option Moment
  | .value (.string s) => Moment.ofText? s
  | _ => none

mutual

/-- The value that has been built. Nothing comes of a table that should be a moment and spells
none. -/
def Item.toValue? : Item → Option Value
  | .value v => some v
  | .array items => (Items.toList? items).map .array
  | .table _ items => Items.toValue? items
  | .tables elements => (Items.toTables? elements []).map .array

def Items.toValue? : List (String × Item) → Option Value
  | [] => some (.table [])
  | (key, item) :: rest =>
    if key = momentKey then item.moment?.map .moment
    else do return .table (Dictionary.insert key (← item.toValue?) (← Items.toEntries? rest))

def Items.toEntries? : List (String × Item) → Option (Dictionary Value)
  | [] => some []
  | (key, item) :: rest => do
    return Dictionary.insert key (← item.toValue?) (← Items.toEntries? rest)

def Items.toList? : List Item → Option (List Value)
  | [] => some []
  | item :: rest => do return (← item.toValue?) :: (← Items.toList? rest)

/-- The tables of a list, in front of those already taken from its end. -/
def Items.toTables? : List (List (String × Item)) → List Value → Option (List Value)
  | [], taken => some taken
  | items :: earlier, taken => do Items.toTables? earlier ((← Items.toValue? items) :: taken)

end

end DocBridge.Toml
