import DocBridge.Decimal.Binary64
import DocBridge.Dictionary
import DocBridge.Toml.Moment

/-!
# TOML values
-/

namespace DocBridge.Toml

/-- A double, the infinities and what is no number among them. -/
inductive Real where
  | finite (x : Binary64)
  | infinite (negative : Bool)
  | notNumber
deriving DecidableEq, Repr

inductive Value where
  | string (s : String)
  | integer (n : Int)
  | real (x : Real)
  | boolean (b : Bool)
  | moment (m : Moment)
  | array (items : List Value)
  | table (entries : List (String × Value))

end DocBridge.Toml
