import DeviceSync.Number.Binary64
import DeviceSync.Table

/-!
# JSON Values

The values that clients store and the service hands on without looking inside. Integers of 64 bits,
signed or unsigned, stay exact; every other number is a binary floating point number.
-/

namespace DeviceSync

/-- A number as a JSON text can carry it. -/
inductive Number where
  | integer (i : Int)
  | real (x : Binary64)
deriving DecidableEq

/-- A JSON value. The members of an object are a list, in the order in which they are written. -/
inductive Json where
  | null
  | bool (b : Bool)
  | number (n : Number)
  | text (s : String)
  | array (items : List Json)
  | object (members : List (String × Json))

namespace Json

instance : Inhabited Json := ⟨null⟩

def natural (n : Nat) : Json := number (.integer n)

/-- The value of a member; of several with one key the last, as a reader keeps them. -/
def member? (key : String) : Json → Option Json
  | object members => (members.reverse.find? fun m ↦ m.1 = key).map (·.2)
  | _ => none

end Json

end DeviceSync
