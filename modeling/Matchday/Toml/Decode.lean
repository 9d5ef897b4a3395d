import Matchday.Toml.Value

/-!
# Typed values from configuration files

Records are written as tables, or as arrays of their fields in order.  Keys and items without a
field do not matter.

## Main definitions

* `Toml.Fields`: the fields of a record.
* `Toml.Fields.required`, `Toml.Fields.optional`, `Toml.Fields.withDefault`: the value of a field.
* `Toml.text?`, `Toml.int32?`, `Toml.uint64?`, `Toml.float64?`, `Toml.bool?`, `Toml.list?`,
  `Toml.texts?`: values of single types.
-/

namespace Matchday.Toml

variable {α : Type}

/-! ### Single values -/

/-- A text. -/
def text? : Value → Option String
  | .text s => some s
  | _ => none

/-- A truth value. -/
def bool? : Value → Option Bool
  | .bool b => some b
  | _ => none

/-- An integer of 32 bits. -/
def int32? : Value → Option Int32
  | .int n => if -2147483648 ≤ n ∧ n < 2147483648 then some (Int32.ofInt n) else none
  | _ => none

/-- An integer of 64 bits without a sign. -/
def uint64? : Value → Option UInt64
  | .int n => if 0 ≤ n ∧ n < 18446744073709551616 then some (UInt64.ofNat n.toNat) else none
  | _ => none

/-- A floating-point number, which may be written as an integer of 64 bits. -/
def float64? : Value → Option Float
  | .float x => some x
  | .int n => if -9223372036854775808 ≤ n ∧ n < 18446744073709551616 then some (Float.ofInt n) else none
  | _ => none

/-- An array whose items are all decoded. -/
def list? (decode : Value → Option α) : Value → Option (List α)
  | .array items => items.mapM decode
  | _ => none

/-- The key under which a point in time is found when a table is wanted. -/
def momentKey : String := "$__toml_private_datetime"

/-- The entries of a table of texts. -/
def texts? : Value → Option (List (String × String))
  | .table entries => entries.mapM fun (key, v) => (text? v).map fun s => (key, s)
  | .moment s => some [(momentKey, s)]
  | _ => none

/-! ### Records -/

/-- The fields of a record. -/
inductive Fields where
  | named (entries : List (String × Value))
  | listed (items : List Value)

/-- The fields that a value holds. -/
def fields? : Value → Option Fields
  | .table entries => some (.named entries)
  | .moment s => some (.named [(momentKey, .text s)])
  | .array items => some (.listed items)
  | _ => none

namespace Fields

/-- The value of a field by its name, or by its place in an array. -/
def get? (fs : Fields) (i : Nat) (name : String) : Option Value :=
  match fs with
  | named entries => entries.lookup name
  | listed items => items[i]?

/-- A field that must be there. -/
def required (fs : Fields) (i : Nat) (name : String) (decode : Value → Option α) : Option α :=
  (fs.get? i name).bind decode

/-- A field with a default. -/
def withDefault (fs : Fields) (i : Nat) (name : String) (default : α)
    (decode : Value → Option α) : Option α :=
  match fs.get? i name with
  | some v => decode v
  | none => some default

/-- A field that a table may leave out. -/
def optional (fs : Fields) (i : Nat) (name : String) (decode : Value → Option α) :
    Option (Option α) :=
  match fs, fs.get? i name with
  | _, some v => (decode v).map some
  | named _, none => some none
  | listed _, none => none

end Fields

end Matchday.Toml
