import Snekql.Numerals

/-!
# JSON texts

The values a JSON reader returns, and the compact ASCII texts of arrays of numbers and strings. The
reader is a parameter, of which only its law is used: it reads back what was written.
-/

namespace Snekql.JsonTexts

open Snekql.Numerals

abbrev Text := List Char

/-- What Python's `loads` returns. -/
inductive Json where
  | null
  | boolean (value : Bool)
  | integer (value : Int)
  | real (value : Option Rat)
  | string (value : Text)
  | array (items : List Json)
  | object (members : List (Text × Json))

/-- What stands in the written arrays. -/
inductive Scalar where
  | integer (value : Int)
  | string (value : Text)
deriving DecidableEq, Repr

def Scalar.json : Scalar → Json
  | .integer value => .integer value
  | .string value => .string value

/-! ## Writing -/

def hexDigit (value : Nat) : Char :=
  if value < 10 then Char.ofNat (48 + value) else Char.ofNat (87 + value)

/-- `\uXXXX`. -/
def codeUnit (value : Nat) : Text :=
  ['\\', 'u', hexDigit (value / 4096), hexDigit (value / 256 % 16), hexDigit (value / 16 % 16),
    hexDigit (value % 16)]

/-- One character of a string, with `ensure_ascii`. Beyond the first plane it takes two surrogates. -/
def escape (char : Char) : Text :=
  if char = '"' then ['\\', '"']
  else if char = '\\' then ['\\', '\\']
  else if char = '\n' then ['\\', 'n']
  else if char = '\r' then ['\\', 'r']
  else if char = '\t' then ['\\', 't']
  else if char.toNat = 12 then ['\\', 'f']
  else if char.toNat = 8 then ['\\', 'b']
  else if 32 ≤ char.toNat ∧ char.toNat < 127 then [char]
  else if char.toNat < 65536 then codeUnit char.toNat
  else
    codeUnit (55296 + (char.toNat - 65536) / 1024) ++
      codeUnit (56320 + (char.toNat - 65536) % 1024)

def stringText (value : Text) : Text := '"' :: (value.flatMap escape ++ ['"'])

def integerText (value : Int) : Text :=
  if value < 0 then '-' :: digits value.natAbs else digits value.natAbs

def Scalar.text : Scalar → Text
  | .integer value => integerText value
  | .string value => stringText value

def itemsText : List Scalar → Text
  | [] => []
  | [item] => item.text
  | item :: rest => item.text ++ ',' :: itemsText rest

/-- `dumps(…, ensure_ascii=True, separators=(",", ":"))` of an array. -/
def dumps (items : List Scalar) : Text := '[' :: (itemsText items ++ [']'])

/-! ## Reading -/

theorem json_injective : Function.Injective Scalar.json := by
  intro first second same
  cases first <;> cases second <;> simp_all [Scalar.json]

/-- `json.loads`, which reads what `dumps` writes; nothing where it raises. -/
structure JsonReader where
  loads : Text → Option Json
  reads_array : ∀ items, loads (dumps items) = some (.array (items.map Scalar.json))

/-- What is written determines what was written. -/
theorem JsonReader.dumps_injective (reader : JsonReader) {first second : List Scalar}
    (same : dumps first = dumps second) : first = second := by
  have read := reader.reads_array first
  rw [same, reader.reads_array, Option.some.injEq, Json.array.injEq] at read
  exact (json_injective.list_map read).symm

end Snekql.JsonTexts
