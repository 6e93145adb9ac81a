import ZeroShield.Foundation.Json
import Mathlib.Data.List.Sort

/-!
# Canonical JSON text

JSON written without blanks, in ASCII, and with the names of an object in their order.
-/

namespace ZeroShield.Foundation.Json

/-- A hexadecimal digit. -/
def hexDigit (digit : ℕ) : Char :=
  if digit < 10 then Char.ofNat (48 + digit) else Char.ofNat (87 + digit)

/-- An escape of a code unit of sixteen bits. -/
def escapeUnit (code : ℕ) : List Char :=
  ['\\', 'u', hexDigit (code / 4096 % 16), hexDigit (code / 256 % 16), hexDigit (code / 16 % 16),
    hexDigit (code % 16)]

/-- A character of a text; characters beyond the first plane are written as surrogates. -/
def escapeChar (c : Char) : List Char :=
  let code := c.toNat
  if code = 34 ∨ code = 92 then ['\\', c]
  else if code = 10 then ['\\', 'n']
  else if code = 13 then ['\\', 'r']
  else if code = 9 then ['\\', 't']
  else if code = 8 then ['\\', 'b']
  else if code = 12 then ['\\', 'f']
  else if 32 ≤ code ∧ code < 127 then [c]
  else if code < 0x10000 then escapeUnit code
  else escapeUnit (0xd800 + (code - 0x10000) / 1024) ++
    escapeUnit (0xdc00 + (code - 0x10000) % 1024)

/-- A quoted text. -/
def quoted (text : String) : String :=
  String.ofList ([Char.ofNat 34] ++ text.toList.flatMap escapeChar ++ [Char.ofNat 34])

variable {ν : Type}

mutual

/-- The canonical text of a value; `floatText` writes a number with a fraction. -/
def canonical (floatText : ν → String) : Json ν → String
  | null => "null"
  | bool true => "true"
  | bool false => "false"
  | int value => toString value
  | float value => floatText value
  | str value => quoted value
  | arr items => "[" ++ String.intercalate "," (canonicalItems floatText items) ++ "]"
  | obj fields =>
      let sorted := (canonicalFields floatText fields).insertionSort fun left right =>
        left.1 ≤ right.1
      "\x7b" ++ String.intercalate "," (sorted.map fun (name, text) => quoted name ++
        ":" ++ text) ++
        "\x7d"

def canonicalItems (floatText : ν → String) : List (Json ν) → List String
  | [] => []
  | item :: items => canonical floatText item :: canonicalItems floatText items

def canonicalFields (floatText : ν → String) :
    List (String × Json ν) → List (String × String)
  | [] => []
  | (name, value) :: fields => (name, canonical floatText value) :: canonicalFields floatText fields

end

example : canonical (fun _ => "0.5")
    (.obj [("b", .arr [.int 1, .float (1 / 2)]), ("a", .str "é")]) =
    "\x7b\"a\":\"\\u00e9\",\"b\":[1,0.5]\x7d" := by decide

end ZeroShield.Foundation.Json
