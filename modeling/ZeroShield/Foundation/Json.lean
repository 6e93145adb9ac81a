import Mathlib.Data.Rat.Defs

/-!
# JSON values
-/

namespace ZeroShield.Foundation

/-- A parsed JSON value with numbers of some type; the fields of an object keep the order in which
they were written. -/
inductive Json (ν : Type := ℚ)
  | null
  | bool (value : Bool)
  | int (value : ℤ)
  | float (value : ν)
  | str (value : String)
  | arr (items : List (Json ν))
  | obj (fields : List (String × Json ν))

namespace Json

section DecEq

variable {ν : Type} [DecidableEq ν]

mutual

/-- Equality of values is decidable. -/
def decEq : (left right : Json ν) → Decidable (left = right)
  | null, null => isTrue rfl
  | bool a, bool b =>
      if h : a = b then isTrue (congrArg bool h) else isFalse fun equal => h (by injection equal)
  | int a, int b =>
      if h : a = b then isTrue (congrArg int h) else isFalse fun equal => h (by injection equal)
  | float a, float b =>
      if h : a = b then isTrue (congrArg float h) else isFalse fun equal => h (by injection equal)
  | str a, str b =>
      if h : a = b then isTrue (congrArg str h) else isFalse fun equal => h (by injection equal)
  | arr a, arr b =>
      match decEqItems a b with
      | isTrue h => isTrue (congrArg arr h)
      | isFalse h => isFalse fun equal => h (by injection equal)
  | obj a, obj b =>
      match decEqFields a b with
      | isTrue h => isTrue (congrArg obj h)
      | isFalse h => isFalse fun equal => h (by injection equal)
  | null, bool _ | null, int _ | null, float _ | null, str _ | null, arr _ | null, obj _
  | bool _, null | bool _, int _ | bool _, float _ | bool _, str _ | bool _, arr _ | bool _, obj _
  | int _, null | int _, bool _ | int _, float _ | int _, str _ | int _, arr _ | int _, obj _
  | float _, null | float _, bool _ | float _, int _ | float _, str _ | float _, arr _
  | float _, obj _
  | str _, null | str _, bool _ | str _, int _ | str _, float _ | str _, arr _ | str _, obj _
  | arr _, null | arr _, bool _ | arr _, int _ | arr _, float _ | arr _, str _ | arr _, obj _
  | obj _, null | obj _, bool _ | obj _, int _ | obj _, float _ | obj _, str _
  | obj _, arr _ => isFalse nofun

/-- Equality of lists of values is decidable. -/
def decEqItems : (left right : List (Json ν)) → Decidable (left = right)
  | [], [] => isTrue rfl
  | [], _ :: _ => isFalse nofun
  | _ :: _, [] => isFalse nofun
  | a :: as, b :: bs =>
      match decEq a b, decEqItems as bs with
      | isTrue head, isTrue tail => isTrue (by rw [head, tail])
      | isFalse head, _ => isFalse fun equal => head (by injection equal)
      | _, isFalse tail => isFalse fun equal => tail (by injection equal)

/-- Equality of lists of fields is decidable. -/
def decEqFields : (left right : List (String × Json ν)) → Decidable (left = right)
  | [], [] => isTrue rfl
  | [], _ :: _ => isFalse nofun
  | _ :: _, [] => isFalse nofun
  | (name, a) :: as, (other, b) :: bs =>
      match decEq a b, decEqFields as bs with
      | isTrue head, isTrue tail =>
          if h : name = other then isTrue (by rw [h, head, tail])
          else isFalse fun equal => h (by injection equal with first _; injection first)
      | isFalse head, _ =>
          isFalse fun equal => head (by injection equal with first _; injection first)
      | _, isFalse tail => isFalse fun equal => tail (by injection equal)

end

instance : DecidableEq (Json ν) := decEq

end DecEq

end Json

end ZeroShield.Foundation
