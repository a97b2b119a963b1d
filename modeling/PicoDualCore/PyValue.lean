import Mathlib.Algebra.GroupWithZero.Nat
import Mathlib.Algebra.Ring.Int.Defs
set_option autoImplicit false

/-!
The Python values that messages, commands and configurations are built from. A `dict` keeps
its items in insertion order; a key that is not a string is known by its type only.
-/

namespace PicoDualCore

/-- The number `mantissa * 10 ^ exponent`. -/
structure Decimal where
  mantissa : Int
  exponent : Int
  deriving DecidableEq, Repr

def Decimal.ofInt (n : Int) : Decimal := ⟨n, 0⟩

def Decimal.scaled (d : Decimal) (e : Int) : Int := d.mantissa * 10 ^ (d.exponent - e).toNat

def Decimal.beq (a b : Decimal) : Bool :=
  a.scaled (min a.exponent b.exponent) == b.scaled (min a.exponent b.exponent)

def Decimal.le (a b : Decimal) : Bool :=
  a.scaled (min a.exponent b.exponent) ≤ b.scaled (min a.exponent b.exponent)

def Decimal.abs (d : Decimal) : Decimal := ⟨d.mantissa.natAbs, d.exponent⟩

/-- A finite float is the decimal its representation spells. -/
inductive PyFloat where
  | finite (d : Decimal)
  | posInf
  | negInf
  | nan
  deriving DecidableEq, Repr

/-- The exceptions of Python itself that the modelled code can meet. -/
inductive PyError where
  | typeError (message : String)
  | valueError (message : String)
  | keyError (key : String)
  | attributeError (message : String)
  | overflowError (message : String)
  deriving DecidableEq, Repr

inductive PyKey where
  | str (s : String)
  | other (typeName : String)
  deriving DecidableEq, Repr

inductive PyValue where
  | none
  | bool (b : Bool)
  | int (n : Int)
  | float (f : PyFloat)
  | str (s : String)
  | list (items : List PyValue)
  | tuple (items : List PyValue)
  | dict (items : List (PyKey × PyValue))
  | other (typeName : String)
  deriving Repr, BEq

abbrev PyDict := List (PyKey × PyValue)

/-- `d.get(key)` of a dict, as an option. -/
def PyDict.get? : PyDict → String → Option PyValue
  | [], _ => none
  | (k, v) :: rest, key => if k = .str key then some v else PyDict.get? rest key

def PyDict.item? : PyDict → PyKey → Option PyValue
  | [], _ => none
  | (k, v) :: rest, key => if k = key then some v else PyDict.item? rest key

def PyDict.has (d : PyDict) (key : String) : Bool := (d.get? key).isSome

/-- `d.get(key)`, whose default is `None`. -/
def PyDict.getD (d : PyDict) (key : String) : PyValue := (d.get? key).getD .none

def PyKey.text : PyKey → String
  | .str s => s
  | .other t => t

def PyDict.keys (d : PyDict) : List String := d.map (fun item => item.1.text)

def PyValue.typeName : PyValue → String
  | .none => "NoneType"
  | .bool _ => "bool"
  | .int _ => "int"
  | .float _ => "float"
  | .str _ => "str"
  | .list _ => "list"
  | .tuple _ => "tuple"
  | .dict _ => "dict"
  | .other t => t

def PyValue.hashable : PyValue → Bool
  | .list _ | .dict _ => false
  | _ => true

/-- `sorted` of a set of strings. -/
def sortedInsert (s : String) : List String → List String
  | [] => [s]
  | t :: rest => if s = t then t :: rest else if s < t then s :: t :: rest else t :: sortedInsert s rest

def sortedSet (names : List String) : List String := names.foldr sortedInsert []

def PyValue.isDict : PyValue → Bool
  | .dict _ => true
  | _ => false

/-- The number an `int`, a `bool` or a finite `float` compares as. -/
def PyValue.number? : PyValue → Option Decimal
  | .bool b => some (.ofInt (if b then 1 else 0))
  | .int n => some (.ofInt n)
  | .float (.finite d) => some d
  | _ => Option.none

mutual

/-- Python's `==`: numbers by value across their types, dicts whatever the order of items. -/
def PyValue.pyEq : PyValue → PyValue → Bool
  | .none, .none => true
  | .str s, .str t => s == t
  | .list xs, .list ys => PyValue.pyEqItems xs ys
  | .tuple xs, .tuple ys => PyValue.pyEqItems xs ys
  | .dict xs, .dict ys => xs.length == ys.length && PyValue.pyEqDict xs ys
  | .float .posInf, .float .posInf => true
  | .float .negInf, .float .negInf => true
  | .other t, .other u => t == u
  | v, w => match v.number?, w.number? with
    | some p, some q => p.beq q
    | _, _ => false

def PyValue.pyEqItems : List PyValue → List PyValue → Bool
  | [], [] => true
  | x :: xs, y :: ys => PyValue.pyEq x y && PyValue.pyEqItems xs ys
  | _, _ => false

def PyValue.pyEqDict : List (PyKey × PyValue) → PyDict → Bool
  | [], _ => true
  | (k, v) :: rest, ys =>
    (match PyDict.item? ys k with
      | some w => PyValue.pyEq v w
      | Option.none => false) && PyValue.pyEqDict rest ys

end

example : (PyValue.dict [(.str "a", .int 1), (.str "b", .bool false)]).pyEq
    (.dict [(.str "b", .float (.finite ⟨0, 0⟩)), (.str "a", .float (.finite ⟨10, -1⟩))]) = true := by
  decide

end PicoDualCore
