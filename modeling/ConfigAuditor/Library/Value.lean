import Mathlib.Data.List.Sort
import ConfigAuditor.Library.Float

/-!
# Dynamically typed values

Values that JSON text, database columns and declarative rules carry. Equality,
numeric conversion and the JSON encoder follow the Python 3.13 library, with its
limit on the length of integer literals.
-/
namespace ConfigAuditor.Library

/-- The built-in exceptions that value conversions raise. -/
inductive PyError where
  | valueError
  | typeError
  | keyError
  | indexError
  | attributeError
  | overflowError
  deriving DecidableEq, Repr

inductive PyValue where
  | none
  | bool (b : Bool)
  | int (i : Int)
  | float (x : PyFloat)
  | str (s : String)
  | list (items : List PyValue)
  | dict (entries : List (String × PyValue))

namespace PyValue

mutual
def same : PyValue → PyValue → Bool
  | .none, .none => true
  | .bool a, .bool b => a == b
  | .int a, .int b => a == b
  | .float a, .float b => decide (a = b)
  | .str a, .str b => a == b
  | .list a, .list b => sameList a b
  | .dict a, .dict b => sameEntries a b
  | _, _ => false

def sameList : List PyValue → List PyValue → Bool
  | [], [] => true
  | a :: as, b :: bs => same a b && sameList as bs
  | _, _ => false

def sameEntries : List (String × PyValue) → List (String × PyValue) → Bool
  | [], [] => true
  | (k, a) :: as, (l, b) :: bs => k == l && same a b && sameEntries as bs
  | _, _ => false
end

mutual
theorem same_iff (a b : PyValue) : same a b = true ↔ a = b := by
  cases a <;> cases b <;> simp only [same, beq_iff_eq, decide_eq_true_eq, reduceCtorEq,
    PyValue.bool.injEq, PyValue.int.injEq, PyValue.float.injEq, PyValue.str.injEq,
    PyValue.list.injEq, PyValue.dict.injEq, Bool.false_eq_true]
  · exact sameList_iff _ _
  · exact sameEntries_iff _ _

theorem sameList_iff (as bs : List PyValue) : sameList as bs = true ↔ as = bs := by
  cases as with
  | nil => cases bs <;> simp [sameList]
  | cons a as => cases bs with
    | nil => simp [sameList]
    | cons b bs =>
      rw [sameList, Bool.and_eq_true, same_iff a b, sameList_iff as bs, List.cons.injEq]

theorem sameEntries_iff (as bs : List (String × PyValue)) :
    sameEntries as bs = true ↔ as = bs := by
  cases as with
  | nil => cases bs <;> simp [sameEntries]
  | cons a as => cases bs with
    | nil => simp [sameEntries]
    | cons b bs =>
      obtain ⟨k, a⟩ := a
      obtain ⟨l, b⟩ := b
      rw [sameEntries, Bool.and_eq_true, Bool.and_eq_true, beq_iff_eq, same_iff a b,
        sameEntries_iff as bs, List.cons.injEq, Prod.mk.injEq]
end

instance : DecidableEq PyValue := fun a b => decidable_of_iff _ (same_iff a b)

/-- The number a value is for `==` and `<=`: booleans are the integers 0 and 1. -/
inductive Number where
  | int (i : Int)
  | float (x : PyFloat)

def number? : PyValue → Option Number
  | .bool b => some (.int (if b then 1 else 0))
  | .int i => some (.int i)
  | .float x => some (.float x)
  | _ => Option.none

/-- Comparison of an integer with a float is exact in Python. -/
def Number.eq : Number → Number → Bool
  | .int a, .int b => a == b
  | .float a, .float b => PyFloat.eq a b
  | .int a, .float b => b.toRat? == some (a : Rat)
  | .float a, .int b => a.toRat? == some (b : Rat)

def Number.le : Number → Number → Bool
  | .int a, .int b => a ≤ b
  | .float a, .float b => PyFloat.lt a b || PyFloat.eq a b
  | .int a, .float b => match b.toRat? with
    | some q => decide ((a : Rat) ≤ q)
    | Option.none => b == .inf
  | .float a, .int b => match a.toRat? with
    | some q => decide (q ≤ (b : Rat))
    | Option.none => a == .negInf

def lookup (key : String) (entries : List (String × PyValue)) : Option PyValue :=
  (entries.find? (·.1 == key)).map (·.2)

mutual
/-- `a == b`. -/
def eq : PyValue → PyValue → Bool
  | .none, .none => true
  | .str a, .str b => a == b
  | .list a, .list b => eqList a b
  | .dict a, .dict b => a.length == b.length && eqEntries a b
  | a, b => match number? a, number? b with
    | some x, some y => x.eq y
    | _, _ => false

def eqList : List PyValue → List PyValue → Bool
  | [], [] => true
  | a :: as, b :: bs => eq a b && eqList as bs
  | _, _ => false

def eqEntries : List (String × PyValue) → List (String × PyValue) → Bool
  | [], _ => true
  | (k, a) :: as, other =>
    (match lookup k other with
      | some b => eq a b
      | Option.none => false) && eqEntries as other
end

/-- Python refuses to convert between `int` and text past this many digits. -/
def maxStrDigits : Nat := 4300

/-- `str(i)`. -/
def intText (i : Int) : Except PyError String :=
  if (Nat.toDigits 10 i.natAbs).length ≤ maxStrDigits then .ok (toString i)
  else .error .valueError

/-- `int(text)`. -/
def intOfText (s : String) : Except PyError Int :=
  let (negative, cs) := PyFloat.splitSign (Text.stripList Text.isSpace s.toList)
  match PyFloat.digitRun cs with
  | some (ds, []) =>
    if ds.length ≤ maxStrDigits then
      match Text.digitsValue ds with
      | some n => .ok (if negative then -(n : Int) else (n : Int))
      | Option.none => .error .valueError
    else .error .valueError
  | _ => .error .valueError

/-- `int(value)`. -/
def toInt : PyValue → Except PyError Int
  | .bool b => .ok (if b then 1 else 0)
  | .int i => .ok i
  | .float x => match x.toRat? with
    | some q => .ok (PyFloat.truncate q)
    | Option.none => .error (if x = .nan then .valueError else .overflowError)
  | .str s => intOfText s
  | _ => .error .typeError

/-- `float(value)`. -/
def toFloat : PyValue → Except PyError PyFloat
  | .bool b => .ok (.finite (if b then 1 else 0))
  | .int i => match PyFloat.ofInt? i with
    | some x => .ok x
    | Option.none => .error .overflowError
  | .float x => .ok x
  | .str s => match PyFloat.ofText? s with
    | some x => .ok x
    | Option.none => .error .valueError
  | _ => .error .typeError

/-- `str(value)` of a scalar. Containers never reach a text conversion here. -/
def text : PyValue → Except PyError String
  | .none => .ok "None"
  | .bool b => .ok (if b then "True" else "False")
  | .int i => intText i
  | .float x => .ok x.repr
  | .str s => .ok s
  | _ => .error .typeError

/-- The text of a string value. -/
def str? : PyValue → Option String
  | .str s => some s
  | _ => Option.none

def isStr : PyValue → Bool
  | .str _ => true
  | _ => false

def isBool : PyValue → Bool
  | .bool _ => true
  | _ => false

/-- `isinstance(value, int) and not isinstance(value, bool)`. -/
def isInt : PyValue → Bool
  | .int _ => true
  | _ => false

def isNumber : PyValue → Bool
  | .int _ => true
  | .float _ => true
  | _ => false

def isContainer : PyValue → Bool
  | .list _ => true
  | .dict _ => true
  | _ => false

/-- The items a `for` loop over the value visits. -/
def iterate : PyValue → Except PyError (List PyValue)
  | .list items => .ok items
  | .str s => .ok (s.toList.map fun c => .str (String.ofList [c]))
  | .dict entries => .ok (entries.map fun p => .str p.1)
  | _ => .error .typeError

/-- `bool(value)`. -/
def truthy : PyValue → Bool
  | .none => false
  | .bool b => b
  | .int i => i != 0
  | .float x => x.toRat? != some 0
  | .str s => !s.isEmpty
  | .list items => !items.isEmpty
  | .dict entries => !entries.isEmpty

/-- `value * factor` for a positive integer; text and lists are repeated. -/
def times (value : PyValue) (factor : Nat) : Except PyError PyValue :=
  match value with
  | .bool b => .ok (.int (if b then factor else 0))
  | .int i => .ok (.int (i * factor))
  | .float x => .ok (.float (PyFloat.mul x (.finite factor)))
  | .str s => .ok (.str (String.ofList (List.replicate factor s.toList).flatten))
  | .list items => .ok (.list (List.replicate factor items).flatten)
  | _ => .error .typeError

/-- `value / divisor` for a positive integer. -/
def dividedBy (value : PyValue) (divisor : Nat) : Except PyError PyValue :=
  match value with
  | .bool b => .ok (.float (PyFloat.round ((if b then 1 else 0) / (divisor : Rat)) false))
  | .int i =>
    let x := PyFloat.round ((i : Rat) / divisor) false
    if x.isFinite then .ok (.float x) else .error .overflowError
  | .float x => .ok (.float (PyFloat.divRat x divisor))
  | _ => .error .typeError

def hexDigits (n : Nat) : List Char :=
  [Nat.digitChar (n / 4096 % 16), Nat.digitChar (n / 256 % 16), Nat.digitChar (n / 16 % 16),
    Nat.digitChar (n % 16)]

def escapeChar (c : Char) : List Char :=
  let n := c.toNat
  if c == '"' then ['\\', '"']
  else if c == '\\' then ['\\', '\\']
  else if n == 10 then ['\\', 'n']
  else if n == 13 then ['\\', 'r']
  else if n == 9 then ['\\', 't']
  else if n == 12 then ['\\', 'f']
  else if n == 8 then ['\\', 'b']
  else if 32 ≤ n && n ≤ 126 then [c]
  else if n < 0x10000 then '\\' :: 'u' :: hexDigits n
  else
    let m := n - 0x10000
    '\\' :: 'u' :: hexDigits (0xd800 + m / 1024) ++ '\\' :: 'u' :: hexDigits (0xdc00 + m % 1024)

def jsonString (s : String) : List Char := '"' :: s.toList.flatMap escapeChar ++ ['"']

def jsonFloat (x : PyFloat) : String :=
  match x with
  | .nan => "NaN"
  | .inf => "Infinity"
  | .negInf => "-Infinity"
  | x => x.repr

/-- Parts of a JSON container, separated by commas. -/
def commaSeparated (parts : List (List Char)) : List Char := [','].intercalate parts

/-- The members of a JSON object, in key order when `sort_keys` is set. -/
def ordered (sortKeys : Bool) (parts : List (String × List Char)) : List (String × List Char) :=
  if sortKeys then parts.insertionSort fun a b => a.1 ≤ b.1 else parts

mutual
/-- The characters of `json.dumps(value, separators=(",", ":"))`. -/
def encode (sortKeys : Bool) : PyValue → Except PyError (List Char)
  | .none => .ok "null".toList
  | .bool b => .ok (if b then "true".toList else "false".toList)
  | .int i => (intText i).map (·.toList)
  | .float x => .ok (jsonFloat x).toList
  | .str s => .ok (jsonString s)
  | .list items => do
    let parts ← encodeList sortKeys items
    return '[' :: commaSeparated parts ++ [']']
  | .dict entries => do
    let parts ← encodeEntries sortKeys entries
    let members := (ordered sortKeys parts).map fun p => jsonString p.1 ++ ':' :: p.2
    return '\x7b' :: commaSeparated members ++ ['\x7d']

def encodeList (sortKeys : Bool) : List PyValue → Except PyError (List (List Char))
  | [] => .ok []
  | v :: vs => do
    let part ← encode sortKeys v
    let parts ← encodeList sortKeys vs
    return part :: parts

def encodeEntries (sortKeys : Bool) :
    List (String × PyValue) → Except PyError (List (String × List Char))
  | [] => .ok []
  | (k, v) :: rest => do
    let part ← encode sortKeys v
    let parts ← encodeEntries sortKeys rest
    return (k, part) :: parts
end

/-- `json.dumps(value, sort_keys=True, separators=(",", ":"))`. -/
def dumps (v : PyValue) : Except PyError String := (encode true v).map String.ofList

/-- `len` of a string, list or dict. -/
def length? : PyValue → Option Nat
  | .str s => some s.length
  | .list items => some items.length
  | .dict entries => some entries.length
  | _ => Option.none

end PyValue

end ConfigAuditor.Library
