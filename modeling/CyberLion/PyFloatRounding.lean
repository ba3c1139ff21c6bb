import CyberLion.EnterpriseModels

/-!
# Rounding to floating point numbers

The double that is nearest to a rational number, a tie going to the even significand; the sum of
floating point numbers, the value of a literal and the quotient of two counts are rounded so.
-/

namespace PyLib

namespace PyFloat

/-! ### Rounding -/

def twoPow : Int → Rat
  | .ofNat exponent => (2 ^ exponent : Nat)
  | .negSucc exponent => mkRat 1 (2 ^ (exponent + 1))

def leading (value : Rat) : Int :=
  let guess := (Nat.log2 value.num.natAbs : Int) - (Nat.log2 value.den : Int)
  if twoPow guess ≤ value then guess else guess - 1

/-- The integer that is nearest to a number, the even one of two. -/
def roundHalfEven (value : Rat) : Int :=
  let down := value.floor
  if value - down < 1 / 2 then down
  else if 1 / 2 < value - down then down + 1
  else if down % 2 = 0 then down
  else down + 1

def lastPlace (value : Rat) : Rat :=
  twoPow (max (leading value) (-1022) - 52)

def roundPositive (value : Rat) : Rat :=
  roundHalfEven (value / lastPlace value) * lastPlace value

def ofRat (value : Rat) : PyFloat :=
  if value = 0 then .finite 0
  else
    let rounded := roundPositive (if value < 0 then -value else value)
    if twoPow 1024 ≤ rounded then .infinite (value < 0)
    else .finite (if value < 0 then -rounded else rounded)

/-! ### Arithmetic -/

/-- `first + second`. -/
def add : PyFloat → PyFloat → PyFloat
  | nan, _ => nan
  | _, nan => nan
  | infinite first, infinite second => if first = second then infinite first else nan
  | infinite negative, finite _ => infinite negative
  | finite _, infinite negative => infinite negative
  | finite first, finite second => ofRat (first + second)

def sum (values : List PyFloat) : PyFloat :=
  values.foldl add (finite 0)

/-- `count / total`. -/
def quotient (count total : Nat) : PyFloat :=
  ofRat (mkRat count total)

/-! ### Literals -/

def exponentValue : PyStr → Int
  | [] => 0
  | _ :: [] => 0
  | _ :: sign :: digits =>
    if sign.val = 0x2D then -(natOfText digits : Int)
    else if sign.val = 0x2B then natOfText digits
    else natOfText (sign :: digits)

def tenPow : Int → Rat
  | .ofNat exponent => (10 ^ exponent : Nat)
  | .negSucc exponent => mkRat 1 (10 ^ (exponent + 1))

/-- The value of a literal without a sign, which a fraction or an exponent makes a float. -/
def unsignedOf (text : PyStr) : Option Rat :=
  match Json.scanInteger text with
  | none => none
  | some (digits, rest) =>
    let fraction := (Json.scanFraction rest).getD ([], rest)
    let exponent := (Json.scanExponent fraction.2).getD ([], fraction.2)
    if exponent.2 = [] ∧ ¬ (fraction.1.isEmpty && exponent.1.isEmpty) = true then
      some ((natOfText (digits ++ fraction.1.tail) : Rat) *
        tenPow (exponentValue exponent.1 - fraction.1.tail.length))
    else none

/-- `float(literal)` for the literals that JSON texts have. -/
def ofLiteral (literal : PyStr) : Option PyFloat :=
  if literal = py "NaN" then some nan
  else if literal = py "Infinity" then some (infinite false)
  else if literal = py "-Infinity" then some (infinite true)
  else match Json.stripWord (py "-") literal with
    | some text => (unsignedOf text).map fun value => ofRat (-value)
    | none => (unsignedOf literal).map ofRat

end PyFloat

namespace Json

def number : Json → Option PyFloat
  | .int value => some (.finite value)
  | .float literal => PyFloat.ofLiteral literal
  | _ => none

end Json

end PyLib
