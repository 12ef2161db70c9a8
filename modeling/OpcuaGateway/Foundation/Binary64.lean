import OpcuaGateway.Foundation.Text

namespace binary64

open text

/-- The significand and exponent ranges of a finite binary64 number, in the one
form its encoding admits. -/
abbrev Canonical (significand : Nat) (exponent : Int) : Prop :=
  significand < 2 ^ 53 ∧ -1074 ≤ exponent ∧ exponent ≤ 971 ∧
    (2 ^ 52 ≤ significand ∨ exponent = -1074)

/-- A finite binary64 number `± significand * 2 ^ exponent`. -/
structure Finite where
  negative : Bool
  significand : Nat
  exponent : Int
  canonical : Canonical significand exponent
  deriving DecidableEq

inductive Binary64 where
  | nan
  | infinite (negative : Bool)
  | finite (x : Finite)
  deriving DecidableEq

def zero (negative : Bool) : Finite := ⟨negative, 0, -1074, by decide⟩

/-- The binary exponent of the last place of `num / den`. -/
def lastPlace (num den : Nat) : Int :=
  let e : Int := (num.log2 : Int) - den.log2
  let reached : Bool := if 0 ≤ e then den * 2 ^ e.toNat ≤ num else den ≤ num * 2 ^ (-e).toNat
  max ((if reached then e else e - 1) - 52) (-1074)

/-- The binary64 number closest to `num / den`, ties to the even significand. -/
def ofRatio (negative : Bool) (num den : Nat) : Binary64 :=
  if num = 0 then .finite (zero negative)
  else
    let e := lastPlace num den
    let n := if 0 ≤ e then num else num * 2 ^ (-e).toNat
    let d := if 0 ≤ e then den * 2 ^ e.toNat else den
    let q := n / d
    let r := n % d
    let m := if d < 2 * r ∨ (2 * r = d ∧ q % 2 = 1) then q + 1 else q
    let (m, e) := if m = 2 ^ 53 then (2 ^ 52, e + 1) else (m, e)
    if h : Canonical m e then .finite ⟨negative, m, e, h⟩ else .infinite negative

def ofInt (n : Int) : Binary64 := ofRatio (decide (n < 0)) n.natAbs 1

def is_finite : Binary64 → Bool
  | .finite _ => true
  | _ => false

/-- The comparison `x > 0.0`. -/
def isPositive : Binary64 → Bool
  | .nan => false
  | .infinite negative => !negative
  | .finite x => !x.negative && x.significand != 0

/-- `x.max(0.0)` truncated to an unsigned 64-bit integer, saturating. -/
def truncateU64 : Binary64 → Nat
  | .nan => 0
  | .infinite negative => if negative then 0 else 2 ^ 64 - 1
  | .finite x =>
    if x.negative then 0
    else if 0 ≤ x.exponent then min (x.significand * 2 ^ x.exponent.toNat) (2 ^ 64 - 1)
    else x.significand / 2 ^ (-x.exponent).toNat

/-- The exponent part of a decimal float, with its optional sign. -/
def decimalExponent : List Char → Option Int
  | '-' :: rest => if rest = [] then none else (digits rest).map fun n => -(n : Int)
  | '+' :: rest => if rest = [] then none else (digits rest).map Int.ofNat
  | cs => if cs = [] then none else (digits cs).map Int.ofNat

/-- An unsigned decimal float: digits with an optional point among them and an
optional exponent behind them. -/
def decimal (negative : Bool) (cs : List Char) : Option Binary64 :=
  let mantissa := cs.takeWhile fun c => c != 'e' && c != 'E'
  let whole := mantissa.takeWhile (· != '.')
  let fraction := (mantissa.drop whole.length).drop 1
  let exponent : Option Int :=
    match cs.drop mantissa.length with
    | [] => some 0
    | _ :: rest => decimalExponent rest
  if whole = [] ∧ fraction = [] then none
  else
    match digits (whole ++ fraction), exponent with
    | some n, some e =>
      let shift := e - fraction.length
      if 0 ≤ shift then some (ofRatio negative (n * 10 ^ shift.toNat) 1)
      else some (ofRatio negative n (10 ^ (-shift).toNat))
    | _, _ => none

/-- Parsing of a float: an optional sign, then `inf`, `infinity`, `nan` in any
case or a decimal number. -/
def parse (s : String) : Option Binary64 :=
  let (negative, body) :=
    match s.toList with
    | '-' :: rest => (true, rest)
    | '+' :: rest => (false, rest)
    | cs => (false, cs)
  let word := String.ofList (body.map to_ascii_lowercase)
  if word = "inf" ∨ word = "infinity" then some (.infinite negative)
  else if word = "nan" then some .nan
  else decimal negative body

example : parse "1.5e1" = some (ofInt 15) ∧ parse "." = none ∧ parse "-0.5" = some (ofRatio true 1 2) := by
  decide
example : truncateU64 (ofRatio false 7 2) = 3 ∧ truncateU64 (ofInt (-4)) = 0 := by decide

end binary64
