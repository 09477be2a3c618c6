import Mathlib.Algebra.Ring.Nat
import EspoScripts.Framework.CmdText

/-!
# `SET /A`

The arithmetic of the command processor: expressions over signed 32-bit
words with truncating division (`Expr`, `eval`), in which a variable that is
not defined counts as 0, and a numeral that does not fit is an error. An
error leaves the assigned variable as it was (`setA`).
-/

namespace Espo.Cmd

/-- The variables of a command session. -/
abbrev Env (V : Type) := V → Option (BitVec 32)

/-- An expression: a numeral's text, a variable, or an operation. -/
inductive Expr (V : Type) where
  | num (text : Line)
  | var (v : V)
  | add (a b : Expr V)
  | sub (a b : Expr V)
  | mul (a b : Expr V)
  | div (a b : Expr V)

/-- The value of a decimal numeral; none for no digits, or above 2147483647. -/
def numeral (text : Line) : Option (BitVec 32) :=
  if text = [] ∨ 2147483647 < Nat.ofDigitChars 10 text 0 then none
  else some (BitVec.ofNat 32 (Nat.ofDigitChars 10 text 0))

variable {V : Type}

/-- The value of an expression, or none for an error. -/
def eval (env : Env V) : Expr V → Option (BitVec 32)
  | .num text => numeral text
  | .var v => some ((env v).getD 0)
  | .add a b => (eval env a).bind fun x => (eval env b).map fun y => x + y
  | .sub a b => (eval env a).bind fun x => (eval env b).map fun y => x - y
  | .mul a b => (eval env a).bind fun x => (eval env b).map fun y => x * y
  | .div a b => (eval env a).bind fun x => (eval env b).bind fun y => if y = 0 then none else some (x.sdiv y)

/-- `SET /A v=e`. -/
def setA [DecidableEq V] (v : V) (e : Expr V) (env : Env V) : Env V :=
  match eval env e with
  | none => env
  | some x => fun w => if w = v then some x else env w

section

variable [DecidableEq V] {v : V} {e : Expr V} {env : Env V}

theorem setA_of_error (h : eval env e = none) : setA v e env = env := by
  simp only [setA, h]

theorem setA_self {x : BitVec 32} (h : eval env e = some x) : setA v e env v = some x := by
  simp only [setA, h, if_true]

theorem setA_of_ne {w : V} (h : w ≠ v) : setA v e env w = env w := by
  cases he : eval env e with
  | none => rw [setA_of_error he]
  | some x => simp only [setA, he, if_neg h]

end

/-- The numeral of `n`. -/
theorem numeral_toDigits (n : Nat) :
    numeral (Nat.toDigits 10 n) = if 2147483647 < n then none else some (BitVec.ofNat 32 n) := by
  simp only [numeral, Nat.toDigits_ne_nil, false_or, Nat.ofDigitChars_ten_toDigits]

/-- Without its last digit it is that of `n / 10`. -/
theorem dropLast_toDigits {n : Nat} (h : 10 ≤ n) : (Nat.toDigits 10 n).dropLast = Nat.toDigits 10 (n / 10) := by
  rw [Nat.toDigits_of_base_le (by decide) h, List.dropLast_concat]

/-- Division of words that hold no negative numbers. -/
theorem sdiv_ofNat {a b : Nat} (ha : a < 2 ^ 31) (hb : b < 2 ^ 31) :
    (BitVec.ofNat 32 a).sdiv (BitVec.ofNat 32 b) = BitVec.ofNat 32 (a / b) := by
  have msb : ∀ {n : Nat}, n < 2 ^ 31 → (BitVec.ofNat 32 n).msb = false := fun {n} hn => by
    rw [BitVec.msb_eq_false_iff_two_mul_lt, BitVec.toNat_ofNat]
    omega
  have hd := Nat.div_le_self a b
  apply BitVec.eq_of_toNat_eq
  rw [BitVec.sdiv_eq, msb ha, msb hb]
  simp only [BitVec.udiv_eq, BitVec.toNat_udiv, BitVec.toNat_ofNat]
  rw [Nat.mod_eq_of_lt (show a < 2 ^ 32 by omega), Nat.mod_eq_of_lt (show b < 2 ^ 32 by omega),
    Nat.mod_eq_of_lt (show a / b < 2 ^ 32 by omega)]

/-- A word is the number it prints as just when that fits and agrees with it modulo `2 ^ 32`. -/
theorem toInt_eq_iff {x : BitVec 32} {n : Nat} : x.toInt = n ↔ n < 2 ^ 31 ∧ x.toNat = n % 2 ^ 32 := by
  have hx := x.isLt
  rw [BitVec.toInt_eq_toNat_cond]
  split <;> omega

end Espo.Cmd
