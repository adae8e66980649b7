import ChatSieve.Proofs.Expr.Addition
import Mathlib.Data.Int.ModEq

/-!
# Integer arithmetic

Sums, differences and products wrap around, and taking an integer to its
residue commutes with all three of them. So a tree of them has the residue of
its exact value, wherever in the tree the range is left (`eval_amountsTo`).
Quotients and remainders are exact but where there is none: for the divisor
zero, and for the least integer divided by `-1`. `integer_arithmetic` puts both
together, with the range of whatever has the type of integers.
-/

namespace ChatSieve

/-- The quotient of two integers, rounded towards zero, and what it leaves. -/
structure IsTruncatedDivision (a b q r : Int) : Prop where
  quotient : q = a.tdiv b
  whole : q * b + r = a
  small : |r| < |b|
  sign : r = 0 ∨ r.sign = a.sign

private theorem isTruncatedDivision {a b : Int} (divisor : b ≠ 0) :
    IsTruncatedDivision a b (a.tdiv b) (a.tmod b) where
  quotient := rfl
  whole := Int.tdiv_mul_add_tmod a b
  small := by
    rw [Int.abs_eq_natAbs, Int.abs_eq_natAbs, Int.natAbs_tmod]
    have below : a.natAbs % b.natAbs < b.natAbs := Nat.mod_lt _ (Int.natAbs_pos.2 divisor)
    omega
  sign := by
    have signs := Int.sign_tmod a b
    by_cases divides : b ∣ a
    · rw [if_pos divides] at signs
      exact .inl (Int.sign_eq_zero_iff_zero.1 signs)
    · rw [if_neg divides] at signs
      exact .inr signs

/-- Nothing is divided by zero, and the least integer not by `-1`. -/
def HasNoQuotient (a b : Int) : Prop := b = 0 ∨ a = -2 ^ 63 ∧ b = -1

private theorem hasNoQuotient_iff (a b : Int64) :
    HasNoQuotient a.toInt b.toInt ↔ b = 0 ∨ a = Int64.minValue ∧ b = -1 := by
  have least : Int64.minValue.toInt = -2 ^ 63 := rfl
  have zero : (0 : Int64).toInt = 0 := rfl
  have minus_one : (-1 : Int64).toInt = -1 := rfl
  simp only [HasNoQuotient, ← Int64.toInt_inj, least, zero, minus_one]

/-- Within the range the exact quotient does not leave it. -/
theorem toInt_div {a b : Int64} (has_quotient : ¬ HasNoQuotient a.toInt b.toInt) :
    (a / b).toInt = a.toInt.tdiv b.toInt := by
  obtain ⟨-, no_overflow⟩ := not_or.1 (mt (hasNoQuotient_iff a b).2 has_quotient)
  by_cases least : a = Int64.minValue
  · apply Int64.toInt_div_of_ne_right
    intro minus_one
    exact no_overflow ⟨least, minus_one⟩
  · exact Int64.toInt_div_of_ne_left a b least

private theorem divide_of_hasNoQuotient {a b : Int64}
    (no_quotient : HasNoQuotient a.toInt b.toInt) :
    binaryValue .divide (.int a) (.int b) = .int 0 ∧ binaryValue .mod (.int a) (.int b) = .int 0 := by
  have exceptional := (hasNoQuotient_iff a b).1 no_quotient
  simp [binaryValue, onInts, Value.toInt?, quotient?, remainder?, exceptional]

private theorem divide_of_quotient {a b : Int64} (has_quotient : ¬ HasNoQuotient a.toInt b.toInt) :
    ∃ q r : Int64, binaryValue .divide (.int a) (.int b) = .int q ∧
      binaryValue .mod (.int a) (.int b) = .int r ∧
      IsTruncatedDivision a.toInt b.toInt q.toInt r.toInt := by
  have regular := mt (hasNoQuotient_iff a b).2 has_quotient
  refine ⟨a / b, a % b, ?_, ?_, ?_⟩
  · simp [binaryValue, onInts, Value.toInt?, quotient?, regular]
  · simp [binaryValue, onInts, Value.toInt?, remainder?, regular]
  · rw [toInt_div has_quotient, Int64.toInt_mod]
    exact isTruncatedDivision fun zero => has_quotient (.inl zero)

namespace Expr

/-- A tree of sums, differences and products over operands that are integers,
and its exact value. Any expression that is an integer may be an operand. -/
inductive AmountsTo (vars : Bindings) : Expr → Int → Prop
  | operand {e : Expr} {n : Int64} (value : e.eval vars = .int n) : AmountsTo vars e n.toInt
  | plus {l r : Expr} {a b : Int} (left : AmountsTo vars l a) (right : AmountsTo vars r b) :
      AmountsTo vars (.binary .plus l r) (a + b)
  | minus {l r : Expr} {a b : Int} (left : AmountsTo vars l a) (right : AmountsTo vars r b) :
      AmountsTo vars (.binary .minus l r) (a - b)
  | multiply {l r : Expr} {a b : Int} (left : AmountsTo vars l a) (right : AmountsTo vars r b) :
      AmountsTo vars (.binary .multiply l r) (a * b)

/-- The value of a tree is what its exact value wraps around to. -/
theorem eval_amountsTo {vars : Bindings} {e : Expr} {a : Int} (amount : e.AmountsTo vars a) :
    e.eval vars = .int (Int64.ofInt a) := by
  induction amount with
  | operand value => rw [value, Int64.ofInt_toInt]
  | plus left right left_ih right_ih =>
    rw [eval, left_ih, right_ih, Int64.ofInt_add]
    rfl
  | minus left right left_ih right_ih =>
    rw [eval, left_ih, right_ih, Int64.ofInt_sub]
    rfl
  | multiply left right left_ih right_ih =>
    rw [eval, left_ih, right_ih, Int64.ofInt_mul]
    rfl

/-- The operations on integers. -/
def arithmetic : List Token.Kind := [.plus, .minus, .multiply, .divide, .mod]

private theorem binaryValue_arithmetic {op : Token.Kind} (member : op ∈ arithmetic) (a b : Int64) :
    ∃ n, binaryValue op (.int a) (.int b) = .int n := by
  simp only [arithmetic, List.mem_cons, List.not_mem_nil, or_false] at member
  rcases member with rfl | rfl | rfl | rfl | rfl <;> exact ⟨_, rfl⟩

/-- A tree of any operations on integers over operands that are integers. -/
inductive IsArithmetic (vars : Bindings) : Expr → Prop
  | operand {e : Expr} {n : Int64} (value : e.eval vars = .int n) : IsArithmetic vars e
  | operation {op : Token.Kind} {l r : Expr} (member : op ∈ arithmetic)
      (left : IsArithmetic vars l) (right : IsArithmetic vars r) : IsArithmetic vars (.binary op l r)

private theorem eval_isArithmetic {vars : Bindings} {e : Expr} (tree : e.IsArithmetic vars) :
    ∃ n, e.eval vars = .int n := by
  induction tree with
  | @operand e n value => exact ⟨n, value⟩
  | operation member left right left_ih right_ih =>
    obtain ⟨a, left_value⟩ := left_ih
    obtain ⟨b, right_value⟩ := right_ih
    rw [eval, left_value, right_value]
    exact binaryValue_arithmetic member a b

private theorem eval_of_typeIn_int {decls : Declarations} {vars : Bindings} (fit : vars.Fit decls)
    {e : Expr}
    (typed : e.typeIn decls = .ok .int) : ∃ n, e.eval vars = .int n := by
  have shape := (hasLooseShape_of_typeIn fit typed).hasShape (by decide) (by decide)
  generalize e.eval vars = v at shape
  cases shape with
  | int n => exact ⟨n, rfl⟩

/-- Sums, differences and products of whatever size are exact up to multiples of
`2 ^ 64`. Quotients and remainders are exact, and zero where there is none.
What is made of integers by these operations, or has the type of integers, has
an integer in the range for a value. -/
theorem integer_arithmetic :
    (∀ (vars : Bindings) (e : Expr) (a : Int), e.AmountsTo vars a →
      ∃ n : Int64, e.eval vars = .int n ∧ n.toInt ≡ a [ZMOD 2 ^ 64] ∧
        -2 ^ 63 ≤ n.toInt ∧ n.toInt < 2 ^ 63) ∧
    (∀ a b : Int64, ∃ q r : Int64,
      binaryValue .divide (.int a) (.int b) = .int q ∧ binaryValue .mod (.int a) (.int b) = .int r ∧
        (HasNoQuotient a.toInt b.toInt → q = 0 ∧ r = 0) ∧
        (¬ HasNoQuotient a.toInt b.toInt → IsTruncatedDivision a.toInt b.toInt q.toInt r.toInt)) ∧
    (∀ (vars : Bindings) (e : Expr), e.IsArithmetic vars →
      ∃ n : Int64, e.eval vars = .int n ∧ -2 ^ 63 ≤ n.toInt ∧ n.toInt < 2 ^ 63) ∧
    (∀ (decls : Declarations) (vars : Bindings) (e : Expr), vars.Fit decls →
      e.typeIn decls = .ok .int →
        ∃ n : Int64, e.eval vars = .int n ∧ -2 ^ 63 ≤ n.toInt ∧ n.toInt < 2 ^ 63) := by
  refine ⟨?_, ?_, ?_, ?_⟩
  · intro vars e a amount
    refine ⟨Int64.ofInt a, eval_amountsTo amount, ?_, Int64.le_toInt _, Int64.toInt_lt _⟩
    rw [Int64.toInt_ofInt]
    exact Int.bmod_emod
  · intro a b
    by_cases no_quotient : HasNoQuotient a.toInt b.toInt
    · obtain ⟨quotient, remainder⟩ := divide_of_hasNoQuotient no_quotient
      refine ⟨0, 0, quotient, remainder, ?_, ?_⟩
      · intro _
        exact ⟨rfl, rfl⟩
      · intro has_quotient
        exact absurd no_quotient has_quotient
    · obtain ⟨q, r, quotient, remainder, division⟩ := divide_of_quotient no_quotient
      refine ⟨q, r, quotient, remainder, ?_, ?_⟩
      · intro other
        exact absurd other no_quotient
      · intro _
        exact division
  · intro vars e tree
    obtain ⟨n, value⟩ := eval_isArithmetic tree
    exact ⟨n, value, n.le_toInt, n.toInt_lt⟩
  · intro decls vars e fit typed
    obtain ⟨n, value⟩ := eval_of_typeIn_int fit typed
    exact ⟨n, value, n.le_toInt, n.toInt_lt⟩

end Expr

end ChatSieve
