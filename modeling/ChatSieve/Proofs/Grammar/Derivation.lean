import ChatSieve.Grammar.Parser

/-!
# The grammar

Which lists of tokens are filters, and which tree they stand for, said without
the parser:

    expression  := conjunction ( OR conjunction )*
    conjunction := negation ( AND negation )*
    negation    := NOT? condition
    condition   := value ( arithmetic value )* ( comparison value )?
    value       := INT | STRING | IDENTIFIER | PATTERN
                 | "(" expression ")" | "{" "}" | "{" value ( "," value )* "}"

A derivation also counts the levels that it needs. A token needs none, a group
and a list one more than what they hold, and an operand of a chain one more
for each operator of the chain before it.
-/

namespace ChatSieve.Grammar
open ChatSieve.Text ChatSieve.Token

/-- The three kinds of chains, by what joins their operands. -/
inductive Link where
  | arithmetic
  | and
  | or
  deriving DecidableEq

/-- The operators of a chain. -/
def Link.joins : Link → Kind → Bool
  | .arithmetic, op => op.isArithmetic
  | .and, op => op == .and
  | .or, op => op == .or

/-- What a list of tokens can be. -/
inductive Phrase where
  | value
  /-- the values between the braces of a list, at least one -/
  | items
  /-- operands joined by some number of operators -/
  | chain (l : Link) (operators : Nat)
  | condition
  | negation
  | conjunction
  | expression

/-- What the operands of a chain are. -/
def Link.operandPhrase : Link → Phrase
  | .arithmetic => .value
  | .and => .negation
  | .or => .conjunction

/-- The expressions that single tokens stand for. -/
inductive Denotes : Token → Expr → Prop
  | int {text : String} {n : Int64} (read : readInt64 text.toList = some n) :
      Denotes ⟨.int, text⟩ (.int n)
  | string (text : String) : Denotes ⟨.string, text⟩ (.string (unquote text.toList))
  | identifier (text : String) : Denotes ⟨.identifier, text⟩ (.identifier text)
  | pattern {text : String} {p : Pattern} (valid : patternOf? text.toList = some p) :
      Denotes ⟨.pattern, text⟩ (.pattern p)

/-- `Derives phrase ts e need`: the tokens `ts` are such a phrase, they stand
for the tree `e`, and reading them takes `need` levels. Chains associate to the
left, and a negation covers a whole condition. -/
inductive Derives : Phrase → List Token → Expr → Nat → Prop
  | token (denotes : Denotes t e) : Derives .value [t] e 0
  | group (a b : String) (inside : Derives .expression ts e need) :
      Derives .value (⟨.leftParen, a⟩ :: (ts ++ [⟨.rightParen, b⟩])) e (need + 1)
  | emptyList (a b : String) : Derives .value [⟨.listStart, a⟩, ⟨.listEnd, b⟩] (.list []) 1
  | list (a b : String) (inside : Derives .items ts (.list es) need) :
      Derives .value (⟨.listStart, a⟩ :: (ts ++ [⟨.listEnd, b⟩])) (.list es) (need + 1)
  | firstItem (item : Derives .value ts e need) : Derives .items ts (.list [e]) need
  | nextItem (a : String) (before : Derives .items ts (.list es) n) (item : Derives .value us e m) :
      Derives .items (ts ++ ⟨.comma, a⟩ :: us) (.list (es ++ [e])) (max n m)
  | firstOperand (operand : Derives l.operandPhrase ts e need) : Derives (.chain l 0) ts e need
  | nextOperand (t : Token) (before : Derives (.chain l k) ts e n) (joins : l.joins t.kind)
      (operand : Derives l.operandPhrase us f m) :
      Derives (.chain l (k + 1)) (ts ++ t :: us) (.binary t.kind e f) (max n (k + 1 + m))
  | plain (sum : Derives (.chain .arithmetic k) ts e need) : Derives .condition ts e need
  | comparison (t : Token) (left : Derives (.chain .arithmetic k) ts e n)
      (compares : t.kind.isComparison) (right : Derives .value us f m) :
      Derives .condition (ts ++ t :: us) (.binary t.kind e f) (max n (k + m))
  | assertion (condition : Derives .condition ts e need) : Derives .negation ts e need
  | denial (a : String) (condition : Derives .condition ts e need) :
      Derives .negation (⟨.not, a⟩ :: ts) (.unary .not e) need
  | conjunction (chain : Derives (.chain .and k) ts e need) : Derives .conjunction ts e need
  | expression (chain : Derives (.chain .or k) ts e need) : Derives .expression ts e need

/-- The parser takes a token for what it stands for. -/
theorem literalOf_eq_ok_iff (t : Token) (e : Expr) : literalOf t = .ok e ↔ Denotes t e := by
  constructor
  · intro found
    obtain ⟨kind, text⟩ := t
    cases kind with
    | int =>
      simp only [literalOf] at found
      split at found
      · rename_i n read
        cases found
        exact .int read
      · cases found
    | string =>
      cases found
      exact .string text
    | identifier =>
      cases found
      exact .identifier text
    | pattern =>
      simp only [literalOf] at found
      split at found
      · rename_i p valid
        cases found
        exact .pattern valid
      · cases found
    | _ => cases found
  · intro denotes
    cases denotes with
    | int read => simp [literalOf, read]
    | string text => rfl
    | identifier text => rfl
    | pattern valid => simp [literalOf, valid]

/-- The tokens that a value can begin with. -/
def opensValue : Kind → Bool
  | .int | .string | .identifier | .pattern | .leftParen | .listStart => true
  | _ => false

theorem positive_of_opensValue {k : Kind} (opens : opensValue k) : k ≠ .not := by
  rintro rfl
  cases opens

theorem no_end_of_opensValue {k : Kind} (opens : opensValue k) : k ≠ .listEnd := by
  rintro rfl
  cases opens

theorem Denotes.opensValue {t : Token} {e : Expr} (denotes : Denotes t e) :
    Grammar.opensValue t.kind = true := by
  cases denotes <;> rfl

/-- The phrases that begin with a value. -/
def Phrase.beginsWithValue : Phrase → Bool
  | .value | .items | .condition => true
  | .chain l _ => l == .arithmetic
  | _ => false

/-- A phrase that begins with a value is not empty, and neither a closing brace
nor a negation comes first. -/
theorem Derives.head {phrase : Phrase} {ts : List Token} {e : Expr} {need : Nat}
    (derives : Derives phrase ts e need) (begins : phrase.beginsWithValue) :
    ∃ t rest, ts = t :: rest ∧ opensValue t.kind := by
  induction derives with
  | token denotes => exact ⟨_, [], rfl, denotes.opensValue⟩
  | group => exact ⟨_, _, rfl, rfl⟩
  | emptyList => exact ⟨_, _, rfl, rfl⟩
  | list => exact ⟨_, _, rfl, rfl⟩
  | firstItem item ih => exact ih rfl
  | nextItem a before item ih _ =>
    obtain ⟨t, rest, rfl, opens⟩ := ih rfl
    exact ⟨t, _, rfl, opens⟩
  | firstOperand operand ih =>
    obtain rfl := eq_of_beq begins
    exact ih rfl
  | nextOperand t before joins operand ih _ =>
    obtain ⟨t, rest, rfl, opens⟩ := ih begins
    exact ⟨t, _, rfl, opens⟩
  | plain sum ih => exact ih rfl
  | comparison t left compares right ih _ =>
    obtain ⟨t, rest, rfl, opens⟩ := ih rfl
    exact ⟨t, _, rfl, opens⟩
  | assertion => cases begins
  | denial => cases begins
  | conjunction => cases begins
  | expression => cases begins

/-- Each operator before an operand is a level that the chain needs. -/
theorem Derives.operators_le {l : Link} {k : Nat} {ts : List Token} {e : Expr} {need : Nat}
    (derives : Derives (.chain l k) ts e need) : k ≤ need := by
  cases derives with
  | firstOperand => omega
  | nextOperand => omega

end ChatSieve.Grammar
