import ChatSieve.Catalogue
import ChatSieve.Proofs.Grammar.Acceptance
import ChatSieve.Proofs.Grammar.Nesting
import ChatSieve.Proofs.Grammar.Readable

/-!
# The deepest trees

The bound on the depth of parsed trees is attained: in the deepest texts each
group begins with the next one, and three chains with as many operators as
there are levels left follow it. So a depth is a bound for all texts just if
it is one for these (`passes_le_iff_deepest_le`).
-/

namespace ChatSieve.Grammar
open Text Token

/-- The shortest value. -/
def leafWord : List Char := ['"', '"']

/-- An operator with an operand, again and again. -/
def repeated (op operand : List Char) : Nat → List (List Char)
  | 0 => []
  | n + 1 => op :: operand :: repeated op operand n

/-- An operand with all operators of the three chains after it. -/
def withChains (n : Nat) (operand : List (List Char)) : List (List Char) :=
  operand ++ (repeated ['+'] leafWord n ++
    (repeated ['&', '&'] leafWord n ++ repeated ['|', '|'] leafWord n))

/-- The deepest value with some levels, around a word that needs none. -/
def deepWords (core : List Char) : Nat → List (List Char)
  | 0 => [core]
  | 1 => [['\x7b'], core, ['\x7d']]
  | n + 2 => ['('] :: (withChains (n + 1) (deepWords core (n + 1)) ++ [[')']])

/-- Before a blank the word is one lexeme. -/
def IsLexeme (w : List Char) : Prop :=
  ∀ rest, lexemes (w ++ ' ' :: rest) = w :: lexemes (' ' :: rest)

private theorem isLexeme_leafWord : IsLexeme leafWord := fun _ =>
  lexemes_literal (by decide : [] ∈ literalFronts) fun is_open : IsOpen [] => by cases is_open

theorem isLexeme_operator {op : List Char} (operator : op ∈ operatorTexts) : IsLexeme op := by
  intro rest
  refine lexemes_operator operator ?_
  rintro c ⟨⟩
  decide

theorem isLexeme_bracket {c : Char} (bracket : c ∈ ['(', ')', '\x7b', '\x7d', ',']) : IsLexeme [c] :=
  fun rest => lexemes_bracket bracket (' ' :: rest)

theorem isLexeme_word {w : List Char} (some : w ≠ []) (names : ∀ c ∈ w, isNameChar c) : IsLexeme w := by
  intro rest
  refine lexemes_word some names ?_
  rintro c ⟨⟩
  decide

theorem repeated_isLexeme {op operand : List Char} (operator : op ∈ operatorTexts)
    (lexeme : IsLexeme operand) (n : Nat) : ∀ w ∈ repeated op operand n, IsLexeme w := by
  induction n with
  | zero => exact List.forall_mem_nil _
  | succ n ih =>
    exact List.forall_mem_cons.2 ⟨isLexeme_operator operator, List.forall_mem_cons.2 ⟨lexeme, ih⟩⟩

private theorem withChains_isLexeme {operand : List (List Char)} (all : ∀ w ∈ operand, IsLexeme w)
    (n : Nat) :
    ∀ w ∈ withChains n operand, IsLexeme w := by
  simp only [withChains, List.forall_mem_append]
  exact ⟨all, repeated_isLexeme (by decide) isLexeme_leafWord n,
    repeated_isLexeme (by decide) isLexeme_leafWord n, repeated_isLexeme (by decide) isLexeme_leafWord n⟩

private theorem deepWords_isLexeme {core : List Char} (lexeme : IsLexeme core) (n : Nat) :
    ∀ w ∈ deepWords core n, IsLexeme w := by
  fun_induction deepWords core n with
  | case1 => simpa using lexeme
  | case2 =>
    simp only [List.forall_mem_cons]
    exact ⟨isLexeme_bracket (by decide), lexeme, isLexeme_bracket (by decide), List.forall_mem_nil _⟩
  | case3 n ih =>
    refine List.forall_mem_cons.2 ⟨isLexeme_bracket (by decide), ?_⟩
    simp only [List.forall_mem_append, List.forall_mem_singleton]
    exact ⟨withChains_isLexeme ih (n + 1), isLexeme_bracket (by decide)⟩

/-- A text of words with a blank after each. -/
def spaced (ws : List (List Char)) : List Char := ws.flatMap (· ++ [' '])

theorem tokens_spaced (decls : Declarations) {ws : List (List Char)} (all : ∀ w ∈ ws, IsLexeme w) :
    tokens decls (String.ofList (spaced ws)) = ws.map (ofLexeme decls) := by
  rw [tokens, String.toList_ofList]
  refine congrArg _ ?_
  induction ws with
  | nil => rw [spaced, List.flatMap_nil, lexemes]
  | cons w ws ih =>
    obtain ⟨first, others⟩ := List.forall_mem_cons.1 all
    rw [spaced, List.flatMap_cons, List.append_assoc, List.singleton_append, ← spaced, first,
      lexemes_blank (by decide), ih others]

section
variable {n : Nat} {e : Expr} {rest : List Token} {before err : Option ParseError}

/-- A chain from its first operand and its tail. -/
theorem Link.chain_of_tail {l : Link} {s s' : State} {whole : Expr × State}
    (operand : l.operand (level n) s = (e, s')) (tail : l.tail (level n) e s' = whole) :
    l.chain (level n) s = whole := by
  rw [l.chain_eq, operand]
  exact tail

/-- What may follow a conjunction may follow its operands. -/
theorem before_negation (follows : Phrase.conjunction.Before rest) : Phrase.negation.Before rest :=
  fun t next => (Link.stops_of_allows (l := .and) (follows t next)).2 0

/-- A value by itself is an operand of any chain. -/
theorem operand_of_value {t : Token} {ts : List Token} (opens : opensValue t.kind)
    (value : (level n).value ⟨t :: ts, before⟩ = (e, ⟨rest, err⟩)) (l : Link)
    (follows : l.operandPhrase.Before rest) :
    l.operand (level n) ⟨t :: ts, before⟩ = (e, ⟨rest, err⟩) := by
  have negation (follows : Phrase.negation.Before rest) :
      (level n).negation ⟨t :: ts, before⟩ = (e, ⟨rest, err⟩) := by
    rw [(level n).negation_of_positive (positive_of_opensValue opens)]
    exact Link.chain_of_tail (l := .arithmetic) value (tail_ends n e err follows)
  cases l with
  | arithmetic => exact value
  | and => exact negation follows
  | or =>
    exact Link.chain_of_tail (l := .and) (negation (before_negation follows))
      (tail_ends n e err follows)

end

section
variable (decls : Declarations)

private theorem leafWord_denotes :
    Denotes (ofLexeme decls leafWord) (.string "") := denotes_string decls ""

/-- The tokens of some words. -/
def wordTokens (ws : List (List Char)) : List Token := ws.map (ofLexeme decls)

/-- A chain with the same operand again and again. -/
def stacked (op : Kind) (operand : Expr) : Nat → Expr → Expr
  | 0, e => e
  | n + 1, e => stacked op operand n (.binary op e operand)

omit decls in
private theorem levels_stacked {op : Kind} {operand : Expr} (chained : op.addedLevels = 1)
    (flat : operand.levels = 0) (n : Nat) (e : Expr) : (stacked op operand n e).levels = e.levels + n := by
  induction n generalizing e with
  | zero => rfl
  | succ n ih =>
    rw [stacked, ih, Expr.levels, flat, chained]
    omega

private theorem tail_repeated {l : Link} {op word : List Char} {k : Kind} {operand : Expr}
    (kind : (ofLexeme decls op).kind = k) (joins : l.joins k)
    (denotes : Denotes (ofLexeme decls word) operand) (j : Nat) {n : Nat} (enough : j ≤ n) (e : Expr)
    {rest : List Token} (err : Option ParseError) (follows : l.phrase.Before rest) :
    l.tail (level n) e ⟨wordTokens decls (repeated op word j) ++ rest, err⟩ =
      (stacked k operand j e, ⟨rest, err⟩) := by
  subst kind
  induction j generalizing n e with
  | zero => exact tail_ends n e err follows
  | succ j ih =>
    obtain ⟨n, rfl⟩ := Nat.exists_eq_add_one_of_ne_zero (show n ≠ 0 by omega)
    have operand_follows : l.operandPhrase.Before (wordTokens decls (repeated op word j) ++ rest) := by
      cases j with
      | zero => exact Link.before_operand fun t next => (Link.stops_of_allows (follows t next)).2 0
      | succ j =>
        exact Link.before_operand ((Phrase.before_cons _ _ _).2 (Link.allows_of_joins (k := 0) joins))
    have parsed := operand_of_value denotes.opensValue
      (value_token denotes n (wordTokens decls (repeated op word j) ++ rest) err) l operand_follows
    rw [repeated, wordTokens, List.map_cons, List.map_cons, ← wordTokens, List.cons_append,
      List.cons_append, level_eq, l.tail_joins _ _ _ _ joins, below]
    simp only [parsed]
    exact ih (by omega) _

/-- Operators may follow where one of them may. -/
theorem before_repeated {phrase : Phrase} {op word : List Char}
    (allowed : phrase.allows (ofLexeme decls op).kind) (n : Nat) {rest : List Token}
    (follows : phrase.Before rest) : phrase.Before (wordTokens decls (repeated op word n) ++ rest) := by
  cases n with
  | zero => exact follows
  | succ n => exact (Phrase.before_cons _ _ _).2 allowed

/-- The three chains on an operand. -/
def chained (n : Nat) (e : Expr) : Expr :=
  stacked .or (.string "") n (stacked .and (.string "") n (stacked .plus (.string "") n e))

omit decls in
private theorem levels_chained (n : Nat) (e : Expr) : (chained n e).levels = e.levels + 3 * n := by
  rw [chained, levels_stacked rfl rfl, levels_stacked rfl rfl, levels_stacked rfl rfl]
  omega

private theorem expression_withChains {n : Nat} {w : List Char} {ws : List (List Char)} {e : Expr}
    {err err' : Option ParseError} (opens : opensValue (ofLexeme decls w).kind)
    (value : ∀ rest, (level n).value ⟨wordTokens decls (w :: ws) ++ rest, err⟩ = (e, ⟨rest, err'⟩))
    {rest : List Token} (follows : Phrase.expression.Before rest) :
    (level n).expression ⟨wordTokens decls (withChains n (w :: ws)) ++ rest, err⟩ =
      (chained n e, ⟨rest, err'⟩) := by
  have plus : (ofLexeme decls ['+']).kind = .plus := kind_of_fixed decls (by decide)
  have ampersands : (ofLexeme decls ['&', '&']).kind = .and :=
    kind_of_fixed decls (by decide)
  have bars : (ofLexeme decls ['|', '|']).kind = .or := kind_of_fixed decls (by decide)
  have leaf := leafWord_denotes decls
  have after_and : Phrase.conjunction.Before (wordTokens decls (repeated ['|', '|'] leafWord n) ++ rest) :=
    before_repeated decls (by rw [bars]; rfl) n fun t next => by
      simp [Phrase.allows, eq_of_beq (follows t next)]
  have after_plus : Phrase.condition.Before (wordTokens decls (repeated ['&', '&'] leafWord n) ++
      (wordTokens decls (repeated ['|', '|'] leafWord n) ++ rest)) :=
    before_repeated decls (by rw [ampersands]; rfl) n (before_negation after_and)
  have split : wordTokens decls (withChains n (w :: ws)) ++ rest =
      wordTokens decls (w :: ws) ++ (wordTokens decls (repeated ['+'] leafWord n) ++
        (wordTokens decls (repeated ['&', '&'] leafWord n) ++
          (wordTokens decls (repeated ['|', '|'] leafWord n) ++ rest))) := by
    simp [withChains, wordTokens]
  rw [split]
  have condition := Link.chain_of_tail (l := .arithmetic) (value _)
    (tail_repeated decls plus rfl leaf n (Nat.le_refl n) e err' after_plus)
  have negation := ((level n).negation_of_positive (positive_of_opensValue opens) _ _).trans condition
  have conjunction := Link.chain_of_tail (l := .and) negation
    (tail_repeated decls ampersands rfl leaf n (Nat.le_refl n) _ err' after_and)
  exact Link.chain_of_tail (l := .or) conjunction
    (tail_repeated decls bars rfl leaf n (Nat.le_refl n) _ err' follows)

/-! ## Deepest texts -/

/-- The trees of the deepest words. -/
def deepTree (core : Expr) : Nat → Expr
  | 0 => core
  | 1 => .list [core]
  | n + 2 => chained (n + 1) (deepTree core (n + 1))

omit decls in
private theorem levels_deepTree (core : Expr) (n : Nat) :
    (deepTree core n).levels = deepestValue core.levels n := by
  fun_induction deepTree core n with
  | case1 => rfl
  | case2 => simp [Expr.levels, Expr.mostLevels, deepestValue]
  | case3 n ih =>
    rw [levels_chained, ih, deepestValue.eq_2 _ (n + 1)]
    omega

private theorem deepWords_head {core : List Char} (opens : opensValue (ofLexeme decls core).kind)
    (n : Nat) :
    ∃ w ws, deepWords core n = w :: ws ∧ opensValue (ofLexeme decls w).kind := by
  cases n with
  | zero => exact ⟨core, [], rfl, opens⟩
  | succ n =>
    cases n with
    | zero =>
      have kind : (ofLexeme decls ['\x7b']).kind = .listStart := kind_of_fixed decls (by decide)
      exact ⟨['\x7b'], _, rfl, by rw [kind]; rfl⟩
    | succ n =>
      have kind : (ofLexeme decls ['(']).kind = .leftParen := kind_of_fixed decls (by decide)
      exact ⟨['('], _, rfl, by rw [kind]; rfl⟩

/-- What the core does to the error, the whole value does. -/
theorem value_deepWords {core : List Char} {e : Expr} {note : Option ParseError → Option ParseError}
    (opens : opensValue (ofLexeme decls core).kind)
    (value : ∀ rest err, (level 0).value ⟨ofLexeme decls core :: rest, err⟩ = (e, ⟨rest, note err⟩))
    (n : Nat) (rest : List Token) (err : Option ParseError) :
    (level n).value ⟨wordTokens decls (deepWords core n) ++ rest, err⟩ =
      (deepTree e n, ⟨rest, note err⟩) := by
  induction n using deepTree.induct generalizing rest err with
  | case1 => exact value rest err
  | case2 =>
    have listStart : ofLexeme decls ['\x7b'] = ⟨.listStart, "\x7b"⟩ := ofLexeme_of_fixed decls (by decide)
    have listEnd : ofLexeme decls ['\x7d'] = ⟨.listEnd, "\x7d"⟩ := ofLexeme_of_fixed decls (by decide)
    have items := listTail_of_item (level 0) (⟨.listEnd, "\x7d"⟩ :: rest) err (no_end_of_opensValue opens)
    rw [value] at items
    simp only [deepWords, wordTokens, List.map_cons, List.map_nil, listStart, listEnd,
      List.cons_append, List.nil_append]
    exact items
  | case3 n ih =>
    have leftParen : ofLexeme decls ['('] = ⟨.leftParen, "("⟩ := ofLexeme_of_fixed decls (by decide)
    have rightParen : ofLexeme decls [')'] = ⟨.rightParen, ")"⟩ := ofLexeme_of_fixed decls (by decide)
    obtain ⟨w, ws, words, head⟩ := deepWords_head decls opens (n + 1)
    have closing : Phrase.expression.Before (⟨.rightParen, ")"⟩ :: rest) := (Phrase.before_cons _ _ _).2 rfl
    have inside := expression_withChains decls head (fun rest => by rw [← words]; exact ih rest err) closing
    rw [← words] at inside
    have group : groupTail (level (n + 1)) ⟨wordTokens decls (withChains (n + 1) (deepWords core (n + 1))) ++
        ⟨.rightParen, ")"⟩ :: rest, err⟩ = (chained (n + 1) (deepTree e (n + 1)), ⟨rest, note err⟩) := by
      simp [groupTail, inside, State.goOn]
    rw [deepWords, wordTokens, List.map_cons, List.map_append, List.map_singleton, leftParen, rightParen,
      ← wordTokens, List.cons_append, List.append_assoc]
    exact group

/-- The deepest text with some levels, around a word that needs none. -/
def deepestText (core : List Char) (n : Nat) : String :=
  String.ofList (spaced (withChains n (deepWords core n)))

private theorem expression_deepestText {core : List Char} {e : Expr}
    (note : Option ParseError → Option ParseError) (lexeme : IsLexeme core)
    (opens : opensValue (ofLexeme decls core).kind)
    (value : ∀ rest err, (level 0).value ⟨ofLexeme decls core :: rest, err⟩ = (e, ⟨rest, note err⟩))
    (n : Nat) :
    (level n).expression ⟨tokens decls (deepestText core n), none⟩ =
      (chained n (deepTree e n), ⟨[], note none⟩) := by
  obtain ⟨w, ws, words, head⟩ := deepWords_head decls opens n
  have deep (rest : List Token) : (level n).value ⟨wordTokens decls (w :: ws) ++ rest, none⟩ =
      (deepTree e n, ⟨rest, note none⟩) := by
    rw [← words]
    exact value_deepWords decls opens value n rest none
  have whole := expression_withChains decls head deep (Phrase.before_nil .expression)
  rw [← words, List.append_nil] at whole
  rw [deepestText, tokens_spaced decls (withChains_isLexeme (deepWords_isLexeme lexeme n) n)]
  exact whole

end

/-- A deepest text without an error. -/
theorem derives_deepestText (decls : Declarations) (n : Nat) :
    ∃ e, ∃ need ≤ n, Derives .expression (tokens decls (deepestText leafWord n)) e need ∧
      e.levels = deepest 0 n := by
  have leaf := leafWord_denotes decls
  have whole := expression_deepestText decls id isLexeme_leafWord leaf.opensValue (value_token leaf 0) n
  have run := (level_follows n).chain .or ⟨tokens decls (deepestText leafWord n), none⟩
  change Runs n (.chain .or) _ ((level n).expression _).1 ((level n).expression _).2 at run
  rw [whole] at run
  obtain ⟨-, ts, split, need, enough, derives⟩ := run.sound rfl
  rw [List.append_nil] at split
  refine ⟨_, need, enough, split ▸ derives, ?_⟩
  rw [levels_chained, levels_deepTree]
  rfl

/-- A deepest text of all, with a list that is too deep. -/
theorem levels_parse_deepestText (decls : Declarations) :
    (parse decls (deepestText ['\x7b'] maxDepth)).expr.levels = deepest 1 maxDepth := by
  have listStart : ofLexeme decls ['\x7b'] = ⟨.listStart, "\x7b"⟩ := ofLexeme_of_fixed decls (by decide)
  have whole := expression_deepestText decls (e := .list []) (· <|> some .tooDeep)
    (isLexeme_bracket (by decide : '\x7b' ∈ _)) (by rw [listStart]; rfl)
    (fun rest err => by rw [listStart]; rfl) maxDepth
  have list_levels : (Expr.list []).levels = 1 := rfl
  rw [parse, parseTokens_eq, whole, levels_chained, levels_deepTree, list_levels, deepest]

/-- The documented bound is one for twelve levels. -/
theorem deepest_le_maxDepth_iff {n : Nat} : deepest 0 n ≤ maxDepth ↔ n ≤ 12 := by
  constructor
  · intro enough
    refine Nat.not_lt.1 fun more => ?_
    have thirteen : deepest 0 13 ≤ deepest 0 n := deepest_le_of_le more
    have deep : maxDepth < deepest 0 13 := by decide
    omega
  · intro few
    exact Nat.le_trans (deepest_le_of_le few) (by decide)

/-- In the trees of the filters that need so many levels no path passes more
lists and chained operators than the bound. -/
def PathsWithin (decls : Declarations) (n bound : Nat) : Prop :=
  ∀ text e need, Derives .expression (tokens decls text) e need → need ≤ n →
    ∀ k, (parse decls text).expr.Passes k → k ≤ bound

private theorem pathsWithin_iff (decls : Declarations) {n : Nat} (within : n ≤ maxDepth)
    (bound : Nat) :
    PathsWithin decls n bound ↔ deepest 0 n ≤ bound := by
  simp only [PathsWithin, Expr.passes_le_iff]
  constructor
  · intro all
    obtain ⟨e, need, needed, derives, depth⟩ := derives_deepestText decls n
    have bounded := all _ e need derives needed
    rw [parse, (parseTokens_of_derives derives).1 (Nat.le_trans needed within)] at bounded
    exact depth ▸ bounded
  · intro enough text e need derives needed
    rw [parse, (parseTokens_of_derives derives).1 (Nat.le_trans needed within)]
    exact Nat.le_trans derives.levels_le (Nat.le_trans (deepest_le_of_le needed) enough)

/-- Which bounds hold for the lists and chained operators on a path of the
trees that the parser builds. For all texts it is those from 98690 on, far more
than the levels that there are. For the filters that need so many levels it is
those from `deepest 0 n` on, so that the number of all levels is a bound for
the filters that need twelve, but for no more. -/
theorem passes_le_iff_deepest_le (decls : Declarations) (bound : Nat) :
    ((∀ text k, (parse decls text).expr.Passes k → k ≤ bound) ↔ 98690 ≤ bound) ∧
    ∀ n ≤ maxDepth, (PathsWithin decls n bound ↔ deepest 0 n ≤ bound) ∧
      (PathsWithin decls n maxDepth ↔ n ≤ 12) := by
  have all_levels : deepest 1 maxDepth = 98690 := by
    have twice := deepest_succ 1 255
    rw [show maxDepth = 255 + 1 from rfl]
    omega
  refine ⟨?_, fun n within => ⟨pathsWithin_iff decls within bound, ?_⟩⟩
  · simp only [Expr.passes_le_iff, ← all_levels]
    constructor
    · intro all
      rw [← levels_parse_deepestText decls]
      exact all _
    · exact fun enough text => Nat.le_trans (parseTokens_levels_le _) enough
  · rw [pathsWithin_iff decls within, deepest_le_maxDepth_iff]

/-- An operand, as many conjunctions with it as there are levels, and then an
alternative. -/
def alternative (word : List Char) (n : Nat) : List (List Char) :=
  word :: (repeated ['&', '&'] word n ++ repeated ['|', '|'] word 1)

/-- The alternative comes on top of all conjunctions: the chain of alternatives
has its levels left. -/
theorem expression_alternative (decls : Declarations) {word : List Char} {operand : Expr}
    (denotes : Denotes (ofLexeme decls word) operand) {n : Nat} (some : 1 ≤ n) :
    (level n).expression ⟨wordTokens decls (alternative word n), none⟩ =
      (stacked .or operand 1 (stacked .and operand n operand), ⟨[], none⟩) := by
  have and_kind : (ofLexeme decls ['&', '&']).kind = .and := kind_of_fixed decls (by decide)
  have or_kind : (ofLexeme decls ['|', '|']).kind = .or := kind_of_fixed decls (by decide)
  have after_and : Phrase.conjunction.Before (wordTokens decls (repeated ['|', '|'] word 1) ++ []) :=
    before_repeated decls (by rw [or_kind]; rfl) 1 (Phrase.before_nil _)
  have after_value : Phrase.negation.Before (wordTokens decls (repeated ['&', '&'] word n) ++
      (wordTokens decls (repeated ['|', '|'] word 1) ++ [])) :=
    before_repeated decls (by rw [and_kind]; rfl) n (before_negation after_and)
  have first := operand_of_value denotes.opensValue (value_token denotes n _ none) .and after_value
  have conjunctions := tail_repeated decls (l := .and) and_kind rfl denotes n (Nat.le_refl n) operand
    none after_and
  have alternatives := tail_repeated decls (l := .or) or_kind rfl denotes 1 some
    (stacked .and operand n operand) none (Phrase.before_nil _)
  have whole : (level n).expression _ = _ :=
    Link.chain_of_tail (l := .or) (Link.chain_of_tail (l := .and) first conjunctions) alternatives
  simpa [alternative, wordTokens] using whole

/-- One operator more than there are levels, on the way to the first flag. -/
def longFilter : String := String.ofList (spaced (alternative "flags.reply".toList maxDepth))

theorem passes_longFilter :
    (parse Catalogue.declarations longFilter).error = none ∧
      (parse Catalogue.declarations longFilter).expr.Passes (maxDepth + 1) := by
  have lexeme : IsLexeme "flags.reply".toList := isLexeme_word (by decide) (List.all_eq_true.1 (by decide))
  have all : ∀ w ∈ alternative "flags.reply".toList maxDepth, IsLexeme w := by
    rw [alternative, List.forall_mem_cons, List.forall_mem_append]
    exact ⟨lexeme, repeated_isLexeme (by decide) lexeme _, repeated_isLexeme (by decide) lexeme _⟩
  have flag : ofLexeme Catalogue.declarations "flags.reply".toList = ⟨.identifier, "flags.reply"⟩ := by
    decide +kernel
  have denotes : Denotes (ofLexeme Catalogue.declarations "flags.reply".toList)
      (.identifier "flags.reply") := by
    rw [flag]
    exact .identifier _
  have whole := expression_alternative Catalogue.declarations denotes (n := maxDepth) (by decide)
  have depth : (stacked .or (.identifier "flags.reply") 1 (stacked .and (.identifier "flags.reply")
      maxDepth (.identifier "flags.reply"))).levels = maxDepth + 1 := by
    rw [levels_stacked rfl rfl, levels_stacked rfl rfl, Expr.levels, Nat.zero_add]
  rw [parse, longFilter, tokens_spaced _ all, ← wordTokens, parseTokens_eq, whole, ← depth]
  exact ⟨rfl, Expr.passes_levels _⟩

end ChatSieve.Grammar
