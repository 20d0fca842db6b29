import SearchQuery.Proofs.Leaves
import SearchQuery.Proofs.Token.Rendering

/-!
# Printing expressions

An expression is printed with every value in quotes and with parentheses only where an
operand stands at a level too tight for it. `nestedParentheses` measures a text: how many
parentheses are open at once in it, those within quotes apart. For a printed expression
this is `nesting`, a number that is read off the tree.
-/

namespace SearchQuery

theorem Level.rank_primary_le (level : Level) : primary.rank ≤ level.rank :=
  Nat.zero_le level.rank

theorem Level.rank_le_query (level : Level) : level.rank ≤ query.rank := by
  cases level <;> decide

namespace Expression

/-- The tightest level at which an expression stands without parentheses. -/
def level : Expression → Level
  | .empty | .text _ | .filter _ _ _ => .primary
  | .not _ => .operand
  | .and _ => .alternative
  | .or _ => .query

end Expression

/-- Whether an expression stands at a level without parentheses. -/
def Level.admits (level : Level) (expression : Expression) : Bool :=
  expression.level.rank ≤ level.rank

@[simp]
theorem Level.admits_query (expression : Expression) : query.admits expression = true :=
  decide_eq_true expression.level.rank_le_query

namespace Expression

/-- The text of an expression where it stands at a level. -/
def enclose (level : Level) (expression : Expression) (text : String) : String :=
  if level.admits expression then text else "(" ++ text ++ ")"

/-- An expression as a query, with no more parentheses than are needed to read it back. -/
def print : Expression → String
  | .empty => ""
  | .text value => (Token.phrase value).text
  | .filter field operator value => (Token.filter field operator value).text
  | .not operand => "NOT " ++ enclose .primary operand operand.print
  | .and operands =>
      " ".intercalate (operands.map fun operand => enclose .operand operand operand.print)
  | .or operands =>
      " OR ".intercalate (operands.map fun operand => enclose .alternative operand operand.print)

/-- An expression as it is printed where it stands at a level. -/
def printAt (level : Level) (expression : Expression) : String :=
  enclose level expression expression.print

/-- How many of the printed parentheses stand inside each other. -/
def nesting : Expression → Nat
  | .empty | .text _ | .filter _ _ _ => 0
  | .not operand => if Level.primary.admits operand then operand.nesting else operand.nesting + 1
  | .and operands =>
      (operands.map fun operand =>
        if Level.operand.admits operand then operand.nesting else operand.nesting + 1).foldr max 0
  | .or operands =>
      (operands.map fun operand =>
        if Level.alternative.admits operand then operand.nesting
        else operand.nesting + 1).foldr max 0

/-- How many parentheses stand inside each other where an expression stands at a level. -/
def nestingAt (level : Level) (expression : Expression) : Nat :=
  if level.admits expression then expression.nesting else expression.nesting + 1

@[simp]
theorem printAt_query (expression : Expression) : expression.printAt .query = expression.print := by
  simp [printAt, enclose]

@[simp]
theorem nestingAt_query (expression : Expression) :
    expression.nestingAt .query = expression.nesting := by
  simp [nestingAt]

theorem print_not (operand : Expression) :
    print (.not operand) = "NOT " ++ operand.printAt .primary := by
  rw [print, printAt]

theorem print_and (operands : List Expression) :
    print (.and operands) = " ".intercalate (operands.map (printAt .operand)) := by
  rw [print]
  rfl

theorem print_or (operands : List Expression) :
    print (.or operands) = " OR ".intercalate (operands.map (printAt .alternative)) := by
  rw [print]
  rfl

theorem nesting_not (operand : Expression) :
    nesting (.not operand) = operand.nestingAt .primary := by
  rw [nesting, nestingAt]

theorem nesting_and (operands : List Expression) :
    nesting (.and operands) = (operands.map (nestingAt .operand)).foldr max 0 := by
  rw [nesting]
  rfl

theorem nesting_or (operands : List Expression) :
    nesting (.or operands) = (operands.map (nestingAt .alternative)).foldr max 0 := by
  rw [nesting]
  rfl

/-- Parentheses are of use at tight levels only. -/
theorem nestingAt_le_of_rank_le {tight loose : Level} (looser : tight.rank ≤ loose.rank)
    (expression : Expression) : expression.nestingAt loose ≤ expression.nestingAt tight := by
  unfold nestingAt Level.admits
  by_cases admitted : expression.level.rank ≤ tight.rank
  · have also : expression.level.rank ≤ loose.rank := Nat.le_trans admitted looser
    simp [admitted, also]
  · by_cases also : expression.level.rank ≤ loose.rank
    · simp [admitted, also]
    · simp [admitted, also]

theorem nestingAt_le (level : Level) (expression : Expression) :
    expression.nestingAt level ≤ expression.nesting + 1 := by
  unfold nestingAt
  split
  · exact Nat.le_succ _
  · exact Nat.le_refl _

theorem nestingAt_le_nesting_and {operand : Expression} {operands : List Expression}
    (mem : operand ∈ operands) : operand.nestingAt .operand ≤ nesting (.and operands) := by
  rw [nesting_and]
  exact Operands.foldr_max_le_iff.mp (Nat.le_refl _) _ (List.mem_map_of_mem mem)

theorem nestingAt_le_nesting_or {operand : Expression} {operands : List Expression}
    (mem : operand ∈ operands) : operand.nestingAt .alternative ≤ nesting (.or operands) := by
  rw [nesting_or]
  exact Operands.foldr_max_le_iff.mp (Nat.le_refl _) _ (List.mem_map_of_mem mem)

/-- What is derived is printed within the room for groups that its derivation needs. -/
theorem Derived.nestingAt_le {level : Level} {room : Nat} {expression : Expression}
    (derived : Derived level room expression) : expression.nestingAt level ≤ room := by
  induction derived with
  | text room value => simp [nestingAt, nesting, Level.admits, Expression.level]
  | filter room field operator value =>
      simp [nestingAt, nesting, Level.admits, Expression.level]
  | @group room expression _ ih =>
      rw [nestingAt_query] at ih
      calc
        expression.nestingAt .primary ≤ expression.nesting + 1 := Expression.nestingAt_le _ _
        _ ≤ room + 1 := Nat.succ_le_succ ih
  | positive _ ih | operand _ ih | alternative _ ih =>
      exact Nat.le_trans (nestingAt_le_of_rank_le (by decide) _) ih
  | negation _ ih =>
      rw [nestingAt, nesting_not]
      simpa [Level.admits, Expression.level] using ih
  | conjunction _ _ ih | disjunction _ _ ih =>
      simp only [nestingAt, Level.admits, Expression.level, nesting_and, nesting_or,
        Level.rank, decide_true, if_true, Nat.le_refl]
      rw [Operands.foldr_max_le_iff, List.forall_mem_map]
      exact ih

end Expression

/-! ## Parentheses in texts -/

namespace Text

/-- The greatest number of parentheses that are open at once in a text, if some are open
before it. Between quotes, parentheses are not counted. -/
def nestedParenthesesFrom (quoted : Bool) (opened : Nat) : List Char → Nat
  | [] => opened
  | c :: rest =>
      if c = '"' then nestedParenthesesFrom (!quoted) opened rest
      else if quoted then nestedParenthesesFrom true opened rest
      else if c = '(' then nestedParenthesesFrom false (opened + 1) rest
      else if c = ')' then max opened (nestedParenthesesFrom false (opened - 1) rest)
      else nestedParenthesesFrom false opened rest

/-- The greatest number of parentheses that are open at once in a text. -/
def nestedParentheses (text : List Char) : Nat :=
  nestedParenthesesFrom false 0 text

/-- A text opens parentheses to a depth and leaves none open, and no quote either. -/
def Nests (depth : Nat) (text : List Char) : Prop :=
  ∀ opened rest, nestedParenthesesFrom false opened (text ++ rest) =
    max (opened + depth) (nestedParenthesesFrom false opened rest)

theorem le_nestedParenthesesFrom (quoted : Bool) (opened : Nat) (text : List Char) :
    opened ≤ nestedParenthesesFrom quoted opened text := by
  induction text generalizing quoted opened with
  | nil => exact Nat.le_refl opened
  | cons c rest ih =>
      unfold nestedParenthesesFrom
      split
      · exact ih _ _
      split
      · exact ih _ _
      split
      · exact Nat.le_of_succ_le (ih _ _)
      split
      · exact Nat.le_max_left _ _
      · exact ih _ _

theorem Nests.nestedParentheses_eq {depth : Nat} {text : List Char} (nests : Nests depth text) :
    nestedParentheses text = depth := by
  have whole := nests 0 []
  rw [List.append_nil, Nat.zero_add] at whole
  rw [nestedParentheses, whole]
  exact Nat.max_eq_left (Nat.zero_le depth)

theorem nests_nil : Nests 0 [] := by
  intro opened rest
  exact (Nat.max_eq_right (le_nestedParenthesesFrom false opened rest)).symm

theorem Nests.append {first second : Nat} {left right : List Char} (nestsLeft : Nests first left)
    (nestsRight : Nests second right) : Nests (max first second) (left ++ right) := by
  intro opened rest
  rw [List.append_assoc, nestsLeft, nestsRight]
  omega

/-- Without quotes and parentheses a text opens none. -/
theorem nests_of_plain {text : List Char}
    (plain : (text.all fun c => c != '"' && c != '(' && c != ')') = true) : Nests 0 text := by
  induction text with
  | nil => exact nests_nil
  | cons c text ih =>
      intro opened rest
      simp only [List.all_cons, Bool.and_eq_true, bne_iff_ne] at plain
      obtain ⟨⟨⟨notQuote, notOpening⟩, notClosing⟩, others⟩ := plain
      rw [List.cons_append, nestedParenthesesFrom, if_neg notQuote, if_neg Bool.false_ne_true,
        if_neg notOpening, if_neg notClosing]
      exact ih others opened rest

theorem nestedParenthesesFrom_quoted {value : List Char} (noQuote : '"' ∉ value) (opened : Nat)
    (rest : List Char) :
    nestedParenthesesFrom true opened (value ++ '"' :: rest) =
      nestedParenthesesFrom false opened rest := by
  induction value with
  | nil => rfl
  | cons c value ih =>
      rw [List.mem_cons, not_or] at noQuote
      rw [List.cons_append, nestedParenthesesFrom, if_neg (Ne.symm noQuote.1), if_pos rfl]
      exact ih noQuote.2

/-- Parentheses between quotes do not count. -/
theorem nests_quoted {value : List Char} (noQuote : '"' ∉ value) :
    Nests 0 ('"' :: (value ++ ['"'])) := by
  intro opened rest
  have spelled : '"' :: (value ++ ['"']) ++ rest = '"' :: (value ++ '"' :: rest) := by simp
  rw [spelled, nestedParenthesesFrom, if_pos rfl, Bool.not_false,
    nestedParenthesesFrom_quoted noQuote]
  exact nests_nil opened rest

theorem Nests.parenthesized {depth : Nat} {text : List Char} (nests : Nests depth text) :
    Nests (depth + 1) ('(' :: (text ++ [')'])) := by
  intro opened rest
  have spelled : '(' :: (text ++ [')']) ++ rest = '(' :: (text ++ ')' :: rest) := by simp
  have opening (text : List Char) : nestedParenthesesFrom false opened ('(' :: text) =
      nestedParenthesesFrom false (opened + 1) text := rfl
  have closing : nestedParenthesesFrom false (opened + 1) (')' :: rest) =
      max (opened + 1) (nestedParenthesesFrom false opened rest) := rfl
  rw [spelled, opening, nests, closing]
  omega

/-- Parts with a plain text between them nest as deep as the deepest of them. -/
theorem nests_intercalate {α : Type} {separator : List Char} (plain : Nests 0 separator)
    {parts : List α} {text : α → List Char} {depth : α → Nat}
    (each : ∀ part ∈ parts, Nests (depth part) (text part)) :
    Nests ((parts.map depth).foldr max 0) (separator.intercalate (parts.map text)) := by
  induction parts with
  | nil => exact nests_nil
  | cons part parts ih =>
      have first := each part List.mem_cons_self
      have later := ih fun other mem => each other (List.mem_cons_of_mem part mem)
      cases parts with
      | nil => simpa using first
      | cons next others =>
          have joined := (first.append plain).append later
          rw [Nat.max_zero] at joined
          simpa only [List.map_cons, List.foldr_cons, List.intercalate_cons_cons] using joined

end Text

namespace Expression

/-- A term or filter whose value is not blank and can be written between quotes. -/
inductive IsQuotable : Expression → Prop
  | text {value : String} (notBlank : Text.isBlank value = false)
      (noQuote : '"' ∉ value.toList) : IsQuotable (.text value)
  | filter {field : Field} {operator : Operator} {value : String}
      (notBlank : Text.isBlank value = false) (noQuote : '"' ∉ value.toList) :
      IsQuotable (.filter field operator value)

theorem nests_printAt {expression : Expression}
    (nests : Text.Nests expression.nesting expression.print.toList) (level : Level) :
    Text.Nests (expression.nestingAt level) (expression.printAt level).toList := by
  unfold nestingAt printAt enclose
  split
  · exact nests
  · simpa using nests.parenthesized

theorem nests_print {expression : Expression}
    (quotable : ∀ leaf ∈ expression.leaves, leaf.IsQuotable) :
    Text.Nests expression.nesting expression.print.toList := by
  induction expression using induction with
  | empty =>
      rw [print, nesting]
      exact Text.nests_nil
  | text value =>
      rw [leaves_text, List.forall_mem_singleton] at quotable
      cases quotable with
      | text _ noQuote => simpa [print, nesting, Token.text] using Text.nests_quoted noQuote
  | filter field operator value =>
      rw [leaves_filter, List.forall_mem_singleton] at quotable
      cases quotable with
      | filter _ noQuote =>
          have front : Text.Nests 0 (field.text ++ ":" ++ operator.symbol).toList := by
            apply Text.nests_of_plain
            cases field <;> cases operator with
            | equal => decide
            | ordering comparison => cases comparison <;> decide
          simpa [print, nesting, Token.text] using front.append (Text.nests_quoted noQuote)
  | not operand ih =>
      rw [leaves_not] at quotable
      have keyword : Text.Nests 0 "NOT ".toList := Text.nests_of_plain (by decide)
      have whole := keyword.append (nests_printAt (ih quotable) .primary)
      rw [Nat.zero_max] at whole
      simpa [print_not, nesting_not] using whole
  | and operands ih =>
      rw [leaves_and, List.forall_mem_flatMap] at quotable
      have space : Text.Nests 0 " ".toList := Text.nests_of_plain (by decide)
      have whole := Text.nests_intercalate space fun operand mem =>
        nests_printAt (ih operand mem (quotable operand mem)) .operand
      simpa [print_and, nesting_and, Function.comp_def] using whole
  | or operands ih =>
      rw [leaves_or, List.forall_mem_flatMap] at quotable
      have keyword : Text.Nests 0 " OR ".toList := Text.nests_of_plain (by decide)
      have whole := Text.nests_intercalate keyword fun operand mem =>
        nests_printAt (ih operand mem (quotable operand mem)) .alternative
      simpa [print_or, nesting_or, Function.comp_def] using whole

/-- The parentheses of a printed expression can be counted on the tree. -/
theorem nestedParentheses_print {expression : Expression}
    (quotable : ∀ leaf ∈ expression.leaves, leaf.IsQuotable) :
    Text.nestedParentheses expression.print.toList = expression.nesting :=
  (nests_print quotable).nestedParentheses_eq

end Expression

end SearchQuery
