import SearchQuery.Proofs.DeepGroups
import SearchQuery.Proofs.NegationCount

/-!
# Reading by recursive descent

The grammar of queries can be read by one procedure for each of its rules. A query is
alternatives with OR between them, an alternative is operands side by side, an operand is a
primary behind negations, and a primary is a leaf or a query in parentheses. The procedures
call each other and share a cursor in the tokens and the number of open groups.

The calls are written down as they are, and the cursor may stand anywhere. A call has no
result if it looks at a token where there is none, or if there is no room for the calls that
nest in it. Neither happens: `Descent.ofTokens_eq` shows for all tokens that the descent has a
result in any room that is large enough, that this is what reading with a stack of open groups
gives, and that the cursor is left on the first end marker. So nothing behind that marker is
ever looked at.
-/

namespace SearchQuery

namespace Token

/-! ## Tokens before the end marker -/

section EndMarker

variable {front : List Token}

theorem takeWhile_append_of_notMem (further : .endOfQuery ∉ front) (rest : List Token) :
    (front ++ rest).takeWhile (· != .endOfQuery) =
      front ++ rest.takeWhile (· != .endOfQuery) := by
  apply List.takeWhile_append_of_pos
  intro token mem
  rw [bne_iff_ne]
  rintro rfl
  exact further mem

theorem takeWhile_append_of_mem (ended : .endOfQuery ∈ front) (rest : List Token) :
    (front ++ rest).takeWhile (· != .endOfQuery) = front.takeWhile (· != .endOfQuery) := by
  rcases List.eq_append_cons_of_mem ended with ⟨taken, later, rfl, further⟩
  rw [List.append_assoc, takeWhile_append_of_notMem further, takeWhile_append_of_notMem further]
  rfl

theorem takeWhile_of_notMem (further : .endOfQuery ∉ front) :
    front.takeWhile (· != .endOfQuery) = front := by
  have whole := takeWhile_append_of_notMem further []
  rwa [List.append_nil, List.takeWhile_nil, List.append_nil] at whole

/-- An end marker says what the end of the tokens says. -/
theorem takeWhile_append_endOfQuery (front later : List Token) :
    (front ++ [endOfQuery] ++ later).takeWhile (· != endOfQuery) =
      front.takeWhile (· != .endOfQuery) := by
  by_cases ended : .endOfQuery ∈ front
  · rw [List.append_assoc, takeWhile_append_of_mem ended]
  · rw [List.append_assoc, takeWhile_append_of_notMem ended, takeWhile_of_notMem ended]
    exact List.append_nil front

theorem takeWhile_concat_prefix (ended : .endOfQuery ∈ front) :
    front.takeWhile (· != .endOfQuery) ++ [.endOfQuery] <+: front := by
  rcases List.eq_append_cons_of_mem ended with ⟨taken, later, rfl, further⟩
  refine ⟨later, ?_⟩
  rw [takeWhile_append_of_notMem further, List.append_assoc, List.append_assoc]
  rfl

end EndMarker

end Token

open Expression

/-- A reader in the middle of some tokens. -/
structure Descent where
  tokens : List Token
  /-- The cursor: the position of the token that is read next. -/
  position : Nat
  /-- The number of open groups. -/
  depth : Nat

namespace Descent

/-- The token under the cursor, unless the cursor has left the tokens. -/
def peek (reader : Descent) : Option Token :=
  reader.tokens[reader.position]?

/-- Move the cursor on, but never from an end marker. -/
def advance (reader : Descent) : Option Descent := do
  if (← reader.peek) = .endOfQuery then return reader
  return { reader with position := reader.position + 1 }

/-- The reader in one more group. -/
def enter (reader : Descent) : Descent :=
  { reader with depth := reader.depth + 1 }

/-- The reader behind the innermost group. -/
def leave (reader : Descent) : Descent :=
  { reader with depth := reader.depth - 1 }

mutual

/-- `query = alternative (OR alternative)*`. The number says how many calls have room in each
other, here and in the procedures below. -/
def query : Nat → Descent → Option (Option Expression × Descent)
  | 0, _ => none
  | room + 1, reader => do
      let (first, reader) ← operands room [] reader
      alternatives room first.toList reader

/-- The alternatives behind those that have been read. -/
def alternatives : Nat → List Expression → Descent → Option (Option Expression × Descent)
  | 0, _, _ => none
  | room + 1, read, reader => do
      match ← reader.peek with
      | .or =>
          let (next, reader) ← operands room [] (← reader.advance)
          alternatives room (read ++ next.toList) reader
      | _ => return (join .or read, reader)

/-- `alternative = operand (AND? operand)*`, behind the operands that have been read. A
parenthesis that closes nothing is passed over like AND. -/
def operands : Nat → List Expression → Descent → Option (Option Expression × Descent)
  | 0, _, _ => none
  | room + 1, read, reader => do
      match ← reader.peek with
      | .endOfQuery | .or => return (join .and read, reader)
      | .closeGroup =>
          if 0 < reader.depth then return (join .and read, reader)
          operands room read (← reader.advance)
      | .and => operands room read (← reader.advance)
      | _ =>
          let (next, reader) ← operand room 0 reader
          operands room (read ++ next.toList) reader

/-- `operand = (NOT | dash)* primary`, behind the negations that have been counted. Without a
primary they are dropped. -/
def operand : Nat → Int32 → Descent → Option (Option Expression × Descent)
  | 0, _, _ => none
  | room + 1, negations, reader => do
      match ← reader.peek with
      | .not | .minus => operand room (negations + 1) (← reader.advance)
      | _ =>
          let (inside, reader) ← primary room reader
          return (inside.map (foldNegations negations), reader)

/-- `primary = "(" query ")" | filter | phrase | word`. Tokens that belong to another rule are
left where they are. -/
def primary : Nat → Descent → Option (Option Expression × Descent)
  | 0, _ => none
  | room + 1, reader => do
      match ← reader.peek with
      | .openGroup =>
          if Reading.maxDepth ≤ reader.depth then return (none, ← reader.advance)
          let (meaning, inside) ← query room (← reader.advance).enter
          if (← inside.leave.peek) = .closeGroup then return (meaning, ← inside.leave.advance)
          return (meaning, inside.leave)
      | .filter field operator value =>
          return (Reading.leaf? (.filter field operator) value, ← reader.advance)
      | .phrase value | .word value => return (Reading.leaf? .text value, ← reader.advance)
      | .operator _ => return (none, ← reader.advance)
      | .and | .or | .not | .minus | .closeGroup | .endOfQuery => return (none, reader)

end

/-- Read tokens as a query, with an end marker behind them unless they end in one. The
result comes with the position at which the cursor is left. -/
def ofTokens (room : Nat) (tokens : List Token) : Option (Expression × Nat) := do
  let whole := if tokens.getLast? = some .endOfQuery then tokens else tokens ++ [.endOfQuery]
  let (meaning, reader) ← query room ⟨whole, 0, 0⟩
  return (meaning.getD .empty, reader.position)

/-! ## The cursor -/

/-- The reader with its cursor some tokens further on. -/
def skip (reader : Descent) (count : Nat) : Descent :=
  { reader with position := reader.position + count }

theorem skip_skip (reader : Descent) (first second : Nat) :
    (reader.skip first).skip second = reader.skip (first + second) := by
  rw [skip, skip, skip, Nat.add_assoc]

theorem leave_skip_enter (reader : Descent) (count : Nat) :
    (reader.enter.skip count).leave = reader.skip count :=
  rfl

/-- The given tokens stand between the cursor and the next end marker. -/
structure Awaits (reader : Descent) (rest : List Token) : Prop where
  unread : rest ++ [.endOfQuery] <+: reader.tokens.drop reader.position
  noEnd : .endOfQuery ∉ rest

section Cursor

variable {reader : Descent} {token : Token} {taken rest : List Token}

/-- Before an end marker, there is always a token under the cursor. -/
theorem Awaits.peek (awaits : reader.Awaits rest) :
    reader.peek = some (rest.headD .endOfQuery) := by
  rcases awaits.unread with ⟨later, unread⟩
  rw [Descent.peek, ← List.head?_drop, ← unread]
  cases rest <;> rfl

theorem Awaits.skip (awaits : reader.Awaits (taken ++ rest)) :
    (reader.skip taken.length).Awaits rest := by
  rcases awaits with ⟨⟨later, unread⟩, noEnd⟩
  refine ⟨⟨later, ?_⟩, fun mem => noEnd (List.mem_append_right _ mem)⟩
  rw [Descent.skip, ← List.drop_drop, ← unread]
  simp only [List.append_assoc, List.drop_left]

theorem Awaits.advance (awaits : reader.Awaits (token :: rest)) :
    reader.advance = some (reader.skip 1) := by
  have further : token ≠ .endOfQuery := by
    rintro rfl
    exact awaits.noEnd List.mem_cons_self
  rw [Descent.advance, awaits.peek]
  exact if_neg further

theorem Awaits.next (awaits : reader.Awaits (token :: rest)) : (reader.skip 1).Awaits rest :=
  @Awaits.skip _ [token] _ awaits

theorem Awaits.enter (awaits : reader.Awaits rest) : reader.enter.Awaits rest :=
  ⟨awaits.unread, awaits.noEnd⟩

end Cursor

/-- Called before `rest`, a procedure gives `result` and stops before `left`. -/
def Returns (call : Option (Option Expression × Descent)) (reader : Descent) (rest : List Token)
    (result : Option Expression) (left : List Token) : Prop :=
  ∃ taken, rest = taken ++ left ∧ call = some (result, reader.skip taken.length)

section Calls

variable {call : Option (Option Expression × Descent)} {reader : Descent} {token : Token}
  {taken rest left : List Token} {result : Option Expression}

theorem Returns.here (called : call = some (result, reader)) :
    Returns call reader rest result rest :=
  ⟨[], rfl, called⟩

theorem Returns.behind (later : Returns call (reader.skip taken.length) rest result left) :
    Returns call reader (taken ++ rest) result left := by
  rcases later with ⟨more, rfl, called⟩
  refine ⟨taken ++ more, (List.append_assoc _ _ _).symm, ?_⟩
  rw [called, skip_skip, List.length_append]

theorem Returns.next (later : Returns call (reader.skip 1) rest result left) :
    Returns call reader (token :: rest) result left :=
  @Returns.behind _ _ [token] _ _ _ later

theorem Returns.length_le (returns : Returns call reader rest result left) :
    left.length ≤ rest.length := by
  rcases returns with ⟨taken, rfl, _⟩
  rw [List.length_append]
  exact Nat.le_add_left _ _

end Calls

/-! ## What is left to read -/

/-- In a group with the given number of groups around it, a query that goes on with `rest`
after `before` means what it means if it goes on with `left` after `after`. -/
def Continues (depth : Nat) (rest left : List Token) (before after : OpenGroup) : Prop :=
  ∀ enclosing : List OpenGroup, enclosing.length = depth →
    (rest.foldl Reading.step ⟨before, enclosing⟩).finish =
      (left.foldl Reading.step ⟨after, enclosing⟩).finish

/-- No primary begins where a rule around primaries goes on. -/
inductive EndsOperand : List Token → Prop
  | finished : EndsOperand []
  | and (rest : List Token) : EndsOperand (.and :: rest)
  | or (rest : List Token) : EndsOperand (.or :: rest)
  | closed (rest : List Token) : EndsOperand (.closeGroup :: rest)

/-- A group ends before its closing parenthesis, or with the query. -/
inductive EndsGroup : Nat → List Token → Prop
  | finished (depth : Nat) : EndsGroup depth []
  | closed {depth : Nat} (inside : 0 < depth) (rest : List Token) :
      EndsGroup depth (.closeGroup :: rest)

/-- An alternative ends before OR, or with its group. -/
inductive EndsAlternative : Nat → List Token → Prop
  | next (depth : Nat) (rest : List Token) : EndsAlternative depth (.or :: rest)
  | last {depth : Nat} {rest : List Token} (ends : EndsGroup depth rest) :
      EndsAlternative depth rest

section Continuations

variable {depth : Nat} {token : Token} {rest middle left : List Token}
  {before between after group : OpenGroup}

theorem Continues.refl : Continues depth rest rest group group :=
  fun _ _ => rfl

theorem Continues.trans (first : Continues depth rest middle before between)
    (second : Continues depth middle left between after) :
    Continues depth rest left before after :=
  fun enclosing length => (first enclosing length).trans (second enclosing length)

theorem Continues.next (later : Continues depth rest left between after)
    (steps : ∀ enclosing : List OpenGroup, enclosing.length = depth →
      Reading.step ⟨before, enclosing⟩ token = ⟨between, enclosing⟩) :
    Continues depth (token :: rest) left before after := by
  intro enclosing length
  rw [List.foldl_cons, steps enclosing length]
  exact later enclosing length

/-- Where no primary begins, the negations that wait for one make no difference. -/
theorem continues_settle (ends : EndsOperand rest) :
    Continues depth rest rest group group.settle := by
  intro enclosing _
  cases ends with
  | finished | closed => cases enclosing <;> rfl
  | and | or => rfl

end Continuations

/-! ## The procedures -/

/-- These tokens are read by the procedure of queries as a stack of groups reads them. -/
def ReadsGroup (room : Nat) (rest : List Token) : Prop :=
  ∀ reader : Descent, reader.Awaits rest → ∃ left, ∃ after : OpenGroup,
    Returns (reader.query room) reader rest after.result left ∧ EndsGroup reader.depth left ∧
      Continues reader.depth rest left .fresh after

/-- All groups with fewer tokens are read as a stack of groups reads them. In a group, four
calls nest before the next token is read. -/
def ReadsInside (rest : List Token) : Prop :=
  ∀ inner : List Token, inner.length < rest.length →
    ∀ room, 4 * inner.length + 4 ≤ room → ReadsGroup room inner

theorem ReadsInside.of_length_le {rest left : List Token} (inside : ReadsInside rest)
    (fewer : left.length ≤ rest.length) : ReadsInside left :=
  fun inner less => inside inner (Nat.lt_of_lt_of_le less fewer)

section Procedures

variable (room : Nat) (reader : Descent) (rest : List Token)

/-- At these tokens, the procedure of primaries reads what the innermost group takes next. It
moves on, unless no primary begins there. -/
def ReadsPrimary : Prop :=
  ∃ meaning left, Returns (reader.primary room) reader rest meaning left ∧
    (left.length < rest.length ∨ EndsOperand rest) ∧
      ∀ group, Continues reader.depth rest left group (group.take meaning)

/-- At these tokens, behind some negations, the procedure of operands reads what the innermost
group takes next. It moves on, unless no primary begins there. -/
def ReadsOperand (negations : Int32) : Prop :=
  ∃ meaning left, Returns (reader.operand room negations) reader rest meaning left ∧
    (left.length < rest.length ∨ EndsOperand rest) ∧
      ∀ group : OpenGroup, Continues reader.depth rest left
        { group with negations := negations } (group.settle.take meaning)

/-- At these tokens, the present alternative is read to its end, behind any operands. -/
def ReadsOperands : Prop :=
  ∀ read : List Expression, ∃ all left,
    Returns (reader.operands room read) reader rest (join .and all) left ∧
      EndsAlternative reader.depth left ∧
        ∀ alternatives, Continues reader.depth rest left
          ⟨alternatives, read.reverse, 0⟩ ⟨alternatives, all.reverse, 0⟩

/-- At these tokens, a group is read to its end, behind any alternatives. -/
def ReadsAlternatives : Prop :=
  ∀ group : OpenGroup, ∃ left, ∃ after : OpenGroup,
    Returns (reader.alternatives room group.allAlternatives.reverse) reader rest after.result
        left ∧
      EndsGroup reader.depth left ∧ Continues reader.depth rest left group after

end Procedures

section Primaries

variable {room : Nat} {reader : Descent} {rest : List Token}

/-- Leaves, operators and parentheses that are too deep are taken in a single step. -/
theorem readsPrimary_of_step {token : Token} {meaning : Option Expression}
    (awaits : reader.Awaits (token :: rest))
    (called : reader.primary room = do return (meaning, ← reader.advance))
    (steps : ∀ (group : OpenGroup) (enclosing : List OpenGroup),
      enclosing.length = reader.depth →
        Reading.step ⟨group, enclosing⟩ token = ⟨group.take meaning, enclosing⟩) :
    ReadsPrimary room reader (token :: rest) := by
  refine ⟨meaning, rest, .next (.here ?_), .inl (Nat.lt_succ_self _), ?_⟩
  · rw [called, awaits.advance]
    rfl
  · exact fun group => Continues.refl.next (steps group)

theorem readsPrimary_of_ends (ends : EndsOperand rest)
    (called : reader.primary room = some (none, reader)) : ReadsPrimary room reader rest :=
  ⟨none, rest, .here called, .inr ends, fun _ => continues_settle ends⟩

/-- A group is read up to the parenthesis that closes it, or to the end of the query. -/
theorem readsPrimary_of_openGroup (awaits : reader.Awaits (.openGroup :: rest))
    (reads : ReadsGroup room rest) (more : reader.depth < Reading.maxDepth) :
    ReadsPrimary (room + 1) reader (.openGroup :: rest) := by
  rcases reads _ awaits.next.enter with
    ⟨left, after, ⟨taken, rfl, called⟩, ends, continues⟩
  have awaitsLeft : ((reader.skip 1).skip taken.length).Awaits left := awaits.next.skip
  have unfolded : reader.primary (room + 1) = do
      if (← ((reader.skip 1).skip taken.length).peek) = .closeGroup then
        return (after.result, ← ((reader.skip 1).skip taken.length).advance)
      return (after.result, (reader.skip 1).skip taken.length) := by
    rw [primary, awaits.peek, awaits.advance]
    simp only [Option.bind_eq_bind, Option.bind_some, List.headD_cons,
      if_neg (Nat.not_le.mpr more), called, leave_skip_enter]
  have opens (group : OpenGroup) (enclosing : List OpenGroup)
      (length : enclosing.length = reader.depth) :
      ((Token.openGroup :: (taken ++ left)).foldl Reading.step ⟨group, enclosing⟩).finish =
        (left.foldl Reading.step ⟨after, group :: enclosing⟩).finish := by
    have room : (⟨group, enclosing⟩ : Reading).depth < Reading.maxDepth := by
      rw [Reading.depth, length]
      exact more
    rw [List.foldl_cons, Reading.step, Reading.openGroup, if_pos room]
    exact continues (group :: enclosing) (congrArg (· + 1) length)
  cases ends with
  | finished =>
      refine ⟨after.result, [], .next (.behind (.here ?_)), .inl (Nat.succ_pos _), opens⟩
      rw [unfolded, awaitsLeft.peek]
      rfl
  | closed inside later =>
      refine ⟨after.result, later, .next (.behind (.next (.here ?_))), .inl ?_, opens⟩
      · rw [unfolded, awaitsLeft.peek, awaitsLeft.advance]
        rfl
      · simp only [List.length_cons, List.length_append]
        omega

theorem readsPrimary (awaits : reader.Awaits rest) (inside : ReadsInside rest)
    (enough : 4 * rest.length + 1 ≤ room)
    (positive : (rest.headD .endOfQuery).negates = false) : ReadsPrimary room reader rest := by
  rcases Nat.exists_eq_add_one_of_ne_zero (by omega : room ≠ 0) with ⟨room, rfl⟩
  have unfolded := primary.eq_2 reader room
  rw [awaits.peek] at unfolded
  cases rest with
  | nil => exact readsPrimary_of_ends .finished unfolded
  | cons token rest =>
      cases token with
      | word _ | phrase _ | filter _ _ _ | operator _ =>
          exact readsPrimary_of_step awaits unfolded fun _ _ _ => rfl
      | openGroup =>
          by_cases more : reader.depth < Reading.maxDepth
          · have reads := inside rest (Nat.lt_succ_self _) room (Nat.le_of_succ_le_succ enough)
            exact readsPrimary_of_openGroup awaits reads more
          · have full : Reading.maxDepth ≤ reader.depth := Nat.le_of_not_lt more
            refine readsPrimary_of_step awaits (unfolded.trans (if_pos full)) ?_
            intro group enclosing length
            rw [← length] at more
            exact if_neg more
      | and => exact readsPrimary_of_ends (.and rest) unfolded
      | or => exact readsPrimary_of_ends (.or rest) unfolded
      | closeGroup => exact readsPrimary_of_ends (.closed rest) unfolded
      | not | minus => contradiction
      | endOfQuery => exact absurd List.mem_cons_self awaits.noEnd

end Primaries

section Negations

variable {room : Nat} {reader : Descent} {rest : List Token} {token : Token}

theorem operand_of_negates (peeked : reader.peek = some token) (negates : token.negates = true)
    (negations : Int32) :
    reader.operand (room + 1) negations = reader.advance.bind (operand room (negations + 1)) := by
  rw [operand, peeked]
  cases token with
  | not | minus => rfl
  | _ => contradiction

theorem operand_of_positive (peeked : reader.peek = some token)
    (positive : token.negates = false) (negations : Int32) :
    reader.operand (room + 1) negations = do
      let (inside, reader) ← reader.primary room
      return (inside.map (foldNegations negations), reader) := by
  rw [operand, peeked]
  cases token with
  | not | minus => contradiction
  | _ => rfl

/-- An operand that comes with its negations is taken as one that negations wait for. -/
theorem take_settle_map (group : OpenGroup) (meaning : Option Expression) (negations : Int32) :
    group.settle.take (meaning.map (foldNegations negations)) =
      { group with negations : OpenGroup }.take meaning := by
  cases meaning with
  | none => rfl
  | some expression => simp [OpenGroup.take, OpenGroup.settle]

theorem step_negation (negates : token.negates = true) (group : OpenGroup)
    (enclosing : List OpenGroup) (negations : Int32) :
    Reading.step ⟨{ group with negations }, enclosing⟩ token =
      ⟨{ group with negations := negations + 1 }, enclosing⟩ := by
  cases token with
  | not | minus => rfl
  | _ => contradiction

theorem ReadsPrimary.readsOperand (reads : ReadsPrimary room reader rest)
    (awaits : reader.Awaits rest) (positive : (rest.headD .endOfQuery).negates = false)
    (negations : Int32) : ReadsOperand (room + 1) reader rest negations := by
  rcases reads with ⟨meaning, left, ⟨taken, split, called⟩, moves, continues⟩
  refine ⟨meaning.map (foldNegations negations), left, ⟨taken, split, ?_⟩, moves, ?_⟩
  · rw [operand_of_positive awaits.peek positive, called]
    rfl
  · intro group
    rw [take_settle_map]
    exact continues _

theorem readsOperand (awaits : reader.Awaits rest) (inside : ReadsInside rest)
    (enough : 4 * rest.length + 2 ≤ room) (negations : Int32) :
    ReadsOperand room reader rest negations := by
  induction rest generalizing room reader negations with
  | nil =>
      rcases Nat.exists_eq_add_one_of_ne_zero (by omega : room ≠ 0) with ⟨room, rfl⟩
      have reads := readsPrimary awaits inside (Nat.le_of_succ_le_succ enough) rfl
      exact reads.readsOperand awaits rfl negations
  | cons token rest ih =>
      rcases Nat.exists_eq_add_one_of_ne_zero (by omega : room ≠ 0) with ⟨room, rfl⟩
      cases negates : token.negates with
      | false =>
          have reads := readsPrimary awaits inside (Nat.le_of_succ_le_succ enough) negates
          exact reads.readsOperand awaits negates negations
      | true =>
          have enoughBehind : 4 * rest.length + 2 ≤ room := by
            rw [List.length_cons] at enough
            omega
          rcases ih awaits.next (inside.of_length_le (Nat.le_succ _)) enoughBehind
              (negations + 1) with
            ⟨meaning, left, returns, moves, continues⟩
          have unfolded := @operand_of_negates room _ _ awaits.peek negates negations
          rw [awaits.advance] at unfolded
          refine ⟨meaning, left, ?_, .inl (Nat.lt_succ_of_le returns.length_le), ?_⟩
          · rw [unfolded]
            exact returns.next
          · intro group
            exact (continues group).next fun enclosing _ =>
              step_negation negates group enclosing negations

end Negations

section Operands

variable {room : Nat} {reader : Descent} {rest : List Token}

theorem readsOperands_of_ends (ends : EndsAlternative reader.depth rest)
    (called : ∀ read, reader.operands room read = some (join .and read, reader)) :
    ReadsOperands room reader rest :=
  fun read => ⟨read, rest, .here (called read), ends, fun _ => .refl⟩

/-- A token without meaning is passed over. -/
theorem ReadsOperands.pass {token : Token} (later : ReadsOperands room (reader.skip 1) rest)
    (called : ∀ read, reader.operands (room + 1) read = (reader.skip 1).operands room read)
    (steps : ∀ (alternatives operands : List Expression) (enclosing : List OpenGroup),
      enclosing.length = reader.depth →
        Reading.step ⟨⟨alternatives, operands, 0⟩, enclosing⟩ token =
          ⟨⟨alternatives, operands, 0⟩, enclosing⟩) :
    ReadsOperands (room + 1) reader (token :: rest) := by
  intro read
  rcases later read with ⟨all, left, returns, ends, continues⟩
  refine ⟨all, left, ?_, ends, ?_⟩
  · rw [called]
    exact returns.next
  · intro alternatives
    exact (continues alternatives).next (steps alternatives read.reverse)

/-- An operand is put behind those that have been read. -/
theorem ReadsOperand.readsOperands (reads : ReadsOperand room reader rest 0)
    (awaits : reader.Awaits rest) (begins : ¬ EndsOperand rest)
    (called : ∀ read, reader.operands (room + 1) read = do
      let (next, reader) ← reader.operand room 0
      reader.operands room (read ++ next.toList))
    (later : ∀ (next : Descent) (left : List Token), left.length < rest.length →
      next.Awaits left → ReadsOperands room next left) : ReadsOperands (room + 1) reader rest := by
  intro read
  rcases reads with ⟨meaning, middle, ⟨taken, rfl, operandCalled⟩, moves, operandContinues⟩
  have fewer := moves.resolve_right begins
  rcases later _ middle fewer awaits.skip (read ++ meaning.toList) with
    ⟨all, left, returns, ends, continues⟩
  refine ⟨all, left, ?_, ends, ?_⟩
  · rw [called, operandCalled]
    exact returns.behind
  · intro alternatives
    have behind : (read ++ meaning.toList).reverse =
        (OpenGroup.take ⟨alternatives, read.reverse, 0⟩ meaning).operands := by
      cases meaning <;> simp [OpenGroup.take, OpenGroup.settle]
    have first := operandContinues ⟨alternatives, read.reverse, 0⟩
    have further := continues alternatives
    rw [behind] at further
    cases meaning with
    | none | some _ => exact first.trans further

theorem readsOperands (awaits : reader.Awaits rest) (inside : ReadsInside rest)
    (enough : 4 * rest.length + 3 ≤ room) : ReadsOperands room reader rest := by
  induction size : rest.length using Nat.strongRecOn generalizing room reader rest with
  | ind size ih =>
      subst size
      rcases Nat.exists_eq_add_one_of_ne_zero (by omega : room ≠ 0) with ⟨room, rfl⟩
      have later (next : Descent) (left : List Token) (fewer : left.length < rest.length)
          (nextAwaits : next.Awaits left) : ReadsOperands room next left :=
        ih left.length fewer nextAwaits (inside.of_length_le fewer.le) (by omega) rfl
      have unfolded (read : List Expression) := operands.eq_2 read reader room
      rw [awaits.peek] at unfolded
      cases rest with
      | nil => exact readsOperands_of_ends (.last (.finished _)) unfolded
      | cons token rest =>
          rw [awaits.advance] at unfolded
          have passed := later _ rest (Nat.lt_succ_self _) awaits.next
          cases token with
          | or => exact readsOperands_of_ends (.next _ rest) unfolded
          | and => exact passed.pass unfolded fun _ _ _ _ => rfl
          | closeGroup =>
              by_cases within : 0 < reader.depth
              · apply readsOperands_of_ends (.last (.closed within rest))
                exact fun read => (unfolded read).trans (if_pos within)
              · apply passed.pass fun read => (unfolded read).trans (if_neg within)
                intro alternatives operands enclosing length
                rw [← length, Nat.pos_iff_ne_zero, not_not] at within
                rw [List.eq_nil_of_length_eq_zero within]
                rfl
          | endOfQuery => exact absurd List.mem_cons_self awaits.noEnd
          | word _ | phrase _ | filter _ _ _ | operator _ | not | minus | openGroup =>
              have reads := readsOperand awaits inside (Nat.le_of_succ_le_succ enough) 0
              refine reads.readsOperands awaits ?_ unfolded later
              rintro ⟨⟩

end Operands

section Alternatives

variable {room : Nat} {reader : Descent} {rest : List Token}

theorem reverse_allAlternatives (alternatives all : List Expression) :
    (OpenGroup.allAlternatives ⟨alternatives, all.reverse, 0⟩).reverse =
      alternatives.reverse ++ (join .and all).toList := by
  rw [OpenGroup.allAlternatives, OpenGroup.conjunction, List.reverse_reverse, List.reverse_append]
  cases join .and all <;> rfl

theorem readsAlternatives (awaits : reader.Awaits rest) (inside : ReadsInside rest)
    (enough : 4 * rest.length + 3 ≤ room) (ends : EndsAlternative reader.depth rest) :
    ReadsAlternatives room reader rest := by
  induction size : rest.length using Nat.strongRecOn generalizing room reader rest with
  | ind size ih =>
      subst size
      intro group
      rcases Nat.exists_eq_add_one_of_ne_zero (by omega : room ≠ 0) with ⟨room, rfl⟩
      have unfolded := alternatives.eq_2 group.allAlternatives.reverse reader room
      rw [awaits.peek] at unfolded
      cases ends with
      | last ends =>
          refine ⟨rest, group, .here ?_, ends, .refl⟩
          cases ends with
          | finished | closed => exact unfolded
      | next rest =>
          have enoughBehind : 4 * rest.length + 3 ≤ room := by
            rw [List.length_cons] at enough
            omega
          rcases readsOperands awaits.next (inside.of_length_le (Nat.le_succ _)) enoughBehind []
            with ⟨all, middle, ⟨taken, rfl, called⟩, ends, continues⟩
          have fewer : middle.length < (Token.or :: (taken ++ middle)).length := by
            rw [List.length_cons, List.length_append]
            omega
          have enoughLeft : 4 * middle.length + 3 ≤ room := by omega
          have later := ih middle.length fewer awaits.next.skip (inside.of_length_le fewer.le)
            enoughLeft ends rfl
          rcases later ⟨group.allAlternatives, all.reverse, 0⟩ with
            ⟨left, after, returns, groupEnds, further⟩
          refine ⟨left, after, .next (.behind ?_), groupEnds, ?_⟩
          · rw [reverse_allAlternatives] at returns
            rw [unfolded, awaits.advance]
            simp only [Option.bind_eq_bind, Option.bind_some, List.headD_cons, called]
            exact returns
          · exact ((continues group.allAlternatives).trans further).next fun _ _ => rfl

theorem readsGroup (rest : List Token) (enough : 4 * rest.length + 4 ≤ room) :
    ReadsGroup room rest := by
  -- The groups inside have fewer tokens, so all procedures may be relied on for them.
  induction size : rest.length using Nat.strongRecOn generalizing room rest with
  | ind size ih =>
      subst size
      intro reader awaits
      rcases Nat.exists_eq_add_one_of_ne_zero (by omega : room ≠ 0) with ⟨room, rfl⟩
      have inside : ReadsInside rest := fun inner less _ enough =>
        ih inner.length less inner enough rfl
      have enoughInside : 4 * rest.length + 3 ≤ room := Nat.le_of_succ_le_succ enough
      rcases readsOperands awaits inside enoughInside [] with
        ⟨all, middle, ⟨taken, rfl, called⟩, ends, continues⟩
      have fewer : middle.length ≤ (taken ++ middle).length := by
        rw [List.length_append]
        exact Nat.le_add_left _ _
      have enoughLeft : 4 * middle.length + 3 ≤ room := by omega
      rcases readsAlternatives awaits.skip (inside.of_length_le fewer) enoughLeft ends
          ⟨[], all.reverse, 0⟩ with
        ⟨left, after, returns, groupEnds, further⟩
      refine ⟨left, after, .behind ?_, groupEnds, (continues []).trans further⟩
      rw [reverse_allAlternatives] at returns
      rw [query, called]
      exact returns

end Alternatives

/-! ## Reading from the beginning -/

/-- A call at the beginning reads all tokens up to the first end marker. -/
theorem query_eq {room : Nat} {tokens rest : List Token} (enough : 4 * rest.length + 4 ≤ room)
    (awaits : Awaits ⟨tokens, 0, 0⟩ rest) :
    query room ⟨tokens, 0, 0⟩ =
      some ((rest.foldl Reading.step .start).finish, ⟨tokens, rest.length, 0⟩) := by
  rcases readsGroup rest enough _ awaits with ⟨left, after, ⟨taken, rfl, called⟩, ends, continues⟩
  cases ends with
  | closed inside => exact absurd inside (Nat.lt_irrefl 0)
  | finished =>
      have finished := continues [] rfl
      rw [List.append_nil] at finished ⊢
      rw [called, Descent.skip, Nat.zero_add, Reading.start, finished]
      rfl

/-- Reading by recursive descent has a result for all tokens, and it is that of reading with a
stack of open groups. The cursor is left on the first end marker. Room for four calls at each
token and at the end is enough. -/
theorem ofTokens_eq {room : Nat} {tokens : List Token} (enough : 4 * tokens.length + 4 ≤ room) :
    Descent.ofTokens room tokens =
      some (Expression.ofTokens tokens, (tokens.takeWhile (· != .endOfQuery)).length) := by
  let whole := if tokens.getLast? = some .endOfQuery then tokens else tokens ++ [.endOfQuery]
  have marked : .endOfQuery ∈ whole ∧ whole.takeWhile (· != .endOfQuery) =
      tokens.takeWhile (· != .endOfQuery) := by
    by_cases ends : tokens.getLast? = some .endOfQuery
    · have same : whole = tokens := if_pos ends
      rw [same]
      exact ⟨List.mem_of_getLast? ends, rfl⟩
    · have more : whole = tokens ++ [.endOfQuery] := if_neg ends
      have unchanged := Token.takeWhile_append_endOfQuery tokens []
      rw [List.append_nil] at unchanged
      rw [more]
      exact ⟨List.mem_concat_self, unchanged⟩
  have awaits : Awaits ⟨whole, 0, 0⟩ (tokens.takeWhile (· != .endOfQuery)) := by
    refine ⟨?_, Token.endOfQuery_notMem_takeWhile tokens⟩
    rw [← marked.2]
    exact Token.takeWhile_concat_prefix marked.1
  have fewer : (tokens.takeWhile (· != .endOfQuery)).length ≤ tokens.length :=
    (List.takeWhile_sublist _).length_le
  have called : query room ⟨whole, 0, 0⟩ = _ := query_eq (by omega) awaits
  rw [Descent.ofTokens, called]
  rfl

end Descent

end SearchQuery
