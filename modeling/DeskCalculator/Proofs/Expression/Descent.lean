import DeskCalculator.Proofs.Expression.Lookahead

/-! Reading with rules that call each other and reading with the open work kept in a progress
come to the same. What a rule was called from is open work around it: the rule fails
where the progress does, and its value stands for all that the progress has read in the
meantime. The number of open levels is afterwards what it was before. -/

namespace DeskCalculator.Expression

open Text Number Progress

namespace Parser

namespace Outcome

variable {bound larger : Nat}

/-- The run that goes on with what stands for the value, or that has failed. -/
def resume (after : Float → Progress) (outcome : Outcome bound) :
    Except Misreading Float × Cursor :=
  match outcome.result with
  | .ok value => (after value).run outcome.parser.limit outcome.parser.cursor
  | .error misreading => (.error misreading, outcome.parser.cursor)

/-- What a rule comes to within a run: it leaves the depth as it was, ends in front of
none of some characters if it succeeds, and the run goes on behind it. -/
structure Agrees (outcome : Outcome bound) (limit depth : Nat) (characters : List Char)
    (run : Except Misreading Float × Cursor) (after : Float → Progress) : Prop where
  limit_eq : outcome.parser.limit = limit
  depth_eq : outcome.parser.depth = depth
  stops : ∀ value, outcome.result = .ok value → outcome.parser.cursor.Stops characters
  run_eq : run = outcome.resume after

namespace Agrees

variable {outcome : Outcome bound} {limit depth : Nat} {characters : List Char}
  {run : Except Misreading Float × Cursor} {after : Float → Progress}

theorem widen (agrees : outcome.Agrees limit depth characters run after)
    (le : bound ≤ larger) : (outcome.widen le).Agrees limit depth characters run after :=
  ⟨agrees.limit_eq, agrees.depth_eq, agrees.stops, agrees.run_eq⟩

theorem of_error {misreading : Misreading} (limit_eq : outcome.parser.limit = limit)
    (depth_eq : outcome.parser.depth = depth) (failed : outcome.result = .error misreading)
    (run_eq : run = (.error misreading, outcome.parser.cursor)) :
    outcome.Agrees limit depth characters run after where
  limit_eq := limit_eq
  depth_eq := depth_eq
  stops value succeeded := by
    rw [failed] at succeeded
    cases succeeded
  run_eq := by rw [run_eq, resume, failed]

theorem andThen {middle : Float → Progress} {further : List Char}
    {next : Float → (parser : Parser) → parser.ahead ≤ bound → Outcome bound}
    (agrees : outcome.Agrees limit depth characters run middle)
    (nextAgrees : ∀ value cursor ahead_le, cursor.Stops characters →
      (next value ⟨limit, cursor, depth⟩ ahead_le).Agrees limit depth further
        ((middle value).run limit cursor) after) :
    (outcome.andThen next).Agrees limit depth further run after := by
  rcases outcome with ⟨value | value, ⟨_, cursor, _⟩, ahead_le⟩
  · exact .of_error agrees.limit_eq agrees.depth_eq rfl agrees.run_eq
  · cases agrees.limit_eq
    cases agrees.depth_eq
    rw [agrees.run_eq]
    exact nextAgrees value cursor ahead_le (agrees.stops value rfl)

/-- The value of a rule may be used for something else. -/
theorem map {function : Float → Float} {result : Float → Progress}
    (agrees : outcome.Agrees limit depth characters run after)
    (same : ∀ value cursor, cursor.Stops characters →
      (after value).run limit cursor = (result (function value)).run limit cursor) :
    (outcome.map function).Agrees limit depth characters run result := by
  rcases outcome with ⟨value | value, ⟨_, cursor, _⟩, ahead_le⟩
  · exact .of_error agrees.limit_eq agrees.depth_eq rfl agrees.run_eq
  · cases agrees.limit_eq
    refine ⟨rfl, agrees.depth_eq, fun _ _ => agrees.stops value rfl, ?_⟩
    rw [agrees.run_eq]
    exact same value cursor (agrees.stops value rfl)

end Agrees

end Outcome

variable {parser : Parser} {progress : Progress}

theorem agrees_succeed {value : Float} {after : Float → Progress} {characters : List Char}
    (stops : parser.cursor.Stops characters) (same : progress = after value) :
    (parser.skipBlanks.succeed value).Agrees parser.limit parser.depth characters
      (progress.run parser.limit parser.cursor) after where
  limit_eq := rfl
  depth_eq := rfl
  stops _ _ := (Cursor.stops_skipBlanks characters).mpr stops
  run_eq := by
    rw [same]
    exact (run_skipBlanks (after value) parser.limit parser.cursor).symm

/-- What comes next is neither an operand nor something to go on with. -/
theorem agrees_refuse {after : Float → Progress} {characters : List Char}
    (unfinished : progress.finish = .error .unexpectedEnd)
    (refused : ∀ lexeme, parser.cursor.lexeme? = some lexeme →
      Refusal parser.limit lexeme.token progress
        (.unexpectedCharacter lexeme.token.firstCharacter)) :
    parser.skipBlanks.refuse.Agrees parser.limit parser.depth characters
      (progress.run parser.limit parser.cursor) after := by
  simp only [refuse, skipBlanks, Cursor.peek_skipBlanks]
  cases found : parser.cursor.lexeme? with
  | none =>
      rw [run_of_end found, unfinished]
      exact .of_error rfl rfl rfl rfl
  | some lexeme =>
      rw [run_of_refusal found (refused lexeme found)]
      simp only [Lexeme.misread, (Cursor.start_of_lexeme? found).1]
      exact .of_error rfl rfl rfl rfl

theorem agrees_nested (parser : Parser) {level : Level} {enclosing : List Level} {cursor : Cursor}
    {lexeme : Lexeme} {characters : List Char} {after : Float → Progress}
    {rule : (inside : Parser) → inside.ahead = parser.ahead → Outcome inside.ahead}
    (found : cursor.lexeme? = some lexeme) (next : lexeme.next = parser.cursor)
    (nests : Nests lexeme.token progress level enclosing)
    (depth : progress.depth = parser.depth)
    (agrees : (rule { parser with depth := parser.depth + 1 } rfl).Agrees parser.limit
      (parser.depth + 1) characters
      (Progress.run parser.limit ⟨parser.depth + 1, level, enclosing, none⟩ parser.cursor)
      after) :
    (parser.nested rule).Agrees parser.limit parser.depth characters
      (progress.run parser.limit cursor) after := by
  unfold nested
  by_cases full : parser.limit ≤ parser.depth
  · rw [if_pos full, run_of_refusal found (.tooDeep nests (depth ▸ full))]
    simp only [Lexeme.misread, next]
    exact .of_error rfl rfl rfl rfl
  · have room : progress.depth < parser.limit := by omega
    rw [if_neg full, run_of_move found (.nest nests room), next, depth]
    exact ⟨agrees.limit_eq, by simp [agrees.depth_eq], agrees.stops, agrees.run_eq⟩

theorem agrees_number {level : Level} {enclosing : List Level} {character : Char}
    {rest : List Char} (comes : parser.cursor.skipBlanks.rest = character :: rest)
    (starts : startsLiteral character = true) :
    parser.skipBlanks.number.Agrees parser.limit parser.depth []
      (Progress.run parser.limit ⟨parser.depth, level, enclosing, none⟩ parser.cursor)
      (fun value => ⟨parser.depth, level, enclosing, some value⟩) := by
  have found := Cursor.lexeme?_of_literal comes starts
  unfold number
  by_cases literal : isLiteral parser.cursor.skipBlanks.takeLiteral.1
  · have numeral := (isLiteral_iff_isNumeral _).mp literal
    have move : Move parser.limit _ _ _ := .literal parser.depth level enclosing numeral
    rw [run_of_move found move]
    simp only [skipBlanks, literal, if_true]
    exact ⟨rfl, rfl, fun _ _ => by simp [Cursor.Stops, NotAhead], rfl⟩
  · have notNumeral := mt (isLiteral_iff_isNumeral _).mpr literal
    have refusal : Refusal parser.limit _ _ _ :=
      .malformed parser.depth level enclosing notNumeral
    rw [run_of_refusal found refusal]
    simp only [skipBlanks, literal, Bool.false_eq_true, if_false]
    exact .of_error rfl rfl rfl rfl

theorem agrees_refuse_operand {level : Level} {enclosing : List Level}
    {characters : List Char} {after : Float → Progress}
    (noSign : parser.cursor.Stops ['+', '-']) (noGroup : parser.cursor.Stops ['('])
    (noNumber : parser.skipBlanks.cursor.peek.any startsLiteral = false) :
    parser.skipBlanks.refuse.Agrees parser.limit parser.depth characters
      (Progress.run parser.limit ⟨parser.depth, level, enclosing, none⟩ parser.cursor)
      after := by
  apply agrees_refuse
  · cases enclosing <;> rfl
  · intro lexeme found
    rcases Cursor.start_of_lexeme? found with ⟨-, rest, comes⟩
    have symbol : startsLiteral lexeme.token.firstCharacter = false := by
      simpa [skipBlanks, Cursor.peek, comes] using noNumber
    rw [Cursor.lexeme?_of_symbol comes symbol] at found
    have stops := (Cursor.stops_append ['+', '-'] ['(']).mpr ⟨noSign, noGroup⟩
    generalize lexeme.token.firstCharacter = character at *
    cases found
    apply Refusal.noOperand
    simpa [Cursor.Stops, comes] using stops

/-- What stands behind a group that has been read is its closing parenthesis, or nothing
that the run could go on with. -/
theorem agrees_closeGroup {value : Float} {level : Level} {enclosing : List Level}
    (stops : parser.cursor.Stops ['+', '-', '*', '/', '^']) :
    (parser.closeGroup value).Agrees parser.limit parser.depth []
      (Progress.run parser.limit
        ⟨parser.depth + 1, .empty, level :: enclosing, some value⟩ parser.cursor)
      (fun value => ⟨parser.depth, level, enclosing, some value⟩) := by
  unfold closeGroup
  have chosen := parser.chosen_choose [(')', ())]
  generalize parser.choose [(')', ())] = choice at chosen
  cases chosen with
  | taken member comes =>
      cases List.mem_singleton.mp member
      have found := Cursor.lexeme?_of_symbol comes (by decide)
      have move : Move parser.limit _ _ _ :=
        .close (parser.depth + 1) .empty level enclosing value
      rw [run_of_move found move]
      exact ⟨rfl, rfl, fun _ _ => by simp [Cursor.Stops, NotAhead], rfl⟩
  | left noParenthesis =>
      apply Outcome.Agrees.widen
      apply agrees_refuse rfl
      intro lexeme found
      exact .unclosed (parser.depth + 1) .empty level enclosing value
        (continues_of_stops stops (fun _ => noParenthesis) found)

/-! The operators are those that the progress knows. -/

theorem eq_symbol_of_mem_signs {character : Char} {opening : Opening}
    (member : (character, opening) ∈ signs) :
    ∃ sign : Sign, character = sign.symbol ∧ opening = sign.opening := by
  simp only [signs, List.mem_cons, List.not_mem_nil, Prod.mk.injEq, or_false] at member
  rcases member with ⟨rfl, rfl⟩ | ⟨rfl, rfl⟩
  · exact ⟨.plus, rfl, rfl⟩
  · exact ⟨.minus, rfl, rfl⟩

theorem eq_symbol_of_mem_sumOperators {character : Char} {operator : SumOperator}
    (member : (character, operator) ∈ sumOperators) : character = operator.symbol := by
  simp only [sumOperators, List.mem_cons, List.not_mem_nil, Prod.mk.injEq, or_false] at member
  rcases member with ⟨rfl, rfl⟩ | ⟨rfl, rfl⟩ <;> rfl

theorem eq_symbol_of_mem_productOperators {character : Char} {operator : ProductOperator}
    (member : (character, operator) ∈ productOperators) : character = operator.symbol := by
  simp only [productOperators, List.mem_cons, List.not_mem_nil, Prod.mk.injEq, or_false]
    at member
  rcases member with ⟨rfl, rfl⟩ | ⟨rfl, rfl⟩ <;> rfl

/-! Every rule agrees with a run from the progress that it is called with. The proofs call
each other as the rules do. -/

mutual

theorem agrees_expression (parser : Parser) (enclosing : List Level) :
    parser.expression.Agrees parser.limit parser.depth ['+', '-', '*', '/', '^']
      (Progress.run parser.limit ⟨parser.depth, .empty, enclosing, none⟩ parser.cursor)
      (fun value => ⟨parser.depth, .empty, enclosing, some value⟩) := by
  rw [expression]
  exact (agrees_term parser none enclosing).andThen fun value cursor ahead_le stops =>
    (agrees_sums value ⟨parser.limit, cursor, parser.depth⟩ enclosing stops).widen ahead_le
termination_by 4 * parser.ahead + 3

theorem agrees_sums (left : Float) (parser : Parser) (enclosing : List Level)
    (stops : parser.cursor.Stops ['*', '/', '^']) :
    (sums left parser).Agrees parser.limit parser.depth ['+', '-', '*', '/', '^']
      (Progress.run parser.limit ⟨parser.depth, .empty, enclosing, some left⟩ parser.cursor)
      (fun value => ⟨parser.depth, .empty, enclosing, some value⟩) := by
  rw [sums]
  have chosen := parser.chosen_choose sumOperators
  generalize parser.choose sumOperators = choice at chosen
  cases chosen with
  | left noOperator =>
      have stopsAll : parser.cursor.Stops ['+', '-', '*', '/', '^'] :=
        (Cursor.stops_append ['+', '-'] _).mpr ⟨noOperator, stops⟩
      apply Outcome.Agrees.widen
      exact agrees_succeed stopsAll rfl
  | @taken _ operator rest member comes shorter =>
      cases eq_symbol_of_mem_sumOperators member
      have found := Cursor.lexeme?_of_symbol comes (by cases operator <;> decide)
      have move : Move parser.limit _ _ _ := .sum operator parser.depth .empty enclosing left
      rw [run_of_move found move]
      refine ((agrees_term _ (some (left, operator)) enclosing).andThen ?_).widen _
      intro right cursor ahead_le stopsThere
      have shorterThere : ahead ⟨parser.limit, cursor, parser.depth⟩ < parser.ahead :=
        Nat.lt_of_le_of_lt ahead_le shorter
      rw [run_sum parser.depth enclosing left right operator stopsThere]
      exact (agrees_sums _ ⟨parser.limit, cursor, parser.depth⟩ enclosing stopsThere).widen
        ahead_le
termination_by 4 * parser.ahead

theorem agrees_term (parser : Parser) (sum : Option (Float × SumOperator))
    (enclosing : List Level) :
    parser.term.Agrees parser.limit parser.depth ['*', '/', '^']
      (Progress.run parser.limit ⟨parser.depth, ⟨sum, none, []⟩, enclosing, none⟩
        parser.cursor)
      (fun value => ⟨parser.depth, ⟨sum, none, []⟩, enclosing, some value⟩) := by
  rw [term]
  exact (agrees_factor parser ⟨sum, none, []⟩ enclosing).andThen
    fun value cursor ahead_le stops =>
      (agrees_products value ⟨parser.limit, cursor, parser.depth⟩ sum enclosing stops).widen
        ahead_le
termination_by 4 * parser.ahead + 2

theorem agrees_products (left : Float) (parser : Parser)
    (sum : Option (Float × SumOperator)) (enclosing : List Level)
    (stops : parser.cursor.Stops ['^']) :
    (products left parser).Agrees parser.limit parser.depth ['*', '/', '^']
      (Progress.run parser.limit ⟨parser.depth, ⟨sum, none, []⟩, enclosing, some left⟩
        parser.cursor)
      (fun value => ⟨parser.depth, ⟨sum, none, []⟩, enclosing, some value⟩) := by
  rw [products]
  have chosen := parser.chosen_choose productOperators
  generalize parser.choose productOperators = choice at chosen
  cases chosen with
  | left noOperator =>
      have stopsAll : parser.cursor.Stops ['*', '/', '^'] :=
        (Cursor.stops_append ['*', '/'] _).mpr ⟨noOperator, stops⟩
      apply Outcome.Agrees.widen
      exact agrees_succeed stopsAll rfl
  | @taken _ operator rest member comes shorter =>
      cases eq_symbol_of_mem_productOperators member
      have found := Cursor.lexeme?_of_symbol comes (by cases operator <;> decide)
      have move : Move parser.limit _ _ _ :=
        .product operator parser.depth ⟨sum, none, []⟩ enclosing left
      rw [run_of_move found move]
      refine ((agrees_factor _ ⟨sum, some (left, operator), []⟩ enclosing).andThen ?_).widen _
      intro right cursor ahead_le stopsThere
      have shorterThere : ahead ⟨parser.limit, cursor, parser.depth⟩ < parser.ahead :=
        Nat.lt_of_le_of_lt ahead_le shorter
      rw [run_product parser.depth sum enclosing left right operator stopsThere]
      exact (agrees_products _ ⟨parser.limit, cursor, parser.depth⟩ sum enclosing
        stopsThere).widen ahead_le
termination_by 4 * parser.ahead

theorem agrees_factor (parser : Parser) (level : Level) (enclosing : List Level) :
    parser.factor.Agrees parser.limit parser.depth ['^']
      (Progress.run parser.limit ⟨parser.depth, level, enclosing, none⟩ parser.cursor)
      (fun value => ⟨parser.depth, level, enclosing, some value⟩) := by
  rw [factor]
  have chosen := parser.chosen_choose signs
  generalize parser.choose signs = choice at chosen
  cases chosen with
  | left noSign =>
      have primaryAgrees := agrees_primary parser.skipBlanks level enclosing
        ((Cursor.stops_skipBlanks _).mpr noSign)
      rw [skipBlanks, run_skipBlanks] at primaryAgrees
      refine (primaryAgrees.andThen ?_).widen _
      intro value cursor ahead_le _
      have behind : ahead ⟨parser.limit, cursor, parser.depth⟩ ≤ parser.ahead :=
        Nat.le_trans ahead_le parser.ahead_skipBlanks
      exact (agrees_power value ⟨parser.limit, cursor, parser.depth⟩ level enclosing).widen
        ahead_le
  | @taken _ opening rest member comes shorter =>
      rcases eq_symbol_of_mem_signs member with ⟨sign, rfl, rfl⟩
      have found := Cursor.lexeme?_of_symbol comes (by cases sign <;> decide)
      exact (agrees_opened sign.opening ⟨parser.limit, ⟨_, rest⟩, parser.depth⟩ level enclosing
        found rfl (.sign sign parser.depth level enclosing) rfl).widen _
termination_by 4 * parser.ahead + 1

theorem agrees_power (base : Float) (parser : Parser) (level : Level)
    (enclosing : List Level) :
    (power base parser).Agrees parser.limit parser.depth ['^']
      (Progress.run parser.limit ⟨parser.depth, level, enclosing, some base⟩ parser.cursor)
      (fun value => ⟨parser.depth, level, enclosing, some value⟩) := by
  rw [power]
  have chosen := parser.chosen_choose [('^', Opening.base base)]
  generalize parser.choose [('^', Opening.base base)] = choice at chosen
  cases chosen with
  | left noPower =>
      apply Outcome.Agrees.widen
      exact agrees_succeed noPower rfl
  | @taken _ opening rest member comes shorter =>
      cases List.mem_singleton.mp member
      have found := Cursor.lexeme?_of_symbol comes (by decide)
      exact (agrees_opened (.base base) ⟨parser.limit, ⟨_, rest⟩, parser.depth⟩ level enclosing
        found rfl (.power parser.depth level enclosing base) rfl).widen _
termination_by 4 * parser.ahead

theorem agrees_opened (opening : Opening) (parser : Parser) (level : Level)
    (enclosing : List Level) {progress : Progress} {cursor : Cursor} {lexeme : Lexeme}
    (found : cursor.lexeme? = some lexeme) (next : lexeme.next = parser.cursor)
    (nests : Nests lexeme.token progress (level.opened opening) enclosing)
    (depth : progress.depth = parser.depth) :
    (opened opening parser).Agrees parser.limit parser.depth ['^']
      (progress.run parser.limit cursor)
      (fun value => ⟨parser.depth, level, enclosing, some value⟩) := by
  have same : ahead { parser with depth := parser.depth + 1 } = parser.ahead := rfl
  rw [opened]
  refine (agrees_nested parser found next nests depth
    (agrees_factor { parser with depth := parser.depth + 1 } (level.opened opening)
      enclosing)).map ?_
  intro value cursor stops
  exact run_opened parser.depth level enclosing opening value stops
termination_by 4 * parser.ahead + 2

theorem agrees_primary (parser : Parser) (level : Level) (enclosing : List Level)
    (stops : parser.cursor.Stops ['+', '-']) :
    parser.primary.Agrees parser.limit parser.depth []
      (Progress.run parser.limit ⟨parser.depth, level, enclosing, none⟩ parser.cursor)
      (fun value => ⟨parser.depth, level, enclosing, some value⟩) := by
  rw [primary]
  have chosen := parser.chosen_choose [('(', ())]
  generalize parser.choose [('(', ())] = choice at chosen
  cases chosen with
  | @taken _ _ rest member comes shorter =>
      cases List.mem_singleton.mp member
      have found := Cursor.lexeme?_of_symbol comes (by decide)
      have inside : ahead ⟨parser.limit, ⟨parser.cursor.skipBlanks.position + 1, rest⟩,
        parser.depth + 1⟩ < parser.ahead := shorter
      apply Outcome.Agrees.widen
      refine (agrees_nested ⟨parser.limit, ⟨_, rest⟩, parser.depth⟩ found rfl
        (.group parser.depth level enclosing) rfl
        (agrees_expression ⟨parser.limit, ⟨_, rest⟩, parser.depth + 1⟩
          (level :: enclosing))).andThen ?_
      intro value cursor ahead_le stopsThere
      exact (agrees_closeGroup stopsThere).widen ahead_le
  | left noGroup =>
      apply Outcome.Agrees.widen
      cases literal : parser.skipBlanks.cursor.peek.any startsLiteral with
      | true =>
          cases comes : parser.cursor.skipBlanks.rest with
          | nil => simp [skipBlanks, Cursor.peek, comes] at literal
          | cons character rest =>
              have starts : startsLiteral character = true := by
                simpa [skipBlanks, Cursor.peek, comes] using literal
              exact agrees_number comes starts
      | false => exact agrees_refuse_operand stops noGroup literal
termination_by 4 * parser.ahead

end

/-- Asking a parser that is inside of no level is evaluating what is ahead of it, and it
is inside of no level afterwards. -/
theorem evaluate_eq_evaluateFrom (idle : parser.depth = 0) :
    parser.evaluate =
      ((evaluateFrom parser.limit parser.cursor).1,
        ⟨parser.limit, (evaluateFrom parser.limit parser.cursor).2, 0⟩) := by
  have agrees := agrees_expression parser []
  rw [idle] at agrees
  have run : evaluateFrom parser.limit parser.cursor = _ := agrees.run_eq
  unfold evaluate
  generalize parser.expression = outcome at agrees run
  rcases outcome with ⟨result, ⟨limit, cursor, depth⟩, ahead_le⟩
  cases agrees.limit_eq
  cases agrees.depth_eq
  cases result with
  | error misreading =>
      rw [run]
      rfl
  | ok value =>
      have stops : cursor.Stops _ := agrees.stops value rfl
      rw [run]
      simp only [skipBlanks, Cursor.peek_skipBlanks, Outcome.resume]
      cases found : cursor.lexeme? with
      | none =>
          rw [run_of_end found]
          rfl
      | some lexeme =>
          have refusal : Refusal parser.limit _ _ _ :=
            .trailing 0 .empty value (continues_of_stops stops (by simp) found)
          rw [run_of_refusal found refusal]
          simp only [Lexeme.misread, (Cursor.start_of_lexeme? found).1]
          rfl

end Parser

end DeskCalculator.Expression
