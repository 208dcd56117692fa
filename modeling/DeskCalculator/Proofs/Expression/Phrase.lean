import DeskCalculator.Proofs.Expression.Derivation

/-! The tokens of a derivation move a progress from a place where its category may begin
to one where it has been completed with its value, exactly if the nesting levels that
are open already and those of the derivation stay within the limit. -/

namespace DeskCalculator.Expression

open DeskCalculator.Expression.Derivation Progress

/-- Where a phrase of the category may begin. A term starts a product, and an
expression a level. -/
inductive Begins : Category → Progress → Prop
  | expression (depth : Nat) (enclosing : List Level) :
      Begins .expression ⟨depth, .empty, enclosing, none⟩
  | term (depth : Nat) (sum : Option (Float × SumOperator)) (enclosing : List Level) :
      Begins .term ⟨depth, ⟨sum, none, []⟩, enclosing, none⟩
  | factor (depth : Nat) (level : Level) (enclosing : List Level) :
      Begins .factor ⟨depth, level, enclosing, none⟩
  | primary (depth : Nat) (level : Level) (enclosing : List Level) :
      Begins .primary ⟨depth, level, enclosing, none⟩

/-- What a phrase with the value leaves behind where it began: an operand, and the
work that makes the operand that value. Levels opened by the work count as open. -/
inductive Completes : Category → Progress → Float → Progress → Prop
  | expression (depth : Nat) (enclosing : List Level) (level : Level) (operand : Float) :
      Completes .expression ⟨depth, .empty, enclosing, none⟩ (level.expression operand)
        ⟨depth + level.openings.length, level, enclosing, some operand⟩
  | term (depth : Nat) (enclosing : List Level) (level : Level) (operand : Float) :
      Completes .term ⟨depth, ⟨level.sum, none, []⟩, enclosing, none⟩ (level.term operand)
        ⟨depth + level.openings.length, level, enclosing, some operand⟩
  | factor (depth : Nat) (level : Level) (enclosing : List Level)
      (openings : List Opening) (operand : Float) :
      Completes .factor ⟨depth, level, enclosing, none⟩
        ((Level.mk level.sum level.product openings).factor operand)
        ⟨depth + openings.length, { level with openings := openings ++ level.openings },
          enclosing, some operand⟩
  | primary (depth : Nat) (level : Level) (enclosing : List Level) (value : Float) :
      Completes .primary ⟨depth, level, enclosing, none⟩ value
        ⟨depth, level, enclosing, some value⟩

/-- The tokens of the derivation are read from the progress on. -/
def Reaches (limit : Nat) {category : Category} (derivation : Derivation category)
    (progress : Progress) : Prop :=
  ∃ last, Moves limit progress derivation.tokens last ∧
    Completes category progress derivation.value last

section

variable {limit : Nat} {progress last : Progress} {value : Float}

/-! A phrase of a tighter category is one of the looser category. -/

theorem Completes.factor_of_primary (completes : Completes .primary progress value last) :
    Completes .factor progress value last := by
  cases completes with
  | primary depth level enclosing => exact .factor depth level enclosing [] value

theorem Completes.term_of_factor (begins : Begins .term progress)
    (completes : Completes .factor progress value last) :
    Completes .term progress value last := by
  cases begins with
  | term depth sum enclosing =>
      cases completes with
      | factor _ _ _ openings operand =>
          simp only [List.append_nil]
          exact .term depth enclosing ⟨sum, none, openings⟩ operand

theorem Completes.expression_of_term (begins : Begins .expression progress)
    (completes : Completes .term progress value last) :
    Completes .expression progress value last := by
  cases begins with
  | expression depth enclosing =>
      generalize origin : Progress.mk depth .empty enclosing none = progress at completes
      cases completes with
      | term _ _ level operand =>
          rcases level with ⟨sum, product, openings⟩
          cases origin
          exact .expression depth enclosing ⟨none, product, openings⟩ operand

theorem Begins.term_of_expression (begins : Begins .expression progress) :
    Begins .term progress := by
  cases begins with
  | expression depth enclosing => exact .term depth none enclosing

theorem Begins.factor_of_term (begins : Begins .term progress) :
    Begins .factor progress := by
  cases begins with
  | term depth sum enclosing => exact .factor depth _ enclosing

theorem Begins.primary_of_factor (begins : Begins .factor progress) :
    Begins .primary progress := by
  cases begins with
  | factor depth level enclosing => exact .primary depth level enclosing

/-! An operator behind a completed phrase leaves the place of its right operand, and
what is completed there completes the whole. -/

theorem Completes.move_sum (completes : Completes .expression progress value last)
    (limit : Nat) (operator : SumOperator) :
    Move limit (.symbol operator.symbol) last
      ⟨progress.depth, ⟨some (value, operator), none, []⟩, progress.enclosing, none⟩ := by
  cases completes with
  | expression depth enclosing level operand =>
      have move : Move limit (.symbol operator.symbol) _ _ :=
        .sum operator (depth + level.openings.length) level enclosing operand
      rwa [Nat.add_sub_cancel] at move

theorem Completes.sum {left : Float} {operator : SumOperator}
    (begins : Begins .expression progress)
    (completes : Completes .term
      ⟨progress.depth, ⟨some (left, operator), none, []⟩, progress.enclosing, none⟩
      value last) :
    Completes .expression progress (operator.apply left value) last := by
  cases begins with
  | expression depth enclosing =>
      generalize origin : Progress.mk depth ⟨some (left, operator), none, []⟩ enclosing
        none = place at completes
      cases completes with
      | term _ _ level operand =>
          rcases level with ⟨sum, product, openings⟩
          cases origin
          exact .expression depth enclosing ⟨some (left, operator), product, openings⟩ operand

theorem Completes.move_product (completes : Completes .term progress value last)
    (limit : Nat) (operator : ProductOperator) :
    Move limit (.symbol operator.symbol) last
      ⟨progress.depth, ⟨progress.level.sum, some (value, operator), []⟩,
        progress.enclosing, none⟩ := by
  cases completes with
  | term depth enclosing level operand =>
      have move : Move limit (.symbol operator.symbol) _ _ :=
        .product operator (depth + level.openings.length) level enclosing operand
      rwa [Nat.add_sub_cancel] at move

theorem Completes.product {left : Float} {operator : ProductOperator}
    (begins : Begins .term progress)
    (completes : Completes .factor
      ⟨progress.depth, ⟨progress.level.sum, some (left, operator), []⟩,
        progress.enclosing, none⟩ value last) :
    Completes .term progress (operator.apply left value) last := by
  cases begins with
  | term depth sum enclosing =>
      cases completes with
      | factor _ _ _ openings operand =>
          simp only [List.append_nil]
          exact .term depth enclosing ⟨sum, some (left, operator), openings⟩ operand

theorem Completes.opened {depth : Nat} {level : Level} {enclosing : List Level}
    {opening : Opening}
    (completes : Completes .factor ⟨depth + 1, level.opened opening, enclosing, none⟩
      value last) :
    Completes .factor ⟨depth, level, enclosing, none⟩ (opening.apply value) last := by
  cases completes with
  | factor _ _ _ openings operand =>
      have whole := Completes.factor depth level enclosing (openings ++ [opening]) operand
      simpa [Level.factor, Level.opened, Nat.add_assoc, Nat.add_comm 1] using whole

theorem Completes.move_close {depth : Nat} {outer : Level} {enclosing : List Level}
    (completes : Completes .expression ⟨depth + 1, .empty, outer :: enclosing, none⟩
      value last) (limit : Nat) :
    Move limit (.symbol ')') last ⟨depth, outer, enclosing, some value⟩ := by
  cases completes with
  | expression _ _ level operand =>
      have move : Move limit (.symbol ')') _ _ :=
        .close (depth + 1 + level.openings.length) level outer enclosing operand
      rwa [Nat.add_sub_cancel, Nat.add_sub_cancel] at move

end

theorem Derivation.reaches {category : Category} (derivation : Derivation category)
    {limit : Nat} {progress : Progress} (begins : Begins category progress)
    (fits : progress.depth + derivation.nesting ≤ limit) :
    Reaches limit derivation progress := by
  induction derivation generalizing progress with
  | ofTerm term induction =>
      rcases induction begins.term_of_expression fits with ⟨last, moves, completes⟩
      exact ⟨last, moves, completes.expression_of_term begins⟩
  | sum left operator right inductionLeft inductionRight =>
      rw [nesting] at fits
      rcases inductionLeft begins (by omega) with ⟨between, movesLeft, completesLeft⟩
      have move := completesLeft.move_sum limit operator
      have room : progress.depth + right.nesting ≤ limit := by omega
      have beginsRight :=
        Begins.term progress.depth (some (left.value, operator)) progress.enclosing
      rcases inductionRight beginsRight room with ⟨last, movesRight, completesRight⟩
      refine ⟨last, movesLeft.append (.token move movesRight), ?_⟩
      rw [value_sum]
      exact completesRight.sum begins
  | ofFactor factor induction =>
      rcases induction begins.factor_of_term fits with ⟨last, moves, completes⟩
      exact ⟨last, moves, completes.term_of_factor begins⟩
  | product left operator right inductionLeft inductionRight =>
      rw [nesting] at fits
      rcases inductionLeft begins (by omega) with ⟨between, movesLeft, completesLeft⟩
      have move := completesLeft.move_product limit operator
      have room : progress.depth + right.nesting ≤ limit := by omega
      have beginsRight := Begins.factor progress.depth
        ⟨progress.level.sum, some (left.value, operator), []⟩ progress.enclosing
      rcases inductionRight beginsRight room with ⟨last, movesRight, completesRight⟩
      refine ⟨last, movesLeft.append (.token move movesRight), ?_⟩
      rw [value_product]
      exact completesRight.product begins
  | signed sign operand induction =>
      rw [nesting] at fits
      cases begins with
      | factor depth level enclosing =>
          simp only at fits
          have move : Move limit (.symbol sign.symbol) _ _ :=
            .nest (.sign sign depth level enclosing) (by simp only; omega)
          have room : depth + 1 + operand.nesting ≤ limit := by omega
          have opened := Begins.factor (depth + 1) (level.opened sign.opening) enclosing
          rcases induction opened room with ⟨last, moves, completes⟩
          refine ⟨last, .token move moves, ?_⟩
          rw [value_signed]
          exact completes.opened
  | ofPrimary primary induction =>
      rcases induction begins.primary_of_factor fits with ⟨last, moves, completes⟩
      exact ⟨last, moves, completes.factor_of_primary⟩
  | power base exponent inductionBase inductionExponent =>
      rw [nesting] at fits
      rcases inductionBase begins.primary_of_factor (by omega) with
        ⟨between, movesBase, completesBase⟩
      cases completesBase with
      | primary depth level enclosing =>
          simp only at fits
          have move : Move limit (.symbol '^') _ _ :=
            .nest (.power depth level enclosing base.value) (by simp only; omega)
          have room : depth + 1 + exponent.nesting ≤ limit := by omega
          have opened :=
            Begins.factor (depth + 1) (level.opened (.base base.value)) enclosing
          rcases inductionExponent opened room with ⟨last, moves, completes⟩
          exact ⟨last, movesBase.append (.token move moves), completes.opened⟩
  | group inner induction =>
      rw [nesting] at fits
      cases begins with
      | primary depth level enclosing =>
          simp only at fits
          have move : Move limit (.symbol '(') _ _ :=
            .nest (.group depth level enclosing) (by simp only; omega)
          have room : depth + 1 + inner.nesting ≤ limit := by omega
          have opened := Begins.expression (depth + 1) (level :: enclosing)
          rcases induction opened room with ⟨between, moves, completes⟩
          have close := completes.move_close limit
          exact ⟨_, .token move (moves.append (.token close (.stop _))),
            .primary depth level enclosing _⟩
  | numeral text wellFormed =>
      cases begins with
      | primary depth level enclosing =>
          exact ⟨_, .token (.literal depth level enclosing wellFormed) (.stop _),
            .primary depth level enclosing _⟩

/-- A derivation that is read has room for its nesting: each level is opened below the
limit. -/
theorem Derivation.depth_add_nesting_le {category : Category}
    (derivation : Derivation category) {limit : Nat} {progress last : Progress}
    (begins : Begins category progress) (within : progress.depth ≤ limit)
    (moves : Moves limit progress derivation.tokens last) :
    progress.depth + derivation.nesting ≤ limit := by
  induction derivation generalizing progress last with
  | ofTerm term induction => exact induction begins.term_of_expression within moves
  | sum left operator right inductionLeft inductionRight =>
      rcases moves.exists_of_append with ⟨between, movesLeft, -⟩
      have fitsLeft := inductionLeft begins within movesLeft
      rcases left.reaches begins fitsLeft with ⟨_, movesLeft, completes⟩
      have further := moves.after movesLeft (completes.move_sum limit operator)
      have fitsRight := inductionRight (.term _ _ _) within further
      rw [nesting, ← Nat.add_max_add_left]
      exact Nat.max_le.mpr ⟨fitsLeft, fitsRight⟩
  | ofFactor factor induction => exact induction begins.factor_of_term within moves
  | product left operator right inductionLeft inductionRight =>
      rcases moves.exists_of_append with ⟨between, movesLeft, -⟩
      have fitsLeft := inductionLeft begins within movesLeft
      rcases left.reaches begins fitsLeft with ⟨_, movesLeft, completes⟩
      have further := moves.after movesLeft (completes.move_product limit operator)
      have fitsRight := inductionRight (.factor _ _ _) within further
      rw [nesting, ← Nat.add_max_add_left]
      exact Nat.max_le.mpr ⟨fitsLeft, fitsRight⟩
  | signed sign operand induction =>
      cases begins with
      | factor depth level enclosing =>
          have nests := Nests.sign sign depth level enclosing
          have room := moves.room nests
          have fits := induction (.factor _ _ _) room
            (moves.after (.stop _) (.nest nests room))
          rw [nesting]
          simp only at fits ⊢
          omega
  | ofPrimary primary induction => exact induction begins.primary_of_factor within moves
  | power base exponent inductionBase inductionExponent =>
      rcases moves.exists_of_append with ⟨between, movesBase, further⟩
      have fitsBase := inductionBase begins.primary_of_factor within movesBase
      rcases base.reaches begins.primary_of_factor fitsBase with ⟨_, movesAgain, completes⟩
      cases movesBase.unique movesAgain
      cases completes with
      | primary depth level enclosing =>
          have nests := Nests.power depth level enclosing base.value
          have room := further.room nests
          have fits := inductionExponent (.factor _ _ _) room
            (further.after (.stop _) (.nest nests room))
          rw [nesting]
          simp only at fits fitsBase ⊢
          omega
  | group inner induction =>
      cases begins with
      | primary depth level enclosing =>
          have nests := Nests.group depth level enclosing
          have room := moves.room nests
          have further := moves.after (.stop _) (.nest nests room)
          rcases further.exists_of_append with ⟨between, movesInner, -⟩
          have fits := induction (.expression _ _) room movesInner
          rw [nesting]
          simp only at fits ⊢
          omega
  | numeral text wellFormed => exact within

end DeskCalculator.Expression
