import DeskCalculator.Proofs.Expression.Derivation

/-! The open work of a progress holds values only. An outline holds the derivations that
they are the values of, so that the tokens read so far can be told from it, and the
derivation that the next operand completes can be built. -/

namespace DeskCalculator.Expression

open Progress

/-- What stands in front of an operand, with the derivation of a base. -/
inductive OpenFactor where
  | signed (sign : Sign)
  | power (base : Derivation .primary)

namespace OpenFactor

def opening : OpenFactor → Opening
  | signed sign => sign.opening
  | power base => .base base.value

def tokens : OpenFactor → List Token
  | signed sign => [.symbol sign.symbol]
  | power base => base.tokens ++ [.symbol '^']

def complete (operand : Derivation .factor) : OpenFactor → Derivation .factor
  | signed sign => .signed sign operand
  | power base => .power base operand

theorem value_complete (openFactor : OpenFactor) (operand : Derivation .factor) :
    (openFactor.complete operand).value = openFactor.opening.apply operand.value := by
  cases openFactor with
  | signed sign => exact Derivation.value_signed sign operand
  | power base => rfl

theorem tokens_complete (openFactor : OpenFactor) (operand : Derivation .factor) :
    (openFactor.complete operand).tokens = openFactor.tokens ++ operand.tokens := by
  cases openFactor with
  | signed sign => rfl
  | power base => simp [complete, tokens, Derivation.tokens]

end OpenFactor

/-- The derivations behind the open work of one expression. -/
structure Outline where
  sum : Option (Derivation .expression × SumOperator)
  product : Option (Derivation .term × ProductOperator)
  openings : List OpenFactor

namespace Outline

def empty : Outline :=
  ⟨none, none, []⟩

def level (outline : Outline) : Level :=
  ⟨outline.sum.map fun (left, operator) => (left.value, operator),
    outline.product.map fun (left, operator) => (left.value, operator),
    outline.openings.map OpenFactor.opening⟩

def sumTokens (outline : Outline) : List Token :=
  match outline.sum with
  | none => []
  | some (left, operator) => left.tokens ++ [.symbol operator.symbol]

def productTokens (outline : Outline) : List Token :=
  match outline.product with
  | none => []
  | some (left, operator) => left.tokens ++ [.symbol operator.symbol]

def factorTokens (outline : Outline) : List Token :=
  outline.openings.reverse.flatMap OpenFactor.tokens

def tokens (outline : Outline) : List Token :=
  outline.sumTokens ++ outline.productTokens ++ outline.factorTokens

def factor (outline : Outline) (operand : Derivation .primary) : Derivation .factor :=
  outline.openings.foldl (fun derivation openFactor => openFactor.complete derivation)
    (.ofPrimary operand)

def term (outline : Outline) (operand : Derivation .primary) : Derivation .term :=
  match outline.product with
  | none => .ofFactor (outline.factor operand)
  | some (left, operator) => .product left operator (outline.factor operand)

def expression (outline : Outline) (operand : Derivation .primary) :
    Derivation .expression :=
  match outline.sum with
  | none => .ofTerm (outline.term operand)
  | some (left, operator) => .sum left operator (outline.term operand)

/-! What an operand completes has the value that the level gives it, and the tokens of
the outline in front of its own. -/

theorem value_foldl_complete (openings : List OpenFactor) (operand : Derivation .factor) :
    (openings.foldl (fun derivation openFactor => openFactor.complete derivation)
        operand).value =
      (openings.map OpenFactor.opening).foldl (fun value opening => opening.apply value)
        operand.value := by
  induction openings generalizing operand with
  | nil => rfl
  | cons openFactor openings induction =>
      rw [List.foldl_cons, induction, OpenFactor.value_complete]
      rfl

theorem tokens_foldl_complete (openings : List OpenFactor) (operand : Derivation .factor) :
    (openings.foldl (fun derivation openFactor => openFactor.complete derivation)
        operand).tokens =
      openings.reverse.flatMap OpenFactor.tokens ++ operand.tokens := by
  induction openings generalizing operand with
  | nil => rfl
  | cons openFactor openings induction =>
      rw [List.foldl_cons, induction, OpenFactor.tokens_complete]
      simp

variable (outline : Outline) (operand : Derivation .primary)

theorem value_factor :
    (outline.factor operand).value = outline.level.factor operand.value :=
  value_foldl_complete outline.openings (.ofPrimary operand)

theorem value_term : (outline.term operand).value = outline.level.term operand.value := by
  rcases outline with ⟨sum, _ | ⟨left, operator⟩, openings⟩
  · exact value_factor _ operand
  · rw [term, Derivation.value_product, value_factor]
    rfl

theorem value_expression :
    (outline.expression operand).value = outline.level.expression operand.value := by
  rcases outline with ⟨_ | ⟨left, operator⟩, product, openings⟩
  · exact value_term _ operand
  · rw [expression, Derivation.value_sum, value_term]
    rfl

theorem tokens_factor :
    (outline.factor operand).tokens = outline.factorTokens ++ operand.tokens :=
  tokens_foldl_complete outline.openings (.ofPrimary operand)

theorem tokens_term :
    (outline.term operand).tokens =
      outline.productTokens ++ (outline.factorTokens ++ operand.tokens) := by
  rw [← tokens_factor]
  rcases outline with ⟨sum, _ | ⟨left, operator⟩, openings⟩
  · rfl
  · simp [term, productTokens, Derivation.tokens, factor]

theorem tokens_expression :
    (outline.expression operand).tokens = outline.tokens ++ operand.tokens := by
  rw [tokens, List.append_assoc, List.append_assoc, ← tokens_term]
  rcases outline with ⟨_ | ⟨left, operator⟩, product, openings⟩
  · rfl
  · simp [expression, sumTokens, Derivation.tokens, term, factor]

end Outline

/-- The derivations behind a progress. -/
structure Sketch where
  outline : Outline
  enclosing : List Outline
  operand : Option (Derivation .primary)

namespace Sketch

def start : Sketch :=
  ⟨.empty, [], none⟩

/-- The tokens in front of an expression, from the outermost parenthesis inward. -/
def enclosingTokens (enclosing : List Outline) : List Token :=
  enclosing.reverse.flatMap fun outline => outline.tokens ++ [.symbol '(']

def tokens (sketch : Sketch) : List Token :=
  enclosingTokens sketch.enclosing ++ sketch.outline.tokens ++
    (sketch.operand.map Derivation.tokens).getD []

structure Represents (sketch : Sketch) (progress : Progress) : Prop where
  level : progress.level = sketch.outline.level
  enclosing : progress.enclosing = sketch.enclosing.map Outline.level
  operand : progress.operand = sketch.operand.map Derivation.value

theorem represents_start : start.Represents .start :=
  ⟨rfl, rfl, rfl⟩

def Extends (sketch after : Sketch) (token : Token) : Prop :=
  after.tokens = sketch.tokens ++ [token]

variable (outline : Outline) (enclosing : List Outline)

theorem extends_numeral {text : List Char} (numeral : Number.IsNumeral text) :
    Extends ⟨outline, enclosing, none⟩ ⟨outline, enclosing, some (.numeral text numeral)⟩
      (.literal text) := by
  simp [Extends, tokens, Derivation.tokens]

theorem extends_sign (sign : Sign) :
    Extends ⟨outline, enclosing, none⟩
      ⟨{ outline with openings := .signed sign :: outline.openings }, enclosing, none⟩
      (.symbol sign.symbol) := by
  simp [Extends, tokens, Outline.tokens, Outline.sumTokens, Outline.productTokens,
    Outline.factorTokens, OpenFactor.tokens]

theorem extends_power (base : Derivation .primary) :
    Extends ⟨outline, enclosing, some base⟩
      ⟨{ outline with openings := .power base :: outline.openings }, enclosing, none⟩
      (.symbol '^') := by
  simp [Extends, tokens, Outline.tokens, Outline.sumTokens, Outline.productTokens,
    Outline.factorTokens, OpenFactor.tokens]

theorem extends_group :
    Extends ⟨outline, enclosing, none⟩ ⟨.empty, outline :: enclosing, none⟩
      (.symbol '(') := by
  simp [Extends, tokens, enclosingTokens, Outline.empty, Outline.tokens,
    Outline.sumTokens, Outline.productTokens, Outline.factorTokens]

theorem extends_sum (operator : SumOperator) (operand : Derivation .primary) :
    Extends ⟨outline, enclosing, some operand⟩
      ⟨⟨some (outline.expression operand, operator), none, []⟩, enclosing, none⟩
      (.symbol operator.symbol) := by
  simp [Extends, tokens, Outline.tokens, Outline.sumTokens, Outline.productTokens,
    Outline.factorTokens, Outline.tokens_expression]

theorem extends_product (operator : ProductOperator) (operand : Derivation .primary) :
    Extends ⟨outline, enclosing, some operand⟩
      ⟨⟨outline.sum, some (outline.term operand, operator), []⟩, enclosing, none⟩
      (.symbol operator.symbol) := by
  simp [Extends, tokens, Outline.tokens, Outline.sumTokens, Outline.productTokens,
    Outline.factorTokens, Outline.tokens_term]

theorem extends_close (outer : Outline) (operand : Derivation .primary) :
    Extends ⟨outline, outer :: enclosing, some operand⟩
      ⟨outer, enclosing, some (.group (outline.expression operand))⟩ (.symbol ')') := by
  simp [Extends, tokens, enclosingTokens, Derivation.tokens, Outline.tokens_expression]

/-! A progress with an operand has a derivation of it, and one without has none. -/

section

variable {sketch : Sketch} {depth : Nat} {level : Level} {levels : List Level}

theorem Represents.of_none (represents : sketch.Represents ⟨depth, level, levels, none⟩) :
    ∃ outline enclosing, sketch = ⟨outline, enclosing, none⟩ ∧ level = outline.level ∧
      levels = enclosing.map Outline.level := by
  rcases sketch with ⟨outline, enclosing, operand⟩
  rcases represents with ⟨levelEqual, enclosingEqual, operandEqual⟩
  cases operand with
  | some operand => cases operandEqual
  | none => exact ⟨outline, enclosing, rfl, levelEqual, enclosingEqual⟩

theorem Represents.of_some {value : Float}
    (represents : sketch.Represents ⟨depth, level, levels, some value⟩) :
    ∃ outline enclosing operand, sketch = ⟨outline, enclosing, some operand⟩ ∧
      level = outline.level ∧ levels = enclosing.map Outline.level ∧
        value = operand.value := by
  rcases sketch with ⟨outline, enclosing, operand⟩
  rcases represents with ⟨levelEqual, enclosingEqual, operandEqual⟩
  cases operand with
  | none => cases operandEqual
  | some operand =>
      exact ⟨outline, enclosing, operand, rfl, levelEqual, enclosingEqual,
        Option.some.inj operandEqual⟩

end

theorem Represents.exists_of_nests {token : Token} {progress : Progress} {level : Level}
    {levels : List Level} {sketch : Sketch} (represents : sketch.Represents progress)
    (nests : Nests token progress level levels) :
    ∃ after, Represents after ⟨progress.depth + 1, level, levels, none⟩ ∧
      sketch.Extends after token := by
  cases nests with
  | sign sign =>
      rcases represents.of_none with ⟨outline, enclosing, rfl, rfl, rfl⟩
      exact ⟨_, ⟨rfl, rfl, rfl⟩, extends_sign outline enclosing sign⟩
  | group =>
      rcases represents.of_none with ⟨outline, enclosing, rfl, rfl, rfl⟩
      exact ⟨_, ⟨rfl, rfl, rfl⟩, extends_group outline enclosing⟩
  | power =>
      rcases represents.of_some with ⟨outline, enclosing, base, rfl, rfl, rfl, rfl⟩
      exact ⟨_, ⟨rfl, rfl, rfl⟩, extends_power outline enclosing base⟩

/-- Every move of a progress is a move of the derivations behind it. -/
theorem Represents.exists_of_move {limit : Nat} {token : Token} {progress next : Progress}
    {sketch : Sketch} (represents : sketch.Represents progress)
    (move : Move limit token progress next) :
    ∃ after, Represents after next ∧ sketch.Extends after token := by
  cases move with
  | literal depth level levels numeral =>
      rcases represents.of_none with ⟨outline, enclosing, rfl, rfl, rfl⟩
      exact ⟨_, ⟨rfl, rfl, rfl⟩, extends_numeral outline enclosing numeral⟩
  | nest nests room => exact represents.exists_of_nests nests
  | sum operator =>
      rcases represents.of_some with ⟨outline, enclosing, operand, rfl, rfl, rfl, rfl⟩
      refine ⟨_, ⟨?_, rfl, rfl⟩, extends_sum outline enclosing operator operand⟩
      rw [← Outline.value_expression]
      rfl
  | product operator =>
      rcases represents.of_some with ⟨outline, enclosing, operand, rfl, rfl, rfl, rfl⟩
      refine ⟨_, ⟨?_, rfl, rfl⟩, extends_product outline enclosing operator operand⟩
      rw [← Outline.value_term]
      rfl
  | close =>
      rcases represents.of_some with
        ⟨outline, enclosing, operand, rfl, rfl, enclosingEqual, rfl⟩
      cases enclosing with
      | nil => cases enclosingEqual
      | cons outer enclosing =>
          cases enclosingEqual
          refine ⟨_, ⟨rfl, rfl, ?_⟩, extends_close outline enclosing outer operand⟩
          rw [← Outline.value_expression]
          rfl

theorem Represents.exists_of_moves {limit : Nat} {progress last : Progress}
    {tokens : List Token} {sketch : Sketch} (represents : sketch.Represents progress)
    (moves : Moves limit progress tokens last) :
    ∃ after, Represents after last ∧ after.tokens = sketch.tokens ++ tokens := by
  induction moves generalizing sketch with
  | stop => exact ⟨sketch, represents, by simp⟩
  | token move rest induction =>
      rcases represents.exists_of_move move with ⟨between, representsBetween, extended⟩
      rcases induction representsBetween with ⟨after, representsAfter, tokensAfter⟩
      refine ⟨after, representsAfter, ?_⟩
      rw [tokensAfter, extended, List.append_assoc, List.singleton_append]

end Sketch

theorem Progress.exists_of_finish_eq_ok {progress : Progress} {value : Float}
    (finished : progress.finish = .ok value) :
    ∃ depth level operand, progress = ⟨depth, level, [], some operand⟩ ∧
      level.expression operand = value := by
  rcases progress with ⟨depth, level, _ | ⟨outer, enclosing⟩, _ | operand⟩
  · cases finished
  · exact ⟨depth, level, operand, rfl, Except.ok.inj finished⟩
  · cases finished
  · cases finished

/-- Tokens that make up a whole expression have a derivation with its value. -/
theorem exists_derivation_of_moves {limit : Nat} {last : Progress} {tokens : List Token}
    {value : Float} (moves : Moves limit .start tokens last)
    (finished : last.finish = .ok value) :
    ∃ derivation : Derivation .expression,
      derivation.tokens = tokens ∧ derivation.value = value := by
  rcases Progress.exists_of_finish_eq_ok finished with ⟨depth, level, operand, rfl, rfl⟩
  rcases Sketch.represents_start.exists_of_moves moves with
    ⟨sketch, represents, tokensEqual⟩
  rcases represents.of_some with
    ⟨outline, enclosing, primary, rfl, rfl, enclosingEqual, rfl⟩
  cases enclosing with
  | cons => cases enclosingEqual
  | nil =>
      refine ⟨outline.expression primary, ?_, Outline.value_expression outline primary⟩
      rw [Outline.tokens_expression]
      simpa [Sketch.tokens, Sketch.enclosingTokens, Sketch.start, Outline.empty,
        Outline.tokens, Outline.sumTokens, Outline.productTokens,
        Outline.factorTokens] using tokensEqual

end DeskCalculator.Expression
