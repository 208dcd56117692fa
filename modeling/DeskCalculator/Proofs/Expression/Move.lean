import DeskCalculator.Expression.Evaluation
import DeskCalculator.Proofs.Number.Literal

/-! A token read by an expression in progress either moves it on or is refused. The
moves and the refusals are listed here once, with everything they depend on. -/

namespace DeskCalculator.Expression

/-- The signs in front of a factor. -/
inductive Sign where
  | plus
  | minus
deriving DecidableEq, Repr

def Sign.symbol : Sign → Char
  | plus => '+'
  | minus => '-'

def Sign.opening : Sign → Opening
  | plus => .identity
  | minus => .negation

def SumOperator.symbol : SumOperator → Char
  | plus => '+'
  | minus => '-'

def ProductOperator.symbol : ProductOperator → Char
  | times => '*'
  | dividedBy => '/'

def Level.opened (opening : Opening) (level : Level) : Level :=
  { level with openings := opening :: level.openings }

namespace Progress

/-- The token opens a nesting level: a sign or a parenthesis where an operand has to
come, or a power behind one. What is open inside and around that level follows. -/
inductive Nests : Token → Progress → Level → List Level → Prop
  | sign (sign : Sign) (depth : Nat) (level : Level) (enclosing : List Level) :
      Nests (.symbol sign.symbol) ⟨depth, level, enclosing, none⟩
        (level.opened sign.opening) enclosing
  | group (depth : Nat) (level : Level) (enclosing : List Level) :
      Nests (.symbol '(') ⟨depth, level, enclosing, none⟩ .empty (level :: enclosing)
  | power (depth : Nat) (level : Level) (enclosing : List Level) (base : Float) :
      Nests (.symbol '^') ⟨depth, level, enclosing, some base⟩
        (level.opened (.base base)) enclosing

inductive Move (limit : Nat) : Token → Progress → Progress → Prop
  | literal (depth : Nat) (level : Level) (enclosing : List Level) {text : List Char}
      (numeral : Number.IsNumeral text) :
      Move limit (.literal text) ⟨depth, level, enclosing, none⟩
        ⟨depth, level, enclosing, some (Number.ofLiteral text)⟩
  | nest {token : Token} {progress : Progress} {level : Level} {enclosing : List Level}
      (nests : Nests token progress level enclosing) (room : progress.depth < limit) :
      Move limit token progress ⟨progress.depth + 1, level, enclosing, none⟩
  | sum (operator : SumOperator) (depth : Nat) (level : Level) (enclosing : List Level)
      (operand : Float) :
      Move limit (.symbol operator.symbol) ⟨depth, level, enclosing, some operand⟩
        ⟨depth - level.openings.length,
          ⟨some (level.expression operand, operator), none, []⟩, enclosing, none⟩
  | product (operator : ProductOperator) (depth : Nat) (level : Level)
      (enclosing : List Level) (operand : Float) :
      Move limit (.symbol operator.symbol) ⟨depth, level, enclosing, some operand⟩
        ⟨depth - level.openings.length,
          ⟨level.sum, some (level.term operand, operator), []⟩, enclosing, none⟩
  | close (depth : Nat) (level outer : Level) (enclosing : List Level)
      (operand : Float) :
      Move limit (.symbol ')') ⟨depth, level, outer :: enclosing, some operand⟩
        ⟨depth - level.openings.length - 1, outer, enclosing,
          some (level.expression operand)⟩

/-- The token goes on behind an operand: with another operand, or, inside of
parentheses, by closing them. -/
def continues (enclosing : List Level) : Token → Bool
  | .literal _ => false
  | .symbol character =>
      ['+', '-', '*', '/', '^'].contains character || (character == ')' && !enclosing.isEmpty)

inductive Refusal (limit : Nat) : Token → Progress → Misreading.Cause → Prop
  | malformed (depth : Nat) (level : Level) (enclosing : List Level) {text : List Char}
      (notNumeral : ¬Number.IsNumeral text) :
      Refusal limit (.literal text) ⟨depth, level, enclosing, none⟩ (.malformedNumber text)
  | noOperand (depth : Nat) (level : Level) (enclosing : List Level) {character : Char}
      (other : character ∉ ['+', '-', '(']) :
      Refusal limit (.symbol character) ⟨depth, level, enclosing, none⟩
        (.unexpectedCharacter character)
  | tooDeep {token : Token} {progress : Progress} {level : Level} {enclosing : List Level}
      (nests : Nests token progress level enclosing) (full : limit ≤ progress.depth) :
      Refusal limit token progress (.nestedTooDeep limit)
  | trailing (depth : Nat) (level : Level) (operand : Float) {token : Token}
      (stops : continues [] token = false) :
      Refusal limit token ⟨depth, level, [], some operand⟩
        (.trailingInput token.firstCharacter)
  | unclosed (depth : Nat) (level outer : Level) (enclosing : List Level)
      (operand : Float) {token : Token}
      (stops : continues (outer :: enclosing) token = false) :
      Refusal limit token ⟨depth, level, outer :: enclosing, some operand⟩
        (.unexpectedCharacter token.firstCharacter)

variable {limit : Nat} {token : Token} {progress next : Progress}
  {cause : Misreading.Cause}

/-! Every token moves or is refused, and the step of the machine says which. -/

theorem nest_ok_of_room {level : Level} {enclosing : List Level}
    (room : progress.depth < limit) :
    progress.nest limit level enclosing =
      .ok ⟨progress.depth + 1, level, enclosing, none⟩ := by
  simp [nest, Nat.not_le.mpr room]

theorem nest_error_of_full {level : Level} {enclosing : List Level}
    (full : limit ≤ progress.depth) :
    progress.nest limit level enclosing = .error (.nestedTooDeep limit) := by
  simp [nest, full]

theorem Nests.step_eq {level : Level} {enclosing : List Level}
    (nests : Nests token progress level enclosing) :
    progress.step limit token = progress.nest limit level enclosing := by
  cases nests with
  | sign sign => cases sign <;> rfl
  | group => rfl
  | power => rfl

theorem Move.step_eq (move : Move limit token progress next) :
    progress.step limit token = .ok next := by
  cases move with
  | literal depth level enclosing numeral =>
      simp [step, stepOperand, (Number.isLiteral_iff_isNumeral _).mpr numeral]
  | nest nests room => rw [nests.step_eq, nest_ok_of_room room]
  | sum operator => cases operator <;> rfl
  | product operator => cases operator <;> rfl
  | close => rfl

theorem Refusal.step_eq (refusal : Refusal limit token progress cause) :
    progress.step limit token = .error cause := by
  cases refusal with
  | malformed depth level enclosing notNumeral =>
      have notLiteral := mt (Number.isLiteral_iff_isNumeral _).mp notNumeral
      simp [step, stepOperand, notLiteral]
  | noOperand depth level enclosing other =>
      simp only [List.mem_cons, List.not_mem_nil, or_false, not_or] at other
      simp [step, stepOperand, other]
  | tooDeep nests full => rw [nests.step_eq, nest_error_of_full full]
  | trailing depth level operand stops =>
      cases token with
      | literal text => rfl
      | symbol character =>
          simp [continues] at stops
          simp only [step, stepOperator]
          split <;> simp_all [closeGroup, refuse]
  | unclosed depth level outer enclosing operand stops =>
      cases token with
      | literal text => rfl
      | symbol character =>
          simp [continues] at stops
          simp only [step, stepOperator]
          split <;> simp_all [refuse]

theorem Nests.moves_or_refused {level : Level} {enclosing : List Level}
    (nests : Nests token progress level enclosing) (limit : Nat) :
    (∃ next, Move limit token progress next) ∨
      ∃ cause, Refusal limit token progress cause := by
  rcases Nat.lt_or_ge progress.depth limit with room | full
  · exact .inl ⟨_, .nest nests room⟩
  · exact .inr ⟨_, .tooDeep nests full⟩

theorem moves_or_refused_of_none (limit : Nat) (token : Token) (depth : Nat)
    (level : Level) (enclosing : List Level) :
    (∃ next, Move limit token ⟨depth, level, enclosing, none⟩ next) ∨
      ∃ cause, Refusal limit token ⟨depth, level, enclosing, none⟩ cause := by
  cases token with
  | literal text =>
      by_cases numeral : Number.IsNumeral text
      · exact .inl ⟨_, .literal depth level enclosing numeral⟩
      · exact .inr ⟨_, .malformed depth level enclosing numeral⟩
  | symbol character =>
      by_cases opens : character ∈ ['+', '-', '(']
      · simp only [List.mem_cons, List.not_mem_nil, or_false] at opens
        rcases opens with rfl | rfl | rfl
        · exact (Nests.sign .plus depth level enclosing).moves_or_refused limit
        · exact (Nests.sign .minus depth level enclosing).moves_or_refused limit
        · exact (Nests.group depth level enclosing).moves_or_refused limit
      · exact .inr ⟨_, .noOperand depth level enclosing opens⟩

theorem moves_or_refused_of_some (limit : Nat) (token : Token) (depth : Nat)
    (level : Level) (enclosing : List Level) (operand : Float) :
    (∃ next, Move limit token ⟨depth, level, enclosing, some operand⟩ next) ∨
      ∃ cause, Refusal limit token ⟨depth, level, enclosing, some operand⟩ cause := by
  cases goesOn : continues enclosing token with
  | false =>
      cases enclosing with
      | nil => exact .inr ⟨_, .trailing depth level operand goesOn⟩
      | cons outer enclosing =>
          exact .inr ⟨_, .unclosed depth level outer enclosing operand goesOn⟩
  | true =>
      cases token with
      | literal text => cases goesOn
      | symbol character =>
          simp only [continues, List.contains_cons, List.contains_nil, Bool.or_false,
            Bool.or_eq_true, Bool.and_eq_true, beq_iff_eq] at goesOn
          rcases goesOn with (rfl | rfl | rfl | rfl | rfl) | ⟨rfl, inside⟩
          · exact .inl ⟨_, .sum .plus depth level enclosing operand⟩
          · exact .inl ⟨_, .sum .minus depth level enclosing operand⟩
          · exact .inl ⟨_, .product .times depth level enclosing operand⟩
          · exact .inl ⟨_, .product .dividedBy depth level enclosing operand⟩
          · exact (Nests.power depth level enclosing operand).moves_or_refused limit
          · cases enclosing with
            | nil => cases inside
            | cons outer enclosing =>
                exact .inl ⟨_, .close depth level outer enclosing operand⟩

theorem moves_or_refused (limit : Nat) (token : Token) (progress : Progress) :
    (∃ next, Move limit token progress next) ∨
      ∃ cause, Refusal limit token progress cause := by
  rcases progress with ⟨depth, level, enclosing, _ | operand⟩
  · exact moves_or_refused_of_none limit token depth level enclosing
  · exact moves_or_refused_of_some limit token depth level enclosing operand

theorem step_eq_ok_iff :
    progress.step limit token = .ok next ↔ Move limit token progress next := by
  refine ⟨fun taken => ?_, Move.step_eq⟩
  rcases moves_or_refused limit token progress with ⟨reached, move⟩ | ⟨cause, refusal⟩
  · rw [move.step_eq] at taken
    cases taken
    exact move
  · rw [refusal.step_eq] at taken
    cases taken

theorem step_eq_error_iff :
    progress.step limit token = .error cause ↔ Refusal limit token progress cause := by
  refine ⟨fun refused => ?_, Refusal.step_eq⟩
  rcases moves_or_refused limit token progress with ⟨reached, move⟩ | ⟨found, refusal⟩
  · rw [move.step_eq] at refused
    cases refused
  · rw [refusal.step_eq] at refused
    cases refused
    exact refusal

theorem Move.unique {other : Progress} (move : Move limit token progress next)
    (again : Move limit token progress other) : next = other := by
  have same := move.step_eq.symm.trans again.step_eq
  exact Except.ok.inj same

theorem Move.not_refusal (move : Move limit token progress next) :
    ¬Refusal limit token progress cause := by
  intro refusal
  cases move.step_eq.symm.trans refusal.step_eq

/-! A larger limit keeps every move, and every refusal that is not about nesting. -/

theorem Move.raise {larger : Nat} (move : Move limit token progress next)
    (le : limit ≤ larger) : Move larger token progress next := by
  cases move with
  | literal depth level enclosing numeral => exact .literal depth level enclosing numeral
  | nest nests room => exact .nest nests (Nat.lt_of_lt_of_le room le)
  | sum operator depth level enclosing operand =>
      exact .sum operator depth level enclosing operand
  | product operator depth level enclosing operand =>
      exact .product operator depth level enclosing operand
  | close depth level outer enclosing operand =>
      exact .close depth level outer enclosing operand

theorem Refusal.change_limit (refusal : Refusal limit token progress cause)
    (notDeep : ∀ reported, cause ≠ .nestedTooDeep reported) (other : Nat) :
    Refusal other token progress cause := by
  cases refusal with
  | malformed depth level enclosing notNumeral =>
      exact .malformed depth level enclosing notNumeral
  | noOperand depth level enclosing character =>
      exact .noOperand depth level enclosing character
  | tooDeep => exact absurd rfl (notDeep limit)
  | trailing depth level operand stops => exact .trailing depth level operand stops
  | unclosed depth level outer enclosing operand stops =>
      exact .unclosed depth level outer enclosing operand stops

theorem Refusal.tooDeep_iff {reported : Nat} :
    Refusal limit token progress (.nestedTooDeep reported) ↔
      reported = limit ∧ limit ≤ progress.depth ∧
        ∃ level enclosing, Nests token progress level enclosing := by
  constructor
  · intro refusal
    cases refusal with
    | tooDeep nests full => exact ⟨rfl, full, _, _, nests⟩
  · rintro ⟨rfl, full, level, enclosing, nests⟩
    exact .tooDeep nests full

/-! The depth grows by one at most, and only below the limit. -/

theorem Move.depth_le_succ (move : Move limit token progress next) :
    next.depth ≤ progress.depth + 1 := by
  cases move with
  | literal => exact Nat.le_succ _
  | nest => exact Nat.le_refl _
  | sum | product => exact Nat.le_succ_of_le (Nat.sub_le _ _)
  | close => exact Nat.le_succ_of_le (Nat.le_trans (Nat.sub_le _ _) (Nat.sub_le _ _))

theorem Move.depth_le_limit (move : Move limit token progress next)
    (within : progress.depth ≤ limit) : next.depth ≤ limit := by
  cases move with
  | literal => exact within
  | nest nests room => exact room
  | sum | product | close => simp only at within ⊢; omega

theorem Nests.exists_symbol {level : Level} {enclosing : List Level}
    (nests : Nests token progress level enclosing) :
    ∃ character ∈ ['+', '-', '^', '('], token = .symbol character := by
  cases nests with
  | sign sign => exact ⟨sign.symbol, by cases sign <;> simp [Sign.symbol], rfl⟩
  | group => exact ⟨'(', by simp, rfl⟩
  | power => exact ⟨'^', by simp, rfl⟩

end Progress

end DeskCalculator.Expression
