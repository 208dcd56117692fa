import DeskCalculator.Expression.Evaluation

/-! A parser reads expressions by recursive descent, with one function for each rule of the
grammar. Its place in the text and the number of open nesting levels belong to the
parser and not to one evaluation: they are what the next evaluation starts from. -/

namespace DeskCalculator.Expression

structure Parser where
  limit : Nat
  cursor : Cursor
  depth : Nat
deriving DecidableEq, Repr

namespace Parser

def start (limit : Nat) (text : List Char) : Parser :=
  ⟨limit, .start text, 0⟩

def ahead (parser : Parser) : Nat :=
  parser.cursor.rest.length

def skipBlanks (parser : Parser) : Parser :=
  { parser with cursor := parser.cursor.skipBlanks }

/-! Nothing puts characters back, and what a rule leaves behind carries the proof. -/

/-- What a rule comes to: a value or a misreading, and the parser behind it, which has
at most `bound` characters ahead. -/
structure Outcome (bound : Nat) where
  result : Except Misreading Float
  parser : Parser
  ahead_le : parser.ahead ≤ bound

/-- Whether one of some characters came next: what it stands for and the parser behind
it, or the parser in front of something else. -/
inductive Choice (Meaning : Type) (bound : Nat) where
  | taken (meaning : Meaning) (parser : Parser) (ahead_lt : parser.ahead < bound)
  | left (parser : Parser) (ahead_le : parser.ahead ≤ bound)

namespace Outcome

variable {bound larger : Nat}

def widen (le : bound ≤ larger) (outcome : Outcome bound) : Outcome larger :=
  ⟨outcome.result, outcome.parser, Nat.le_trans outcome.ahead_le le⟩

def map (function : Float → Float) (outcome : Outcome bound) : Outcome bound :=
  ⟨outcome.result.map function, outcome.parser, outcome.ahead_le⟩

def andThen (outcome : Outcome bound)
    (next : Float → (parser : Parser) → parser.ahead ≤ bound → Outcome bound) :
    Outcome bound :=
  match outcome.result with
  | .ok value => next value outcome.parser outcome.ahead_le
  | .error _ => outcome

end Outcome

def Choice.widen {Meaning : Type} {bound larger : Nat} (le : bound ≤ larger) :
    Choice Meaning bound → Choice Meaning larger
  | taken meaning parser ahead_lt => taken meaning parser (Nat.lt_of_lt_of_le ahead_lt le)
  | left parser ahead_le => left parser (Nat.le_trans ahead_le le)

def succeed (value : Float) (parser : Parser) : Outcome parser.ahead :=
  ⟨.ok value, parser, Nat.le_refl _⟩

def fail (cause : Misreading.Cause) (parser : Parser) : Outcome parser.ahead :=
  ⟨.error ⟨parser.cursor.position, cause⟩, parser, Nat.le_refl _⟩

/-- Fails at the character that comes next, or at the end of the text. -/
def refuse (parser : Parser) : Outcome parser.ahead :=
  match parser.cursor.peek with
  | some found => parser.fail (.unexpectedCharacter found)
  | none => parser.fail .unexpectedEnd

theorem ahead_skipBlanks (parser : Parser) : parser.skipBlanks.ahead ≤ parser.ahead :=
  length_dropWhile_le Text.isBlank parser.cursor.rest

theorem ahead_eat {parser : Parser} {expected : Char} {eaten : Bool} {cursor : Cursor}
    (equal : parser.cursor.eat expected = (eaten, cursor)) :
    cursor.rest.length + eaten.toNat ≤ parser.ahead := by
  have shorter : parser.cursor.skipBlanks.rest.length ≤ parser.ahead :=
    parser.ahead_skipBlanks
  unfold Cursor.eat at equal
  simp only at equal
  split at equal
  · cases equal
    exact shorter
  · rename_i character rest restEqual
    rw [restEqual] at shorter
    split at equal <;> cases equal
    · exact shorter
    · rwa [restEqual]

/-- Passes the blanks ahead, and the first of some characters that comes next. -/
def choose {Meaning : Type} :
    (choices : List (Char × Meaning)) → (parser : Parser) → Choice Meaning parser.ahead
  | [], parser => .left parser.skipBlanks parser.ahead_skipBlanks
  | (character, meaning) :: choices, parser =>
      match _equal : parser.cursor.eat character with
      | (true, cursor) => .taken meaning { parser with cursor } (ahead_eat _equal)
      | (false, cursor) => (choose choices { parser with cursor }).widen (ahead_eat _equal)

def number (parser : Parser) : Outcome parser.ahead :=
  let text := parser.cursor.takeLiteral.1
  ⟨if Number.isLiteral text then .ok (Number.ofLiteral text)
    else .error ⟨parser.cursor.position, .malformedNumber text⟩,
    { parser with cursor := parser.cursor.takeLiteral.2 },
    length_splitLiteral_le parser.cursor.rest⟩

def nested (parser : Parser)
    (rule : (inside : Parser) → inside.ahead = parser.ahead → Outcome inside.ahead) :
    Outcome parser.ahead :=
  if parser.limit ≤ parser.depth then parser.fail (.nestedTooDeep parser.limit)
  else
    let outcome := rule { parser with depth := parser.depth + 1 } rfl
    ⟨outcome.result, { outcome.parser with depth := outcome.parser.depth - 1 },
      outcome.ahead_le⟩

def closeGroup (value : Float) (parser : Parser) : Outcome parser.ahead :=
  match parser.choose [(')', ())] with
  | .taken _ behind shorter => (behind.succeed value).widen (Nat.le_of_lt shorter)
  | .left here le => here.refuse.widen le

def signs : List (Char × Opening) :=
  [('+', .identity), ('-', .negation)]

def sumOperators : List (Char × SumOperator) :=
  [('+', .plus), ('-', .minus)]

def productOperators : List (Char × ProductOperator) :=
  [('*', .times), ('/', .dividedBy)]

/-! A rule that reads nothing before it goes on to the next one has the higher rank. -/

mutual

def expression (parser : Parser) : Outcome parser.ahead :=
  parser.term.andThen fun value behind le => (sums value behind).widen le
termination_by 4 * parser.ahead + 3

def sums (left : Float) (parser : Parser) : Outcome parser.ahead :=
  match parser.choose sumOperators with
  | .taken operator behind shorter =>
      (behind.term.andThen fun right later le =>
        (sums (operator.apply left right) later).widen le).widen (Nat.le_of_lt shorter)
  | .left here le => (here.succeed left).widen le
termination_by 4 * parser.ahead

def term (parser : Parser) : Outcome parser.ahead :=
  parser.factor.andThen fun value behind le => (products value behind).widen le
termination_by 4 * parser.ahead + 2

def products (left : Float) (parser : Parser) : Outcome parser.ahead :=
  match parser.choose productOperators with
  | .taken operator behind shorter =>
      (behind.factor.andThen fun right later le =>
        (products (operator.apply left right) later).widen le).widen (Nat.le_of_lt shorter)
  | .left here le => (here.succeed left).widen le
termination_by 4 * parser.ahead

def factor (parser : Parser) : Outcome parser.ahead :=
  match parser.choose signs with
  | .taken sign behind shorter => (opened sign behind).widen (Nat.le_of_lt shorter)
  | .left here le =>
      (here.primary.andThen fun value behind le => (power value behind).widen le).widen le
termination_by 4 * parser.ahead + 1

def power (base : Float) (parser : Parser) : Outcome parser.ahead :=
  match parser.choose [('^', Opening.base base)] with
  | .taken opening behind shorter => (opened opening behind).widen (Nat.le_of_lt shorter)
  | .left here le => (here.succeed base).widen le
termination_by 4 * parser.ahead

def opened (opening : Opening) (parser : Parser) : Outcome parser.ahead :=
  (parser.nested fun inside _ => inside.factor).map opening.apply
termination_by 4 * parser.ahead + 2

def primary (parser : Parser) : Outcome parser.ahead :=
  match parser.choose [('(', ())] with
  | .taken _ behind shorter =>
      ((behind.nested fun inside _ => inside.expression).andThen fun value later le =>
        (later.closeGroup value).widen le).widen (Nat.le_of_lt shorter)
  | .left here le =>
      (if here.cursor.peek.any startsLiteral then here.number else here.refuse).widen le
termination_by 4 * parser.ahead

end

def evaluate (parser : Parser) : Except Misreading Float × Parser :=
  let outcome := parser.expression
  match outcome.result with
  | .error misreading => (.error misreading, outcome.parser)
  | .ok value =>
      let here := outcome.parser.skipBlanks
      match here.cursor.peek with
      | some found => (.error ⟨here.cursor.position, .trailingInput found⟩, here)
      | none => (.ok value, here)

end Parser

end DeskCalculator.Expression
