/-! An operation that can fail has an `Except` for its outcome. Outcomes are equal when
both succeed with equal values or both fail for equal causes. -/

namespace DeskCalculator

instance decidableEqOutcome {Cause Value : Type} [DecidableEq Cause] [DecidableEq Value] :
    DecidableEq (Except Cause Value)
  | .ok left, .ok right =>
      if equal : left = right then isTrue (congrArg Except.ok equal)
      else isFalse fun outcomesEqual => equal (Except.ok.inj outcomesEqual)
  | .error left, .error right =>
      if equal : left = right then isTrue (congrArg Except.error equal)
      else isFalse fun outcomesEqual => equal (Except.error.inj outcomesEqual)
  | .ok _, .error _ => isFalse nofun
  | .error _, .ok _ => isFalse nofun

end DeskCalculator
