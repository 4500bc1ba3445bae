/-!
# Domain errors

The failures that concern values of the domain, whichever part meets them. Each names its
cause; `DomainError.message` is the only place that words it.
-/

namespace Concord

/-- Why a value of the domain was refused. -/
inductive DomainError where
  /-- Bytes or text that do not encode a value. -/
  | invalidEncoding
  /-- A step that a life cycle does not allow, with the names of the two states. -/
  | invalidTransition (current next : String)
  /-- A setting that no run can use. -/
  | invalidConfig (field reason : String)
  /-- A request that contradicts the present state. -/
  | validation (field reason : String)
  /-- A request about something that does not exist. -/
  | notFound (kind id : String)
deriving DecidableEq, Inhabited

/-- The name of each cause. -/
def DomainError.kind : DomainError → String
  | .invalidEncoding => "InvalidEncoding"
  | .invalidTransition _ _ => "InvalidTransition"
  | .invalidConfig _ _ => "InvalidConfig"
  | .validation _ _ => "Validation"
  | .notFound _ _ => "NotFound"

/-- The wording of each cause. -/
def DomainError.message : DomainError → String
  | .invalidEncoding => "Invalid encoding"
  | .invalidTransition current next => "Invalid state transition: " ++ current ++ " -> " ++ next
  | .invalidConfig field reason => "Invalid configuration for " ++ field ++ ": " ++ reason
  | .validation field reason => "Validation failed for " ++ field ++ ": " ++ reason
  | .notFound kind id => kind ++ " not found: " ++ id

end Concord
