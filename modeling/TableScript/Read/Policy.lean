import TableScript.Diagnostic
import TableScript.Entries

namespace TableScript

/-- What becomes of an inline reference whose target is not declared anywhere in the script. -/
inductive TargetCheck where
  /-- It is kept without a word. -/
  | ignore
  /-- It is kept with a warning. -/
  | warn
  /-- It is dropped with an error. -/
  | fail
deriving Repr, DecidableEq

namespace TargetCheck

def label : TargetCheck → String
  | .ignore => "ignore"
  | .warn => "warn"
  | .fail => "fail"

def ofLabel (label : String) : Except UnknownLabel TargetCheck :=
  match [ignore, warn, fail].find? (·.label == label) with
  | some check => .ok check
  | none => .error ⟨label, "ErrorMode"⟩

end TargetCheck

def TargetCheck.unlabelled : String :=
  "[] is not a valid ErrorMode"

structure Policy where
  targetCheck : TargetCheck := .ignore
  reportUnknownSettings : Bool := true
deriving Repr, DecidableEq

inductive PolicyError where
  | unknownCheck (unknown : UnknownLabel)
  | checkType
  | reportType
deriving Repr, DecidableEq

def PolicyError.message : PolicyError → String
  | .unknownCheck unknown => unknown.message
  | .checkType => "inline_reference_check must be an ErrorMode instance"
  | .reportType => "report_unknown_settings must be a boolean"

namespace Policy

def checkOfOption : Option OptionValue → Except PolicyError TargetCheck
  | none => .ok .ignore
  | some (.text label) => (TargetCheck.ofLabel label).mapError .unknownCheck
  | some _ => .error .checkType

def reportOfOption : Option OptionValue → Except PolicyError Bool
  | none => .ok true
  | some (.bool report) => .ok report
  | some _ => .error .reportType

/-- The policy that two options ask for; an option that is not given has its usual value. -/
def ofOptions (check report : Option OptionValue) : Except PolicyError Policy := do
  pure ⟨← checkOfOption check, ← reportOfOption report⟩

end Policy

end TableScript
