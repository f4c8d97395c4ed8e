import Converge.State
import Converge.Template.Fault

/-!
# Failures

Everything that can go wrong while rules are read and resources are run, and the wording of each.
-/

namespace Converge

/-- A failure by its cause. -/
inductive Failure where
  /-- The pattern of a rule does not compile. -/
  | invalidPattern (rule : String)
  /-- Two rules of a table share a name. -/
  | duplicateRule (name : String)
  /-- A name that no rule of the table has. -/
  | unknownRule (name : String)
  /-- A template does not compile or evaluate. -/
  | template (text : String) (fault : Template.Fault)
  /-- A state that needs a wanted configuration got none. -/
  | emptyWant (state : State)
  /-- The parsed state got no captured output. -/
  | missingRunningConfig
  /-- A state that talks to a device got none. -/
  | missingConnection (state : State)
  /-- A file of rules does not decode. -/
  | ruleFile (path : String)
  /-- A rule document does not decode. -/
  | ruleDocument
  /-- The value of a template has no data tree. -/
  | conversion
  /-- A file cannot be read as text. -/
  | unreadable
  /-- A message of a device or of a source of facts. -/
  | reported (message : String)
  /-- A failure that a source of facts passes on. -/
  | passedOn (cause : Failure)
deriving DecidableEq

namespace Failure

/-- The wording of a failure. -/
def message : Failure → String
  | invalidPattern rule => "invalid pattern in rule '" ++ rule ++ "'"
  | duplicateRule name => "duplicate rule name: " ++ name
  | unknownRule name => "unknown rule: " ++ name
  | template text fault => "failed to evaluate template '" ++ text ++ "': " ++ fault.name
  | emptyWant state =>
    "value of config parameter must not be empty for state " ++ state.name
  | missingRunningConfig =>
    "value of running_config parameter must not be empty for state parsed"
  | missingConnection state => "state " ++ state.name ++ " requires a device connection"
  | ruleFile path => "invalid rule file " ++ path
  | ruleDocument => "invalid rule table"
  | conversion => "failed to convert template output"
  | unreadable => "IO error"
  | reported message => message
  | passedOn cause => cause.message

end Failure

end Converge
