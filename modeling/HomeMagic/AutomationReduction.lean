import HomeMagic.AutomationCompiler

/-! Desired-state reduction of authored action lists. -/
namespace HomeMagic

namespace AutomationAction

def isCommand : AutomationAction → Bool
  | command _ _ _ _ => true
  | _ => false

def target? : AutomationAction → Option AutomationTargetReference
  | command target _ _ _ => some target
  | _ => none

end AutomationAction

def flushSegment : List AutomationAction → List AutomationAction
  | [] => []
  | action :: rest =>
    if rest.any (fun candidate => candidate.target? == action.target?) then flushSegment rest
    else action :: flushSegment rest

mutual
def reduceLoop : List AutomationAction → List AutomationAction → List AutomationAction →
    List AutomationAction
  | [], segment, output => output ++ flushSegment segment
  | action :: rest, segment, output =>
    if action.isCommand then reduceLoop rest (segment ++ [action]) output
    else reduceLoop rest [] (output ++ flushSegment segment ++ [reduceNested action])

def reduceNested : AutomationAction → AutomationAction
  | .sequence actions => .sequence (reduceLoop actions [] [])
  | .if condition thenActions elseActions =>
    .if condition (reduceLoop thenActions [] []) (reduceLoop elseActions [] [])
  | .parallel branches maximumParallel => .parallel (reduceBranches branches) maximumParallel
  | .race branches maximumParallel => .race (reduceBranches branches) maximumParallel
  | .wait condition timeoutMs onTimeout => .wait condition timeoutMs (reduceFailure onTimeout)
  | .command target payload retry onFailure => .command target payload retry onFailure
  | .delay durationMs => .delay durationMs
  | .setVariable name value => .setVariable name value

def reduceBranches : List (List AutomationAction) → List (List AutomationAction)
  | [] => []
  | branch :: rest => reduceLoop branch [] [] :: reduceBranches rest

def reduceFailure : AutomationFailurePolicy → AutomationFailurePolicy
  | .fallback actions => .fallback (reduceLoop actions [] [])
  | .stopRun => .stopRun
  | .stopBranch => .stopBranch
  | .continue => .continue
end

def reduceActions (actions : List AutomationAction) : List AutomationAction :=
  reduceLoop actions [] []

end HomeMagic
