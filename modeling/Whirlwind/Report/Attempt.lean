import Whirlwind.Report.Failure

/-!
# Attempts

A step outside a tool that goes wrong fails the run of the tool, in a way that
tells what the step was for.
-/

namespace Whirlwind

/-- Do something, and fail in a given way if it goes wrong. -/
def attempt {Effect : Type → Type} [Monad Effect] {Result : Type}
    (failure : IoError → Failure)
    (action : Effect (Except IoError Result)) :
    ExceptT Failure Effect Result := do
  match ← (action : ExceptT Failure Effect _) with
  | .ok result => return result
  | .error error => throw (failure error)

end Whirlwind
