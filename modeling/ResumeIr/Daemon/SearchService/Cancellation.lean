import ResumeIr.Daemon.SearchService.Queue

/-!
# Cancel tokens

A client may name its request by a cancel token. The registry finds the control
of a request that is under way by its token, and remembers the status of the
requests that ended last.
-/

namespace ResumeIr.Daemon.SearchService

def cancelHistoryLimit : Nat := 128

inductive CancelStatus where
  | cancelled
  | cancelRequested
  | complete
  deriving DecidableEq

structure CancellationRegistryState where
  active : String → Option RequestRef
  terminal : String → Option CancelStatus
  terminalOrder : List String

inductive RegistryLookup where
  | active (control : RequestRef)
  | terminal (status : CancelStatus)
  deriving DecidableEq

namespace CancellationRegistryState

def default : CancellationRegistryState := ⟨fun _ => none, fun _ => none, []⟩

variable (state : CancellationRegistryState)

/-- Nothing when the token is known, be it active or remembered. -/
def register (token : String) (control : RequestRef) : Option CancellationRegistryState :=
  if (state.active token).isSome || (state.terminal token).isSome then none
  else some { state with active := Function.update state.active token (some control) }

/-- The registration of a request, which may come without a token. -/
def registerRequest (token : Option String) (control : RequestRef) : Option
    CancellationRegistryState :=
  match token with
  | none => some state
  | some token => state.register token control

def lookup (token : String) : RegistryLookup :=
  match state.active token with
  | some control => .active control
  | none => .terminal ((state.terminal token).getD .complete)

/-- Forget the oldest tokens beyond the limit. -/
def forgetOldest : CancellationRegistryState :=
  let excess := state.terminalOrder.length - cancelHistoryLimit
  { state with
    terminal := (state.terminalOrder.take excess).foldl
      (fun terminal expired => Function.update terminal expired none) state.terminal
    terminalOrder := state.terminalOrder.drop excess }

def complete (token : Option String) (status : CancelStatus) : CancellationRegistryState :=
  match token with
  | none => state
  | some token =>
      forgetOldest
        { active := Function.update state.active token none
          terminal := Function.update state.terminal token (some status)
          terminalOrder := state.terminalOrder ++ [token] }

end CancellationRegistryState

end ResumeIr.Daemon.SearchService
