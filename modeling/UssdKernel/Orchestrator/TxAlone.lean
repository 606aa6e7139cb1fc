import UssdKernel.Orchestrator.TxStatements

/-!
# The statements of a call that runs alone

Between `BeginTx` and `Commit` no other call comes in, the snapshot is the
committed store, and no commit conflicts.  The statements then answer and
leave what the call with the atomic transaction of `AppendEvent` does, whichever
of them fails.
-/

namespace UssdKernel.KeyClaims

open Programs EventStore SessionHistory AppendOutcome

/-- The same answer, and the same committed tables. -/
def Agrees {ι : Type} (answer : Except AppendError AppendEventResult × Server ι)
    (outcome : Except AppendError AppendEventResult × Database) : Prop :=
  answer.1 = outcome.1 ∧ answer.2.db = outcome.2

section Alone

variable {ι : Type} [DecidableEq ι] (sha256 : Bytes → Bytes)
  (marshal : Payload → Except String Bytes)

variable {sha256 marshal} {env : CallEnv} {command : AppendEventCommand}
  {call : ι} {server : Server ι} {db : Database}

variable (env command call server) (failing : FailingStatement)

end Alone

end UssdKernel.KeyClaims
