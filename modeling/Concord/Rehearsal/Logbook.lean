import Concord.Execution

/-!
# An executor that keeps a logbook

The logbook executor notes which proposals it was handed. Three tags make it refuse in each
of the possible ways, and one makes it keep its handle to itself, so that rehearsals reach
every outcome.
-/

namespace Concord.Rehearsal

/-- The place in the order of each proposal carried out, in the order of execution. -/
abbrev Logbook := List OrderKey

/-- Note a proposal and give the length of the logbook as the handle of a local one. -/
def logbookExecutor : Executor Logbook Nat where
  execute log proposal :=
    let code := proposal.tag.toInt
    if code = -1 then (.error (.unknownOperation proposal.tag), log)
    else if code = -2 then (.error (.invalidPayload proposal.tag "scripted"), log)
    else if code = -3 then (.error (.failed "scripted"), log)
    else
      let extended := log ++ [proposal.key]
      let handle := if proposal.isLocal ∧ code ≠ 77 then some extended.length else none
      (.ok handle, extended)

end Concord.Rehearsal
