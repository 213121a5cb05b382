import ReqlLua.Failure
import ReqlLua.Job

/-! Attempts: jobs that may fail. -/

namespace ReqlLua

abbrev Attempt := ExceptT Failure Job

namespace Attempt

variable {α β : Type}

/-- A job that cannot fail. -/
def ofJob (job : Job α) : Attempt α := ExceptT.lift job

/-- A job whose own kind of fault makes the attempt fail. -/
def orFail (wrap : β → Failure) (job : Job (Except β α)) : Attempt α :=
  ExceptT.mk do return (← job).mapError wrap

/-- A result that is already there, and the fault that stands in its place. -/
def ofExcept (wrap : β → Failure) (result : Except β α) : Attempt α :=
  ExceptT.mk (.done (result.mapError wrap))

def report (event : Event) : Attempt Unit := ofJob (Job.report event)

end Attempt

end ReqlLua
