import StackSampler.Time.Span

/-!
# Trigger errors

A trigger decides when ticks run. Installing one hands it a tick and an interval; it can fail for
these causes. An interval of zero installs a trigger without ever firing it.
-/

namespace StackSampler

/-- Why a trigger was not installed. -/
inductive TriggerError where
  | handlerInstall (reason : String)
  | timerArm (reason : String)
  | invalidInterval (interval : Span)
  | threadSpawn (reason : String)
  | busy
  | refused
  deriving DecidableEq, Repr

def TriggerError.message : TriggerError → String
  | .handlerInstall reason => s!"Failed to install signal handler: {reason}"
  | .timerArm reason => s!"Failed to arm interval timer: {reason}"
  | .invalidInterval interval => "Interval " ++ interval.text ++ " does not fit the host timer"
  | .threadSpawn reason => s!"Failed to spawn sampling thread: {reason}"
  | .busy => "Trigger already owned by another profiler"
  | .refused => "Trigger refused installation"

end StackSampler
