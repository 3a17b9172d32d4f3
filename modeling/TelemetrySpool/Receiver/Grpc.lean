import TelemetrySpool.Receiver.Basic

/-!
# Requests over gRPC

Each signal has a service that takes decoded requests. A request that is not stored ends with a
status: an internal error if it is of another signal or every sink failed, and unavailability if it
was cancelled.
-/

namespace TelemetrySpool

/-- The codes with which a call can fail. -/
inductive GrpcCode where
  | internal
  | unavailable
  deriving DecidableEq, Repr

/-- How a call failed. -/
structure GrpcStatus where
  code : GrpcCode
  message : String
  deriving DecidableEq, Repr

namespace GrpcStatus

/-- The status of a request that becomes no record. -/
def rejected (signal : Signal) (error : PipelineError) : GrpcStatus :=
  ⟨.internal, "Failed to process " ++ signal.name ++ ": " ++ error.message⟩

/-- The status of a request that no sink stored for good though it was tried. -/
def allFailed (signal : Signal) : GrpcStatus :=
  ⟨.internal, "Failed to persist " ++ signal.name ++ ": all sinks failed"⟩

/-- The status of a request that was cancelled. -/
def interrupted (signal : Signal) : GrpcStatus :=
  ⟨.unavailable, "Shutting down, " ++ signal.name ++ " were not persisted"⟩

end GrpcStatus

namespace Receiver

/-- Takes a call of the service of a signal. -/
def call (signal : Signal) (request : Request) : Work (Except GrpcStatus Unit) := do
  match ← write request signal with
  | .error error => do
    announce .error "Rejected OTLP request"
      [("signal", .text signal.name), ("error", .text error.message)]
    pure (.error (.rejected signal error))
  | .ok report =>
    if report.allFailed then do
      announce .error "Every sink failed"
        [("signal", .text signal.name), ("failed", .number report.failed)]
      pure (.error (.allFailed signal))
    else if report.interrupted then do
      announce .warn "Request cancelled before it was persisted" [("signal", .text signal.name)]
      pure (.error (.interrupted signal))
    else pure (.ok ())

end Receiver

end TelemetrySpool
