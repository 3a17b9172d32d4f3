import TelemetrySpool.Record
import TelemetrySpool.Sink.Error
import TelemetrySpool.Task

/-!
# Sinks

A sink takes records, one at a time, and acts on a state that it may share with others. A sink is
durable if a record that it has taken is stored for good.
-/

namespace TelemetrySpool

/-- Something that takes records. -/
structure Sink (σ : Type) where
  name : String
  /-- Whether records that it takes are stored for good. -/
  durable : Bool
  /-- Takes a record; the truth value says whether its request was cancelled. -/
  write : Record → (cancelled : Bool) → Task σ SinkError Unit

/-- A sink with the filters that a record has to pass to reach it. -/
structure Registered (σ : Type) where
  sink : Sink σ
  filters : List Filter

namespace Registered

/-- A sink with its filters, which let every record pass if there are none. -/
def ofFilters {σ : Type} (sink : Sink σ) (filters : List Filter) : Registered σ :=
  ⟨sink, if filters = [] then [.all] else filters⟩

/-- Whether a record passes all filters. -/
def admits {σ : Type} (r : Registered σ) (record : Record) : Bool :=
  r.filters.all (·.accepts record)

end Registered

end TelemetrySpool
