import TelemetrySpool.Sink.File

/-!
# Outlets

Where records go: into the files of a store, onto a console, and into memory. File sinks and
consoles are what a receiver sets up. The sinks that keep records in memory, or that end every write
in the same way, take the place of others when a pipeline is tried out.
-/

namespace TelemetrySpool

/-- The state that sinks act on. -/
structure Outlets where
  store : Store
  /-- What has been printed on the console. -/
  printed : String := ""
  /-- The records kept in memory, each with the number of its keeper, the last one first. -/
  kept : List (Nat × Record) := []

namespace Outlets

/-- Work on the store as work on all outlets. -/
def onStore {α : Type} (task : StoreTask α) : Task Outlets SinkError α := fun o =>
  let done := task o.store
  ⟨(done.value.1, { o with store := done.value.2 }), done.events⟩

/-- Prints text on the console. -/
def print (text : String) : Task Outlets SinkError Unit :=
  Task.change fun o => { o with printed := o.printed ++ text }

/-- Keeps a record in memory. -/
def keep (number : Nat) (record : Record) : Task Outlets SinkError Unit :=
  Task.change fun o => { o with kept := (number, record) :: o.kept }

/-- The records of a keeper, in the order in which it took them. -/
def keptBy (o : Outlets) (number : Nat) : List Record :=
  o.kept.reverse.filterMap fun (keeper, record) => if keeper = number then some record else none

end Outlets

namespace Color

/-- The number of a color in terminal codes. -/
def code : Color → String
  | red => "1"
  | green => "2"
  | yellow => "3"
  | cyan => "6"
  | white => "7"

end Color

namespace Record

/-- The line of a record on the console, between terminal codes if it is colored. -/
def printedLine (record : Record) (colored : Bool) (offset : Instant → Int) : String :=
  if colored then
    "\x1b[0m\x1b[3" ++ record.color.code ++ "m" ++ record.consoleLine offset ++ "\x1b[0m\n"
  else record.consoleLine offset ++ "\n"

end Record

namespace Sink

/-- The sink that writes files. -/
def file (sink : FileSink) : Sink Outlets where
  name := sink.stream.sinkName
  durable := true
  write record cancelled := Outlets.onStore (sink.write record cancelled)

/-- The sink that prints records in local time. -/
def console (colored : Bool) (offset : Instant → Int) : Sink Outlets where
  name := "console"
  durable := false
  write record _ := Outlets.print (record.printedLine colored offset)

/-- A sink that keeps records in memory. -/
def memory (name : String) (durable : Bool) (number : Nat) : Sink Outlets where
  name
  durable
  write record _ := Outlets.keep number record

/-- A sink that keeps records in memory unless their request was cancelled. -/
def cancellable (name : String) (durable : Bool) (number : Nat) : Sink Outlets where
  name
  durable
  write record cancelled :=
    if cancelled then Task.fail .cancelled else Outlets.keep number record

/-- A sink that fails always for the same cause. -/
def failing (name : String) (durable : Bool) (error : SinkError) : Sink Outlets where
  name
  durable
  write _ _ := Task.fail error

end Sink

end TelemetrySpool
