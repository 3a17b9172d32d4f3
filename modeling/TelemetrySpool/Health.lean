/-!
# Health

The health of a pipeline is how many sink failures followed one another, how many there have been,
and the text of the last one. A success ends a run of failures and forgets its text; without such a
run it changes nothing.
-/

namespace TelemetrySpool

/-- The failures of sinks. -/
structure Health where
  /-- Failures since the last success. -/
  consecutive : Nat := 0
  /-- Failures since the start. -/
  total : Nat := 0
  /-- The text of the last failure, until a success follows. -/
  lastError : Option String := none
  deriving DecidableEq, Repr

namespace Health

/-- Counts a failure. -/
def fail (health : Health) (error : String) : Health :=
  ⟨health.consecutive + 1, health.total + 1, some error⟩

/-- Ends a run of failures. -/
def succeed (health : Health) : Health :=
  if 0 < health.consecutive then { health with consecutive := 0, lastError := none } else health

/-- Whether failures have followed the last success. -/
def isDegraded (health : Health) : Bool := 0 < health.consecutive

/-- After a failure health is degraded. -/
theorem isDegraded_fail (health : Health) (error : String) : (health.fail error).isDegraded := by
  simp [fail, isDegraded]

/-- After a success health is not degraded. -/
theorem isDegraded_succeed (health : Health) : health.succeed.isDegraded = false := by
  unfold succeed isDegraded
  split <;> simp_all

end Health

end TelemetrySpool
