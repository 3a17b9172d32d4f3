import TelemetrySpool.Telemetry.AnyValue

/-!
# Where telemetry comes from

A resource describes what produced telemetry, such as a service, and a scope describes the
instrumentation in it. Both carry attributes, and a resource may also refer to entities.
-/

namespace TelemetrySpool

/-- A reference to an entity by the keys of attributes. -/
structure EntityRef where
  schemaUrl : String := ""
  type : String := ""
  idKeys : List String := []
  descriptionKeys : List String := []

/-- The schema of references to entities. -/
def EntityRef.schema : Schema EntityRef where
  initial := {}
  strict := true
  fields := [
    ⟨"schemaUrl", 1, .scalar .text, (·.schemaUrl), fun v m => { m with schemaUrl := v }⟩,
    ⟨"type", 2, .scalar .text, (·.type), fun v m => { m with type := v }⟩,
    ⟨"idKeys", 3, (Format.scalar .text).list, (·.idKeys), fun v m => { m with idKeys := v }⟩,
    ⟨"descriptionKeys", 4, (Format.scalar .text).list, (·.descriptionKeys),
      fun v m => { m with descriptionKeys := v }⟩]

/-- What produced telemetry. -/
structure Resource where
  attributes : List KeyValue := []
  droppedAttributesCount : UInt32 := 0
  entityRefs : List EntityRef := []

/-- The schema of resources. -/
def Resource.schema : Schema Resource where
  initial := {}
  strict := false
  fields := [
    ⟨"attributes", 1, KeyValue.listFormat, (·.attributes), fun v m => { m with attributes := v }⟩,
    ⟨"droppedAttributesCount", 2, .scalar .uint32, (·.droppedAttributesCount),
      fun v m => { m with droppedAttributesCount := v }⟩,
    ⟨"entityRefs", 3, EntityRef.schema.format.list, (·.entityRefs),
      fun v m => { m with entityRefs := v }⟩]

/-- The instrumentation that produced telemetry. -/
structure Scope where
  name : String := ""
  version : String := ""
  attributes : List KeyValue := []
  droppedAttributesCount : UInt32 := 0

/-- The schema of scopes. -/
def Scope.schema : Schema Scope where
  initial := {}
  strict := false
  fields := [
    ⟨"name", 1, .scalar .text, (·.name), fun v m => { m with name := v }⟩,
    ⟨"version", 2, .scalar .text, (·.version), fun v m => { m with version := v }⟩,
    ⟨"attributes", 3, KeyValue.listFormat, (·.attributes), fun v m => { m with attributes := v }⟩,
    ⟨"droppedAttributesCount", 4, .scalar .uint32, (·.droppedAttributesCount),
      fun v m => { m with droppedAttributesCount := v }⟩]

end TelemetrySpool
