import ProcessTitle.Config.Vars
import ProcessTitle.Text.Utf8
import ProcessTitle.Text.Edit

/-!
# Telemetry settings

Tracing is on only when an endpoint is given; the traces endpoint wins over the general one.
-/

namespace ProcessTitle

namespace Config

structure TelemetrySettings where
  serviceName : Bytes
  resourceAttributes : Bytes
  exporterEndpoint : Bytes
  tracesEndpoint : Bytes
deriving Repr

namespace TelemetrySettings

def read (vars : Vars) : TelemetrySettings :=
  { serviceName := (Config.read vars "OTEL_SERVICE_NAME" (some "proctitle")).getD [],
    resourceAttributes := (Config.read vars "OTEL_RESOURCE_ATTRIBUTES" (some "")).getD [],
    exporterEndpoint := (Config.read vars "OTEL_EXPORTER_OTLP_ENDPOINT" (some "")).getD [],
    tracesEndpoint := (Config.read vars "OTEL_EXPORTER_OTLP_TRACES_ENDPOINT" (some "")).getD [] }

def enabled (c : TelemetrySettings) : Bool :=
  !c.tracesEndpoint.isEmpty || !c.exporterEndpoint.isEmpty

def endpoint (c : TelemetrySettings) : Bytes :=
  if !c.tracesEndpoint.isEmpty then c.tracesEndpoint
  else if !c.exporterEndpoint.isEmpty then c.exporterEndpoint
  else Bytes.ofString "localhost:4318"

/-- The resource attributes, in order: each comma-separated piece is trimmed and cut at its
first `=`; pieces without `=` and empty keys are skipped; keys and values are trimmed. -/
def attributes (c : TelemetrySettings) : List (Bytes × Bytes) :=
  if c.resourceAttributes.isEmpty then []
  else (Bytes.split c.resourceAttributes [44]).filterMap fun piece =>
    match Bytes.cut 61 (Blank.trim piece) with
    | none => none
    | some (k, v) =>
      let key := Blank.trim k
      if key.isEmpty then none else some (key, Blank.trim v)

end TelemetrySettings

end Config

end ProcessTitle
