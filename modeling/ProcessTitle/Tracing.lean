import ProcessTitle.Config.Telemetry
import ProcessTitle.Proc.Environ
import ProcessTitle.Titler

/-!
# Exporting spans

Problems are logged, not raised.
-/

namespace ProcessTitle

namespace Tracing

def hexValue? (b : UInt8) : Option Nat :=
  if 48 ≤ b && b ≤ 57 then some (b.toNat - 48)
  else if 97 ≤ b && b ≤ 102 then some (b.toNat - 87)
  else if 65 ≤ b && b ≤ 70 then some (b.toNat - 55)
  else none

/-- Decodes the percent escapes of a path segment; a bad escape is refused with the escape as
written, at most three bytes of it. -/
def unescape : Bytes → Except Bytes Bytes
  | [] => .ok []
  | 37 :: rest =>
    match rest with
    | a :: b :: more =>
      match hexValue? a, hexValue? b with
      | some x, some y => (unescape more).map ((x * 16 + y).toUInt8 :: ·)
      | _, _ => .error [37, a, b]
    | _ => .error (37 :: rest)
  | c :: rest => (unescape rest).map (c :: ·)

def escapeFailure (escape : Bytes) : Bytes :=
  Bytes.ofString "invalid URL escape " ++ Quoted.quote escape

example : (unescape (Bytes.ofString "a%20b")).toOption = some (Bytes.ofString "a b") := by
  decide +kernel

abbrev Attributes := List (Bytes × Bytes)

def setAll (attrs : Attributes) (more : List (Bytes × Bytes)) : Attributes :=
  more.foldl (fun acc (k, v) => Environ.insertSorted k v acc) attrs

/-- The resource the environment describes, and the messages of its problems in the order they
are met. -/
def environmentResource (vars : Config.Vars) : Attributes × List Bytes :=
  let raw := Blank.trim ((Config.lookup vars "OTEL_RESOURCE_ATTRIBUTES").getD [])
  let service := Blank.trim ((Config.lookup vars "OTEL_SERVICE_NAME").getD [])
  if raw.isEmpty && service.isEmpty then ([], [])
  else
    let pieces := if raw.isEmpty then [] else Bytes.split raw [44]
    let (pairs, invalid, log) := pieces.foldl (fun (pairs, invalid, log) piece =>
        match Bytes.cut 61 piece with
        | none => (pairs, invalid ++ [piece], log)
        | some (k, v) =>
          match unescape (Blank.trim v) with
          | .ok value => (pairs ++ [(Blank.trim k, value)], invalid, log)
          | .error e => (pairs ++ [(Blank.trim k, v)], invalid, log ++ [escapeFailure e]))
      (([] : List (Bytes × Bytes)), ([] : List Bytes), ([] : List Bytes))
    let missing := if invalid.isEmpty then []
      else [Bytes.ofString "partial resource: missing value: [" ++ Bytes.join [32] invalid ++ [93]]
    let named := if service.isEmpty then [] else [(Bytes.ofString "service.name", service)]
    (setAll [] (pairs ++ named), log ++ missing)

/-- Why connecting to an address fails, for each address that cannot be reached. -/
abbrev Network := Bytes → Option Bytes

structure ExportRequest where
  endpoint : Bytes
  resource : Attributes
  span : Span

structure Exporter where
  endpoint : Bytes
  resource : Attributes

namespace Exporter

/-- Starts exporting for the settings: the exporter and the messages logged on the way, the
announcement first. -/
def start (c : Config.TelemetrySettings) (vars : Config.Vars) (versionInfo : Bytes) :
    Exporter × List Bytes :=
  let announce := Bytes.ofString "OTEL: exporting " ++ c.serviceName ++ Bytes.ofString " spans to " ++
    c.endpoint
  let (env, log) := environmentResource vars
  let own := [(Bytes.ofString "service.name", c.serviceName),
    (Bytes.ofString "service.version", versionInfo)] ++ c.attributes
  ({ endpoint := c.endpoint, resource := setAll env own }, announce :: log)

def send (e : Exporter) (net : Network) (span : Span) : Except Bytes ExportRequest :=
  match net e.endpoint with
  | some reason =>
    .error (Bytes.ofString "traces export: Post \"http://" ++ e.endpoint ++
      Bytes.ofString "/v1/traces\": dial tcp " ++ e.endpoint ++ Bytes.ofString ": " ++ reason)
  | none => .ok { endpoint := e.endpoint, resource := e.resource, span := span }

def sendAll (e : Exporter) (net : Network) (spans : List Span) : List ExportRequest × List Bytes :=
  spans.foldl (fun (sent, log) span =>
    match e.send net span with
    | .ok r => (sent ++ [r], log)
    | .error m => (sent, log ++ [m])) ([], [])

end Exporter

end Tracing

end ProcessTitle
