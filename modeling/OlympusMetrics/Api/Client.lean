import OlympusMetrics.Api.Server

/-!
The range methods of the API client.
-/

namespace OlympusMetrics.Api.Client

open Publisher

/-- `parseDate` of the client, which is the one of the server. -/
def parseDate (value : String) : Except String Calendar.CivilDate := Publisher.parseDate value

/-- A part of a range. -/
structure Chunk where
  start : String
  stop : String
  deriving DecidableEq

/-- The loop of `splitRange` from the day `cursor` on. -/
def chunksFrom (maxDays stop cursor : ℕ) : List (ℕ × ℕ) :=
  if cursor ≤ stop then
    let chunkEnd := min stop (cursor + (maxDays - 1))
    (cursor, chunkEnd) :: chunksFrom maxDays stop (chunkEnd + 1)
  else []
termination_by stop + 1 - cursor

def splitRange (start stop : String) (maxDays : ℕ) : Except String (List Chunk) := do
  if maxDays < 1 then
    .error ("maxRangeDays must be greater than zero, got " ++ toString maxDays)
  else
    let startDate ← parseDate start
    let stopDate ← parseDate stop
    if dayNumber stopDate < dayNumber startDate then
      .error "end must be greater than or equal to start"
    else
      .ok ((chunksFrom maxDays (dayNumber stopDate) (dayNumber startDate)).map (fun chunk =>
        { start := (ofDayNumber chunk.1).iso, stop := (ofDayNumber chunk.2).iso }))

structure DailyRangeInput where
  endpoint : V2Endpoint
  start : String
  stop : Option String

variable {N : Type}

/-- The data of a response, where `fetchJson` only lets through those with status 200. -/
def responseData {Data : Type} : ApiResponse Data → Except String Data
  | .ok data _ => .ok data
  | .error status _ _ => .error ("Metrics API request failed with status " ++ toString status)
  | .unanswered => .error "This operation was aborted"

/-- `fetchAutoPaginated` over a server that reports `bounds` and answers requests by `fetchData`. -/
def fetchAutoPaginated (bounds : Except String (String × ℕ))
    (fetchData : (request : V2Request) → Except String (List (MetricRow N request.endpoint.kind)))
    (input : DailyRangeInput) : Except String (List (MetricRow N input.endpoint.kind)) := do
  let (latestDate, maxRangeDays) ← bounds
  let chunks ← splitRange input.start (input.stop.getD latestDate) maxRangeDays
  let pages ← chunks.mapM (fun chunk =>
    fetchData { endpoint := input.endpoint, start := some chunk.start, stop := some chunk.stop })
  .ok pages.flatten

end OlympusMetrics.Api.Client
