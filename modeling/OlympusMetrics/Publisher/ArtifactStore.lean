import OlympusMetrics.Library.Process
import Mathlib.Data.List.AList
import Mathlib.Data.List.Sort

/-!
The artifact store and the objects that the publisher keeps in it.

Every operation of the store is atomic. An etag is the quoted hash of the
object's serialization. Times are milliseconds since the epoch.
-/

namespace OlympusMetrics.Publisher

/-- The three kinds of data shards. -/
inductive ArtifactKind
  | metrics | treasuryAssets | ohmSupply
  deriving DecidableEq

/-- The path component of a kind. -/
def ArtifactKind.path : ArtifactKind → String
  | .metrics => "metrics"
  | .treasuryAssets => "treasury-assets"
  | .ohmSupply => "ohm-supply"

/-- The kinds in the order in which the publisher writes them. -/
def ArtifactKind.all : List ArtifactKind := [.metrics, .treasuryAssets, .ohmSupply]

/-- Rows that carry a date. -/
class Dated (α : Type) where
  date : α → String

structure ArtifactEntry where
  sha256 : String
  byteLength : ℕ
  rowCount : ℕ
  deriving DecidableEq

/-- A JSON object with values in `V`. -/
abbrev JsonRecord (V : Type) := AList (fun _ : String => V)

structure ChainIndexingProgress where
  block : ℕ
  date : String
  timestamp : ℕ
  deriving DecidableEq

/-- The progress of every chain, by its name. -/
abbrev IndexingProgress := List (String × ChainIndexingProgress)

structure Manifest where
  schemaVersion : String
  generatedAt : ℕ
  indexerDeploymentId : Option String
  indexingProgress : Option IndexingProgress
  earliestDate : String
  latestDate : String
  artifacts : JsonRecord ArtifactEntry

inductive LockOperation
  | initialBackfill | incrementalRefresh
  deriving DecidableEq

structure PublisherLock where
  runId : String
  startedAt : ℕ
  expiresAt : ℕ
  operation : LockOperation
  deriving DecidableEq

/-- The objects that the publisher writes. A schema document is fixed by its key. -/
inductive Artifact (Row : ArtifactKind → Type)
  | manifest (manifest : Manifest)
  | lock (lock : PublisherLock)
  | schema (key : String)
  | shard (kind : ArtifactKind) (rows : List (Row kind))

/-- What hashing and measuring the serialization of an object gives. -/
structure Serialization (Row : ArtifactKind → Type) where
  sha256 : Artifact Row → String
  byteLength : Artifact Row → ℕ

variable {Row : ArtifactKind → Type}

def Serialization.artifactEntry (json : Serialization Row) (value : Artifact Row) (rowCount : ℕ) :
    ArtifactEntry where
  sha256 := json.sha256 value
  byteLength := json.byteLength value
  rowCount := rowCount

def Serialization.etag (json : Serialization Row) (value : Artifact Row) : String :=
  "\"" ++ json.sha256 value ++ "\""

inductive PublishError
  | artifactNotFound (key : String)
  | metricsNotDataReady
  | error (message : String)
  deriving DecidableEq

/-- The operations of `ArtifactStore`. -/
inductive StoreOp (Row : ArtifactKind → Type)
  | getJson (key : String)
  | getJsonWithMetadata (key : String)
  | putJson (key : String) (value : Artifact Row)
  | putJsonIfAbsent (key : String) (value : Artifact Row)
  | putJsonIfMatch (key : String) (value : Artifact Row) (etag : String)
  | listKeys (keyPrefix : String)
  | deleteJson (key : String)
  | deleteJsonIfMatch (key etag : String)

/-- What an operation resolves to. -/
def StoreOp.Answer : StoreOp Row → Type
  | .getJson _ => Artifact Row
  | .getJsonWithMetadata _ => Artifact Row × Option String
  | .putJson _ _ => Unit
  | .putJsonIfAbsent _ _ => Bool
  | .putJsonIfMatch _ _ _ => Bool
  | .listKeys _ => List String
  | .deleteJson _ => Unit
  | .deleteJsonIfMatch _ _ => Bool

/-- A program over the store. -/
abbrev PublisherProcess (Row : ArtifactKind → Type) :=
  Process (StoreOp Row) StoreOp.Answer PublishError

/-- The stored objects by key. -/
abbrev Objects (Row : ArtifactKind → Type) := AList (fun _ : String => Artifact Row)

def startsWith (key keyPrefix : String) : Bool := keyPrefix.toList.isPrefixOf key.toList

/-- `MemoryArtifactStore`: what each operation answers and leaves. -/
def memoryStore (json : Serialization Row) (objects : Objects Row) :
    (op : StoreOp Row) → Except PublishError op.Answer × Objects Row
  | .getJson key =>
      match objects.lookup key with
      | none => (.error (.artifactNotFound key), objects)
      | some value => (.ok value, objects)
  | .getJsonWithMetadata key =>
      match objects.lookup key with
      | none => (.error (.artifactNotFound key), objects)
      | some value => (.ok (value, some (json.etag value)), objects)
  | .putJson key value => (.ok (), objects.insert key value)
  | .putJsonIfAbsent key value =>
      match objects.lookup key with
      | some _ => (.ok false, objects)
      | none => (.ok true, objects.insert key value)
  | .putJsonIfMatch key value etag =>
      match objects.lookup key with
      | none => (.ok false, objects)
      | some existing =>
          if json.etag existing = etag then (.ok true, objects.insert key value)
          else (.ok false, objects)
  | .listKeys keyPrefix =>
      (.ok ((objects.keys.filter (fun key => startsWith key keyPrefix)).insertionSort (· ≤ ·)),
        objects)
  | .deleteJson key => (.ok (), objects.erase key)
  | .deleteJsonIfMatch key etag =>
      match objects.lookup key with
      | none => (.ok false, objects)
      | some existing =>
          if json.etag existing = etag then (.ok true, objects.erase key)
          else (.ok false, objects)

/-! ### Calls -/

def getJson (key : String) : PublisherProcess Row (Artifact Row) := .await (StoreOp.getJson key)

def getJsonWithMetadata (key : String) : PublisherProcess Row (Artifact Row × Option String) :=
  .await (StoreOp.getJsonWithMetadata key)

def putJson (key : String) (value : Artifact Row) : PublisherProcess Row Unit :=
  .await (StoreOp.putJson key value)

def putJsonIfAbsent (key : String) (value : Artifact Row) : PublisherProcess Row Bool :=
  .await (StoreOp.putJsonIfAbsent key value)

def putJsonIfMatch (key : String) (value : Artifact Row) (etag : String) :
    PublisherProcess Row Bool :=
  .await (StoreOp.putJsonIfMatch key value etag)

def listKeys (keyPrefix : String) : PublisherProcess Row (List String) :=
  .await (StoreOp.listKeys keyPrefix)

def deleteJson (key : String) : PublisherProcess Row Unit := .await (StoreOp.deleteJson key)

def deleteJsonIfMatch (key etag : String) : PublisherProcess Row Bool :=
  .await (StoreOp.deleteJsonIfMatch key etag)

/-- `undefined` in place of an object that is not found. -/
def orNotFound {α : Type} (p : PublisherProcess Row α) : PublisherProcess Row (Option α) :=
  Process.tryCatch (p.bind (fun value => .ret (some value))) (fun error =>
    match error with
    | .artifactNotFound _ => .ret none
    | error => .throw error)

end OlympusMetrics.Publisher
