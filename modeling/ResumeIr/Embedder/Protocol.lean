import ResumeIr.CoreDomain.Text
import ResumeIr.Foundation.Fallible

/-!
# The embedding protocol

The supervisor and its worker process exchange frames: requests with a few texts, and
responses with one vector for each text. Both sides check what they read.

The components of a vector are of an arbitrary type, of which only the finite ones may
be sent. Frames are values here; how they are encoded is left out.
-/

namespace ResumeIr.Embedder

open CoreDomain Foundation.Fallible

/-! ## Inputs and vectors -/

inductive EmbeddingError where
  | invalidDimension
  | invalidRequest
  | workerUnavailable
  | engineFailed
  | overloaded
  | cancelled
  | timeout
  | budgetExceeded (limit actual : Nat)
  | textBudgetExceeded (limit actual : Nat)
  deriving DecidableEq

inductive EmbeddingRole where
  | query
  | passage
  deriving DecidableEq

structure EmbeddingInput where
  id : String
  role : EmbeddingRole
  text : String
  deriving DecidableEq

structure EmbeddingBudget where
  maxInputs : Nat
  maxTextBytes : Nat

structure EmbeddingVector (F : Type) where
  id : String
  modelId : String
  values : List F
  nonempty : values ≠ []

def EmbeddingVector.new {F : Type} (id modelId : String) (values : List F) :
    Except EmbeddingError (EmbeddingVector F) :=
  if nonempty : values ≠ [] then .ok ⟨id, modelId, values, nonempty⟩ else .error .invalidDimension

def validateEmbeddingInput (budget : EmbeddingBudget) (input : EmbeddingInput) :
    Except EmbeddingError Unit := do
  check (trim input.id ≠ "" ∧ '\n' ∉ input.id.toList ∧ '\r' ∉ input.id.toList ∧
    '\t' ∉ input.id.toList) .invalidRequest
  check (input.text.utf8ByteSize ≤ budget.maxTextBytes)
    (.textBudgetExceeded budget.maxTextBytes input.text.utf8ByteSize)

def validateEmbeddingInputs (inputs : List EmbeddingInput) (budget : EmbeddingBudget) :
    Except EmbeddingError Unit := do
  check (inputs.length ≤ budget.maxInputs) (.budgetExceeded budget.maxInputs inputs.length)
  inputs.forM (validateEmbeddingInput budget)

/-! ## Requests -/

def schemaVersion : String := "resume-ir.embedding-stream.v1"

def maxInputs : Nat := 4

def maxTextBytes : Nat := 65536

def maxModelIdBytes : Nat := 128

def isAsciiControl (c : Char) : Bool := c.toNat < 0x20 || c.toNat == 0x7f

def identityValid (schema modelId : String) (dimension : Nat) : Bool :=
  decide (schema = schemaVersion) && decide (modelId ≠ "")
    && decide (modelId.utf8ByteSize ≤ maxModelIdBytes) && !modelId.toList.any isAsciiControl
    && decide (dimension ≠ 0)

structure ResidentInput where
  role : EmbeddingRole
  text : String
  deriving DecidableEq

structure EmbedRequest where
  schemaVersion : String
  requestId : Nat
  modelId : String
  dimension : Nat
  inputs : List ResidentInput
  deriving DecidableEq

namespace EmbedRequest

def new (requestId : Nat) (modelId : String) (dimension : Nat) (inputs : List ResidentInput) :
    EmbedRequest :=
  ⟨Embedder.schemaVersion, requestId, modelId, dimension, inputs⟩

/-- `validate`. -/
def valid (request : EmbedRequest) : Bool :=
  identityValid request.schemaVersion request.modelId request.dimension
    && decide (request.inputs ≠ []) && decide (request.inputs.length ≤ maxInputs)
    && request.inputs.all fun input => decide (input.text.utf8ByteSize ≤ maxTextBytes)

end EmbedRequest

/-! ## Responses -/

def u64Max : Nat := 2 ^ 64 - 1

structure EmbeddingTelemetry where
  inputCount : Nat
  activeTokenCount : Nat
  paddedTokenCount : Nat
  tokenizeUs : Nat
  tensorUs : Nat
  onnxUs : Nat
  poolUs : Nat
  normalizeUs : Nat
  childTotalUs : Nat
  queueWaitUs : Nat
  ipcWallUs : Nat
  deriving DecidableEq, Inhabited

namespace EmbeddingTelemetry

/-- The sum of the phases, which saturates. -/
def phaseTotal (telemetry : EmbeddingTelemetry) : Nat :=
  min u64Max (telemetry.tokenizeUs + telemetry.tensorUs + telemetry.onnxUs + telemetry.poolUs
    + telemetry.normalizeUs)

/-- `validate`. Measurements that were not taken are all zero. -/
def valid (telemetry : EmbeddingTelemetry) (expectedInputCount : Nat) : Bool :=
  decide (telemetry = ⟨0, 0, 0, 0, 0, 0, 0, 0, 0, 0, 0⟩) ||
    (decide (telemetry.inputCount = expectedInputCount)
      && decide (telemetry.activeTokenCount ≤ telemetry.paddedTokenCount)
      && decide (telemetry.phaseTotal ≤ telemetry.childTotalUs))

end EmbeddingTelemetry

inductive ResidentErrorCode where
  | invalidRequest
  | identityMismatch
  | inferenceFailed
  | outputInvalid
  | runtimeUnavailable
  deriving DecidableEq

inductive ResidentResponse (F : Type) where
  | ready (schema modelId : String) (dimension : Nat)
  | result (schema : String) (requestId : Nat) (vectors : List (List F))
      (telemetry : EmbeddingTelemetry)
  | error (schema : String) (requestId : Option Nat) (code : ResidentErrorCode) (retryable : Bool)
  deriving DecidableEq

namespace ResidentResponse

variable {F : Type} (finite : F → Bool)

/-- `validate_ready`. -/
def validReady (modelId : String) (dimension : Nat) : ResidentResponse F → Bool
  | .ready schema actualModelId actualDimension =>
      identityValid schema actualModelId actualDimension
        && decide (actualModelId = modelId) && decide (actualDimension = dimension)
  | _ => false

/-- `validate_result`. -/
def validResult (requestId inputCount dimension : Nat) : ResidentResponse F → Bool
  | .result schema actualRequestId vectors telemetry =>
      decide (schema = schemaVersion) && decide (actualRequestId = requestId)
        && decide (vectors.length = inputCount)
        && vectors.all (fun vector => decide (vector.length = dimension) && vector.all finite)
        && telemetry.valid inputCount
  | _ => false

/-- A number that is not finite is not sent as a number. -/
def readable : ResidentResponse F → Bool
  | .result _ _ vectors _ => vectors.all fun vector => vector.all finite
  | _ => true

end ResidentResponse

/-! ## The worker -/

/-- What the model returns for a batch of texts. -/
structure ResidentBatchOutput (F : Type) where
  vectors : List (List F)
  telemetry : EmbeddingTelemetry

def prefixedResidentText (input : ResidentInput) : String :=
  match input.role with
  | .query => "query: " ++ input.text
  | .passage => "passage: " ++ input.text

/-- The texts that the model is given for a request. -/
def EmbedRequest.texts (request : EmbedRequest) : List String :=
  request.inputs.map prefixedResidentText

def residentSuccessResponse {F : Type} (request : EmbedRequest) (output : ResidentBatchOutput F) :
    ResidentResponse F :=
  .result schemaVersion request.requestId output.vectors output.telemetry

/-- What a worker answers without running the model. -/
def requestRefusal {F : Type} (modelId : String) (dimension : Nat) (request : EmbedRequest) :
    Option (ResidentResponse F) :=
  if !request.valid then
    some (.error schemaVersion (some request.requestId) .invalidRequest false)
  else if request.modelId ≠ modelId ∨ request.dimension ≠ dimension then
    some (.error schemaVersion (some request.requestId) .identityMismatch false)
  else none

end ResumeIr.Embedder
