import ResumeIr.CoreDomain.Text

/-!
# The model contract of a vector generation

A vector generation is bound to the model its vectors were computed with, or to
no model at all. A disabled generation still carries the complete projection
but holds no vectors.
-/

namespace ResumeIr.IndexVector

open CoreDomain

def maxVectorDimension : Nat := 65536

def maxModelIdChars : Nat := 128

/-- The model a generation is bound to. -/
inductive VectorModelContract where
  | disabled
  | enabled (modelId : String) (dimension : Nat)
  deriving DecidableEq

inductive VectorIndexError where
  | invalidDimension (expected actual : Nat)
  | invalidVectorValue
  | invalidModelId
  | invalidIdentity
  | invalidGeneration
  | invalidModelContract
  | publicationProjectionMismatch
  | duplicateVectorId
  | conflictingDocumentVersion
  | generationAlreadyExists
  | generationNotFound
  | corruptSnapshot
  | cancelled
  | semanticUnavailable
  deriving DecidableEq

def validateModelId (modelId : String) : Except VectorIndexError Unit :=
  if modelId.length = 0 ∨ maxModelIdChars < modelId.length ∨ modelId.toList.any isControl then
    .error .invalidModelId
  else .ok ()

def VectorModelContract.validate : VectorModelContract → Except VectorIndexError Unit
  | .disabled => .ok ()
  | .enabled modelId dimension => do
      validateModelId modelId
      if dimension = 0 then .error (.invalidDimension 1 0)
      else if maxVectorDimension < dimension then
        .error (.invalidDimension maxVectorDimension dimension)
      else .ok ()

end ResumeIr.IndexVector
