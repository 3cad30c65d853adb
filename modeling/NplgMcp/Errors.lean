import Mathlib.Data.Nat.Notation

/-!
# Public errors

`AppError` of `errors.py`, with the codes it is raised with. What is only logged is left out.
-/

namespace NplgMcp

/-- `ErrorCode`. -/
inductive ErrorCode where
  | invalidInput
  | notFound
  | restricted
  | upstreamFailure
  | downloadTooLarge
  | invalidDocument
  | pdfProcessingFailed
  | rateLimited
  | requestTimeout
  | cacheFull
  | unauthorized
  | internalError
  deriving DecidableEq, Repr

/-- `AppError`: `safe_details` is a mapping of strings in all the errors modelled here. -/
structure AppError where
  code : ErrorCode
  message : String
  httpStatus : ℕ := 400
  safeDetails : Option (List (String × String)) := none
  deriving DecidableEq, Repr

end NplgMcp
