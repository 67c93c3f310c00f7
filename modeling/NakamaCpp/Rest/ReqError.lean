import NakamaCpp.Rest.ClientOp

/-!
# Errors of client requests

`NError` of include/nakama-cpp/NError.h, and what `RestClient` and `GrpcClient` share
when a request has failed: the codes they take from gRPC, `reqError`, which finds somebody
to tell, and the check for a null session.
-/

namespace NakamaCpp.Rest

inductive ErrorCode
  | unknown
  | notFound
  | alreadyExists
  | invalidArgument
  | unauthenticated
  | permissionDenied
  | connectionError
  | internalError
  | cancelledByUser
deriving DecidableEq, Repr

structure NError where
  message : String := ""
  code : ErrorCode := .unknown
deriving DecidableEq, Repr

/-- The `grpc::StatusCode` values that have an error code of their own. -/
def grpcErrorCode (statusCode : Int) : Option ErrorCode :=
  match statusCode with
  | 14 => some .connectionError
  | 13 => some .internalError
  | 5 => some .notFound
  | 6 => some .alreadyExists
  | 3 => some .invalidArgument
  | 16 => some .unauthenticated
  | 7 => some .permissionDenied
  | _ => none

/-- A call into user code: a callback of the request with the given number, or
`_defaultErrorCallback`. -/
inductive ClientCall
  | success (request : Nat)
  | error (request : Nat) (error : NError)
  | defaultError (error : NError)
deriving DecidableEq, Repr

/-- An operation that has been called, and whether with its callbacks. -/
structure ClientRequest where
  op : ClientOp
  successCallback : Bool
  errorCallback : Bool

/-- The session that the operation needs is null, and the operation checks for it. -/
def ClientOp.noSession : ClientOp → Bool
  | .listOwnGroups none .. => true
  | _ => false

/-- The null check of `listOwnGroups`: what it calls for request `q`. -/
def refuse (q : Nat) (r : ClientRequest) : List ClientCall :=
  let error : NError := { message := "No session", code := .invalidArgument }
  if r.errorCallback then [.error q error] else []

/-- Whom `reqError` finds first. -/
def own (q : Nat) (errorCallback : Bool) : Option Nat := if errorCallback then some q else none

/-- `reqError`, for a request whose own error callback is set, or else for none. -/
def reqError (own : Option Nat) (defaultErrorCallback : Bool) (error : NError) : List ClientCall :=
  match own with
  | some request => [.error request error]
  | none => if defaultErrorCallback then [.defaultError error] else []

/-- Request `q` has been given an error, by its own callback if it has one and otherwise
by the default one if that is set. -/
def ErrorGiven (q : Nat) (errorCallback defaultErrorCallback : Bool) (calls : List ClientCall) : Prop :=
  ∃ error, calls =
    if errorCallback then [.error q error]
    else if defaultErrorCallback then [.defaultError error]
    else []

theorem errorGiven_reqError (q : Nat) (errorCallback defaultErrorCallback : Bool) (error : NError) :
    ErrorGiven q errorCallback defaultErrorCallback
      (reqError (own q errorCallback) defaultErrorCallback error) := by
  refine ⟨error, ?_⟩
  cases errorCallback with
  | true => rfl
  | false => rfl

/-- The null check tells whom `reqError` would tell, if the request has a callback or
nobody else wants to know. -/
theorem errorGiven_refuse {q : Nat} {r : ClientRequest} {defaultErrorCallback : Bool}
    (h : r.errorCallback = true ∨ defaultErrorCallback = false) :
    ErrorGiven q r.errorCallback defaultErrorCallback (refuse q r) := by
  refine ⟨{ message := "No session", code := .invalidArgument }, ?_⟩
  unfold refuse
  rcases h with h | h
  · rw [h]
    rfl
  · rw [h]
    rfl

theorem length_refuse (q : Nat) (r : ClientRequest) : (refuse q r).length ≤ 1 := by
  unfold refuse
  dsimp only
  split
  · exact le_rfl
  · exact Nat.zero_le 1

theorem ErrorGiven.length_le {q : Nat} {errorCallback defaultErrorCallback : Bool}
    {calls : List ClientCall} (h : ErrorGiven q errorCallback defaultErrorCallback calls) :
    calls.length ≤ 1 := by
  obtain ⟨error, rfl⟩ := h
  split
  · exact le_rfl
  · split
    · exact le_rfl
    · exact Nat.zero_le 1

end NakamaCpp.Rest
