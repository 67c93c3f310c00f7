import NakamaCpp.Rest.ApiClient

/-!
# What the layers above know of a client

A success callback that is null changes what the clients do with an answer, and an error callback
changes whom they call; what they make of it, the `Verdict`, depends on the answer and the type of
the message only.  `RestClient` and `GrpcClient` are backends in this sense, with all that they do:
bodies that cannot be read, and documents that they die of.
-/

namespace NakamaCpp.Rest

open Dispatch Http

/-- What a client makes of an answer. -/
inductive Verdict
  | success (now : UInt64) (data : Option ResponseData)
  /-- a body that is not the message; it is only read for a success callback -/
  | unreadable (error : NError)
  | failure (error : NError)
  /-- a failed assertion -/
  | dies

/-- Whom it calls then. -/
def Verdict.calls (json : JsonLib) (defaultErrorCallback : Bool) (q : Nat) (r : ClientRequest) :
    Verdict → Option (List ApiCall)
  | .success now data => if r.successCallback then succeed json now q data else some []
  | .unreadable error =>
    if r.successCallback then
      some (failWith (Rest.reqError (own q r.errorCallback) defaultErrorCallback error))
    else some []
  | .failure error =>
    some (failWith (Rest.reqError (own q r.errorCallback) defaultErrorCallback error))
  | .dies => none

def RestClient.verdict (lib : ApiLib) (type : Option ResponseType) (answer : HttpAnswer) : Verdict :=
  let response := answer.response
  if response.statusCode = 200 then
    match type with
    | none => .success answer.now none
    | some type =>
      match lib.toMessage type response.body with
      | .ok data => .success answer.now (some ⟨type, data⟩)
      | .error status =>
        .unreadable
          { message := "Parse JSON failed. HTTP body: " ++ response.body ++ " error: " ++ status
            code := .internalError }
  else
    match RestClient.statusError lib.json response with
    | some error => .failure (RestClient.withMessage response error)
    | none => .dies

def GrpcClient.verdict (type : Option ResponseType) (answer : GrpcAnswer) : Verdict :=
  if answer.ok then
    if answer.errorCode = 0 then
      .success answer.now (type.map fun type => ⟨type, answer.response type⟩)
    else .failure (GrpcClient.statusError answer.event)
  else
    .failure
      { message := "Communication failed. Please check connection.", code := .connectionError }

/-- A client as those who use it know it. -/
structure Backend (lib : ApiLib) (γ ρ : Type) where
  client : Client ClientRequest γ ρ ApiCall
  verdict : Option ResponseType → ρ → Verdict
  fill : ∀ r, (client.fill r).isSome = !r.op.noSession
  answer : ∀ {r : ClientRequest} {d : γ}, client.fill r = some d →
    ∀ (defaultErrorCallback : Bool) (q : Nat) (a : ρ), client.answer defaultErrorCallback q d a =
      (verdict r.op.responseType a).calls lib.json defaultErrorCallback q r
  /-- the message is of the type that the operation has -/
  typed : ∀ {type : Option ResponseType} {a : ρ} {now : UInt64} {data : Option ResponseData},
    verdict type a = .success now data → data.map Sigma.fst = type

section
variable {lib : ApiLib}

theorem isSome_fill (r : ClientRequest) {γ : Type} (d : γ) :
    (if r.op.noSession then none else some d).isSome = !r.op.noSession := by
  cases r.op.noSession <;> rfl

theorem of_fill {r : ClientRequest} {γ : Type} {d d' : γ}
    (h : (if r.op.noSession then none else some d) = some d') : d' = d := by
  split at h
  · cases h
  · exact (Option.some.inj h).symm

theorem answer_verdict (defaultErrorCallback : Bool) (q : Nat) (r : ClientRequest)
    (answer : GrpcAnswer) :
    GrpcClient.answer lib defaultErrorCallback q
        ⟨r.successCallback, r.errorCallback, r.op.responseType⟩ answer =
      (GrpcClient.verdict r.op.responseType answer).calls lib.json defaultErrorCallback q r := by
  unfold GrpcClient.answer GrpcClient.verdict
  split
  · split <;> rfl
  · rfl

theorem typed_grpcVerdict {type : Option ResponseType} {answer : GrpcAnswer} {now : UInt64}
    {data : Option ResponseData} (h : GrpcClient.verdict type answer = .success now data) :
    data.map Sigma.fst = type := by
  unfold GrpcClient.verdict at h
  split at h
  · split at h
    · cases h
      cases type <;> rfl
    · cases h
  · cases h

end

def grpcBackend (lib : ApiLib) : Backend lib GrpcContext GrpcAnswer where
  client := grpcApi lib
  verdict := GrpcClient.verdict
  fill r := isSome_fill r _
  answer {r d} h defaultErrorCallback q a := by
    obtain rfl := of_fill h
    exact answer_verdict defaultErrorCallback q r a
  typed := typed_grpcVerdict

end NakamaCpp.Rest
