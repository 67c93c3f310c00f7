import NakamaCpp.Lib.Transition
import NakamaCpp.Lib.Decimal
import NakamaCpp.Lib.Json
import NakamaCpp.Lib.Transcode
import NakamaCpp.Lib.PathTemplate
import NakamaCpp.Lib.Dispatch
import NakamaCpp.Lib.DispatchImage
import NakamaCpp.Lib.CInterop
import NakamaCpp.Lib.Lockstep
import NakamaCpp.Lib.Handles
import NakamaCpp.Lib.Query
import NakamaCpp.Lib.Base64
import NakamaCpp.Lib.Wire
import NakamaCpp.Lib.Codec
import NakamaCpp.Lib.Varint
import NakamaCpp.Realtime.RtClient
import NakamaCpp.Realtime.RtRun
import NakamaCpp.Realtime.RtDisconnect
import NakamaCpp.Realtime.Websocket
import NakamaCpp.Realtime.WebsocketRun
import NakamaCpp.Realtime.WebsocketTick
import NakamaCpp.Realtime.RtLifetime
import NakamaCpp.Http.HttpClient
import NakamaCpp.Http.HttpRun
import NakamaCpp.Http.HttpDestroy
import NakamaCpp.Http.Uri
import NakamaCpp.Rest.ClientOp
import NakamaCpp.Rest.RestClient
import NakamaCpp.Rest.ApiGrpc
import NakamaCpp.Rest.GrpcClient
import NakamaCpp.Rest.SameRequest
import NakamaCpp.Rest.RestCall
import NakamaCpp.Rest.ReqError
import NakamaCpp.Rest.RestResponse
import NakamaCpp.Rest.DefaultSession
import NakamaCpp.Rest.Route
import NakamaCpp.Rest.RestRun
import NakamaCpp.Rest.RestDestroy
import NakamaCpp.Rest.GrpcRun
import NakamaCpp.Rest.GrpcBuffers
import NakamaCpp.CApi.Session
import NakamaCpp.CApi.Data
import NakamaCpp.CApi.RtData
import NakamaCpp.CApi.DataRoundTrip
import NakamaCpp.CApi.ClientWrapper
import NakamaCpp.CApi.RtWrapper
import NakamaCpp.CApi.RtListener
import NakamaCpp.CApi.DefaultError
import NakamaCpp.CApi.Counts
import NakamaCpp.CApi.ReqTables
import NakamaCpp.CApi.ReqIds
import NakamaCpp.CApi.RtUserData
import NakamaCpp.CApi.Registries
import NakamaCpp.CApi.MapHandles
import NakamaCpp.CApi.SessionHandles
import NakamaCpp.CApi.WrappedClientRun
import NakamaCpp.Realtime.RtSend
import NakamaCpp.Realtime.RtUrl
import NakamaCpp.Realtime.RtCodec
import NakamaCpp.Api.Messages
import NakamaCpp.Api.MessageCodecs
import NakamaCpp.Api.Assign
import NakamaCpp.Realtime.RtProtobuf
import NakamaCpp.Realtime.RtProtocol
import NakamaCpp.Realtime.RtSession
import NakamaCpp.Realtime.RtSessionRun
import NakamaCpp.Realtime.RtSessionDone
import NakamaCpp.Rest.BaseClient
import NakamaCpp.Rest.ApiResult
import NakamaCpp.Rest.ApiClient
