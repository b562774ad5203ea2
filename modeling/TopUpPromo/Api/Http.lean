import TopUpPromo.Api.Server
import TopUpPromo.Json.Reader
import TopUpPromo.Text.MediaType

/-!
# The promotion API over HTTP

Each method is served at `/promotion.v1.PromotionService/<Method>`; any other path is not
found. A method accepts only `POST`, and then only the content types of its protocols, compared
in their canonical form (`Text.canonicalMediaType`):

- `application/json` is read as JSON. An empty body is the empty request. A body that is no
  request of the method is an `invalid_argument` error; a finished context is answered with its
  own error before the method runs.
- `application/proto` and `application/json; charset=utf-8` name the codecs of protocol
  buffers, which cannot read the API's messages: every such request is an `invalid_argument`
  error.
- `application/grpc` and `application/grpc-web`, alone or with `+proto` or `+json` (and the
  UTF-8 charset after `+json`), are calls framed for gRPC. No body here is such a frame holding
  a message that can be read, so the call fails, and gRPC reports that failure in the trailers
  of an empty answer with status 200.

Any other content type is answered 415 with an empty body. Errors are written as
`{"code", "message"}` with the code's HTTP status; a response message that cannot be written
is an `internal` error.

## Main definitions

- `HttpRequest`, `HttpBody`, `HttpResponse`.
- `Payload`, `payloadOf`: how a content type is served.
- `servicePrefix`, `readBody`, `serveHttp`.
-/

namespace TopUpPromo
namespace Api

/-- An HTTP request to the API. -/
structure HttpRequest where
  verb : String
  path : String
  contentType : String
  body : String

/-- A response body: a JSON document, or plain text. -/
inductive HttpBody where
  | json (j : Json)
  | text (s : String)

/-- An HTTP response. -/
structure HttpResponse where
  status : Nat
  body : HttpBody

/-- The path prefix of the methods. -/
def servicePrefix : String := "/promotion.v1.PromotionService/"

def methodOfPath (path : String) : Option Method :=
  if path.startsWith servicePrefix then Method.ofName? (path.drop servicePrefix.length).toString
  else none

/-- How a request is served, by its content type. -/
inductive Payload where
  /-- JSON read by the API's own codec. -/
  | json
  /-- A codec of protocol buffers, which cannot read the API's messages. -/
  | protoCodec
  /-- A call framed for gRPC or gRPC-Web. -/
  | framed
  deriving DecidableEq, Repr

/-- How a request of a content type is served, if it is served at all. -/
def payloadOf (contentType : String) : Option Payload :=
  match Text.canonicalMediaType contentType with
  | "application/json" => some .json
  | "application/proto" | "application/json; charset=utf-8" => some .protoCodec
  | "application/grpc" | "application/grpc+proto" | "application/grpc+json"
  | "application/grpc+json; charset=utf-8" | "application/grpc-web"
  | "application/grpc-web+proto" | "application/grpc-web+json"
  | "application/grpc-web+json; charset=utf-8" => some .framed
  | _ => none

/-- Reads the request of a method from a body: an empty body is the empty request. -/
def readBody (m : Method) (body : String) : Except String Request :=
  let unmarshal (detail : String) := "unmarshal *api." ++ m.requestType ++ ": " ++ detail
  let j : Except String Json :=
    if body.isEmpty then .ok (.obj []) else (Json.parse body).mapError (unmarshal ·.message)
  match j with
  | .error e => .error e
  | .ok j =>
    match Request.read? m j with
    | some r => .ok r
    | none => .error (unmarshal "json: cannot unmarshal a member into the request")

def errorResponse (e : ApiError) : HttpResponse :=
  ⟨e.code.httpStatus, .json (.obj [("code", .str e.code.text), ("message", .str e.message)])⟩

def servedResponse : Except ApiError Encoded → HttpResponse
  | .ok (.ok j) => ⟨200, .json j⟩
  | .ok (.error e) => errorResponse ⟨.internal, "marshal message: " ++ e⟩
  | .error e => errorResponse e

def dispatch {m : Type → Type} [Monad m] (ctx : Ctx) (r : HttpRequest)
    (serveOne : Request → m (Except ApiError Encoded)) : m HttpResponse :=
  match methodOfPath r.path with
  | none => pure ⟨404, .text "404 page not found\n"⟩
  | some meth =>
    if r.verb != "POST" then pure ⟨405, .text ""⟩
    else match payloadOf r.contentType with
      | none => pure ⟨415, .text ""⟩
      | some .framed => pure ⟨200, .text ""⟩
      | some .protoCodec =>
        pure (errorResponse ⟨.invalidArgument,
          "unmarshal message: *api." ++ meth.requestType ++ " is no protocol buffer message"⟩)
      | some .json =>
        match readBody meth r.body with
        | .error e => pure (errorResponse ⟨.invalidArgument, e⟩)
        | .ok req =>
          match contextError ctx with
          | some e => pure (errorResponse e)
          | none => return servedResponse (← serveOne req)

section Serving

variable {m : Type → Type} [Monad m] [PromotionStore m] [CodeSource m] [PaymentGateway m]
  [TransactionSuffix m] [FirstLoginQueue m]

/-- Serves an HTTP request. -/
def serveHttp (cfg : ServerSettings) (ctx : Ctx) (r : HttpRequest) : m HttpResponse :=
  dispatch ctx r (serve cfg ctx)

end Serving

end Api
end TopUpPromo
