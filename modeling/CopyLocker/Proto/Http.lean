import CopyLocker.Proto.Artifacts

/-!
# Answers over HTTP

The part of an HTTP response that the protocol uses: the status, three headers and a body. A body
is either an artifact or an error response, and each decoder answers something on any bytes.
-/

namespace CopyLocker.Proto

/-- The CBOR body of a refusal. -/
structure ProtocolErrorResponse where
  code : ℕ
  message : Option String
  retryAfter : Option ℕ
  deriving DecidableEq

/-- The length of the encoded map: its head, and a key with a value for every field there is. -/
def ProtocolErrorResponse.size (r : ProtocolErrorResponse) : ℕ :=
  1 + (1 + cborHead r.code) + (r.message.elim 0 fun text => 1 + cborBytes text.utf8ByteSize) +
    r.retryAfter.elim 0 fun seconds => 1 + cborHead seconds

/-- A body, as its two decoders read it. -/
structure Body where
  envelope : Wire Envelope
  protocolError : Option ProtocolErrorResponse

/-- The body of a refusal. It is no envelope: the kind is missing, or the code is no version. -/
def ProtocolErrorResponse.body (r : ProtocolErrorResponse) : Body where
  envelope :=
    { size := r.size
      decoded := .error
        (if r.retryAfter.isNone then .codec (.missingField 2) else .fieldOutOfRange 0) }
  protocolError := some r

/-- A response: its status, the headers `Content-Type`, `X-CL-Proto` and `Retry-After`, its body. -/
structure HttpResponse where
  status : ℕ
  contentType : Option String
  protocolVersion : Option String
  retryAfter : Option ℕ
  body : Body

end CopyLocker.Proto
