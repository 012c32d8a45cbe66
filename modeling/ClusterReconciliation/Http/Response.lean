import ClusterReconciliation.Http.Request

/-! Responses of the control plane, and what they mean when they report a failure. -/
namespace ClusterReconciliation.Http

structure Response where
  status : UInt16
  body : String
  deriving DecidableEq, Repr

/-- The phrases that belong to the registered status codes. -/
def reasonPhrases : List (Nat × String) :=
  [(100, "Continue"), (101, "Switching Protocols"), (102, "Processing"), (103, "Early Hints"),
    (200, "OK"), (201, "Created"), (202, "Accepted"), (203, "Non Authoritative Information"),
    (204, "No Content"), (205, "Reset Content"), (206, "Partial Content"), (207, "Multi-Status"),
    (208, "Already Reported"), (226, "IM Used"), (300, "Multiple Choices"),
    (301, "Moved Permanently"), (302, "Found"), (303, "See Other"), (304, "Not Modified"),
    (305, "Use Proxy"), (307, "Temporary Redirect"), (308, "Permanent Redirect"),
    (400, "Bad Request"), (401, "Unauthorized"), (402, "Payment Required"), (403, "Forbidden"),
    (404, "Not Found"), (405, "Method Not Allowed"), (406, "Not Acceptable"),
    (407, "Proxy Authentication Required"), (408, "Request Timeout"), (409, "Conflict"),
    (410, "Gone"), (411, "Length Required"), (412, "Precondition Failed"),
    (413, "Payload Too Large"), (414, "URI Too Long"), (415, "Unsupported Media Type"),
    (416, "Range Not Satisfiable"), (417, "Expectation Failed"), (418, "I'm a teapot"),
    (421, "Misdirected Request"), (422, "Unprocessable Entity"), (423, "Locked"),
    (424, "Failed Dependency"), (425, "Too Early"), (426, "Upgrade Required"),
    (428, "Precondition Required"), (429, "Too Many Requests"),
    (431, "Request Header Fields Too Large"), (451, "Unavailable For Legal Reasons"),
    (500, "Internal Server Error"), (501, "Not Implemented"), (502, "Bad Gateway"),
    (503, "Service Unavailable"), (504, "Gateway Timeout"), (505, "HTTP Version Not Supported"),
    (506, "Variant Also Negotiates"), (507, "Insufficient Storage"), (508, "Loop Detected"),
    (510, "Not Extended"), (511, "Network Authentication Required")]

def reasonPhrase (status : UInt16) : String :=
  (reasonPhrases.lookup status.toNat).getD "Unknown error"

structure ErrorBody where
  code : String
  message : String
  deriving DecidableEq, Repr

def ErrorBody.decoder : Decoder ErrorBody :=
  (ErrorBody.mk <$> .defaulted "error_code" "" .text <*> .defaulted "message" "" .text :
    Fields ErrorBody).decoder

def ErrorBody.ofText (body : String) : Option ErrorBody :=
  ((Json.read body).decode decoder).toOption

def ErrorBody.isEmpty (e : ErrorBody) : Bool := e.code.isEmpty && e.message.isEmpty

/-- A body that describes no error is itself the message, and the phrase of the status is if the
body is blank. -/
def errorOfUndescribed (status : UInt16) (body : String) : ClientError :=
  .api status (if status = 404 then "NOT_FOUND" else "UNKNOWN")
    (if Text.isBlankText body then reasonPhrase status else body)

def classifyError (status : UInt16) (body : String) : ClientError :=
  let described := ErrorBody.ofText body
  if status = 401 ∨ status = 403 then .auth status ((described.map (·.message)).getD body)
  else
    match described with
    | some e => if e.isEmpty then errorOfUndescribed status body else .api status e.code e.message
    | none => errorOfUndescribed status body

def isSuccess (status : UInt16) : Bool := 200 ≤ status && status < 300

def interpret (c : Call) (r : Response) : Except ClientError c.Reply :=
  if isSuccess r.status then (readReply c r.body).mapError fun e => .parse e.message
  else .error (classifyError r.status r.body)

end ClusterReconciliation.Http
