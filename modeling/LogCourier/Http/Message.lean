import LogCourier.Http.Url

/-!
# Requests and replies

What is sent to a web server and what may come of it: a status with a body, or no reply at
all. A body may turn out to be unreadable after its status has arrived.
-/

namespace LogCourier.Http

/-- A request. -/
structure Request where
  method : String
  url : Url
  contentType : Option String
  body : List UInt8
  timeoutSecs : UInt64
  deriving DecidableEq, Repr

/-- What the absence of a reply or of its body is put down to. -/
inductive FaultKind
  | timeout
  | connect
  | other
  deriving DecidableEq, Repr

/-- The absence of a reply or of its body. -/
structure Fault where
  kind : FaultKind
  detail : String
  deriving DecidableEq, Repr

/-- What comes of a request. -/
inductive Outcome
  | none (fault : Fault)
  | reply (status : Nat) (body : Except Fault (List UInt8))

/-- No reply to a request, for a reason of the given kind. -/
def Fault.unsent (kind : FaultKind) (url : Url) : Fault :=
  ⟨kind, "error sending request for url (" ++ url.text ++ ")"⟩

/-- The body of a reply broke off. -/
def Fault.brokenBody (kind : FaultKind) : Fault :=
  ⟨kind, "error decoding response body"⟩

/-- The address of a request is none. -/
def Fault.noUrl : Fault :=
  ⟨.other, "builder error"⟩

/-- Whether a status tells of success. -/
def isSuccess (status : Nat) : Bool :=
  200 ≤ status ∧ status < 300

/-- The names of the statuses. -/
def reasons : List (Nat × String) := [
  (100, "Continue"), (101, "Switching Protocols"), (102, "Processing"),
  (200, "OK"), (201, "Created"), (202, "Accepted"), (203, "Non Authoritative Information"),
  (204, "No Content"), (205, "Reset Content"), (206, "Partial Content"), (207, "Multi-Status"),
  (208, "Already Reported"), (226, "IM Used"),
  (300, "Multiple Choices"), (301, "Moved Permanently"), (302, "Found"), (303, "See Other"),
  (304, "Not Modified"), (305, "Use Proxy"), (307, "Temporary Redirect"),
  (308, "Permanent Redirect"),
  (400, "Bad Request"), (401, "Unauthorized"), (402, "Payment Required"), (403, "Forbidden"),
  (404, "Not Found"), (405, "Method Not Allowed"), (406, "Not Acceptable"),
  (407, "Proxy Authentication Required"), (408, "Request Timeout"), (409, "Conflict"),
  (410, "Gone"), (411, "Length Required"), (412, "Precondition Failed"),
  (413, "Payload Too Large"), (414, "URI Too Long"), (415, "Unsupported Media Type"),
  (416, "Range Not Satisfiable"), (417, "Expectation Failed"), (418, "I'm a teapot"),
  (421, "Misdirected Request"), (422, "Unprocessable Entity"), (423, "Locked"),
  (424, "Failed Dependency"), (425, "Too Early"), (426, "Upgrade Required"),
  (428, "Precondition Required"), (429, "Too Many Requests"),
  (431, "Request Header Fields Too Large"), (451, "Unavailable For Legal Reasons"),
  (500, "Internal Server Error"), (501, "Not Implemented"), (502, "Bad Gateway"),
  (503, "Service Unavailable"), (504, "Gateway Timeout"), (505, "HTTP Version Not Supported"),
  (506, "Variant Also Negotiates"), (507, "Insufficient Storage"), (508, "Loop Detected"),
  (510, "Not Extended"), (511, "Network Authentication Required")]

/-- The name of a status. -/
def reason (status : Nat) : String :=
  (reasons.lookup status).getD "Unknown"

end LogCourier.Http
