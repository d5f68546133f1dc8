import MetricFrames.Fault

/-!
# Requests and answers

What goes over the wire, as data: a request with the headers that matter here, and an answer, which
is a reply with a status or a failure on the way.
-/

namespace MetricFrames.Web

/-- A request. -/
structure Request where
  method : String
  address : String
  authorization : Option String := none
  flavor : Option String := none
  body : Option String := none
  deriving DecidableEq

/-- What comes back: a reply, a failure of the transport, or a fault that is not the transport's. -/
inductive Answer where
  | reply (status : Nat) (body : String)
  | failed (message : String)
  | broken (fault : Fault)
  deriving DecidableEq

/-- Statuses that report success. -/
def isSuccess (status : Nat) : Bool := 200 ≤ status && status ≤ 299

/-- The standard phrases of statuses. -/
def phrases : List (Nat × String) := [
  (100, "Continue"), (101, "Switching Protocols"), (102, "Processing"), (103, "Early Hints"),
  (200, "OK"), (201, "Created"), (202, "Accepted"), (203, "Non-Authoritative Information"),
  (204, "No Content"), (205, "Reset Content"), (206, "Partial Content"), (207, "Multi-Status"),
  (208, "Already Reported"), (226, "IM Used"), (300, "Multiple Choices"),
  (301, "Moved Permanently"), (302, "Found"), (303, "See Other"), (304, "Not Modified"),
  (305, "Use Proxy"), (307, "Temporary Redirect"), (308, "Permanent Redirect"),
  (400, "Bad Request"), (401, "Unauthorized"), (402, "Payment Required"), (403, "Forbidden"),
  (404, "Not Found"), (405, "Method Not Allowed"), (406, "Not Acceptable"),
  (407, "Proxy Authentication Required"), (408, "Request Timeout"), (409, "Conflict"),
  (410, "Gone"), (411, "Length Required"), (412, "Precondition Failed"),
  (413, "Request Entity Too Large"), (414, "Request-URI Too Long"),
  (415, "Unsupported Media Type"), (416, "Requested Range Not Satisfiable"),
  (417, "Expectation Failed"), (418, "I'm a teapot"), (421, "Misdirected Request"),
  (422, "Unprocessable Entity"), (423, "Locked"), (424, "Failed Dependency"), (425, "Too Early"),
  (426, "Upgrade Required"), (428, "Precondition Required"), (429, "Too Many Requests"),
  (431, "Request Header Fields Too Large"), (451, "Unavailable For Legal Reasons"),
  (500, "Internal Server Error"), (501, "Not Implemented"), (502, "Bad Gateway"),
  (503, "Service Unavailable"), (504, "Gateway Timeout"), (505, "HTTP Version Not Supported"),
  (506, "Variant Also Negotiates"), (507, "Insufficient Storage"), (508, "Loop Detected"),
  (510, "Not Extended"), (511, "Network Authentication Required")]

/-- The standard phrase of a status, or nothing. -/
def phrase (status : Nat) : String := ((phrases.find? (·.1 == status)).map (·.2)).getD ""

/-- What a status that is not a success means, by its class. -/
def statusFamily (status : Nat) : String :=
  match status / 100 with
  | 1 => "Informational response"
  | 3 => "Redirect response"
  | 4 => "Client error"
  | 5 => "Server error"
  | _ => "Invalid status code"

/-- The report of a status that is not a success. -/
def statusReport (status : Nat) (address : String) : String :=
  statusFamily status ++ " '" ++ toString status ++ " " ++ phrase status ++ "' for url '" ++
    address ++ "'"

end MetricFrames.Web
