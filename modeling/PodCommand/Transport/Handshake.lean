import PodCommand.Connection.Client
import PodCommand.Transport.Frame

namespace PodCommand

/-- The versions of the channel protocol, which differ in how the end of the input is told. -/
inductive ChannelProtocol
  | v4
  | v5
  deriving DecidableEq, Repr

namespace ChannelProtocol

/-- The protocol's name. -/
def name : ChannelProtocol → String
  | v4 => "v4.channel.k8s.io"
  | v5 => "v5.channel.k8s.io"

/-- The protocols in the order of preference, as they are offered to a server. -/
def offer : String := v5.name ++ ", " ++ v4.name

/-- The protocol of a name. -/
def ofName? (name : String) : Option ChannelProtocol :=
  [v5, v4].find? (·.name == name)

end ChannelProtocol

/-- Why a server does not open a session. -/
inductive UpgradeError
  | unreachable
  /-- The user's token cannot be sent. -/
  | badToken
  | notSwitched (code : Nat)
  | notWebSocket
  | notUpgraded
  | badKey
  | badProtocol
  deriving DecidableEq, Repr

/-- The phrases for the codes of answers. -/
def codePhrases : List (Nat × String) :=
  [(100, "Continue"), (101, "Switching Protocols"), (102, "Processing"), (103, "Early Hints"),
   (200, "OK"), (201, "Created"), (202, "Accepted"), (203, "Non Authoritative Information"),
   (204, "No Content"), (205, "Reset Content"), (206, "Partial Content"), (207, "Multi-Status"),
   (208, "Already Reported"), (226, "IM Used"), (300, "Multiple Choices"),
   (301, "Moved Permanently"), (302, "Found"), (303, "See Other"), (304, "Not Modified"),
   (305, "Use Proxy"), (307, "Temporary Redirect"), (308, "Permanent Redirect"),
   (400, "Bad Request"), (401, "Unauthorized"), (402, "Payment Required"), (403, "Forbidden"),
   (404, "Not Found"), (405, "Method Not Allowed"), (406, "Not Acceptable"),
   (407, "Proxy Authentication Required"), (408, "Request Timeout"), (409, "Conflict"),
   (410, "Gone"), (411, "Length Required"), (412, "Precondition Failed"),
   (413, "Payload Too Large"), (414, "URI Too Long"), (415, "Unsupported Media Type"),
   (416, "Range Not Satisfiable"), (417, "Expectation Failed"), (418, "I'm a teapot"),
   (421, "Misdirected Request"), (422, "Unprocessable Entity"), (423, "Locked"),
   (424, "Failed Dependency"), (425, "Too Early"), (426, "Upgrade Required"),
   (428, "Precondition Required"), (429, "Too Many Requests"),
   (431, "Request Header Fields Too Large"), (451, "Unavailable For Legal Reasons"),
   (500, "Internal Server Error"), (501, "Not Implemented"), (502, "Bad Gateway"),
   (503, "Service Unavailable"), (504, "Gateway Timeout"), (505, "HTTP Version Not Supported"),
   (506, "Variant Also Negotiates"), (507, "Insufficient Storage"), (508, "Loop Detected"),
   (510, "Not Extended"), (511, "Network Authentication Required")]

/-- A code and its phrase. -/
def codeText (code : Nat) : String :=
  toString code ++ " " ++
    (((codePhrases.find? (·.1 == code)).map (·.2)).getD "<unknown status code>")

namespace UpgradeError

/-- What every failure to agree on a session begins with. -/
def leader : String := "failed to upgrade to a WebSocket connection: "

/-- The error in words. -/
def message : UpgradeError → String
  | unreachable => "ServiceError: client error (Connect)"
  | badToken => "ServiceError: invalid bearer token: failed to parse header value"
  | notSwitched code => leader ++ "failed to switch protocol: " ++ codeText code
  | notWebSocket => leader ++ "upgrade header was not set to websocket"
  | notUpgraded => leader ++ "connection header was not set to Upgrade"
  | badKey => leader ++ "Sec-WebSocket-Accept key mismatched"
  | badProtocol => leader ++ "Sec-WebSocket-Protocol mismatched"

end UpgradeError

/-- The headers of an answer that matter. -/
structure AnswerHeaders where
  upgrade : Option String
  connection : Option String
  /-- Whether the answer holds the key that fits the one of the request. -/
  keyFits : Bool
  protocol : Option String
  deriving DecidableEq, Repr

/-- How a server answers the request for a session. -/
inductive Answer
  | silence
  | reply (code : Nat) (headers : AnswerHeaders) (frames : List Frame)
  deriving DecidableEq, Repr

namespace Handshake

/-!
Opening a session.  A server agrees to it by switching protocols, with headers that are checked one
after the other; the first that does not fit is blamed.
-/

/-- The code of an answer that switches protocols. -/
def switchingCode : Nat := 101

/-- Whether a header has a value, in whatever case it is written. -/
def isValue (wanted : String) (header : Option String) : Bool :=
  header.any fun value => value.toList.map Char.toLower == wanted.toList.map Char.toLower

/-- Checks an answer; gives the protocol that is agreed on. -/
def verify (code : Nat) (headers : AnswerHeaders) : Except UpgradeError ChannelProtocol :=
  if code ≠ switchingCode then .error (.notSwitched code)
  else if !isValue "websocket" headers.upgrade then .error .notWebSocket
  else if !isValue "Upgrade" headers.connection then .error .notUpgraded
  else if !headers.keyFits then .error .badKey
  else
    match headers.protocol.bind ChannelProtocol.ofName? with
    | some protocol => .ok protocol
    | none => .error .badProtocol

/-- The header that says who sends a request; none for nobody in particular. -/
def authorization? : Authorization → Option String
  | .anonymous => none
  | .basic username password =>
    some ("Basic " ++
      String.ofList (Text.Base64.encode (Text.Utf8.encode (username ++ ":" ++ password).toList)))
  | .bearer token => some ("Bearer " ++ token)

/-- The path that a server's address puts before every request. -/
def basePath (url : Uri) : String :=
  String.ofList (url.requestPath.toList.reverse.dropWhile (· = '/')).reverse

/-- The line that a request begins with when a client sends it. -/
def requestLine (client : Client) (request : Request) : String :=
  Request.method ++ " " ++ basePath client.connection.url ++ request.sentUrl ++ " HTTP/1.1"

/-- A session that is refused. -/
def refusal (error : UpgradeError) : Remote :=
  { upgrade := [.fail ⟨.other, error.message⟩]
    stdin := none, stdout := none, stderr := none, statusScript := [], status := none }

/-- What comes of an answer: a session, or its refusal. -/
def remote (sink : Sink) (attachment : Attachment) : Answer → Remote
  | .silence => { refusal .unreachable with upgrade := [.hang] }
  | .reply code headers frames =>
    match verify code headers with
    | .ok _ => Frame.session sink attachment frames
    | .error error => refusal error

/-- The protocol that an answer agrees on. -/
def protocol? : Answer → Option ChannelProtocol
  | .silence => none
  | .reply code headers _ => (verify code headers).toOption

end Handshake
end PodCommand
