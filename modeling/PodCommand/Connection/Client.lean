import PodCommand.Connection
import PodCommand.Files
import PodCommand.Log
import PodCommand.Net.Address
import PodCommand.Request
import PodCommand.Tls.Identity

namespace PodCommand

/-- Why an address is not one of a server. -/
inductive EndpointDefect
  | noScheme
  | otherScheme (scheme : String)
  | noHost
  deriving DecidableEq, Repr

namespace EndpointDefect

/-- The defect in words. -/
def message : EndpointDefect → String
  | noScheme => "endpoint has no scheme"
  | otherScheme scheme => "unsupported endpoint scheme " ++ Text.quoted scheme
  | noHost => "endpoint has no host"

end EndpointDefect

/-- Why a connection to a proper server cannot be used. -/
inductive BuildError
  /-- The proxy would need a part of the program that is left out. -/
  | proxyDisabled (proxy : Uri) (feature : String)
  | proxyUnsupported (proxy : Uri)
  /-- The login service does not give a token. -/
  | provider (reason : String)
  | unreadableTokenFile (path : String)
  | noPluginCommand
  | tls (error : TlsError)
  /-- A name to act under cannot be sent. -/
  | badHeader
  deriving DecidableEq, Repr

namespace BuildError

/-- The error in words. -/
def message : BuildError → String
  | proxyDisabled proxy feature =>
    "configured proxy " ++ proxy.text ++ " requires the disabled feature " ++ Text.quoted feature
  | proxyUnsupported proxy => "configured proxy " ++ proxy.text ++ " uses an unsupported protocol"
  | provider reason => "auth error: failed exec auth: " ++ reason
  | unreadableTokenFile path =>
    "auth error: failed to read token file '" ++ Path.quoted path ++ "': <detail>"
  | noPluginCommand => "auth error: command must be specified to use exec authentication plugin"
  | tls error => "rustls tls error: " ++ error.message
  | badHeader => "HttpError: failed to parse header value"

end BuildError

/-- Why there is no client for a connection. -/
inductive ClientError
  | badEndpoint (defect : EndpointDefect)
  | build (error : BuildError)
  deriving DecidableEq, Repr

namespace ClientError

/-- The error in words. -/
def message : ClientError → String
  | badEndpoint defect => "Invalid connection config: " ++ defect.message
  | build error => "Failed to create client: " ++ error.message

end ClientError

/-- How requests say who sends them. -/
inductive Authorization
  | anonymous
  | basic (username password : String)
  | bearer (token : String)
  deriving DecidableEq, Repr

/-- What sends requests over a connection. -/
structure Client where
  connection : Connection
  authorization : Authorization
  deriving DecidableEq, Repr

namespace Client

/-!
Clients for connections.  The address is looked at before all else: first its scheme, then its host.
What requests need beside it, whatever that takes, is left to a builder.
-/

/-- What gets ready, for a connection, all that requests need beside the address. -/
structure Builder where
  authorize : Connection → Except BuildError Authorization

/-- What is wrong with the address of a server. -/
def defect? (url : Uri) : Option EndpointDefect :=
  match url.scheme with
  | none => some .noScheme
  | some scheme =>
    if scheme ≠ "http" && scheme ≠ "https" then some (.otherScheme scheme)
    else if url.host?.any (fun host => !host.isEmpty) then none
    else some .noHost

/-- Checks that no proxy is to be used. -/
def checkProxy : Option Uri → Except BuildError Unit
  | none => .ok ()
  | some proxy =>
    if proxy.scheme = some "socks5" then .error (.proxyDisabled proxy "kube/socks5")
    else if proxy.scheme = some "http" then .error (.proxyDisabled proxy "kube/http-proxy")
    else .error (.proxyUnsupported proxy)

/-- The token that a login service gives. -/
def providerToken (provider : AuthProvider) : Except BuildError String :=
  let setting (name : String) := (provider.settings.find? (·.1 == name)).map (·.2)
  if provider.name = "oidc" then
    match setting "id-token" with
    | some token => .ok token
    | none => .error (.provider "No id-token for oidc Authentication provider")
  else if provider.name = "azure" then
    .error (.provider ("The azure auth plugin is not supported; " ++
      "use https://github.com/Azure/kubelogin instead"))
  else if provider.name = "gcp" then
    match setting "id-token" with
    | some token => .ok token
    | none =>
      .error (.provider ("Enable oauth feature to use Google Application " ++
        "Credentials-based token source"))
  else .error (.provider ("Authentication with provider " ++ provider.name ++ " not supported"))

/-- How a user's requests say who sends them. -/
def authorize (files : Files) (auth : Auth) : Except BuildError Authorization :=
  match auth.provider with
  | some provider => (providerToken provider).map .bearer
  | none =>
    match auth.username, auth.password with
    | some username, some password => .ok (.basic username password)
    | _, _ =>
      match auth.token, auth.tokenFile with
      | some token, _ => .ok (.bearer token)
      | none, some path =>
        match files.readText path with
        | .ok token => .ok (.bearer (String.ofList token))
        | .error _ => .error (.unreadableTokenFile path)
      | none, none =>
        match auth.plugin with
        | some ⟨none, _⟩ => .error .noPluginCommand
        | _ => .ok .anonymous

/-- Reads octets that are given inline in base 64, or else in a file. -/
def readMaterial (files : Files) (inline file : Option String) : Option Bytes :=
  match inline, file with
  | some text, _ => (Text.Base64.decode? text.toList).map Pem.endLine
  | none, some path => (files.read path).toOption.map Pem.endLine
  | none, none => none

/-- The user's key and certificate; a user that lacks one of them has none. -/
def identity? (files : Files) (auth : Auth) : Option Bytes := do
  let key ← readMaterial files auth.keyData auth.keyFile
  let certificate ← readMaterial files auth.certificateData auth.certificateFile
  return key ++ certificate

/-- Checks the certificates, the key and the name of a secure connection. -/
def checkTls (files : Files) (connection : Connection) : Except TlsError Unit := do
  if !(connection.roots.getD []).all Certificate.isRoot then throw .badRoot
  match identity? files connection.auth with
  | some bytes => Identity.check bytes
  | none => pure ()
  if !connection.serverName.all Net.isServerName then throw .badServerName

/-- Whether a text can be the value of a header. -/
def isHeaderValue (text : String) : Bool :=
  text.toList.all fun c => c = '\t' || (0x20 ≤ c.toNat && c.toNat ≠ 0x7F)

/-- A builder that reads what a connection names from files, and takes a token as it stands.  It
reaches out for nothing else: it runs no plugin, and it looks at no clock, so that what a login
service has given for a while counts as gone. -/
def Builder.ofFiles (files : Files) : Builder where
  authorize connection := do
    checkProxy connection.proxy
    let authorization ← Client.authorize files connection.auth
    match checkTls files connection with
    | .ok _ => pure ()
    | .error error => throw (.tls error)
    let names := connection.auth.actAs.toList ++ connection.auth.actAsGroups.getD []
    if !names.all isHeaderValue then throw .badHeader
    return authorization

instance : Coe Files Builder := ⟨Builder.ofFiles⟩

/-- Builds a client for a connection. -/
def build (builder : Builder) (connection : Connection) : Except ClientError Client :=
  match defect? connection.url with
  | some defect => .error (.badEndpoint defect)
  | none =>
    match builder.authorize connection with
    | .ok authorization => .ok ⟨connection, authorization⟩
    | .error error => .error (.build error)

/-- The address of the server. -/
def endpoint (client : Client) : String := client.connection.endpoint

/-- The namespace of requests that name none. -/
def defaultNamespace (client : Client) : String := client.connection.defaultNamespace

/-- The client as debugging shows it. -/
def display (client : Client) : String :=
  "ApiClient \x7b endpoint: " ++ Text.quoted client.endpoint ++ ", .. \x7d"

/-- The path of the pods of a namespace. -/
def podsPath (ns : String) : String := Request.podsPath ns

/-- What the log tells of a new client. -/
def log (client : Client) : LogLine := ⟨.debug, "Created API client for " ++ client.endpoint⟩

end Client
end PodCommand
