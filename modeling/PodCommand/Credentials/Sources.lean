import PodCommand.Credentials
import PodCommand.Kubeconfig.Reading
import PodCommand.Kubeconfig.Selection
import PodCommand.Net.Address
import PodCommand.Settings

namespace PodCommand

namespace InCluster

/-!
The account that a cluster gives to the programs that run in it: two variables tell the server's
address, and three files the namespace, the authority to trust and the token.
-/

/-- The directory of the account's files. -/
def directory : String := "/var/run/secrets/kubernetes.io/serviceaccount"

/-- The port that need not be written. -/
def defaultPort : Nat := 443

/-- The text of the server's address. -/
def serverText (host : String) (port : Nat) : String :=
  let name :=
    match Net.address? host with
    | some address => address.hostText
    | none => host
  "https://" ++ name ++ if port = defaultPort then "" else ":" ++ toString port

/-- The address of the server. -/
def server (host : Host) : Except InClusterError Uri :=
  match host.valueOf? "KUBERNETES_SERVICE_HOST", host.valueOf? "KUBERNETES_SERVICE_PORT" with
  | some name, some port =>
    match Net.readPort port with
    | .error defect => .error (.badPort defect)
    | .ok port => (Uri.read (serverText name port)).mapError .badServer
  | _, _ => .error .noVariable

/-- The connection of the account. -/
def connection (host : Host) : Except InClusterError Connection := do
  let url ← server host
  let ns ← (host.files.readText (Path.join directory "namespace")).mapError .noNamespace
  let authority ← (host.files.read (Path.join directory "ca.crt")).mapError .noAuthority
  let roots ← (Pem.certificates authority).mapError .badAuthority
  let auth : Auth := { Auth.anonymous with tokenFile := some (Path.join directory "token") }
  return ⟨url, String.ofList ns, auth, some roots, false, none, none, .inCluster⟩

/-- Loads the account's credentials. -/
def load (host : Host) : Except SourceError Connection :=
  (connection host).mapError .inCluster

end InCluster

/-- Which kubeconfig to use, and which of its contexts. -/
structure KubeconfigSource where
  /-- The one in the user's home directory where this is absent. -/
  path : Option String
  /-- The current one where this is absent. -/
  context : Option String
  deriving DecidableEq, Repr, Inhabited

namespace KubeconfigSource

/-- The kubeconfig in a home directory. -/
def pathIn (home : String) : String := Path.join (Path.join home ".kube") "config"

/-- A kubeconfig at a path. -/
def ofPath (path : String) : KubeconfigSource := ⟨some path, none⟩

/-- The kubeconfig in a home directory. -/
def inHome (home : String) : KubeconfigSource := .ofPath (pathIn home)

/-- The path of the kubeconfig. -/
def file (source : KubeconfigSource) (host : Host) : Except SourceError String :=
  match source.path, host.home? with
  | some path, _ => .ok path
  | none, some home => .ok (pathIn home)
  | none, none => .error .noHome

/-- The connection that a context of a kubeconfig describes. -/
def connection (host : Host) (path : String) (context : Option String) :
    Except KubeconfigError Connection := do
  let kubeconfig ← Kubeconfig.readFile host.files path
  let selection ← kubeconfig.select context
  selection.connection host (.kubeconfig path)

/-- Loads the credentials of the user. -/
def load (source : KubeconfigSource) (host : Host) : Except SourceError Connection := do
  let path ← source.file host
  if !host.files.pathExists path then throw (.notFound path)
  (connection host path source.context).mapError (.kubeconfig path)

end KubeconfigSource

namespace Resolver

/-- The search for credentials on a host, with a choice of the kubeconfig. -/
def onHost {m : Type → Type} [Monad m] (host : Host) (source : KubeconfigSource) : Resolver m :=
  ⟨pure (InCluster.load host), pure (source.load host)⟩

/-- The search for credentials that settings ask for. -/
def ofSettings {m : Type → Type} [Monad m] (host : Host) (settings : Settings) : Resolver m :=
  onHost host ⟨settings.kubeconfig, settings.context⟩

end Resolver
end PodCommand
