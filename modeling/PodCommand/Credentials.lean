import PodCommand.Connection
import PodCommand.Files
import PodCommand.Kubeconfig
import PodCommand.Log
import PodCommand.Net.Port
import PodCommand.Pem

namespace PodCommand

/-- Why the account of a program in a cluster does not give a connection. -/
inductive InClusterError
  /-- A variable that tells the server's address is not set. -/
  | noVariable
  | badPort (defect : Net.PortDefect)
  | badServer (defect : Uri.Defect)
  | noNamespace (error : FileError)
  | noAuthority (error : FileError)
  | badAuthority (defect : Pem.Defect)
  deriving DecidableEq, Repr

/-- The error in words. -/
def InClusterError.message : InClusterError → String
  | noVariable =>
    "failed to read an incluster environment variable: environment variable not found"
  | badPort defect => "failed to parse cluster port: " ++ defect.message
  | badServer defect => "failed to parse cluster url: " ++ defect.message
  | noNamespace error => "failed to read the default namespace: " ++ error.message
  | noAuthority error => "failed to read a certificate bundle: " ++ error.message
  | badAuthority defect => "failed to parse PEM-encoded certificates: " ++ defect.message

/-- Why a source of credentials does not give a connection. -/
inductive SourceError
  | inCluster (error : InClusterError)
  | kubeconfig (path : String) (error : KubeconfigError)
  /-- There is no kubeconfig. -/
  | notFound (path : String)
  /-- There is no home directory to look for a kubeconfig in. -/
  | noHome
  deriving DecidableEq, Repr

/-- The error in words. -/
def SourceError.message : SourceError → String
  | inCluster error => error.message
  | kubeconfig path error =>
    "failed to load kubeconfig " ++ Path.quoted path ++ ": " ++ error.message
  | notFound path => "no kubeconfig found at " ++ Path.quoted path
  | noHome => "home directory not found"

/-- Neither source of credentials gives a connection.  Both causes are kept, so that it can be told
which expectation was wrong. -/
structure ResolutionError where
  inCluster : SourceError
  kubeconfig : SourceError
  deriving DecidableEq, Repr

/-- The error in words. -/
def ResolutionError.message (error : ResolutionError) : String :=
  "InClusterConfig as well as BuildConfigFromFlags failed. Error in InClusterConfig: " ++
    error.inCluster.message ++ ". Error in BuildConfigFromFlags: " ++ error.kubeconfig.message

/-- What a search for credentials comes across. -/
inductive ResolutionEvent
  | inClusterFound (connection : Connection)
  | inClusterFailed (error : SourceError)
  | kubeconfigFound (connection : Connection)
  | kubeconfigFailed (error : SourceError)
  deriving DecidableEq, Repr

/-- An origin as the log shows it. -/
def Origin.display : Origin → String
  | inCluster => "InCluster"
  | kubeconfig path => "Kubeconfig(" ++ Path.quoted path ++ ")"

/-- The event as the log tells it. -/
def ResolutionEvent.log : ResolutionEvent → LogLine
  | inClusterFound connection =>
    ⟨.info, "Using in-cluster configuration for " ++ connection.endpoint⟩
  | inClusterFailed error =>
    ⟨.debug, "In-cluster configuration unavailable: " ++ error.message⟩
  | kubeconfigFound connection =>
    ⟨.info, "Using kubeconfig " ++ connection.origin.display ++ " for " ++ connection.endpoint⟩
  | kubeconfigFailed error => ⟨.warn, "Kubeconfig unavailable: " ++ error.message⟩

/-- What a search for credentials comes to. -/
structure Resolution where
  result : Except ResolutionError Connection
  events : List ResolutionEvent

/-- The sources of credentials, in the order in which they are tried.  Loading from one may have
effects. -/
structure Resolver (m : Type → Type) where
  inCluster : m (Except SourceError Connection)
  kubeconfig : m (Except SourceError Connection)

/-!
The search for credentials: the account that the cluster gives to programs that run in it, and then
a kubeconfig.  Each source is loaded from at most once, and the second only if the first has failed.
-/

/-- Searches for credentials. -/
def Resolver.resolve {m : Type → Type} [Monad m] (resolver : Resolver m) : m Resolution := do
  match ← resolver.inCluster with
  | .ok connection => return ⟨.ok connection, [.inClusterFound connection]⟩
  | .error inCluster =>
    match ← resolver.kubeconfig with
    | .ok connection =>
      return ⟨.ok connection, [.inClusterFailed inCluster, .kubeconfigFound connection]⟩
    | .error kubeconfig =>
      return ⟨.error ⟨inCluster, kubeconfig⟩,
        [.inClusterFailed inCluster, .kubeconfigFailed kubeconfig]⟩

end PodCommand
