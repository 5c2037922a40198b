import PodCommand.Auth
import PodCommand.Text.Utf8
import PodCommand.Uri

namespace PodCommand

/-- Where a connection was found. -/
inductive Origin
  /-- In the cluster that the program runs in. -/
  | inCluster
  /-- In a kubeconfig. -/
  | kubeconfig (path : String)
  deriving DecidableEq, Repr

/-- What is needed to reach a cluster: its address, the user's credentials and whom to trust. -/
structure Connection where
  url : Uri
  /-- The namespace of requests that name none. -/
  defaultNamespace : String
  auth : Auth
  /-- The certificates to trust; none for those of the system. -/
  roots : Option (List Bytes)
  acceptsInvalidCertificates : Bool
  proxy : Option Uri
  /-- The name that the server's certificate has to bear, if it is not the host's. -/
  serverName : Option String
  origin : Origin
  deriving DecidableEq, Repr

namespace Connection

/-!
Connections, as they are found in a cluster or in a kubeconfig.
-/

/-- The address of the server. -/
def endpoint (connection : Connection) : String := connection.url.text

/-- Whether certificates are trusted that the system does not trust. -/
def hasCustomRoots (connection : Connection) : Bool :=
  connection.roots.any fun roots => !roots.isEmpty

end Connection
end PodCommand
