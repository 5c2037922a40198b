import PodCommand.Auth
import PodCommand.Files.Path

namespace PodCommand

/-- A cluster, as a kubeconfig describes it. -/
structure Cluster where
  server : Option String
  insecure : Option Bool
  /-- The authority to trust: a file, and the inline form that takes precedence over it. -/
  authorityFile : Option String
  authorityData : Option String
  proxyUrl : Option String
  serverName : Option String
  deriving DecidableEq, Repr, Inhabited

/-- A cluster, a user and a namespace under one name. -/
structure Context where
  cluster : String
  user : Option String
  ns : Option String
  deriving DecidableEq, Repr, Inhabited

/-- An entry of a list in a kubeconfig; one without a body is as good as none. -/
structure Named (α : Type) where
  name : String
  body : Option α
  deriving DecidableEq, Repr

/-- What a kubeconfig holds. -/
structure Kubeconfig where
  kind : Option String
  apiVersion : Option String
  currentContext : Option String
  clusters : List (Named Cluster)
  users : List (Named Auth)
  contexts : List (Named Context)
  deriving DecidableEq, Repr, Inhabited

/-- Why a kubeconfig does not give a connection. -/
inductive KubeconfigError
  | noCurrentContext
  | kindMismatch
  | apiVersionMismatch
  | noContext (name : String)
  | noCluster (name : String)
  /-- The file cannot be read, or is no text. -/
  | unreadable (path : String) (complaint : String)
  /-- The text is not well formed. -/
  | malformed
  /-- A field is missing or has a value of the wrong kind. -/
  | badStructure
  | noServer
  | badServer
  | badProxy
  | noAuthority
  | badAuthority
  deriving DecidableEq, Repr

namespace KubeconfigError

/-- The error in words; what exactly is wrong with a text that cannot be read is left open. -/
def message : KubeconfigError → String
  | noCurrentContext => "failed to determine current context"
  | kindMismatch => "kubeconfigs with mismatching kind cannot be merged"
  | apiVersionMismatch => "kubeconfigs with mismatching api version cannot be merged"
  | noContext name => "failed to load current context: " ++ name
  | noCluster name => "failed to load the cluster of context: " ++ name
  | unreadable path complaint =>
    "failed to read kubeconfig from '" ++ Path.quoted path ++ "': " ++ complaint
  | malformed => "failed to parse kubeconfig YAML: <detail>"
  | badStructure => "the structure of the parsed kubeconfig is invalid: <detail>"
  | noServer => "cluster url is missing on selected cluster"
  | badServer => "failed to parse cluster url: <detail>"
  | badProxy => "failed to parse proxy url: <detail>"
  | noAuthority => "failed to load certificate authority"
  | badAuthority => "failed to parse PEM-encoded certificates: <detail>"

end KubeconfigError

/-- What a context selects. -/
structure Selection where
  context : Context
  cluster : Cluster
  auth : Auth
  deriving DecidableEq, Repr

namespace Kubeconfig

/-!
Kubeconfigs: named clusters, users and contexts.  Where several are merged, the first to define a
value or a name wins.  Of entries with one name in a single kubeconfig the first counts.
-/

/-- A kubeconfig that holds nothing. -/
def empty : Kubeconfig := ⟨none, none, none, [], [], []⟩

/-- The body of the first entry with a name. -/
def body? {α : Type} (entries : List (Named α)) (name : String) : Option α :=
  (entries.find? (·.name == name)).bind (·.body)

/-- Entries, followed by those others whose names are new. -/
def union {α : Type} (entries others : List (Named α)) : List (Named α) :=
  entries ++ others.filter fun other => !entries.any (·.name == other.name)

/-- Whether both of two values are there and they differ. -/
def conflict (first second : Option String) : Bool :=
  first.any fun a => second.any fun b => a != b

/-- Merges a kubeconfig with a later one. -/
def merge (first second : Kubeconfig) : Except KubeconfigError Kubeconfig :=
  if conflict first.kind second.kind then .error .kindMismatch
  else if conflict first.apiVersion second.apiVersion then .error .apiVersionMismatch
  else
    .ok
      { kind := first.kind <|> second.kind
        apiVersion := first.apiVersion <|> second.apiVersion
        currentContext := first.currentContext <|> second.currentContext
        clusters := union first.clusters second.clusters
        users := union first.users second.users
        contexts := union first.contexts second.contexts }

/-- Merges kubeconfigs, the first before the others. -/
def mergeAll : List Kubeconfig → Except KubeconfigError Kubeconfig
  | [] => .ok empty
  | first :: rest => rest.foldlM merge first

/-- Selects a context by its name, or the current one. -/
def select (kubeconfig : Kubeconfig) (context : Option String) :
    Except KubeconfigError Selection := do
  let some name := context <|> kubeconfig.currentContext | throw .noCurrentContext
  let some context := body? kubeconfig.contexts name | throw (.noContext name)
  let some cluster := body? kubeconfig.clusters context.cluster | throw (.noCluster context.cluster)
  let auth := context.user.bind (body? kubeconfig.users)
  return ⟨context, cluster, auth.getD .anonymous⟩

/-- A file, seen from a directory. -/
def anchor (directory : String) (path : Option String) : Option String :=
  path.map fun path => if Path.isAbsolute path then path else Path.join directory path

/-- The kubeconfig with its files seen from a directory. -/
def anchored (directory : String) (kubeconfig : Kubeconfig) : Kubeconfig :=
  let cluster (cluster : Cluster) : Cluster :=
    { cluster with authorityFile := anchor directory cluster.authorityFile }
  let auth (auth : Auth) : Auth :=
    { auth with
      certificateFile := anchor directory auth.certificateFile
      keyFile := anchor directory auth.keyFile
      tokenFile := anchor directory auth.tokenFile }
  { kubeconfig with
    clusters := kubeconfig.clusters.map fun entry => { entry with body := entry.body.map cluster }
    users := kubeconfig.users.map fun entry => { entry with body := entry.body.map auth } }

/-- The files that a kubeconfig names. -/
def files (kubeconfig : Kubeconfig) : List String :=
  (kubeconfig.clusters.filterMap (·.body)).flatMap (fun cluster => cluster.authorityFile.toList) ++
    (kubeconfig.users.filterMap (·.body)).flatMap fun auth =>
      [auth.certificateFile, auth.keyFile, auth.tokenFile].filterMap id

end Kubeconfig
end PodCommand
