import PodCommand.Connection
import PodCommand.Host
import PodCommand.Kubeconfig
import PodCommand.Pem

namespace PodCommand
namespace Selection

/-!
The connection that a selected context describes.  What is looked at first is blamed first: the
address of the server, then the authority to trust, then the proxy.
-/

/-- The authority to trust; none if the cluster names none. -/
def authority (files : Files) (cluster : Cluster) : Except KubeconfigError (Option Bytes) :=
  match cluster.authorityData, cluster.authorityFile with
  | some text, _ =>
    match Text.Base64.decode? text.toList with
    | some bytes => .ok (some bytes)
    | none => .error .noAuthority
  | none, some path =>
    match files.read path with
    | .ok bytes => .ok (some bytes)
    | .error _ => .error .noAuthority
  | none, none => .ok none

/-- The certificates to trust; none if the cluster names no authority. -/
def roots (files : Files) (cluster : Cluster) :
    Except KubeconfigError (Option (List Bytes)) := do
  match ← authority files cluster with
  | none => return none
  | some bytes =>
    let certificates ← (Pem.certificates (Pem.endLine bytes)).mapError fun _ => .badAuthority
    return some certificates

/-- The proxy to use: the cluster's own, or else the one of the environment. -/
def proxy (host : Host) (cluster : Cluster) : Except KubeconfigError (Option Uri) :=
  let texts := [cluster.proxyUrl, host.valueOf? "HTTPS_PROXY", host.valueOf? "https_proxy"]
  match texts.filterMap (fun text => text.filter (fun text => !text.isEmpty)) with
  | [] => .ok none
  | text :: _ =>
    match Uri.parse? text with
    | some uri => .ok (some uri)
    | none => .error .badProxy

/-- The address of the server. -/
def server (cluster : Cluster) : Except KubeconfigError Uri :=
  match cluster.server with
  | none => .error .noServer
  | some text =>
    match Uri.parse? text with
    | some uri => .ok uri
    | none => .error .badServer

/-- The namespace of a context that names none. -/
def defaultNamespace : String := "default"

/-- The connection that is described. -/
def connection (host : Host) (origin : Origin) (selection : Selection) :
    Except KubeconfigError Connection := do
  let cluster := selection.cluster
  -- A program that hands out credentials may want to know the authority.
  if selection.auth.plugin.any (·.needsCluster) then
    let _ ← authority host.files cluster
  let url ← server cluster
  let roots ← roots host.files cluster
  let proxy ← proxy host cluster
  return ⟨url, selection.context.ns.getD defaultNamespace, selection.auth, roots,
    cluster.insecure.getD false, proxy, cluster.serverName, origin⟩

end Selection
end PodCommand
