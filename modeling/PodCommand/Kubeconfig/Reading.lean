import PodCommand.Files
import PodCommand.Kubeconfig
import PodCommand.Text.Encoding

namespace PodCommand
namespace Kubeconfig

/-!
Reading kubeconfigs.  A text may consist of several documents; all are read before they are merged,
and an empty document is an empty kubeconfig.
-/

open Yaml (Value)

/-- Checks a value of any kind that has no tag and no names but texts; the fuel bounds its depth. -/
def readAny (fuel : Nat) (value : Value) : Option Unit :=
  match fuel, value with
  | 0, _ => none
  | _ + 1, .tagged _ _ => none
  | fuel + 1, .sequence items => items.forM (readAny fuel)
  | fuel + 1, .mapping entries =>
    entries.forM fun entry => do
      let _ ← entry.1.readText
      readAny fuel entry.2
  | _ + 1, _ => some ()

/-- Checks a named extension. -/
def readExtension (value : Value) : Option Unit := do
  let record ← value.readRecord
  let _ ← record.required "name" Value.readText
  record.required "extension" (readAny Yaml.maxDepth)

/-- Checks the extensions of a record. -/
def readExtensions (record : Yaml.Record) : Option Unit := do
  let _ ← record.allowed "extensions" (Value.readList readExtension)

/-- Checks the preferences of a user. -/
def readPreferences (value : Value) : Option Unit := do
  let record ← value.readRecord
  let _ ← record.allowed "colors" Value.readBool
  readExtensions record

/-- Reads a cluster. -/
def readCluster (value : Value) : Option Cluster := do
  let record ← value.readRecord
  let text (name : String) := record.allowed name Value.readText
  let server ← text "server"
  let insecure ← record.allowed "insecure-skip-tls-verify" Value.readBool
  let authorityFile ← text "certificate-authority"
  let authorityData ← text "certificate-authority-data"
  let proxyUrl ← text "proxy-url"
  let _ ← record.allowed "disable-compression" Value.readBool
  let serverName ← text "tls-server-name"
  readExtensions record
  return ⟨server, insecure, authorityFile, authorityData, proxyUrl, serverName⟩

/-- Reads a context. -/
def readContext (value : Value) : Option Context := do
  let record ← value.readRecord
  let cluster ← record.required "cluster" Value.readText
  let user ← record.allowed "user" Value.readText
  let ns ← record.allowed "namespace" Value.readText
  readExtensions record
  return ⟨cluster, user, ns⟩

/-- Reads an entry of a list, whose body has a name of its own. -/
def readNamed {α : Type} (field : String) (read : Value → Option α) (value : Value) :
    Option (Named α) := do
  let record ← value.readRecord
  let name ← record.required "name" Value.readText
  let body ← record.allowed field read
  return ⟨name, body⟩

/-- Reads a kubeconfig out of the value of a document. -/
def ofValue (value : Value) : Option Kubeconfig := do
  let record ← value.readRecord
  let _ ← record.allowed "preferences" readPreferences
  let list {α : Type} (field entry : String) (read : Value → Option α) :=
    record.orElse field [] (Value.readList (readNamed entry read))
  let clusters ← list "clusters" "cluster" readCluster
  let users ← list "users" "user" Auth.read
  let contexts ← list "contexts" "context" readContext
  let currentContext ← record.allowed "current-context" Value.readText
  readExtensions record
  let kind ← record.allowed "kind" Value.readText
  let apiVersion ← record.allowed "apiVersion" Value.readText
  return ⟨kind, apiVersion, currentContext, clusters, users, contexts⟩

/-- Reads the kubeconfig that the value of one document is. -/
def ofDocument : Except Unit Value → Except KubeconfigError Kubeconfig
  | .error _ => .error .malformed
  | .ok value =>
    match ofValue value with
    | some kubeconfig => .ok kubeconfig
    | none => .error .badStructure

/-- Reads the kubeconfigs in a text. -/
def ofText (text : List Char) : Except KubeconfigError (List Kubeconfig) :=
  (Yaml.values text).mapM ofDocument

/-- Reads the text of a file. -/
def readText (files : Files) (path : String) : Except KubeconfigError (List Char) :=
  match files.read path with
  | .error error => .error (.unreadable path error.message)
  | .ok bytes =>
    match Text.decodeMarked bytes with
    | .ok text => .ok text
    | .error encoding => .error (.unreadable path encoding.complaint)

/-- Reads the kubeconfig in a file. -/
def readFile (files : Files) (path : String) : Except KubeconfigError Kubeconfig := do
  let kubeconfigs ← ofText (← readText files path)
  match Path.parent? path with
  | some directory => mergeAll (kubeconfigs.map (anchored directory))
  | none => mergeAll kubeconfigs

end Kubeconfig
end PodCommand
