import PodCommand.Yaml.Record

namespace PodCommand

/-- A login service that hands out tokens, with its settings. -/
structure AuthProvider where
  name : String
  settings : List (String × String)
  deriving DecidableEq, Repr

/-- A program that hands out credentials. -/
structure AuthPlugin where
  command : Option String
  /-- Whether the program is told about the cluster. -/
  needsCluster : Bool
  deriving DecidableEq, Repr

/-- What a user proves its identity with.  More than one means may be given. -/
structure Auth where
  username : Option String
  password : Option String
  token : Option String
  tokenFile : Option String
  /-- A file, and the inline form that takes precedence over it; so too for the key. -/
  certificateFile : Option String
  certificateData : Option String
  keyFile : Option String
  keyData : Option String
  /-- The user and the groups to act as. -/
  actAs : Option String
  actAsGroups : Option (List String)
  provider : Option AuthProvider
  plugin : Option AuthPlugin
  deriving DecidableEq, Repr, Inhabited

/-- The means by which a user is identified. -/
inductive AuthKind
  | token
  | clientCertificate
  | plugin
  | basic
  | anonymous
  deriving DecidableEq, Repr

namespace Auth

/-!
What users prove their identity with, and how it is written in a kubeconfig.
-/

/-- A user without any credentials. -/
def anonymous : Auth :=
  ⟨.none, .none, .none, .none, .none, .none, .none, .none, .none, .none, .none, .none⟩

/-- The means by which the user is identified: the first of those that are there, even if it is
empty. -/
def kind (auth : Auth) : AuthKind :=
  if auth.token.isSome || auth.tokenFile.isSome then .token
  else if auth.certificateFile.isSome || auth.certificateData.isSome then .clientCertificate
  else if auth.plugin.isSome || auth.provider.isSome then .plugin
  else if auth.username.isSome then .basic
  else .anonymous

open Yaml (Value)

/-- Reads a login service. -/
def readProvider (value : Value) : Option AuthProvider := do
  let record ← value.readRecord
  let name ← record.required "name" Value.readText
  let settings ← record.orElse "config" [] (Value.readTable Value.readText)
  return ⟨name, settings⟩

/-- Reads whether a program may ask its user. -/
def readInteraction (value : Value) : Option String :=
  let name :=
    match value with
    | .text name | .tagged name .null => some name
    | _ => .none
  name.filter (["Never", "IfAvailable", "Always"].contains ·)

/-- Reads a program that hands out credentials. -/
def readPlugin (value : Value) : Option AuthPlugin := do
  let record ← value.readRecord
  let _ ← record.allowed "apiVersion" Value.readText
  let command ← record.allowed "command" Value.readText
  let _ ← record.allowed "args" (Value.readList Value.readText)
  let _ ← record.allowed "env" (Value.readList (Value.readTable Value.readText))
  let _ ← record.allowed "interactiveMode" readInteraction
  let needsCluster ← record.orElse "provideClusterInfo" false Value.readBool
  return ⟨command, needsCluster⟩

/-- Reads what a user proves its identity with. -/
def read (value : Value) : Option Auth := do
  let record ← value.readRecord
  let text (name : String) := record.allowed name Value.readText
  let username ← text "username"
  let password ← text "password"
  let token ← text "token"
  let tokenFile ← text "tokenFile"
  let certificateFile ← text "client-certificate"
  let certificateData ← text "client-certificate-data"
  let keyFile ← text "client-key"
  let keyData ← text "client-key-data"
  let actAs ← text "as"
  let actAsGroups ← record.allowed "as-groups" (Value.readList Value.readText)
  let provider ← record.allowed "auth-provider" readProvider
  let plugin ← record.allowed "exec" readPlugin
  return ⟨username, password, token, tokenFile, certificateFile, certificateData, keyFile, keyData,
    actAs, actAsGroups, provider, plugin⟩

end Auth
end PodCommand
