import Mathlib.Control.Monad.Basic
import Mathlib.Logic.Relation
import PodCommand.Credentials.Sources
import PodCommand.Proofs.Files

namespace PodCommand

/-!
What the name of a context selects in a kubeconfig.

A name stands for the first entry that bears it.  The name of a context so chooses a context, and
the names in this a cluster and a user, and the connection that is loaded is made of these three:
it does not matter how the name of the context was arrived at, nor what else the kubeconfig holds.
-/

namespace Kubeconfig

/-! ## The first entry of a name -/

/-- The entry that a name stands for: the first to bear it, if any does. -/
inductive First {α : Type} (name : String) : List (Named α) → Option (Named α) → Prop
  | found {before after : List (Named α)} {entry : Named α} (named : entry.name = name)
      (earlier : ∀ other ∈ before, other.name ≠ name) :
      First name (before ++ entry :: after) (some entry)
  | missing {entries : List (Named α)} (others : ∀ other ∈ entries, other.name ≠ name) :
      First name entries none

section

variable {α : Type} {name : String} {entries : List (Named α)} {entry : Option (Named α)}

theorem first_iff : First name entries entry ↔ entries.find? (·.name == name) = entry := by
  constructor
  · intro first
    cases first with
    | found named earlier =>
        refine List.find?_eq_some_iff_append.mpr ⟨beq_iff_eq.mpr named, _, _, rfl, ?_⟩
        intro other member
        simpa using earlier other member
    | missing others =>
        refine List.find?_eq_none.mpr fun other member => ?_
        simpa using others other member
  · rintro rfl
    cases found : entries.find? (·.name == name) with
    | none =>
        refine .missing fun other member => ?_
        simpa using List.find?_eq_none.mp found other member
    | some entry =>
        rcases List.find?_eq_some_iff_append.mp found with ⟨named, before, after, rfl, earlier⟩
        refine .found (beq_iff_eq.mp named) fun other member => ?_
        simpa using earlier other member

theorem exists_first (name : String) (entries : List (Named α)) :
    ∃ entry, First name entries entry :=
  ⟨_, first_iff.mpr rfl⟩

theorem body?_of_first (first : First name entries entry) :
    body? entries name = entry.bind (·.body) := by
  rw [body?, first_iff.mp first]

/-- A name does not stand for an entry that comes after others, as the entry bears another name or
one of those bears the name already. -/
def Spare (name : String) (before : List (Named α)) (entry : Named α) : Prop :=
  entry.name ≠ name ∨ ∃ other ∈ before, other.name = name

theorem first_add {before after : List (Named α)} {added : Named α}
    (spare : Spare name before added) :
    First name (before ++ added :: after) entry ↔ First name (before ++ after) entry := by
  have same : (before ++ added :: after).find? (·.name == name) =
      (before ++ after).find? (·.name == name) := by
    rw [List.find?_append, List.find?_append]
    rcases spare with unnamed | ⟨other, member, named⟩
    · rw [List.find?_cons_of_neg (by simpa using unnamed)]
    · -- The search ends before it gets to the place.
      have found : (before.find? (·.name == name)).isSome = true :=
        List.find?_isSome.mpr ⟨other, member, beq_iff_eq.mpr named⟩
      rw [Option.or_of_isSome found, Option.or_of_isSome found]
  rw [first_iff, first_iff, same]

end

/-! ## Choices -/

/-- The entries that the name of a context leads to. -/
structure Choice where
  context : Option (Named Context)
  cluster : Option (Named Cluster)
  user : Option (Named Auth)

namespace Choice

/-- The body of the context. -/
def context? (choice : Choice) : Option Context := choice.context.bind (·.body)

/-- The body of the cluster. -/
def cluster? (choice : Choice) : Option Cluster := choice.cluster.bind (·.body)

/-- The user's credentials; none are needed of a context that names no user. -/
def auth (choice : Choice) (context : Context) : Auth :=
  (context.user.bind fun _ => choice.user.bind (·.body)).getD .anonymous

/-- What is selected with the name of a context, or what is missing. -/
def selection (choice : Choice) (name : String) : Except KubeconfigError Selection :=
  match choice.context? with
  | none => .error (.noContext name)
  | some context =>
    match choice.cluster? with
    | none => .error (.noCluster context.cluster)
    | some cluster => .ok ⟨context, cluster, choice.auth context⟩

end Choice

/-- The name of a context leads to entries of a kubeconfig: to the first that bears it, and from
there to the first that bear the names in it. -/
structure LeadsTo (kubeconfig : Kubeconfig) (name : String) (choice : Choice) : Prop where
  context : First name kubeconfig.contexts choice.context
  cluster : ∀ context, choice.context? = some context →
    First context.cluster kubeconfig.clusters choice.cluster
  user : ∀ context, choice.context? = some context → ∀ user, context.user = some user →
    First user kubeconfig.users choice.user

section

variable {kubeconfig : Kubeconfig} {name : String} {choice : Choice}

theorem exists_leadsTo (kubeconfig : Kubeconfig) (name : String) :
    ∃ choice, kubeconfig.LeadsTo name choice := by
  rcases exists_first name kubeconfig.contexts with ⟨context, first⟩
  cases body : context.bind (·.body) with
  | none =>
      refine ⟨⟨context, none, none⟩, first, fun context' given => ?_, fun context' given => ?_⟩
      · cases body.symm.trans given
      · cases body.symm.trans given
  | some inner =>
      rcases exists_first inner.cluster kubeconfig.clusters with ⟨cluster, first'⟩
      rcases exists_first (inner.user.getD "") kubeconfig.users with ⟨user, first''⟩
      refine ⟨⟨context, cluster, user⟩, first, fun context' given => ?_,
        fun context' given name named => ?_⟩
      · cases body.symm.trans given
        exact first'
      · cases body.symm.trans given
        rwa [named] at first''

theorem select_of_leadsTo (leads : kubeconfig.LeadsTo name choice) {context : Option String}
    (asked : (context <|> kubeconfig.currentContext) = some name) :
    kubeconfig.select context = choice.selection name := by
  unfold select Choice.selection
  have body : body? kubeconfig.contexts name = choice.context? := body?_of_first leads.context
  simp only [asked, body]
  cases found : choice.context? with
  | none => rfl
  | some inner =>
      have cluster : body? kubeconfig.clusters inner.cluster = choice.cluster? :=
        body?_of_first (leads.cluster inner found)
      have user : inner.user.bind (body? kubeconfig.users) =
          inner.user.bind fun _ => choice.user.bind (·.body) := by
        cases named : inner.user with
        | none => rfl
        | some user => exact body?_of_first (leads.user inner found user named)
      simp only [cluster, user]
      cases choice.cluster? <;> rfl

theorem LeadsTo.context_eq {other : Choice} (leads : kubeconfig.LeadsTo name choice)
    (leads' : kubeconfig.LeadsTo name other) : choice.context = other.context :=
  (first_iff.mp leads.context).symm.trans (first_iff.mp leads'.context)

/-- Where the name leads to the same entries of two kubeconfigs, it leads nowhere else in only one
of them. -/
theorem LeadsTo.transfer {kubeconfig' : Kubeconfig} {other : Choice}
    (leads : kubeconfig.LeadsTo name choice) (leads' : kubeconfig'.LeadsTo name choice)
    (also : kubeconfig.LeadsTo name other) : kubeconfig'.LeadsTo name other := by
  have same : choice.context = other.context := leads.context_eq also
  have body : choice.context? = other.context? := by rw [Choice.context?, Choice.context?, same]
  refine ⟨same ▸ leads'.context, fun context given => ?_, fun context given user named => ?_⟩
  · have cluster : choice.cluster = other.cluster :=
      (first_iff.mp (leads.cluster context (body.trans given))).symm.trans
        (first_iff.mp (also.cluster context given))
    exact cluster ▸ leads'.cluster context (body.trans given)
  · have user' : choice.user = other.user :=
      (first_iff.mp (leads.user context (body.trans given) user named)).symm.trans
        (first_iff.mp (also.user context given user named))
    exact user' ▸ leads'.user context (body.trans given) user named

end

/-! ## Edits -/

/-- Adds an entry that the name of a context does not lead to. -/
inductive Adds (name : String) (kubeconfig : Kubeconfig) : Kubeconfig → Prop
  | context {before after : List (Named Context)} {entry : Named Context}
      (there : kubeconfig.contexts = before ++ after) (spare : Spare name before entry) :
      Adds name kubeconfig { kubeconfig with contexts := before ++ entry :: after }
  | cluster {before after : List (Named Cluster)} {entry : Named Cluster}
      (there : kubeconfig.clusters = before ++ after)
      (spare : ∀ context, body? kubeconfig.contexts name = some context →
        Spare context.cluster before entry) :
      Adds name kubeconfig { kubeconfig with clusters := before ++ entry :: after }
  | user {before after : List (Named Auth)} {entry : Named Auth}
      (there : kubeconfig.users = before ++ after)
      (spare : ∀ context, body? kubeconfig.contexts name = some context →
        ∀ user, context.user = some user → Spare user before entry) :
      Adds name kubeconfig { kubeconfig with users := before ++ entry :: after }

/-- Entries that the name of a context does not lead to are added and taken away, and so changed. -/
def Edited (name : String) : Kubeconfig → Kubeconfig → Prop :=
  Relation.EqvGen (Adds name)

section

variable {kubeconfig kubeconfig' : Kubeconfig} {name : String} {choice : Choice}

theorem leadsTo_adds (adds : Adds name kubeconfig kubeconfig') :
    kubeconfig'.LeadsTo name choice ↔ kubeconfig.LeadsTo name choice := by
  -- Only one of the lists is different, and in it the name in question finds the same entry.  That
  -- name is told by the context, which is the same on both sides where another list is edited.
  cases adds with
  | context there spare =>
      constructor
      · rintro ⟨context, cluster, user⟩
        refine ⟨?_, cluster, user⟩
        rw [there]
        exact (first_add spare).mp context
      · rintro ⟨context, cluster, user⟩
        rw [there] at context
        exact ⟨(first_add spare).mpr context, cluster, user⟩
  | cluster there spare =>
      constructor
      · rintro ⟨context, cluster, user⟩
        refine ⟨context, fun inner given => ?_, user⟩
        rw [there]
        exact (first_add (spare inner ((body?_of_first context).trans given))).mp
          (cluster inner given)
      · rintro ⟨context, cluster, user⟩
        rw [there] at cluster
        exact ⟨context, fun inner given =>
          (first_add (spare inner ((body?_of_first context).trans given))).mpr
            (cluster inner given), user⟩
  | user there spare =>
      constructor
      · rintro ⟨context, cluster, user⟩
        refine ⟨context, cluster, fun inner given name named => ?_⟩
        rw [there]
        exact (first_add (spare inner ((body?_of_first context).trans given) name named)).mp
          (user inner given name named)
      · rintro ⟨context, cluster, user⟩
        rw [there] at user
        exact ⟨context, cluster, fun inner given name named =>
          (first_add (spare inner ((body?_of_first context).trans given) name named)).mpr
            (user inner given name named)⟩

theorem leadsTo_edited (edited : Edited name kubeconfig kubeconfig') :
    kubeconfig'.LeadsTo name choice ↔ kubeconfig.LeadsTo name choice := by
  induction edited with
  | rel _ _ adds => exact leadsTo_adds adds
  | refl _ => exact Iff.rfl
  | symm _ _ _ same => exact same.symm
  | trans _ _ _ _ _ first second => exact second.trans first

theorem leadsTo_current (current : Option String) :
    LeadsTo { kubeconfig with currentContext := current } name choice ↔
      kubeconfig.LeadsTo name choice :=
  ⟨fun ⟨context, cluster, user⟩ => ⟨context, cluster, user⟩,
    fun ⟨context, cluster, user⟩ => ⟨context, cluster, user⟩⟩

end
end Kubeconfig

/-! ## What a selection is made of -/

/-- Two hosts give the same answers where a connection to a cluster asks for a proxy or for the
authority to trust. -/
structure Host.Alike (host host' : Host) (cluster : Option Cluster) : Prop where
  proxies : ∀ name ∈ ["HTTPS_PROXY", "https_proxy"], host.valueOf? name = host'.valueOf? name
  authority : ∀ path ∈ cluster.bind (·.authorityFile), host.files.read path = host'.files.read path

namespace Selection

variable {host host' : Host} {selection : Selection} {origin : Origin} {connection : Connection}

theorem connection_congr (alike : host.Alike host' (some selection.cluster)) :
    selection.connection host origin = selection.connection host' origin := by
  have trusted : authority host.files selection.cluster =
      authority host'.files selection.cluster := by
    unfold authority
    cases data : selection.cluster.authorityData with
    | some text => rfl
    | none =>
        cases file : selection.cluster.authorityFile with
        | none => rfl
        | some path =>
            have same : host.files.read path = host'.files.read path := alike.authority path file
            simp only [same]
  have proxied : proxy host selection.cluster = proxy host' selection.cluster := by
    have first : host.valueOf? "HTTPS_PROXY" = host'.valueOf? "HTTPS_PROXY" :=
      alike.proxies _ (by simp)
    have second : host.valueOf? "https_proxy" = host'.valueOf? "https_proxy" :=
      alike.proxies _ (by simp)
    rw [proxy, proxy, first, second]
  unfold Selection.connection roots
  simp only [trusted, proxied]

theorem parse?_of_server {cluster : Cluster} {url : Uri} (there : server cluster = .ok url) :
    cluster.server.bind Uri.parse? = some url := by
  unfold server at there
  cases text : cluster.server with
  | none =>
      rw [text] at there
      cases there
  | some text' =>
      simp only [text] at there
      cases parsed : Uri.parse? text' with
      | none =>
          rw [parsed] at there
          cases there
      | some url' =>
          rw [parsed] at there
          cases there
          simpa using parsed

/-- A connection is made of the three parts of a selection. -/
structure Makes (host : Host) (origin : Origin) (selection : Selection)
    (connection : Connection) : Prop where
  url : selection.cluster.server.bind Uri.parse? = some connection.url
  defaultNamespace : connection.defaultNamespace = selection.context.ns.getD "default"
  auth : connection.auth = selection.auth
  roots : roots host.files selection.cluster = .ok connection.roots
  acceptsInvalidCertificates :
    connection.acceptsInvalidCertificates = selection.cluster.insecure.getD false
  proxy : proxy host selection.cluster = .ok connection.proxy
  serverName : connection.serverName = selection.cluster.serverName
  origin : connection.origin = origin

/-- The connection that is described, if no program needs to know the authority. -/
def assembled (host : Host) (origin : Origin) (selection : Selection) :
    Except KubeconfigError Connection := do
  let url ← server selection.cluster
  let roots ← Selection.roots host.files selection.cluster
  let proxy ← Selection.proxy host selection.cluster
  return ⟨url, selection.context.ns.getD defaultNamespace, selection.auth, roots,
    selection.cluster.insecure.getD false, proxy, selection.cluster.serverName, origin⟩

theorem makes_of_assembled (made : selection.assembled host origin = .ok connection) :
    selection.Makes host origin connection := by
  obtain ⟨url, there, made⟩ := bind_eq_ok made
  obtain ⟨certificates, trusted, made⟩ := bind_eq_ok made
  obtain ⟨proxy, proxied, made⟩ := bind_eq_ok made
  cases made
  exact ⟨parse?_of_server there, rfl, rfl, trusted, rfl, proxied, rfl, rfl⟩

theorem makes_of_connection (made : selection.connection host origin = .ok connection) :
    selection.Makes host origin connection := by
  refine makes_of_assembled ?_
  -- That a program has been told the authority leaves nothing behind in the connection.
  unfold Selection.connection at made
  dsimp only at made
  split at made
  · obtain ⟨_, _, made⟩ := bind_eq_ok made
    exact made
  · exact made

end Selection

/-! ## Loading -/

namespace KubeconfigSource

/-- A source asks for a context by its name, of the kubeconfig that it reads on a host. -/
structure Asks (source : KubeconfigSource) (host : Host) (path : String) (kubeconfig : Kubeconfig)
    (name : String) : Prop where
  file : source.file host = .ok path
  read : Kubeconfig.readFile host.files path = .ok kubeconfig
  /-- An explicit name comes before that of the current context. -/
  name : (source.context <|> kubeconfig.currentContext) = some name

variable {source : KubeconfigSource} {host : Host} {path name : String} {kubeconfig : Kubeconfig}
  {choice : Kubeconfig.Choice}

theorem pathExists_of_readFile (read : Kubeconfig.readFile host.files path = .ok kubeconfig) :
    host.files.pathExists path = true := by
  obtain ⟨text, read, -⟩ := bind_eq_ok read
  cases held : host.files.read path with
  | ok content => exact Files.pathExists_of_read held
  | error error =>
      rw [Kubeconfig.readText, held] at read
      cases read

/-- What a source loads is determined by the entries that the name leads to. -/
theorem load_of_leadsTo (asks : source.Asks host path kubeconfig name)
    (leads : kubeconfig.LeadsTo name choice) :
    source.load host =
      ((choice.selection name).bind (·.connection host (.kubeconfig path))).mapError
        (.kubeconfig path) := by
  have there : host.files.pathExists path = true := pathExists_of_readFile asks.read
  have selected : kubeconfig.select source.context = choice.selection name :=
    Kubeconfig.select_of_leadsTo leads asks.name
  simp only [load, connection, asks.file, there, asks.read, selected, bind, Except.bind,
    Bool.not_true, Bool.false_eq_true, if_false]

end KubeconfigSource

namespace Kubeconfig

/-- Two kubeconfigs give the same, a connection or an error, to whoever asks for a context by its
name, where the cluster's connection does not depend on the difference between the hosts. -/
def SameOutcome (name : String) (kubeconfig kubeconfig' : Kubeconfig) : Prop :=
  ∀ {source source' : KubeconfigSource} {host host' : Host} {path : String} {choice : Choice},
    source.Asks host path kubeconfig name → source'.Asks host' path kubeconfig' name →
      kubeconfig.LeadsTo name choice → host.Alike host' choice.cluster? →
        source.load host = source'.load host'

variable {kubeconfig kubeconfig' : Kubeconfig} {name : String} {choice : Choice}

theorem connection_selection_congr {host host' : Host} (origin : Origin)
    (alike : host.Alike host' choice.cluster?) :
    (choice.selection name).bind (·.connection host origin) =
      (choice.selection name).bind (·.connection host' origin) := by
  unfold Choice.selection
  cases choice.context? with
  | none => rfl
  | some context =>
      cases found : choice.cluster? with
      | none => rfl
      | some cluster =>
          rw [found] at alike
          exact Selection.connection_congr alike

theorem makes_of_selection {host : Host} {origin : Origin} {connection : Connection}
    (made : (choice.selection name).bind (·.connection host origin) = .ok connection) :
    ∃ context cluster, choice.context? = some context ∧ choice.cluster? = some cluster ∧
      Selection.Makes host origin ⟨context, cluster, choice.auth context⟩ connection := by
  unfold Choice.selection at made
  cases first : choice.context? with
  | none =>
      rw [first] at made
      cases made
  | some context =>
      cases second : choice.cluster? with
      | none =>
          simp only [first, second] at made
          cases made
      | some cluster =>
          simp only [first, second] at made
          exact ⟨context, cluster, rfl, rfl, Selection.makes_of_connection made⟩

/-- Where no entry bears the name of a context, nothing is selected with it. -/
theorem selection_missing (others : ∀ entry ∈ kubeconfig.contexts, entry.name ≠ name)
    (leads : kubeconfig.LeadsTo name choice) :
    choice.selection name = .error (.noContext name) := by
  have nothing : choice.context = none :=
    (first_iff.mp leads.context).symm.trans (first_iff.mp (.missing others))
  have body : choice.context? = none := by rw [Choice.context?, nothing, Option.bind_none]
  rw [Choice.selection, body]

theorem sameOutcome_of_leadsTo
    (shared : ∀ choice, kubeconfig.LeadsTo name choice → kubeconfig'.LeadsTo name choice) :
    SameOutcome name kubeconfig kubeconfig' := by
  intro source source' host host' path choice asks asks' leads alike
  rw [KubeconfigSource.load_of_leadsTo asks leads,
    KubeconfigSource.load_of_leadsTo asks' (shared choice leads),
    connection_selection_congr _ alike]

/-- What a source loads from a kubeconfig when it asks for a context by its name. -/
structure SelectedByName (kubeconfig : Kubeconfig) (name : String) : Prop where
  leads : ∃ choice, kubeconfig.LeadsTo name choice
  /-- An explicit name does what the same name does as that of the current context. -/
  current : SameOutcome name kubeconfig { kubeconfig with currentContext := some name }
  /-- Nothing counts but the entries that the name leads to. -/
  others : ∀ {kubeconfig' : Kubeconfig} {choice : Choice}, kubeconfig.LeadsTo name choice →
    kubeconfig'.LeadsTo name choice → SameOutcome name kubeconfig kubeconfig'
  edited : ∀ {kubeconfig' : Kubeconfig}, Edited name kubeconfig kubeconfig' →
    SameOutcome name kubeconfig kubeconfig'
  /-- A connection is made of the entries that the name leads to. -/
  taken : ∀ {source : KubeconfigSource} {host : Host} {path : String} {choice : Choice}
    {connection : Connection}, source.Asks host path kubeconfig name →
      kubeconfig.LeadsTo name choice → source.load host = .ok connection →
        ∃ context cluster, choice.context? = some context ∧ choice.cluster? = some cluster ∧
          Selection.Makes host (.kubeconfig path) ⟨context, cluster, choice.auth context⟩ connection
  /-- Where no entry bears the name, the error says so. -/
  missing : (∀ entry ∈ kubeconfig.contexts, entry.name ≠ name) →
    ∀ {source : KubeconfigSource} {host : Host} {path : String},
      source.Asks host path kubeconfig name → ∃ error, source.load host = .error error ∧
        error.message = "failed to load kubeconfig " ++ Path.quoted path ++ ": " ++
          ("failed to load current context: " ++ name)

theorem selected_by_name (kubeconfig : Kubeconfig) (name : String) :
    kubeconfig.SelectedByName name where
  leads := exists_leadsTo kubeconfig name
  current := sameOutcome_of_leadsTo fun _ leads => (leadsTo_current _).mpr leads
  others leads leads' := sameOutcome_of_leadsTo fun _ also => leads.transfer leads' also
  edited edited := sameOutcome_of_leadsTo fun _ leads => (leadsTo_edited edited).mpr leads
  taken := by
    intro source host path choice connection asks leads loaded
    rw [KubeconfigSource.load_of_leadsTo asks leads] at loaded
    cases made : (choice.selection name).bind (·.connection host (.kubeconfig path)) with
    | error error =>
        rw [made] at loaded
        cases loaded
    | ok connection' =>
        rw [made] at loaded
        cases loaded
        exact makes_of_selection made
  missing := by
    intro others source host path asks
    obtain ⟨choice, leads⟩ := exists_leadsTo kubeconfig name
    refine ⟨.kubeconfig path (.noContext name), ?_, rfl⟩
    rw [KubeconfigSource.load_of_leadsTo asks leads, selection_missing others leads]
    rfl

/-- Two contexts, the first of which has no cluster. -/
def twoContexts : Kubeconfig :=
  ⟨none, none, some "a", [⟨"d", some ⟨some "http://l", none, none, none, none, none⟩⟩], [],
    [⟨"a", some ⟨"c", none, none⟩⟩, ⟨"b", some ⟨"d", none, some "ops"⟩⟩]⟩

/-- What the name of the second context leads to. -/
def secondContext : Choice := ⟨twoContexts.contexts[1]?, twoContexts.clusters[0]?, none⟩

/-- A host with two contexts, one of which is the current one. -/
def hostAt (current : String) : Host :=
  let kubeconfig :=
    "current-context: " ++ current ++ "\nclusters:\n- name: d\n  cluster:\n" ++
      "    server: http://l\ncontexts:\n- name: a\n  context:\n    cluster: c\n" ++
      "- name: b\n  context:\n    cluster: d\n    namespace: ops\n"
  ⟨⟨[(["k"], .file (Text.Utf8.encode kubeconfig.toList))]⟩, [], none⟩

/-- Of one host the second context is asked for by its name; of the other it is the current one. -/
theorem twoContexts_alike :
    (KubeconfigSource.mk (some "k") (some "b")).load (hostAt "a") =
        (KubeconfigSource.mk (some "k") none).load (hostAt "b") ∧
      ((KubeconfigSource.mk (some "k") (some "b")).load (hostAt "a")).toOption.map
        (·.defaultNamespace) = some "ops" := by
  have explicit : KubeconfigSource.Asks ⟨some "k", some "b"⟩ (hostAt "a") "k" twoContexts "b" :=
    ⟨rfl, by decide +kernel, rfl⟩
  have current : KubeconfigSource.Asks ⟨some "k", none⟩ (hostAt "b") "k"
      { twoContexts with currentContext := some "b" } "b" :=
    ⟨rfl, by decide +kernel, rfl⟩
  have leads : twoContexts.LeadsTo "b" secondContext := by
    refine ⟨first_iff.mpr (by decide +kernel), fun context given => ?_,
      fun context given user named => ?_⟩
    · cases given
      exact first_iff.mpr (by decide +kernel)
    · cases given
      cases named
  have alike : (hostAt "a").Alike (hostAt "b") secondContext.cluster? := by
    have bare (current : String) : (hostAt current).environment = [] := rfl
    refine ⟨fun name _ => ?_, fun path file => ?_⟩
    · rw [Host.valueOf?, Host.valueOf?, bare, bare]
    · cases file
  have same := (selected_by_name twoContexts "b").current explicit current leads alike
  refine ⟨same, ?_⟩
  rw [KubeconfigSource.load_of_leadsTo explicit leads]
  decide +kernel

end Kubeconfig
end PodCommand
