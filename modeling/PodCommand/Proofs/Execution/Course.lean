import PodCommand.Execution
import PodCommand.Transport

namespace PodCommand

/-!
The course of a run: which sources of credentials it loads from, whether it makes its call, and what
decides its result.

The sources and the call may do anything to the world in which they are run.  A run with notes is
the same run over a world that also holds a list, to which each load and each call is added as it is
made; so that a source is loaded once, or that no call is made, is a fact about the notes.  `Course`
lists the ways in which a run can go, and what a run promises is read off from them.
-/

theorem Ending.map_map {ε δ ζ α β γ : Type} (error : ε → δ) (value : α → β) (error' : δ → ζ)
    (value' : β → γ) (ending : Ending ε α) :
    (ending.map error value).map error' value' =
      ending.map (error' ∘ error) (value' ∘ value) := by
  cases ending with
  | returned result => cases result <;> rfl
  | clockOverflow => rfl
  | endless => rfl

namespace Execution

section

variable {σ : Type}

/-! ## Noting down what is done -/

/-- Something that a run does. -/
inductive Act
  | loadInCluster
  | loadKubeconfig
  /-- The call is made, over a client. -/
  | call (client : Client)
  deriving DecidableEq, Repr

/-- An action that is noted down as it is done. -/
def noted {α : Type} (act : Act) (action : StateM σ α) : StateT (List Act) (StateM σ) α :=
  fun acts => do return (← action, acts ++ [act])

/-- Sources that are noted down when they are loaded from. -/
def notedSources (resolver : Resolver (StateM σ)) : Resolver (StateT (List Act) (StateM σ)) :=
  ⟨noted .loadInCluster resolver.inCluster, noted .loadKubeconfig resolver.kubeconfig⟩

/-- A run with notes of everything that it does. -/
def notedTexts (builder : Client.Builder) (resolver : Resolver (StateM σ))
    (call : Client → StateM σ (Ending ExecError Output)) :
    StateM σ (Ending ExecutionError (String × String) × List Act) :=
  (texts builder (notedSources resolver) fun client => noted (.call client) (call client)).run []

/-- What comes after an action is run in the world that the action leaves. -/
theorem run_bind {α β : Type} {first : StateM σ α} {rest : α → StateM σ β} {world after : σ}
    {value : α} (done : first.run world = (value, after)) :
    (first >>= rest).run world = (rest value).run after := by
  rw [StateT.run_bind, done]
  rfl

/-- The same for a run with notes. -/
theorem run_run_bind {α β : Type} {first : StateT (List Act) (StateM σ) α}
    {rest : α → StateT (List Act) (StateM σ) β} {acts acts' : List Act} {world after : σ}
    {value : α} (done : (first.run acts).run world = ((value, acts'), after)) :
    ((first >>= rest).run acts).run world = ((rest value).run acts').run after := by
  rw [StateT.run_bind]
  exact run_bind done

theorem noted_run {α : Type} {act : Act} {action : StateM σ α} {acts : List Act} {world after : σ}
    {value : α} (done : action.run world = (value, after)) :
    ((noted act action).run acts).run world = ((value, acts ++ [act]), after) := by
  have written : (noted act action).run acts = (do return (← action, acts ++ [act])) := rfl
  rw [written]
  exact run_bind done

/-! ## The search for credentials -/

/-- The first source that gives a connection: which one it is, by what has been loaded from, and the
world afterwards. -/
inductive Found (resolver : Resolver (StateM σ)) (world : σ) (connection : Connection) :
    List Act → σ → Prop
  | inCluster {after : σ} (loaded : resolver.inCluster.run world = (.ok connection, after)) :
      Found resolver world connection [.loadInCluster] after
  | kubeconfig {error : SourceError} {between after : σ}
      (failed : resolver.inCluster.run world = (.error error, between))
      (loaded : resolver.kubeconfig.run between = (.ok connection, after)) :
      Found resolver world connection [.loadInCluster, .loadKubeconfig] after

/-- A search that finds a connection. -/
theorem Found.resolve {resolver : Resolver (StateM σ)} {world after : σ} {connection : Connection}
    {loads : List Act} (found : Found resolver world connection loads after) :
    ∃ events, resolver.resolve.run world = (⟨.ok connection, events⟩, after) ∧
      ((notedSources resolver).resolve.run []).run world =
        ((⟨.ok connection, events⟩, loads), after) := by
  cases found with
  | inCluster loaded => exact ⟨_, run_bind loaded, run_run_bind (noted_run loaded)⟩
  | kubeconfig failed loaded =>
      exact ⟨_, (run_bind failed).trans (run_bind loaded),
        (run_run_bind (noted_run failed)).trans (run_run_bind (noted_run loaded))⟩

/-- A search that finds nothing. -/
theorem resolve_unresolved {resolver : Resolver (StateM σ)} {world between after : σ}
    {inCluster kubeconfig : SourceError}
    (first : resolver.inCluster.run world = (.error inCluster, between))
    (second : resolver.kubeconfig.run between = (.error kubeconfig, after)) :
    ∃ events, resolver.resolve.run world = (⟨.error ⟨inCluster, kubeconfig⟩, events⟩, after) ∧
      ((notedSources resolver).resolve.run []).run world =
        ((⟨.error ⟨inCluster, kubeconfig⟩, events⟩, [.loadInCluster, .loadKubeconfig]), after) :=
  ⟨_, (run_bind first).trans (run_bind second),
    (run_run_bind (noted_run first)).trans (run_run_bind (noted_run second))⟩

/-- A search finds a connection unless both sources fail. -/
theorem found_or_unresolved (resolver : Resolver (StateM σ)) (world : σ) :
    (∃ connection loads after, Found resolver world connection loads after) ∨
      ∃ inCluster kubeconfig between after,
        resolver.inCluster.run world = (.error inCluster, between) ∧
          resolver.kubeconfig.run between = (.error kubeconfig, after) := by
  rcases first : resolver.inCluster.run world with ⟨_ | connection, between⟩
  · rcases second : resolver.kubeconfig.run between with ⟨_ | connection, after⟩
    · exact .inr ⟨_, _, _, _, rfl, second⟩
    · exact .inl ⟨connection, _, after, .kubeconfig first second⟩
  · exact .inl ⟨connection, _, between, .inCluster first⟩

/-- A search cannot find two things. -/
theorem Found.unique {resolver : Resolver (StateM σ)} {world after after' : σ}
    {connection connection' : Connection} {loads loads' : List Act}
    (found : Found resolver world connection loads after)
    (found' : Found resolver world connection' loads' after') :
    connection' = connection ∧ loads' = loads ∧ after' = after := by
  cases found with
  | inCluster loaded =>
      cases found' with
      | inCluster loaded' =>
          cases loaded.symm.trans loaded'
          exact ⟨rfl, rfl, rfl⟩
      | kubeconfig failed' => cases loaded.symm.trans failed'
  | kubeconfig failed loaded =>
      cases found' with
      | inCluster loaded' => cases failed.symm.trans loaded'
      | kubeconfig failed' loaded' =>
          cases failed.symm.trans failed'
          cases loaded.symm.trans loaded'
          exact ⟨rfl, rfl, rfl⟩

/-- A search that finds something does not also fail. -/
theorem Found.not_unresolved {resolver : Resolver (StateM σ)} {world after : σ}
    {connection : Connection} {loads : List Act}
    (found : Found resolver world connection loads after) {inCluster kubeconfig : SourceError}
    {between after' : σ} (first : resolver.inCluster.run world = (.error inCluster, between)) :
    resolver.kubeconfig.run between ≠ (.error kubeconfig, after') := by
  intro second
  cases found with
  | inCluster loaded => cases loaded.symm.trans first
  | kubeconfig failed loaded =>
      cases failed.symm.trans first
      cases loaded.symm.trans second

/-- A search loads from the first source once, and from the second only if the first has failed. -/
theorem Found.count {resolver : Resolver (StateM σ)} {world after : σ} {connection : Connection}
    {loads : List Act} (found : Found resolver world connection loads after) :
    loads.count .loadInCluster = 1 ∧
      loads.count .loadKubeconfig = if (resolver.inCluster.run world).1.isOk then 0 else 1 := by
  cases found with
  | inCluster loaded => simp [loaded, Except.isOk, Except.toBool]
  | kubeconfig failed loaded => simp [failed, Except.isOk, Except.toBool]

/-! ## The ways in which a run can go -/

/-- How a run can go, with its ending, its notes and the world afterwards. -/
inductive Course (builder : Client.Builder) (resolver : Resolver (StateM σ))
    (call : Client → StateM σ (Ending ExecError Output)) (world : σ) :
    Ending ExecutionError (String × String) → List Act → σ → Prop
  | unresolved {inCluster kubeconfig : SourceError} {between after : σ}
      (first : resolver.inCluster.run world = (.error inCluster, between))
      (second : resolver.kubeconfig.run between = (.error kubeconfig, after)) :
      Course builder resolver call world
        (.returned (.error (.credentials ⟨inCluster, kubeconfig⟩)))
        [.loadInCluster, .loadKubeconfig] after
  | refused {connection : Connection} {loads : List Act} {after : σ} {error : ClientError}
      (found : Found resolver world connection loads after)
      (rejected : Client.build builder connection = .error error) :
      Course builder resolver call world (.returned (.error (.client error))) loads after
  | called {connection : Connection} {loads : List Act} {between after : σ} {client : Client}
      {own : Ending ExecError Output} (found : Found resolver world connection loads between)
      (built : Client.build builder connection = .ok client)
      (made : (call client).run between = (own, after)) :
      Course builder resolver call world (own.map .exec Output.texts) (loads ++ [.call client])
        after

/-- What a run does with what a search for credentials has come to. -/
def proceed {m : Type → Type} [Monad m] (builder : Client.Builder)
    (call : Client → m (Ending ExecError Output)) (resolution : Resolution) :
    m (Ending ExecutionError (String × String)) :=
  match resolution.result with
  | .error error => return .returned (.error (.credentials error))
  | .ok connection =>
    match Client.build builder connection with
    | .error error => return .returned (.error (.client error))
    | .ok client => return (← call client).map .exec Output.texts

theorem texts_eq {m : Type → Type} [Monad m] [LawfulMonad m] (builder : Client.Builder)
    (resolver : Resolver m) (call : Client → m (Ending ExecError Output)) :
    texts builder resolver call = resolver.resolve >>= proceed builder call := by
  simp only [texts, run, connect, bind_assoc]
  congr 1
  funext resolution
  rcases resolution with ⟨result, events⟩
  cases result with
  | error error => simp [proceed, Ending.map]
  | ok connection =>
      cases built : Client.build builder connection with
      | error error => simp [proceed, Ending.map, built]
      | ok client => simp [proceed, built, Ending.map_map]

/-- Every run goes one of these ways, and without its notes it is the plain run. -/
theorem course (builder : Client.Builder) (resolver : Resolver (StateM σ))
    (call : Client → StateM σ (Ending ExecError Output)) (world : σ) :
    ∃ ending acts after,
      (notedTexts builder resolver call).run world = ((ending, acts), after) ∧
        (texts builder resolver call).run world = (ending, after) ∧
        Course builder resolver call world ending acts after := by
  simp only [notedTexts, texts_eq]
  rcases found_or_unresolved resolver world with
    ⟨connection, loads, between, found⟩ | ⟨inCluster, kubeconfig, between, after, first, second⟩
  · obtain ⟨events, plain, withNotes⟩ := found.resolve
    rw [run_bind plain, run_run_bind withNotes]
    simp only [proceed]
    cases built : Client.build builder connection with
    | error error => exact ⟨_, _, _, rfl, rfl, .refused found built⟩
    | ok client =>
        rcases made : (call client).run between with ⟨own, after⟩
        exact ⟨_, _, _, run_run_bind (noted_run made), run_bind made, .called found built made⟩
  · obtain ⟨events, plain, withNotes⟩ := resolve_unresolved first second
    rw [run_bind plain, run_run_bind withNotes]
    exact ⟨_, _, _, rfl, rfl, .unresolved first second⟩

/-- With a client there is one call, and its ending is the run's. -/
theorem Course.of_built {builder : Client.Builder} {resolver : Resolver (StateM σ)}
    {call : Client → StateM σ (Ending ExecError Output)} {world between after : σ}
    {ending : Ending ExecutionError (String × String)} {acts loads : List Act}
    {connection : Connection} {client : Client}
    (course : Course builder resolver call world ending acts after)
    (found : Found resolver world connection loads between)
    (built : Client.build builder connection = .ok client) :
    acts = loads ++ [.call client] ∧
      ∃ own, (call client).run between = (own, after) ∧ ending = own.map .exec Output.texts := by
  cases course with
  | unresolved first second => exact (found.not_unresolved first second).elim
  | refused found' rejected =>
      obtain ⟨rfl, rfl, rfl⟩ := found.unique found'
      cases built.symm.trans rejected
  | called found' built' made =>
      obtain ⟨rfl, rfl, rfl⟩ := found.unique found'
      cases built.symm.trans built'
      exact ⟨rfl, _, made, rfl⟩

end

/-! ## What a run promises -/

/-- Each stage of a run is reached only through the one before it, and the first that fails decides
the result, whatever is ordered and whether or not the caller has given up. -/
structure InOrder (builder : Client.Builder) (resolver : Resolver (StateM Network)) (order : Order)
    (network : Network) (ending : Ending ExecutionError (String × String)) (acts : List Act)
    (after : Network) : Prop where
  inCluster_once : acts.count .loadInCluster = 1
  kubeconfig_once :
    acts.count .loadKubeconfig = if (resolver.inCluster.run network).1.isOk then 0 else 1
  /-- The two causes are told apart, and nothing else gives this error. -/
  credentials_iff : ∀ inCluster kubeconfig,
    ending = .returned (.error (.credentials ⟨inCluster, kubeconfig⟩)) ↔
      ∃ between last, resolver.inCluster.run network = (.error inCluster, between) ∧
        resolver.kubeconfig.run between = (.error kubeconfig, last)
  /-- Without a client there is no other source, and nothing is called. -/
  refused : ∀ {connection loads between error},
    Found resolver network connection loads between →
      Client.build builder connection = .error error →
        ending = .returned (.error (.client error)) ∧ acts = loads ∧ after = between
  /-- With a client there is one call, and its ending is the run's. -/
  called : ∀ {connection loads between client},
    Found resolver network connection loads between →
      Client.build builder connection = .ok client →
        acts = loads ++ [.call client] ∧
          ∃ own, (Transport.call order client).run between = (own, after) ∧
            ending = own.map .exec fun output =>
              (String.ofList (Text.Utf8.decodeLossy output.stdout),
                String.ofList (Text.Utf8.decodeLossy output.stderr))
  /-- What can go wrong in a call, an improper request among it, goes wrong only in a call. -/
  own_errors : ∀ {error}, ending = .returned (.error (.exec error)) →
    ∃ client, .call client ∈ acts

theorem Course.inOrder {builder : Client.Builder} {resolver : Resolver (StateM Network)}
    {order : Order} {network after : Network}
    {ending : Ending ExecutionError (String × String)} {acts : List Act}
    (course : Course builder resolver (Transport.call order) network ending acts after) :
    InOrder builder resolver order network ending acts after := by
  have called : ∀ {connection loads between client},
      Found resolver network connection loads between →
        Client.build builder connection = .ok client →
          acts = loads ++ [.call client] ∧
            ∃ own, (Transport.call order client).run between = (own, after) ∧
              ending = own.map .exec Output.texts :=
    fun found built => course.of_built found built
  cases course with
  | unresolved first second =>
      refine ⟨rfl, by simp [first, Except.isOk, Except.toBool],
        fun inCluster kubeconfig => ⟨?_, ?_⟩, fun found => (found.not_unresolved first second).elim,
        called, ?_⟩
      · rintro ⟨⟩
        exact ⟨_, _, first, second⟩
      · rintro ⟨between, last, first', second'⟩
        cases first.symm.trans first'
        cases second.symm.trans second'
        rfl
      · rintro error ⟨⟩
  | refused found rejected =>
      refine ⟨found.count.1, found.count.2, fun inCluster kubeconfig => ⟨?_, ?_⟩, ?_, called, ?_⟩
      · rintro ⟨⟩
      · rintro ⟨between, last, first, second⟩
        exact (found.not_unresolved first second).elim
      · intro connection' loads' between' error' found' rejected'
        obtain ⟨rfl, rfl, rfl⟩ := found.unique found'
        cases rejected.symm.trans rejected'
        exact ⟨rfl, rfl, rfl⟩
      · rintro error ⟨⟩
  | @called connection loads between _ client own found built made =>
      refine ⟨by simp [found.count.1], by simp [found.count.2],
        fun inCluster kubeconfig => ⟨?_, ?_⟩, ?_, called, fun _ => ⟨client, by simp⟩⟩
      · intro same
        cases own with
        | returned result => cases result <;> cases same
        | clockOverflow => cases same
        | endless => cases same
      · rintro ⟨between, last, first, second⟩
        exact (found.not_unresolved first second).elim
      · intro connection' loads' between' error found' rejected
        obtain ⟨rfl, rfl, rfl⟩ := found.unique found'
        cases built.symm.trans rejected

/-- The result is that of the first stage that fails, with each source's own error if both fail, or
else what the one call gives; and no source is loaded from twice. -/
theorem runs_in_order (builder : Client.Builder) (resolver : Resolver (StateM Network))
    (order : Order) (network : Network) :
    ∃ ending acts after,
      (notedTexts builder resolver (Transport.call order)).run network = ((ending, acts), after) ∧
        (texts builder resolver (Transport.call order)).run network = (ending, after) ∧
        InOrder builder resolver order network ending acts after := by
  obtain ⟨ending, acts, after, withNotes, plain, course⟩ :=
    course builder resolver (Transport.call order) network
  exact ⟨ending, acts, after, withNotes, plain, course.inOrder⟩

end Execution
end PodCommand
