import PodCommand.Connection.Client
import PodCommand.Proofs.Uri.Parts

namespace PodCommand
namespace Client

/-!
Which addresses clients are built for.

An address is read from its text, and the text decides: it is refused if it is not in the absolute
form, if its scheme is not one of the web, or if it names no host.  The first two are told before
the third, and a port or user information is no host.  Everything else that a connection holds is
looked at only once its address has been found good.
-/

open Uri (Parts endsAuthority)

/-- What is wrong with the text of an address. -/
inductive Faulty (text : List Char) : EndpointDefect → Prop
  | noScheme (relative : ∀ parts : Parts, parts.Proper → text ≠ parts.text) : Faulty text .noScheme
  | otherScheme {parts : Parts} (proper : parts.Proper) (written : text = parts.text)
      (other : ¬ parts.IsWeb) : Faulty text (.otherScheme (String.ofList parts.scheme))
  | noHost {parts : Parts} (proper : parts.Proper) (written : text = parts.text)
      (web : parts.IsWeb) (empty : parts.authority.host = []) : Faulty text .noHost

/-! ## The address -/

variable {builder : Builder} {connection : Connection} {client : Client} {text : String} {url : Uri}
  {defect : EndpointDefect} {scheme : String}

theorem defect?_of_relative (relative : url.scheme = none) : defect? url = some .noScheme := by
  rw [defect?, relative]

theorem defect?_of_other (absolute : url.scheme = some scheme)
    (other : scheme ≠ "http" ∧ scheme ≠ "https") : defect? url = some (.otherScheme scheme) := by
  rw [defect?, absolute]
  exact if_pos (by simp [other])

theorem defect?_of_web (absolute : url.scheme = some scheme)
    (web : scheme = "http" ∨ scheme = "https") :
    defect? url = if url.host?.any (fun host => !host.isEmpty) then none else some .noHost := by
  rw [defect?, absolute]
  exact if_neg (by rcases web with rfl | rfl <;> decide)

/-- That something is wrong with an address, told from its scheme and its host. -/
theorem exists_defect?_iff : (∃ defect, defect? url = some defect) ↔
    url.scheme = none ∨ (∃ scheme, url.scheme = some scheme ∧ scheme ≠ "http" ∧ scheme ≠ "https") ∨
      url.host? = none ∨ url.host? = some "" := by
  cases absolute : url.scheme with
  | none => exact iff_of_true ⟨_, defect?_of_relative absolute⟩ (.inl rfl)
  | some scheme =>
      by_cases web : scheme = "http" ∨ scheme = "https"
      · have notOther : ¬ ∃ other, some scheme = some other ∧ other ≠ "http" ∧ other ≠ "https" := by
          rintro ⟨other, same, notHttp, notHttps⟩
          cases same
          exact web.elim notHttp notHttps
        rw [defect?_of_web absolute web, or_iff_right (Option.some_ne_none scheme),
          or_iff_right notOther]
        cases url.host? with
        | none => simp
        | some host => by_cases empty : host = "" <;> simp [empty]
      · have other := not_or.mp web
        exact iff_of_true ⟨_, defect?_of_other absolute other⟩ (.inr (.inl ⟨scheme, rfl, other⟩))

/-- What is wrong with an address whose text has parts. -/
theorem defect?_of_parts {parts : Parts} (given : Uri.read text = .ok url) (proper : parts.Proper)
    (written : text.toList = parts.text) :
    defect? url =
      if parts.IsWeb then if parts.authority.host = [] then some .noHost else none
      else some (.otherScheme (String.ofList parts.scheme)) := by
  rcases Uri.read_of_parts given proper written with ⟨absolute, host⟩
  split
  · rename_i web
    rw [defect?_of_web absolute (Parts.keptScheme_of_isWeb web), host]
    by_cases empty : parts.authority.host = []
    · simp [empty]
    · simp [empty]
  · rename_i web
    rcases Parts.keptScheme_of_not_isWeb web with ⟨kept, other⟩
    rw [defect?_of_other absolute other, kept]

theorem defect?_eq_some_iff (given : Uri.read text = .ok url) :
    defect? url = some defect ↔ Faulty text.toList defect := by
  constructor
  · intro wrong
    by_cases relative : url.scheme = none
    · rw [defect?_of_relative relative] at wrong
      rw [← Option.some.inj wrong]
      exact .noScheme ((Uri.scheme_eq_none_iff given).mp relative)
    · rcases Uri.exists_parts given relative with ⟨parts, proper, written⟩
      rw [defect?_of_parts given proper written] at wrong
      split at wrong
      · rename_i web
        split at wrong
        · rename_i empty
          rw [← Option.some.inj wrong]
          exact .noHost proper written web empty
        · cases wrong
      · rename_i other
        rw [← Option.some.inj wrong]
        exact .otherScheme proper written other
  · intro faulty
    cases faulty with
    | noScheme relative => exact defect?_of_relative ((Uri.scheme_eq_none_iff given).mpr relative)
    | otherScheme proper written other => rw [defect?_of_parts given proper written, if_neg other]
    | noHost proper written web empty =>
        rw [defect?_of_parts given proper written, if_pos web, if_pos empty]

/-! ## The client -/

theorem build_eq_badEndpoint_iff : build builder connection = .error (.badEndpoint defect) ↔
    defect? connection.url = some defect := by
  unfold build
  cases wrong : defect? connection.url with
  | some other => simp
  | none => cases builder.authorize connection <;> simp

/-- An address with which nothing is wrong leaves everything to the builder. -/
theorem build_of_sound (sound : defect? connection.url = none) :
    build builder connection =
      ((builder.authorize connection).map fun authorization =>
        Client.mk connection authorization).mapError .build := by
  rw [build, sound]
  cases builder.authorize connection <;> rfl

theorem connection_of_build (built : build builder connection = .ok client) :
    client.connection = connection := by
  cases wrong : defect? connection.url with
  | some defect =>
      rw [build_eq_badEndpoint_iff.mpr wrong] at built
      cases built
  | none =>
      rw [build_of_sound wrong] at built
      cases done : builder.authorize connection with
      | error error =>
          rw [done] at built
          cases built
      | ok authorization =>
          rw [done] at built
          cases built
          rfl

/-- What becomes of a connection whose address has been read from a text, whatever the builder
does. -/
structure Checked (builder : Builder) (connection : Connection) (text : String) : Prop where
  /-- The connection is refused exactly for its scheme or its host. -/
  refused : (∃ defect, build builder connection = .error (.badEndpoint defect)) ↔
    connection.url.scheme = none ∨
      (∃ scheme, connection.url.scheme = some scheme ∧ scheme ≠ "http" ∧ scheme ≠ "https") ∨
        connection.url.host? = none ∨ connection.url.host? = some ""
  /-- The text tells for what, the scheme before the host. -/
  told : ∀ defect, build builder connection = .error (.badEndpoint defect) ↔
    Faulty text.toList defect
  /-- Nothing else keeps the connection from the builder. -/
  reached : (∀ defect, ¬ Faulty text.toList defect) →
    build builder connection =
      ((builder.authorize connection).map fun authorization =>
        Client.mk connection authorization).mapError .build
  reports : ∀ client, build builder connection = .ok client →
    client.endpoint = connection.endpoint

theorem checked_of_read (builder : Builder) (given : Uri.read text = .ok connection.url) :
    Checked builder connection text where
  refused := by simp only [build_eq_badEndpoint_iff, exists_defect?_iff]
  told defect := build_eq_badEndpoint_iff.trans (defect?_eq_some_iff given)
  reached sound := by
    refine build_of_sound (Option.eq_none_iff_forall_ne_some.mpr fun defect wrong => ?_)
    exact sound defect ((defect?_eq_some_iff given).mp wrong)
  reports client built := congrArg Connection.endpoint (connection_of_build built)

/-- An authority that holds user information and a port, and no host. -/
def hostless : Uri.Authority := ⟨"root@".toList, [], ":8080".toList⟩

/-- The address of nothing. -/
def nowhere : Connection :=
  ⟨⟨some "http", some "root@:8080", "/v1", some "x"⟩, "default", default, none, false, none, none,
    .inCluster⟩

theorem nowhere_checked :
    Uri.read "HTTP://root@:8080/v1?x" = .ok nowhere.url ∧
      build (.ofFiles .empty) nowhere = .error (.badEndpoint .noHost) := by
  have given : Uri.read "HTTP://root@:8080/v1?x" = .ok nowhere.url := by decide +kernel
  have proper : hostless.Proper :=
    ⟨.inr (by decide), by decide, .inr ⟨by decide, by decide, .inr (by decide)⟩⟩
  have parts : Parts.Proper ⟨"HTTP".toList, hostless, "/v1?x".toList⟩ := by
    refine ⟨List.all_eq_true.mp (by decide), proper, ?_, ?_⟩
    · intro c member
      have plain : hostless.text.all (fun c => !endsAuthority c) = true := by decide
      simpa using List.all_eq_true.mp plain c member
    · rintro c ⟨⟩
      decide
  exact ⟨given, ((checked_of_read _ given).told _).mpr
    (.noHost parts (by decide +kernel) (.inl (by decide)) rfl)⟩

end Client
end PodCommand
