import PodCommand.Proofs.Text.Pieces
import PodCommand.Proofs.Uri.Authority

namespace PodCommand
namespace Uri

/-!
The scheme and the host of an identifier, read off its text.

An identifier has a scheme exactly if its text is in the absolute form, and then the text has only
one scheme, one authority and one host.  The two schemes of the web count in any case of their
letters.  A text that is an identifier and begins with a slash, or holds no slash at all, is not in
the absolute form, whatever else is in it.
-/

/-- An identifier in its absolute form, in its parts. -/
structure Parts where
  scheme : List Char
  authority : Authority
  /-- The path, the query and the fragment. -/
  rest : List Char

namespace Parts

/-- A text with a scheme in front of it. -/
def withScheme (scheme rest : List Char) : List Char := scheme ++ ':' :: '/' :: '/' :: rest

def text (parts : Parts) : List Char :=
  withScheme parts.scheme (parts.authority.text ++ parts.rest)

/-- The parts are what they are said to be. -/
structure Proper (parts : Parts) : Prop where
  scheme : ∀ c ∈ parts.scheme, isSchemeChar c = true
  authority : parts.authority.Proper
  inside : ∀ c ∈ parts.authority.text, endsAuthority c = false
  outside : ∀ c ∈ parts.rest.head?, endsAuthority c = true

/-- The scheme is one of the two of the web. -/
def IsWeb (parts : Parts) : Prop :=
  lower parts.scheme = "http".toList ∨ lower parts.scheme = "https".toList

end Parts

open Parts

/-- A scheme as it is kept. -/
def keptScheme (scheme : List Char) : String :=
  if lower scheme = "http".toList then "http"
  else if lower scheme = "https".toList then "https"
  else String.ofList scheme

/-! ## Characters in lower case -/

theorem toLower_of_foreign {c : Char} (foreign : ¬ c.toNat < 0x80) : c.toLower = c := by
  refine dif_neg fun letter => foreign ?_
  exact Nat.lt_of_le_of_lt (UInt32.le_iff_toNat_le.mp letter.2) (by decide)

/-- Putting letters into lower case makes no mark of another character, and changes nothing about
which characters a scheme may have. -/
theorem toLower_facts (c : Char) :
    (c.toLower = ':' → c = ':') ∧ (c.toLower = '/' → c = '/') ∧
      isSchemeChar c.toLower = isSchemeChar c := by
  by_cases ascii : c.toNat < 0x80
  · have all : ∀ n < 0x80, ((Char.ofNat n).toLower = ':' → Char.ofNat n = ':') ∧
        ((Char.ofNat n).toLower = '/' → Char.ofNat n = '/') ∧
          isSchemeChar (Char.ofNat n).toLower = isSchemeChar (Char.ofNat n) := by
      decide +kernel
    have known := all c.toNat ascii
    rwa [Char.ofNat_toNat] at known
  · rw [toLower_of_foreign ascii]
    exact ⟨id, id, rfl⟩

/-! ## Schemes -/

variable {chars scheme rest : List Char}

theorem colon_not_mem_scheme (proper : ∀ c ∈ scheme, isSchemeChar c = true) : ':' ∉ scheme :=
  fun member => absurd (proper ':' member) (by decide)

theorem withScheme_inj {scheme' rest' : List Char} (proper : ∀ c ∈ scheme, isSchemeChar c = true)
    (proper' : ∀ c ∈ scheme', isSchemeChar c = true)
    (same : withScheme scheme rest = withScheme scheme' rest') :
    scheme = scheme' ∧ rest = rest' := by
  have cut := congrArg (Text.cut ':') same
  rw [withScheme, withScheme, Text.cut_append_cons (colon_not_mem_scheme proper),
    Text.cut_append_cons (colon_not_mem_scheme proper')] at cut
  simpa using cut

/-- A text that begins with a name in any case of its letters and with the mark of a scheme. -/
theorem exists_of_lower_take (name : List Char) (plain : name.all isSchemeChar = true)
    (front : lower (chars.take (name.length + 3)) = withScheme name []) :
    ∃ scheme, (∀ c ∈ scheme, isSchemeChar c = true) ∧ lower scheme = name ∧
      chars = withScheme scheme (chars.drop (name.length + 3)) := by
  rcases List.map_eq_append_iff.mp front with ⟨scheme, marks, taken, lowered, marked⟩
  have written : marks = [':', '/', '/'] := by
    rcases marks with _ | ⟨a, _ | ⟨b, _ | ⟨c, _ | ⟨d, marks⟩⟩⟩⟩ <;> simp at marked
    rcases marked with ⟨colon, slash, slash'⟩
    rw [(toLower_facts a).1 colon, (toLower_facts b).2.1 slash, (toLower_facts c).2.1 slash']
  refine ⟨scheme, fun c member => ?_, lowered, ?_⟩
  · rw [← (toLower_facts c).2.2]
    exact List.all_eq_true.mp plain _ (lowered ▸ List.mem_map_of_mem member)
  · have whole := List.take_append_drop (name.length + 3) chars
    rw [taken, written] at whole
    simpa [withScheme] using whole.symm

theorem lower_take_withScheme (scheme rest : List Char) :
    lower ((withScheme scheme rest).take ((lower scheme).length + 3)) =
      withScheme (lower scheme) [] := by
  have front : (withScheme scheme rest).take (scheme.length + 3) = scheme ++ [':', '/', '/'] := by
    rw [withScheme, List.take_length_add_append]
    rfl
  have length : (lower scheme).length = scheme.length := List.length_map _
  rw [length, front, lower, List.map_append]
  rfl

/-- A scheme is kept as it is written if the text begins with neither scheme of the web. -/
theorem keptScheme_of_foreign
    (notHttp : ¬ (lower ((withScheme scheme rest).take 7) == "http://".toList) = true)
    (notHttps : ¬ (lower ((withScheme scheme rest).take 8) == "https://".toList) = true) :
    keptScheme scheme = String.ofList scheme := by
  have front := lower_take_withScheme scheme rest
  have notHttp' : lower scheme ≠ "http".toList := by
    intro lowered
    rw [lowered] at front
    exact notHttp (beq_iff_eq.mpr front)
  have notHttps' : lower scheme ≠ "https".toList := by
    intro lowered
    rw [lowered] at front
    exact notHttps (beq_iff_eq.mpr front)
  rw [keptScheme, if_neg notHttp', if_neg notHttps']

/-- A scheme that is found stands in front of the text, in whatever case of its letters. -/
theorem written_of_scanScheme {name : String} (found : scanScheme chars = .scheme name rest) :
    ∃ scheme, (∀ c ∈ scheme, isSchemeChar c = true) ∧ chars = withScheme scheme rest ∧
      name = keptScheme scheme := by
  unfold scanScheme at found
  split at found
  · rename_i front
    cases found
    rcases exists_of_lower_take "http".toList (by decide) (beq_iff_eq.mp front) with
      ⟨scheme, proper, lowered, written⟩
    refine ⟨scheme, proper, written, ?_⟩
    rw [keptScheme, if_pos lowered]
  · rename_i notHttp
    split at found
    · rename_i front
      cases found
      rcases exists_of_lower_take "https".toList (by decide) (beq_iff_eq.mp front) with
        ⟨scheme, proper, lowered, written⟩
      refine ⟨scheme, proper, written, ?_⟩
      rw [keptScheme, if_neg (lowered ▸ by decide), if_pos lowered]
    · rename_i notHttps
      split at found
      · cases found
      · dsimp only at found
        split at found
        · rename_i after
          split at found
          · cases found
          · cases found
            have written : withScheme (chars.takeWhile isSchemeChar) rest = chars := by
              rw [withScheme, ← after]
              exact List.prefix_iff_eq_append.mp (List.takeWhile_prefix isSchemeChar)
            rw [← written] at notHttp notHttps
            exact ⟨_, fun c member => List.mem_takeWhile_imp member, written.symm,
              (keptScheme_of_foreign notHttp notHttps).symm⟩
        · cases found

namespace Parts

variable {parts : Parts}

instance : Decidable parts.IsWeb :=
  inferInstanceAs (Decidable (lower parts.scheme = _ ∨ lower parts.scheme = _))

theorem keptScheme_of_isWeb (web : parts.IsWeb) :
    keptScheme parts.scheme = "http" ∨ keptScheme parts.scheme = "https" := by
  by_cases http : lower parts.scheme = "http".toList
  · exact .inl (if_pos http)
  · exact .inr ((if_neg http).trans (if_pos (web.resolve_left http)))

theorem keptScheme_of_not_isWeb (other : ¬ parts.IsWeb) :
    keptScheme parts.scheme = String.ofList parts.scheme ∧
      keptScheme parts.scheme ≠ "http" ∧ keptScheme parts.scheme ≠ "https" := by
  rcases not_or.mp other with ⟨notHttp, notHttps⟩
  have kept : keptScheme parts.scheme = String.ofList parts.scheme :=
    (if_neg notHttp).trans (if_neg notHttps)
  rw [kept]
  refine ⟨rfl, fun same => notHttp ?_, fun same => notHttps ?_⟩ <;>
  · have spelled := congrArg String.toList same
    rw [String.toList_ofList] at spelled
    rw [spelled]
    decide

end Parts

/-! ## Reading -/

theorem slash_not_mem (plain : ∀ c ∈ chars, endsAuthority c = false) : '/' ∉ chars :=
  fun member => absurd (plain '/' member) (by decide)

theorem readAuthority_eq_ok {uri : Uri} (given : readAuthority chars = .ok uri) :
    (∀ c ∈ chars, endsAuthority c = false) ∧ uri.scheme = none := by
  unfold readAuthority at given
  rcases bind_eq_ok given with ⟨_, _, given⟩
  split at given
  · cases given
  · rename_i plain
    cases given
    exact ⟨by simpa using plain, rfl⟩

theorem readAfterScheme_eq_ok {scheme : String} {uri : Uri}
    (given : readAfterScheme scheme chars = .ok uri) :
    checkAuthority (chars.takeWhile fun c => !endsAuthority c) = .ok () ∧
      uri.scheme = some scheme ∧
      uri.authority = some (String.ofList (chars.takeWhile fun c => !endsAuthority c)) := by
  unfold readAfterScheme at given
  rcases bind_eq_ok given with ⟨_, checked, given⟩
  dsimp only at given
  split at given
  · cases given
  · rcases bind_eq_ok given with ⟨parts, _, given⟩
    cases given
    exact ⟨checked, rfl, rfl⟩

/-- What is read has a scheme exactly if its text is in the absolute form. -/
theorem read_cases {text : String} {uri : Uri} (given : read text = .ok uri) :
    (uri.scheme = none ∧ ∀ scheme rest, (∀ c ∈ scheme, isSchemeChar c = true) →
      text.toList ≠ withScheme scheme rest) ∨
    ∃ scheme rest, (∀ c ∈ scheme, isSchemeChar c = true) ∧
      text.toList = withScheme scheme rest ∧
      readAfterScheme (keptScheme scheme) rest = .ok uri := by
  unfold read at given
  dsimp only at given
  generalize text.toList = chars at given
  split at given
  · cases given
  split at given
  · cases given
  · cases given
    refine .inl ⟨rfl, fun scheme rest _ same => ?_⟩
    have length := congrArg List.length same
    simp only [withScheme, List.length_append, List.length_cons, List.length_nil] at length
    omega
  · rename_i tail
    rcases bind_eq_ok given with ⟨parts, _, given⟩
    cases given
    refine .inl ⟨rfl, fun scheme rest proper same => ?_⟩
    rcases scheme with _ | ⟨c, scheme⟩
    · simp [withScheme] at same
    · rw [withScheme, List.cons_append, List.cons.injEq] at same
      exact absurd (proper c List.mem_cons_self) (same.1 ▸ by decide)
  · split at given
    · cases given
    · rcases readAuthority_eq_ok given with ⟨plain, noScheme⟩
      refine .inl ⟨noScheme, fun scheme rest _ same => slash_not_mem plain ?_⟩
      simp [same, withScheme]
    · rename_i found
      rcases written_of_scanScheme found with ⟨scheme, proper, written, rfl⟩
      exact .inr ⟨scheme, _, proper, written, given⟩

/-! ## The parts of what is read -/

variable {text : String} {uri : Uri}

/-- An identifier with a scheme has parts. -/
theorem exists_parts (given : read text = .ok uri) (absolute : uri.scheme ≠ none) :
    ∃ parts : Parts, parts.Proper ∧ text.toList = parts.text := by
  rcases read_cases given with ⟨relative, _⟩ | ⟨scheme, rest, proper, written, after⟩
  · exact absurd relative absolute
  · rcases exists_proper (readAfterScheme_eq_ok after).1 with ⟨authority, own, spelled⟩
    refine ⟨⟨scheme, authority, rest.dropWhile fun c => !endsAuthority c⟩,
      ⟨proper, own, fun c member => ?_, fun c first => ?_⟩, ?_⟩
    · rw [spelled] at member
      simpa using List.mem_takeWhile_imp member
    · have stops := List.head?_dropWhile_not (fun c => !endsAuthority c) rest
      rw [Option.mem_def.mp first] at stops
      simpa using stops
    · rw [written, Parts.text, spelled, List.takeWhile_append_dropWhile]

/-- Whatever parts the text of an identifier has, its scheme and its host are among them. -/
theorem read_of_parts {parts : Parts} (given : read text = .ok uri) (proper : parts.Proper)
    (written : text.toList = parts.text) :
    uri.scheme = some (keptScheme parts.scheme) ∧
      uri.host? = some (String.ofList parts.authority.host) := by
  rcases read_cases given with ⟨_, relative⟩ | ⟨scheme, rest, own, spelled, after⟩
  · exact absurd written (relative _ _ proper.scheme)
  · rcases withScheme_inj own proper.scheme (spelled.symm.trans written) with ⟨rfl, rfl⟩
    rcases readAfterScheme_eq_ok after with ⟨_, kept, authority⟩
    have inside : ∀ c ∈ parts.authority.text, (!endsAuthority c) = true := fun c member => by
      rw [proper.inside c member, Bool.not_false]
    have outside : parts.rest.takeWhile (fun c => !endsAuthority c) = [] := by
      cases more : parts.rest with
      | nil => rfl
      | cons c more =>
          have ends := proper.outside c (by rw [more]; exact rfl)
          exact List.takeWhile_cons_of_neg (by rw [ends, Bool.not_true]; exact Bool.false_ne_true)
    rw [List.takeWhile_append_of_pos inside, outside, List.append_nil] at authority
    exact ⟨kept, host?_eq proper.authority authority⟩

/-- An identifier has a scheme exactly if its text has parts. -/
theorem scheme_eq_none_iff (given : read text = .ok uri) :
    uri.scheme = none ↔ ∀ parts : Parts, parts.Proper → text.toList ≠ parts.text := by
  constructor
  · intro relative parts proper written
    rw [(read_of_parts given proper written).1] at relative
    cases relative
  · intro without
    by_contra absolute
    rcases exists_parts given absolute with ⟨parts, proper, written⟩
    exact without parts proper written

end Uri
end PodCommand
