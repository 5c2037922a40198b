import Mathlib.Data.List.DropRight
import PodCommand.Proofs.Requirement
import PodCommand.Uri

namespace PodCommand
namespace Uri

/-!
The host in an authority.

User information ends at the last at sign, so what stands behind it has none.  There a literal in
brackets is a host with its brackets, whatever it holds, and any other host ends at the first colon.
A host may so be empty in two ways: nothing stands before the colon of a port, be there user
information or not.  An authority that has passed its check closes every bracket that it opens, and
this is all that finding its host needs to know of the check.
-/

/-- An authority in its parts: user information with its at sign, a host, and what follows it. -/
structure Authority where
  user : List Char
  host : List Char
  port : List Char

namespace Authority

def text (authority : Authority) : List Char :=
  authority.user ++ (authority.host ++ authority.port)

/-- A host in brackets, as addresses with colons in them are written. -/
def IsLiteral (host : List Char) : Prop :=
  ∃ inside, ']' ∉ inside ∧ host = '[' :: (inside ++ [']'])

/-- The parts are what they are said to be. -/
structure Proper (authority : Authority) : Prop where
  user : authority.user = [] ∨ authority.user.getLast? = some '@'
  noUser : '@' ∉ authority.host ++ authority.port
  host : IsLiteral authority.host ∨
    authority.host.head? ≠ some '[' ∧ ':' ∉ authority.host ∧
      (authority.port = [] ∨ authority.port.head? = some ':')

end Authority

/-! ## What the check keeps -/

namespace AuthorityScan

variable {scan next final : AuthorityScan} {c : Char} {text : List Char}

/-- How one character changes what is known of brackets. -/
structure Tracks (scan : AuthorityScan) (text : List Char) (next : AuthorityScan) : Prop where
  opened : scan.opened = true → next.opened = true
  closed : next.closed = true → scan.closed = true ∨ ']' ∈ text
  /-- No bracket is closed that has not been opened. -/
  sound : (scan.closed = true → scan.opened = true) → next.closed = true → next.opened = true

theorem step_tracks (read : scan.step c = .ok next) : Tracks scan [c] next := by
  unfold step at read
  split at read
  · split at read
    · cases read
    · cases read
      exact ⟨id, Or.inl, id⟩
  · split at read
    · split at read
      · cases read
      · cases read
        exact ⟨fun _ => rfl, Or.inl, fun _ _ => rfl⟩
    · split at read
      · rename_i closing
        split at read
        · cases read
        · rename_i fits
          cases read
          have opened : scan.opened = true := by
            cases state : scan.opened <;> simp [state] at fits ⊢
          exact ⟨id, fun _ => .inr (closing ▸ List.mem_singleton_self _), fun _ _ => opened⟩
      · split at read
        · cases read
          exact ⟨id, Or.inl, id⟩
        · split at read
          · cases read
            exact ⟨id, Or.inl, id⟩
          · split at read
            · cases read
              exact ⟨id, Or.inl, id⟩
            · cases read

theorem step_opening (read : scan.step '[' = .ok next) :
    scan.opened = false ∧ next.closed = scan.closed ∧ next.opened = true := by
  unfold step at read
  rw [if_neg (by decide), if_pos rfl] at read
  split at read
  · cases read
  · rename_i fits
    cases read
    rw [Bool.or_eq_true, not_or] at fits
    exact ⟨Bool.eq_false_iff.mpr fits.2, rfl, rfl⟩

theorem fold_tracks (read : text.foldlM step scan = .ok final) : Tracks scan text final := by
  induction text generalizing scan with
  | nil =>
      cases read
      exact ⟨id, Or.inl, id⟩
  | cons c text ih =>
      rw [List.foldlM_cons] at read
      rcases bind_eq_ok read with ⟨next, first, later⟩
      have here := step_tracks first
      have there := ih later
      refine ⟨there.opened ∘ here.opened, fun closed => ?_, there.sound ∘ here.sound⟩
      rcases there.closed closed with before | after
      · exact (here.closed before).imp_right fun closing =>
          List.mem_cons.mpr (.inl (List.mem_singleton.mp closing))
      · exact .inr (List.mem_cons_of_mem _ after)

end AuthorityScan

/-- In an authority that has passed its check, every bracket that is opened is closed. -/
theorem closing_mem_of_checkAuthority {before after : List Char}
    (checked : checkAuthority (before ++ '[' :: after) = .ok ()) : ']' ∈ after := by
  unfold checkAuthority at checked
  rcases bind_eq_ok checked with ⟨final, read, balanced⟩
  rw [List.foldlM_append] at read
  rcases bind_eq_ok read with ⟨scan, first, read⟩
  rw [List.foldlM_cons] at read
  rcases bind_eq_ok read with ⟨next, opening, later⟩
  rcases AuthorityScan.step_opening opening with ⟨fresh, kept, opened⟩
  have open' : scan.closed = false := by
    rw [Bool.eq_false_iff]
    intro closed
    have sound := (AuthorityScan.fold_tracks first).sound (fun closed => nomatch closed) closed
    rw [fresh] at sound
    cases sound
  have stays := (AuthorityScan.fold_tracks later).opened opened
  have closes : final.closed = true := by
    by_cases same : final.opened = final.closed
    · rw [← same, stays]
    · rw [if_pos (by simp [same])] at balanced
      cases balanced
  refine ((AuthorityScan.fold_tracks later).closed closes).resolve_left fun closed => ?_
  rw [kept, open'] at closed
  cases closed

/-! ## Parts of an authority -/

/-- What stands behind the last at sign. -/
theorem rtakeWhile_user {user behind : List Char} (ends : user = [] ∨ user.getLast? = some '@')
    (free : '@' ∉ behind) : (user ++ behind).rtakeWhile (· ≠ '@') = behind := by
  have passed : ∀ c ∈ behind.reverse, decide (c ≠ '@') = true := fun c member =>
    decide_eq_true fun same => free (same ▸ List.mem_reverse.mp member)
  rw [List.rtakeWhile, List.reverse_append, List.takeWhile_append_of_pos passed]
  rcases ends with rfl | last
  · simp
  · rcases List.getLast?_eq_some_iff.mp last with ⟨before, rfl⟩
    simp

theorem exists_user (chars : List Char) : ∃ user behind, chars = user ++ behind ∧
    (user = [] ∨ user.getLast? = some '@') ∧ '@' ∉ behind := by
  refine ⟨chars.rdropWhile (· ≠ '@'), chars.rtakeWhile (· ≠ '@'),
    List.rdropWhile_append_rtakeWhile.symm, ?_, ?_⟩
  · by_cases empty : chars.rdropWhile (· ≠ '@') = []
    · exact .inl empty
    · have last := List.rdropWhile_last_not (· ≠ '@') chars empty
      rw [List.getLast?_eq_some_getLast empty]
      exact .inr (congrArg some (by simpa using last))
  · intro member
    have passed := List.mem_rtakeWhile_imp member
    exact of_decide_eq_true passed rfl

/-- An authority that has passed its check has parts. -/
theorem exists_proper {chars : List Char} (checked : checkAuthority chars = .ok ()) :
    ∃ authority : Authority, authority.Proper ∧ authority.text = chars := by
  rcases exists_user chars with ⟨user, behind, rfl, ends, free⟩
  by_cases bracket : behind.head? = some '['
  · -- A literal: the check has seen to it that its bracket is closed.
    rcases List.head?_eq_some_iff.mp bracket with ⟨after, rfl⟩
    have closing := closing_mem_of_checkAuthority checked
    rcases List.eq_append_cons_of_mem closing with ⟨inside, port, rfl, first⟩
    have whole : '[' :: (inside ++ [']']) ++ port = '[' :: (inside ++ ']' :: port) := by simp
    refine ⟨⟨user, '[' :: (inside ++ [']']), port⟩, ⟨ends, ?_, .inl ⟨inside, first, rfl⟩⟩, ?_⟩
    · exact whole ▸ free
    · exact congrArg (user ++ ·) whole
  · have whole := List.takeWhile_append_dropWhile (p := (· ≠ ':')) (l := behind)
    refine ⟨⟨user, behind.takeWhile (· ≠ ':'), behind.dropWhile (· ≠ ':')⟩,
      ⟨ends, whole.symm ▸ free, .inr ⟨?_, ?_, ?_⟩⟩, congrArg (user ++ ·) whole⟩
    · dsimp only
      rw [List.head?_takeWhile, ne_eq, Option.filter_eq_some_iff]
      exact fun front => bracket front.1
    · intro member
      have passed := List.mem_takeWhile_imp member
      exact of_decide_eq_true passed rfl
    · cases rest : behind.dropWhile (· ≠ ':') with
      | nil => exact .inl rfl
      | cons mark port =>
          have stops := List.head?_dropWhile_not (· ≠ ':') behind
          rw [rest] at stops
          exact .inr (congrArg some (by simpa using stops))

/-- The host that is found is the one among the parts, whatever parts there are. -/
theorem host?_eq {uri : Uri} {authority : Authority} (proper : authority.Proper)
    (written : uri.authority = some (String.ofList authority.text)) :
    uri.host? = some (String.ofList authority.host) := by
  have behind : (authority.text.reverse.takeWhile (· ≠ '@')).reverse =
      authority.host ++ authority.port :=
    rtakeWhile_user proper.user proper.noUser
  unfold host?
  rw [written, Option.map_some, String.toList_ofList]
  dsimp only
  rw [behind]
  congr 1
  rcases proper.host with ⟨inside, free, literal⟩ | ⟨noBracket, free, port⟩
  · have passed : ∀ c ∈ '[' :: inside, decide (c ≠ ']') = true := by
      intro c member
      rcases List.mem_cons.mp member with rfl | within
      · decide
      · exact decide_eq_true fun same => free (same ▸ within)
    have split : authority.host ++ authority.port = ('[' :: inside) ++ ']' :: authority.port := by
      simp [literal]
    rw [split, if_pos (by simp), List.takeWhile_append_of_pos passed,
      List.dropWhile_append_of_pos passed, literal]
    simp
  · have passed : ∀ c ∈ authority.host, decide (c ≠ ':') = true := fun c member =>
      decide_eq_true fun same => free (same ▸ member)
    have noBracket' : (authority.host ++ authority.port).head? ≠ some '[' := by
      cases host : authority.host with
      | nil => rcases port with empty | colon <;> simp [*]
      | cons c host => simpa [host] using noBracket
    have stops : authority.port.takeWhile (· ≠ ':') = [] := by
      rcases port with empty | colon
      · rw [empty, List.takeWhile_nil]
      · rcases List.head?_eq_some_iff.mp colon with ⟨more, written⟩
        rw [written]
        rfl
    rw [if_neg (by simpa using noBracket'), List.takeWhile_append_of_pos passed, stops,
      List.append_nil]

end Uri
end PodCommand
