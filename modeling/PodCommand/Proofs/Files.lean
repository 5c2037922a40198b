import PodCommand.Files
import PodCommand.Proofs.Requirement

namespace PodCommand
namespace Files

/-!
What changes in a file tree when something is put at a place where no directory stands: that place
and nothing else.  Every directory on the way to a place stays, so every path leads where it led
before.  From this follows what is known of a file that has been written, and of the directories
that have been made above it.
-/

/-! ## Putting something at a place -/

section

variable {files : Files} {place : List String} {entry : FileEntry}

theorem entry?_put_self (below : place ≠ []) :
    entry? (files.put place entry) place = some entry := by
  simp [put, entry?, below]

theorem entry?_put_of_ne {other : List String} (different : other ≠ place) :
    entry? (files.put place entry) other = files.entry? other := by
  have apart : (place == other) = false := by simpa using different.symm
  have kept : (files.entries.filter (·.1 != place)).find? (·.1 == other) =
      files.entries.find? (·.1 == other) := by
    rw [List.find?_filter]
    congr 1
    funext stood
    by_cases same : stood.1 = other
    · simp [same, different]
    · simp [same]
  simp only [put, entry?, List.find?_cons, apart, kept]

theorem put_put (entry' : FileEntry) :
    (files.put place entry).put place entry' = files.put place entry' := by
  simp [put, List.filter_filter]

/-- No path is led astray: all that stands on the way is a directory, and those are still there. -/
theorem follow_put (free : files.entry? place ≠ some .directory) {names : List String}
    {start found : List String} (followed : files.follow start names = .ok found) :
    (files.put place entry).follow start names = .ok found := by
  induction names generalizing start with
  | nil => exact followed
  | cons name names ih =>
      rw [follow] at followed ⊢
      cases stood : files.entry? start with
      | none => simp [stood] at followed
      | some entry' =>
          cases entry' with
          | file content => simp [stood] at followed
          | directory =>
              have elsewhere : start ≠ place := by
                rintro rfl
                exact free stood
              rw [entry?_put_of_ne elsewhere, stood]
              simp only [stood] at followed ⊢
              by_cases here : name = "."
              · rw [if_pos here] at followed ⊢
                exact ih followed
              rw [if_neg here] at followed ⊢
              by_cases up : name = ".."
              · rw [if_pos up] at followed ⊢
                exact ih followed
              rw [if_neg up] at followed ⊢
              by_cases long : maxNameLength < name.utf8ByteSize
              · rw [if_pos long] at followed
                cases followed
              rw [if_neg long] at followed ⊢
              exact ih followed

theorem locate_put (free : files.entry? place ≠ some .directory) {path : String}
    {found : List String} (located : files.locate path = .ok found) :
    (files.put place entry).locate path = .ok found := by
  rw [locate] at located ⊢
  by_cases nul : path.toList.contains '\x00' = true
  · rw [if_pos nul] at located
    cases located
  rw [if_neg nul] at located ⊢
  by_cases empty : path.isEmpty = true
  · rw [if_pos empty] at located
    cases located
  rw [if_neg empty] at located ⊢
  by_cases long : maxPathLength < path.utf8ByteSize
  · rw [if_pos long] at located
    cases located
  rw [if_neg long] at located ⊢
  exact follow_put free located

theorem lookup_eq_ok_iff {path : String} {stood : FileEntry} :
    files.lookup path = .ok stood ↔
      ∃ found, files.locate path = .ok found ∧ files.entry? found = some stood := by
  cases located : files.locate path with
  | error error => simp [lookup, located, bind, Except.bind]
  | ok found =>
      cases here : files.entry? found <;>
        simp [lookup, located, here, bind, Except.bind, pure, Except.pure, throw, throwThe,
          MonadExceptOf.throw]

theorem pathExists_iff {path : String} :
    files.pathExists path = true ↔ ∃ stood, files.lookup path = .ok stood := by
  cases found : files.lookup path <;> simp [pathExists, found, Except.toOption]

theorem isDirectory_iff {path : String} :
    files.isDirectory path = true ↔ files.lookup path = .ok .directory := by
  rw [isDirectory]
  split <;> simp_all

theorem pathExists_of_isDirectory {path : String} (directory : files.isDirectory path = true) :
    files.pathExists path = true :=
  pathExists_iff.mpr ⟨.directory, isDirectory_iff.mp directory⟩

/-- What stands at a place that is found is what has been put there. -/
theorem lookup_put_self (below : place ≠ []) (free : files.entry? place ≠ some .directory)
    {path : String} (located : files.locate path = .ok place) :
    (files.put place entry).lookup path = .ok entry :=
  lookup_eq_ok_iff.mpr ⟨place, locate_put free located, entry?_put_self below⟩

theorem pathExists_put (free : files.entry? place ≠ some .directory) {path : String}
    (there : files.pathExists path = true) : (files.put place entry).pathExists path = true := by
  obtain ⟨stood, found⟩ := pathExists_iff.mp there
  obtain ⟨other, located, stands⟩ := lookup_eq_ok_iff.mp found
  refine pathExists_iff.mpr ?_
  by_cases same : other = place
  · subst same
    have below : other ≠ [] := by
      rintro rfl
      exact free rfl
    exact ⟨entry, lookup_put_self below free located⟩
  · exact ⟨stood, lookup_eq_ok_iff.mpr
      ⟨other, locate_put free located, (entry?_put_of_ne same).trans stands⟩⟩

end

/-! ## Writing a file -/

theorem write_located {files : Files} {path : String} {place : List String}
    (located : files.locate path = .ok place) (content : Bytes) :
    files.write path content =
      if files.entry? place = some .directory then .error .isADirectory
      else .ok (files.put place (.file content)) := by
  simp only [write, located, bind, Except.bind]
  split
  · rename_i stands
    rw [if_pos stands]
    rfl
  · rename_i free
    rw [if_neg free]
    rfl

/-- A file that is written is put at the place that its path names, where no directory stands. -/
theorem write_eq_ok {files written : Files} {path : String} {content : Bytes}
    (wrote : files.write path content = .ok written) :
    ∃ place, files.locate path = .ok place ∧ files.entry? place ≠ some .directory ∧
      written = files.put place (.file content) := by
  cases located : files.locate path with
  | error error =>
      rw [write, located] at wrote
      cases error with
      | notFound =>
          by_cases bare : (endsInSlash path &&
            (files.locate (String.ofList path.toList.dropLast)).isOk) = true
          · simp only [bare, if_true] at wrote
            cases wrote
          · simp only [bare] at wrote
            cases wrote
      | _ => cases wrote
  | ok place =>
      rw [write_located located] at wrote
      split at wrote
      · cases wrote
      · rename_i free
        exact ⟨place, rfl, free, (Except.ok.inj wrote).symm⟩

theorem read_write {files written : Files} {path : String} {content : Bytes}
    (wrote : files.write path content = .ok written) : written.read path = .ok content := by
  obtain ⟨place, located, free, rfl⟩ := write_eq_ok wrote
  have below : place ≠ [] := by
    rintro rfl
    exact free rfl
  rw [read, lookup_put_self below free located]
  rfl

/-- A file that holds what is written to it stays as it is, and so does everything else. -/
theorem write_write {files written : Files} {path : String} {content : Bytes}
    (wrote : files.write path content = .ok written) :
    written.write path content = .ok written := by
  obtain ⟨place, located, free, rfl⟩ := write_eq_ok wrote
  have below : place ≠ [] := by
    rintro rfl
    exact free rfl
  have still : entry? (files.put place (.file content)) place ≠ some .directory := by
    rw [entry?_put_self below]
    simp
  rw [write_located (locate_put free located), if_neg still, put_put]

theorem pathExists_write {files written : Files} {path : String} {content : Bytes}
    (wrote : files.write path content = .ok written) {other : String}
    (there : files.pathExists other = true) : written.pathExists other = true := by
  obtain ⟨place, -, free, rfl⟩ := write_eq_ok wrote
  exact pathExists_put free there

theorem pathExists_of_read {files : Files} {path : String} {content : Bytes}
    (held : files.read path = .ok content) : files.pathExists path = true := by
  refine pathExists_iff.mpr ?_
  cases found : files.lookup path with
  | error error =>
      rw [read, found] at held
      cases held
  | ok stood => exact ⟨stood, rfl⟩

/-! ## Making directories -/

/-- A path without slashes at its end, unless it is the root itself. -/
def IsTrimmed (path : List Char) : Prop :=
  path.getLast? = some '/' → path = ['/']

theorem isTrimmed_trimSeparators {fuel : Nat} {path : List Char} (enough : path.length ≤ fuel) :
    IsTrimmed (Path.trimSeparators fuel path) := by
  fun_induction Path.trimSeparators fuel path with
  | case1 path =>
      rw [List.length_eq_zero_iff.mp (Nat.le_zero.mp enough)]
      intro last
      cases last
  | case2 path fuel first others written ih =>
      have shorter := congrArg List.length written
      simp only [List.length_reverse, List.length_cons] at shorter ih
      exact ih (by omega)
  | case3 path fuel rest written ih =>
      have shorter := congrArg List.length written
      simp only [List.length_reverse, List.length_cons] at shorter ih
      exact ih (by omega)
  | case4 path fuel alone plain =>
      intro last
      rw [← List.head?_reverse] at last
      obtain ⟨others, written⟩ := List.head?_eq_some_iff.mp last
      cases others with
      | nil => simpa using written
      | cons other others => exact (alone other others written).elim

theorem length_trimSeparators (fuel : Nat) (path : List Char) :
    (Path.trimSeparators fuel path).length ≤ path.length := by
  fun_induction Path.trimSeparators fuel path with
  | case1 path => exact Nat.le_refl _
  | case2 path fuel first others written ih =>
      have shorter := congrArg List.length written
      simp only [List.length_reverse, List.length_cons] at shorter ih ⊢
      omega
  | case3 path fuel rest written ih =>
      have shorter := congrArg List.length written
      simp only [List.length_reverse, List.length_cons] at shorter ih ⊢
      omega
  | case4 path fuel alone plain => exact Nat.le_refl _

theorem isTrimmed_parent {path parent : String} (above : Path.parent? path = some parent) :
    IsTrimmed parent.toList := by
  have shorter : ((Path.trimSeparators path.length path.toList).reverse.dropWhile
      (· ≠ '/')).reverse.length ≤ path.length := by
    have trimmed := length_trimSeparators path.length path.toList
    have dropped := (List.dropWhile_suffix (· ≠ '/')
      (l := (Path.trimSeparators path.length path.toList).reverse)).length_le
    rw [List.length_reverse] at dropped ⊢
    rw [String.length_toList] at trimmed
    omega
  rw [Path.parent?] at above
  split at above
  · cases above
  · cases above
  · cases above
    rw [String.toList_ofList]
    exact isTrimmed_trimSeparators shorter

/-- Nothing is taken from the end of a trimmed path before a directory is made there. -/
theorem bare_of_isTrimmed {path : String} (trimmed : IsTrimmed path.toList) :
    let bare := String.ofList (path.toList.reverse.dropWhile (· = '/')).reverse
    (if bare.isEmpty then path else bare) = path := by
  intro bare
  by_cases slash : path.toList.getLast? = some '/'
  · have root : path.toList = ['/'] := trimmed slash
    have nothing : bare = "" := by
      simp only [bare, root]
      decide
    rw [nothing]
    rfl
  · have same : bare = path := by
      rw [← List.head?_reverse] at slash
      have kept : path.toList.reverse.dropWhile (· = '/') = path.toList.reverse := by
        cases written : path.toList.reverse with
        | nil => rfl
        | cons c others =>
            rw [written] at slash
            have other : c ≠ '/' := fun same => slash (same ▸ rfl)
            simp [other]
      simp only [bare, kept, List.reverse_reverse, String.ofList_toList]
    rw [same, ite_self]

/-- A directory that is made stands where its path says. -/
theorem isDirectory_makeDirectory {files made : Files} {path : String}
    (trimmed : IsTrimmed path.toList) (makes : files.makeDirectory path = .ok made) :
    made.isDirectory path = true := by
  have bare := bare_of_isTrimmed trimmed
  simp only at bare
  rw [makeDirectory] at makes
  simp only [bare] at makes
  cases located : files.locate path with
  | error error =>
      rw [located] at makes
      cases makes
  | ok place =>
      simp only [located, bind, Except.bind] at makes
      split at makes
      · cases makes
      · rename_i nothing
        cases makes
        have below : place ≠ [] := by
          rintro rfl
          cases nothing
        have free : files.entry? place ≠ some .directory := by simp [nothing]
        exact isDirectory_iff.mpr (lookup_put_self below free located)

/-- A directory that cannot be made because it is there stands where its path says. -/
theorem isDirectory_kept {files made : Files} {path : String} {error : FileError}
    (kept : (if files.isDirectory path then Except.ok files else .error error) = .ok made) :
    made.isDirectory path = true := by
  by_cases there : files.isDirectory path = true
  · rw [if_pos there] at kept
    rw [← Except.ok.inj kept]
    exact there
  · rw [if_neg there] at kept
    cases kept

/-- Whoever makes the directories above, one that is made in the end stands where its path says. -/
theorem isDirectory_makeBelow {above : String → Except FileError Files} {files made : Files}
    {path : String} (trimmed : IsTrimmed path.toList) (named : path.isEmpty = false)
    (makes : makeBelow above files path = .ok made) : made.isDirectory path = true := by
  have nonempty : ¬path.isEmpty = true := by simp [named]
  rw [makeBelow, if_neg nonempty] at makes
  split at makes
  · rename_i once
    rw [← Except.ok.inj makes]
    exact isDirectory_makeDirectory trimmed once
  · cases up : Path.parent? path with
    | none =>
        simp only [up] at makes
        cases makes
    | some parent =>
        simp only [up] at makes
        obtain ⟨roomy, climbed, again⟩ := bind_eq_ok makes
        split at again
        · rename_i once
          rw [← Except.ok.inj again]
          exact isDirectory_makeDirectory trimmed once
        · exact isDirectory_kept again
  · exact isDirectory_kept makes

theorem isDirectory_makeDirectories {files made : Files} {path : String} {fuel : Nat}
    (trimmed : IsTrimmed path.toList) (named : path.isEmpty = false)
    (makes : files.makeDirectories path fuel = .ok made) : made.isDirectory path = true := by
  cases fuel with
  | zero => exact isDirectory_makeBelow trimmed named makes
  | succ fuel => exact isDirectory_makeBelow trimmed named makes

end Files

end PodCommand
