/-
# Proofs.Program.Prune -- what is deleted with the data directory

Deleting the data follows the location of the data directory to a place and, if the place is a
directory, takes away what stands there and below, nothing else (`Program.files_prune`).

Where no variable names the data directory it is one of the application's own, by its last name.
A variable that is set to white space names nothing, and yet it is taken for a name: the data
directory is then the current directory, whatever that is, and the call deletes it
(`Surroundings.prune_deletes_own_unless_blank`, `Surroundings.blank_name_deletes_current`).
-/
import CatalogListing.Program.Run
import CatalogListing.Proofs.Settings.Location

namespace CatalogListing

set_option autoImplicit false

/-! ## Places -/

namespace Files

variable {files : Files} {location name : Text} {place next : Place}

/-- One name followed from a directory. -/
def step (files : Files) (place : Place) (name : Text) : Option Place :=
  if files.isDirectory place then some (follow place name) else none

theorem place?_eq (files : Files) (location : Text) :
    files.place? location = (namesOf location).foldlM files.step [] := rfl

theorem step_eq_some_iff :
    files.step place name = some next ↔ files.isDirectory place = true ∧ follow place name = next := by
  unfold step
  split
  · rename_i directory
    rw [Option.some.injEq, and_iff_right directory]
  · rename_i other
    exact ⟨fun none_ => (nomatch none_), fun both => absurd both.1 other⟩

/-- A name that leads from a directory to what stands in it. -/
structure Proper (name : Text) : Prop where
  some_ : name ≠ []
  here : name ≠ ['.']
  above : name ≠ ['.', '.']
  whole : '/' ∉ name

theorem follow_into (some_ : name ≠ []) (here : name ≠ ['.']) (above : name ≠ ['.', '.'])
    (place : Place) : follow place name = place ++ [name] := by
  rw [follow, if_neg, if_neg above]
  rw [Bool.or_eq_true, List.isEmpty_iff, decide_eq_true_eq, not_or]
  exact ⟨some_, here⟩

theorem follow_of_proper (proper : Proper name) (place : Place) :
    follow place name = place ++ [name] :=
  follow_into proper.some_ proper.here proper.above place

/-- A name stays, goes up, or leads to what stands in the directory. -/
theorem follow_cases (whole : '/' ∉ name) (place : Place) :
    follow place name = place ∨ follow place name = place.dropLast ∨
      Proper name ∧ follow place name = place ++ [name] := by
  by_cases some_ : name = []
  · exact .inl (if_pos (by rw [some_]; rfl))
  by_cases here : name = ['.']
  · exact .inl (if_pos (by rw [here]; rfl))
  by_cases above : name = ['.', '.']
  · exact .inr (.inl (by rw [above]; rfl))
  · have proper : Proper name := ⟨some_, here, above, whole⟩
    exact .inr (.inr ⟨proper, follow_into some_ here above place⟩)

/-- What is known of a place to which names lead. -/
structure Reached (files : Files) (place : Place) : Prop where
  proper : ∀ name ∈ place, Proper name
  below : ∀ higher, higher <+: place → higher ≠ place → files.isDirectory higher = true

theorem reached_nil (files : Files) : Reached files [] :=
  ⟨fun _ member => (List.not_mem_nil member).elim,
    fun _ higher other => absurd (List.prefix_nil.1 higher) other⟩

theorem Reached.dropLast (reached : Reached files place) : Reached files place.dropLast := by
  refine ⟨fun name member => reached.proper name ((List.dropLast_subset place) member),
    fun higher leads other => ?_⟩
  have shorter := leads.trans (List.dropLast_prefix place)
  refine reached.below higher shorter ?_
  rintro rfl
  exact other (leads.eq_of_length_le (List.dropLast_prefix _).length_le)

theorem Reached.step (reached : Reached files place) (whole : '/' ∉ name)
    (follows : files.step place name = some next) : Reached files next := by
  obtain ⟨directory, rfl⟩ := step_eq_some_iff.1 follows
  rcases follow_cases whole place with stays | up | ⟨proper, into⟩
  · rwa [stays]
  · rw [up]
    exact reached.dropLast
  · rw [into]
    refine ⟨fun other member => ?_, fun higher leads other => ?_⟩
    · rcases List.mem_append.1 member with before | last
      · exact reached.proper other before
      · exact List.mem_singleton.1 last ▸ proper
    · rcases List.prefix_concat_iff.1 leads with same | before
      · exact absurd same other
      · by_cases same : higher = place
        · rwa [same]
        · exact reached.below higher before same

theorem Reached.steps (reached : Reached files place) {names : List Text}
    (whole : ∀ name ∈ names, '/' ∉ name) (follows : names.foldlM files.step place = some next) :
    Reached files next := by
  induction names generalizing place with
  | nil => exact Option.some.inj follows ▸ reached
  | cons name rest ih =>
      rw [List.forall_mem_cons] at whole
      rw [List.foldlM_cons] at follows
      obtain ⟨first, stepped, rest⟩ := Option.bind_eq_some_iff.1 follows
      exact ih (reached.step whole.1 stepped) whole.2 rest

theorem reached_of_place? (found : files.place? location = some place) : Reached files place :=
  (reached_nil files).steps (Text.pieces_cases '/' location).2 found

/-- The names of a place lead to it. -/
theorem foldlM_step_names {names : List Text} (reached : Reached files (place ++ names)) :
    names.foldlM files.step place = some (place ++ names) := by
  induction names generalizing place with
  | nil => rw [List.append_nil]; rfl
  | cons name rest ih =>
      have directory : files.isDirectory place = true :=
        reached.below place (List.prefix_append _ _) fun same => by
          have lengths := congrArg List.length same
          rw [List.length_append, List.length_cons] at lengths
          omega
      have proper := reached.proper name (List.mem_append_right _ List.mem_cons_self)
      have regrouped : place ++ name :: rest = (place ++ [name]) ++ rest := by
        rw [List.append_assoc, List.singleton_append]
      rw [regrouped] at reached ⊢
      rw [List.foldlM_cons,
        step_eq_some_iff.2 ⟨directory, follow_of_proper proper place⟩]
      exact ih reached

/-- The location without detours of a place leads to it. -/
theorem place?_ofComponents (reached : Reached files place) :
    files.place? (Location.ofComponents place) = some place := by
  have root : files.step [] [] = some [] := rfl
  have split : namesOf (Location.ofComponents place) =
      [] :: Text.pieces (· == '/') (List.intercalate ['/'] place) :=
    @Text.pieces_cons_of_separates (· == '/') '/' rfl _
  rw [place?_eq, split, List.foldlM_cons, root]
  rcases eq_or_ne place [] with rfl | some_
  · rfl
  · rw [Text.pieces_intercalate some_ fun name member => (reached.proper name member).whole]
    exact foldlM_step_names reached

-- The induction is from the end: names that stay where they are come off before the last one.
theorem getLast?_of_steps {names : List Text} (follows : names.foldlM files.step place = some next)
    (last : ((names.filter fun name => !name.isEmpty).filter (· != ['.'])).getLast? = some name)
    (down : name ≠ ['.', '.']) : next.getLast? = some name := by
  induction names using List.reverseRecOn generalizing next with
  | nil => cases last
  | append_singleton before final ih =>
      rw [List.foldlM_append] at follows
      obtain ⟨above, earlier, later⟩ := Option.bind_eq_some_iff.1 follows
      rw [List.foldlM_cons] at later
      obtain ⟨_, stepped, ends⟩ := Option.bind_eq_some_iff.1 later
      obtain rfl := Option.some.inj ends
      obtain ⟨-, rfl⟩ := step_eq_some_iff.1 stepped
      rw [List.filter_append, List.filter_append] at last
      by_cases stays : final = [] ∨ final = ['.']
      · have same : follow above final = above := by
          rcases stays with rfl | rfl <;> rfl
        rw [same]
        refine ih earlier ?_
        rcases stays with rfl | rfl <;> simpa using last
      · obtain ⟨some_, here⟩ := not_or.1 stays
        have final_eq : final = name := by simpa [some_, here] using last
        rw [final_eq] at some_ here ⊢
        rw [follow_into some_ here down, List.getLast?_concat]

/-- The last name of a location is the last one of its place, unless it leads up. -/
theorem getLast?_of_place? (found : files.place? location = some place)
    (last : (Location.names location).getLast? = some name) (down : name ≠ ['.', '.']) :
    place.getLast? = some name :=
  getLast?_of_steps found last down

/-- What is not at or below a place stays when the place is removed. -/
theorem entry?_remove {other : Place} (apart : ¬ place <+: other) :
    Files.entry? (files.remove place) other = files.entry? other := by
  have found (entries : List (Place × Entry)) :
      (entries.filter fun entry => !place.isPrefixOf entry.1).lookup other =
        entries.lookup other := by
    induction entries with
    | nil => rfl
    | cons entry rest ih =>
        obtain ⟨at_, content⟩ := entry
        rw [List.filter_cons]
        by_cases same : other = at_
        · have kept : (!place.isPrefixOf at_) = true := by
            simpa [← List.isPrefixOf_iff_prefix, same] using apart
          rw [if_pos kept, same, List.lookup_cons_self, List.lookup_cons_self]
        · have differs : (other == at_) = false := beq_eq_false_iff_ne.2 same
          split <;> simp only [List.lookup_cons, differs, ih]
  unfold entry?
  exact if_congr Iff.rfl rfl (found files.entries)

end Files

/-! ## Deleting the data -/

namespace Program

variable {around : Surroundings} {files : Files} {location : Text} {place : Place}

theorem files_deleteAll (found : files.place? location = some place) (output : Text) :
    (deleteAll files output location).files =
      if files.isDirectory place = true then files.remove place else files := by
  rw [deleteAll, found]
  dsimp only
  split <;> rfl

/-- There is something to delete, and it is deleted if that is asked for or agreed to. -/
theorem files_prune_of_hasAt (there : files.hasAt around.dataDirectory = true) (yes : Bool)
    (input : Text) :
    ∃ output, ((prune around files yes).result input).files =
      if yes = true ∨ agrees input = true then
        (deleteAll files output (files.canonical around.dataDirectory)).files
      else files := by
  rw [prune, if_pos there]
  cases yes with
  | true => exact ⟨_, rfl⟩
  | false =>
      cases agreed : agrees input with
      | true => exact ⟨_, congrArg Result.files (if_pos agreed)⟩
      | false => exact ⟨[], congrArg Result.files (if_neg (Bool.eq_false_iff.1 agreed))⟩

/-- **Deleting the data removes the place of the data directory**, if it is a directory and the
deletion is asked for or agreed to, and else leaves the files as they are. -/
theorem files_prune (around : Surroundings) (files : Files) (yes : Bool) (input : Text) :
    ((prune around files yes).result input).files =
      match files.place? around.dataDirectory with
      | some place =>
          if (yes = true ∨ agrees input = true) ∧ files.isDirectory place = true then
            files.remove place
          else files
      | none => files := by
  cases there : files.hasAt around.dataDirectory with
  | false =>
      have kept : ((prune around files yes).result input).files = files := by
        rw [prune, if_neg (Bool.eq_false_iff.1 there)]
        rfl
      rw [kept]
      split
      · rename_i place found
        rw [Files.hasAt, Files.at?, found, Option.bind_some, Option.isSome_eq_false_iff,
          Option.isNone_iff_eq_none] at there
        rw [Files.isDirectory, there]
        exact (if_neg fun both => absurd both.2 (by decide)).symm
      · rfl
  | true =>
      obtain ⟨output, result⟩ := files_prune_of_hasAt there yes input
      obtain ⟨entry, stands⟩ := Option.isSome_iff_exists.1 there
      obtain ⟨place, found, stands⟩ := Option.bind_eq_some_iff.1 stands
      have canonical : files.canonical around.dataDirectory = Location.ofComponents place := by
        rw [Files.canonical, found]
        dsimp only
        rw [stands]
        rfl
      have leads := Files.place?_ofComponents (Files.reached_of_place? found)
      rw [result, canonical, files_deleteAll leads, found]
      exact (ite_and ..).symm

end Program

/-! ## The data directory -/

/-- The names that the application gives directories of its own. -/
def ownNames : List Text := ["sieve", ".sieve"]

/-- The last name of a location is that of a directory of the application. -/
def Location.IsOwn (location : Text) : Prop :=
  ∃ name ∈ ownNames, (names location).getLast? = some name

namespace Surroundings

open Location (IsOwn isAbsolute join names)
open Text (Blank)

variable {around : Surroundings}

/-- The directory of the user's data is absolute. -/
theorem isAbsolute_userData (home : isAbsolute around.home = true) :
    isAbsolute around.userData = true := by
  unfold userData
  split
  · split
    · assumption
    · exact Location.isAbsolute_join home
  · exact Location.isAbsolute_join home

theorem dataDirectory_of_unset (unset : around.lookup? "SIEVE_DATA_DIR" = none) :
    around.dataDirectory = join around.userData "sieve" := by
  rw [dataDirectory, unset]

theorem dataDirectory_of_set {value : Text} (set : around.lookup? "SIEVE_DATA_DIR" = some value) :
    around.dataDirectory = around.expand value := by
  rw [dataDirectory, set]

theorem getLast?_of_unset (unset : around.lookup? "SIEVE_DATA_DIR" = none) :
    (names around.dataDirectory).getLast? = some ("sieve" : Text) := by
  have last : names ("sieve" : Text) = [("sieve" : Text)] := by decide
  rw [dataDirectory_of_unset unset, Location.names_join (by decide), last, List.getLast?_concat]

theorem isOwn_of_unset (unset : around.lookup? "SIEVE_DATA_DIR" = none) :
    IsOwn around.dataDirectory :=
  ⟨"sieve", List.mem_cons_self, getLast?_of_unset unset⟩

theorem isAbsolute_dataDirectory (home : isAbsolute around.home = true)
    (here : isAbsolute around.directory = true) : isAbsolute around.dataDirectory = true := by
  cases named : around.lookup? "SIEVE_DATA_DIR" with
  | none =>
      rw [dataDirectory_of_unset named]
      exact Location.isAbsolute_join (isAbsolute_userData home)
  | some value =>
      rw [dataDirectory_of_set named]
      exact isAbsolute_expand here value

/-- **Which directory is deleted with the data.**  It is absolute, and every entry that changes
lies at or below it.  It is one of the application's own if nothing is set in the variable that
names it; if white space is set, it is the current directory; any other value names it. -/
theorem prune_deletes_own_unless_blank (home : isAbsolute around.home = true)
    (here : isAbsolute around.directory = true) :
    isAbsolute around.dataDirectory = true ∧
    ((∀ value, around.lookup? "SIEVE_DATA_DIR" = some value → Blank value) →
      (IsOwn around.dataDirectory ↔
        around.lookup? "SIEVE_DATA_DIR" = none ∨ IsOwn around.directory)) ∧
    (∀ value, around.lookup? "SIEVE_DATA_DIR" = some value →
      (Blank value → around.dataDirectory = around.directory) ∧
      (¬ Blank value → around.dataDirectory = around.expand value)) ∧
    ∀ (files : Files) (yes : Bool) (input : Text) (other : Place),
      Files.entry? ((Program.prune around files yes).result input).files other ≠
        files.entry? other →
      (yes = true ∨ Program.agrees input = true) ∧
        ∃ place, files.place? around.dataDirectory = some place ∧
          files.isDirectory place = true ∧ place <+: other ∧
          (around.lookup? "SIEVE_DATA_DIR" = none → place.getLast? = some ("sieve" : Text)) := by
  refine ⟨isAbsolute_dataDirectory home here, fun blank => ?_, fun value set => ⟨?_, ?_⟩,
    fun files yes input other changed => ?_⟩
  · cases named : around.lookup? "SIEVE_DATA_DIR" with
    | none => exact iff_of_true (isOwn_of_unset named) (.inl rfl)
    | some value =>
        rw [dataDirectory_of_set named, expand_of_blank (blank value named)]
        exact (or_iff_right nofun).symm
  · intro blank
    rw [dataDirectory_of_set set, expand_of_blank blank]
  · intro _
    exact dataDirectory_of_set set
  · rw [Program.files_prune] at changed
    split at changed
    · rename_i place found
      split at changed
      · rename_i deletes
        refine ⟨deletes.1, place, found, deletes.2, ?_, fun unset => ?_⟩
        · by_contra apart
          exact changed (Files.entry?_remove apart)
        · exact Files.getLast?_of_place? found (getLast?_of_unset unset) (by decide)
      · exact absurd rfl changed
    · exact absurd rfl changed

/-- The files of an account that has data of the application, and work elsewhere. -/
def annsFiles : Files where
  entries :=
    [(["home"], .directory), (["home", "ann"], .directory), (["home", "ann", ".local"], .directory),
      (["home", "ann", ".local", "share"], .directory),
      (["home", "ann", ".local", "share", "sieve"], .directory),
      (["home", "ann", ".local", "share", "sieve", "sqlite"], .directory),
      (["srv"], .directory), (["srv", "work"], .directory), (["srv", "work", "notes"], .text "kept")]

/-- Nothing names the data directory, and the variable for the user's data is not absolute. -/
def annUnnamed : Surroundings :=
  ⟨[("HOME", "/home/ann"), ("XDG_DATA_HOME", "data")], "/srv/work", "/root", []⟩

theorem agreed_prune_deletes_own :
    Files.entry? ((Program.prune annUnnamed annsFiles false).result " Yes\n").files
        ["home", "ann", ".local", "share", "sieve", "sqlite"] = none ∧
      IsOwn annUnnamed.dataDirectory ∧
      ∃ place, annsFiles.place? annUnnamed.dataDirectory = some place ∧
        place.getLast? = some ("sieve" : Text) := by
  have home : isAbsolute annUnnamed.home = true := by decide
  have here : isAbsolute annUnnamed.directory = true := by decide
  have unset : annUnnamed.lookup? "SIEVE_DATA_DIR" = none := by decide +kernel
  have deleted : Files.entry? ((Program.prune annUnnamed annsFiles false).result " Yes\n").files
      ["home", "ann", ".local", "share", "sieve", "sqlite"] = none := by decide +kernel
  obtain ⟨-, own, -, deletes⟩ := prune_deletes_own_unless_blank home here
  obtain ⟨-, place, found, -, -, last⟩ := deletes annsFiles false " Yes\n"
    ["home", "ann", ".local", "share", "sieve", "sqlite"] (by rw [deleted]; decide +kernel)
  refine ⟨deleted, (own fun value set => ?_).2 (.inl unset), place, found, last unset⟩
  rw [unset] at set
  cases set

/-- White space is set for the data directory. -/
def annBlank : Surroundings :=
  ⟨[("HOME", "/home/ann"), ("SIEVE_DATA_DIR", " ")], "/srv/work", "/root", []⟩

/-- White space names the current directory, which is then deleted. -/
theorem blank_name_deletes_current :
    annBlank.lookup? "SIEVE_DATA_DIR" = some (" " : Text) ∧ Blank " " ∧
      annBlank.dataDirectory = annBlank.directory ∧ ¬ IsOwn annBlank.dataDirectory ∧
      annsFiles.entry? ["srv", "work", "notes"] = some (.text "kept") ∧
      Files.entry? ((Program.prune annBlank annsFiles true).result []).files
        ["srv", "work", "notes"] = none := by
  refine ⟨by decide +kernel, by decide +kernel, by decide +kernel, ?_, by decide +kernel,
    by decide +kernel⟩
  rintro ⟨name, member, last⟩
  exact absurd last (by revert name; decide +kernel)

end Surroundings

end CatalogListing
