/-
# Proofs.Settings.Layers -- the last layer that gives a setting counts

Files are merged section by section, and a section field by field; what comes out is known
one setting at a time.  A setting of merged files is the one of the last file that gives it,
whatever else the files give (`Overrides.foldl_merge`), so each setting in force is the
first one among the command line, the files from the last to the first, and the default.

* `Sections.merge_assoc`: files can be merged in any groups, and a file without settings
  changes nothing;
* `settings_are_last_given`: the settings in force, as a whole.
-/
import CatalogListing.Proofs.Settings.Accepted

namespace CatalogListing

set_option autoImplicit false

/-! ## Sections over sections -/

section Over

variable {σ α : Type} {combine : σ → σ → σ} {absent : σ} {field : σ → Option α}

/-- A field of a section over another is the one of the later section, if that gives it. -/
theorem sectionOver_bind (nothing : field absent = none)
    (prefers : ∀ later earlier, field (combine later earlier) = (field later).or (field earlier))
    (earlier later : Option σ) :
    (sectionOver combine absent earlier later).bind field =
      (later.bind field).or (earlier.bind field) := by
  cases later with
  | none => rfl
  | some later =>
      cases earlier with
      | none => exact (prefers later absent).trans (by rw [nothing]; rfl)
      | some earlier => exact prefers later earlier

theorem sectionOver_none_left (identity : ∀ one, combine one absent = one) (later : Option σ) :
    sectionOver combine absent none later = later := by
  cases later with
  | none => rfl
  | some later => exact congrArg some (identity later)

/-- Whether the first two sections are put over each other first or the last two. -/
theorem sectionOver_assoc (identity : ∀ one, combine one absent = one)
    (assoc : ∀ third second first,
      combine third (combine second first) = combine (combine third second) first)
    (first second third : Option σ) :
    sectionOver combine absent (sectionOver combine absent first second) third =
      sectionOver combine absent first (sectionOver combine absent second third) := by
  cases third with
  | none => rfl
  | some third =>
      cases second with
      | none => exact congrArg (fun section_ => some (combine section_ _)) (identity third).symm
      | some second => exact congrArg some (assoc third second _)

end Over

/-! ## Merged files -/

theorem ServerSection.overriding_empty (one : ServerSection) : one.overriding {} = one := by
  simp only [overriding, Option.or_none]

theorem ServerSection.overriding_assoc (third second first : ServerSection) :
    third.overriding (second.overriding first) = (third.overriding second).overriding first := by
  simp only [overriding, Option.or_assoc]

theorem DatabaseSection.overriding_empty (one : DatabaseSection) : one.overriding {} = one := by
  simp only [overriding, Option.or_none]

theorem DatabaseSection.overriding_assoc (third second first : DatabaseSection) :
    third.overriding (second.overriding first) = (third.overriding second).overriding first := by
  simp only [overriding, Option.or_assoc]

theorem QuerySection.overriding_empty (one : QuerySection) : one.overriding {} = one := by
  simp only [overriding, Option.or_none]

theorem QuerySection.overriding_assoc (third second first : QuerySection) :
    third.overriding (second.overriding first) = (third.overriding second).overriding first := by
  simp only [overriding, Option.or_assoc]

namespace Sections

theorem merge_empty (file : Sections) : file.merge {} = file := rfl

theorem empty_merge (file : Sections) : merge {} file = file := by
  unfold merge
  rw [sectionOver_none_left ServerSection.overriding_empty,
    sectionOver_none_left DatabaseSection.overriding_empty,
    sectionOver_none_left QuerySection.overriding_empty]

theorem merge_assoc (first second third : Sections) :
    (first.merge second).merge third = first.merge (second.merge third) := by
  unfold merge
  rw [sectionOver_assoc ServerSection.overriding_empty ServerSection.overriding_assoc,
    sectionOver_assoc DatabaseSection.overriding_empty DatabaseSection.overriding_assoc,
    sectionOver_assoc QuerySection.overriding_empty QuerySection.overriding_assoc]

/-! ## One setting at a time -/

/-- The settings that a file gives. -/
def host? (file : Sections) : Option Text := file.server.bind (·.host)
def port? (file : Sections) : Option Nat := file.server.bind (·.port)
def corsOrigins? (file : Sections) : Option (List Text) := file.server.bind (·.corsOrigins)
def path? (file : Sections) : Option Text := file.database.bind (·.path)
def defaultLimit? (file : Sections) : Option Nat := file.query.bind (·.defaultLimit)
def maxLimit? (file : Sections) : Option Nat := file.query.bind (·.maxLimit)

/-- The setting of two merged files is the one of the later file, if that gives it. -/
structure Overrides {α : Type} (setting : Sections → Option α) : Prop where
  empty : setting {} = none
  merge : ∀ earlier later : Sections,
    setting (earlier.merge later) = (setting later).or (setting earlier)

theorem overrides_host? : Overrides host? :=
  ⟨rfl, fun _ _ => sectionOver_bind rfl (fun _ _ => rfl) _ _⟩

theorem overrides_port? : Overrides port? :=
  ⟨rfl, fun _ _ => sectionOver_bind rfl (fun _ _ => rfl) _ _⟩

theorem overrides_corsOrigins? : Overrides corsOrigins? :=
  ⟨rfl, fun _ _ => sectionOver_bind rfl (fun _ _ => rfl) _ _⟩

theorem overrides_path? : Overrides path? :=
  ⟨rfl, fun _ _ => sectionOver_bind rfl (fun _ _ => rfl) _ _⟩

theorem overrides_defaultLimit? : Overrides defaultLimit? :=
  ⟨rfl, fun _ _ => sectionOver_bind rfl (fun _ _ => rfl) _ _⟩

theorem overrides_maxLimit? : Overrides maxLimit? :=
  ⟨rfl, fun _ _ => sectionOver_bind rfl (fun _ _ => rfl) _ _⟩

theorem findSome?_id_cons {α : Type} (first : Option α) (rest : List (Option α)) :
    (first :: rest).findSome? id = first.or (rest.findSome? id) := by
  rw [List.findSome?_cons]
  cases first <;> rfl

/-- **The last file that gives a setting counts**, however many files are merged. -/
theorem Overrides.foldl_merge {α : Type} {setting : Sections → Option α}
    (overrides : Overrides setting) (files : List Sections) :
    setting (files.foldl Sections.merge {}) = (files.reverse.map setting).findSome? id := by
  induction files using List.reverseRecOn with
  | nil => exact overrides.empty
  | append_singleton files last ih =>
      rw [List.foldl_append, List.foldl_cons, List.foldl_nil, overrides.merge, ih,
        List.reverse_append, List.reverse_singleton, List.singleton_append, List.map_cons,
        findSome?_id_cons]

end Sections

namespace Configuration

/-! ## Settings in force -/

/-- The first value that is given, or the default. -/
def firstGiven {α : Type} (default : α) (sources : List (Option α)) : α :=
  (sources.findSome? id).getD default

/-- Each setting in force is given by the command line, or by the last file that gives it, or
is the default; the origins of the command line come behind those of the files. -/
structure LastGiven (files : List Sections) (given : GivenSettings)
    (configuration : Configuration) : Prop where
  host : configuration.host =
    firstGiven ("127.0.0.1" : Text) (given.host :: files.reverse.map Sections.host?)
  port : configuration.port = firstGiven 5380 (given.port :: files.reverse.map Sections.port?)
  dbPath : configuration.dbPath =
    (given.dbPath :: files.reverse.map Sections.path?).findSome? id
  defaultLimit : configuration.bounds.defaultLimit =
    firstGiven 20 (given.defaultLimit :: files.reverse.map Sections.defaultLimit?)
  maxLimit : configuration.bounds.maxLimit =
    firstGiven 100 (given.maxLimit :: files.reverse.map Sections.maxLimit?)
  corsOrigins : configuration.corsOrigins =
    firstGiven [] (files.reverse.map Sections.corsOrigins?) ++ given.corsOrigins

/-- The command line over merged files, one setting at a time. -/
theorem layer_eq (merged : Sections) (given : GivenSettings) :
    layer merged given =
      { host := (given.host.or merged.host?).getD "127.0.0.1"
        port := (given.port.or merged.port?).getD 5380
        corsOrigins := merged.corsOrigins?.getD [] ++ given.corsOrigins
        dbPath := given.dbPath.or merged.path?
        bounds := ⟨(given.defaultLimit.or merged.defaultLimit?).getD 20,
          (given.maxLimit.or merged.maxLimit?).getD 100⟩ } := by
  obtain ⟨server, database, query⟩ := merged
  cases server <;> cases database <;> cases query <;> rfl

theorem lastGiven_layer (files : List Sections) (given : GivenSettings) :
    LastGiven files given (layer (files.foldl Sections.merge {}) given) where
  host := by
    rw [layer_eq, firstGiven, Sections.findSome?_id_cons, Sections.overrides_host?.foldl_merge]
  port := by
    rw [layer_eq, firstGiven, Sections.findSome?_id_cons, Sections.overrides_port?.foldl_merge]
  dbPath := by
    rw [layer_eq, Sections.findSome?_id_cons, Sections.overrides_path?.foldl_merge]
  defaultLimit := by
    rw [layer_eq, firstGiven, Sections.findSome?_id_cons,
      Sections.overrides_defaultLimit?.foldl_merge]
  maxLimit := by
    rw [layer_eq, firstGiven, Sections.findSome?_id_cons, Sections.overrides_maxLimit?.foldl_merge]
  corsOrigins := by
    rw [layer_eq, firstGiven, Sections.overrides_corsOrigins?.foldl_merge]

end Configuration

/-- **The settings in force are those of the last layer that gives them.** -/
theorem settings_are_last_given :
    (∀ (files : List Sections) (given : GivenSettings),
      Configuration.LastGiven files given
        (Configuration.layer (files.foldl Sections.merge {}) given)) ∧
    (∀ profile overlay : Sections,
      [profile, overlay].foldl Sections.merge {} = profile.merge overlay) ∧
    (∀ first second third : Sections,
      (first.merge second).merge third = first.merge (second.merge third)) ∧
    (∀ file : Sections, Sections.merge {} file = file ∧ file.merge {} = file) ∧
    ∀ (around : Surroundings) (look : Text → Configuration.Found) (given : GivenSettings)
        (configuration : Configuration),
      Configuration.load around look given = .ok configuration →
        ∃ profile overlay,
          Configuration.readOptional (Configuration.profileLocation around)
              (look (Configuration.profileLocation around)) = .ok profile ∧
          Configuration.readOverlay around look given = .ok overlay ∧
          Configuration.LastGiven [profile, overlay] given configuration := by
  have two (profile overlay : Sections) :
      [profile, overlay].foldl Sections.merge {} = profile.merge overlay := by
    rw [List.foldl_cons, Sections.empty_merge]
    rfl
  refine ⟨Configuration.lastGiven_layer, two, Sections.merge_assoc,
    fun file => ⟨file.empty_merge, file.merge_empty⟩, ?_⟩
  intro around look given configuration accepted
  obtain ⟨profile, overlay, first, second, rfl, -⟩ :=
    (Configuration.load_eq_ok_iff _ _ _ _).1 accepted
  exact ⟨profile, overlay, first, second,
    two profile overlay ▸ Configuration.lastGiven_layer [profile, overlay] given⟩

/-- A profile with a host, a port, an origin and a limit, and a file of the current directory
with another port and the other limit. -/
def siblingFiles (location : Text) : Configuration.Found :=
  if location = "/root/.sieve/sieve.json" then
    .text "\x7b\"server\": \x7b\"host\": \"10.0.0.1\", \"port\": 8000,
      \"cors_origins\": [\"https://a.example\"]\x7d, \"query\": \x7b\"max_limit\": 40\x7d\x7d"
  else if location = "/srv/sieve.json" then
    .text "\x7b\"server\": \x7b\"port\": 9000\x7d, \"query\": \x7b\"default_limit\": 5\x7d\x7d"
  else .nothing

theorem readOptional_siblingFiles :
    Configuration.readOptional (Configuration.profileLocation ⟨[], "/srv", "/root", []⟩)
        (siblingFiles (Configuration.profileLocation ⟨[], "/srv", "/root", []⟩)) =
      .ok ⟨some ⟨some "10.0.0.1", some 8000, some ["https://a.example"]⟩, none,
        some ⟨none, some 40⟩⟩ := by
  decide +kernel

theorem readOverlay_siblingFiles (given : GivenSettings) (unnamed : given.config = none) :
    Configuration.readOverlay ⟨[], "/srv", "/root", []⟩ siblingFiles given =
      .ok ⟨some ⟨none, some 9000, none⟩, none, some ⟨some 5, none⟩⟩ := by
  rw [Configuration.readOverlay, unnamed]
  decide +kernel

/-- The settings beside those that a later layer gives stay. -/
theorem siblingFiles_keep_settings :
    ∃ configuration : Configuration,
      Configuration.load ⟨[], "/srv", "/root", []⟩ siblingFiles
          { maxLimit := some 60, corsOrigins := ["https://b.example"] } = .ok configuration ∧
        configuration.host = "10.0.0.1" ∧ configuration.port = 9000 ∧
        configuration.corsOrigins = ["https://a.example", "https://b.example"] ∧
        configuration.bounds = ⟨5, 60⟩ ∧
        ∃ profile overlay : Sections, profile.port? = some 8000 ∧ overlay.port? = some 9000 ∧
          Configuration.LastGiven [profile, overlay]
            { maxLimit := some 60, corsOrigins := ["https://b.example"] } configuration := by
  have accepted : Configuration.load ⟨[], "/srv", "/root", []⟩ siblingFiles
      { maxLimit := some 60, corsOrigins := ["https://b.example"] } =
        .ok ⟨"10.0.0.1", 9000, ["https://a.example", "https://b.example"], none, ⟨5, 60⟩⟩ :=
    (Configuration.load_eq_ok_iff _ _ _ _).2 ⟨_, _, readOptional_siblingFiles,
      readOverlay_siblingFiles _ rfl, rfl, by decide, by decide, by decide, by decide, by decide⟩
  obtain ⟨profile, overlay, first, second, last⟩ :=
    settings_are_last_given.2.2.2.2 _ _ _ _ accepted
  refine ⟨_, accepted, rfl, rfl, rfl, rfl, profile, overlay, ?_, ?_, last⟩
  · exact Except.ok.inj (first.symm.trans readOptional_siblingFiles) ▸ rfl
  · exact Except.ok.inj (second.symm.trans (readOverlay_siblingFiles _ rfl)) ▸ rfl

end CatalogListing
