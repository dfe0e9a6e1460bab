/-
# Proofs.Settings.Accepted -- which configurations are accepted

The settings of all layers are accepted when there is a host, a port and limits of pages
in order, and for nothing else (`Configuration.load_eq_ok_iff`).
-/
import CatalogListing.Proofs.Listing.Limits

namespace CatalogListing.Configuration

set_option autoImplicit false

/-- What is checked of the settings in force. -/
structure InOrder (configuration : Configuration) : Prop where
  host : configuration.host ≠ []
  port : configuration.port ≠ 0
  bounds : configuration.bounds.Configurable

theorem check_eq_ok_iff (configuration accepted : Configuration) :
    check configuration = .ok accepted ↔ accepted = configuration ∧ configuration.InOrder := by
  have refused {error : ConfigurationError} (apart : ¬ configuration.InOrder) :
      (Except.error error = Except.ok accepted) ↔
        accepted = configuration ∧ configuration.InOrder :=
    ⟨fun same => (nomatch same), fun inOrder => absurd inOrder.2 apart⟩
  unfold check
  dsimp only
  by_cases empty : configuration.host.isEmpty = true
  · rw [if_pos empty]
    exact refused fun inOrder => inOrder.host (List.isEmpty_iff.1 empty)
  rw [if_neg empty]
  by_cases port : configuration.port = 0
  · rw [if_pos port]
    exact refused fun inOrder => inOrder.port port
  rw [if_neg port]
  by_cases zero : configuration.bounds.defaultLimit = 0 ∨ configuration.bounds.maxLimit = 0
  · rw [if_pos zero]
    refine refused fun inOrder => ?_
    obtain ⟨positive, ordered, -⟩ := inOrder.bounds
    omega
  rw [if_neg zero]
  by_cases large : maxBound < configuration.bounds.maxLimit
  · rw [if_pos large]
    exact refused fun inOrder => Nat.not_lt.2 inOrder.bounds.2.2 large
  rw [if_neg large]
  by_cases crossed : configuration.bounds.maxLimit < configuration.bounds.defaultLimit
  · rw [if_pos crossed]
    exact refused fun inOrder => Nat.not_lt.2 inOrder.bounds.2.1 crossed
  rw [if_neg crossed]
  have inOrder : configuration.InOrder :=
    { host := fun none_ => empty (List.isEmpty_iff.2 none_)
      port := port
      bounds := ⟨by omega, by omega, by omega⟩ }
  exact ⟨fun same => ⟨(Except.ok.inj same).symm, inOrder⟩, fun ⟨same, _⟩ => same ▸ rfl⟩

/-- **The settings of the layers are accepted if they are in order.** -/
theorem load_eq_ok_iff (around : Surroundings) (look : Text → Found) (given : GivenSettings)
    (configuration : Configuration) :
    load around look given = .ok configuration ↔
      ∃ profile overlay,
        readOptional (profileLocation around) (look (profileLocation around)) = .ok profile ∧
        readOverlay around look given = .ok overlay ∧
        configuration = layer (profile.merge overlay) given ∧ configuration.InOrder := by
  unfold load
  constructor
  · intro accepted
    obtain ⟨profile, first, accepted⟩ := Database.ok_of_bind accepted
    obtain ⟨overlay, second, accepted⟩ := Database.ok_of_bind accepted
    obtain ⟨rfl, inOrder⟩ := (check_eq_ok_iff _ _).1 accepted
    exact ⟨profile, overlay, first, second, rfl, inOrder⟩
  · rintro ⟨profile, overlay, first, second, rfl, inOrder⟩
    rw [first, second]
    exact (check_eq_ok_iff _ _).2 ⟨rfl, inOrder⟩

theorem inOrder_of_load {around : Surroundings} {look : Text → Found} {given : GivenSettings}
    {configuration : Configuration} (accepted : load around look given = .ok configuration) :
    configuration.InOrder := by
  obtain ⟨_, _, _, _, _, inOrder⟩ := (load_eq_ok_iff _ _ _ _).1 accepted
  exact inOrder

end CatalogListing.Configuration
