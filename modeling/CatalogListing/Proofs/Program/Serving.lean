/-
# Proofs.Program.Serving -- which accepted settings can be served

Settings are accepted with any host and any origins.  A server needs a host that is an
address, and a policy for its origins, which there is not with the wildcard; so of the
accepted settings exactly those are served whose host is an address and whose origins,
without white space around them and slashes behind them, are not `*`
(`accepted_served_iff`).

* `Configuration.canBeServed_iff`: what a server needs of settings;
* among the hosts that stand for every interface or for loopback, `[::]` and `localhost`
  are no addresses (`accepted_without_server`).
-/
import CatalogListing.Program.Run
import CatalogListing.Proofs.Http.Origins
import CatalogListing.Proofs.Settings.Accepted

namespace CatalogListing

set_option autoImplicit false

/-! ## Servers -/

namespace Configuration

/-- What a server needs of settings: a host that is an address, and a policy for the
origins, whatever interfaces the machine has. -/
def CanBeServed (configuration : Configuration) : Prop :=
  Address.isAddress configuration.host = true ∧ ∀ interfaces,
    ∃ policy, Http.OriginPolicy.ofOrigins (Origin.allowed configuration.host configuration.port
      configuration.corsOrigins interfaces) = .ok policy

theorem exists_policy_iff (origins : List Text) :
    (∃ policy, Http.OriginPolicy.ofOrigins origins = .ok policy) ↔
      ¬ (Origin.listed origins).contains Origin.wildcard = true := by
  unfold Http.OriginPolicy.ofOrigins
  dsimp only
  split
  · rename_i wild
    exact ⟨fun ⟨_, made⟩ => (nomatch made), fun free => absurd wild free⟩
  · rename_i free
    exact ⟨fun _ => free, fun _ => ⟨_, rfl⟩⟩

/-- The interfaces of a machine do not decide whether there is a policy. -/
theorem exists_policy_iff_listable (configuration : Configuration)
    (interfaces : List InterfaceAddress) :
    (∃ policy, Http.OriginPolicy.ofOrigins (Origin.allowed configuration.host configuration.port
        configuration.corsOrigins interfaces) = .ok policy) ↔
      ∀ origin ∈ configuration.corsOrigins, Origin.normalize origin ≠ Origin.wildcard := by
  rw [exists_policy_iff, Origin.listed_contains_wildcard_iff]
  simp only [not_exists, not_and, ne_eq]

theorem canBeServed_iff (configuration : Configuration) :
    configuration.CanBeServed ↔ Address.isAddress configuration.host = true ∧
      ∀ origin ∈ configuration.corsOrigins, Origin.normalize origin ≠ Origin.wildcard := by
  simp only [CanBeServed, exists_policy_iff_listable, forall_const]

end Configuration

/-- Of the hosts that stand for every interface or for loopback, two are no addresses. -/
theorem Host.isAddress_iff {host : Text}
    (known : Host.isAllInterfaces host = true ∨ Host.isLoopback host = true) :
    Address.isAddress host = true ↔ host ≠ "[::]" ∧ host ≠ "localhost" := by
  have hosts : ∀ host ∈ (["0.0.0.0", "::", "[::]", "127.0.0.1", "localhost"] : List Text),
      Address.isAddress host = true ↔ host ≠ "[::]" ∧ host ≠ "localhost" := by
    decide +kernel
  rw [Host.isAllInterfaces, Host.isLoopback, List.contains_iff_mem, List.contains_iff_mem,
    ← List.mem_append] at known
  exact hosts host known

namespace Program

variable {call : Call} {around : Surroundings} {given : GivenSettings} {files : Files}
  {opened : Opened}

theorem load_of_openAll (opens : openAll call around given = (files, .ok opened)) :
    Configuration.load around call.files.find given = .ok opened.configuration := by
  unfold openAll at opens
  split at opens
  · cases opens
  · rename_i configuration loaded
    split at opens
    · cases opens
    · split at opens
      · cases opens
        exact loaded
      · cases opens

/-- The call goes on to bind the address: it serves, or the address is not one of the
machine. -/
def Binds (result : Result) (output : Text) (files : Files) : Prop :=
  (∃ server, result.ending = .serve server) ∨
    result = .failed output files .addressNotAvailable

/-- A call goes on to bind the address if its settings can be served. -/
theorem start_binds_iff (opens : openAll call around given = (files, .ok opened)) :
    Binds (start call around given) (bannerOf opened) files ↔
      opened.configuration.CanBeServed := by
  unfold start
  rw [opens]
  dsimp only
  by_cases address : Address.isAddress opened.configuration.host = true
  · rw [if_neg (by simp only [address, Bool.not_true, Bool.false_eq_true, not_false_eq_true])]
    have served : opened.configuration.CanBeServed ↔ ∃ policy,
        Http.OriginPolicy.ofOrigins (serverOf opened around.interfaces).origins = .ok policy :=
      opened.configuration.canBeServed_iff.trans ((and_iff_right address).trans
        (opened.configuration.exists_policy_iff_listable around.interfaces).symm)
    rw [served]
    cases made : Http.OriginPolicy.ofOrigins (serverOf opened around.interfaces).origins with
    | error failure =>
        refine ⟨fun binds => ?_, fun ⟨policy, same⟩ => (nomatch same)⟩
        rcases binds with ⟨server, ending⟩ | failed
        · cases ending
        · cases congrArg Result.ending failed
    | ok policy =>
        refine ⟨fun _ => ⟨policy, rfl⟩, fun _ => ?_⟩
        dsimp only
        split
        · exact .inl ⟨_, rfl⟩
        · exact .inr rfl
  · rw [if_pos (by simp only [address, Bool.not_false])]
    refine ⟨fun binds => ?_, fun served => absurd served.1 address⟩
    rcases binds with ⟨server, ending⟩ | failed
    · cases ending
    · have reports : line ('\n' :: ("Error: " ++ ProgramFault.noAddress.message ++ ['\n'])) =
          line ('\n' :: ("Error: " ++ ProgramFault.addressNotAvailable.message ++ ['\n'])) :=
        congrArg Result.report failed
      exact absurd reports (by decide)

end Program

/-- **Which accepted settings can be served.** -/
theorem accepted_served_iff {around : Surroundings} {look : Text → Configuration.Found}
    {given : GivenSettings} {configuration : Configuration}
    (accepted : Configuration.load around look given = .ok configuration) :
    (configuration.CanBeServed ↔ Address.isAddress configuration.host = true ∧
      ∀ origin ∈ configuration.corsOrigins, Origin.normalize origin ≠ Origin.wildcard) ∧
    (Host.isAllInterfaces configuration.host = true ∨
        Host.isLoopback configuration.host = true →
      (Address.isAddress configuration.host = true ↔
        configuration.host ≠ "[::]" ∧ configuration.host ≠ "localhost")) ∧
    ∀ (call : Program.Call) (files : Files) (opened : Program.Opened),
      call.files.find = look → Program.openAll call around given = (files, .ok opened) →
      opened.configuration = configuration ∧
        (Program.Binds (Program.start call around given) (Program.bannerOf opened) files ↔
          configuration.CanBeServed) := by
  refine ⟨configuration.canBeServed_iff, Host.isAddress_iff, ?_⟩
  rintro call files opened rfl opens
  obtain rfl := Except.ok.inj ((Program.load_of_openAll opens).symm.trans accepted)
  exact ⟨rfl, Program.start_binds_iff opens⟩

/-- A file of the current directory and the command line give origins. -/
def originFiles (location : Text) : Configuration.Found :=
  if location = "/srv/sieve.json" then
    .text "\x7b\"server\": \x7b\"cors_origins\": [\" https://books.example/ \", \"/\"]\x7d\x7d"
  else .nothing

/-- Every interface in the sixth version of addresses, with origins. -/
theorem originFiles_can_be_served :
    ∃ configuration,
      Configuration.load ⟨[], "/srv", "/root", []⟩ originFiles
          { host := some "::", corsOrigins := ["**"] } = .ok configuration ∧
        configuration.CanBeServed := by
  have accepted : Configuration.load ⟨[], "/srv", "/root", []⟩ originFiles
      { host := some "::", corsOrigins := ["**"] } =
        .ok { Configuration.defaults with
          host := "::", corsOrigins := [" https://books.example/ ", "/", "**"] } := by
    decide +kernel
  exact ⟨_, accepted, (accepted_served_iff accepted).1.2 ⟨by decide +kernel, by decide +kernel⟩⟩

/-- What is accepted where there are no files. -/
def acceptedAlone (given : GivenSettings) : Except ConfigurationError Configuration :=
  Configuration.load ⟨[], "/srv", "/root", []⟩ (fun _ => .nothing) given

/-- A host that stands for every interface, one that stands for loopback, and an origin, with
which settings are accepted and cannot be served. -/
theorem accepted_without_server :
    (∃ configuration, acceptedAlone { host := some "[::]" } = .ok configuration ∧
      Host.isAllInterfaces configuration.host = true ∧ ¬ configuration.CanBeServed) ∧
    (∃ configuration, acceptedAlone { host := some "localhost" } = .ok configuration ∧
      Host.isLoopback configuration.host = true ∧ ¬ configuration.CanBeServed) ∧
    ∃ configuration, acceptedAlone { corsOrigins := [" */ "] } = .ok configuration ∧
      Address.isAddress configuration.host = true ∧ ¬ configuration.CanBeServed := by
  simp only [Configuration.canBeServed_iff]
  refine ⟨⟨{ Configuration.defaults with host := "[::]" }, ?_⟩,
    ⟨{ Configuration.defaults with host := "localhost" }, ?_⟩,
    ⟨{ Configuration.defaults with corsOrigins := [" */ "] }, ?_⟩⟩ <;> decide +kernel

end CatalogListing
