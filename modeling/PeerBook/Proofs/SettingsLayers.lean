import Mathlib
import PeerBook.Settings.Load

/-!
# Which network the seed defaults follow

Loading settings lays three layers over one another: the defaults of the network the command
line names, the settings file, and the command line. The seeds and the seed port are the only
defaults that depend on the network, and they are taken once more between the file and the
command line, for the network the file leaves. The command line can then name yet another
network; the seeds and seed port that neither the file nor the command line give stay those of
the file's network (`seed_defaults_follow_file_network`).

`load_eq_layers` names the layers of a load: `firstLayer`, the file's values, `reseed`, the
command line and the checks. Each has a lemma on the fields it can change: a file value
(`applyValue_fields`), all of them in turn (`applyValues_fields`), the seed defaults taken again
(`reseed_fields`), the command line (`applyCommandLine_fields`), and the checks, which change
none of them (`validate_fields`).
-/

namespace PeerBook

namespace Settings

/-- The network a run of file values leaves, from the one before them: the last value given to
the `network` key. -/
def fileNetwork (network : String) (values : SettingValues) : String :=
  values.foldl (fun network entry => if entry.1 == "network" then entry.2 else network) network

theorem applyValue_fields {settings applied : Settings} {key value : String}
    (applying : settings.applyValue key value = .ok applied) :
    applied.network = (if key == "network" then value else settings.network) ∧
      (key ≠ "discovery.seeds" → applied.discovery.seeds = settings.discovery.seeds) ∧
      (key ≠ "discovery.seedport" → applied.discovery.seedPort = settings.discovery.seedPort) := by
  unfold applyValue at applying
  split at applying <;> (try split at applying) <;> cases applying
  -- Each named key's case compares literals; the last, any other key, is none of them.
  all_goals simp_all

@[simp]
theorem fileNetwork_nil (network : String) : fileNetwork network [] = network := rfl

@[simp]
theorem fileNetwork_cons (network key value : String) (values : SettingValues) :
    fileNetwork network ((key, value) :: values) =
      fileNetwork (if key == "network" then value else network) values := rfl

theorem applyValues_cons (settings : Settings) (key value : String) (values : SettingValues) :
    settings.applyValues ((key, value) :: values) =
      ((settings.applyValue key value).mapError (ValueError.mk key)).bind
        (·.applyValues values) := rfl

theorem applyValues_fields {settings applied : Settings} {values : SettingValues}
    (applying : settings.applyValues values = .ok applied) :
    applied.network = fileNetwork settings.network values ∧
      (values.any (·.1 == "discovery.seeds") = false →
        applied.discovery.seeds = settings.discovery.seeds) ∧
      (values.any (·.1 == "discovery.seedport") = false →
        applied.discovery.seedPort = settings.discovery.seedPort) := by
  induction values generalizing settings with
  | nil =>
      cases applying
      exact ⟨rfl, fun _ => rfl, fun _ => rfl⟩
  | cons entry values induction =>
      obtain ⟨key, value⟩ := entry
      rw [applyValues_cons] at applying
      cases stepping : settings.applyValue key value with
      | error fault =>
          rw [stepping] at applying
          cases applying
      | ok stepped =>
          rw [stepping] at applying
          obtain ⟨network, seeds, seedPort⟩ := induction applying
          obtain ⟨firstNetwork, firstSeeds, firstSeedPort⟩ := applyValue_fields stepping
          refine ⟨by rw [network, firstNetwork, fileNetwork_cons], fun absent => ?_,
            fun absent => ?_⟩
          · simp only [List.any_cons, Bool.or_eq_false_iff, beq_eq_false_iff_ne] at absent
            rw [seeds absent.2, firstSeeds absent.1]
          · simp only [List.any_cons, Bool.or_eq_false_iff, beq_eq_false_iff_ne] at absent
            rw [seedPort absent.2, firstSeedPort absent.1]

theorem applyCommandLine_fields {settings applied : Settings} {line : CommandLine}
    (applying : settings.applyCommandLine line = .ok applied) :
    applied.network =
        (if line.network.isEmpty then settings.network else Text.lowerCase line.network) ∧
      (line.seeds.isEmpty = true → applied.discovery.seeds = settings.discovery.seeds) ∧
      (line.seedPort = 0 → applied.discovery.seedPort = settings.discovery.seedPort) := by
  unfold applyCommandLine at applying
  simp only [bind, Except.bind] at applying
  -- Whether or not services were given, what comes back is one literal over the settings.
  split at applying
  all_goals
    split at applying
    · cases applying
    · cases applying
      exact ⟨rfl, fun empty => by simp [empty], fun zero => by simp [zero]⟩

theorem validate_fields {settings checked : Settings} (checking : settings.validate = .ok checked) :
    checked.network = settings.network ∧ checked.discovery.seeds = settings.discovery.seeds ∧
      checked.discovery.seedPort = settings.discovery.seedPort := by
  let Kept : Prop := checked.network = settings.network ∧
    checked.discovery.seeds = settings.discovery.seeds ∧
    checked.discovery.seedPort = settings.discovery.seedPort
  show Kept
  -- The checks stay join points, opened one at a time: unfolding them all at once would copy
  -- what follows each check into both of its branches.
  unfold validate at checking
  simp -zeta only [bind, Except.bind, pure, Except.pure, throw, throwThe, MonadExceptOf.throw] at checking
  extract_lets discovery level logSettings afterBackend afterDataDir afterNetwork at checking
  have afterBackendKeeps : ∀ backend, afterBackend backend = .ok checked → Kept := by
    intro backend stepping
    simp -zeta only [afterBackend] at stepping
    extract_lets filled afterLevel afterMetrics afterStatic afterSeeds afterInterval afterTimeout
      afterResolver at stepping
    have afterLevelKeeps : afterLevel () = .ok checked → Kept := by
      intro passing
      simp -zeta only [afterLevel, filled] at passing
      split at passing
      · cases passing
        exact ⟨rfl, rfl, rfl⟩
      · cases passing
    have afterMetricsKeeps : afterMetrics () = .ok checked → Kept := by
      intro passing
      simp -zeta only [afterMetrics] at passing
      split at passing
      · exact afterLevelKeeps passing
      · split at passing
        · cases passing
        · exact afterLevelKeeps passing
    have afterTimeoutKeeps : afterTimeout () = .ok checked → Kept := by
      intro passing
      simp -zeta only [afterTimeout, afterInterval, afterSeeds, afterStatic] at passing
      split at passing
      · cases passing
      split at passing
      · cases passing
      split at passing
      · cases passing
      split at passing
      · cases passing
      exact afterMetricsKeeps passing
    split at stepping
    · cases stepping
    simp -zeta only [afterResolver] at stepping
    split at stepping
    · exact afterTimeoutKeeps stepping
    · split at stepping
      · cases stepping
      · exact afterTimeoutKeeps stepping
  split at checking
  · simp -zeta only [afterNetwork, afterDataDir] at checking
    split at checking
    · cases checking
    split at checking
    · exact afterBackendKeeps _ checking
    · exact afterBackendKeeps _ checking
    · exact afterBackendKeeps _ checking
    · cases checking
  · cases checking

theorem network_defaults_of_known {home network : String}
    (known : network = testnet ∨ network = mainnet) : (defaults home network).network = network := by
  rcases known with rfl | rfl
  · simp [defaults, testnetDefaults]
  · simp [defaults, mainnetDefaults, mainnet, testnet]

/-- The network whose defaults a load starts from: the test network when the command line names
it, in any case, else the main network. -/
def firstNetwork (line : CommandLine) : String :=
  if Text.lowerCase line.network == testnet then testnet else mainnet

/-- The settings a load lays the file over: the defaults of the first network, in the data
directory the command line names. -/
def firstLayer (home : String) (line : CommandLine) : Settings :=
  let settings := defaults home (firstNetwork line)
  if line.dataDir.isEmpty then settings else { settings with dataDir := line.dataDir }

/-- The settings after the file with the seed defaults taken again, for the network the file
left, when that is not the network the load started from. -/
def reseed (home network : String) (values : SettingValues) (layered : Settings) : Settings :=
  if layered.network == network then layered
  else
    let other := defaults home layered.network
    let given (key : String) : Bool := values.any (·.1 == key)
    { layered with discovery := { layered.discovery with
        seeds := if given "discovery.seeds" then layered.discovery.seeds
          else other.discovery.seeds
        seedPort := if given "discovery.seedport" then layered.discovery.seedPort
          else other.discovery.seedPort } }

theorem load_eq_layers (home : String) (line : CommandLine) (file : Option String) :
    load home line file = (do
      let values ← (SettingsFile.read (file.getD "")).mapError .unreadableFile
      let layered ← ((firstLayer home line).applyValues values).mapError .badFileValue
      let settings ← ((reseed home (firstNetwork line) values layered).applyCommandLine line).mapError
        .badServicesFlag
      settings.validate.mapError .invalid) := rfl

theorem firstLayer_network (home : String) (line : CommandLine) :
    (firstLayer home line).network = firstNetwork line := by
  have known : firstNetwork line = testnet ∨ firstNetwork line = mainnet := by
    unfold firstNetwork
    split
    · exact .inl rfl
    · exact .inr rfl
  unfold firstLayer
  split <;> exact network_defaults_of_known known

theorem firstLayer_discovery (home : String) (line : CommandLine) :
    (firstLayer home line).discovery = (defaults home (firstNetwork line)).discovery := by
  unfold firstLayer
  split <;> rfl

/-- Taking the seed defaults again keeps the network, and seeds and a seed port the file did not
give, which are still the first network's, become those of the network the file left. -/
theorem reseed_fields {home network : String} {values : SettingValues} {layered : Settings} :
    (reseed home network values layered).network = layered.network ∧
      (values.any (·.1 == "discovery.seeds") = false →
        layered.discovery.seeds = (defaults home network).discovery.seeds →
        (reseed home network values layered).discovery.seeds =
          (defaults home layered.network).discovery.seeds) ∧
      (values.any (·.1 == "discovery.seedport") = false →
        layered.discovery.seedPort = (defaults home network).discovery.seedPort →
        (reseed home network values layered).discovery.seedPort =
          (defaults home layered.network).discovery.seedPort) := by
  unfold reseed
  split
  · rename_i same
    have sameNetwork : layered.network = network := beq_iff_eq.mp same
    refine ⟨rfl, fun _ first => ?_, fun _ first => ?_⟩
    · rw [first, sameNetwork]
    · rw [first, sameNetwork]
  · refine ⟨rfl, fun noSeeds _ => ?_, fun noPort _ => ?_⟩
    · simp only [noSeeds, Bool.false_eq_true, if_false]
    · simp only [noPort, Bool.false_eq_true, if_false]

/-- What a load that succeeds makes of the network and the seed defaults. The network is the one
the command line names, else the one the settings file leaves. Seeds and a seed port that
neither the file nor the command line gives are the defaults of the network the file leaves,
so they are not those of the resulting network when the command line names another one. -/
theorem seed_defaults_follow_file_network {home : String} {line : CommandLine}
    {file : Option String} {settings : Settings} (loaded : load home line file = .ok settings)
    {values : SettingValues} (read : SettingsFile.read (file.getD "") = .ok values) :
    let fileNet := fileNetwork (firstNetwork line) values
    settings.network = (if line.network.isEmpty then fileNet else Text.lowerCase line.network) ∧
      (values.any (·.1 == "discovery.seeds") = false → line.seeds.isEmpty = true →
        settings.discovery.seeds = (defaults home fileNet).discovery.seeds) ∧
      (values.any (·.1 == "discovery.seedport") = false → line.seedPort = 0 →
        settings.discovery.seedPort = (defaults home fileNet).discovery.seedPort) := by
  intro fileNet
  rw [load_eq_layers] at loaded
  simp only [read, bind, Except.bind, Except.mapError] at loaded
  -- Each layer that succeeds hands its settings to the next; a refusal ends the load.
  cases applied : (firstLayer home line).applyValues values with
  | error fault =>
      rw [applied] at loaded
      cases loaded
  | ok layered =>
      rw [applied] at loaded
      simp only at loaded
      cases commanding : (reseed home (firstNetwork line) values layered).applyCommandLine line with
      | error fault =>
          rw [commanding] at loaded
          cases loaded
      | ok commanded =>
          rw [commanding] at loaded
          simp only at loaded
          have checking : commanded.validate = .ok settings := by
            cases checked : commanded.validate with
            | error fault =>
                rw [checked] at loaded
                cases loaded
            | ok checked =>
                rw [checked] at loaded
                cases loaded
                rfl
          obtain ⟨layeredNetwork, layeredSeeds, layeredSeedPort⟩ := applyValues_fields applied
          obtain ⟨reseededNetwork, reseededSeeds, reseededSeedPort⟩ :=
            @reseed_fields home (firstNetwork line) values layered
          obtain ⟨commandedNetwork, commandedSeeds, commandedSeedPort⟩ :=
            applyCommandLine_fields commanding
          obtain ⟨checkedNetwork, checkedSeeds, checkedSeedPort⟩ := validate_fields checking
          have fileLeaves : layered.network = fileNet := by
            rw [layeredNetwork, firstLayer_network]
          refine ⟨?_, fun noSeeds noFlag => ?_, fun noPort noFlag => ?_⟩
          · rw [checkedNetwork, commandedNetwork, reseededNetwork, fileLeaves]
          · have stillFirst := layeredSeeds noSeeds
            rw [firstLayer_discovery] at stillFirst
            rw [checkedSeeds, commandedSeeds noFlag, reseededSeeds noSeeds stillFirst, fileLeaves]
          · have stillFirst := layeredSeedPort noPort
            rw [firstLayer_discovery] at stillFirst
            rw [checkedSeedPort, commandedSeedPort noFlag, reseededSeedPort noPort stillFirst,
              fileLeaves]

end Settings
end PeerBook
