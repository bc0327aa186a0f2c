import Mathlib
import PeerBook.Proofs.SettingsLayers

/-!
# The order of a file's values does not matter

A settings file is read into values by key, and the values are applied one after another. Any
order of distinct keys gives the same outcome: all of them apply, to the same settings, or one
of them is refused (`applyValues_independent_of_order`).

Two facts carry this. Each known key names one setting of its own (`FileField`), and applying a
value is taking that setting from what the value makes of the default settings: whether it is
refused depends on the key and the value alone, and it changes nothing but its setting
(`applyValue_eq_copy`). Two values of different keys therefore commute (`applyValue_swap`), and
a permutation of the values is a chain of such swaps.
-/

namespace PeerBook

/-- The settings a file can give, one for each known key. -/
inductive FileField where
  | network
  | dataDir
  | backend
  | peersFile
  | seeds
  | seedPort
  | resolver
  | services
  | timeout
  | persistInterval
  | staticPeers
  | metricsAddr
  | logLevel
  | logFile
  | logJson
  deriving DecidableEq

namespace FileField

/-- The setting a key names, if it is a known key. -/
def ofKey : String → Option FileField
  | "network" => some .network
  | "datadir" => some .dataDir
  | "discovery.backend" => some .backend
  | "discovery.peersfile" => some .peersFile
  | "discovery.seeds" => some .seeds
  | "discovery.seedport" => some .seedPort
  | "discovery.resolver" => some .resolver
  | "discovery.services" => some .services
  | "discovery.timeout" => some .timeout
  | "discovery.persistinterval" => some .persistInterval
  | "discovery.static" => some .staticPeers
  | "metrics.addr" => some .metricsAddr
  | "log.level" => some .logLevel
  | "log.file" => some .logFile
  | "log.json" => some .logJson
  | _ => none

/-- The key of a setting. -/
def key : FileField → String
  | .network => "network"
  | .dataDir => "datadir"
  | .backend => "discovery.backend"
  | .peersFile => "discovery.peersfile"
  | .seeds => "discovery.seeds"
  | .seedPort => "discovery.seedport"
  | .resolver => "discovery.resolver"
  | .services => "discovery.services"
  | .timeout => "discovery.timeout"
  | .persistInterval => "discovery.persistinterval"
  | .staticPeers => "discovery.static"
  | .metricsAddr => "metrics.addr"
  | .logLevel => "log.level"
  | .logFile => "log.file"
  | .logJson => "log.json"

/-- The settings with the one setting `field` taken from `source`. -/
def copy (field : FileField) (source settings : Settings) : Settings :=
  match field with
  | .network => { settings with network := source.network }
  | .dataDir => { settings with dataDir := source.dataDir }
  | .backend =>
    { settings with discovery := { settings.discovery with backend := source.discovery.backend } }
  | .peersFile =>
    { settings with
      discovery := { settings.discovery with peersFile := source.discovery.peersFile } }
  | .seeds =>
    { settings with discovery := { settings.discovery with seeds := source.discovery.seeds } }
  | .seedPort =>
    { settings with
      discovery := { settings.discovery with seedPort := source.discovery.seedPort } }
  | .resolver =>
    { settings with
      discovery := { settings.discovery with resolver := source.discovery.resolver } }
  | .services =>
    { settings with
      discovery := { settings.discovery with services := source.discovery.services } }
  | .timeout =>
    { settings with discovery := { settings.discovery with timeout := source.discovery.timeout } }
  | .persistInterval =>
    { settings with
      discovery :=
        { settings.discovery with persistInterval := source.discovery.persistInterval } }
  | .staticPeers =>
    { settings with
      discovery := { settings.discovery with staticPeers := source.discovery.staticPeers } }
  | .metricsAddr => { settings with metricsAddr := source.metricsAddr }
  | .logLevel => { settings with log := { settings.log with level := source.log.level } }
  | .logFile => { settings with log := { settings.log with file := source.log.file } }
  | .logJson => { settings with log := { settings.log with json := source.log.json } }

theorem eq_key_of_ofKey {text : String} {field : FileField} (named : ofKey text = some field) :
    text = field.key := by
  unfold ofKey at named
  split at named <;> cases named <;> rfl

theorem copy_comm {first second : FileField} (distinct : first ≠ second)
    (firstSource secondSource settings : Settings) :
    first.copy firstSource (second.copy secondSource settings) =
      second.copy secondSource (first.copy firstSource settings) := by
  cases first <;> cases second <;> simp at distinct <;> rfl

end FileField

namespace Settings

/-- What a value makes of the default settings. -/
def valueSource (key value : String) : Except ValueFault Settings :=
  ({} : Settings).applyValue key value

/-- Applying a value takes the setting its key names from what the value makes of the default
settings, and an unknown key changes nothing: whether the value is refused does not depend on
the settings it is applied to. -/
theorem applyValue_eq_copy (settings : Settings) (key value : String) :
    settings.applyValue key value =
      (FileField.ofKey key).elim (.ok settings) fun field =>
        (valueSource key value).map fun source => field.copy source settings := by
  unfold valueSource applyValue
  split
  -- A key none of the literals matched names no setting.
  case h_16 =>
    have unknown : FileField.ofKey key = none := by
      unfold FileField.ofKey
      split <;> simp_all
    rw [unknown]
    rfl
  -- A value read as a number, a mask or a duration is refused or taken alike on both sides.
  case h_6 => cases Numeral.readDecimalReported value <;> rfl
  case h_8 => cases ServiceMask.parse value <;> rfl
  case h_9 => cases Duration.parse value <;> rfl
  case h_10 => cases Duration.parse value <;> rfl
  all_goals rfl

/-- Two values of different keys, applied in either order, are both taken, to the same
settings, or one of them is refused in both orders. -/
theorem applyValue_swap {firstKey secondKey : String} (distinct : firstKey ≠ secondKey)
    (settings : Settings) (firstValue secondValue : String) :
    ((settings.applyValue firstKey firstValue).toOption.bind fun applied =>
        (applied.applyValue secondKey secondValue).toOption) =
      ((settings.applyValue secondKey secondValue).toOption.bind fun applied =>
        (applied.applyValue firstKey firstValue).toOption) := by
  simp only [applyValue_eq_copy]
  cases firstNamed : FileField.ofKey firstKey with
  | none => cases FileField.ofKey secondKey <;> cases valueSource secondKey secondValue <;> rfl
  | some first =>
    cases secondNamed : FileField.ofKey secondKey with
    | none => cases valueSource firstKey firstValue <;> rfl
    | some second =>
      have different : first ≠ second := fun same =>
        distinct (by rw [FileField.eq_key_of_ofKey firstNamed, FileField.eq_key_of_ofKey secondNamed, same])
      cases valueSource firstKey firstValue <;> cases valueSource secondKey secondValue
      case ok.ok firstSource secondSource =>
        exact congrArg some (FileField.copy_comm different firstSource secondSource settings).symm
      -- A refused value is refused in either order.
      all_goals rfl

/-- One value applied, forgetting why it may be refused. -/
def applyEntry (settings : Settings) (entry : String × String) : Option Settings :=
  (settings.applyValue entry.1 entry.2).toOption

theorem toOption_applyValues (settings : Settings) (values : SettingValues) :
    (settings.applyValues values).toOption = values.foldlM applyEntry settings := by
  induction values generalizing settings with
  | nil => rfl
  | cons entry values induction =>
      obtain ⟨key, value⟩ := entry
      rw [applyValues_cons, List.foldlM_cons, applyEntry]
      cases settings.applyValue key value with
      | error fault => rfl
      | ok applied => exact induction applied

/-- Values of distinct keys give the same outcome in any order: the induction follows the
permutation, and a swap of two neighbours is `applyValue_swap`. -/
theorem foldlM_applyEntry_perm {first second : SettingValues} (reordered : first.Perm second)
    (distinct : (first.map Prod.fst).Nodup) (settings : Settings) :
    first.foldlM applyEntry settings = second.foldlM applyEntry settings := by
  induction reordered generalizing settings with
  | nil => rfl
  | cons entry _ induction =>
      rw [List.foldlM_cons, List.foldlM_cons]
      cases applyEntry settings entry with
      | none => rfl
      | some applied => exact induction (List.nodup_cons.mp distinct).2 applied
  | swap entry other values =>
      have keys : other.1 ≠ entry.1 := by
        simp only [List.map_cons, List.nodup_cons, List.mem_cons, not_or] at distinct
        exact distinct.1.1
      simp only [List.foldlM_cons]
      rw [← bind_assoc, ← bind_assoc]
      exact congrArg (· >>= fun applied => values.foldlM applyEntry applied)
        (applyValue_swap keys settings other.2 entry.2)
  | trans firstStep _ firstSame secondSame =>
      exact (firstSame distinct settings).trans
        (secondSame ((firstStep.map Prod.fst).nodup_iff.mp distinct) settings)

/-- Applying a file's values does not depend on the order their distinct keys are visited in:
any two orders both apply every value, to the same settings, or both refuse one. -/
theorem applyValues_independent_of_order (settings : Settings) {first second : SettingValues}
    (distinct : (first.map Prod.fst).Nodup) (reordered : first.Perm second) :
    (settings.applyValues first).toOption = (settings.applyValues second).toOption := by
  rw [toOption_applyValues, toOption_applyValues, foldlM_applyEntry_perm reordered distinct]

theorem applyValues_independent_of_order_of_refused_port :
    (([("network", "testnet"), ("discovery.seedport", "abc")] : SettingValues).map Prod.fst).Nodup ∧
      List.Perm ([("network", "testnet"), ("discovery.seedport", "abc")] : SettingValues)
        [("discovery.seedport", "abc"), ("network", "testnet")] ∧
      (({} : Settings).applyValues [("network", "testnet"), ("discovery.seedport", "abc")]).toOption =
        (({} : Settings).applyValues [("discovery.seedport", "abc"), ("network", "testnet")]).toOption :=
  have distinct : (([("network", "testnet"), ("discovery.seedport", "abc")] : SettingValues).map
      Prod.fst).Nodup := by simp
  ⟨distinct, List.Perm.swap _ _ _, applyValues_independent_of_order _ distinct (List.Perm.swap _ _ _)⟩

end Settings

end PeerBook
