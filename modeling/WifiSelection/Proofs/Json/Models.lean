import WifiSelection.Candidate
import WifiSelection.Passpoint
import WifiSelection.Proofs.Json.Records
import WifiSelection.Proofs.MacAddress
import WifiSelection.Proofs.Integers
import WifiSelection.Nomination

/-!
The JSON forms of scans, networks, suggestions and providers. Each is a record of its fields, so
each value reads back from its form and reads the same from another wording: fields that have their
default left out, unknown members added, and the letters of a radio address in either case. The
radio address of a scan is the text that was reported and is kept as it is.
-/

namespace WifiSelection

open JsonForm (toJson ofJson?)

@[reducible]
def JsonWording.unique (α : Type) [JsonForm α] : JsonWording α where
  Rewords _ _ _ := False

theorem LawfulJson.of_unique [JsonForm α]
    (reads : ∀ value : α, ofJson? (toJson value) = some value) : @LawfulJson α _ (.unique α) :=
  letI := JsonWording.unique α
  { ofJson?_toJson := reads
    ofJson?_of_rewords := fun _ impossible => impossible.elim }

section Plain

instance : JsonWording Bool := .unique Bool
instance : JsonWording String := .unique String
instance : JsonWording (Option String) := .unique (Option String)
instance : JsonWording Int32 := .unique Int32
instance : JsonWording UInt32 := .unique UInt32
instance : JsonWording Security := .unique Security
instance : JsonWording NetworkStatus := .unique NetworkStatus
instance : JsonWording (List String) := .unique (List String)
instance : JsonWording (List KeyManagement) := .unique (List KeyManagement)

instance : LawfulJson Bool := .of_unique fun _ => rfl

instance : LawfulJson String := .of_unique fun _ => rfl

instance : LawfulJson (Option String) := .of_unique fun value => by cases value <;> rfl

instance : LawfulJson Int32 := .of_unique Width.int32?_toInt

instance : LawfulJson UInt32 := .of_unique Width.uint32?_toNat

instance : LawfulJson Security := .of_unique fun value => by cases value <;> rfl

instance : LawfulJson NetworkStatus := .of_unique fun value => by cases value <;> rfl

theorem mapM_ofJson?_toJson [JsonForm α]
    (reads : ∀ value : α, ofJson? (toJson value) = some value) (values : List α) :
    (values.map toJson).mapM (ofJson? (α := α)) = some values := by
  induction values with
  | nil => rfl
  | cons head tail ih => simp [reads, ih]

instance : LawfulJson (List String) := .of_unique (mapM_ofJson?_toJson fun _ => rfl)

instance : LawfulJson (List KeyManagement) :=
  .of_unique (mapM_ofJson?_toJson fun value => by cases value <;> rfl)

end Plain

instance : JsonWording MacAddress where
  Rewords _ json other := ∃ text worded, json = .text text ∧ other = .text worded ∧
    Text.SameButCase text worded

theorem MacAddress.ofJson?_text_eq_some_iff {text : String} {address : MacAddress} :
    ofJson? (.text text) = some address ↔ parse text = .ok address := by
  change (parse text).toOption = some address ↔ _
  cases parse text <;> simp [Except.toOption]

instance : LawfulJson MacAddress where
  ofJson?_toJson address := MacAddress.ofJson?_text_eq_some_iff.mpr address.parse_display
  ofJson?_of_rewords := by
    rintro address json other read ⟨text, worded, rfl, rfl, same⟩
    rw [MacAddress.ofJson?_text_eq_some_iff] at read ⊢
    exact MacAddress.parse_of_sameButCase same read

section Records

instance : JsonRecord App where
  fields := [
    { name := "uid", get := App.uid },
    { name := "package", get := App.package }]
  names_nodup := by decide
  toJson_eq _ := rfl
  ofJson?_eq_some_iff members value := by
    cases value
    simp only [ofJson?, JsonReader.run?_bind_required,
      JsonReader.run?_pure, Option.bind_eq_some_iff]
    simp [JsonField.read?, -Bool.exists_bool]

instance : JsonRecord NetworkIdentity where
  fields := [
    { name := "ssid", get := NetworkIdentity.ssid },
    { name := "security_type", get := NetworkIdentity.security }]
  names_nodup := by decide
  toJson_eq _ := rfl
  ofJson?_eq_some_iff members value := by
    cases value
    simp only [ofJson?, JsonReader.run?_bind_required,
      JsonReader.run?_pure, Option.bind_eq_some_iff]
    simp [JsonField.read?, -Bool.exists_bool]

instance : JsonRecord CandidateKey where
  fields := [
    { name := "match_info", get := CandidateKey.identity },
    { name := "bssid", get := CandidateKey.bssid },
    { name := "network_id", get := CandidateKey.networkId }]
  names_nodup := by decide
  toJson_eq _ := rfl
  ofJson?_eq_some_iff members value := by
    cases value
    simp only [ofJson?, JsonReader.run?_bind_required,
      JsonReader.run?_pure, Option.bind_eq_some_iff]
    simp [JsonField.read?, -Bool.exists_bool]

instance : JsonRecord Scan where
  fields := [
    { name := "ssid", get := Scan.ssid },
    { name := "bssid", get := Scan.bssid },
    { name := "capabilities", get := Scan.capabilities },
    { name := "rssi", get := Scan.rssi },
    { name := "frequency_mhz", get := Scan.frequency },
    { name := "predicted_throughput_mbps", get := Scan.predictedThroughput, default := some 0 },
    { name := "is_interworking", get := Scan.interworking, default := some false }]
  names_nodup := by decide
  toJson_eq _ := rfl
  ofJson?_eq_some_iff members value := by
    cases value
    simp only [ofJson?, JsonReader.run?_bind_required, JsonReader.run?_bind_defaulted,
      JsonReader.run?_pure, Option.bind_eq_some_iff]
    simp [JsonField.read?, -Bool.exists_bool]

instance : JsonRecord Network where
  fields := [
    { name := "network_id", get := Network.id, default := some Network.blank.id },
    { name := "ssid", get := Network.ssid, default := some Network.blank.ssid },
    { name := "allowed_key_mgmt", get := Network.keyManagement,
      default := some Network.blank.keyManagement },
    { name := "wep_keys", get := Network.wepKeys, default := some Network.blank.wepKeys },
    { name := "fqdn", get := Network.fqdn, default := some Network.blank.fqdn },
    { name := "ephemeral", get := Network.ephemeral, default := some Network.blank.ephemeral },
    { name := "from_suggestion", get := Network.fromSuggestion,
      default := some Network.blank.fromSuggestion },
    { name := "metered", get := Network.metered, default := some Network.blank.metered },
    { name := "is_home_provider", get := Network.homeProvider,
      default := some Network.blank.homeProvider },
    { name := "selection_status", get := Network.status, default := some Network.blank.status },
    { name := "creator", get := Network.creator, default := some Network.blank.creator }]
  names_nodup := by decide
  toJson_eq _ := rfl
  ofJson?_eq_some_iff members value := by
    cases value
    simp only [ofJson?, JsonReader.run?_bind_defaulted,
      JsonReader.run?_pure, Option.bind_eq_some_iff]
    simp [JsonField.read?, -Bool.exists_bool]

instance : JsonRecord Suggestion where
  fields := [
    { name := "config", get := Suggestion.network },
    { name := "app", get := Suggestion.app },
    { name := "priority", get := Suggestion.priority },
    { name := "untrusted", get := Suggestion.untrusted, default := some false }]
  names_nodup := by decide
  toJson_eq _ := rfl
  ofJson?_eq_some_iff members value := by
    cases value
    simp only [ofJson?, JsonReader.run?_bind_required, JsonReader.run?_bind_defaulted,
      JsonReader.run?_pure, Option.bind_eq_some_iff]
    simp [JsonField.read?, -Bool.exists_bool]

instance : JsonRecord Provider where
  fields := [
    { name := "fqdn", get := Provider.fqdn },
    { name := "config", get := Provider.network },
    { name := "from_suggestion", get := Provider.fromSuggestion, default := some false }]
  names_nodup := by decide
  toJson_eq _ := rfl
  ofJson?_eq_some_iff members value := by
    cases value
    simp only [ofJson?, JsonReader.run?_bind_required, JsonReader.run?_bind_defaulted,
      JsonReader.run?_pure, Option.bind_eq_some_iff]
    simp [JsonField.read?, -Bool.exists_bool]

end Records

/-- The values of every model type read back from their JSON forms, and what reads as such a value
reads as the same value in every other wording. -/
theorem jsonForms_lawful : LawfulJson MacAddress ∧ LawfulJson NetworkIdentity ∧
    LawfulJson CandidateKey ∧ LawfulJson Scan ∧ LawfulJson App ∧ LawfulJson Network ∧
    LawfulJson Suggestion ∧ LawfulJson Provider :=
  ⟨inferInstance, inferInstance, inferInstance, inferInstance, inferInstance, inferInstance,
    inferInstance, inferInstance⟩

theorem jsonForms_lawful_reworded :
    let identity : JsonMembers := [("ssid", .text "cafe"), ("security_type", .text "open")]
    let upper : JsonMembers := [("bssid", .text "AA:BB:CC:00:01:02"), ("network_id", .integer 7),
      ("match_info", .record identity)]
    let lower : JsonMembers := [("bssid", .text "aa:bb:cc:00:01:02"), ("network_id", .integer 7),
      ("match_info", .record (("channel", .integer 6) :: identity))]
    let key : CandidateKey := ⟨⟨"cafe", .unsecured⟩, ⟨[0xaa, 0xbb, 0xcc, 0, 1, 2], rfl⟩, 7⟩
    let network := { Network.blank with ssid := "home" }
    (ofJson? (.record upper) = some key ∧ ofJson? (.record lower) = some key) ∧
      ofJson? (.record [("metered", .bool false), ("ssid", .text "home")]) = some network ∧
      ofJson? (.record [("ssid", .text "home")]) = some network := by
  intro identity upper lower key network
  obtain ⟨-, -, keyLawful, -, -, networkLawful, -, -⟩ := jsonForms_lawful
  have readUpper : ofJson? (.record upper) = some key := by decide +kernel
  have readMetered : ofJson? (.record [("metered", .bool false), ("ssid", .text "home")]) =
      some network := by decide +kernel
  refine ⟨⟨readUpper, keyLawful.ofJson?_of_rewords readUpper ?_⟩, readMetered,
    networkLawful.ofJson?_of_rewords readMetered ?_⟩
  · let bssid : JsonField CandidateKey := { name := "bssid", get := CandidateKey.bssid }
    let info : JsonField CandidateKey := { name := "match_info", get := CandidateKey.identity }
    have sameAddress : Text.SameButCase "AA:BB:CC:00:01:02" "aa:bb:cc:00:01:02" := by
      decide +kernel
    have lowered := @JsonRecord.Rewording.reword _ _ _ key [] (upper.drop 1) bssid _ _
      (.tail _ (.head _)) ⟨_, _, rfl, rfl, sameAddress⟩
    have extended := @JsonRecord.Rewording.add _ _ _ key.identity [] identity "channel"
      (.integer 6) (by decide +kernel)
    have inside := @JsonRecord.Rewording.reword _ _ _ key (lower.take 2) [] info _ _ (.head _)
      ⟨_, _, rfl, rfl, .single extended⟩
    exact ⟨upper, lower, rfl, rfl, .tail (.single lowered) inside⟩
  · let metered : JsonField Network :=
      { name := "metered", get := Network.metered, default := some Network.blank.metered }
    have shortened := @JsonRecord.Rewording.leaveOut _ _ _ network
      [("metered", .bool false), ("ssid", .text "home")] metered
      (by simp [JsonRecord.fields, metered]) rfl
    exact ⟨_, _, rfl, rfl, .single shortened⟩

end WifiSelection
