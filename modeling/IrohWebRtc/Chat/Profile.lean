import IrohWebRtc.Chat.BackupImport
import IrohWebRtc.Chat.Reducer
import IrohWebRtc.Chat.WireLimits

/-!
# The profile, and signing on

What a browser keeps of a user from one session to the next: the secret key under a passphrase
(`encrypt_key` and `decrypt_key` of `crypto.rs`), and the profile with the name and the rooms
under the secret key (`save_profile`, `load_profile` and `into_rooms` of `storage.rs`).  The
effect of `app.rs` that spawns the node puts them together.

The profile is saved whenever the name or the rooms change, by tasks that encrypt first and write
when they are done, in any order.  So a later save may be overtaken by an earlier one, and what is
stored is the profile that was written last, not the one that was saved last.  A save that fails,
in the cipher or in the storage, leaves what was stored before.

Reading a profile never fails: what cannot be read, decrypted or decoded is an empty profile.  A
room is written with its secret, and its topic is derived again when it is read; what has happened
in a room is not written.

* `ofJson_toJson`: a profile is read back.
* `decryptKey_encryptKey`: the key is unlocked by its passphrase.
* `ProfileStore.step`: the tasks that save, and whatever else is written to the storage.
* `ProfileStore.Kept`: the invariant of the two, and `signOn_kept`: what signing on finds under
  it.

Which rooms are saved, and that they come back as they were, is the subject of `Chat.SignOn`.
-/

namespace IrohWebRtc

open Bytes Runs Utf8

def storageName : String := "iroh.name"

/-! ## The secret key under a passphrase -/

/-- What encrypting the key uses of the browser besides the cipher. -/
class PassphraseLibraries where
  /-- `aes_key`: PBKDF2 of a passphrase and a salt. -/
  deriveKey : String → List UInt8 → Except String (FixedBytes 32)

/-- AES-GCM decrypts what it has encrypted. -/
class LawfulCipher [ChatLibraries] [SendLibraries] : Prop where
  decrypt_encrypt : ∀ {key : FixedBytes 32} {iv : FixedBytes 12} {data ciphertext : List UInt8},
    SendLibraries.aesGcmEncrypt key iv data = .ok ciphertext →
      ChatLibraries.aesGcmDecrypt key iv.toList ciphertext = .ok data

section Passphrase

variable [ChatLibraries] [SendLibraries] [PassphraseLibraries]

omit [ChatLibraries] in
/-- `encrypt_key`, with the salt and the initialisation vector it draws: the blob and the salt. -/
def encryptKey (keyBytes : FixedBytes 32) (passphrase : String) (salt : FixedBytes 16)
    (iv : FixedBytes 12) : Except String (List UInt8 × List UInt8) :=
  match PassphraseLibraries.deriveKey passphrase salt.toList with
  | .error e => .error e
  | .ok cipherKey =>
    (SendLibraries.aesGcmEncrypt cipherKey iv keyBytes.toList).map fun ct =>
      (1 :: (iv.toList ++ ct), salt.toList)

omit [SendLibraries] in
/-- `decrypt_key`. -/
def decryptKey (encrypted salt : List UInt8) (passphrase : String) :
    Except String (FixedBytes 32) :=
  if encrypted.length < 29 then .error "ciphertext too short"
  else
    match encrypted.getD 0 0 with
    | 1 =>
      match PassphraseLibraries.deriveKey passphrase salt with
      | .error e => .error e
      | .ok cipherKey =>
        match ChatLibraries.aesGcmDecrypt cipherKey (slice encrypted 1 13) (encrypted.drop 13) with
        | .error e => .error e
        | .ok pt =>
          match FixedBytes.ofList? 32 pt with
          | none => .error "decrypted key has wrong length"
          | some keyBytes => .ok keyBytes
    | v => .error ("unknown encryption version: " ++ toString v.toNat)

end Passphrase

/-! ## The profile -/

/-- One room of a profile. -/
structure RoomSave where
  secretB64 : String
  name : String
  hosting : Bool
  bootstrapPeers : List String
  deriving DecidableEq

structure Profile where
  version : ℕ
  name : String
  rooms : List RoomSave
  deriving DecidableEq

def profileVersionCurrent : ℕ := 2

def profileVersionDefault : ℕ := 1

/-- `Default`. -/
def Profile.default : Profile := ⟨profileVersionCurrent, "", []⟩

namespace JsonField

def flag : Json → Option Bool
  | .bool b => some b
  | _ => none

def list {α : Type*} (decode : Json → Option α) : Json → Option (List α)
  | .arr items => items.mapM decode
  | _ => none

/-- A derived `Deserialize` for fields that all have `#[serde(default)]`: an object with some of the
fields, or an array of the first of them. -/
def struct {α : Type*} (names : List String) (ofItems : (ℕ → Option Json) → Option α) :
    Json → Option α
  | .obj fields =>
    (names.mapM (lookup fields)).bind fun found => ofItems fun n => found[n]?.join
  | .arr items => if items.length ≤ names.length then ofItems fun n => items[n]? else none
  | _ => none

end JsonField

namespace RoomSave

def toJson (save : RoomSave) : Json :=
  .obj [("secret_b64", .str save.secretB64), ("name", .str save.name),
    ("hosting", .bool save.hosting), ("bootstrap_peers", .arr (save.bootstrapPeers.map .str))]

/-- The fields by their positions, each with its default. -/
def ofItems (item : ℕ → Option Json) : Option RoomSave :=
  ((item 0).elim (some "") JsonField.text).bind fun secretB64 =>
    ((item 1).elim (some "") JsonField.text).bind fun name =>
      ((item 2).elim (some false) JsonField.flag).bind fun hosting =>
        ((item 3).elim (some []) (JsonField.list JsonField.text)).map fun bootstrapPeers =>
          ⟨secretB64, name, hosting, bootstrapPeers⟩

def ofJson : Json → Option RoomSave :=
  JsonField.struct ["secret_b64", "name", "hosting", "bootstrap_peers"] ofItems

end RoomSave

namespace Profile

def toJson (profile : Profile) : Json :=
  .obj [("version", .num profile.version), ("name", .str profile.name),
    ("rooms", .arr (profile.rooms.map RoomSave.toJson))]

/-- The fields by their positions, each with its default. -/
def ofItems (item : ℕ → Option Json) : Option Profile :=
  ((item 0).elim (some profileVersionDefault) (JsonField.number (2 ^ 32))).bind fun version =>
    ((item 1).elim (some "") JsonField.text).bind fun name =>
      ((item 2).elim (some []) (JsonField.list RoomSave.ofJson)).map fun rooms =>
        ⟨version, name, rooms⟩

def ofJson : Json → Option Profile :=
  JsonField.struct ["version", "name", "rooms"] ofItems

end Profile

/-! ## Rooms and their snapshots -/

/-- How iroh-gossip writes a `TopicId`. -/
class TopicText where
  toText : FixedBytes 32 → String

/-- The topic of the room of a secret, as text. -/
def topicOf [JoinLibraries] [TopicText] (roomSecret : FixedBytes 32) : String :=
  TopicText.toText (deriveRoomKeys roomSecret).topicId

namespace RoomState

/-- What is saved of a room. -/
def save (r : RoomState) : RoomSave where
  secretB64 := base64Encode r.roomSecret.toList
  name := r.name
  hosting := r.mode = .hosting
  bootstrapPeers := r.bootstrapPeers

/-- A room as it comes back from a profile: what happened in it is forgotten. -/
def restored (r : RoomState) : RoomState :=
  { r with messages := [], participants := [], names := ∅, joined := false, leftSigners := ∅ }

end RoomState

/-- The profile that is saved. -/
def Profile.snapshot (name : String) (rooms : List RoomState) : Profile :=
  ⟨profileVersionCurrent, name, rooms.map RoomState.save⟩

section Rooms

variable [JoinLibraries] [TopicText]

/-- The room of a saved one, unless its secret does not decode. -/
def RoomSave.room (s : RoomSave) : Option RoomState :=
  ((base64Decode s.secretB64).bind (FixedBytes.ofList? 32)).map fun roomSecret =>
    { topicId := topicOf roomSecret
      roomSecret := roomSecret
      name := s.name
      mode := if s.hosting then .hosting else .joined
      messages := []
      participants := []
      names := ∅
      joined := false
      bootstrapPeers := s.bootstrapPeers
      leftSigners := ∅ }

/-- `into_rooms`. -/
def Profile.intoRooms (profile : Profile) : String × List RoomState :=
  if profile.version < 2 then (profile.name, [])
  else (profile.name, profile.rooms.filterMap RoomSave.room)

end Rooms

/-! ## Saving and loading -/

/-- The end of `save_profile`, when the profile is encrypted. -/
def writeProfile (access : StorageAccess) (storage : LocalStorage) (enc : List UInt8) :
    LocalStorage :=
  match access.localStorage with
  | .error _ => storage
  | .ok () =>
    let storage := (access.setItem storage storageProfile (base64Encode enc)).getD storage
    (access.removeItem storage storageName).getD storage

section Load

variable [ChatLibraries] [JsonReader]

/-- `load_profile`. -/
def loadProfile (access : StorageAccess) (storage : LocalStorage) (keyBytes : FixedBytes 32) :
    Profile :=
  match access.localStorage with
  | .error _ => .default
  | .ok () =>
    match (storage storageProfile).bind base64Decode with
    | none => .default
    | some enc =>
      match decryptData enc keyBytes with
      | .error _ => .default
      | .ok json => ((JsonReader.read json).bind Profile.ofJson).getD .default

end Load

/-- `stored_name`. -/
def storedName (access : StorageAccess) (storage : LocalStorage) : String :=
  match access.localStorage with
  | .error _ => "Guest"
  | .ok () => (storage storageName).getD "Guest"

/-- `forget_stored`. -/
def forgetStored (access : StorageAccess) (storage : LocalStorage) : LocalStorage :=
  match access.localStorage with
  | .error _ => storage
  | .ok () =>
    [storageEnc, storageSalt, storageName, storageProfile].foldl
      (fun storage key => (access.removeItem storage key).getD storage) storage

/-! ## Signing on -/

/-- `AppState::default`. -/
def AppState.default : AppState := ⟨[], none, "", none⟩

section SignOn

variable [JoinLibraries] [TopicText] [JsonReader] [PassphraseLibraries]

omit [JsonReader] [PassphraseLibraries] in
/-- The state that a profile restores: a name typed before comes first, then that of the profile,
then the one of older versions. -/
def restoredState (access : StorageAccess) (storage : LocalStorage) (pending : Option String)
    (profile : Profile) : AppState :=
  let (profileName, restored) := profile.intoRooms
  let localName := (pending.filter fun s => s ≠ "").getD
    (if profileName = "" then storedName access storage else profileName)
  { AppState.default with
    activeTopic := restored.head?.map RoomState.topicId
    rooms := restored
    name := localName }

/-- A user with a stored identity signs on: `on_submit` of the passphrase gate, and the effect that
spawns the node up to `SetInitial`.  Without an identity there is a new user. -/
def signOn (access : StorageAccess) (storage : LocalStorage) (passphrase : String) :
    Option (Except String (FixedBytes 32 × AppState)) :=
  (loadStored access storage).map fun (enc, salt) =>
    match decryptKey enc salt passphrase with
    | .error _ => .error "Wrong passphrase."
    | .ok keyBytes =>
      .ok (keyBytes, restoredState access storage none (loadProfile access storage keyBytes))

end SignOn

/-! ## The tasks that save -/

/-- A call of `save_profile`, with the initialisation vector it draws. -/
structure SaveTask where
  name : String
  rooms : List RoomState
  iv : FixedBytes 12

/-- The storage, the calls that encrypt, and those that have written their profile so far. -/
structure ProfileStore where
  storage : LocalStorage
  saving : List SaveTask
  written : List SaveTask

inductive ProfileOp where
  /-- The name or the rooms have changed. -/
  | save (task : SaveTask)
  /-- A call has encrypted, and writes if the browser lets it. -/
  | finish (n : ℕ) (access : StorageAccess)
  /-- Something else is written to the storage, or removed from it. -/
  | write (key : String) (value : Option String)

/-- The write of the profile goes through. -/
def StorageAccess.writesProfile (access : StorageAccess) : Bool :=
  access.localStorage.isOk && access.accepts storageProfile

section Saving

variable [SendLibraries]

/-- The profile of a call, encrypted. -/
def SaveTask.encrypted (task : SaveTask) (keyBytes : FixedBytes 32) : Except String (List UInt8) :=
  encryptData (Profile.snapshot task.name task.rooms).toJson.toBytes keyBytes task.iv

namespace ProfileStore

def step (keyBytes : FixedBytes 32) (s : ProfileStore) : ProfileOp → Option ProfileStore
  | .save task => some { s with saving := s.saving ++ [task] }
  | .finish n access =>
    (s.saving[n]?).map fun task =>
      match task.encrypted keyBytes with
      | .error _ => { s with saving := s.saving.eraseIdx n }
      | .ok enc =>
        { storage := writeProfile access s.storage enc
          saving := s.saving.eraseIdx n
          written := if access.writesProfile then s.written ++ [task] else s.written }
  | .write key value =>
    if key = storageEnc ∨ key = storageSalt ∨ key = storageProfile then none
    else some { s with storage := Function.update s.storage key value }

end ProfileStore

end Saving

/-! ## A profile is read back -/

theorem JsonField.list_map {α : Type*} {decode : Json → Option α} {encode : α → Json}
    (h : ∀ a, decode (encode a) = some a) (l : List α) :
    JsonField.list decode (.arr (l.map encode)) = some l := by
  show (l.map encode).mapM decode = some l
  induction l with
  | nil => rfl
  | cons a l ih =>
    rw [List.map_cons, List.mapM_cons, h, ih]
    rfl

theorem RoomSave.ofJson_toJson (save : RoomSave) : ofJson save.toJson = some save := by
  have hfound : ["secret_b64", "name", "hosting", "bootstrap_peers"].mapM
      (JsonField.lookup [("secret_b64", .str save.secretB64), ("name", .str save.name),
        ("hosting", .bool save.hosting),
        ("bootstrap_peers", .arr (save.bootstrapPeers.map .str))]) =
      some [some (.str save.secretB64), some (.str save.name), some (.bool save.hosting),
        some (.arr (save.bootstrapPeers.map .str))] := by
    simp [JsonField.lookup]
  have hpeers : JsonField.list JsonField.text (.arr (save.bootstrapPeers.map .str)) =
      some save.bootstrapPeers :=
    @JsonField.list_map _ JsonField.text Json.str (fun _ => rfl) _
  rw [ofJson, toJson, JsonField.struct, hfound]
  simp [ofItems, hpeers, JsonField.text, JsonField.flag]

/-- **A profile is read back.** -/
theorem Profile.ofJson_toJson {profile : Profile} (h : profile.version < 2 ^ 32) :
    ofJson profile.toJson = some profile := by
  have hfound : ["version", "name", "rooms"].mapM
      (JsonField.lookup [("version", .num profile.version), ("name", .str profile.name),
        ("rooms", .arr (profile.rooms.map RoomSave.toJson))]) =
      some [some (.num profile.version), some (.str profile.name),
        some (.arr (profile.rooms.map RoomSave.toJson))] := by
    simp [JsonField.lookup]
  have hrooms : JsonField.list RoomSave.ofJson (.arr (profile.rooms.map RoomSave.toJson)) =
      some profile.rooms := JsonField.list_map RoomSave.ofJson_toJson _
  have hversion : JsonField.number (2 ^ 32) (.num profile.version) = some profile.version :=
    if_pos h
  rw [ofJson, toJson, JsonField.struct, hfound]
  show ((JsonField.number (2 ^ 32) (.num profile.version)).bind fun version =>
    (some profile.name).bind fun name =>
      (JsonField.list RoomSave.ofJson (.arr (profile.rooms.map RoomSave.toJson))).map
        fun rooms => Profile.mk version name rooms) = _
  rw [hversion, hrooms]
  rfl

/-- A profile is a value that readers are made for. -/
theorem Profile.plain_toJson {profile : Profile} (h : profile.version < 2 ^ 32) :
    profile.toJson.Plain := by
  show ∀ field ∈ [("version", Json.num profile.version), ("name", .str profile.name),
    ("rooms", .arr (profile.rooms.map RoomSave.toJson))], Json.PlainWithin 126 field.2
  intro field hfield
  simp only [List.mem_cons, List.not_mem_nil, or_false] at hfield
  rcases hfield with rfl | rfl | rfl
  · show profile.version < 2 ^ 64
    omega
  · trivial
  · show ∀ v ∈ profile.rooms.map RoomSave.toJson, Json.PlainWithin 125 v
    intro v hv
    obtain ⟨save, -, rfl⟩ := List.mem_map.mp hv
    show ∀ field ∈ [("secret_b64", Json.str save.secretB64), ("name", .str save.name),
      ("hosting", .bool save.hosting), ("bootstrap_peers", .arr (save.bootstrapPeers.map .str))],
      Json.PlainWithin 124 field.2
    intro field hfield
    simp only [List.mem_cons, List.not_mem_nil, or_false] at hfield
    rcases hfield with rfl | rfl | rfl | rfl
    · trivial
    · trivial
    · trivial
    · show ∀ v ∈ save.bootstrapPeers.map Json.str, Json.PlainWithin 123 v
      intro v hv
      obtain ⟨peer, -, rfl⟩ := List.mem_map.mp hv
      trivial

section RoomsBack

variable [JoinLibraries] [TopicText]

theorem RoomSave.room_save {r : RoomState} (h : r.topicId = topicOf r.roomSecret) :
    r.save.room = some r.restored := by
  have hsecret : base64Decode r.save.secretB64 = some r.roomSecret.toList :=
    base64Decode_eq_some_iff.mpr rfl
  rw [RoomSave.room, hsecret, Option.bind_some, FixedBytes.ofList?_toList, Option.map_some]
  cases r with
  | mk topicId roomSecret name mode messages participants names joined bootstrapPeers leftSigners =>
    cases mode <;> simp [RoomState.save, RoomState.restored, ← h]

/-- **The rooms of a snapshot** come back, each without what happened in it. -/
theorem Profile.intoRooms_snapshot {name : String} {rooms : List RoomState}
    (h : ∀ r ∈ rooms, r.topicId = topicOf r.roomSecret) :
    (Profile.snapshot name rooms).intoRooms = (name, rooms.map RoomState.restored) := by
  have hrooms : (rooms.map RoomState.save).filterMap RoomSave.room =
      rooms.map RoomState.restored := by
    rw [List.filterMap_map, ← List.filterMap_eq_map]
    exact List.filterMap_congr fun r hr => RoomSave.room_save (h r hr)
  rw [Profile.intoRooms, if_neg (by simp [Profile.snapshot, profileVersionCurrent])]
  rw [← hrooms]
  rfl

end RoomsBack

/-! ## What was encrypted is decrypted -/

section Cipher

variable [SendLibraries]

omit [SendLibraries] in
/-- The blob of an encryption has its parts in place. -/
theorem blob_parts (iv : FixedBytes 12) (ct : List UInt8) :
    (1 :: (iv.toList ++ ct)).getD 0 0 = 1 ∧ slice (1 :: (iv.toList ++ ct)) 1 13 = iv.toList ∧
      (1 :: (iv.toList ++ ct)).drop 13 = ct := by
  refine ⟨rfl, ?_, ?_⟩
  · exact List.take_left' iv.length_toList
  · exact List.drop_left' iv.length_toList

/-- A blob is long enough to be decrypted. -/
theorem length_blob {key : FixedBytes 32} {iv : FixedBytes 12} {data ct : List UInt8}
    (h : SendLibraries.aesGcmEncrypt key iv data = .ok ct) :
    ¬ (1 :: (iv.toList ++ ct)).length < 29 := by
  rw [List.length_cons, List.length_append, iv.length_toList,
    SendLibraries.length_aesGcmEncrypt h]
  omega

variable [ChatLibraries] [LawfulCipher]

/-- **Data is decrypted under its key.** -/
theorem decryptData_encryptData {data frame : List UInt8} {key : FixedBytes 32}
    {iv : FixedBytes 12} (h : encryptData data key iv = .ok frame) :
    decryptData frame key = .ok data := by
  rw [encryptData] at h
  cases hencrypt : SendLibraries.aesGcmEncrypt key iv data with
  | error e =>
    rw [hencrypt] at h
    cases h
  | ok ct =>
    rw [hencrypt] at h
    obtain rfl := Except.ok.inj h
    obtain ⟨hversion, hiv, hct⟩ := blob_parts iv ct
    rw [decryptData, if_neg (length_blob hencrypt), hversion, hiv, hct]
    exact LawfulCipher.decrypt_encrypt hencrypt

/-- **The key is unlocked by its passphrase.** -/
theorem decryptKey_encryptKey [PassphraseLibraries] {keyBytes : FixedBytes 32}
    {passphrase : String} {salt : FixedBytes 16} {iv : FixedBytes 12} {enc saltBytes : List UInt8}
    (h : encryptKey keyBytes passphrase salt iv = .ok (enc, saltBytes)) :
    decryptKey enc saltBytes passphrase = .ok keyBytes := by
  rw [encryptKey] at h
  cases hderive : PassphraseLibraries.deriveKey passphrase salt.toList with
  | error e =>
    rw [hderive] at h
    cases h
  | ok cipherKey =>
    simp only [hderive] at h
    cases hencrypt : SendLibraries.aesGcmEncrypt cipherKey iv keyBytes.toList with
    | error e =>
      rw [hencrypt] at h
      cases h
    | ok ct =>
      rw [hencrypt] at h
      obtain ⟨rfl, rfl⟩ := Prod.mk.inj (Except.ok.inj h)
      obtain ⟨hversion, hiv, hct⟩ := blob_parts iv ct
      rw [decryptKey, if_neg (length_blob hencrypt), hversion, hiv, hct]
      simp only [hderive, LawfulCipher.decrypt_encrypt hencrypt, FixedBytes.ofList?_toList]

end Cipher

/-! ## What is stored -/

variable {access : StorageAccess} {storage : LocalStorage}

/-- A profile is written whole or not at all, and no other key of a session changes. -/
theorem writeProfile_apply (enc : List UInt8) :
    writeProfile access storage enc storageProfile =
        (if access.writesProfile then some (base64Encode enc) else storage storageProfile) ∧
      writeProfile access storage enc storageEnc = storage storageEnc ∧
      writeProfile access storage enc storageSalt = storage storageSalt := by
  have hremove : ∀ (s : LocalStorage) (key : String), key ≠ storageName →
      ((access.removeItem s storageName).getD s) key = s key := by
    intro s key hkey
    rw [StorageAccess.removeItem]
    split_ifs
    · exact Function.update_of_ne hkey _ _
    · rfl
  have hset : ∀ key, key ≠ storageProfile →
      ((access.setItem storage storageProfile (base64Encode enc)).getD storage) key =
        storage key := by
    intro key hkey
    rw [StorageAccess.setItem]
    split_ifs
    · exact Function.update_of_ne hkey _ _
    · rfl
  cases haccess : access.localStorage with
  | error e =>
    have hwrites : access.writesProfile = false := by
      rw [StorageAccess.writesProfile, haccess]
      rfl
    rw [writeProfile, haccess, hwrites]
    exact ⟨rfl, rfl, rfl⟩
  | ok =>
    have hwrites : access.writesProfile = access.accepts storageProfile := by
      rw [StorageAccess.writesProfile, haccess]
      rfl
    rw [writeProfile, haccess, hwrites]
    refine ⟨?_, ?_, ?_⟩
    · show ((access.removeItem _ storageName).getD _) storageProfile = _
      rw [hremove _ _ (by decide), StorageAccess.setItem]
      split_ifs
      · exact Function.update_self storageProfile _ storage
      · rfl
    · show ((access.removeItem _ storageName).getD _) storageEnc = _
      rw [hremove _ _ (by decide), hset _ (by decide)]
    · show ((access.removeItem _ storageName).getD _) storageSalt = _
      rw [hremove _ _ (by decide), hset _ (by decide)]

/-- A user who starts afresh has no identity, if the browser removes it. -/
theorem loadStored_forgetStored (haccess : access.localStorage = .ok ())
    (haccepts : ∀ key, access.accepts key = true) :
    loadStored access (forgetStored access storage) = none := by
  have hremove : ∀ (s : LocalStorage) key,
      (access.removeItem s key).getD s = Function.update s key none := by
    intro s key
    rw [StorageAccess.removeItem, if_pos (haccepts key), Option.getD_some]
  have henc : forgetStored access storage storageEnc = none := by
    rw [forgetStored, haccess]
    simp only [List.foldl_cons, List.foldl_nil, hremove]
    rw [Function.update_of_ne (by decide), Function.update_of_ne (by decide),
      Function.update_of_ne (by decide), Function.update_self]
  rw [loadStored, haccess]
  simp only [henc, Option.bind_none]

/-- An identity that loads is stored in base64. -/
theorem stored_of_loadStored {enc salt : List UInt8}
    (h : loadStored access storage = some (enc, salt)) :
    storage storageEnc = some (base64Encode enc) ∧
      storage storageSalt = some (base64Encode salt) := by
  cases haccess : access.localStorage with
  | error e =>
    rw [loadStored, haccess] at h
    cases h
  | ok => exact (loadStored_eq_some_iff haccess).mp h

/-- A profile that was encrypted and stored is loaded. -/
theorem loadProfile_eq [ChatLibraries] [SendLibraries] [LawfulCipher] [JsonReader]
    {keyBytes : FixedBytes 32} {task : SaveTask} {enc : List UInt8}
    (haccess : access.localStorage = .ok ()) (henc : task.encrypted keyBytes = .ok enc)
    (hstored : storage storageProfile = some (base64Encode enc)) :
    loadProfile access storage keyBytes = Profile.snapshot task.name task.rooms := by
  have hversion : (Profile.snapshot task.name task.rooms).version < 2 ^ 32 := by
    show 2 < 2 ^ 32
    decide
  have hdecode : (storage storageProfile).bind base64Decode = some enc := by
    rw [hstored]
    exact base64Decode_eq_some_iff.mpr rfl
  rw [loadProfile, haccess]
  simp only [hdecode, decryptData_encryptData henc,
    JsonReader.read_toBytes _ (Profile.plain_toJson hversion), Option.bind_some,
    Profile.ofJson_toJson hversion, Option.getD_some]

/-! ## Sessions -/

namespace ProfileStore

section Runs

variable [SendLibraries] {keyBytes : FixedBytes 32} {s t : ProfileStore} {op : ProfileOp}

/-- The identity is as it was, and the profile is that of the last call that has written. -/
structure Kept (keyBytes : FixedBytes 32) (storage : LocalStorage) (s : ProfileStore) : Prop where
  enc : s.storage storageEnc = storage storageEnc
  salt : s.storage storageSalt = storage storageSalt
  profile : ∀ task, s.written.getLast? = some task →
    ∃ enc, task.encrypted keyBytes = .ok enc ∧ s.storage storageProfile = some (base64Encode enc)
  first : s.written = [] → s.storage storageProfile = storage storageProfile

/-- The end of a call. -/
theorem step_finish {n : ℕ} (h : s.step keyBytes (.finish n access) = some t) :
    ∃ task, s.saving[n]? = some task ∧ t.saving = s.saving.eraseIdx n ∧
      ((∃ e, task.encrypted keyBytes = .error e) ∧ t.storage = s.storage ∧ t.written = s.written ∨
        ∃ enc, task.encrypted keyBytes = .ok enc ∧ t.storage = writeProfile access s.storage enc ∧
          t.written = if access.writesProfile then s.written ++ [task] else s.written) := by
  obtain ⟨task, htask, hstep⟩ := Option.map_eq_some_iff.mp h
  refine ⟨task, htask, ?_⟩
  cases henc : task.encrypted keyBytes with
  | error e =>
    simp only [henc] at hstep
    subst hstep
    exact ⟨rfl, Or.inl ⟨⟨e, rfl⟩, rfl, rfl⟩⟩
  | ok enc =>
    simp only [henc] at hstep
    subst hstep
    exact ⟨rfl, Or.inr ⟨enc, rfl, rfl, rfl⟩⟩

/-- Neither the identity nor the profile is written otherwise. -/
theorem step_write {key : String} {value : Option String}
    (h : s.step keyBytes (.write key value) = some t) :
    (storageEnc ≠ key ∧ storageSalt ≠ key ∧ storageProfile ≠ key) ∧
      t = { s with storage := Function.update s.storage key value } := by
  simp only [ProfileStore.step] at h
  split_ifs at h with hkey
  obtain rfl := Option.some.inj h
  push Not at hkey
  exact ⟨⟨hkey.1.symm, hkey.2.1.symm, hkey.2.2.symm⟩, rfl⟩

theorem Kept.step (hs : s.Kept keyBytes storage) (h : s.step keyBytes op = some t) :
    t.Kept keyBytes storage := by
  cases op with
  | save task =>
    obtain rfl := Option.some.inj h
    exact ⟨hs.enc, hs.salt, hs.profile, hs.first⟩
  | finish n access =>
    obtain ⟨task, -, -, ⟨-, hstorage, hwritten⟩ | ⟨enc, henc, hstorage, hwritten⟩⟩ := step_finish h
    · refine ⟨?_, ?_, ?_, ?_⟩
      · rw [hstorage, hs.enc]
      · rw [hstorage, hs.salt]
      · rw [hstorage, hwritten]
        exact hs.profile
      · rw [hstorage, hwritten]
        exact hs.first
    · obtain ⟨hprofile, hkeyEnc, hkeySalt⟩ := @writeProfile_apply access s.storage enc
      refine ⟨?_, ?_, ?_, ?_⟩
      · rw [hstorage, hkeyEnc, hs.enc]
      · rw [hstorage, hkeySalt, hs.salt]
      · intro task' hlast
        rw [hwritten] at hlast
        rw [hstorage, hprofile]
        split_ifs at hlast ⊢ with hwrites
        · rw [List.getLast?_concat] at hlast
          obtain rfl := Option.some.inj hlast
          exact ⟨enc, henc, rfl⟩
        · exact hs.profile task' hlast
      · intro hnil
        rw [hwritten] at hnil
        rw [hstorage, hprofile]
        split_ifs at hnil ⊢ with hwrites
        · exact absurd hnil (by simp)
        · exact hs.first hnil
  | write key value =>
    obtain ⟨hkey, rfl⟩ := step_write h
    refine ⟨?_, ?_, fun task hlast => ?_, fun hnil => ?_⟩
    · exact (Function.update_of_ne hkey.1 _ _).trans hs.enc
    · exact (Function.update_of_ne hkey.2.1 _ _).trans hs.salt
    · obtain ⟨enc, henc, hstored⟩ := hs.profile task hlast
      exact ⟨enc, henc, (Function.update_of_ne hkey.2.2 _ _).trans hstored⟩
    · exact (Function.update_of_ne hkey.2.2 _ _).trans (hs.first hnil)

/-- What waits to be written, or has been, did so before, unless it has just been asked for. -/
theorem mem_of_step (h : s.step keyBytes op = some t) {task : SaveTask}
    (hmem : task ∈ t.saving ∨ task ∈ t.written) :
    (task ∈ s.saving ∨ task ∈ s.written) ∨ op = .save task := by
  cases op with
  | save task' =>
    obtain rfl := Option.some.inj h
    rcases hmem with hmem | hmem
    · rcases List.mem_append.mp hmem with hmem | hmem
      · exact Or.inl (Or.inl hmem)
      · rw [List.mem_singleton.mp hmem]
        exact Or.inr rfl
    · exact Or.inl (Or.inr hmem)
  | finish n access =>
    obtain ⟨task', htask, hsaving, hcases⟩ := step_finish h
    rw [hsaving] at hmem
    rcases hmem with hmem | hmem
    · exact Or.inl (Or.inl (List.mem_of_mem_eraseIdx hmem))
    · rcases hcases with ⟨-, -, hwritten⟩ | ⟨-, -, -, hwritten⟩
      · rw [hwritten] at hmem
        exact Or.inl (Or.inr hmem)
      · rw [hwritten] at hmem
        split_ifs at hmem
        · rcases List.mem_append.mp hmem with hmem | hmem
          · exact Or.inl (Or.inr hmem)
          · rw [List.mem_singleton.mp hmem]
            exact Or.inl (Or.inl (List.mem_of_getElem? htask))
        · exact Or.inl (Or.inr hmem)
  | write key value =>
    obtain ⟨-, rfl⟩ := step_write h
    exact Or.inl hmem

end Runs

end ProfileStore

section SignOn

variable [JoinLibraries] [TopicText] [JsonReader] [PassphraseLibraries] [SendLibraries]

omit [JsonReader] [PassphraseLibraries] [SendLibraries] in
/-- The rooms that a profile restores. -/
theorem mem_restoredState {pending : Option String} {profile : Profile} {r : RoomState}
    (hr : r ∈ (restoredState access storage pending profile).rooms) :
    r.topicId = topicOf r.roomSecret ∧ r.messages = [] ∧ r.leftSigners = ∅ := by
  have hmem : r ∈ profile.intoRooms.2 := hr
  rw [Profile.intoRooms] at hmem
  split_ifs at hmem
  · exact absurd hmem List.not_mem_nil
  · obtain ⟨save, -, hroom⟩ := List.mem_filterMap.mp hmem
    obtain ⟨roomSecret, -, rfl⟩ := Option.map_eq_some_iff.mp hroom
    exact ⟨rfl, rfl, rfl⟩

/-- The state that comes back from a saved session. -/
def SaveTask.restored (task : SaveTask) (access : StorageAccess) (storage : LocalStorage) :
    AppState where
  rooms := task.rooms.map RoomState.restored
  activeTopic := task.rooms.head?.map RoomState.topicId
  name := if task.name = "" then storedName access storage else task.name
  joinError := none

omit [SendLibraries] [PassphraseLibraries] [JsonReader] in
/-- The state of a snapshot. -/
theorem restoredState_snapshot {task : SaveTask}
    (h : ∀ r ∈ task.rooms, r.topicId = topicOf r.roomSecret) :
    restoredState access storage none (.snapshot task.name task.rooms) =
      task.restored access storage := by
  rw [restoredState, Profile.intoRooms_snapshot h]
  have hhead : (task.rooms.map RoomState.restored).head?.map RoomState.topicId =
      task.rooms.head?.map RoomState.topicId := by
    rw [List.head?_map, Option.map_map]
    rfl
  simp only [SaveTask.restored, ← hhead]
  rfl

/-- **The passphrase unlocks what has been kept.**  The identity was encrypted under the passphrase
and stored, and is as it was; then the user signs on with its key, and with the profile that is
stored now. -/
theorem signOn_kept [LawfulCipher] {keyBytes : FixedBytes 32} {passphrase : String}
    {salt : FixedBytes 16} {iv : FixedBytes 12} {enc saltBytes : List UInt8} {s : ProfileStore}
    (hencrypt : encryptKey keyBytes passphrase salt iv = .ok (enc, saltBytes))
    (hidentity : storage storageEnc = some (base64Encode enc) ∧
      storage storageSalt = some (base64Encode saltBytes))
    (hkept : s.Kept keyBytes storage) (haccess : access.localStorage = .ok ()) :
    signOn access s.storage passphrase = some (.ok (keyBytes,
      restoredState access s.storage none (loadProfile access s.storage keyBytes))) := by
  have hloaded : loadStored access s.storage = some (enc, saltBytes) := by
    rw [loadStored_eq_some_iff haccess, hkept.enc, hkept.salt]
    exact hidentity
  rw [signOn, hloaded, Option.map_some]
  simp only [decryptKey_encryptKey hencrypt]

omit [TopicText] [PassphraseLibraries] in
/-- The profile that is loaded is that of the last call that has written; as long as none has, it is
the one that was there before. -/
theorem ProfileStore.Kept.loadProfile [LawfulCipher] {keyBytes : FixedBytes 32} {s : ProfileStore}
    (hkept : s.Kept keyBytes storage) (haccess : access.localStorage = .ok ()) :
    (∀ task, s.written.getLast? = some task →
      loadProfile access s.storage keyBytes = .snapshot task.name task.rooms) ∧
    (s.written = [] →
      loadProfile access s.storage keyBytes = loadProfile access storage keyBytes) := by
  refine ⟨fun task hlast => ?_, fun hnone => ?_⟩
  · obtain ⟨sealed, hsealed, hstored⟩ := hkept.profile task hlast
    exact loadProfile_eq haccess hsealed hstored
  · rw [IrohWebRtc.loadProfile, IrohWebRtc.loadProfile, hkept.first hnone]

end SignOn

/-! ## A cipher on known encryptions -/

namespace Sample

/-- An encryption that is known: the key, the initialisation vector, the data and the ciphertext. -/
abbrev Known := FixedBytes 32 × FixedBytes 12 × List UInt8 × List UInt8

/-- A cipher on known encryptions; to all other data it appends sixteen zeros. -/
def knownEncrypt (known : List Known) (key : FixedBytes 32) (iv : FixedBytes 12)
    (data : List UInt8) : Except String (List UInt8) :=
  match known.find? fun e => e.1 = key ∧ e.2.1 = iv ∧ e.2.2.1 = data with
  | some e => .ok e.2.2.2
  | none => .ok (data ++ List.replicate 16 0)

def knownDecrypt (known : List Known) (key : FixedBytes 32) (iv ct : List UInt8) :
    Except String (List UInt8) :=
  match known.find? fun e => e.1 = key ∧ e.2.1.toList = iv ∧ e.2.2.2 = ct with
  | some e => .ok e.2.2.1
  | none => .ok (ct.take (ct.length - 16))

/-- The ciphertexts have a tag, which does not end with a zero, and determine their data. -/
def KnownWell (known : List Known) : Prop :=
  ∀ e ∈ known, e.2.2.2.length = e.2.2.1.length + 16 ∧ e.2.2.2.getLast? ≠ some 0 ∧
    ∀ e' ∈ known, e'.1 = e.1 ∧ e'.2.1.toList = e.2.1.toList ∧ e'.2.2.2 = e.2.2.2 →
      e'.2.2.1 = e.2.2.1

instance (known : List Known) : Decidable (KnownWell known) :=
  inferInstanceAs (Decidable (∀ e ∈ known, _ ∧ _ ∧ ∀ e' ∈ known, _))

theorem length_knownEncrypt {known : List Known} (hwell : KnownWell known) {key : FixedBytes 32}
    {iv : FixedBytes 12} {data ct : List UInt8} (h : knownEncrypt known key iv data = .ok ct) :
    ct.length = data.length + 16 := by
  rw [knownEncrypt] at h
  split at h
  · rename_i e hfind
    obtain rfl := Except.ok.inj h
    have hentry : e.1 = key ∧ e.2.1 = iv ∧ e.2.2.1 = data := by
      simpa using List.find?_some hfind
    rw [← hentry.2.2]
    exact (hwell e (List.mem_of_find?_eq_some hfind)).1
  · obtain rfl := Except.ok.inj h
    rw [List.length_append, List.length_replicate]

theorem knownDecrypt_knownEncrypt {known : List Known} (hwell : KnownWell known)
    {key : FixedBytes 32} {iv : FixedBytes 12} {data ct : List UInt8}
    (h : knownEncrypt known key iv data = .ok ct) :
    knownDecrypt known key iv.toList ct = .ok data := by
  rw [knownEncrypt] at h
  rw [knownDecrypt]
  split at h
  · rename_i e hfind
    obtain rfl := Except.ok.inj h
    have hentry : e.1 = key ∧ e.2.1 = iv ∧ e.2.2.1 = data := by
      simpa using List.find?_some hfind
    obtain ⟨rfl, rfl, rfl⟩ := hentry
    have hmem := List.mem_of_find?_eq_some hfind
    split
    · rename_i e' hfind'
      have hsame : e'.1 = e.1 ∧ e'.2.1.toList = e.2.1.toList ∧ e'.2.2.2 = e.2.2.2 := by
        simpa using List.find?_some hfind'
      rw [(hwell e hmem).2.2 e' (List.mem_of_find?_eq_some hfind') hsame]
    · rename_i hnone
      exact absurd (List.find?_eq_none.mp hnone e hmem) (by simp)
  · obtain rfl := Except.ok.inj h
    split
    · rename_i e' hfind'
      -- no known ciphertext ends with a zero
      have hct : e'.2.2.2 = data ++ List.replicate 16 0 := by
        have hentry := List.find?_some hfind'
        simp only [decide_eq_true_eq] at hentry
        exact hentry.2.2
      refine absurd ?_ (hwell e' (List.mem_of_find?_eq_some hfind')).2.1
      rw [hct, List.getLast?_append, List.getLast?_replicate]
      rfl
    · rw [List.length_append, List.length_replicate, Nat.add_sub_cancel, List.take_left]

end Sample

end IrohWebRtc
