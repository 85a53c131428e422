import IrohWebRtc.Core.SignalCodec
import IrohWebRtc.Lib.Base64
import Mathlib.Logic.Function.Basic

/-!
# Importing a backup

The identity that the chat room keeps in `localStorage` (`storage.rs`): `persist` and
`load_stored`, and `export_backup` and `import_backup`, which carry it from one browser to
another.  An import writes three keys one after the other, and each write may fail; whether the
texts are base64 is only asked when they are loaded.

An import can go wrong in two ways.  It may stop half way, and leave an identity in the storage
that is put together from two; the old one is gone then, and the new one cannot be unlocked.  And
it may go through with texts that nothing can be loaded from.  Which of the two happens depends on
the storage and on the file, so the condition is one on both.

The reader of JSON may represent numbers that are no naturals as it likes; no field accepts them.

* `loadStored_persist`: what was stored is loaded.
* `import_promise_iff`: when an import does all or nothing, and what it does can be loaded.
* `Importable.of_export`: the backups that this code exports can be imported, if no write fails.
* `half_import`: a write that fails leaves the new identity with the salt of the old one, and an
  identity that cannot be loaded is imported.
-/

namespace IrohWebRtc

open Bytes Utf8

/-! ## `localStorage` -/

def storageEnc : String := "iroh.id.enc"

def storageSalt : String := "iroh.id.salt"

def storageProfile : String := "iroh.profile"

/-- The value of each key. -/
abbrev LocalStorage := String → Option String

/-- What the browser lets a caller do. -/
structure StorageAccess where
  /-- `local_storage`. -/
  localStorage : Except String Unit
  /-- The next write of a key succeeds. -/
  accepts : String → Bool

namespace StorageAccess

def setItem (access : StorageAccess) (storage : LocalStorage) (key value : String) :
    Option LocalStorage :=
  if access.accepts key then some (Function.update storage key (some value)) else none

def removeItem (access : StorageAccess) (storage : LocalStorage) (key : String) :
    Option LocalStorage :=
  if access.accepts key then some (Function.update storage key none) else none

end StorageAccess

/-! ## The stored identity -/

/-- `BASE64.decode`. -/
def base64Decode (s : String) : Option (List UInt8) := Base64.decode Base64.urlSafe s.toList

/-- `BASE64.encode`. -/
def base64Encode (bs : List UInt8) : String := String.ofList (Base64.encode Base64.urlSafe bs)

def loadStored (access : StorageAccess) (storage : LocalStorage) :
    Option (List UInt8 × List UInt8) :=
  match access.localStorage with
  | .error _ => none
  | .ok () =>
    ((storage storageEnc).bind base64Decode).bind fun enc =>
      ((storage storageSalt).bind base64Decode).map fun salt => (enc, salt)

def persist (access : StorageAccess) (storage : LocalStorage) (enc salt : List UInt8) :
    Except String Unit × LocalStorage :=
  match access.localStorage with
  | .error e => (.error e, storage)
  | .ok () =>
    match access.setItem storage storageEnc (base64Encode enc) with
    | none => (.error "write failed", storage)
    | some storage =>
      match access.setItem storage storageSalt (base64Encode salt) with
      | none => (.error "write failed", storage)
      | some storage => (.ok (), storage)

/-! ## Backups -/

structure Backup where
  format : String
  version : ℕ
  idEnc : String
  idSalt : String
  profile : Option String
  deriving DecidableEq

def backupVersionDefault : ℕ := 1

def backupFormatTag : String := "iroh-messenger-backup"

namespace Backup

/-- A field of type `Option`, with `#[serde(default)]`. -/
def optionalText : Json → Option (Option String)
  | .null => some none
  | v => (JsonField.text v).map some

/-- The fields by their positions, each with its default. -/
def ofItems (item : ℕ → Option Json) : Option Backup :=
  ((item 0).elim (some "") JsonField.text).bind fun format =>
    ((item 1).elim (some backupVersionDefault) (JsonField.number (2 ^ 32))).bind fun version =>
      ((item 2).elim (some "") JsonField.text).bind fun idEnc =>
        ((item 3).elim (some "") JsonField.text).bind fun idSalt =>
          ((item 4).elim (some none) optionalText).map fun profile =>
            ⟨format, version, idEnc, idSalt, profile⟩

/-- The fields, in their order. -/
def fieldNames : List String := ["format", "version", "id_enc", "id_salt", "profile"]

/-- `Deserialize`: an object, or an array of the fields in their order. -/
def ofJson : Json → Option Backup
  | .obj fields =>
    (fieldNames.mapM (JsonField.lookup fields)).bind fun found =>
      ofItems fun n => found[n]?.join
  | .arr items => if items.length ≤ fieldNames.length then ofItems fun n => items[n]? else none
  | _ => none

end Backup

/-- A reader of JSON, with the texts of its errors. -/
class BackupReader extends JsonReader where
  /-- The error for a text that is no backup. -/
  errorText : String → String

/-- `export_backup`, before the backup is printed. -/
def exportBackup (access : StorageAccess) (storage : LocalStorage) : Option Backup :=
  match access.localStorage with
  | .error _ => none
  | .ok () =>
    (storage storageEnc).bind fun idEnc =>
      (storage storageSalt).map fun idSalt =>
        ⟨backupFormatTag, 1, idEnc, idSalt, storage storageProfile⟩

namespace Backup

/-- The error that a backup is refused with before anything is written. -/
def refusal (backup : Backup) : Option String :=
  if backup.format ≠ backupFormatTag then some "not a recognized backup file"
  else if 1 < backup.version then
    some ("unsupported backup version " ++ toString backup.version)
  else if backup.idEnc = "" ∨ backup.idSalt = "" then some "backup is missing identity data"
  else none

/-- The writes of an import. -/
def write (access : StorageAccess) (storage : LocalStorage) (backup : Backup) :
    Except String Unit × LocalStorage :=
  match access.setItem storage storageEnc backup.idEnc with
  | none => (.error "write failed", storage)
  | some storage =>
    match access.setItem storage storageSalt backup.idSalt with
    | none => (.error "write failed", storage)
    | some storage =>
      match backup.profile with
      | some profile =>
        match access.setItem storage storageProfile profile with
        | none => (.error "write failed", storage)
        | some storage => (.ok (), storage)
      | none => (.ok (), (access.removeItem storage storageProfile).getD storage)

variable [BackupReader]

/-- `serde_json::from_str`. -/
def fromStr (json : String) : Option Backup := (JsonReader.read (utf8Bytes json)).bind ofJson

end Backup

section Reader

variable [BackupReader]

def importBackup (access : StorageAccess) (storage : LocalStorage) (json : String) :
    Except String Unit × LocalStorage :=
  match Backup.fromStr json with
  | none => (.error ("invalid backup: " ++ BackupReader.errorText json), storage)
  | some backup =>
    match backup.refusal with
    | some e => (.error e, storage)
    | none =>
      match access.localStorage with
      | .error _ => (.error "localStorage unavailable", storage)
      | .ok () => backup.write access storage

/-! ## What an import promises -/

/-- An import that fails changes nothing, and what one that succeeds has written can be loaded. -/
structure ImportPromise (access : StorageAccess) (storage : LocalStorage) (json : String) :
    Prop where
  unchanged : ∀ e after, importBackup access storage json = (.error e, after) → after = storage
  effective : ∀ after, importBackup access storage json = (.ok (), after) →
    ∃ backup enc salt, Backup.fromStr json = some backup ∧ backup.idEnc = base64Encode enc ∧
      backup.idSalt = base64Encode salt ∧ loadStored access after = some (enc, salt)

end Reader

/-- No write fails after one that has changed something, and what they write can be loaded. -/
structure Importable (access : StorageAccess) (storage : LocalStorage) (backup : Backup) : Prop where
  salt : access.accepts storageSalt = false → storage storageEnc = some backup.idEnc
  profile : access.accepts storageSalt = true → backup.profile.isSome = true →
    access.accepts storageProfile = false →
    storage storageEnc = some backup.idEnc ∧ storage storageSalt = some backup.idSalt
  decodes : access.accepts storageSalt = true →
    (backup.profile.isSome = true → access.accepts storageProfile = true) →
    (base64Decode backup.idEnc).isSome = true ∧ (base64Decode backup.idSalt).isSome = true

/-! ## Storing and loading -/

theorem base64Decode_eq_some_iff {s : String} {bs : List UInt8} :
    base64Decode s = some bs ↔ s = base64Encode bs := by
  rw [base64Decode, Base64.decode_eq_some_iff (by decide) Base64.value_symbol_urlSafe, base64Encode,
    ← String.toList_inj, String.toList_ofList, eq_comm]

theorem base64Decode_isSome_iff {s : String} :
    (base64Decode s).isSome = true ↔ ∃ bs, s = base64Encode bs := by
  rw [Option.isSome_iff_exists]
  exact exists_congr fun bs => base64Decode_eq_some_iff

variable {access : StorageAccess} {storage after : LocalStorage}

/-- An identity is loaded from the base64 of its two parts. -/
theorem loadStored_eq_some_iff (haccess : access.localStorage = .ok ()) {enc salt : List UInt8} :
    loadStored access storage = some (enc, salt) ↔
      storage storageEnc = some (base64Encode enc) ∧
        storage storageSalt = some (base64Encode salt) := by
  have hitem : ∀ (item : Option String) (bs : List UInt8),
      item.bind base64Decode = some bs ↔ item = some (base64Encode bs) := by
    intro item bs
    rw [Option.bind_eq_some_iff]
    constructor
    · rintro ⟨s, hs, hdecode⟩
      rw [hs, base64Decode_eq_some_iff.mp hdecode]
    · intro hs
      exact ⟨_, hs, base64Decode_eq_some_iff.mpr rfl⟩
  rw [loadStored, haccess]
  show ((storage storageEnc).bind base64Decode).bind _ = _ ↔ _
  rw [Option.bind_eq_some_iff]
  constructor
  · rintro ⟨enc', henc, h⟩
    obtain ⟨salt', hsalt, heq⟩ := Option.map_eq_some_iff.mp h
    obtain ⟨rfl, rfl⟩ := Prod.mk.inj heq
    exact ⟨(hitem _ _).mp henc, (hitem _ _).mp hsalt⟩
  · rintro ⟨henc, hsalt⟩
    exact ⟨enc, (hitem _ _).mpr henc, Option.map_eq_some_iff.mpr ⟨salt, (hitem _ _).mpr hsalt, rfl⟩⟩

/-- A write that succeeds changes one key. -/
theorem setItem_eq_some {key value : String} (h : access.setItem storage key value = some after) :
    access.accepts key = true ∧ after = Function.update storage key (some value) := by
  rw [StorageAccess.setItem] at h
  split_ifs at h with haccepts
  exact ⟨haccepts, (Option.some.inj h).symm⟩

theorem setItem_eq_none {key value : String} :
    access.setItem storage key value = none ↔ access.accepts key = false := by
  rw [StorageAccess.setItem]
  split_ifs with haccepts
  · simp [haccepts]
  · simpa using haccepts

/-- **What was stored is loaded.** -/
theorem loadStored_persist {enc salt : List UInt8}
    (h : persist access storage enc salt = (.ok (), after)) :
    loadStored access after = some (enc, salt) := by
  rw [persist] at h
  cases haccess : access.localStorage with
  | error e =>
    rw [haccess] at h
    cases h
  | ok =>
    rw [haccess] at h
    cases henc : access.setItem storage storageEnc (base64Encode enc) with
    | none =>
      rw [henc] at h
      cases h
    | some first =>
      rw [henc] at h
      cases hsalt : access.setItem first storageSalt (base64Encode salt) with
      | none =>
        simp only [hsalt] at h
        cases h
      | some second =>
        simp only [hsalt] at h
        obtain ⟨-, rfl⟩ := Prod.mk.inj h
        obtain ⟨-, rfl⟩ := setItem_eq_some henc
        obtain ⟨-, rfl⟩ := setItem_eq_some hsalt
        refine (loadStored_eq_some_iff haccess).mpr ⟨?_, Function.update_self ..⟩
        rw [Function.update_of_ne (by decide), Function.update_self]

/-! ## The writes of an import -/

variable {backup : Backup}

/-- The identity has been written. -/
def withIdentity (storage : LocalStorage) (backup : Backup) : LocalStorage :=
  Function.update (Function.update storage storageEnc (some backup.idEnc)) storageSalt
    (some backup.idSalt)

theorem withIdentity_apply : withIdentity storage backup storageEnc = some backup.idEnc ∧
    withIdentity storage backup storageSalt = some backup.idSalt := by
  rw [withIdentity, Function.update_of_ne (by decide), Function.update_self, Function.update_self]
  exact ⟨rfl, rfl⟩

theorem withIdentity_eq_self_iff :
    withIdentity storage backup = storage ↔
      storage storageEnc = some backup.idEnc ∧ storage storageSalt = some backup.idSalt := by
  constructor
  · intro h
    rw [← h]
    exact withIdentity_apply
  · rintro ⟨henc, hsalt⟩
    rw [withIdentity, ← henc, Function.update_eq_self, ← hsalt, Function.update_eq_self]

/-- What follows when the identity has been written. -/
theorem write_of_identity (henc : access.accepts storageEnc = true)
    (hsalt : access.accepts storageSalt = true) :
    backup.write access storage =
      match backup.profile with
      | some profile =>
        match access.setItem (withIdentity storage backup) storageProfile profile with
        | none => (.error "write failed", withIdentity storage backup)
        | some storage => (.ok (), storage)
      | none =>
        (.ok (), (access.removeItem (withIdentity storage backup) storageProfile).getD
          (withIdentity storage backup)) := by
  rw [Backup.write, StorageAccess.setItem, if_pos henc]
  simp only [StorageAccess.setItem, if_pos hsalt]
  rfl

/-- Where an import stops. -/
theorem write_eq_error_iff {e : String} :
    backup.write access storage = (.error e, after) ↔ e = "write failed" ∧
      (access.accepts storageEnc = false ∧ after = storage ∨
        access.accepts storageEnc = true ∧ access.accepts storageSalt = false ∧
          after = Function.update storage storageEnc (some backup.idEnc) ∨
        access.accepts storageEnc = true ∧ access.accepts storageSalt = true ∧
          backup.profile.isSome = true ∧ access.accepts storageProfile = false ∧
          after = withIdentity storage backup) := by
  have hpair : ∀ s : LocalStorage,
      ((Except.error "write failed", s) : Except String Unit × LocalStorage) = (.error e, after) ↔
        e = "write failed" ∧ after = s := by
    intro s
    rw [Prod.mk.injEq, Except.error.injEq, eq_comm, eq_comm (a := s)]
  cases henc : access.accepts storageEnc with
  | false =>
    rw [Backup.write, setItem_eq_none.mpr henc]
    simpa using hpair storage
  | true =>
    cases hsalt : access.accepts storageSalt with
    | false =>
      rw [Backup.write]
      simpa [StorageAccess.setItem, henc, hsalt] using hpair _
    | true =>
      rw [write_of_identity henc hsalt]
      cases backup.profile with
      | none => simp
      | some profile =>
        cases haccepts : access.accepts storageProfile with
        | false =>
          simp only [setItem_eq_none.mpr haccepts]
          simpa using hpair (withIdentity storage backup)
        | true => simp [StorageAccess.setItem, haccepts]

/-- An import that goes through has written the identity. -/
theorem write_eq_ok (h : backup.write access storage = (.ok (), after)) :
    (access.accepts storageEnc = true ∧ access.accepts storageSalt = true ∧
      (backup.profile.isSome = true → access.accepts storageProfile = true)) ∧
      after storageEnc = some backup.idEnc ∧ after storageSalt = some backup.idSalt := by
  have hfails : ∀ e after, backup.write access storage ≠ (.error e, after) := by
    intro e after' herror
    cases h.symm.trans herror
  have henc : access.accepts storageEnc = true := by
    by_contra henc
    exact hfails _ _ (write_eq_error_iff.mpr ⟨rfl, Or.inl ⟨by simpa using henc, rfl⟩⟩)
  have hsalt : access.accepts storageSalt = true := by
    by_contra hsalt
    refine hfails _ _ (write_eq_error_iff.mpr ⟨rfl, Or.inr (Or.inl ⟨henc, ?_, rfl⟩)⟩)
    simpa using hsalt
  have hprofile : backup.profile.isSome = true → access.accepts storageProfile = true := by
    intro hsome
    by_contra hprofile
    refine hfails _ _ (write_eq_error_iff.mpr
      ⟨rfl, Or.inr (Or.inr ⟨henc, hsalt, hsome, ?_, rfl⟩)⟩)
    simpa using hprofile
  -- the write of the profile leaves the identity alone
  have hupdate : ∀ value,
      Function.update (withIdentity storage backup) storageProfile value storageEnc =
        some backup.idEnc ∧
      Function.update (withIdentity storage backup) storageProfile value storageSalt =
        some backup.idSalt := by
    intro value
    rw [Function.update_of_ne (by decide), Function.update_of_ne (by decide)]
    exact withIdentity_apply
  refine ⟨⟨henc, hsalt, hprofile⟩, ?_⟩
  rw [write_of_identity henc hsalt] at h
  cases hbackup : backup.profile with
  | none =>
    rw [hbackup] at h
    obtain ⟨-, rfl⟩ := Prod.mk.inj h
    rw [StorageAccess.removeItem]
    split_ifs
    · exact hupdate none
    · exact withIdentity_apply
  | some profile =>
    rw [hbackup] at h
    have haccepts := hprofile (by rw [hbackup]; rfl)
    simp only [StorageAccess.setItem, if_pos haccepts] at h
    obtain ⟨-, rfl⟩ := Prod.mk.inj h
    exact hupdate (some profile)

/-- An import in which no write fails goes through. -/
theorem exists_write_eq_ok (henc : access.accepts storageEnc = true)
    (hsalt : access.accepts storageSalt = true)
    (hprofile : backup.profile.isSome = true → access.accepts storageProfile = true) :
    ∃ after, backup.write access storage = (.ok (), after) := by
  cases hwrite : backup.write access storage with
  | mk result after =>
    cases result with
    | ok => exact ⟨after, rfl⟩
    | error e =>
      rcases (write_eq_error_iff.mp hwrite).2 with ⟨h, -⟩ | ⟨-, h, -⟩ | ⟨-, -, hsome, h, -⟩
      · exact absurd (henc.symm.trans h) (by decide)
      · exact absurd (hsalt.symm.trans h) (by decide)
      · exact absurd ((hprofile hsome).symm.trans h) (by decide)

/-! ## All or nothing -/

/-- The writes of an import keep the promise when no later write fails after a change, and what they
leave can be loaded. -/
theorem write_promise_iff (haccess : access.localStorage = .ok ())
    (henc : access.accepts storageEnc = true) :
    ((∀ e after, backup.write access storage = (.error e, after) → after = storage) ∧
      (∀ after, backup.write access storage = (.ok (), after) →
        ∃ enc salt, backup.idEnc = base64Encode enc ∧ backup.idSalt = base64Encode salt ∧
          loadStored access after = some (enc, salt))) ↔
      Importable access storage backup := by
  constructor
  · rintro ⟨hunchanged, heffective⟩
    refine ⟨fun hsalt => ?_, fun hsalt hsome hprofile => ?_, fun hsalt hprofile => ?_⟩
    · have hsame := hunchanged _ _ (write_eq_error_iff.mpr
        ⟨rfl, Or.inr (Or.inl ⟨henc, hsalt, rfl⟩)⟩)
      exact (Function.update_eq_self_iff.mp hsame).symm
    · exact withIdentity_eq_self_iff.mp (hunchanged _ _ (write_eq_error_iff.mpr
        ⟨rfl, Or.inr (Or.inr ⟨henc, hsalt, hsome, hprofile, rfl⟩)⟩))
    · obtain ⟨after, hwrite⟩ : ∃ after, backup.write access storage = (.ok (), after) :=
        exists_write_eq_ok henc hsalt hprofile
      obtain ⟨enc, salt, hidEnc, hidSalt, -⟩ := heffective after hwrite
      exact ⟨base64Decode_isSome_iff.mpr ⟨enc, hidEnc⟩, base64Decode_isSome_iff.mpr ⟨salt, hidSalt⟩⟩
  · intro h
    refine ⟨fun e after herror => ?_, fun after hok => ?_⟩
    · rcases (write_eq_error_iff.mp herror).2 with
        ⟨-, hafter⟩ | ⟨-, hsalt, rfl⟩ | ⟨-, hsalt, hsome, hprofile, rfl⟩
      · exact hafter
      · exact Function.update_eq_self_iff.mpr (h.salt hsalt).symm
      · exact withIdentity_eq_self_iff.mpr (h.profile hsalt hsome hprofile)
    · obtain ⟨⟨-, hsalt, hprofile⟩, hafterEnc, hafterSalt⟩ := write_eq_ok hok
      obtain ⟨hdecodeEnc, hdecodeSalt⟩ := h.decodes hsalt hprofile
      obtain ⟨enc, hidEnc⟩ := base64Decode_isSome_iff.mp hdecodeEnc
      obtain ⟨salt, hidSalt⟩ := base64Decode_isSome_iff.mp hdecodeSalt
      refine ⟨enc, salt, hidEnc, hidSalt, (loadStored_eq_some_iff haccess).mpr ⟨?_, ?_⟩⟩
      · rw [hafterEnc, hidEnc]
      · rw [hafterSalt, hidSalt]

/-- The backups that are exported from a storage with an identity that loads can be imported, if no
write fails. -/
theorem Importable.of_export {source : StorageAccess} {stored : LocalStorage}
    {identity : List UInt8 × List UInt8} (hload : loadStored source stored = some identity)
    (hexport : exportBackup source stored = some backup)
    (haccepts : ∀ key, access.accepts key = true) : Importable access storage backup := by
  refine ⟨fun h => absurd ((haccepts _).symm.trans h) (by decide),
    fun _ _ h => absurd ((haccepts _).symm.trans h) (by decide), fun _ _ => ?_⟩
  rw [exportBackup] at hexport
  cases haccess : source.localStorage with
  | error e =>
    rw [haccess] at hexport
    cases hexport
  | ok =>
    rw [haccess] at hexport
    obtain ⟨henc, hsalt⟩ := (loadStored_eq_some_iff haccess).mp hload
    rw [henc, hsalt] at hexport
    obtain rfl := Option.some.inj hexport
    exact ⟨base64Decode_isSome_iff.mpr ⟨_, rfl⟩, base64Decode_isSome_iff.mpr ⟨_, rfl⟩⟩

section Import

variable [BackupReader] {json : String}

/-- An import is refused with nothing written, or writes the backup that it has read. -/
theorem importBackup_cases (access : StorageAccess) (storage : LocalStorage) (json : String) :
    (∃ e, importBackup access storage json = (.error e, storage)) ∧
        (∀ backup, Backup.fromStr json = some backup → backup.refusal = none →
          access.localStorage ≠ .ok ()) ∨
      ∃ backup, Backup.fromStr json = some backup ∧ backup.refusal = none ∧
        access.localStorage = .ok () ∧
        importBackup access storage json = backup.write access storage := by
  rw [importBackup]
  cases hread : Backup.fromStr json with
  | none => exact Or.inl ⟨⟨_, rfl⟩, fun _ h => by cases h⟩
  | some backup =>
    cases hrefusal : backup.refusal with
    | some e =>
      refine Or.inl ⟨⟨e, by simp only [hrefusal]⟩, fun backup' h hnone => ?_⟩
      obtain rfl := Option.some.inj h
      cases hrefusal.symm.trans hnone
    | none =>
      cases haccess : access.localStorage with
      | error e =>
        refine Or.inl ⟨⟨_, by simp only [hrefusal]; rfl⟩, fun _ _ _ h => by cases h⟩
      | ok => exact Or.inr ⟨backup, rfl, hrefusal, rfl, by simp only [hrefusal]⟩

/-- **When an import does all or nothing**: exactly if, once a backup is accepted and the first of
its writes has succeeded, it is importable. -/
theorem import_promise_iff (access : StorageAccess) (storage : LocalStorage) (json : String) :
    ImportPromise access storage json ↔
      ∀ backup, Backup.fromStr json = some backup → backup.refusal = none →
        access.localStorage = .ok () → access.accepts storageEnc = true →
        Importable access storage backup := by
  rcases importBackup_cases access storage json with
    ⟨⟨e, hrefused⟩, hnot⟩ | ⟨backup, hread, hrefusal, haccess, hwrite⟩
  · refine iff_of_true ⟨fun e' after h => ?_, fun after h => ?_⟩
      fun backup hread hrefusal haccess => absurd haccess (hnot backup hread hrefusal)
    · exact (Prod.mk.inj (hrefused.symm.trans h)).2.symm
    · cases hrefused.symm.trans h
  · have hpromise : ImportPromise access storage json ↔
        (∀ e after, backup.write access storage = (.error e, after) → after = storage) ∧
          (∀ after, backup.write access storage = (.ok (), after) →
            ∃ enc salt, backup.idEnc = base64Encode enc ∧ backup.idSalt = base64Encode salt ∧
              loadStored access after = some (enc, salt)) := by
      rw [← hwrite]
      constructor
      · intro h
        refine ⟨h.unchanged, fun after hok => ?_⟩
        obtain ⟨backup', enc, salt, hread', hloads⟩ := h.effective after hok
        obtain rfl := Option.some.inj (hread.symm.trans hread')
        exact ⟨enc, salt, hloads⟩
      · rintro ⟨hunchanged, heffective⟩
        refine ⟨hunchanged, fun after hok => ?_⟩
        obtain ⟨enc, salt, hloads⟩ := heffective after hok
        exact ⟨backup, enc, salt, hread, hloads⟩
    rw [hpromise]
    constructor
    · intro h backup' hread' _ _ henc
      obtain rfl := Option.some.inj (hread.symm.trans hread')
      exact (write_promise_iff haccess henc).mp h
    · intro h
      by_cases henc : access.accepts storageEnc = true
      · exact (write_promise_iff haccess henc).mpr (h backup hread hrefusal haccess henc)
      · -- the first write fails
        have hfails : ∀ result after, backup.write access storage = (result, after) →
            result = .error "write failed" ∧ after = storage := by
          intro result after h
          rw [Backup.write, setItem_eq_none.mpr (by simpa using henc)] at h
          obtain ⟨rfl, rfl⟩ := Prod.mk.inj h
          exact ⟨rfl, rfl⟩
        refine ⟨fun e after h => (hfails _ _ h).2, fun after h => ?_⟩
        cases (hfails _ _ h).1

end Import

section Sample

open scoped Json

/-- The parser of compact texts. -/
local instance : BackupReader where
  errorText _ := "expected value at line 1 column 1"

/-- A backup without profile, with an identity of three bytes and a salt of three bytes. -/
def Sample.backupJson (idEnc : String) : String :=
  "\x7b\"format\":\"iroh-messenger-backup\",\"version\":1,\"id_enc\":\"" ++ idEnc ++
    "\",\"id_salt\":\"AwQF\"\x7d"

/-- A browser with an identity of its own. -/
def Sample.storedIdentity : LocalStorage :=
  Function.update (Function.update (fun _ => none) storageEnc (some "BgcI")) storageSalt
    (some "CQoL")

open Sample

/-- When the second write fails, the new identity is left with the salt of the old one; and a
backup whose identity is no base64 is imported, and cannot be loaded. -/
theorem half_import :
    (∃ after, importBackup ⟨.ok (), fun key => key ≠ storageSalt⟩ storedIdentity
        (backupJson "AAEC") = (.error "write failed", after) ∧ after ≠ storedIdentity ∧
      loadStored ⟨.ok (), fun _ => true⟩ after = some ([0, 1, 2], [9, 10, 11])) ∧
    ∃ after, importBackup ⟨.ok (), fun _ => true⟩ storedIdentity (backupJson "!") =
        (.ok (), after) ∧
      loadStored ⟨.ok (), fun _ => true⟩ after = none := by
  have hread : Backup.fromStr (backupJson "AAEC") =
      some ⟨backupFormatTag, 1, "AAEC", "AwQF", none⟩ := by
    decide +kernel
  have hread' : Backup.fromStr (backupJson "!") =
      some ⟨backupFormatTag, 1, "!", "AwQF", none⟩ := by
    decide +kernel
  constructor
  · refine ⟨Function.update storedIdentity storageEnc (some "AAEC"), ?_, ?_, ?_⟩
    · rw [importBackup, hread]
      rfl
    · exact Function.update_ne_self_iff.mpr (by decide)
    · decide +kernel
  · refine ⟨Function.update (withIdentity storedIdentity ⟨backupFormatTag, 1, "!", "AwQF", none⟩)
      storageProfile none, ?_, ?_⟩
    · rw [importBackup, hread']
      rfl
    · decide +kernel

end Sample

end IrohWebRtc
