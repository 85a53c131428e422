import IrohWebRtc.Core.Signaling

/-!
# Types of the browser runtime

`browser_runtime/error.rs`, `types/` and `protocol/keys.rs`: the error type of the browser
runtime, the keys under which it keeps sessions, connections and accept registrations, and the
states a session goes through.

The key of a session is a text, the dial id in hexadecimal.  Two dial ids have two keys, which is
what allows a signal to be looked up by the dial id that it carries.  The other keys are counters.

An ALPN that the source prints into an error is in the text of the error here (`debugText`), with
the escapes that `Debug` writes.  Of the other values that are printed, which are endpoint ids,
paths and the errors of other crates, only the text in front of them is kept.
-/

namespace IrohWebRtc

inductive BrowserRuntimeErrorCode where
  | spawnFailed
  | unsupportedBrowser
  | invalidStunUrl
  | invalidRemote
  | unsupportedAlpn
  | webRtcFailed
  | dataChannelFailed
  | bootstrapFailed
  | closed
  deriving DecidableEq, Repr

structure BrowserRuntimeError where
  code : BrowserRuntimeErrorCode
  message : String
  deriving DecidableEq, Repr

def BrowserRuntimeError.closed : BrowserRuntimeError :=
  ⟨.closed, "browser runtime node is closed"⟩

abbrev BrowserRuntimeResult (α : Type*) := Except BrowserRuntimeError α

/-- A character in what `debugText` prints. -/
def escapeDebug (c : Char) : List Char :=
  if c = '"' then ['\\', '"']
  else if c = '\\' then ['\\', '\\']
  else if c = '\n' then ['\\', 'n']
  else if c = '\r' then ['\\', 'r']
  else if c = '\t' then ['\\', 't']
  else if c.toNat = 0 then ['\\', '0']
  else if c.toNat < 0x20 ∨ c.toNat = 0x7f then
    ['\\', 'u', '\x7b'] ++ Nat.toDigits 16 c.toNat ++ ['\x7d']
  else [c]

/-- `{:?}` of a string.  Beyond ASCII a character is printed as it is, which is what happens to all
that the tables of the standard library call printable. -/
def debugText (s : String) : String :=
  String.ofList ('"' :: (s.toList.flatMap escapeDebug ++ ['"']))

/-- `validate_alpn`. -/
def validateAlpn (alpn : String) : BrowserRuntimeResult String :=
  if alpn.isEmpty then .error ⟨.unsupportedAlpn, "ALPN must not be empty"⟩ else .ok alpn

/-! ## Keys -/

/-- The key of a session is the dial id in hexadecimal. -/
structure BrowserSessionKey where
  value : String
  deriving DecidableEq, Repr

/-- `{byte:02x}`. -/
def hexByte (byte : UInt8) : List Char :=
  [Nat.digitChar (byte.toNat / 16), Nat.digitChar (byte.toNat % 16)]

namespace BrowserSessionKey

/-- `impl From<DialId> for BrowserSessionKey`. -/
def ofDialId (dialId : DialId) : BrowserSessionKey :=
  ⟨String.ofList (dialId.toList.flatMap hexByte)⟩

theorem digitChar_injOn {m n : ℕ} (hm : m < 16) (hn : n < 16)
    (h : Nat.digitChar m = Nat.digitChar n) : m = n := by
  have hall : ∀ a b : Fin 16, Nat.digitChar a = Nat.digitChar b → a = b := by decide
  exact congrArg Fin.val (hall ⟨m, hm⟩ ⟨n, hn⟩ h)

theorem hexByte_injective : Function.Injective hexByte := by
  intro a b h
  have ha := a.toNat_lt
  have hb := b.toNat_lt
  rw [hexByte, hexByte] at h
  have hhigh := digitChar_injOn (by omega) (by omega) (List.cons.inj h).1
  have hlow := digitChar_injOn (Nat.mod_lt _ (by omega)) (Nat.mod_lt _ (by omega))
    (List.cons.inj (List.cons.inj h).2).1
  exact UInt8.toNat_inj.mp (by omega)

theorem flatMap_hexByte_injective : Function.Injective (List.flatMap hexByte) := by
  intro as
  induction as with
  | nil =>
    intro bs h
    cases bs with
    | nil => rfl
    | cons b bs => simp [hexByte] at h
  | cons a as ih =>
    intro bs h
    cases bs with
    | nil => simp [hexByte] at h
    | cons b bs =>
      rw [List.flatMap_cons, List.flatMap_cons] at h
      obtain ⟨hbyte, hrest⟩ := List.append_inj h rfl
      rw [hexByte_injective hbyte, ih hrest]

/-- Sessions with distinct dial ids have distinct keys. -/
theorem ofDialId_injective : Function.Injective ofDialId := by
  intro a b h
  have hlist := String.ofList_injective (congrArg value h)
  exact Bytes.FixedBytes.toList_injective (flatMap_hexByte_injective hlist)

end BrowserSessionKey

structure BrowserConnectionKey where
  value : ℕ
  deriving DecidableEq, Repr

structure BrowserAcceptId where
  value : ℕ
  deriving DecidableEq, Repr

/-! ## Session states -/

inductive BrowserResolvedTransport where
  | webRtc
  | irohRelay
  deriving DecidableEq, Repr

inductive BrowserSessionRole where
  | dialer
  | acceptor
  deriving DecidableEq, Repr

inductive DataChannelAttachmentState where
  | notRequired
  | awaitingTransfer
  | transferred
  | open
  | failed
  | closed
  deriving DecidableEq, Repr

inductive BrowserSessionLifecycle where
  | allocated
  | webRtcNegotiating
  | relaySelected
  | applicationReady
  | failed
  | closed
  deriving DecidableEq, Repr

end IrohWebRtc
