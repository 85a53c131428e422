import IrohWebRtc.Chat.BackupImport
import IrohWebRtc.Lib.Text

/-!
# Invite links

An invite carries a room over in the fragment of a link (`make_invite_url` and `parse_invite` of
`util.rs`):

`v2:<secret>.<endpoint>[.<name>]`

with the secret and the name in base64.

A user may paste the whole link or what follows the `#`, with blanks around it, and both are read.
The parts are separated by dots, which base64 in its URL-safe form does not contain, so a name may
contain anything; that the endpoint id contains no dot, no `#` and no blank is a hypothesis, and
true of both of its texts.  What comes after the name is ignored, which leaves room for later
versions.

* `parseInvite_of_fields`: what is read from a payload with these fields and any further ones.
* `parseInvite_makeInviteUrl`: an invite is read back, from the link or from its payload, and what
  a later version appends to it is ignored.
-/

namespace IrohWebRtc

open Bytes Text Utf8

/-- `decode_topic_b64`. -/
def decodeTopicB64 (s : String) : Option (FixedBytes 32) :=
  (base64Decode s).bind (FixedBytes.ofList? 32)

/-- The name among the parts after the host. -/
def proposedName (parts : List (List Char)) : Option String :=
  ((parts.head?.bind fun n => base64Decode (String.ofList n)).bind fromUtf8).filter fun s => s ≠ ""

/-- `parse_invite`: the secret of the room, its host and the proposed name. -/
def parseInvite (invite : String) : Option (FixedBytes 32 × String × Option String) :=
  let payload := trim isWhitespace (afterFirst '#' invite.toList)
  (payload.dropPrefix? "v2:".toList).bind fun payload =>
    match payload.splitOn '.' with
    | secretB64 :: host :: parts =>
      let host := trim isWhitespace host
      if host = [] then none
      else
        let name := proposedName parts
        (decodeTopicB64 (String.ofList secretB64)).map fun secret =>
          (secret, String.ofList host, name)
    | _ => none

/-- `window().location()`: each part may fail to be read. -/
structure Location where
  origin : Option String
  pathname : Option String
  deriving DecidableEq

/-- The name of a room after a dot, unless it is empty. -/
def namePart (roomName : String) : String :=
  if roomName = "" then "" else "." ++ base64Encode (utf8Bytes roomName)

/-- `make_invite_url`. -/
def makeInviteUrl (location : Option Location) (roomSecret : FixedBytes 32)
    (endpointId roomName : String) : Option String :=
  location.bind fun loc =>
    loc.origin.bind fun origin =>
      loc.pathname.map fun path =>
        origin ++ path ++ "#v2:" ++ base64Encode roomSecret.toList ++ "." ++ endpointId ++
          namePart roomName

/-- The fragment of an invite link. -/
def invitePayload (roomSecret : FixedBytes 32) (endpointId roomName : String) : String :=
  "v2:" ++ base64Encode roomSecret.toList ++ "." ++ endpointId ++ namePart roomName

/-- Each segment after a dot. -/
def dotted (segments : List String) : String := String.join (segments.map ("." ++ ·))

theorem makeInviteUrl_eq (origin path : String) (roomSecret : FixedBytes 32)
    (endpointId roomName : String) :
    makeInviteUrl (some ⟨some origin, some path⟩) roomSecret endpointId roomName =
      some (origin ++ path ++ "#" ++ invitePayload roomSecret endpointId roomName) := by
  have hmark : "#v2:" = "#" ++ "v2:" := rfl
  rw [makeInviteUrl, invitePayload, hmark]
  simp only [Option.bind_some, Option.map_some, String.append_assoc]

/-! ## Fields -/

theorem decodeTopicB64_eq_some_iff {s : String} {secret : FixedBytes 32} :
    decodeTopicB64 s = some secret ↔ s = base64Encode secret.toList := by
  rw [decodeTopicB64, Option.bind_eq_some_iff]
  constructor
  · rintro ⟨bs, hdecode, hsecret⟩
    rw [base64Decode_eq_some_iff.mp hdecode, FixedBytes.ofList?_eq_some.mp hsecret]
  · intro hs
    exact ⟨secret.toList, base64Decode_eq_some_iff.mpr hs, FixedBytes.ofList?_toList secret⟩

/-- Characters that separate and end no field, checked one after the other. -/
theorem clean_of_all {cs : List Char}
    (h : (cs.all fun c => c ≠ '.' ∧ c ≠ '#' ∧ isWhitespace c = false) = true) :
    ∀ c ∈ cs, c ≠ '.' ∧ c ≠ '#' ∧ isWhitespace c = false := by
  intro c hc
  exact of_decide_eq_true (List.all_eq_true.mp h c hc)

/-- The symbols of base64 separate and end no field. -/
theorem base64Encode_clean {bs : List UInt8} {c : Char} (hc : c ∈ (base64Encode bs).toList) :
    c ≠ '.' ∧ c ≠ '#' ∧ isWhitespace c = false := by
  rw [base64Encode, String.toList_ofList] at hc
  exact clean_of_all (by decide +kernel) c (Base64.mem_of_mem_encode (by decide) hc)

theorem proposedName_cons {roomName : String} (hname : roomName ≠ "") (parts : List (List Char)) :
    proposedName ((base64Encode (utf8Bytes roomName)).toList :: parts) = some roomName := by
  rw [proposedName, List.head?_cons, Option.bind_some, String.ofList_toList,
    base64Decode_eq_some_iff.mpr rfl, Option.bind_some, fromUtf8_eq_some.mpr rfl]
  simpa using hname

/-- **What is read from the fields of a payload.**  Only the first of the further parts counts. -/
theorem parseInvite_of_fields {invite endpointId : String} {secret : FixedBytes 32}
    {payload : List Char} {parts : List (List Char)} (hendpoint : endpointId ≠ "")
    (hclean : ∀ c ∈ endpointId.toList, isWhitespace c = false)
    (hpayload : trim isWhitespace (afterFirst '#' invite.toList) = "v2:".toList ++ payload)
    (hfields : payload.splitOn '.' =
      (base64Encode secret.toList).toList :: endpointId.toList :: parts) :
    parseInvite invite = some (secret, endpointId, proposedName parts) := by
  have hhost : endpointId.toList ≠ [] := by simpa using hendpoint
  rw [parseInvite]
  simp only [hpayload, List.dropPrefix?_append_of_beq payload (BEq.rfl), Option.bind_some, hfields,
    trim_eq_self hclean, if_neg hhost, String.ofList_toList, decodeTopicB64_eq_some_iff.mpr rfl,
    Option.map_some]

/-! ## Fragments -/

theorem afterFirst_link {origin path : String} (horigin : '#' ∉ origin.toList)
    (hpath : '#' ∉ path.toList) (payload more : String) :
    afterFirst '#' (origin ++ path ++ "#" ++ payload ++ more).toList =
      payload.toList ++ more.toList := by
  have hpage : '#' ∉ (origin ++ path).toList := by
    rw [String.toList_append, List.mem_append, not_or]
    exact ⟨horigin, hpath⟩
  have hsplit : (origin ++ path ++ "#" ++ payload ++ more).toList =
      (origin ++ path).toList ++ '#' :: (payload.toList ++ more.toList) := by
    simp only [String.toList_append, List.append_assoc]
    rfl
  rw [hsplit, afterFirst_append hpage]

theorem afterFirst_fragment {payload more : String} (hpayload : '#' ∉ payload.toList)
    (hmore : '#' ∉ more.toList) :
    afterFirst '#' (payload ++ more).toList = payload.toList ++ more.toList := by
  have hnone : '#' ∉ (payload ++ more).toList := by
    rw [String.toList_append, List.mem_append, not_or]
    exact ⟨hpayload, hmore⟩
  rw [afterFirst_of_notMem hnone, String.toList_append]

/-! ## Payloads -/

section

variable {roomSecret : FixedBytes 32} {endpointId roomName : String}

/-- What may follow a payload: nothing, or more after a dot where there is a name. -/
def Continues (roomName : String) (rest : List Char) : Prop :=
  rest = [] ∨ roomName ≠ "" ∧ ∃ more, rest = '.' :: more

theorem Continues.rdropWhile {rest : List Char} (hrest : Continues roomName rest) :
    Continues roomName (rest.rdropWhile isWhitespace) := by
  rcases hrest with rfl | ⟨hname, more, rfl⟩
  · exact Or.inl (List.rdropWhile_nil _)
  · refine Or.inr ⟨hname, more.rdropWhile isWhitespace, ?_⟩
    exact rdropWhile_append (u := ['.']) (List.forall_mem_singleton.mpr rfl)

theorem continues_dotted (hname : roomName ≠ "") (segments : List String) :
    Continues roomName (dotted segments).toList := by
  cases segments with
  | nil => exact Or.inl rfl
  | cons segment segments =>
    refine Or.inr ⟨hname, segment.toList ++ (dotted segments).toList, ?_⟩
    simp [dotted]

theorem hash_notMem_dotted {segments : List String}
    (hsegments : ∀ segment ∈ segments, '#' ∉ segment.toList) :
    '#' ∉ (dotted segments).toList := by
  rw [dotted, String.toList_join, List.mem_flatMap]
  rintro ⟨text, htext, hmem⟩
  obtain ⟨segment, hsegment, rfl⟩ := List.mem_map.mp htext
  rw [String.toList_append, List.mem_append] at hmem
  rcases hmem with hdot | hmem
  · exact absurd hdot (by decide)
  · exact hsegments segment hsegment hmem

theorem toList_namePart (hname : roomName ≠ "") :
    (namePart roomName).toList = '.' :: (base64Encode (utf8Bytes roomName)).toList := by
  rw [namePart, if_neg hname, String.toList_append]
  rfl

theorem toList_invitePayload :
    (invitePayload roomSecret endpointId roomName).toList =
      "v2:".toList ++ ((base64Encode roomSecret.toList).toList ++
        '.' :: (endpointId.toList ++ (namePart roomName).toList)) := by
  simp [invitePayload]

/-- The symbols of a payload neither start a fragment nor are trimmed. -/
theorem invitePayload_clean
    (hclean : ∀ c ∈ endpointId.toList, c ≠ '.' ∧ c ≠ '#' ∧ isWhitespace c = false) :
    ∀ c ∈ (invitePayload roomSecret endpointId roomName).toList,
      c ≠ '#' ∧ isWhitespace c = false := by
  intro c hc
  rw [toList_invitePayload] at hc
  simp only [List.mem_append, List.mem_cons] at hc
  rcases hc with hc | hc | rfl | hc | hc
  · exact (clean_of_all (by decide) c hc).2
  · exact (base64Encode_clean hc).2
  · decide
  · exact (hclean c hc).2
  · by_cases hname : roomName = ""
    · rw [namePart, if_pos hname] at hc
      exact absurd hc List.not_mem_nil
    · rw [toList_namePart hname, List.mem_cons] at hc
      rcases hc with rfl | hc
      · decide
      · exact (base64Encode_clean hc).2

/-- The fields of a payload, whatever follows it. -/
theorem exists_splitOn_payload (roomSecret : FixedBytes 32) {rest : List Char}
    (hclean : ∀ c ∈ endpointId.toList, c ≠ '.' ∧ c ≠ '#' ∧ isWhitespace c = false)
    (hrest : Continues roomName rest) :
    ∃ parts, proposedName parts = (if roomName = "" then none else some roomName) ∧
      ((base64Encode roomSecret.toList).toList ++
          '.' :: (endpointId.toList ++ ((namePart roomName).toList ++ rest))).splitOn '.' =
        (base64Encode roomSecret.toList).toList :: endpointId.toList :: parts := by
  have hdot : ∀ bs, '.' ∉ (base64Encode bs).toList := fun bs hmem => (base64Encode_clean hmem).1 rfl
  have hendpoint : '.' ∉ endpointId.toList := fun hmem => (hclean _ hmem).1 rfl
  rw [List.splitOn_append_cons_self_of_not_mem (hdot _)]
  by_cases hname : roomName = ""
  · obtain rfl : rest = [] := by
      rcases hrest with hrest | ⟨hne, -⟩
      · exact hrest
      · exact absurd hname hne
    refine ⟨[], by rw [if_pos hname]; rfl, ?_⟩
    rw [namePart, if_pos hname]
    show _ :: (endpointId.toList ++ []).splitOn '.' = _
    rw [List.append_nil, List.splitOn_eq_singleton hendpoint]
  · rw [toList_namePart hname, if_neg hname, List.cons_append,
      List.splitOn_append_cons_self_of_not_mem hendpoint]
    rcases hrest with rfl | ⟨-, more, rfl⟩
    · refine ⟨[(base64Encode (utf8Bytes roomName)).toList], proposedName_cons hname [], ?_⟩
      rw [List.append_nil, List.splitOn_eq_singleton (hdot _)]
    · refine ⟨_ :: more.splitOn '.', proposedName_cons hname _, ?_⟩
      rw [List.splitOn_append_cons_self_of_not_mem (hdot _)]

/-- A text whose fragment is a payload, and what may follow it, is read back. -/
theorem parseInvite_of_afterFirst {invite : String} {rest : List Char}
    (hendpoint : endpointId ≠ "")
    (hclean : ∀ c ∈ endpointId.toList, c ≠ '.' ∧ c ≠ '#' ∧ isWhitespace c = false)
    (hrest : Continues roomName rest)
    (hinvite : afterFirst '#' invite.toList =
      (invitePayload roomSecret endpointId roomName).toList ++ rest) :
    parseInvite invite =
      some (roomSecret, endpointId, if roomName = "" then none else some roomName) := by
  have hne : (invitePayload roomSecret endpointId roomName).toList ≠ [] := by
    rw [toList_invitePayload]
    exact List.append_ne_nil_of_left_ne_nil (by decide) _
  have htrim : trim isWhitespace (afterFirst '#' invite.toList) =
      (invitePayload roomSecret endpointId roomName).toList ++ rest.rdropWhile isWhitespace := by
    rw [hinvite, trim_append hne fun c hc => (invitePayload_clean hclean c hc).2]
  obtain ⟨parts, hname, hfields⟩ :=
    exists_splitOn_payload roomSecret hclean hrest.rdropWhile
  rw [← hname]
  refine parseInvite_of_fields hendpoint (fun c hc => (hclean c hc).2.2) ?_ hfields
  rw [htrim, toList_invitePayload]
  simp only [List.append_assoc, List.cons_append]

end

/-- **An invite is read back.**  The link that `make_invite_url` builds and its fragment are read as
the secret, the endpoint and the name, if there is one; segments appended after a name are
ignored. -/
theorem parseInvite_makeInviteUrl (roomSecret : FixedBytes 32) (roomName : String)
    {endpointId origin path : String} (hendpoint : endpointId ≠ "")
    (hclean : ∀ c ∈ endpointId.toList, c ≠ '.' ∧ c ≠ '#' ∧ isWhitespace c = false)
    (horigin : '#' ∉ origin.toList) (hpath : '#' ∉ path.toList) :
    ∃ payload,
      makeInviteUrl (some ⟨some origin, some path⟩) roomSecret endpointId roomName =
        some (origin ++ path ++ "#" ++ payload) ∧
      '#' ∉ payload.toList ∧
      ∀ invite ∈ [origin ++ path ++ "#" ++ payload, payload],
        parseInvite invite =
            some (roomSecret, endpointId, if roomName = "" then none else some roomName) ∧
          ∀ segments : List String, roomName ≠ "" →
            (∀ segment ∈ segments, '#' ∉ segment.toList) →
              parseInvite (invite ++ dotted segments) = parseInvite invite := by
  have hfragment : '#' ∉ (invitePayload roomSecret endpointId roomName).toList :=
    fun hmem => (invitePayload_clean hclean _ hmem).1 rfl
  have hafter : ∀ invite ∈ [origin ++ path ++ "#" ++ invitePayload roomSecret endpointId roomName,
      invitePayload roomSecret endpointId roomName], ∀ more : String, '#' ∉ more.toList →
      afterFirst '#' (invite ++ more).toList =
        (invitePayload roomSecret endpointId roomName).toList ++ more.toList := by
    intro invite hinvite more hmore
    simp only [List.mem_cons, List.not_mem_nil, or_false] at hinvite
    rcases hinvite with rfl | rfl
    · exact afterFirst_link horigin hpath _ more
    · exact afterFirst_fragment hfragment hmore
  refine ⟨_, makeInviteUrl_eq origin path roomSecret endpointId roomName, hfragment, ?_⟩
  intro invite hinvite
  have hread : parseInvite invite =
      some (roomSecret, endpointId, if roomName = "" then none else some roomName) := by
    have hempty := hafter invite hinvite "" List.not_mem_nil
    rw [String.append_empty] at hempty
    exact parseInvite_of_afterFirst hendpoint hclean (Or.inl rfl) hempty
  refine ⟨hread, fun segments hname hsegments => ?_⟩
  rw [hread]
  exact parseInvite_of_afterFirst hendpoint hclean (continues_dotted hname segments)
    (hafter invite hinvite _ (hash_notMem_dotted hsegments))

theorem parseInvite_makeInviteUrl_sample :
    ∃ payload,
      makeInviteUrl (some ⟨some "https://chat.example", some "/rooms/"⟩) (.replicate 32 7) "a1b2"
          "Été" =
        some ("https://chat.example" ++ "/rooms/" ++ "#" ++ payload) ∧
      '#' ∉ payload.toList ∧
      ∀ invite ∈ ["https://chat.example" ++ "/rooms/" ++ "#" ++ payload, payload],
        parseInvite invite =
            some (.replicate 32 7, "a1b2", if "Été" = "" then none else some "Été") ∧
          ∀ segments : List String, "Été" ≠ "" →
            (∀ segment ∈ segments, '#' ∉ segment.toList) →
              parseInvite (invite ++ dotted segments) = parseInvite invite :=
  parseInvite_makeInviteUrl _ _ (by decide) (clean_of_all (by decide)) (by decide) (by decide)

end IrohWebRtc
